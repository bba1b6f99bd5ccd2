import Mathlib.Algebra.Group.Nat.Defs
import Mathlib.Data.List.Basic

set_option autoImplicit false

namespace Transition

variable {σ κ ρ : Type}

-- A step answers none when its call cannot proceed in the current state, so a
-- run is a list of calls every one of which went through.
def execute (step : σ → κ → Option (σ × ρ)) : σ → List κ → Option (σ × List ρ)
  | state, [] => some (state, [])
  | state, call :: rest =>
    match step state call with
    | none => none
    | some (next, reply) => (execute step next rest).map (fun result => (result.1, reply :: result.2))

def Along (step : σ → κ → Option (σ × ρ)) (allowed : σ → κ → Prop) : σ → List κ → Prop
  | _, [] => True
  | state, call :: rest =>
    allowed state call ∧ match step state call with
      | none => True
      | some (next, _) => Along step allowed next rest

instance decideAlong (step : σ → κ → Option (σ × ρ)) (allowed : σ → κ → Prop)
    [∀ state call, Decidable (allowed state call)] : ∀ calls state, Decidable (Along step allowed state calls)
  | [], _ => isTrue trivial
  | call :: rest, state =>
    match transition : step state call with
    | none => decidable_of_iff (allowed state call) (by simp [Along, transition])
    | some (next, reply) =>
      have := decideAlong step allowed rest next
      decidable_of_iff (allowed state call ∧ Along step allowed next rest) (by simp [Along, transition])

def measure (step : σ → κ → Option (σ × ρ)) (weigh : σ → κ → ρ → Nat) : σ → List κ → Nat
  | _, [] => 0
  | state, call :: rest =>
    match step state call with
    | none => 0
    | some (next, reply) => weigh state call reply + measure step weigh next rest

def tally {M : Type} [AddCommMonoid M] (step : σ → κ → Option (σ × ρ)) (weigh : σ → κ → ρ → σ → M) : σ → List κ → M
  | _, [] => 0
  | state, call :: rest =>
    match step state call with
    | none => 0
    | some (next, reply) => weigh state call reply next + tally step weigh next rest

section Runs

variable {step : σ → κ → Option (σ × ρ)}
variable {st final middle left right left' right' : σ} {outs : List ρ} {first second cs : List κ} {α β : Type} {out : Option (α × β)}
variable {allowed : σ → κ → Prop}

theorem execute_cons {call : κ} {rest : List κ} (run : execute step st (call :: rest) = some (final, outs)) :
    ∃ next rep tail, step st call = some (next, rep) ∧ execute step next rest = some (final, tail) ∧ outs = rep :: tail := by
  cases ran : step st call with
  | none => simp [execute, ran] at run
  | some pair =>
    obtain ⟨next, rep⟩ := pair
    simp only [execute, ran, Option.map_eq_some_iff, Prod.mk.injEq] at run
    obtain ⟨⟨_, tail⟩, remaining, rfl, rfl⟩ := run
    exact ⟨next, rep, tail, rfl, remaining, rfl⟩

theorem execute_append {more : List ρ} (left : execute step st first = some (middle, outs))
    (right : execute step middle second = some (final, more)) : execute step st (first ++ second) = some (final, outs ++ more) := by
  induction first generalizing st outs with
  | nil =>
    cases left
    exact right
  | cons _ _ ih =>
    obtain ⟨_, _, _, ran, remaining, rfl⟩ := execute_cons left
    simp [execute, ran, ih remaining]

theorem execute_split (run : execute step st (first ++ second) = some (final, outs)) :
    ∃ middle pre after, execute step st first = some (middle, pre) ∧ execute step middle second = some (final, after) ∧
      outs = pre ++ after := by
  induction first generalizing st outs with
  | nil => exact ⟨st, [], outs, rfl, run, rfl⟩
  | cons _ _ ih =>
    obtain ⟨_, rep, _, ran, remaining, rfl⟩ := execute_cons run
    obtain ⟨middle, pre, after, left, right, rfl⟩ := ih remaining
    exact ⟨middle, rep :: pre, after, by simp [execute, ran, left], right, rfl⟩

theorem execute_length (run : execute step st cs = some (final, outs)) : cs.length = outs.length := by
  induction cs generalizing st outs with
  | nil =>
    simp only [execute, Option.some.injEq, Prod.mk.injEq] at run
    simp [← run.2]
  | cons _ _ ih =>
    obtain ⟨_, _, _, _, remaining, rfl⟩ := execute_cons run
    simp [ih remaining]

theorem measure_append {weigh : σ → κ → ρ → Nat} {more : List κ} (run : execute step st cs = some (middle, outs)) :
    measure step weigh st (cs ++ more) = measure step weigh st cs + measure step weigh middle more := by
  induction cs generalizing st outs with
  | nil =>
    simp only [execute, Option.some.injEq, Prod.mk.injEq] at run
    simp [measure, run.1]
  | cons _ _ ih =>
    obtain ⟨next, rep, tail, ran, remaining, _⟩ := execute_cons run
    simp only [List.cons_append, measure, ran, ih remaining]
    omega

theorem outcome_get (through : out.isSome = true) : out = some ((out.get through).1, (out.get through).2) :=
  (Option.some_get through).symm

theorem outcome_reply {rep : β} (through : out.isSome = true) (same : (out.get through).2 = rep) : out = some ((out.get through).1, rep) := by
  rw [← same]
  exact outcome_get through

theorem execute_get (through : (execute step st cs).isSome = true) :
    execute step st cs = some (((execute step st cs).get through).1, ((execute step st cs).get through).2) :=
  outcome_get through

theorem along_cons {call : κ} {rest : List κ} : Along step allowed st (call :: rest) ↔
    allowed st call ∧ ∀ next rep, step st call = some (next, rep) → Along step allowed next rest := by
  cases ran : step st call with
  | none => simp [Along, ran]
  | some pair =>
    obtain ⟨_, _⟩ := pair
    simp [Along, ran]

-- The induction every safety result rests on: what holds at the start and is
-- kept by each allowed step holds wherever an allowed run arrives.
theorem run_tallied {M : Type} [AddCommMonoid M] (weigh : σ → κ → ρ → σ → M) (inv : M → σ → Prop)
    (kept : ∀ w st call next rep, inv w st → allowed st call → step st call = some (next, rep) → inv (w + weigh st call rep next) next) {w : M}
    (start : inv w st) (along : Along step allowed st cs) (run : execute step st cs = some (final, outs)) :
    inv (w + tally step weigh st cs) final := by
  induction cs generalizing st w outs with
  | nil =>
    simp only [execute, Option.some.injEq, Prod.mk.injEq] at run
    simpa [tally] using run.1 ▸ start
  | cons call rest ih =>
    obtain ⟨next, rep, _, ran, remaining, _⟩ := execute_cons run
    obtain ⟨may, rests⟩ := along_cons.mp along
    have did := ih (kept w st call next rep start may ran) (rests next rep ran) remaining
    simpa [tally, ran, add_assoc] using did

theorem run_invariant (inv : σ → Prop) (kept : ∀ st call next rep, inv st → allowed st call →
      step st call = some (next, rep) → inv next) (start : inv st) (along : Along step allowed st cs)
    (run : execute step st cs = some (final, outs)) : inv final :=
  run_tallied (w := 0) (fun _ _ _ _ => (0 : Nat)) (fun _ => inv) (fun _ => kept) start along run

theorem measure_tally (weigh : σ → κ → ρ → Nat) : measure step weigh st cs = tally step (fun st call rep _ => weigh st call rep) st cs := by
  induction cs generalizing st with
  | nil => rfl
  | cons call _ ih => cases ran : step st call <;> simp [measure, tally, ran, ih]

theorem run_measured (weigh : σ → κ → ρ → Nat) (inv : Nat → σ → Prop) (kept : ∀ w st call next rep, inv w st → allowed st call →
      step st call = some (next, rep) → inv (w + weigh st call rep) next) {w : Nat} (start : inv w st) (along : Along step allowed st cs)
    (run : execute step st cs = some (final, outs)) : inv (w + measure step weigh st cs) final := by
  rw [measure_tally]
  exact run_tallied _ inv kept start along run

theorem run_traced {origin : σ} (inv : List κ → List ρ → σ → Prop)
    (kept : ∀ past told st call next rep, execute step origin past = some (st, told) → inv past told st →
      allowed st call → step st call = some (next, rep) → inv (past ++ [call]) (told ++ [rep]) next) (start : inv [] [] origin)
    (along : Along step allowed origin cs) (run : execute step origin cs = some (final, outs)) : inv cs outs final := by
  suffices onward : ∀ past told st rest later, execute step origin past = some (st, told) → inv past told st →
      Along step allowed st rest → execute step st rest = some (final, later) → inv (past ++ rest) (told ++ later) final from
    onward [] [] origin cs outs rfl start along run
  intro past told st rest later got holds may remaining
  induction rest generalizing past told st later with
  | nil =>
    cases remaining
    simpa using holds
  | cons call rest ih =>
    obtain ⟨next, rep, tail, ran, following, rfl⟩ := execute_cons remaining
    obtain ⟨here, rests⟩ := along_cons.mp may
    have single : execute step st [call] = some (next, [rep]) := by simp [execute, ran]
    have did := ih (past ++ [call]) (told ++ [rep]) next tail (execute_append got single)
      (kept past told st call next rep got holds here ran) (rests next rep ran) following
    simpa using did

theorem along_of_forall (always : ∀ st, ∀ call ∈ cs, allowed st call) (st : σ) : Along step allowed st cs := by
  induction cs generalizing st with
  | nil => trivial
  | cons call _ ih =>
    exact along_cons.mpr ⟨always st call (by simp), fun next _ _ => ih (fun st alt mem => always st alt (by simp [mem])) next⟩

theorem along_always : Along step (fun _ _ => True) st cs := along_of_forall (fun _ _ _ => trivial) st

theorem along_and {first second : σ → κ → Prop} (one : Along step first st cs)
    (two : Along step second st cs) : Along step (fun st call => first st call ∧ second st call) st cs := by
  induction cs generalizing st with
  | nil => trivial
  | cons _ _ ih =>
    obtain ⟨here, oneLater⟩ := along_cons.mp one
    obtain ⟨also, twoLater⟩ := along_cons.mp two
    exact along_cons.mpr ⟨⟨here, also⟩, fun next rep ran => ih (oneLater next rep ran) (twoLater next rep ran)⟩

theorem along_mono {first second : σ → κ → Prop} (weaker : ∀ st call, first st call → second st call)
    (along : Along step first st cs) : Along step second st cs := by
  induction cs generalizing st with
  | nil => trivial
  | cons call _ ih =>
    obtain ⟨here, later⟩ := along_cons.mp along
    exact along_cons.mpr ⟨weaker st call here, fun next rep ran => ih (later next rep ran)⟩

theorem along_left (along : Along step allowed st (first ++ second)) : Along step allowed st first := by
  induction first generalizing st with
  | nil => trivial
  | cons _ _ ih =>
    obtain ⟨here, later⟩ := along_cons.mp along
    exact along_cons.mpr ⟨here, fun next rep ran => ih (later next rep ran)⟩

-- A machine above another one. Each of its steps leaves the lower one alone or
-- takes the step of it that the reply names, so a run goes through below as well.
theorem run_refines {τ κ' ρ' : Type} {lower : τ → κ' → Option (τ × ρ')} (project : σ → τ) (seen : ρ → Option (κ' × ρ'))
    (stutters : ∀ st call next rep, step st call = some (next, rep) → seen rep = none → project next = project st)
    (follows : ∀ st call next rep below ans, step st call = some (next, rep) → seen rep = some (below, ans) →
      lower (project st) below = some (project next, ans)) (run : execute step st cs = some (final, outs)) :
    execute lower (project st) (outs.filterMap (fun rep => (seen rep).map Prod.fst)) =
      some (project final, outs.filterMap (fun rep => (seen rep).map Prod.snd)) := by
  induction cs generalizing st outs with
  | nil =>
    cases run
    rfl
  | cons call _ ih =>
    obtain ⟨next, rep, _, ran, remaining, rfl⟩ := execute_cons run
    have later := ih remaining
    cases made : seen rep with
    | none =>
      rw [stutters st call next rep ran made] at later
      simpa [made] using later
    | some pair =>
      have below := follows st call next rep pair.1 pair.2 ran made
      simp [made, execute, below, later]

-- Two executions of one list of calls whose replies agree. Each step keeps the
-- relation and matches the replies.
theorem run_paired {leftAllowed rightAllowed : σ → κ → Prop} (agree matched : ρ → ρ → Prop) (related : σ → σ → Prop)
    (kept : ∀ left right call left' right' one two, related left right → leftAllowed left call → rightAllowed right call → agree one two →
      step left call = some (left', one) → step right call = some (right', two) → related left' right' ∧ matched one two)
        {ones twos : List ρ} (start : related left right)
    (leftAlong : Along step leftAllowed left cs) (rightAlong : Along step rightAllowed right cs)
    (leftRun : execute step left cs = some (left', ones)) (rightRun : execute step right cs = some (right', twos))
    (agrees : List.Forall₂ agree ones twos) : related left' right' ∧ List.Forall₂ matched ones twos := by
  induction cs generalizing left right ones twos with
  | nil =>
    obtain ⟨rfl, rfl⟩ := leftRun
    obtain ⟨rfl, rfl⟩ := rightRun
    exact ⟨start, .nil⟩
  | cons _ rest ih =>
    obtain ⟨_, _, _, lstep, leftRest, rfl⟩ := execute_cons leftRun
    obtain ⟨_, _, _, rstep, rightRest, rfl⟩ := execute_cons rightRun
    obtain ⟨here, later⟩ := List.forall₂_cons.mp agrees
    obtain ⟨leftMay, leftRests⟩ := along_cons.mp leftAlong
    obtain ⟨rightMay, rightRests⟩ := along_cons.mp rightAlong
    obtain ⟨paired, same⟩ := kept _ _ _ _ _ _ _ start leftMay rightMay here lstep rstep
    obtain ⟨final, others⟩ := ih paired (leftRests _ _ lstep) (rightRests _ _ rstep) leftRest rightRest later
    exact ⟨final, .cons same others⟩

end Runs

section Parts

-- What a step of a whole does to a part of it that may be absent: nothing, or
-- one step of the part's own.
inductive Within (step : σ → κ → Option (σ × ρ)) (made : κ → Prop) (pre : Option σ) : Option σ → Prop where
  | idle : Within step made pre pre
  | acted (part call next rep) (has : pre = some part) (why : made call) (ran : step part call = some (next, rep)) :
      Within step made pre (some next)

theorem within_kept {step : σ → κ → Option (σ × ρ)} {made : κ → Prop} {pre after : Option σ} {property : σ → Prop}
    (kept : ∀ {part call next rep}, pre = some part → property part → made call → step part call = some (next, rep) → property next)
    (acts : Within step made pre after) (ok : ∀ part, pre = some part → property part) : ∀ part, after = some part → property part := by
  cases acts with
  | idle => exact ok
  | acted part _ _ _ has why ran =>
    rintro _ ⟨⟩
    exact kept has (ok part has) why ran

end Parts

end Transition
