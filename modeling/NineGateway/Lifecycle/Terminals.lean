import NineGateway.Lifecycle.Rollback

set_option autoImplicit false

namespace NineGateway.Lifecycle

open Resource (LeaseSystem ResourceLease Lease Slot Admission AdmissionError Phase)
open Token (TokenSystem)
open Budget (BudgetSystem)
open Transition Lifecycle.System

def settlesTokens (owner : Nat) (system : System) (call : Call) (_ : Reply) : Nat := if settledTokens system call = some owner then 1 else 0

def settlesBudget (owner : Nat) (system : System) (call : Call) (_ : Reply) : Nat := if settledBudget system call = some owner then 1 else 0

def firstTerminal (owner : Nat) (calls : List Call) : Option LeaseOutcome :=
  calls.findSome? (fun call =>
    match call with
    | .terminate index outcome => if index = owner then some outcome else none
    | _ => none)

def LeaseState.outcome : LeaseState → Option LeaseOutcome
  | .open => none
  | .finalizing outcome _ => some outcome
  | .finalized outcome _ => some outcome

def Progress.tokenErr : Progress → Option (Option Token.TokenError)
  | .settlingTokens => none
  | .settlingBudget tokenErr _ => some tokenErr
  | .releasingSlot result => some result.tokenErr
  | .returningSlot result => some result.tokenErr
  | .publishing result => some result.tokenErr

def Progress.budgetErr : Progress → Option (Option Budget.BudgetError)
  | .settlingTokens => none
  | .settlingBudget _ _ => none
  | .releasingSlot result => some result.budgetErr
  | .returningSlot result => some result.budgetErr
  | .publishing result => some result.budgetErr

def LeaseState.tokenErr : LeaseState → Option (Option Token.TokenError)
  | .open => none
  | .finalizing _ progress => progress.tokenErr
  | .finalized _ result => some result.tokenErr

def LeaseState.budgetErr : LeaseState → Option (Option Budget.BudgetError)
  | .open => none
  | .finalizing _ progress => progress.budgetErr
  | .finalized _ result => some result.budgetErr

def tokenVerdict (tokens : Option TokenSystem) : Option Nat → Option Token.TokenError
  | none => none
  | some index => (tokens.bind (fun system => system.reservations[index]?)).bind Token.TokenReservation.finalErr

def budgetVerdict (budgets : Option BudgetSystem) : Option Nat → Option Budget.BudgetError
  | none => none
  | some index => (budgets.bind (fun system => system.reservations[index]?)).bind Budget.BudgetReservation.finalErr

namespace Custody

structure Returns (slot w : Nat) (care : Custody) : Prop where
  unissued : care.tenures[slot]? = none → w = 0
  held : ∀ tenure, care.tenures[slot]? = some tenure → tenure.held = true → w = 0
  given : ∀ own : Nat, care.owners[own]? = some (slot, Hold.given) → w = 1

variable {care next : Custody} {given : Option Nat}

variable {slot w : Nat}

theorem exchange_unreturned {lim after : Option Resource.ConcurrencyLimiter} {tenures later : List Tenure}
    (exch : Exchange lim tenures given after later) (unissued : tenures[slot]? = none → w = 0)
    (held : ∀ tenure, tenures[slot]? = some tenure → tenure.held = true → w = 0) :
    (later[slot]? = none → w + (if given = some slot then 1 else 0) = 0) ∧
      ∀ tenure, later[slot]? = some tenure → tenure.held = true → w + (if given = some slot then 1 else 0) = 0 := by
  have appended : ∀ tenure : Tenure, ((tenures ++ [tenure])[slot]? = none → w = 0) ∧
      ∀ hit, (tenures ++ [tenure])[slot]? = some hit → hit.held = true → w = 0 := by
    intro tenure
    refine ⟨fun gone => unissued (by grind), ?_⟩
    intro hit there holding
    rcases Roster.entry_append there with old | ⟨last, _⟩
    · exact held hit old holding
    · exact unissued (by simp [last])
  cases exch with
  | idle | crowded => exact ⟨unissued, held⟩
  | issued | offered => exact appended _
  | returned alt _ has =>
    have inside := (List.getElem?_eq_some_iff.mp has).1
    by_cases here : alt = slot
    · subst here
      simp [inside, tenureOf]
    · have unlabelled : ¬ (some alt = some slot) := by simpa using here
      rw [if_neg unlabelled, Nat.add_zero, List.getElem?_set_ne here]
      exact ⟨unissued, held⟩

theorem returned_tenure {slot : Nat} (move : Move care (some slot) next) (ok : Sound care) :
    ∃ tenure, care.tenures[slot]? = some tenure ∧ tenure.held = true := by
  have exch := move_exchange move ok
  generalize next.limiter = limiter at exch
  generalize next.tenures = tenures at exch
  cases exch with
  | returned _ _ hit => exact ⟨_, hit, rfl⟩

theorem given_after {own slot : Nat} (move : Move care given next) (ok : Sound care) (owned : next.owners[own]? = some (slot, Hold.given)) :
    care.owners[own]? = some (slot, Hold.given) ∨ given = some slot := by
  have appended : ∀ alt : Nat, (care.owners ++ [(alt, Hold.kept)])[own]? = some (slot, Hold.given) →
      care.owners[own]? = some (slot, Hold.given) := by
    intro alt hit
    rcases Roster.entry_append hit with old | ⟨_, new⟩
    · exact old
    · cases new
  cases move with
  | idle | crowded | taken | offered | released | returned => exact .inl owned
  | started | unlimited | adopted => exact .inl (appended _ owned)
  | ownerReleased | ownerReturned => grind
  | ownerSpent i alt _ was has spent =>
    obtain ⟨_, hit, _, _, freed⟩ := ok.guarded i alt .kept was
    rw [has] at hit
    cases hit
    exact absurd rfl (freed.mp spent)

theorem move_returns (move : Move care given next) (ok : Sound care) (returns : Returns slot w care) :
    Returns slot (w + if given = some slot then 1 else 0) next := by
  obtain ⟨unissued, held⟩ := exchange_unreturned (move_exchange move ok) returns.unissued returns.held
  refine ⟨unissued, held, ?_⟩
  intro own owned
  by_cases back : given = some slot
  · subst back
    obtain ⟨tenure, hit, holding⟩ := returned_tenure move ok
    simp [returns.held tenure hit holding]
  · rcases given_after move ok owned with pre | now
    · simp [back, returns.given own pre]
    · exact absurd now back

end Custody

def LeaseState.rank : LeaseState → Nat
  | .open => 6
  | .finalizing _ .settlingTokens => 5
  | .finalizing _ (.settlingBudget _ _) => 4
  | .finalizing _ (.releasingSlot _) => 3
  | .finalizing _ (.returningSlot _) => 2
  | .finalizing _ (.publishing _) => 1
  | .finalized _ _ => 0

def LeaseState.published : LeaseState → Bool
  | .open => false
  | .finalizing _ _ => false
  | .finalized _ _ => true

def publishes (owner : Nat) (_ : System) : Call → Reply → Nat
  | .settle admission _, .settled state => if admission = owner then state.published.toNat else 0
  | _, _ => 0

theorem finish_rank {res after : LeaseSystem} {read : Int} {lease : ResourceLease} {out : LeaseOutcome} {prog : Progress} {st : LeaseState}
    (fin : FinishOutcome res read lease out prog after st) : st.rank < (LeaseState.finalizing out prog).rank := by
  cases fin <;> simp [LeaseState.rank]

open LeaseState (rank published)

section Leases

variable {sys next : System} {call : Call} {rep : Reply} {owner : Nat}

variable (ran : step sys call = some (next, rep))
include ran

variable {adm : Admission}

theorem ended_kept (has : sys.resources.admissions[owner]? = some adm)
    (ended : ∀ {read after reached}, ¬ Resource.AdvanceOutcome sys.resources read adm.options adm.slot adm.phase after reached) :
    (∀ read, call ≠ .resources (.advance owner read)) ∧ next.resources.admissions[owner]? = some adm := by
  cases step_turn ran owner with
  | foreign _ _ _ _ apart same =>
    refine ⟨?_, same.trans has⟩
    rintro read rfl
    simp [belongs] at apart
  | entered => simp at has
  | advanced _ _ _ _ _ _ hit out =>
    cases hit.symm.trans has
    exact absurd out ended

theorem admitted_kept {lease : ResourceLease} (took : admittedLease sys owner = some lease) :
    (∀ read, call ≠ .resources (.advance owner read)) ∧ admittedLease next owner = some lease := by
  obtain ⟨adm, has, phase⟩ := admitted_lease_iff.mp took
  obtain ⟨unadvanced, kept⟩ := ended_kept ran has (fun out => (advance_admitted out).2.1 lease phase)
  exact ⟨unadvanced, admitted_lease_iff.mpr ⟨adm, kept, phase⟩⟩

theorem rejected_kept {err : AdmissionError} (has : sys.resources.admissions[owner]? = some adm) (barred : adm.phase = .rejected err) :
    next.resources.admissions[owner]? = some adm := by
  refine (ended_kept ran has ?_).2
  intro read after got out
  rw [barred] at out
  cases out

end Leases

section Verdicts

variable {sys next : System} {call : Call} {rep : Reply} {own : Nat}

variable {lease : ResourceLease} {i : Nat} {spent : Bool}

theorem ward_at (kind : Kind) (took : admittedLease sys own = some lease) :
    (sys.view kind.ward)[own]? = some (wardOf (kind.child (.admitted lease)) (kind.paid (sys.lease own))) := by
  obtain ⟨adm, there, phase⟩ := admitted_lease_iff.mp took
  have owned : (sys.view kind.ward)[own]? = some (kind.ward adm (sys.lease own)) := view_at there
  rwa [Kind.ward, phase] at owned

theorem token_ward_at (took : admittedLease sys own = some lease) :
    (sys.view tokenWard)[own]? = some (wardOf lease.tokens (sys.lease own).tokensSettled) := ward_at .tokens took

theorem budget_ward_at (took : admittedLease sys own = some lease) :
    (sys.view budgetWard)[own]? = some (wardOf lease.budget (sys.lease own).budgetSettled) := ward_at .budget took

theorem budget_ward_kept (reg : Regular sys) (ran : step sys call = some (next, rep))
    (owned : (sys.view budgetWard)[own]? = some (some i, spent))
    (others : ∀ read, call ≠ .resources (.advance own read) ∧ call ≠ .settle own read) :
    ∃ hold later, (budgetHolds sys.resources.budgets)[i]? = some hold ∧ (budgetHolds next.resources.budgets)[i]? = some later ∧
      later.finalErr = hold.finalErr := by
  obtain ⟨hold, has, _⟩ := budget_owned reg owned
  obtain ⟨event, booked, settles⟩ := budget_acted reg ran
  obtain ⟨later, kept, edits⟩ := booked_entry booked has (fun same => ward_spared reg .budget owned others (settles i same))
  refine ⟨hold, later, has, kept, ?_⟩
  rcases edits with rfl | ⟨_, rfl⟩ <;> rfl

theorem token_verdict_kept (reg : Regular sys) (ran : step sys call = some (next, rep)) (took : admittedLease sys own = some lease)
    (others : ∀ read, call ≠ .settle own read) :
    tokenVerdict next.resources.tokens lease.tokens = tokenVerdict sys.resources.tokens lease.tokens := by
  cases child : lease.tokens with
  | none => rfl
  | some =>
    have owned := token_ward_at took
    rw [child] at owned
    obtain ⟨_, _, has, hit, same, _⟩ := token_ward_kept reg ran owned (fun read => ⟨(admitted_kept ran took).1 read, others read⟩)
    simp [tokenVerdict, token_holds_at, has, hit, same]

theorem budget_verdict_kept (reg : Regular sys) (ran : step sys call = some (next, rep)) (took : admittedLease sys own = some lease)
    (others : ∀ read, call ≠ .settle own read) :
    budgetVerdict next.resources.budgets lease.budget = budgetVerdict sys.resources.budgets lease.budget := by
  cases child : lease.budget with
  | none => rfl
  | some =>
    have owned := budget_ward_at took
    rw [child] at owned
    obtain ⟨_, _, has, hit, same⟩ := budget_ward_kept reg ran owned (fun read => ⟨(admitted_kept ran took).1 read, others read⟩)
    simp [budgetVerdict, budget_holds_at, has, hit, same]

structure Reported (own : Nat) (sys : System) : Prop where
  tokens : ∀ lease err, admittedLease sys own = some lease → (sys.lease own).tokenErr = some err →
    err = tokenVerdict sys.resources.tokens lease.tokens
  budget : ∀ lease err, admittedLease sys own = some lease → (sys.lease own).budgetErr = some err →
    err = budgetVerdict sys.resources.budgets lease.budget

theorem finish_reported {res after : LeaseSystem} {read : Int} {out : LeaseOutcome} {prog : Progress} {st : LeaseState}
    (fin : FinishOutcome res read lease out prog after st)
    (tokens : ∀ err, prog.tokenErr = some err → err = tokenVerdict res.tokens lease.tokens)
    (budget : ∀ err, prog.budgetErr = some err → err = budgetVerdict res.budgets lease.budget) :
    (∀ err, st.tokenErr = some err → err = tokenVerdict after.tokens lease.tokens) ∧
      ∀ err, st.budgetErr = some err → err = budgetVerdict after.budgets lease.budget := by
  cases fin with
  | tokensAbsent gone => simp [LeaseState.tokenErr, LeaseState.budgetErr, Progress.tokenErr, Progress.budgetErr, gone, tokenVerdict]
  | tokensSettled _ _ _ _ _ child _ _ paid =>
    simp [LeaseState.tokenErr, LeaseState.budgetErr, Progress.tokenErr, Progress.budgetErr, child, tokenVerdict, paid]
  | budgetAbsent _ _ gone =>
    exact ⟨tokens, by simp [LeaseState.budgetErr, Progress.budgetErr, gone, budgetVerdict]⟩
  | budgetSettled _ _ _ _ _ _ _ child _ _ paid =>
    exact ⟨tokens, by simp [LeaseState.budgetErr, Progress.budgetErr, child, budgetVerdict, paid]⟩
  | slotSpent | slotReleased | slotReturned | published => exact ⟨tokens, budget⟩

theorem reported_step (reg : Regular sys) (reported : Reported own sys) (ran : step sys call = some (next, rep)) : Reported own next := by
  cases took : admittedLease sys own with
  | none =>
    have new := admitted_open reg.wellformed ran took
    exact ⟨by simp [new, LeaseState.tokenErr], by simp [new, LeaseState.budgetErr]⟩
  | some lease =>
    have later := (admitted_kept ran took).2
    cases lease_move ran own with
    | opened _ _ _ _ _ st =>
      exact ⟨by simp [st, LeaseState.tokenErr, Progress.tokenErr], by simp [st, LeaseState.budgetErr, Progress.budgetErr]⟩
    | kept _ _ same idle =>
      refine ⟨?_, ?_⟩
      · intro alt err hit told
        obtain rfl : lease = alt := Option.some.inj (later.symm.trans hit)
        rw [token_verdict_kept reg ran took idle]
        exact reported.tokens lease err took (same ▸ told)
      · intro alt err hit told
        obtain rfl : lease = alt := Option.some.inj (later.symm.trans hit)
        rw [budget_verdict_kept reg ran took idle]
        exact reported.budget lease err took (same ▸ told)
    | settled _ _ alt _ _ hit busy fin =>
      obtain rfl : lease = alt := Option.some.inj (took.symm.trans hit)
      have tokens := reported.tokens lease
      have budget := reported.budget lease
      rw [busy] at tokens budget
      have verdicts := finish_reported fin (fun err => tokens err took) (fun err => budget err took)
      refine ⟨?_, ?_⟩
      · intro alt err hit
        obtain rfl : lease = alt := Option.some.inj (later.symm.trans hit)
        exact verdicts.1 err
      · intro alt err hit
        obtain rfl : lease = alt := Option.some.inj (later.symm.trans hit)
        exact verdicts.2 err

end Verdicts

section Runs

variable {sys next : System} {call : Call} {rep : Reply} {own : Nat}

theorem first_terminal_step {past : List Call} (ran : step sys call = some (next, rep))
    (first : (sys.lease own).outcome = firstTerminal own past) : (next.lease own).outcome = firstTerminal own (past ++ [call]) := by
  have kept : ∀ out, (sys.lease own).outcome = some out → firstTerminal own (past ++ [call]) = some out := by
    intro out decided
    rw [first] at decided
    unfold firstTerminal at decided ⊢
    simp [List.findSome?_append, decided]
  cases lease_move ran own with
  | opened _ _ _ _ new st =>
    rw [new] at first
    rw [st]
    simp only [firstTerminal, LeaseState.outcome] at first ⊢
    simp [List.findSome?_append, ← first]
  | settled _ _ _ out _ _ busy fin =>
    rw [kept out (by rw [busy]; rfl)]
    generalize next.resources = after at fin
    generalize next.lease own = st at fin ⊢
    cases fin <;> rfl
  | kept _ _ same _ late =>
    rw [same]
    cases decided : (sys.lease own).outcome with
    | some out => rw [kept out decided]
    | none =>
      have untouched : ∀ out, call ≠ .terminate own out := by
        intro out called
        apply late out called
        cases st : sys.lease own with
        | «open» => rfl
        | _ => simp [st, LeaseState.outcome] at decided
      rw [decided] at first
      unfold firstTerminal at first ⊢
      rw [List.findSome?_append, ← first]
      cases call with
      | terminate i out =>
        have apart : i ≠ own := fun here => untouched out (by rw [here])
        simp [apart]
      | _ => simp

def Unanimous (sys : System) : Prop :=
  ∀ (i : Nat) (caller : Caller) (res : LeaseResult), sys.callers[i]? = some caller → caller.answer = some res →
    ∃ out, sys.lease caller.admission = .finalized out res

variable {out : LeaseOutcome}

theorem finalized_kept {res : LeaseResult} (ran : step sys call = some (next, rep))
    (closed : sys.lease own = .finalized out res) : next.lease own = .finalized out res := by
  cases lease_move ran own with
  | kept _ _ same => rw [same, closed]
  | opened _ _ _ _ new | settled _ _ _ _ _ _ new => simp [closed] at new

theorem unanimous_step (unanimous : Unanimous sys) (ran : step sys call = some (next, rep)) : Unanimous next := by
  intro i caller res hit told
  have old : sys.callers[i]? = some caller → ∃ out, next.lease caller.admission = .finalized out res := by
    intro pre
    obtain ⟨out, closed⟩ := unanimous i caller res pre told
    exact ⟨out, finalized_kept ran closed⟩
  have inside : ∀ adm : Nat, (sys.callers ++ [⟨adm, none⟩])[i]? = some caller → sys.callers[i]? = some caller := by
    intro adm placed
    rcases Roster.entry_append placed with pre | ⟨_, rfl⟩
    · exact pre
    · cases told
  have out := step_outcome ran
  cases out with
  | resources =>
    apply old
    unfold hand at hit
    split at hit <;> exact hit
  | opened adm | joined adm => exact old (inside adm hit)
  | settled => exact old hit
  | answered pos _ out _ waiting closed =>
    by_cases here : pos = i
    · subst here
      simp only [List.getElem?_set_self (List.getElem?_eq_some_iff.mp waiting).1, Option.some.injEq] at hit
      subst hit
      cases told
      exact ⟨out, closed⟩
    · exact old (by simpa only [List.getElem?_set_ne here] using hit)

theorem settle_enabled {prog : Progress} (reg : Regular sys) (busy : sys.lease own = .finalizing out prog)
    (read : Int) : (step sys (.settle own read)).isSome = true := by
  cases took : admittedLease sys own with
  | none =>
    rw [reg.wellformed.unopened own took] at busy
    cases busy
  | some lease =>
    obtain ⟨adm, there, phase⟩ := admitted_lease_iff.mp took
    obtain ⟨entry, placed⟩ := owned_slot reg there
    rw [← reg.wellformed.named own adm lease there phase] at placed
    simp only [step, took, busy, Option.isSome_map]
    cases prog with
    | settlingTokens =>
      cases child : lease.tokens with
      | none => simp [finish, settleTokens, child]
      | some =>
        have owned := token_ward_at took
        rw [child] at owned
        obtain ⟨_, hit, _⟩ := tokens_owned reg owned
        obtain ⟨_, limited, has⟩ := Option.bind_eq_some_iff.mp ((token_holds_at _ _).trans hit)
        have inside := (List.getElem?_eq_some_iff.mp has).1
        simp [finish, settleTokens, child, limited, Token.step, inside]
    | settlingBudget =>
      cases child : lease.budget with
      | none => simp [finish, settleBudget, child]
      | some =>
        have owned := budget_ward_at took
        rw [child] at owned
        obtain ⟨_, hit, _⟩ := budget_owned reg owned
        obtain ⟨_, limited, has⟩ := Option.bind_eq_some_iff.mp ((budget_holds_at _ _).trans hit)
        have inside := (List.getElem?_eq_some_iff.mp has).1
        simp [finish, settleBudget, child, limited, Budget.step, inside]
    | releasingSlot =>
      cases spent : entry.lease.released <;> simp [finish, releaseOwned, placed, Lease.releaseOwned, spent]
    | returningSlot => simp [finish, Resource.giveBack, placed]
    | publishing => rfl

theorem lease_rank_kept (ran : step sys call = some (next, rep)) (own : Nat) : (next.lease own).rank ≤ (sys.lease own).rank := by
  cases lease_move ran own with
  | kept _ _ same => rw [same]
  | opened _ _ _ _ new st =>
    simp [new, st, rank]
  | settled _ _ _ _ _ _ busy fin =>
    rw [busy]
    exact Nat.le_of_lt (finish_rank fin)

theorem lease_rank_settled {read : Int} (ran : step sys (.settle own read) = some (next, rep)) :
    (next.lease own).rank < (sys.lease own).rank := by
  cases lease_move ran own with
  | kept _ _ _ idle => exact absurd rfl (idle read)
  | settled _ _ _ _ _ _ busy fin =>
    rw [busy]
    exact finish_rank fin

theorem published_step {w : Nat} (ran : step sys call = some (next, rep))
    (tally : w = (sys.lease own).published.toNat) : w + publishes own sys call rep = (next.lease own).published.toNat := by
  subst tally
  cases step_outcome ran with
  | resources _ after ans =>
    have same : (hand { sys with resources := after } ans).lease own = sys.lease own := by simp; rfl
    rw [same]
    rfl
  | opened adm _ _ _ new =>
    by_cases here : own = adm
    · subst here
      simp [publishes, new, published]
    · simp [publishes, here]
      rfl
  | joined | answered => rfl
  | settled adm _ _ _ _ _ _ _ busy fin =>
    by_cases here : own = adm
    · subst here
      cases fin <;> simp [publishes, busy, published]
    · have apart : adm ≠ own := fun same => here same.symm
      simp [publishes, here, apart]
      rfl

end Runs

-- Each child of a lease is settled by its own settling call, once, and by nobody
-- else. The same holds for its slot.
structure SettledOnce (start : System) (calls : List Call) (system : System) (owner : Nat) (lease : ResourceLease) : Prop where
  tokens : ∀ child, lease.tokens = some child →
    Transition.measure step (settlesTokens owner) start calls = (system.lease owner).tokensSettled.toNat ∧
      (tokenFlags system.resources.tokens)[child]? = some (system.lease owner).tokensSettled
  budget : ∀ child, lease.budget = some child →
    Transition.measure step (settlesBudget owner) start calls = (system.lease owner).budgetSettled.toNat ∧
      (budgetFlags system.resources.budgets)[child]? = some (system.lease owner).budgetSettled
  slot : Transition.measure step (givesBack lease.concurrency) start calls = if (system.lease owner).hold = .given then 1 else 0

-- Every terminal call returns what the first one came to.
structure Answered (calls : List Call) (system : System) (owner : Nat) (lease : ResourceLease) : Prop where
  first : (system.lease owner).outcome = firstTerminal owner calls
  answers : ∀ (index : Nat) (result : LeaseResult), system.callers[index]? = some ⟨owner, some result⟩ →
    ∃ outcome, firstTerminal owner calls = some outcome ∧ system.lease owner = .finalized outcome result ∧
      result.tokenErr = tokenVerdict system.resources.tokens lease.tokens ∧ result.budgetErr = budgetVerdict system.resources.budgets lease.budget
  settling : ∀ outcome progress reading, system.lease owner = .finalizing outcome progress → (step system (.settle owner reading)).isSome = true
  returning : ∀ (index : Nat) (outcome : LeaseOutcome) (result : LeaseResult), system.callers[index]? = some ⟨owner, none⟩ →
    system.lease owner = .finalized outcome result → ∃ next, step system (.answer index) = some (next, .answered result)

section Leases

variable {start sys : System} {cs : List Call} {outs : List Reply} {own : Nat} {lease : ResourceLease}

theorem regular_measured (weigh : System → Call → Reply → Nat) (count : Nat → System → Prop)
    (kept : ∀ w sys call next rep, Regular sys → step sys call = some (next, rep) → count w sys → count (w + weigh sys call rep) next)
    (reg : Regular start) (zero : count 0 start) (run : execute step start cs = some (sys, outs)) :
    count (measure step weigh start cs) sys := by
  rw [measure_tally]
  exact share_run _ count kept reg zero run

theorem settled_once (reg : Regular start) (empty : start.resources.admissions = []) (run : execute step start cs = some (sys, outs))
    (took : admittedLease sys own = some lease) : SettledOnce start cs sys own lease := by
  have got := regular_run reg run
  obtain ⟨adm, there, phase⟩ := admitted_lease_iff.mp took
  refine ⟨?_, ?_, ?_⟩
  · intro child mine
    have owned := token_ward_at took
    rw [mine] at owned
    have tally := regular_measured (settlesTokens own) (fun w sys => sys.tokenWards.Counted own w) (fun _ _ _ _ _ reg transition tally =>
        Wards.move_counted (regular_wards reg transition .tokens) tally)
      reg (by simp [Wards.Counted, tokenWards, view, empty]) run
    unfold Wards.Counted tokenWards at tally
    rw [owned] at tally
    exact ⟨tally, (got.tokenWards.guarded own child _ owned).1⟩
  · intro child mine
    have owned := budget_ward_at took
    rw [mine] at owned
    have tally := regular_measured (settlesBudget own) (fun w sys => sys.budgetWards.Counted own w)
      (fun _ _ _ _ _ reg transition tally => Wards.move_counted (regular_wards reg transition .budget) tally)
      reg (by simp [Wards.Counted, budgetWards, view, empty]) run
    unfold Wards.Counted budgetWards at tally
    rw [owned] at tally
    exact ⟨tally, (got.budgetWards.guarded own child _ owned).1⟩
  · have named := got.wellformed.named own adm lease there phase
    have owned := owner_at there
    rw [phase, ← named] at owned
    have returns := regular_measured (givesBack lease.concurrency) (fun w sys => sys.custody.Returns lease.concurrency w)
      (fun _ _ _ _ _ reg transition returns => Custody.move_returns (step_custody reg.wellformed transition) reg.custody returns)
      reg ⟨fun _ => rfl, fun _ _ _ => rfl, by simp [custody, owners, view, empty]⟩ run
    obtain ⟨entry, placed, _, _, freed⟩ := got.custody.guarded own _ _ owned
    have tenure := Custody.tenure_at placed
    cases hold : (sys.lease own).hold with
    | given =>
      simp only [holdOf, hold] at owned
      exact returns.given own owned
    | kept =>
      have unspent : entry.lease.released = false := by
        simpa [holdOf, hold] using freed
      exact returns.held _ tenure (by simp [tenureOf, Custody.held, unspent])
    | returning =>
      simp only [holdOf, hold] at owned
      have mem : (lease.concurrency, Hold.returning) ∈ sys.custody.owners := List.mem_of_getElem? owned
      exact returns.held _ tenure (by simp [tenureOf, Custody.held, mem])

theorem answered_first (reg : Regular start) (same : start.leases = ∅) (uncalled : start.callers = [])
    (run : execute step start cs = some (sys, outs)) (took : admittedLease sys own = some lease) : Answered cs sys own lease := by
  have new : start.lease own = .open := by simp [System.lease, same]
  have got := regular_run reg run
  have first : (sys.lease own).outcome = firstTerminal own cs :=
    run_traced (fun past _ sys => (sys.lease own).outcome = firstTerminal own past)
      (fun _ _ _ _ _ _ _ first _ transition => first_terminal_step transition first)
        (by simp [new, LeaseState.outcome, firstTerminal]) along_always run
  have unanimous : Unanimous sys :=
    run_invariant Unanimous (fun _ _ _ _ kept _ transition => unanimous_step kept transition) (by simp [Unanimous, uncalled]) along_always run
  have reported : Regular sys ∧ Reported own sys :=
    run_invariant (fun sys => Regular sys ∧ Reported own sys)
      (fun _ _ _ _ kept _ transition => ⟨regular_step kept.1 transition, reported_step kept.1 kept.2 transition⟩)
      ⟨reg, by simp [new, LeaseState.tokenErr], by simp [new, LeaseState.budgetErr]⟩ along_always run
  refine ⟨first, ?_, fun out prog read busy => settle_enabled got busy read, ?_⟩
  · intro i res told
    obtain ⟨out, closed⟩ := unanimous i _ res told rfl
    refine ⟨out, ?_, closed, ?_, ?_⟩
    · rw [← first, closed]
      rfl
    · exact reported.2.tokens lease _ took (by rw [closed]; rfl)
    · exact reported.2.budget lease _ took (by rw [closed]; rfl)
  · intro i out res waiting closed
    exact ⟨{ sys with callers := sys.callers.set i ⟨own, some res⟩ }, by simp only [step, waiting, closed]⟩

end Leases

theorem composite_lease_atomic {system : System} {calls : List Call} {replies : List Reply} (slots : Option Nat) (tokens budgets : Bool)
    (run : Transition.execute step (freshSystem slots tokens budgets) calls = some (system, replies)) :
    (∀ call next failure, step system call = some (next, .resources (.refused failure)) → next = system) ∧
      (∀ owner call next reply, step system call = some (next, reply) → belongs owner call reply = true →
        TokensKept system next ∧ BudgetKept system next) ∧
      (∀ owner admission failure, system.resources.admissions[owner]? = some admission → admission.phase = .rejected failure →
        RolledBack (freshSystem slots tokens budgets) calls system owner admission) ∧ ∀ owner lease, admittedLease system owner = some lease →
        SettledOnce (freshSystem slots tokens budgets) calls system owner lease ∧ Answered calls system owner lease := by
  have reg := regular_fresh slots tokens budgets
  have got := regular_run reg run
  refine ⟨fun _ _ _ => refused_unchanged got, ?_, ?_, ?_⟩
  · intro owner call next reply ran own
    exact ⟨own_tokens_kept got ran own, own_budget_kept got ran own⟩
  · intro owner admission failure has barred
    exact rolled_back reg rfl run has barred
  · intro owner lease took
    exact ⟨settled_once reg rfl run took, answered_first reg rfl rfl run took⟩

def rivalry : List Call :=
  [.resources (.acquire ⟨"key", 2, [⟨10, 60⟩], 6, Budget.limitedBudgetPolicy (.known 100), .known 10⟩),
    .resources (.advance 0 0), .resources (.advance 0 0),
    .resources (.acquire ⟨"key", 2, [⟨10, 60⟩], 4, { Budget.unlimitedBudgetPolicy with limited := true }, .unknown⟩),
    .terminate 0 .conservative, .resources (.advance 1 0), .settle 0 0, .resources (.advance 1 0), .terminate 0 .release, .resources (.advance 1 0),
    .settle 0 0, .resources (.advance 1 0), .settle 0 0, .settle 0 0, .resources (.advance 1 0), .settle 0 0, .answer 1, .answer 0]

theorem rivalry_runs : (execute step (freshSystem (some 7) true true) rivalry).isSome = true := by decide

theorem composite_lease_atomic_rivalry : ∃ system replies admission failure,
    Transition.execute step (freshSystem (some 7) true true) rivalry = some (system, replies) ∧
      system.resources.admissions[1]? = some admission ∧ admission.phase = .rejected failure ∧ admittedLease system 0 = some ⟨0, some 0, some 0⟩ ∧
      system.resources.budgets.map (fun budgets => budgets.reservations.map Budget.BudgetReservation.finalized) = some [true] ∧
      RolledBack (freshSystem (some 7) true true) rivalry system 1 admission ∧
      SettledOnce (freshSystem (some 7) true true) rivalry system 0 ⟨0, some 0, some 0⟩ ∧ Answered rivalry system 0 ⟨0, some 0, some 0⟩ := by
  have run := execute_get rivalry_runs
  obtain ⟨_, _, barred, took⟩ := composite_lease_atomic (some 7) true true run
  have second : (((execute step (freshSystem (some 7) true true) rivalry).get rivalry_runs).1.resources.admissions[1]?).map Admission.phase =
      some (.rejected (Resource.rejection .budget true zeroTime)) := by decide
  have first : admittedLease ((execute step (freshSystem (some 7) true true) rivalry).get rivalry_runs).1 0 = some ⟨0, some 0, some 0⟩ := by decide
  obtain ⟨admission, has, phase⟩ := Option.map_eq_some_iff.mp second
  obtain ⟨paid, told⟩ := took 0 _ first
  exact ⟨_, _, admission, _, run, has, phase, first, by decide, barred 1 admission _ has phase, paid, told⟩

-- Someone is always left to settle a reservation that is not settled: a caller it
-- was handed to, or the admission that owns it.
theorem reservations_never_orphaned {slots : Option Nat} {tokens budgets : Bool} {system : System} {calls : List Call} {replies : List Reply}
    (kind : Kind) {index : Nat} (run : Transition.execute step (freshSystem slots tokens budgets) calls = some (system, replies))
    (unsettled : (kind.marks system.resources)[index]? = some false) : index ∈ kind.handles system ∨
      ∃ owner admission, system.resources.admissions[owner]? = some admission ∧ kind.ward admission (system.lease owner) = (some index, false) := by
  have covered := (run_invariant (fun sys => Regular sys ∧ (kind.wards sys).Covered)
    (fun _ _ _ _ kept _ ran => ⟨regular_step kept.1 ran, Wards.move_covered (regular_wards kept.1 ran kind) kept.2⟩)
    ⟨regular_fresh slots tokens budgets, by cases kind <;> cases tokens <;> cases budgets <;> nofun⟩ along_always run).2
  refine (covered index unsettled).imp_right ?_
  rintro ⟨owner, owned⟩
  obtain ⟨admission, has, same⟩ := view_some owned
  exact ⟨owner, admission, has, same.symm⟩

theorem reservations_never_orphaned_open : ∃ system replies,
    Transition.execute step (freshSystem (some 7) true true) (rivalry.take 3) = some (system, replies) ∧ ∃ owner admission,
      system.resources.admissions[owner]? = some admission ∧ tokenWard admission (system.lease owner) = (some 0, false) :=
  ⟨_, _, execute_get (by decide), (reservations_never_orphaned .tokens (execute_get (by decide)) (by decide)).resolve_left (by decide)⟩

end NineGateway.Lifecycle
