import NineGateway.Budget.Adjust
import Mathlib.Algebra.BigOperators.Group.List.Basic
import Mathlib.Data.List.Dedup

set_option autoImplicit false

namespace NineGateway.Budget

-- The empty string, the three period names, and any other string.
inductive BudgetPeriod where
  | unset
  | total
  | day
  | month
  | unsupported
deriving DecidableEq, Repr

structure BudgetSpent where
  keyID : String
  spent : Money
  period : BudgetPeriod
  periodStart : Int
deriving DecidableEq, Repr

structure PendingSpent where
  keyID : String
  identity : BudgetIdentity
  spent : Money
deriving DecidableEq, Repr

def rowIdentity (value : BudgetSpent) : Option BudgetIdentity :=
  match value.period with
  | .unset | .total => if value.periodStart = zeroTime then some .total else none
  | .day => if validDayStart value.periodStart then some (.day (currentDay value.periodStart)) else none
  | .month => if validMonthStart value.periodStart then some (.month (currentMonth value.periodStart)) else none
  | .unsupported => none

def PendingSpent.targets (row : PendingSpent) (keyID : String) (identity : BudgetIdentity) : Bool :=
  decide (row.keyID = keyID ∧ row.identity = identity)

def parseSpent : List BudgetSpent → List PendingSpent → Option (List PendingSpent)
  | [], pending => some pending
  | value :: rest, pending =>
    if !validKeyID value.keyID || !validKnownMoney value.spent then none
    else
      match rowIdentity value with
      | none => none
      | some identity =>
        if pending.any (fun row => row.targets value.keyID identity) then none
        else parseSpent rest (pending ++ [⟨value.keyID, identity, value.spent⟩])

def alreadyLoaded (state : BudgetState) : BudgetIdentity → Bool
  | .total => state.totalLoaded
  | .day start => (state.dayBuckets.lookup start).isSome
  | .month start => (state.monthBuckets.lookup start).isSome

def loadedRow (limiter : BudgetLimiter) (row : PendingSpent) : Bool :=
  match limiter.states.lookup row.keyID with
  | none => false
  | some state => alreadyLoaded state row.identity

def newKeys (limiter : BudgetLimiter) (pending : List PendingSpent) : List String :=
  ((pending.filter (fun row => !isZeroMoney row.spent && (limiter.states.lookup row.keyID).isNone)).map PendingSpent.keyID).dedup

-- The order in which the runtime walks the set of new keys is not fixed by the
-- language, so the caller's order decides and every order is reached by one.
def visitOrder (order keys : List String) : List String :=
  (order.filter (fun keyID => decide (keyID ∈ keys))).dedup ++ keys.filter (fun keyID => decide (keyID ∉ order))

def setSpent (state : BudgetState) (identity : BudgetIdentity) (spent : Money) : BudgetState :=
  match identity with
  | .total => { state with spent := spent, totalLoaded := true }
  | .day start => { state with dayBuckets := Finmap.insert start ⟨spent, knownZeroMoney⟩ state.dayBuckets }
  | .month start => { state with monthBuckets := Finmap.insert start ⟨spent, knownZeroMoney⟩ state.monthBuckets }

def placeSpent (generations : String → Nat) (limiter : BudgetLimiter) (row : PendingSpent) : BudgetLimiter :=
  if isZeroMoney row.spent then limiter
  else
    match limiter.states.lookup row.keyID with
    | some state => limiter.store row.keyID (setSpent state row.identity row.spent)
    | none =>
      { limiter with nextAddress := limiter.nextAddress + 1 }.store row.keyID
        (setSpent (blankState limiter.nextAddress (generations row.keyID)) row.identity row.spent)

def loadSpent (limiter : BudgetLimiter) (order : List String) (values : List BudgetSpent) : BudgetLimiter × Option BudgetError :=
  match parseSpent values [] with
  | none => (limiter, some .invalid)
  | some pending =>
    if !limiter.states.every (fun keyID state => validKeyID keyID && validateBudgetState state) then (limiter, some .state)
    else if pending.any (loadedRow limiter) then (limiter, some .invalid)
    else
      let keys := newKeys limiter pending
      if 18446744073709551615 - limiter.sequence < keys.length then (limiter, some .state)
      else
        let generations := fun keyID => limiter.sequence + 1 + (visitOrder order keys).idxOf keyID
        (pending.foldl (placeSpent generations) { limiter with sequence := limiter.sequence + keys.length }, none)

structure RowValid (row : PendingSpent) : Prop where
  key : validKeyID row.keyID = true
  known : row.spent.isKnown = true
  start : validStart row.identity = true

structure Loadable (lim : BudgetLimiter) (due : List PendingSpent) : Prop where
  accepted : ∀ key st, lim.states.lookup key = some st → StateAccepted st
  rows : ∀ row ∈ due, RowValid row
  distinct : due.Pairwise (fun first second => first.targets second.keyID second.identity = false)
  vacant : ∀ row ∈ due, ∀ st, lim.states.lookup row.keyID = some st → alreadyLoaded st row.identity = false

inductive LoadOutcome (lim : BudgetLimiter) (values : List BudgetSpent) : BudgetLimiter → Option BudgetError → Prop where
  | refused (err) : LoadOutcome lim values lim (some err)
  | loaded (due) (parsed : parseSpent values [] = some due) (loadable : Loadable lim due) (gens : String → Nat) (nz : ∀ key, gens key ≠ 0) (seq)
      (new : ∀ key ∈ newKeys lim due, lim.sequence < gens key ∧ gens key ≤ seq ∧ ∀ other ∈ newKeys lim due, gens other = gens key → other = key) :
      LoadOutcome lim values (due.foldl (placeSpent gens) { lim with sequence := seq }) none

inductive PlaceOutcome (gens : String → Nat) (lim : BudgetLimiter) (row : PendingSpent) : BudgetLimiter → Prop where
  | zero (free : isZeroMoney row.spent = true) : PlaceOutcome gens lim row lim
  | existing (nz : isZeroMoney row.spent = false) (st) (has : lim.states.lookup row.keyID = some st)
      (vacant : alreadyLoaded st row.identity = false) : PlaceOutcome gens lim row (lim.store row.keyID (setSpent st row.identity row.spent))
  | fresh (nz : isZeroMoney row.spent = false) (gone : lim.states.lookup row.keyID = none) : PlaceOutcome gens lim row
        ({ lim with nextAddress := lim.nextAddress + 1 }.store row.keyID
          (setSpent (blankState lim.nextAddress (gens row.keyID)) row.identity row.spent))

variable {identity : BudgetIdentity} {motive : List PendingSpent → BudgetLimiter → Prop} {lim : BudgetLimiter}
variable {gens : String → Nat} {due : List PendingSpent} {st : BudgetState}

theorem row_identity_valid {v : BudgetSpent} (hit : rowIdentity v = some identity) : validStart identity = true := by
  unfold rowIdentity at hit
  split at hit
  · split at hit
    · simp only [Option.some.injEq] at hit
      exact hit ▸ rfl
    · simp at hit
  · split at hit
    · simp only [Option.some.injEq] at hit
      exact hit ▸ rfl
    · simp at hit
  · split at hit
    · rename_i valid
      simp only [Option.some.injEq] at hit
      rw [← hit, validStart, ← ((valid_day_start_iff _).mp valid).2]
      exact valid
    · simp at hit
  · split at hit
    · rename_i valid
      simp only [Option.some.injEq] at hit
      rw [← hit, validStart, ← ((valid_month_start_iff _).mp valid).2]
      exact valid
    · simp at hit
  · simp at hit

theorem parse_spent_valid {values : List BudgetSpent} {seen due : List PendingSpent} (parsed : parseSpent values seen = some due)
    (rows : ∀ row ∈ seen, RowValid row) (diff : seen.Pairwise (fun first second => first.targets second.keyID second.identity = false)) :
    (∀ row ∈ due, RowValid row) ∧ due.Pairwise (fun first second => first.targets second.keyID second.identity = false) := by
  induction values generalizing seen with
  | nil =>
    simp only [parseSpent, Option.some.injEq] at parsed
    exact parsed ▸ ⟨rows, diff⟩
  | cons v rest ih =>
    simp only [parseSpent] at parsed
    split at parsed
    · simp at parsed
    rename_i wellFormed
    cases hit : rowIdentity v with
    | none => simp [hit] at parsed
    | some identity =>
      simp only [hit] at parsed
      split at parsed
      · simp at parsed
      rename_i fresh
      have keyed : validKeyID v.keyID = true ∧ v.spent.isKnown = true := by
        simpa [validKnownMoney] using wellFormed
      apply ih parsed
      · intro row mem
        rcases List.mem_append.mp mem with old | new
        · exact rows row old
        · obtain rfl := List.mem_singleton.mp new
          exact ⟨keyed.1, keyed.2, row_identity_valid hit⟩
      · refine List.pairwise_append.mpr ⟨diff, List.pairwise_singleton _ _, ?_⟩
        intro first mem second last
        obtain rfl := List.mem_singleton.mp last
        have same : ∀ row ∈ seen, row.targets v.keyID identity = false := by simpa using fresh
        exact same first mem

theorem visited_once (seq : Nat) (order : List String) {keys : List String} (diff : keys.Nodup) :
    ∀ key ∈ keys, seq < seq + 1 + (visitOrder order keys).idxOf key ∧ seq + 1 + (visitOrder order keys).idxOf key ≤ seq + keys.length ∧
      ∀ other ∈ keys, seq + 1 + (visitOrder order keys).idxOf other = seq + 1 + (visitOrder order keys).idxOf key → other = key := by
  have visits : ∀ key, key ∈ visitOrder order keys ↔ key ∈ keys := by
    intro key
    by_cases ordered : key ∈ order <;> simp [visitOrder, ordered]
  have once : (visitOrder order keys).Nodup := by
    refine List.nodup_append.mpr ⟨List.nodup_dedup _, diff.filter _, ?_⟩
    intro first mem second late same
    simp only [List.mem_dedup, List.mem_filter, decide_eq_true_eq] at mem late
    exact late.2 (same ▸ mem.1)
  have length := (List.perm_of_nodup_nodup_toFinset_eq once diff (by ext key; simp [visits])).length_eq
  intro key mem
  have inside := List.idxOf_lt_length_of_mem ((visits key).mpr mem)
  refine ⟨by omega, by omega, fun other also same => ?_⟩
  exact List.idxOf_inj ((visits other).mpr also) |>.mp (by omega)

theorem load_outcome (lim : BudgetLimiter) (order : List String) (values : List BudgetSpent) :
    LoadOutcome lim values (loadSpent lim order values).1 (loadSpent lim order values).2 := by
  unfold loadSpent
  cases parsed : parseSpent values [] with
  | none => exact .refused _
  | some due =>
    dsimp only
    split
    · exact .refused _
    rename_i sane
    split
    · exact .refused _
    rename_i same
    split
    · exact .refused _
    obtain ⟨rows, diff⟩ := parse_spent_valid parsed (by simp) List.Pairwise.nil
    refine .loaded due parsed ⟨?_, rows, diff, ?_⟩ _ (fun key => by omega) _ (visited_once lim.sequence order (List.nodup_dedup _))
    · intro key st has
      simp only [Bool.not_eq_true', Bool.not_eq_false, FiniteMap.every_iff, Bool.and_eq_true] at sane
      exact (validate_iff st).mp (sane key st has).2
    · intro row mem st has
      have missing : ∀ row ∈ due, loadedRow lim row = false := by simpa using same
      simpa [loadedRow, has] using missing row mem

theorem place_outcome (gens : String → Nat) {row : PendingSpent}
    (vacant : ∀ st, lim.states.lookup row.keyID = some st → alreadyLoaded st row.identity = false) :
    PlaceOutcome gens lim row (placeSpent gens lim row) := by
  unfold placeSpent
  cases zero : isZeroMoney row.spent with
  | true => exact .zero zero
  | false =>
    cases has : lim.states.lookup row.keyID with
    | none => exact .fresh zero has
    | some st => exact .existing zero st has (vacant st has)

theorem held_set_spent (st : BudgetState) (identity alt : BudgetIdentity) (spent : Money) (diff : alt ≠ identity) :
    held (some (setSpent st identity spent)) alt = held (some st) alt := by
  cases identity with
  | total | day | month => cases alt <;> simp_all [setSpent]

theorem held_set_spent_same (spent : Money) (vacant : alreadyLoaded st identity = false) :
    ∃ cell, held (some (setSpent st identity spent)) identity = some cell ∧ cell.spent = spent ∧
      cell.active.amount = activeIn (held (some st) identity) ∧ (st.active.isKnown = true → cell.active.isKnown = true) := by
  cases identity with
  | total => exact ⟨⟨spent, st.active⟩, rfl, rfl, rfl, id⟩
  | day start =>
    have missing : held (some st) (.day start) = none := by simpa [alreadyLoaded] using vacant
    exact ⟨⟨spent, knownZeroMoney⟩, by simp [setSpent], rfl, by rw [missing]; rfl, fun _ => rfl⟩
  | month start =>
    have missing : held (some st) (.month start) = none := by simpa [alreadyLoaded] using vacant
    exact ⟨⟨spent, knownZeroMoney⟩, by simp [setSpent], rfl, by rw [missing]; rfl, fun _ => rfl⟩

theorem already_loaded_set_spent {identity alt : BudgetIdentity} {spent : Money} (diff : alt ≠ identity)
    (vacant : alreadyLoaded st alt = false) : alreadyLoaded (setSpent st identity spent) alt = false := by
  cases alt with
  | total =>
    cases identity with
    | total => exact absurd rfl diff
    | day | month => exact vacant
  | day => rw [alreadyLoaded, ← held_day, held_set_spent _ _ _ _ diff]; exact vacant
  | month => rw [alreadyLoaded, ← held_month, held_set_spent _ _ _ _ diff]; exact vacant

theorem vacant_after_place {lim next : BudgetLimiter} {row later : PendingSpent} (out : PlaceOutcome gens lim row next)
    (diff : row.targets later.keyID later.identity = false)
    (vacant : ∀ st, lim.states.lookup later.keyID = some st → alreadyLoaded st later.identity = false) :
    ∀ st, next.states.lookup later.keyID = some st → alreadyLoaded st later.identity = false := by
  intro st has
  have apart : later.keyID = row.keyID → later.identity ≠ row.identity := by
    intro sameKey sameIdentity
    simp [PendingSpent.targets, sameKey, sameIdentity] at diff
  cases out with
  | zero => exact vacant st has
  | existing _ old hit =>
    by_cases same : later.keyID = row.keyID
    · simp only [BudgetLimiter.store, FiniteMap.lookup_put, same, if_true, Option.some.injEq] at has
      subst has
      exact already_loaded_set_spent (apart same) (vacant old (same ▸ hit))
    · simp only [BudgetLimiter.store, FiniteMap.lookup_put, same, if_false] at has
      exact vacant st has
  | fresh =>
    by_cases same : later.keyID = row.keyID
    · simp only [BudgetLimiter.store, FiniteMap.lookup_put, same, if_true, Option.some.injEq] at has
      subst has
      apply already_loaded_set_spent (apart same)
      cases later.identity <;> simp [alreadyLoaded, blankState, Finmap.lookup_empty]
    · simp only [BudgetLimiter.store, FiniteMap.lookup_put, same, if_false] at has
      exact vacant st has

def loadedSpend (rows : List PendingSpent) (keyID : String) (identity : BudgetIdentity) : Nat :=
  (rows.map (fun row => if row.targets keyID identity then row.spent.amount else 0)).sum

@[simp] theorem loaded_spend_nil (key : String) (identity : BudgetIdentity) : loadedSpend [] key identity = 0 := rfl

theorem loaded_spend_append (first second : List PendingSpent) (key : String) (identity : BudgetIdentity) :
    loadedSpend (first ++ second) key identity = loadedSpend first key identity + loadedSpend second key identity := by
  simp [loadedSpend]

theorem loaded_spend_single (row : PendingSpent) (key : String) (identity : BudgetIdentity) :
    loadedSpend [row] key identity = if row.targets key identity then row.spent.amount else 0 := by
  simp [loadedSpend]

theorem loaded_spend_missed {rows : List PendingSpent} {key : String}
    (missed : ∀ row ∈ rows, row.targets key identity = false) : loadedSpend rows key identity = 0 := by
  apply List.sum_eq_zero
  intro entry mem
  obtain ⟨row, there, rfl⟩ := List.mem_map.mp mem
  simp [missed row there]

theorem place_rows (place : ∀ done lim row next, motive done lim → RowValid row →
      (∀ past ∈ done, past.targets row.keyID row.identity = false) → PlaceOutcome gens lim row next →
      motive (done ++ [row]) next) {done : List PendingSpent} (rows : ∀ row ∈ due, RowValid row)
    (diff : (done ++ due).Pairwise (fun first second => first.targets second.keyID second.identity = false))
    (vacant : ∀ row ∈ due, ∀ st, lim.states.lookup row.keyID = some st → alreadyLoaded st row.identity = false)
    (start : motive done lim) : motive (done ++ due) (due.foldl (placeSpent gens) lim) := by
  induction due generalizing lim done with
  | nil => simpa using start
  | cons row rest ih =>
    obtain ⟨_, remaining, across⟩ := List.pairwise_append.mp diff
    obtain ⟨apart, _⟩ := List.pairwise_cons.mp remaining
    have out := place_outcome gens (vacant row (by simp))
    have placed := place done lim row _ start (rows row (by simp)) (fun past mem => across past mem row (by simp)) out
    have later : ∀ alt ∈ rest, ∀ st, (placeSpent gens lim row).states.lookup alt.keyID = some st → alreadyLoaded st alt.identity = false := by
      intro alt mem
      exact vacant_after_place out (apart alt mem) (vacant alt (by simp [mem]))
    simpa using ih (fun alt mem => rows alt (by simp [mem])) (by simpa using diff) later placed

theorem load_rows (gens : String → Nat) {seq : Nat} (loadable : Loadable lim due) (place : ∀ done lim row next, motive done lim → RowValid row →
      (∀ past ∈ done, past.targets row.keyID row.identity = false) → PlaceOutcome gens lim row next → motive (done ++ [row]) next)
    (start : motive [] { lim with sequence := seq }) :
    motive due (due.foldl (placeSpent gens) { lim with sequence := seq }) := by
  have placed : motive ([] ++ due) (due.foldl (placeSpent gens) { lim with sequence := seq }) :=
    place_rows place loadable.rows loadable.distinct loadable.vacant start
  exact placed

end NineGateway.Budget
