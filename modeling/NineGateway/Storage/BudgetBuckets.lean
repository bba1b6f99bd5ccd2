import NineGateway.Storage.Accumulator
import NineGateway.Storage.Batch

set_option autoImplicit false

namespace NineGateway.Storage

open Coalesce (amount batchAmount)

-- A limiter.BudgetPeriod once Sink has read "" as the total.
inductive BucketPeriod where
  | total
  | day
  | month
  | other (text : String)
deriving DecidableEq, Repr

def bucketPeriod (text : String) : BucketPeriod :=
  if text = "" ∨ text = "total" then .total
  else if text = "day" then .day
  else if text = "month" then .month
  else .other text

-- A BudgetBucketDelta without its SpentDelta.
structure BudgetBucketIdentity where
  apiKeyID : String
  period : BucketPeriod
  periodStart : Int
deriving DecidableEq, Repr

-- The primary key of budget_buckets, with the start in seconds.
structure BudgetRowKey where
  apiKeyID : String
  periodKind : BucketPeriod
  periodStart : Int
deriving DecidableEq, Repr

structure BudgetTable where
  rows : FiniteMap BudgetRowKey Int
  keys : List String

inductive BudgetBucketError where
  | invalid
  | underflow
  | overflow
  | unknownKey
deriving DecidableEq, Repr

def maxBudgetUnixTimestamp : Int := 253402300799

def BudgetBucketIdentity.bucketStart (identity : BudgetBucketIdentity) : Int :=
  match identity.period with
  | .day => unix identity.periodStart
  | .month => unix identity.periodStart
  | _ => 0

def BudgetBucketIdentity.row (identity : BudgetBucketIdentity) : BudgetRowKey := ⟨identity.apiKeyID, identity.period, identity.bucketStart⟩

def BudgetBucketIdentity.validPeriod (identity : BudgetBucketIdentity) : Bool :=
  match identity.period with
  | .total => decide (identity.periodStart = zeroTime)
  | .day => validDayStart identity.periodStart
  | .month => validMonthStart identity.periodStart
  | .other _ => false

def checkBudgetDelta (identity : BudgetBucketIdentity) (delta : Int) : Option BudgetBucketError :=
  if identity.validPeriod = false then some .invalid
  else if identity.apiKeyID = "" then some .invalid
  else if delta = Word64.minInt64 then some .underflow
  else none

-- The CHECK of period_start. Its calendar part follows from a valid period.
def storablePeriod (start : Int) : Bool := decide (0 ≤ start) && decide (start ≤ maxBudgetUnixTimestamp)

-- One delta of the transaction, after the check that its key exists.
def applyBudgetDelta (keys : List String) (rows : FiniteMap BudgetRowKey Int) (identity : BudgetBucketIdentity) (delta : Int) :
    Except BudgetBucketError (FiniteMap BudgetRowKey Int) :=
  if identity.apiKeyID ∉ keys then .error .unknownKey
  else if delta < 0 then
    if -delta ≤ amount rows identity.row then .ok (Finmap.insert identity.row (amount rows identity.row + delta) rows)
    else if (rows.lookup identity.row).isNone then .error .unknownKey
    else .error .underflow
  else if storablePeriod identity.bucketStart = false ∨ Word64.maxInt64 < amount rows identity.row + delta then .error .overflow
  else .ok (Finmap.insert identity.row (amount rows identity.row + delta) rows)

def applyDeltas (table : BudgetTable) (deltas : List (BudgetBucketIdentity × Int)) : Except BudgetBucketError BudgetTable :=
  (applyBatch checkBudgetDelta (applyBudgetDelta table.keys) table.rows deltas).map (fun rows => { table with rows := rows })

def BudgetTable.persisted (table : BudgetTable) (identity : BudgetBucketIdentity) : Int :=
  if identity.validPeriod then amount table.rows identity.row else 0

open BudgetBucketIdentity

theorem midnight_unix {start alt : Int} (whole : start = currentDay start) (otherWhole : alt = currentDay alt) (same : unix start = unix alt) :
    start = alt := by
  rw [current_day_eq] at whole otherWhole
  simp only [unix, secondNanos, dayNanos, dayNumber] at *
  omega

theorem month_start_midnight {start : Int} (first : start = currentMonth start) : start = currentDay start := by
  rw [current_month_eq] at first
  conv_lhs => rw [first]
  conv_rhs => rw [first]
  rw [current_day_eq, day_number_midnight]

theorem budget_row_injective {left right : BudgetBucketIdentity} (leftValid : left.validPeriod = true) (rightValid : right.validPeriod = true)
    (same : left.row = right.row) : left = right := by
  obtain ⟨_, period, start⟩ := left
  obtain ⟨_, _, otherStart⟩ := right
  simp only [row, BudgetRowKey.mk.injEq] at same
  obtain ⟨rfl, rfl, starts⟩ := same
  suffices equal : start = otherStart by rw [equal]
  cases period with
  | total =>
    simp only [validPeriod, decide_eq_true_eq] at leftValid rightValid
    rw [leftValid, rightValid]
  | day =>
    simp only [validPeriod, valid_day_start_iff] at leftValid rightValid
    exact midnight_unix leftValid.2 rightValid.2 starts
  | month =>
    simp only [validPeriod, valid_month_start_iff] at leftValid rightValid
    exact midnight_unix (month_start_midnight leftValid.2) (month_start_midnight rightValid.2) starts
  | other => cases leftValid

variable {id : BudgetBucketIdentity} {err : BudgetBucketError} {batch : List (BudgetBucketIdentity × Int)} {keys : List String}
variable {rows : FiniteMap BudgetRowKey Int} {d : Int}

theorem checked_budget_valid (passed : checkBudgetDelta id d = none) : id.validPeriod = true := by
  unfold checkBudgetDelta at passed
  split at passed
  · cases passed
  · rename_i valid
    simpa using valid

theorem apply_budget_some {rows next : FiniteMap BudgetRowKey Int} (applied : applyBudgetDelta keys rows id d = .ok next) :
    next = Finmap.insert id.row (amount rows id.row + d) rows := by
  unfold applyBudgetDelta at applied
  split at applied
  · cases applied
  split at applied
  · split at applied
    · exact (Except.ok.inj applied).symm
    · split at applied <;> cases applied
  · split at applied
    · cases applied
    · exact (Except.ok.inj applied).symm

theorem apply_deltas_adds : Adds BudgetTable.persisted applyDeltas := by
  intro table batch next applied id
  obtain ⟨_, done, rfl⟩ := map_ok applied
  exact apply_batch_persisted (fun _ _ _ passed => checked_budget_valid passed) (fun _ _ _ _ applied => apply_budget_some applied)
    (fun _ _ => budget_row_injective) done id

theorem apply_budget_error (known : id.apiKeyID ∈ keys) (backed : 0 ≤ amount rows id.row + d)
    (denied : applyBudgetDelta keys rows id d = .error err) : err = .overflow := by
  unfold applyBudgetDelta at denied
  rw [if_neg (not_not.mpr known)] at denied
  split at denied
  · rw [if_pos (by omega)] at denied
    cases denied
  · split at denied <;> cases denied
    rfl

theorem apply_each_error (distinct : (batch.map Prod.fst).Nodup) (valid : ∀ entry ∈ batch, entry.1.validPeriod = true)
    (known : ∀ entry ∈ batch, entry.1.apiKeyID ∈ keys) (backed : ∀ entry ∈ batch, 0 ≤ amount rows entry.1.row + entry.2)
    (denied : applyEach (applyBudgetDelta keys) rows batch = .error err) : err = .overflow := by
  induction batch generalizing rows with
  | nil => cases denied
  | cons entry rest ih =>
    obtain ⟨id, d⟩ := entry
    obtain ⟨apart, others⟩ := List.nodup_cons.mp distinct
    rw [List.forall_mem_cons] at valid known backed
    simp only [applyEach] at denied
    split at denied
    · rename_i first
      cases denied
      exact apply_budget_error known.1 backed.1 first
    rename_i middle first
    refine ih others valid.2 known.2 (fun alt mem => ?_) denied
    have diff : alt.1.row ≠ id.row := by
      intro same
      have equal := budget_row_injective (valid.2 alt mem) valid.1 same
      exact apart (equal ▸ List.mem_map_of_mem mem)
    rw [apply_budget_some first, Coalesce.amount_put, if_neg diff]
    exact backed.2 alt mem

theorem apply_deltas_error {table : BudgetTable} (diff : (batch.map Prod.fst).Nodup)
    (known : ∀ entry ∈ batch, entry.2 ≠ 0 → entry.1.apiKeyID ∈ table.keys) (representable : ∀ entry ∈ batch, entry.2 ≠ Word64.minInt64)
    (backed : ∀ id, 0 ≤ table.persisted id + batchAmount batch id)
    (denied : applyDeltas table batch = .error err) : err = .invalid ∨ err = .overflow := by
  have done := map_error denied
  unfold applyBatch at done
  split at done
  · rename_i drawn
    cases done
    obtain ⟨entry, mem, checked⟩ := valid_deltas_error drawn
    unfold checkBudgetDelta at checked
    rw [if_neg (representable entry mem)] at checked
    split at checked
    · exact .inl (Option.some.inj checked).symm
    · split at checked
      · exact .inl (Option.some.inj checked).symm
      · cases checked
  · cases done
  · rename_i drawn
    obtain ⟨inside, passed, _⟩ := valid_deltas_some drawn
    have proper := fun alt mem => checked_budget_valid (passed alt mem).2
    refine .inr (apply_each_error ((inside.map _).nodup diff) proper (fun alt mem => known alt (inside.subset mem) (passed alt mem).1)
      (fun alt mem => ?_) (map_error done))
    have enough := backed alt.1
    rw [BudgetTable.persisted, if_pos (proper alt mem), Coalesce.batch_entry diff (inside.subset mem)] at enough
    exact enough

end NineGateway.Storage
