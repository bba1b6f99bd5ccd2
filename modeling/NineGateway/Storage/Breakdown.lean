import Mathlib.Data.List.Dedup
import NineGateway.Library.Roster
import NineGateway.Storage.HistoryRecord

set_option autoImplicit false

namespace NineGateway.Storage

open Trace (Text)
open Roster

inductive Count where
  | total
  | successful
  | error
  | rejected
deriving DecidableEq, Repr

inductive Amount where
  | inputTokens
  | cachedInputTokens
  | outputTokens
  | costMicros
deriving DecidableEq, Repr

inductive Grouping where
  | model
  | outcome
  | key
deriving DecidableEq, Repr

def Count.includes : Count → HistoryRecord → Bool
  | total, _ => true
  | successful, row => oneOf row.terminalOutcome ["complete", "custom_dispatch"]
  | error, row => !oneOf row.terminalOutcome ["complete", "custom_dispatch", "pre_upstream"]
  | rejected, row => row.terminalOutcome = "pre_upstream"

def Amount.of : Amount → HistoryRecord → OptionalInt64
  | inputTokens, row => row.inputTokens
  | cachedInputTokens, row => row.cachedInputTokens
  | outputTokens, row => row.outputTokens
  | costMicros, row => row.costMicros

structure UsageAggregate where
  counts : Count → Int
  amounts : Amount → OptionalInt64

def countRows (count : Count) (rows : List HistoryRecord) : Int := Roster.total (fun row => if count.includes row then 1 else 0) rows

def sumRows (amount : Amount) (rows : List HistoryRecord) : Int := Roster.total (fun row => (amount.of row).getD 0) rows

-- A sum over no row, or over a row without the amount, is NULL.
def aggregate (rows : List HistoryRecord) : UsageAggregate :=
  { counts := fun count => countRows count rows
    amounts := fun amount => if rows.isEmpty || rows.any (fun row => (amount.of row).isNone) then none else some (sumRows amount rows) }

-- The key id of a stored row is empty once its key is deleted.
def Grouping.groupKey : Grouping → HistoryRecord → Text
  | model, row => row.model
  | outcome, row => if row.terminalOutcome = "" then "unknown".toUTF8 else row.terminalOutcome.toUTF8
  | key, row =>
    if row.effectiveKeyID ≠ .empty then row.effectiveKeyID
    else if row.keyName ≠ .empty then "deleted:".toUTF8 ++ row.keyName
    else "unknown".toUTF8

def Grouping.rowID (grouping : Grouping) (groupKey : Text) : Text :=
  if grouping = .model ∧ groupKey = .empty then "unknown".toUTF8 else groupKey

structure UsageBreakdownRow where
  id : Text
  usage : UsageAggregate

structure UsageBreakdownData where
  rows : List UsageBreakdownRow
  other : UsageBreakdownRow
  total : UsageAggregate

def inRange (after before : Int) (rows : List HistoryRecord) : List HistoryRecord :=
  rows.filter (fun row => row.finishedAt.any (fun finished => decide (after ≤ finished) && decide (finished ≤ before)))

def Grouping.group (grouping : Grouping) (rows : List HistoryRecord) (groupKey : Text) : List HistoryRecord :=
  rows.filter (fun row => grouping.groupKey row = groupKey)

def Grouping.ordered (grouping : Grouping) (rows : List HistoryRecord) (one two : Text) : Bool :=
  decide ((grouping.group rows two).length < (grouping.group rows one).length) ||
    decide ((grouping.group rows one).length = (grouping.group rows two).length) && decide (one.data.toList ≤ two.data.toList)

def Grouping.keys (grouping : Grouping) (rows : List HistoryRecord) : List Text := (rows.map grouping.groupKey).dedup

def breakdownLimit : Nat := 20

def Grouping.topGroups (grouping : Grouping) (rows : List HistoryRecord) : List Text :=
  ((grouping.keys rows).mergeSort (grouping.ordered rows)).take breakdownLimit

-- The table has a row of the key, and at most the limit of its keys come no
-- later: they have more rows, or as many and a text that is not greater.
def Grouping.Leads (grouping : Grouping) (rows : List HistoryRecord) (key : Text) : Prop :=
  (∃ row ∈ rows, grouping.groupKey row = key) ∧ ((grouping.keys rows).filter (grouping.ordered rows · key)).length ≤ breakdownLimit

-- One call and the rows inserted between its statement for the total and its
-- statement for the groups. The bounds come from statements before both.
structure BreakdownCall where
  early : List HistoryRecord
  late : List HistoryRecord
  after : Int
  before : Int
  grouping : Grouping

namespace BreakdownCall

def counted (call : BreakdownCall) : List HistoryRecord := inRange call.after call.before call.early

def grouped (call : BreakdownCall) : List HistoryRecord := inRange call.after call.before (call.early ++ call.late)

def groups (call : BreakdownCall) : List Text := if call.counted.isEmpty then [] else call.grouping.topGroups call.grouped

def rows (call : BreakdownCall) : List UsageBreakdownRow :=
  call.groups.map (fun key => ⟨call.grouping.rowID key, aggregate (call.grouping.group call.grouped key)⟩)

def otherCount (call : BreakdownCall) (count : Count) : Int :=
  (aggregate call.counted).counts count - Roster.total (fun row => row.usage.counts count) call.rows

def otherAmount (call : BreakdownCall) (amount : Amount) : OptionalInt64 :=
  if call.otherCount .total = 0 then some 0
  else ((aggregate call.counted).amounts amount).map (· - Roster.total (fun row => (row.usage.amounts amount).getD 0) call.rows)

def getUsageBreakdown (call : BreakdownCall) : UsageBreakdownData :=
  if call.counted.isEmpty then ⟨[], ⟨"other".toUTF8, ⟨fun _ => 0, fun _ => some 0⟩⟩, ⟨fun _ => 0, fun _ => some 0⟩⟩
  else ⟨call.rows, ⟨"other".toUTF8, ⟨call.otherCount, call.otherAmount⟩⟩, aggregate call.counted⟩

def shows (call : BreakdownCall) (row : HistoryRecord) : Bool := call.groups.any (fun key => call.grouping.groupKey row = key)

end BreakdownCall

open BreakdownCall

section Order

variable (grouping : Grouping) (rows : List HistoryRecord)

theorem ordered_iff (one two : Text) : grouping.ordered rows one two = true ↔
    (grouping.group rows two).length < (grouping.group rows one).length ∨
      (grouping.group rows one).length = (grouping.group rows two).length ∧ one.data.toList ≤ two.data.toList := by
  simp [Grouping.ordered]

theorem ordered_antisymm (one two : Text) (first : grouping.ordered rows one two) (second : grouping.ordered rows two one) : one = two := by
  rw [ordered_iff] at first second
  rcases first with more | ⟨same, below⟩
  · omega
  · rcases second with more | ⟨_, above⟩
    · omega
    · exact ByteArray.ext (Array.toList_inj.mp (List.le_antisymm below above))

theorem ordered_trans (one two three : Text) (first : grouping.ordered rows one two) (second : grouping.ordered rows two three) :
    grouping.ordered rows one three := by
  rw [ordered_iff] at *
  rcases first with more | ⟨same, below⟩ <;> rcases second with fewer | ⟨equal, above⟩
  · exact .inl (fewer.trans more)
  · exact .inl (equal ▸ more)
  · exact .inl (same ▸ fewer)
  · exact .inr ⟨same.trans equal, List.le_trans below above⟩

theorem ordered_total (one two : Text) : grouping.ordered rows one two || grouping.ordered rows two one := by
  rw [Bool.or_eq_true, ordered_iff, ordered_iff]
  rcases Nat.lt_trichotomy (grouping.group rows one).length (grouping.group rows two).length with fewer | same | more
  · exact .inr (.inl fewer)
  · exact (List.le_total one.data.toList two.data.toList).imp (fun below => .inr ⟨same, below⟩) fun above => .inr ⟨same.symm, above⟩
  · exact .inl (.inl more)

theorem mem_top_groups (key : Text) : key ∈ grouping.topGroups rows ↔ grouping.Leads rows key := by
  have perm := List.mergeSort_perm (grouping.keys rows) (grouping.ordered rows)
  have refl : ∀ one, grouping.ordered rows one one := fun one => by simpa using ordered_total grouping rows one one
  rw [Grouping.topGroups, mem_take_ranked (ordered_antisymm grouping rows)
    (List.pairwise_mergeSort (ordered_trans grouping rows) (ordered_total grouping rows) _)
    (perm.nodup_iff.mpr (List.nodup_dedup _)) refl, perm.mem_iff, (perm.filter _).length_eq]
  simp [Grouping.Leads, Grouping.keys]

end Order

section Groups

variable {w : HistoryRecord → Int} {call : BreakdownCall}

theorem total_split (w : HistoryRecord → Int) (keep : HistoryRecord → Bool) (rows : List HistoryRecord) :
    total w rows = total w (rows.filter keep) + total w (rows.filter (!keep ·)) := by
  induction rows with
  | nil => rfl
  | cons row rest ih =>
    simp only [total] at ih
    cases here : keep row <;> simp [total, here, ih] <;> omega

theorem total_groups (w : HistoryRecord → Int) (grouping : Grouping) (rows : List HistoryRecord) {keys : List Text} (unique : keys.Nodup) :
    total (fun key => total w (grouping.group rows key)) keys =
      total w (rows.filter (fun row => keys.any (fun key => grouping.groupKey row = key))) := by
  induction keys with
  | nil => simp [total]
  | cons key keys ih =>
    obtain ⟨apart, unique⟩ := List.nodup_cons.mp unique
    have split := total_split w (fun row => grouping.groupKey row = key)
      (rows.filter (fun row => (key :: keys).any (fun key => grouping.groupKey row = key)))
    have inside : ∀ row : HistoryRecord, (decide (grouping.groupKey row = key) && (key :: keys).any (fun key => grouping.groupKey row = key)) =
        decide (grouping.groupKey row = key) := by
      intro row
      by_cases here : grouping.groupKey row = key <;> simp [here]
    have outside : ∀ row : HistoryRecord, (!decide (grouping.groupKey row = key) && (key :: keys).any (fun key => grouping.groupKey row = key)) =
        keys.any (fun key => grouping.groupKey row = key) := by
      intro row
      by_cases here : grouping.groupKey row = key
      · have gone : keys.any (fun alt => key = alt) = false := by
          simp only [List.any_eq_false, decide_eq_true_eq]
          rintro alt mem rfl
          exact apart mem
        simp [here, gone]
      · simp [here]
    rw [split, List.filter_filter, List.filter_filter, funext inside, funext outside, ← ih unique]
    rfl

theorem groups_unique (call : BreakdownCall) : call.groups.Nodup := by
  unfold groups
  split
  · exact List.nodup_nil
  · exact (List.take_sublist _ _).nodup ((List.mergeSort_perm _ _).nodup_iff.mpr (List.nodup_dedup _))

theorem total_shown (w : HistoryRecord → Int) (call : BreakdownCall) :
    total (fun key => total w (call.grouping.group call.grouped key)) call.groups =
      total w (call.counted.filter call.shows) + total w ((inRange call.after call.before call.late).filter call.shows) := by
  have both : call.grouped = call.counted ++ inRange call.after call.before call.late := List.filter_append ..
  rw [total_groups w call.grouping call.grouped (groups_unique call), both, List.filter_append]
  simp only [total, List.map_append, List.sum_append]
  rfl

theorem other_count (call : BreakdownCall) (count : Count) : call.otherCount count = countRows count (call.counted.filter (!call.shows ·)) -
      countRows count ((inRange call.after call.before call.late).filter call.shows) := by
  have split := total_split (fun row => if count.includes row then 1 else 0) call.shows call.counted
  have shown := total_shown (fun row => if count.includes row then 1 else 0) call
  have sum : total (fun row => row.usage.counts count) call.rows =
      total (fun key => countRows count (call.grouping.group call.grouped key)) call.groups := by
    simp [rows, total, aggregate, Function.comp_def]
  rw [otherCount, sum]
  unfold countRows aggregate countRows
  simp only
  omega

theorem known_amount {amount : Amount} {rows : List HistoryRecord} (known : rows.any (fun row => (amount.of row).isNone) = false) :
    ((aggregate rows).amounts amount).getD 0 = sumRows amount rows := by
  unfold aggregate
  cases rows with
  | nil => rfl
  | cons => simp [known]

-- With no insert in between, a known total is the known rows and the rest.
theorem quiet_amount {amount : Amount} {total : Int} (quiet : inRange call.after call.before call.late = [])
    (known : (aggregate call.counted).amounts amount = some total) :
    Roster.total (fun row => (row.usage.amounts amount).getD 0) call.rows = sumRows amount (call.counted.filter call.shows) ∧
      total = sumRows amount (call.counted.filter call.shows) + sumRows amount (call.counted.filter (!call.shows ·)) := by
  have all : call.counted.any (fun row => (amount.of row).isNone) = false := by
    unfold aggregate at known
    cases has : call.counted.any (fun row => (amount.of row).isNone) <;> simp_all
  have whole : total = sumRows amount call.counted := by
    rw [← known_amount all, known]
    rfl
  have shown := total_shown (fun row => (amount.of row).getD 0) call
  have same : call.grouped = call.counted := by
    rw [grouped, inRange, List.filter_append]
    simp only [inRange] at quiet
    rw [quiet, List.append_nil]
    rfl
  refine ⟨?_, whole.trans (total_split _ call.shows _)⟩
  rw [quiet, same] at shown
  simp only [List.filter_nil, Roster.total_nil, Int.add_zero] at shown
  rw [sumRows, ← shown, rows, same]
  simp only [Roster.total, List.map_map]
  refine congrArg List.sum (List.map_congr_left fun key _ => known_amount ?_)
  simp only [Grouping.group, List.any_eq_false, List.mem_filter] at all ⊢
  exact fun row mem => all row mem.1

end Groups

namespace BreakdownCall

def Balanced (call : BreakdownCall) : Prop :=
  ∀ count, 0 ≤ call.getUsageBreakdown.other.usage.counts count ∧
    Roster.total (fun row => row.usage.counts count) call.getUsageBreakdown.rows + call.getUsageBreakdown.other.usage.counts count =
      call.getUsageBreakdown.total.counts count

def AmountsBalanced (call : BreakdownCall) : Prop :=
  ∀ amount total, call.getUsageBreakdown.total.amounts amount = some total →
    ∃ rest, call.getUsageBreakdown.other.usage.amounts amount = some rest ∧ 0 ≤ rest ∧
      Roster.total (fun row => (row.usage.amounts amount).getD 0) call.getUsageBreakdown.rows + rest = total

end BreakdownCall

section Results

variable {call : BreakdownCall}

theorem no_rows (empty : call.counted.isEmpty = true) : call.getUsageBreakdown =
    ⟨[], ⟨"other".toUTF8, ⟨fun _ => 0, fun _ => some 0⟩⟩, ⟨fun _ => 0, fun _ => some 0⟩⟩ ∧
    call.groups = [] :=
  ⟨if_pos empty, if_pos empty⟩

theorem some_rows (filled : ¬ call.counted.isEmpty = true) :
    call.getUsageBreakdown = ⟨call.rows, ⟨"other".toUTF8, ⟨call.otherCount, call.otherAmount⟩⟩, aggregate call.counted⟩ :=
  if_neg filled

theorem balanced_iff (call : BreakdownCall) : call.Balanced ↔
    ∀ count, countRows count ((inRange call.after call.before call.late).filter call.shows) ≤ countRows count (call.counted.filter
      (!call.shows ·)) := by
  by_cases empty : call.counted.isEmpty = true
  · obtain ⟨out, none⟩ := no_rows empty
    have blank : call.counted = [] := List.isEmpty_iff.mp empty
    have hidden : call.shows = fun _ => false := funext fun row => by simp [shows, none]
    simp [BreakdownCall.Balanced, out, blank, hidden, countRows]
  · unfold BreakdownCall.Balanced
    rw [some_rows empty]
    refine forall_congr' fun count => ?_
    have left := other_count call count
    have sum : Roster.total (fun row => row.usage.counts count) call.rows + call.otherCount count = (aggregate call.counted).counts count := by
      unfold otherCount
      omega
    simp only
    omega

theorem amounts_balanced (stored : ∀ row ∈ call.early, ∀ (amount : Amount) (value : Int), amount.of row = some value → 0 ≤ value)
    (quiet : inRange call.after call.before call.late = []) : call.AmountsBalanced := by
  intro amount total known
  by_cases empty : call.counted.isEmpty = true
  · obtain ⟨out, _⟩ := no_rows empty
    rw [out] at known ⊢
    exact ⟨0, rfl, Int.le_refl 0, by simpa using known⟩
  rw [some_rows empty] at known ⊢
  obtain ⟨sum, whole⟩ := quiet_amount quiet known
  have least : 0 ≤ sumRows amount (call.counted.filter (!call.shows ·)) := by
    refine List.sum_nonneg fun value mem => ?_
    obtain ⟨row, inside, rfl⟩ := List.mem_map.mp mem
    cases has : amount.of row with
    | none => exact Int.le_refl 0
    | some value => exact stored row (List.mem_of_mem_filter (List.mem_of_mem_filter inside)) amount value has
  simp only [otherAmount, sum]
  split
  · rename_i all
    rw [other_count, quiet] at all
    have none : call.counted.filter (!call.shows ·) = [] := by
      rw [← List.length_eq_zero_iff]
      simpa [countRows, Roster.total, Count.includes] using all
    exact ⟨0, rfl, Int.le_refl 0, by rw [whole, none]; simp [sumRows]⟩
  · refine ⟨total - sumRows amount (call.counted.filter call.shows), by rw [known]; rfl, by omega, by omega⟩

theorem all_shown (filled : call.counted ≠ []) (few : (call.grouping.keys call.grouped).length ≤ breakdownLimit) {row : HistoryRecord}
    (mem : row ∈ call.grouped) : call.shows row = true := by
  have leads : call.grouping.groupKey row ∈ call.grouping.topGroups call.grouped :=
    (mem_top_groups ..).mpr ⟨⟨row, mem, rfl⟩, (List.length_filter_le _ _).trans few⟩
  simp [shows, groups, filled, leads]

-- While every key has its row, any insert in between makes the remainder negative.
theorem few_balanced_quiet (filled : call.counted ≠ []) (few : (call.grouping.keys call.grouped).length ≤ breakdownLimit) (balanced : call.Balanced) :
    inRange call.after call.before call.late = [] := by
  have both : call.grouped = call.counted ++ inRange call.after call.before call.late := List.filter_append ..
  have shown : (inRange call.after call.before call.late).filter call.shows = inRange call.after call.before call.late :=
    List.filter_eq_self.mpr fun row mem => all_shown filled few (both ▸ List.mem_append_right _ mem)
  have hidden : call.counted.filter (!call.shows ·) = [] :=
    List.filter_eq_nil_iff.mpr fun row mem => by simp [all_shown filled few (both ▸ List.mem_append_left _ mem)]
  have none := (balanced_iff call).mp balanced .total
  rw [shown, hidden] at none
  simpa [countRows, Roster.total, Count.includes] using none

theorem breakdown_remainder (call : BreakdownCall) :
    (inRange call.after call.before call.late = [] → call.Balanced ∧
      ((∀ row ∈ call.early, ∀ (amount : Amount) (value : Int), amount.of row = some value → 0 ≤ value) → call.AmountsBalanced)) ∧
      (call.counted ≠ [] → (call.grouping.keys call.grouped).length ≤ breakdownLimit → call.Balanced →
        inRange call.after call.before call.late = []) := by
  refine ⟨fun quiet => ⟨?_, fun stored => amounts_balanced stored quiet⟩, few_balanced_quiet⟩
  rw [balanced_iff, quiet]
  intro count
  refine List.sum_nonneg fun value mem => ?_
  obtain ⟨row, _, rfl⟩ := List.mem_map.mp mem
  split <;> decide

theorem ids_distinct_iff (call : BreakdownCall) :
    (call.getUsageBreakdown.rows.map UsageBreakdownRow.id ++ [call.getUsageBreakdown.other.id]).Nodup ↔
      "other".toUTF8 ∉ call.groups ∧ ¬ (call.grouping = .model ∧ .empty ∈ call.groups ∧ "unknown".toUTF8 ∈ call.groups) := by
  by_cases empty : call.counted.isEmpty = true
  · obtain ⟨out, none⟩ := no_rows empty
    simp [out, none]
  · have ids : call.rows.map UsageBreakdownRow.id = call.groups.map call.grouping.rowID := by simp [rows]
    have fresh : "other".toUTF8 ∉ call.groups.map call.grouping.rowID ↔ "other".toUTF8 ∉ call.groups := by
      simp only [List.mem_map, Grouping.rowID, not_iff_not]
      constructor
      · rintro ⟨key, mem, same⟩
        split at same
        · exact absurd same (by decide +kernel)
        · exact same ▸ mem
      · exact fun mem => ⟨_, mem, if_neg fun blank => absurd blank.2 (by decide +kernel)⟩
    have apart : (call.groups.map call.grouping.rowID).Nodup ↔
        ¬ (call.grouping = .model ∧ .empty ∈ call.groups ∧ "unknown".toUTF8 ∈ call.groups) := by
      rw [List.nodup_map_iff_inj_on (groups_unique call)]
      constructor
      · rintro distinct ⟨model, blank, unknown⟩
        exact absurd (distinct _ blank _ unknown (by simp [Grouping.rowID, model])) (by decide +kernel)
      · intro single one first two second same
        unfold Grouping.rowID at same
        split at same <;> split at same
        · simp_all
        · rename_i blank _
          exact absurd ⟨blank.1, blank.2 ▸ first, same ▸ second⟩ single
        · rename_i _ blank
          exact absurd ⟨blank.1, blank.2 ▸ second, same ▸ first⟩ single
        · exact same
    rw [some_rows empty, ids, List.nodup_append_comm, List.singleton_append, List.nodup_cons, fresh, apart]

theorem breakdown_ids_distinct (call : BreakdownCall) :
    (call.getUsageBreakdown.rows.map UsageBreakdownRow.id ++ [call.getUsageBreakdown.other.id]).Nodup ↔ call.counted = [] ∨
      ¬ call.grouping.Leads call.grouped "other".toUTF8 ∧
        ¬ (call.grouping = .model ∧ call.grouping.Leads call.grouped .empty ∧ call.grouping.Leads call.grouped "unknown".toUTF8) := by
  rw [ids_distinct_iff]
  by_cases empty : call.counted = []
  · simp [groups, empty]
  · simp [groups, empty, mem_top_groups]

end Results

def storedRow (model : Text) : HistoryRecord :=
  ⟨"00000000000000000000000000000000".toUTF8, .empty, .empty, .empty, .empty, .empty, "", model, "", "", "", none, none,
    "", false, "", none, none, none,
    some 3, some 4, none, none, none, none, none, none, none, none, some 1, none, none, none, none⟩

def lateInsert : BreakdownCall := ⟨[storedRow "a".toUTF8], [storedRow "a".toUTF8], 0, 9, .model⟩

theorem breakdown_remainder_negative : ¬ lateInsert.Balanced :=
  fun balanced => absurd (balanced .total).1 (by decide +kernel)

-- The insert in between lies outside the range.
def outsideInsert : BreakdownCall :=
  ⟨[storedRow "a".toUTF8, storedRow "b".toUTF8], [{ storedRow "a".toUTF8 with finishedAt := some 10 }], 0, 9, .model⟩

theorem breakdown_remainder_quiet : outsideInsert.getUsageBreakdown.total.amounts .inputTokens = some 6 ∧ outsideInsert.Balanced ∧
    outsideInsert.AmountsBalanced ∧ inRange 0 9 outsideInsert.late = [] := by
  obtain ⟨balanced, amounts⟩ := (breakdown_remainder outsideInsert).1 (by decide +kernel)
  refine ⟨by decide +kernel, balanced, amounts ?_, (breakdown_remainder outsideInsert).2 (by decide +kernel) (by decide +kernel) balanced⟩
  intro row mem amount value has
  simp only [outsideInsert, List.mem_cons, List.not_mem_nil, or_false] at mem
  rcases mem with rfl | rfl <;> cases amount <;> cases has <;> decide

theorem breakdown_ids_other_model : validateHistoryRecord (storedRow "other".toUTF8) = .ok () ∧
    ¬ ((BreakdownCall.getUsageBreakdown ⟨[storedRow "other".toUTF8], [], 0, 9, .model⟩).rows.map UsageBreakdownRow.id ++
      [(BreakdownCall.getUsageBreakdown ⟨[storedRow "other".toUTF8], [], 0, 9, .model⟩).other.id]).Nodup :=
  ⟨by decide +kernel, by decide +kernel⟩

end NineGateway.Storage
