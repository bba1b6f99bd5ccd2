import NineGateway.Storage.BudgetBuckets

set_option autoImplicit false

namespace NineGateway.Storage

abbrev BudgetAccumulation := Accumulation BudgetBucketIdentity BudgetTable

def budgetStep : BudgetAccumulation → AccumulatorCall BudgetBucketIdentity → Option (BudgetAccumulation × AccumulatorReply BudgetBucketError) :=
  accumulate true applyDeltas

def budgetSink (keyID period : String) (periodStart delta : Int) : AccumulatorCall BudgetBucketIdentity :=
  .sink ⟨keyID, bucketPeriod period, periodStart⟩ delta

-- A restore that deletes what comes to zero gives back exactly what was taken.
theorem budget_deltas_conserved {table : BudgetTable} {calls : List (AccumulatorCall BudgetBucketIdentity)} {system : BudgetAccumulation}
    {replies : List (AccumulatorReply BudgetBucketError)} (fits : Transition.Along budgetStep (Restoring Fits) (newAccumulation table) calls)
    (run : Transition.execute budgetStep (newAccumulation table) calls = some (system, replies)) (identity : BudgetBucketIdentity) :
    system.held BudgetTable.persisted identity =
      table.persisted identity + Transition.tally budgetStep (accepted identity) (newAccumulation table) calls := by
  have conserving : Transition.Along budgetStep (Restoring (Conserving true)) (newAccumulation table) calls :=
    Transition.along_mono (fun _ _ kept => restoring_mono (fun _ _ fits => ⟨fits, fun absurd => by cases absurd⟩) kept) fits
  have held := held_run apply_deltas_adds (by simp [Tidy, newAccumulation]) conserving run identity
  rwa [new_accumulation_held] at held

def oneKeyBudgets : BudgetTable := { rows := ∅, keys := ["key-1"] }

def lifetime : BudgetBucketIdentity := ⟨"key-1", .total, zeroTime⟩

def cancelledCharge : List (AccumulatorCall BudgetBucketIdentity) :=
  [budgetSink "key-1" "" zeroTime 5, .take [lifetime], .write 0 false, budgetSink "key-1" "total" zeroTime (-5), .restore 0]

theorem budget_deltas_conserved_cancelled : ∃ system replies,
    Transition.execute budgetStep (newAccumulation oneKeyBudgets) cancelledCharge = some (system, replies) ∧
    system.held BudgetTable.persisted lifetime = 0 ∧ ∀ identity, system.held BudgetTable.persisted identity =
      oneKeyBudgets.persisted identity + Transition.tally budgetStep (accepted identity) (newAccumulation oneKeyBudgets) cancelledCharge := by
  have ran : (Transition.execute budgetStep (newAccumulation oneKeyBudgets) cancelledCharge).map
      (fun out => out.1.held BudgetTable.persisted lifetime) = some 0 := by decide +kernel
  obtain ⟨⟨system, replies⟩, run, empty⟩ := Option.map_eq_some_iff.mp ran
  exact ⟨system, replies, run, empty, budget_deltas_conserved (by decide +kernel) run⟩

end NineGateway.Storage
