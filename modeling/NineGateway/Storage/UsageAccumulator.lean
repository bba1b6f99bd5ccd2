import NineGateway.Storage.UsageBuckets

set_option autoImplicit false

namespace NineGateway.Storage

open Token (CommittedTokenDelta)
open Transition

-- The key of Sink. Window.Duration / time.Second truncates.
def usageIdentity (delta : CommittedTokenDelta) : UsageIdentity :=
  ⟨delta.keyID, delta.bucketStart, delta.window.duration.tdiv secondNanos, delta.window.amount⟩

def usageSink (delta : CommittedTokenDelta) : AccumulatorCall UsageIdentity := .sink (usageIdentity delta) delta.committedDelta

abbrev UsageAccumulation := Accumulation UsageIdentity UsageTable

def usageStep : UsageAccumulation → AccumulatorCall UsageIdentity → Option (UsageAccumulation × AccumulatorReply UsageBucketError) :=
  accumulate false upsertCommittedDeltas

-- With a restore that never meets an exact opposite, what is persisted, pending
-- and under way is what was persisted at first and what Sink has accepted since.
theorem usage_deltas_conserved {table : UsageTable} {calls : List (AccumulatorCall UsageIdentity)} {system : UsageAccumulation}
    {replies : List (AccumulatorReply UsageBucketError)} (fits : Transition.Along usageStep (Restoring Fits) (newAccumulation table) calls)
    (uncancelled : Transition.Along usageStep (Restoring Uncancelled) (newAccumulation table) calls)
    (run : Transition.execute usageStep (newAccumulation table) calls = some (system, replies)) (identity : UsageIdentity) :
    system.held UsageTable.persisted identity =
      table.persisted identity + Transition.tally usageStep (accepted identity) (newAccumulation table) calls := by
  have both : Along usageStep (Restoring (Conserving false)) (newAccumulation table) calls := by
    refine along_mono (fun st call kept => ?_) (along_and fits uncancelled)
    exact restoring_mono (fun _ _ kept => ⟨kept.1, fun _ => kept.2⟩) (restoring_and kept.1 kept.2)
  have held := held_run upsert_committed_adds (by simp [Tidy, newAccumulation]) both run identity
  rwa [new_accumulation_held] at held

def oneKeyTable : UsageTable := { rows := ∅, keys := ["key-1"] }

def hourIdentity : UsageIdentity := ⟨"key-1", 0, 3600, 100⟩

def refundedRetry : List (AccumulatorCall UsageIdentity) :=
  [.sink hourIdentity 5, .take [hourIdentity], .write 0 false, .sink hourIdentity (-3), .restore 0, .take [hourIdentity], .write 1 true]

theorem refunded_retry_runs :
    (execute usageStep (newAccumulation oneKeyTable) refundedRetry).map (fun out => out.1.table.persisted hourIdentity) = some 2 := by
  decide +kernel

theorem usage_deltas_conserved_retry : ∃ system replies,
    Transition.execute usageStep (newAccumulation oneKeyTable) refundedRetry = some (system, replies) ∧
    system.table.persisted hourIdentity = 2 ∧ ∀ identity, system.held UsageTable.persisted identity =
      oneKeyTable.persisted identity + Transition.tally usageStep (accepted identity) (newAccumulation oneKeyTable) refundedRetry := by
  obtain ⟨⟨system, replies⟩, run, written⟩ := Option.map_eq_some_iff.mp refunded_retry_runs
  exact ⟨system, replies, run, written, usage_deltas_conserved (by decide +kernel) (by decide +kernel) run⟩

-- The refund that arrives is the whole of the failed batch: restore leaves it in
-- the map and the batch is lost.
def cancelledRetry : List (AccumulatorCall UsageIdentity) :=
  [.sink hourIdentity 5, .take [hourIdentity], .write 0 false, .sink hourIdentity (-5), .restore 0]

theorem cancelled_batch_lost : ∃ system replies,
    Transition.execute usageStep (newAccumulation oneKeyTable) cancelledRetry = some (system, replies) ∧
    Transition.Along usageStep (Restoring Fits) (newAccumulation oneKeyTable) cancelledRetry ∧
    Transition.tally usageStep (accepted hourIdentity) (newAccumulation oneKeyTable) cancelledRetry = 0 ∧
    oneKeyTable.persisted hourIdentity = 0 ∧ system.held UsageTable.persisted hourIdentity = -5 := by
  have ran : (execute usageStep (newAccumulation oneKeyTable) cancelledRetry).map
      (fun out => out.1.held UsageTable.persisted hourIdentity) = some (-5) := by decide +kernel
  obtain ⟨⟨system, replies⟩, run, lost⟩ := Option.map_eq_some_iff.mp ran
  exact ⟨system, replies, run, by decide +kernel, by decide +kernel, by decide +kernel, lost⟩

end NineGateway.Storage
