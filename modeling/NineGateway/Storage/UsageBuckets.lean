import NineGateway.Storage.Accumulator
import NineGateway.Storage.Batch
import NineGateway.Token.Limiter
import Mathlib.Data.Prod.Lex
import Mathlib.Data.String.Basic

set_option autoImplicit false

namespace NineGateway.Storage

open Coalesce (amount batchAmount)

-- The identity under which the accumulator gathers: a UsageBucketDelta without
-- its CommittedDelta.
structure UsageIdentity where
  apiKeyID : String
  bucketStart : Int
  bucketSeconds : Int
  bucketAmount : Int
deriving DecidableEq, Repr

-- The primary key of usage_bucket_identities, with the start in seconds.
structure UsageRowKey where
  apiKeyID : String
  bucketStart : Int
  bucketSeconds : Int
  bucketAmount : Int
deriving DecidableEq, Repr

-- The rows with their committed_tokens, and the ids in api_keys that they refer to.
structure UsageTable where
  rows : FiniteMap UsageRowKey Int
  keys : List String

inductive UsageBucketError where
  | invalid
  | underflow
  | writeFailed
deriving DecidableEq, Repr

def UsageIdentity.row (identity : UsageIdentity) : UsageRowKey :=
  ⟨identity.apiKeyID, unix identity.bucketStart, identity.bucketSeconds, identity.bucketAmount⟩

def validateUsageBucketIdentity (keyID : String) (start seconds : Int) : Bool :=
  decide (keyID ≠ "") && decide (nanosecond start = 0) && decide (0 ≤ unix start) && decide (0 < seconds) &&
    decide (seconds ≤ Word64.maxInt64 / secondNanos) && decide (unix start % seconds = 0)

def checkUsageDelta (identity : UsageIdentity) (delta : Int) : Option UsageBucketError :=
  if delta = Word64.minInt64 then some .underflow
  else if !validateUsageBucketIdentity identity.apiKeyID identity.bucketStart identity.bucketSeconds then some .invalid
  else if identity.bucketAmount ≤ 0 then some .invalid
  else none

-- One statement of the transaction. An UPDATE that finds no row with enough in it
-- changes none. A sum beyond int64 becomes a REAL in SQLite and fails the row's
-- CHECK, an unknown key its REFERENCES.
def upsertUsage (keys : List String) (rows : FiniteMap UsageRowKey Int) (identity : UsageIdentity) (delta : Int) :
    Except UsageBucketError (FiniteMap UsageRowKey Int) :=
  if delta < 0 then
    if -delta ≤ amount rows identity.row then .ok (Finmap.insert identity.row (amount rows identity.row + delta) rows) else .error .underflow
  else if identity.apiKeyID ∉ keys then .error .writeFailed
  else if Word64.maxInt64 < amount rows identity.row + delta then .error .writeFailed
  else .ok (Finmap.insert identity.row (amount rows identity.row + delta) rows)

def upsertCommittedDeltas (table : UsageTable) (deltas : List (UsageIdentity × Int)) : Except UsageBucketError UsageTable :=
  (applyBatch checkUsageDelta (upsertUsage table.keys) table.rows deltas).map (fun rows => { table with rows := rows })

-- What the table holds for an identity of the accumulator. A start inside a
-- second has no row.
def UsageTable.persisted (table : UsageTable) (identity : UsageIdentity) : Int :=
  if nanosecond identity.bucketStart = 0 then amount table.rows identity.row else 0

structure UsageBucket where
  apiKeyID : String
  bucketStart : Int
  bucketSeconds : Int
  bucketAmount : Int
  committedTokens : Int
deriving DecidableEq, Repr

-- The ORDER BY of LoadUnexpired.
def UsageRowKey.place (row : UsageRowKey) : String ×ₗ Int ×ₗ Int ×ₗ Int :=
  toLex (row.apiKeyID, toLex (row.bucketStart, toLex (row.bucketSeconds, row.bucketAmount)))

theorem place_injective : Function.Injective UsageRowKey.place := by
  rintro ⟨key, start, seconds, amt⟩ ⟨otherID, otherStart, otherSeconds, otherAmount⟩ same
  simpa [UsageRowKey.place] using same

def UsageRowKey.lapsed (now : Int) (row : UsageRowKey) : Bool := decide (row.bucketStart + row.bucketSeconds ≤ unix now)

variable {now d : Int} {id : UsageIdentity}

theorem lapsed_iff {row : UsageRowKey} : row.lapsed now = true ↔ row.bucketStart + row.bucketSeconds ≤ unix now := decide_eq_true_iff

def deleteExpired (now : Int) (table : UsageTable) : UsageTable := { table with rows := table.rows.retain (fun row _ => !row.lapsed now) }

def UsageRowKey.bucket (row : UsageRowKey) (committed : Int) : UsageBucket :=
  ⟨row.apiKeyID, row.bucketStart * secondNanos, row.bucketSeconds, row.bucketAmount, committed⟩

def UsageBucket.valid (bucket : UsageBucket) : Bool :=
  validateUsageBucketIdentity bucket.apiKeyID bucket.bucketStart bucket.bucketSeconds && decide (0 < bucket.bucketAmount) &&
    decide (0 ≤ bucket.committedTokens)

def UsageTable.unexpired (table : UsageTable) (now : Int) : List UsageBucket :=
  ((table.rows.listing UsageRowKey.place place_injective).filter (fun row => !row.lapsed now)).map (fun row => row.bucket (amount table.rows row))

def loadUnexpired (table : UsageTable) (now : Int) : Except UsageBucketError (List UsageBucket) :=
  if (table.unexpired now).all UsageBucket.valid then .ok (table.unexpired now) else .error .invalid

theorem mem_unexpired {table : UsageTable} {bin : UsageBucket} :
    bin ∈ table.unexpired now ↔ ∃ row v, table.rows.lookup row = some v ∧ row.lapsed now = false ∧ bin = row.bucket v := by
  simp only [UsageTable.unexpired, List.mem_map, List.mem_filter, FiniteMap.mem_listing, Bool.not_eq_true']
  constructor
  · rintro ⟨row, ⟨has, open_⟩, rfl⟩
    obtain ⟨v, hit⟩ := Option.isSome_iff_exists.mp has
    exact ⟨row, v, hit, open_, by simp [amount, hit]⟩
  · rintro ⟨row, v, hit, open_, rfl⟩
    exact ⟨row, ⟨by simp [hit], open_⟩, by simp [amount, hit]⟩

theorem row_injective {left right : UsageIdentity} (leftWhole : nanosecond left.bucketStart = 0) (rightWhole : nanosecond right.bucketStart = 0)
    (same : left.row = right.row) : left = right := by
  obtain ⟨key, start, seconds, amt⟩ := left
  obtain ⟨otherID, otherStart, otherSeconds, otherAmount⟩ := right
  simp only [UsageIdentity.row, UsageRowKey.mk.injEq] at same
  obtain ⟨rfl, starts, rfl, rfl⟩ := same
  have equal : start = otherStart := by
    simp only [unix, nanosecond, secondNanos] at *
    omega
  rw [equal]

theorem checked_usage_whole (passed : checkUsageDelta id d = none) : nanosecond id.bucketStart = 0 := by
  unfold checkUsageDelta at passed
  split at passed
  · cases passed
  split at passed
  · cases passed
  · rename_i valid
    simp only [validateUsageBucketIdentity, Bool.not_eq_true', Bool.not_eq_false, Bool.and_eq_true, decide_eq_true_eq] at valid
    exact valid.1.1.1.1.2

theorem upsert_usage_some {keys : List String} {rows next : FiniteMap UsageRowKey Int} (upserted : upsertUsage keys rows id d = .ok next) :
    next = Finmap.insert id.row (amount rows id.row + d) rows := by
  unfold upsertUsage at upserted
  split at upserted
  · split at upserted
    · exact (Except.ok.inj upserted).symm
    · cases upserted
  split at upserted
  · cases upserted
  · split at upserted
    · cases upserted
    · exact (Except.ok.inj upserted).symm

theorem upsert_committed_adds : Adds UsageTable.persisted upsertCommittedDeltas := by
  intro table batch next applied id
  obtain ⟨_, done, rfl⟩ := map_ok applied
  exact apply_batch_persisted (fun _ _ _ passed => checked_usage_whole passed) (fun _ _ _ _ applied => upsert_usage_some applied)
    (fun _ _ => row_injective) done id

end NineGateway.Storage
