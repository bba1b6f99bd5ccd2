import NineGateway.Clock
import NineGateway.Security.Input
import Mathlib.Data.List.Nodup

set_option autoImplicit false

namespace NineGateway.Storage

open Security (validateIdentifier blank)

def hmacDigestSize : Nat := 32

-- Times are whole seconds of the Unix epoch, as the columns hold them. The policy
-- document is opaque here.
structure APIKeyRecord where
  id : String
  name : String
  displayPrefix : String
  digest : List UInt8
  enabled : Bool
  expiresAt : Option Int
  createdAt : Int
  updatedAt : Int
  policyJSON : ByteArray
deriving DecidableEq

inductive APIKeyError where
  | notFound
  | conflict
  | invalidRecord
  | writeFailed
deriving DecidableEq, Repr

def validTimestamp (seconds : Int) : Bool := decide (seconds ≠ unix zeroTime)

def APIKeyRecord.validate (record : APIKeyRecord) : Bool :=
  validateIdentifier record.id && !blank record.name && !blank record.displayPrefix && decide (record.digest.length = hmacDigestSize) &&
    validTimestamp record.createdAt && validTimestamp record.updatedAt && decide (record.createdAt ≤ record.updatedAt) &&
    record.expiresAt.all validTimestamp

-- What the schema keeps unique: the primary key, the prefix index and the hash.
structure APIKeyIdentity where
  id : String
  displayPrefix : String
  digest : List UInt8
deriving DecidableEq

def APIKeyRecord.identity (record : APIKeyRecord) : APIKeyIdentity := ⟨record.id, record.displayPrefix, record.digest⟩

-- The rows in the order of their rowid. No statement of the program deletes one.
structure APIKeyTable where
  rows : List APIKeyRecord
  uniqueIDs : (rows.map APIKeyRecord.id).Nodup
  uniquePrefixes : (rows.map APIKeyRecord.displayPrefix).Nodup
  uniqueDigests : (rows.map APIKeyRecord.digest).Nodup

namespace APIKeyTable

def empty : APIKeyTable := ⟨[], .nil, .nil, .nil⟩

def byID (left right : APIKeyRecord) : Bool := decide (left.id ≤ right.id)

def list (table : APIKeyTable) : Option (List APIKeyRecord) :=
  if table.rows.all APIKeyRecord.validate then some (table.rows.mergeSort byID) else none

def clashes (table : APIKeyTable) (record : APIKeyRecord) : Bool :=
  table.rows.any (fun row => row.id = record.id || row.displayPrefix = record.displayPrefix || row.digest = record.digest)

section Insertion

variable {table : APIKeyTable} {record : APIKeyRecord}

theorem clash_free (free : table.clashes record = false) :
    ∀ row ∈ table.rows, row.id ≠ record.id ∧ row.displayPrefix ≠ record.displayPrefix ∧ row.digest ≠ record.digest := by
  simpa [clashes, not_or, and_assoc] using free

theorem nodup_append_fresh {α : Type} {rows : List APIKeyRecord} (field : APIKeyRecord → α) (unique : (rows.map field).Nodup)
    (new : ∀ row ∈ rows, field row ≠ field record) : ((rows ++ [record]).map field).Nodup := by
  simp only [List.map_append, List.map_cons, List.map_nil, List.nodup_append, List.nodup_singleton, List.mem_map, List.mem_singleton]
  refine ⟨unique, trivial, ?_⟩
  rintro _ ⟨row, mem, rfl⟩ _ rfl
  exact new row mem

end Insertion

def append (table : APIKeyTable) (record : APIKeyRecord) (free : table.clashes record = false) : APIKeyTable where
  rows := table.rows ++ [record]
  uniqueIDs := nodup_append_fresh APIKeyRecord.id table.uniqueIDs (fun row member => (clash_free free row member).1)
  uniquePrefixes := nodup_append_fresh APIKeyRecord.displayPrefix table.uniquePrefixes (fun row member => (clash_free free row member).2.1)
  uniqueDigests := nodup_append_fresh APIKeyRecord.digest table.uniqueDigests (fun row member => (clash_free free row member).2.2)

def insert (table : APIKeyTable) (record : APIKeyRecord) : Except APIKeyError APIKeyTable :=
  if record.validate = false then .error .invalidRecord
  else if free : table.clashes record = false then .ok (table.append record free)
  else .error .conflict

end APIKeyTable

-- SET enabled = ?, policy_json = ?, updated_at = max(updated_at, created_at, ?).
def APIKeyRecord.withPolicy (record : APIKeyRecord) (enabled : Bool) (policyJSON : ByteArray) (now : Int) : APIKeyRecord :=
  { record with enabled := enabled, policyJSON := policyJSON, updatedAt := max (max record.updatedAt record.createdAt) now }

theorem with_policy_identity (row : APIKeyRecord) (enabled : Bool) (policyJSON : ByteArray) (now : Int) :
    (row.withPolicy enabled policyJSON now).identity = row.identity := rfl

def whereID (id : String) (change : APIKeyRecord → APIKeyRecord) (record : APIKeyRecord) : APIKeyRecord :=
  if record.id = id then change record else record

theorem where_id_field {α : Type} (change : APIKeyRecord → APIKeyRecord) (keeps : ∀ row, (change row).identity = row.identity)
    (field : APIKeyIdentity → α) (id : String) (rows : List APIKeyRecord) :
    (rows.map (whereID id change)).map (fun row => field row.identity) = rows.map (fun row => field row.identity) := by
  rw [List.map_map]
  refine List.map_congr_left (fun row _ => ?_)
  simp only [Function.comp_apply, whereID]
  split
  · rw [keeps row]
  · rfl

namespace APIKeyTable

def rewrite (table : APIKeyTable) (id : String) (change : APIKeyRecord → APIKeyRecord) (keeps : ∀ row, (change row).identity = row.identity) :
    APIKeyTable where
  rows := table.rows.map (whereID id change)
  uniqueIDs := (where_id_field change keeps APIKeyIdentity.id id table.rows).symm ▸ table.uniqueIDs
  uniquePrefixes := (where_id_field change keeps APIKeyIdentity.displayPrefix id table.rows).symm ▸ table.uniquePrefixes
  uniqueDigests := (where_id_field change keeps APIKeyIdentity.digest id table.rows).symm ▸ table.uniqueDigests

-- UPDATE ... RETURNING. A returned row that does not scan is reported as a failed
-- write, and a write that reports an error is taken to have changed nothing.
def updatePolicyRecord (table : APIKeyTable) (id : String) (enabled : Bool) (policyJSON : ByteArray) (now : Int) :
    Except APIKeyError (APIKeyTable × APIKeyRecord) :=
  if validateIdentifier id = false then .error .invalidRecord
  else
    match table.rows.find? (fun row => row.id = id) with
    | none => .error .notFound
    | some row =>
      let updated := row.withPolicy enabled policyJSON now
      if updated.validate then
        .ok (table.rewrite id (fun row => row.withPolicy enabled policyJSON now) (fun row => with_policy_identity row enabled policyJSON now),
          updated)
      else .error .writeFailed

end APIKeyTable

end NineGateway.Storage
