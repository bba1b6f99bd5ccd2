import NineGateway.Security.Input
import NineGateway.Budget.State
import NineGateway.Token.Limiter
import Mathlib.Data.List.Nodup

set_option autoImplicit false

namespace NineGateway.Auth

open Token (TokenWindow)

inductive TokenMode where
  | usageOnly
  | estimate
deriving DecidableEq, Repr

-- The policy compiler, and what the gateway reads out of a compiled policy when
-- it replaces one. Auth.Policy has the grammar of the documents.
structure PolicyCompiler (Policy : Type) where
  parsePolicyJSONWithTokenMode : ByteArray → TokenMode → Option Policy
  tokenWindows : Policy → List TokenWindow
  totalBudget : Policy → Money × Bool
  dailyBudget : Policy → Money × Bool
  monthlyBudget : Policy → Money × Bool

def PolicyCompiler.parsePolicyJSON {Policy : Type} (compiler : PolicyCompiler Policy) (document : ByteArray) : Option Policy :=
  compiler.parsePolicyJSONWithTokenMode document .estimate

structure Record where
  id : String
  name : String
  displayPrefix : String
  digest : List UInt8
  enabled : Bool
  expiresAt : Option Int
  policyJSON : ByteArray
deriving DecidableEq

structure SnapshotRecord (Policy : Type) where
  id : String
  name : String
  digest : List UInt8
  enabled : Bool
  expiresAt : Option Int
  policyJSON : ByteArray
  policy : Policy

abbrev Snapshot (Policy : Type) := FiniteMap String (List (SnapshotRecord Policy))

def gatewayKeyNamespace : String := "sk-gw-"
def prefixLength : Nat := 14
def digestSize : Nat := 32

def prefixCharacter (character : Char) : Bool := character.isAlphanum || character = '-' || character = '_'

def validDisplayPrefix (value : String) : Bool :=
  decide (value.utf8ByteSize = prefixLength) && gatewayKeyNamespace.toList.isPrefixOf value.toList &&
    (value.toList.drop gatewayKeyNamespace.length).all prefixCharacter

section Building

variable {Policy : Type} (compiler : PolicyCompiler Policy) (mode : TokenMode)

def candidateOf (record : Record) (policy : Policy) : SnapshotRecord Policy :=
  { id := record.id, name := record.name, digest := record.digest, enabled := record.enabled, expiresAt := record.expiresAt
    policyJSON := record.policyJSON, policy := policy }

def candidate (record : Record) : Option (SnapshotRecord Policy) :=
  if !validDisplayPrefix record.displayPrefix || Security.blank record.id || decide (record.digest.length ≠ digestSize) then none
  else (compiler.parsePolicyJSONWithTokenMode record.policyJSON mode).map (candidateOf record)

def push (snapshot : Snapshot Policy) (key : String) (entry : SnapshotRecord Policy) : Snapshot Policy :=
  Finmap.insert key ((snapshot.lookup key).getD [] ++ [entry]) snapshot

def buildFrom (start : Snapshot Policy) (records : List Record) : Option (Snapshot Policy) :=
  records.foldlM (fun snapshot record => (candidate compiler mode record).map (push snapshot record.displayPrefix)) start

def buildSnapshot (records : List Record) : Option (Snapshot Policy) := buildFrom compiler mode ∅ records

def extended (pre : Option (List (SnapshotRecord Policy))) (added : List (SnapshotRecord Policy)) : Option (List (SnapshotRecord Policy)) :=
  if added.isEmpty then pre else some (pre.getD [] ++ added)

def candidatesAt (key : String) (rows : List Record) : List (SnapshotRecord Policy) :=
  (rows.filter (fun row => row.displayPrefix = key)).filterMap (candidate compiler mode)

theorem extended_push (pre : Option (List (SnapshotRecord Policy))) (entry : SnapshotRecord Policy) (added : List (SnapshotRecord Policy)) :
    extended (some (pre.getD [] ++ [entry])) added = extended pre (entry :: added) := by
  cases added <;> simp [extended]

theorem build_from_some (rows : List Record) (start : Snapshot Policy) :
    (buildFrom compiler mode start rows).isSome = rows.all (fun row => (candidate compiler mode row).isSome) := by
  induction rows generalizing start with
  | nil => rfl
  | cons row _ ih =>
    cases compiled : candidate compiler mode row with
    | none => simp [buildFrom, compiled]
    | some entry => simpa [buildFrom, compiled] using ih (push start row.displayPrefix entry)

theorem build_from_lookup {rows : List Record} {start snapshot : Snapshot Policy} (built : buildFrom compiler mode start rows = some snapshot)
    (key : String) : snapshot.lookup key = extended (start.lookup key) (candidatesAt compiler mode key rows) := by
  induction rows generalizing start with
  | nil =>
    have same : start = snapshot := by simpa [buildFrom] using built
    simp [same, extended, candidatesAt]
  | cons row rest ih =>
    cases compiled : candidate compiler mode row with
    | none => simp [buildFrom, compiled] at built
    | some entry =>
      have later : buildFrom compiler mode (push start row.displayPrefix entry) rest = some snapshot := by
        simpa [buildFrom, compiled] using built
      rw [ih later]
      by_cases here : row.displayPrefix = key
      · subst key
        have shown : candidatesAt compiler mode row.displayPrefix (row :: rest) =
            entry :: candidatesAt compiler mode row.displayPrefix rest := by simp [candidatesAt, compiled]
        rw [shown, ← extended_push]
        simp [push]
      · simp [push, here, Ne.symm here, candidatesAt]

theorem single_prefix {rows : List Record} (unique : (rows.map Record.displayPrefix).Nodup) (key : String) :
    (rows.filter (fun row => row.displayPrefix = key)).length ≤ 1 := by
  have alike : (rows.filter (fun row => row.displayPrefix = key)).map Record.displayPrefix =
      List.replicate (rows.filter (fun row => row.displayPrefix = key)).length key := by
    refine List.eq_replicate_iff.mpr ⟨by simp, ?_⟩
    intro v mem
    obtain ⟨_, kept, rfl⟩ := List.mem_map.mp mem
    simpa using (List.mem_filter.mp kept).2
  have diff : ((rows.filter (fun row => row.displayPrefix = key)).map Record.displayPrefix).Nodup :=
    unique.sublist (List.filter_sublist.map Record.displayPrefix)
  rwa [alike, List.nodup_replicate] at diff

theorem build_perm {left right : List Record} (order : left.Perm right) (unique : (left.map Record.displayPrefix).Nodup) :
    buildSnapshot compiler mode left = buildSnapshot compiler mode right := by
  have defined : (buildSnapshot compiler mode left).isSome = (buildSnapshot compiler mode right).isSome := by
    simp only [buildSnapshot, build_from_some]
    exact Bool.eq_iff_iff.mpr (by simp [order.mem_iff])
  have alike : ∀ key, candidatesAt compiler mode key left = candidatesAt compiler mode key right := by
    intro key
    have shuffled := order.filter (fun row => row.displayPrefix = key)
    have single := single_prefix unique key
    unfold candidatesAt
    match found : left.filter (fun row => row.displayPrefix = key) with
    | [] => rw [found] at shuffled; rw [found, shuffled.symm.eq_nil]
    | [row] => rw [found] at shuffled; rw [found, shuffled.symm.eq_singleton]
    | _ :: _ :: _ => simp [found] at single
  cases one : buildSnapshot compiler mode left with
  | none =>
    rw [one] at defined
    exact (Option.isSome_eq_false_iff.mp defined.symm |> Option.isNone_iff_eq_none.mp).symm
  | some =>
    rw [one] at defined
    obtain ⟨_, two⟩ := Option.isSome_iff_exists.mp defined.symm
    rw [two, Option.some.injEq]
    refine Finmap.ext_lookup (fun key => ?_)
    rw [build_from_lookup compiler mode one, build_from_lookup compiler mode two, alike key]

end Building

end NineGateway.Auth
