import NineGateway.Library.FiniteMap
import Mathlib.Algebra.BigOperators.Group.List.Basic
import Mathlib.Algebra.Ring.Int.Defs

set_option autoImplicit false

-- Signed changes gathered under identities. An identity without an entry stands
-- at zero, and a batch is a list of changes that may name an identity more than
-- once.
namespace Coalesce

variable {κ : Type} [DecidableEq κ]

def amount (buffer : FiniteMap κ Int) (identity : κ) : Int := (buffer.lookup identity).getD 0

def share (identity : κ) (entry : κ × Int) : Int := if entry.1 = identity then entry.2 else 0

def batchAmount (batch : List (κ × Int)) (identity : κ) : Int := (batch.map (share identity)).sum

@[simp] theorem amount_empty (id : κ) : amount (∅ : FiniteMap κ Int) id = 0 := by
  simp [amount, Finmap.lookup_empty]

variable (buffer : FiniteMap κ Int)
include buffer

@[simp] theorem amount_put (key id : κ) (v : Int) : amount (Finmap.insert key v buffer) id = if id = key then v else amount buffer id := by
  unfold amount
  rw [FiniteMap.lookup_put]
  split <;> rfl

@[simp] theorem amount_drop (key id : κ) : amount (Finmap.erase key buffer) id = if id = key then 0 else amount buffer id := by
  unfold amount
  rw [FiniteMap.lookup_drop]
  split <;> rfl

theorem amount_add (key id : κ) (d : Int) :
    amount (Finmap.insert key (amount buffer key + d) buffer) id = amount buffer id + if id = key then d else 0 := by
  rw [amount_put]
  split
  · rename_i here
    rw [here]
  · exact (Int.add_zero _).symm

theorem amount_nonzero (id : κ) : amount (buffer.retain (fun _ v => decide (v ≠ 0))) id = amount buffer id := by
  unfold amount
  rw [FiniteMap.lookup_retain]
  cases buffer.lookup id with
  | none => rfl
  | some v => by_cases zero : v = 0 <;> simp [Option.filter, zero]

omit buffer

@[simp] theorem batch_nil (id : κ) : batchAmount [] id = 0 := rfl

@[simp] theorem batch_cons (entry : κ × Int) (batch : List (κ × Int)) (id : κ) :
    batchAmount (entry :: batch) id = share id entry + batchAmount batch id := by
  simp [batchAmount]

variable {batch : List (κ × Int)} {order : List κ}

theorem batch_absent {id : κ} (gone : ∀ entry ∈ batch, entry.1 = id → entry.2 = 0) : batchAmount batch id = 0 := by
  induction batch with
  | nil => rfl
  | cons entry _ ih =>
    have here : share id entry = 0 := by
      unfold share
      split
      · exact gone entry (by simp) ‹_›
      · rfl
    rw [batch_cons, here, ih (fun alt mem => gone alt (by simp [mem])), Int.add_zero]

theorem batch_entry {entry : κ × Int} (distinct : (batch.map Prod.fst).Nodup) (mem : entry ∈ batch) : batchAmount batch entry.1 = entry.2 := by
  induction batch with
  | nil => cases mem
  | cons head rest ih =>
    obtain ⟨apart, others⟩ := List.nodup_cons.mp distinct
    rw [batch_cons]
    rcases List.mem_cons.mp mem with rfl | later
    · have gone : batchAmount rest entry.1 = 0 :=
        batch_absent (fun alt there same => absurd (same ▸ List.mem_map_of_mem there) apart)
      rw [gone, share, if_pos rfl, Int.add_zero]
    · have diff : head.1 ≠ entry.1 := fun same => apart (same ▸ List.mem_map_of_mem later)
      rw [ih others later, share, if_neg diff, Int.zero_add]

def drain (order : List κ) (buffer : FiniteMap κ Int) : List (κ × Int) := order.map (fun identity => (identity, amount buffer identity))

def Lists (order : List κ) (buffer : FiniteMap κ Int) : Prop := order.Nodup ∧ order.toFinset = buffer.keys

instance (order : List κ) (buffer : FiniteMap κ Int) : Decidable (Lists order buffer) :=
  inferInstanceAs (Decidable (order.Nodup ∧ order.toFinset = buffer.keys))

theorem drain_amount (diff : order.Nodup) (buffer : FiniteMap κ Int) (id : κ) :
    batchAmount (drain order buffer) id = if id ∈ order then amount buffer id else 0 := by
  induction order with
  | nil => simp [drain]
  | cons head _ ih =>
    obtain ⟨apart, others⟩ := List.nodup_cons.mp diff
    have later := ih others
    simp only [drain, List.map_cons, batch_cons, share] at later ⊢
    rw [later]
    by_cases here : head = id
    · subst head
      simp [apart]
    · simp [here, Ne.symm here]

theorem drain_all {buffer : FiniteMap κ Int} (lists : Lists order buffer) (id : κ) :
    batchAmount (drain order buffer) id = amount buffer id := by
  rw [drain_amount lists.1]
  split
  · rfl
  · rename_i gone
    have unlisted : id ∉ buffer.keys := lists.2 ▸ (fun mem => gone (List.mem_toFinset.mp mem))
    have missing : buffer.lookup id = none := Finmap.lookup_eq_none.mpr (fun mem => unlisted (Finmap.mem_keys.mpr mem))
    simp [amount, missing]

theorem drain_keys (order : List κ) (buffer : FiniteMap κ Int) : (drain order buffer).map Prod.fst = order := by
  simp [drain, Function.comp_def]

end Coalesce
