import Mathlib.Data.Finmap
import Mathlib.Data.List.Sort

set_option autoImplicit false

-- A finite map with one value type, over Mathlib's extensional Finmap. What is
-- added here is bulk deletion, a universal check over the entries, an emptiness
-- test, a listing of the keys in a given order, and lookup after an update in a
-- form the simplifier can use.
abbrev FiniteMap (κ ν : Type) := Finmap (fun _ : κ => ν)

namespace FiniteMap

variable {κ ν : Type}

def retain (keep : κ → ν → Bool) (map : FiniteMap κ ν) : FiniteMap κ ν where
  entries := map.entries.filter (fun entry => keep entry.1 entry.2)
  nodupKeys := by
    rw [← Multiset.nodup_keys]
    exact Multiset.nodup_of_le (Multiset.map_le_map (Multiset.filter_le _ _)) (Multiset.nodup_keys.mpr map.nodupKeys)

def every (check : κ → ν → Bool) (map : FiniteMap κ ν) : Bool :=
  decide (∀ entry ∈ map.entries, check entry.1 entry.2 = true)

def vacant (map : FiniteMap κ ν) : Bool := decide (Multiset.card map.entries = 0)

variable [DecidableEq κ]

@[simp] theorem lookup_put (map : FiniteMap κ ν) (key q : κ) (v : ν) :
    (Finmap.insert key v map).lookup q = if q = key then some v else map.lookup q := by
  by_cases same : q = key
  · subst q
    simp [Finmap.lookup_insert]
  · simp [Finmap.lookup_insert_of_ne map same, same]

@[simp] theorem lookup_drop (map : FiniteMap κ ν) (key q : κ) : (Finmap.erase key map).lookup q = if q = key then none else map.lookup q := by
  by_cases same : q = key
  · subst q
    simp [Finmap.lookup_erase]
  · simp [Finmap.lookup_erase_ne same, same]

@[simp] theorem lookup_retain (keep : κ → ν → Bool) (map : FiniteMap κ ν) (q : κ) :
    (retain keep map).lookup q = (map.lookup q).filter (keep q) := by
  apply Option.ext
  intro v
  rw [Finmap.lookup_eq_some_iff, Option.filter_eq_some_iff, Finmap.lookup_eq_some_iff]
  simp [retain, Multiset.mem_filter]

theorem every_iff (check : κ → ν → Bool) (map : FiniteMap κ ν) :
    every check map = true ↔ ∀ key v, map.lookup key = some v → check key v = true := by
  simp only [every, decide_eq_true_eq, Finmap.lookup_eq_some_iff]
  exact ⟨fun all key v mem => all ⟨key, v⟩ mem, fun all entry mem => all entry.1 entry.2 mem⟩

theorem vacant_iff (map : FiniteMap κ ν) : vacant map = true ↔ ∀ key, map.lookup key = none := by
  simp only [vacant, decide_eq_true_eq, Multiset.card_eq_zero]
  constructor
  · intro empty key
    have same : map = ∅ := Finmap.ext (by rw [empty]; rfl)
    rw [same, Finmap.lookup_empty]
  · intro gone
    have same : map = ∅ := Finmap.ext_lookup (fun key => by rw [gone key, Finmap.lookup_empty])
    rw [same]
    rfl

-- A pass over distinct keys that, at each key, changes nothing but the entry
-- there. The pass may carry more than the map.
theorem lookup_pass {σ : Type} {visit : σ → κ → σ} (view : σ → FiniteMap κ ν) (change : κ → Option ν → Option ν)
    (confined : ∀ st key q, (view (visit st key)).lookup q = if q = key then change key ((view st).lookup key) else (view st).lookup q)
    {keys : List κ} (diff : keys.Nodup) (st : σ) (q : κ) : (view (keys.foldl visit st)).lookup q =
      if q ∈ keys then change q ((view st).lookup q) else (view st).lookup q := by
  induction keys generalizing st with
  | nil => simp
  | cons key _ ih =>
    obtain ⟨apart, others⟩ := List.nodup_cons.mp diff
    rw [List.foldl_cons, ih others (visit st key), confined st key q]
    by_cases same : q = key
    · subst q
      simp [apart]
    · simp [same]

section Listing

variable {γ : Type} [LinearOrder γ] (place : κ → γ)

omit [DecidableEq κ] in
theorem insertion_sort_unique (apart : Function.Injective place) {left right : List κ} (same : left.Perm right) :
    left.insertionSort (fun one alt => place one ≤ place alt) = right.insertionSort (fun one alt => place one ≤ place alt) := by
  refine List.Perm.eq_of_pairwise (fun one alt _ _ below above => apart (le_antisymm below above)) (List.pairwise_insertionSort _ _)
    (List.pairwise_insertionSort _ _) ?_
  exact (List.perm_insertionSort _ left).trans (same.trans (List.perm_insertionSort _ right).symm)

def listing (apart : Function.Injective place) (map : FiniteMap κ ν) : List κ :=
  Quot.liftOn map.keys.val (List.insertionSort (fun one other => place one ≤ place other)) (fun _ _ same => insertion_sort_unique place apart same)

omit [DecidableEq κ] in
theorem listing_perm (apart : Function.Injective place) (map : FiniteMap κ ν) : (listing place apart map : Multiset κ) = map.keys.val := by
  unfold listing
  generalize map.keys.val = keys
  induction keys using Quot.inductionOn with
  | h => exact Quot.sound (List.perm_insertionSort _ _)

theorem mem_listing (apart : Function.Injective place) {map : FiniteMap κ ν} {key : κ} :
    key ∈ listing place apart map ↔ (map.lookup key).isSome = true := by
  rw [← Multiset.mem_coe, listing_perm, Finset.mem_val, Finmap.mem_keys, Finmap.lookup_isSome]

end Listing

end FiniteMap
