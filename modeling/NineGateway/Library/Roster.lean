import Mathlib.Algebra.Order.BigOperators.Group.List
import Mathlib.Algebra.Order.Group.Nat
import Mathlib.Algebra.Order.Group.Int
import Mathlib.Tactic.Abel

set_option autoImplicit false

-- Records addressed by their position. Entries are appended and overwritten,
-- never removed, and a weight summed over the roster follows each update.
namespace Roster

variable {α : Type}

section Total

variable {M : Type} [AddCommMonoid M]

def total (weight : α → M) (roster : List α) : M := (roster.map weight).sum

@[simp] theorem total_nil (w : α → M) : total w [] = 0 := rfl

@[simp] theorem total_append (w : α → M) (roster : List α) (new : α) : total w (roster ++ [new]) = total w roster + w new := by
  simp [total]

theorem total_set (w : α → M) (roster : List α) (i : Nat) (old new : α) (has : roster[i]? = some old) :
    total w (roster.set i new) + w old = total w roster + w new := by
  induction roster generalizing i with
  | nil => simp at has
  | cons head _ ih =>
    cases i with
    | zero =>
      have same : head = old := by simpa using has
      simp only [total, List.set_cons_zero, List.map_cons, List.sum_cons, same]
      abel
    | succ i =>
      have rest := ih i (by simpa using has)
      simp only [total, List.set_cons_succ, List.map_cons, List.sum_cons] at rest ⊢
      rw [add_assoc, rest, add_assoc]

theorem weight_le_total [PartialOrder M] [IsOrderedAddMonoid M] (w : α → M) (roster : List α) (i : Nat) (entry : α)
    (has : roster[i]? = some entry) (nonneg : ∀ entry ∈ roster, 0 ≤ w entry) : w entry ≤ total w roster := by
  have mem : entry ∈ roster := List.mem_of_getElem? has
  refine List.single_le_sum ?_ _ (List.mem_map_of_mem mem)
  intro v shown
  obtain ⟨alt, inside, rfl⟩ := List.mem_map.mp shown
  exact nonneg alt inside

end Total

theorem set_same (roster : List α) (i : Nat) (entry : α) (has : roster[i]? = some entry) : roster.set i entry = roster := by
  obtain ⟨_, same⟩ := List.getElem?_eq_some_iff.mp has
  rw [← same, List.set_getElem_self]

variable {roster : List α} {property : α → Prop} {i : Nat} {entry : α}

theorem set_first {κ : Type} [DecidableEq κ] (key : α → κ) (change : α → α) {wanted : κ} (diff : (roster.map key).Nodup)
    (has : roster[roster.findIdx (fun entry => key entry = wanted)]? = some entry) :
    roster.set (roster.findIdx (fun entry => key entry = wanted)) (change entry) =
      roster.map (fun entry => if key entry = wanted then change entry else entry) := by
  induction roster with
  | nil => simp at has
  | cons head tail ih =>
    obtain ⟨apart, others⟩ := List.nodup_cons.mp diff
    by_cases here : key head = wanted
    · have same : head = entry := by simpa [List.findIdx_cons, here] using has
      have rest : tail.map (fun entry => if key entry = wanted then change entry else entry) = tail := by
        refine (List.map_congr_left (fun alt mem => ?_)).trans (List.map_id tail)
        have elsewhere : key alt ≠ wanted := fun equal => apart (List.mem_map.mpr ⟨alt, mem, equal.trans here.symm⟩)
        simp [elsewhere]
      simp [List.findIdx_cons, here, rest, ← same]
    · have later : tail[tail.findIdx (fun entry => key entry = wanted)]? = some entry := by
        simpa [List.findIdx_cons, here] using has
      simp [List.findIdx_cons, here, ih others later]

theorem lookup_append (roster : List α) (new : α) (i : Nat) : (roster ++ [new])[i]? = if roster.length = i then some new else roster[i]? := by
  rcases Nat.lt_trichotomy i roster.length with inside | last | beyond
  · rw [List.getElem?_append_left inside, if_neg (by omega)]
  · simp [last]
  · rw [List.getElem?_eq_none (by simp; omega), List.getElem?_eq_none (by omega), if_neg (by omega)]

theorem entry_append {new entry : α} (has : (roster ++ [new])[i]? = some entry) :
    roster[i]? = some entry ∨ i = roster.length ∧ entry = new := by
  rw [lookup_append] at has
  split at has
  · rename_i last
    exact .inr ⟨last.symm, (Option.some.inj has).symm⟩
  · exact .inl has

theorem entry_kept (has : roster[i]? = some entry) (new : α) : (roster ++ [new])[i]? = some entry := by
  rw [List.getElem?_append_left (List.getElem?_eq_some_iff.mp has).1]
  exact has

theorem entry_set (related : α → α → Prop) {old : α} (has : roster[i]? = some entry) {j : Nat} (there : roster[j]? = some old)
    (new : α) (same : related entry entry) (changed : related old new) : ∃ later, (roster.set j new)[i]? = some later ∧ related entry later := by
  by_cases here : j = i
  · subst here
    cases there.symm.trans has
    exact ⟨new, List.getElem?_set_self (List.getElem?_eq_some_iff.mp has).1, changed⟩
  · exact ⟨entry, by rw [List.getElem?_set_ne here, has], same⟩

theorem lookup_set (has : roster[i]? = some entry) (new : α) (j : Nat) : (roster.set i new)[j]? = if i = j then some new else roster[j]? := by
  simp [List.getElem?_set, (List.getElem?_eq_some_iff.mp has).1]

theorem forall_set (roster : List α) (i : Nat) (fresh : α) (all : ∀ entry ∈ roster, property entry)
    (new : property fresh) : ∀ entry ∈ roster.set i fresh, property entry := by
  intro entry mem
  rcases List.mem_or_eq_of_mem_set mem with old | rfl
  · exact all entry old
  · exact new

theorem forall_append (roster : List α) (fresh : α) (all : ∀ entry ∈ roster, property entry)
    (new : property fresh) : ∀ entry ∈ roster ++ [fresh], property entry := by
  intro entry mem
  rcases List.mem_append.mp mem with old | last
  · exact all entry old
  · exact List.mem_singleton.mp last ▸ new

-- Among the first of a sorted list are the entries that few come before.
theorem mem_take_ranked {le : α → α → Bool} (antisymm : ∀ one two, le one two → le two one → one = two) (sorted : roster.Pairwise (le · ·))
    (unique : roster.Nodup) (refl : ∀ one, le one one) (count : Nat) (entry : α) :
    entry ∈ roster.take count ↔ entry ∈ roster ∧ (roster.filter (le · entry)).length ≤ count := by
  induction roster generalizing count with
  | nil => simp
  | cons first rest ih =>
    obtain ⟨least, sorted⟩ := List.pairwise_cons.mp sorted
    obtain ⟨apart, unique⟩ := List.nodup_cons.mp unique
    cases count with
    | zero =>
      simp only [List.take_zero, List.not_mem_nil, false_iff, not_and, Nat.le_zero, List.length_eq_zero_iff]
      intro mem none
      exact List.filter_eq_nil_iff.mp none entry mem (refl entry)
    | succ count =>
      rw [List.take_succ_cons, List.mem_cons, List.mem_cons]
      by_cases here : entry = first
      · subst here
        have later : rest.filter (le · entry) = [] :=
          List.filter_eq_nil_iff.mpr fun next mem before => apart (antisymm _ _ (least next mem) before ▸ mem)
        simp [refl, later]
      · simp only [here, false_or, ih sorted unique]
        refine and_congr_right fun mem => ?_
        simp [least entry mem]

end Roster
