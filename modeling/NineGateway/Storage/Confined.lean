import NineGateway.Storage.Accumulator

set_option autoImplicit false

namespace NineGateway.Storage

variable {κ τ ε : Type}

def Flight.entries : Flight κ → List (κ × Int)
  | taken batch => batch
  | failed batch => batch
  | landed => []

variable [DecidableEq κ]

structure Confined (scope : κ → Prop) (orderly : τ → Prop) (sys : Accumulation κ τ) : Prop where
  pending : ∀ id, (sys.pending.lookup id).isSome = true → scope id
  flights : ∀ flight ∈ sys.flights, ∀ entry ∈ flight.entries, scope entry.1
  table : orderly sys.table

variable {scope : κ → Prop} {orderly : τ → Prop} {deletes : Bool} {apply : τ → List (κ × Int) → Except ε τ}
  {sys next : Accumulation κ τ} {rep : AccumulatorReply ε} {call : AccumulatorCall κ}

theorem merge_scope {due merged : FiniteMap κ Int} {id : κ} {d : Int} (pre : ∀ q, (due.lookup q).isSome = true → scope q) (inside : scope id)
    (made : merge deletes due id d = some merged) : ∀ q, (merged.lookup q).isSome = true → scope q := by
  obtain ⟨_, _, rfl⟩ := Option.map_eq_some_iff.mp made
  intro q has
  by_cases here : q = id
  · exact here ▸ inside
  refine pre q ?_
  split at has
  · split at has
    · simpa [here] using has
    · exact has
  · simpa [here] using has

theorem restore_scope {due : FiniteMap κ Int} {batch : List (κ × Int)} (pre : ∀ q, (due.lookup q).isSome = true → scope q)
    (inside : ∀ entry ∈ batch, scope entry.1) : ∀ q, ((restoreBatch deletes due batch).lookup q).isSome = true → scope q := by
  induction batch generalizing due with
  | nil => exact pre
  | cons entry _ ih =>
    have first : ∀ q, (((merge deletes due entry.1 entry.2).getD due).lookup q).isSome = true → scope q := by
      cases made : merge deletes due entry.1 entry.2 with
      | none => exact pre
      | some => exact merge_scope pre (inside entry (by simp)) made
    exact ih first (fun alt mem => inside alt (by simp [mem]))

theorem confined_step (applies : ∀ table batch next, apply table batch = .ok next → (∀ entry ∈ batch, scope entry.1) → orderly table → orderly next)
    (confined : Confined scope orderly sys) (sinks : ∀ target d, call = .sink target d → scope target)
    (ran : accumulate deletes apply sys call = some (next, rep)) : Confined scope orderly next := by
  have inside : ∀ {i : Nat} {flight : Flight κ}, sys.flights[i]? = some flight → ∀ entry ∈ flight.entries, scope entry.1 :=
    fun has => confined.flights _ (List.mem_of_getElem? has)
  cases accumulated ran with
  | ignored | overflowed | empty => exact confined
  | accepted target d _ _ made => exact ⟨merge_scope confined.pending (sinks target d rfl) made, confined.flights, confined.table⟩
  | taken order lists =>
    refine ⟨by simp, Roster.forall_append _ _ confined.flights ?_, confined.table⟩
    intro entry drained
    obtain ⟨id, shown, rfl⟩ := List.mem_map.mp (show entry ∈ Coalesce.drain order sys.pending from drained)
    refine confined.pending id ?_
    rw [Finmap.lookup_isSome, ← Finmap.mem_keys, ← lists.2]
    exact List.mem_toFinset.mpr shown
  | written _ _ _ has made =>
    exact ⟨confined.pending, Roster.forall_set _ _ _ confined.flights (by simp [Flight.entries]), applies _ _ _ made (inside has) confined.table⟩
  | refused _ _ _ has | unavailable _ _ has =>
    have mems := inside has
    exact ⟨confined.pending, Roster.forall_set _ _ _ confined.flights mems, confined.table⟩
  | restored _ _ has =>
    exact ⟨restore_scope confined.pending (inside has), Roster.forall_set _ _ _ confined.flights (by simp [Flight.entries]), confined.table⟩
  | closed => exact ⟨confined.pending, confined.flights, confined.table⟩

end NineGateway.Storage
