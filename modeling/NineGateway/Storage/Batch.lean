import NineGateway.Library.Coalesce

set_option autoImplicit false

namespace NineGateway.Storage

open Coalesce (amount batchAmount share)

section Mapped

variable {ε α β : Type} {made : Except ε α} {f : α → β}

theorem map_ok {got : β} (mapped : made.map f = .ok got) : ∃ v, made = .ok v ∧ f v = got := by
  cases made with
  | error => cases mapped
  | ok v => exact ⟨v, rfl, Except.ok.inj mapped⟩

theorem map_error {err : ε} (mapped : made.map f = .error err) : made = .error err := by
  cases made with
  | error => exact congrArg Except.error (Except.error.inj mapped)
  | ok => cases mapped

end Mapped

-- The shape that UpsertCommittedDeltas and ApplyDeltas share: a loop that skips
-- zero deltas and stops at the first invalid one, one statement for each delta that
-- is left, and a last one that deletes the rows at zero. Every error rolls the
-- transaction back.
section Batches

variable {κ ρ ε : Type} [DecidableEq κ] (check : κ → Int → Option ε)
  (one : FiniteMap ρ Int → κ → Int → Except ε (FiniteMap ρ Int))

def validDeltas : List (κ × Int) → Except ε (List (κ × Int))
  | [] => .ok []
  | (identity, delta) :: rest =>
    if delta = 0 then validDeltas rest
    else
      match check identity delta with
      | some failure => .error failure
      | none => (validDeltas rest).map (fun valid => (identity, delta) :: valid)

def applyEach : FiniteMap ρ Int → List (κ × Int) → Except ε (FiniteMap ρ Int)
  | rows, [] => .ok rows
  | rows, (identity, delta) :: rest =>
    match one rows identity delta with
    | .error failure => .error failure
    | .ok next => applyEach next rest

def applyBatch (rows : FiniteMap ρ Int) (deltas : List (κ × Int)) : Except ε (FiniteMap ρ Int) :=
  match validDeltas check deltas with
  | .error failure => .error failure
  | .ok [] => .ok rows
  | .ok valid => (applyEach one rows valid).map (fun rows => rows.retain (fun _ value => decide (value ≠ 0)))

variable {check one}

variable {rows next : FiniteMap ρ Int} {batch : List (κ × Int)} {ds valid : List (κ × Int)} {id : κ} {fact : ρ → Int → Prop}

theorem valid_deltas_some (drawn : validDeltas check ds = .ok valid) :
    valid.Sublist ds ∧ (∀ entry ∈ valid, entry.2 ≠ 0 ∧ check entry.1 entry.2 = none) ∧ ∀ id, batchAmount valid id = batchAmount ds id := by
  induction ds generalizing valid with
  | nil =>
    cases drawn
    simp
  | cons entry rest ih =>
    simp only [validDeltas] at drawn
    split at drawn
    · rename_i zero
      obtain ⟨inside, passed, same⟩ := ih drawn
      exact ⟨inside.cons _, passed, fun q => by simp [same q, share, zero]⟩
    rename_i nz
    split at drawn
    · cases drawn
    rename_i fine
    obtain ⟨_, later, rfl⟩ := map_ok drawn
    obtain ⟨inside, passed, same⟩ := ih later
    exact ⟨inside.cons_cons _, by simpa [nz, fine] using passed, fun q => by simp [same q]⟩

omit [DecidableEq κ] in
theorem valid_deltas_error {ds : List (κ × Int)} {err : ε} (denied : validDeltas check ds = .error err) :
    ∃ entry ∈ ds, check entry.1 entry.2 = some err := by
  induction ds with
  | nil => cases denied
  | cons entry rest ih =>
    obtain ⟨id, d⟩ := entry
    simp only [validDeltas] at denied
    split at denied
    · obtain ⟨alt, mem, checked⟩ := ih denied
      exact ⟨alt, by simp [mem], checked⟩
    split at denied
    · rename_i checked
      cases denied
      exact ⟨(id, d), by simp, checked⟩
    obtain ⟨alt, mem, checked⟩ := ih (map_error denied)
    exact ⟨alt, by simp [mem], checked⟩

omit [DecidableEq κ] in
theorem apply_batch_ok (applied : applyBatch check one rows batch = .ok next) :
    ∃ valid after, validDeltas check batch = .ok valid ∧ applyEach one rows valid = .ok after ∧
      (next = after ∨ next = after.retain (fun _ v => decide (v ≠ 0))) := by
  unfold applyBatch at applied
  split at applied
  · cases applied
  · rename_i drawn
    cases applied
    exact ⟨[], rows, drawn, rfl, .inl rfl⟩
  · rename_i valid _ drawn
    obtain ⟨after, done, rfl⟩ := map_ok applied
    exact ⟨valid, after, drawn, done, .inr rfl⟩

variable {row : κ → ρ} {proper : κ → Prop}

variable (passes : ∀ id d, d ≠ 0 → check id d = none → proper id)
include passes

theorem apply_batch_improper (applied : applyBatch check one rows batch = .ok next) (improper : ¬ proper id) : batchAmount batch id = 0 := by
  obtain ⟨_, _, drawn, _⟩ := apply_batch_ok applied
  obtain ⟨_, passed, same⟩ := valid_deltas_some drawn
  rw [← same id]
  refine Coalesce.batch_absent (fun entry mem here => absurd ?_ improper)
  exact here ▸ passes entry.1 entry.2 (passed entry mem).1 (passed entry mem).2

variable [DecidableEq ρ]

omit passes in
theorem apply_each_adds (adds : ∀ rows id d next, one rows id d = .ok next → next = Finmap.insert (row id) (amount rows (row id) + d) rows)
    (injective : ∀ left right, proper left → proper right → row left = row right → left = right) (mems : ∀ entry ∈ batch, proper entry.1)
    (applied : applyEach one rows batch = .ok next)
    (here : proper id) : amount next (row id) = amount rows (row id) + batchAmount batch id := by
  induction batch generalizing rows with
  | nil =>
    cases applied
    simp
  | cons entry rest ih =>
    obtain ⟨target, d⟩ := entry
    simp only [applyEach] at applied
    split at applied
    · cases applied
    rename_i middle first
    have same : (row id = row target) ↔ target = id :=
      ⟨fun equal => (injective id target here (mems (target, d) (by simp)) equal).symm, fun equal => by rw [equal]⟩
    rw [ih (fun alt mem => mems alt (by simp [mem])) applied, adds _ _ _ _ first, Coalesce.amount_add, Coalesce.batch_cons, Int.add_assoc]
    simp only [same, share]

theorem apply_batch_adds (adds : ∀ rows id d next, one rows id d = .ok next → next = Finmap.insert (row id) (amount rows (row id) + d) rows)
    (injective : ∀ left right, proper left → proper right → row left = row right → left = right)
    (applied : applyBatch check one rows batch = .ok next) (here : proper id) :
    amount next (row id) = amount rows (row id) + batchAmount batch id := by
  obtain ⟨_, _, drawn, done, left⟩ := apply_batch_ok applied
  obtain ⟨_, passed, same⟩ := valid_deltas_some drawn
  have added := apply_each_adds adds injective (fun alt mem => passes alt.1 alt.2 (passed alt mem).1 (passed alt mem).2) done here
  rw [← same id, ← added]
  rcases left with rfl | rfl
  · rfl
  · rw [Coalesce.amount_nonzero]

theorem apply_batch_persisted [DecidablePred proper] (adds : ∀ rows id d next, one rows id d = .ok next →
      next = Finmap.insert (row id) (amount rows (row id) + d) rows)
    (injective : ∀ left right, proper left → proper right → row left = row right → left = right)
    (applied : applyBatch check one rows batch = .ok next) (id : κ) :
    (if proper id then amount next (row id) else 0) = (if proper id then amount rows (row id) else 0) + batchAmount batch id := by
  by_cases here : proper id
  · simpa [here] using apply_batch_adds passes adds injective applied here
  · simp [here, apply_batch_improper passes applied here]

omit passes

omit [DecidableEq κ] in
theorem apply_each_keeps
    (keeps : ∀ entry ∈ batch, ∀ rows next, one rows entry.1 entry.2 = .ok next → (∀ row v, rows.lookup row = some v → fact row v) →
      ∀ row v, next.lookup row = some v → fact row v) (pre : ∀ row v, rows.lookup row = some v → fact row v)
    (applied : applyEach one rows batch = .ok next) : ∀ row v, next.lookup row = some v → fact row v := by
  induction batch generalizing rows with
  | nil =>
    cases applied
    exact pre
  | cons entry rest ih =>
    simp only [applyEach] at applied
    split at applied
    · cases applied
    · rename_i middle made
      exact ih (fun alt mem => keeps alt (by simp [mem])) (keeps entry (by simp) rows middle made pre) applied

theorem apply_batch_keeps
    (keeps : ∀ entry ∈ batch, entry.2 ≠ 0 → check entry.1 entry.2 = none → ∀ rows next, one rows entry.1 entry.2 = .ok next →
      (∀ row v, rows.lookup row = some v → fact row v) → ∀ row v, next.lookup row = some v → fact row v)
        (pre : ∀ row v, rows.lookup row = some v → fact row v)
    (applied : applyBatch check one rows batch = .ok next) : ∀ row v, next.lookup row = some v → fact row v := by
  obtain ⟨_, _, drawn, done, left⟩ := apply_batch_ok applied
  obtain ⟨inside, passed, _⟩ := valid_deltas_some drawn
  have kept := apply_each_keeps (fun alt mem => keeps alt (inside.subset mem) (passed alt mem).1 (passed alt mem).2) pre done
  rcases left with rfl | rfl
  · exact kept
  intro row v hit
  rw [FiniteMap.lookup_retain] at hit
  exact kept row v (Option.filter_eq_some_iff.mp hit).1

end Batches

end NineGateway.Storage
