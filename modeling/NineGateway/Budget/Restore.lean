import NineGateway.Budget.Load

set_option autoImplicit false

namespace NineGateway.Budget

-- The amount a list of persisted spends has for an identity, where it lists one that is not zero.
def listed (values : List BudgetSpent) (keyID : String) (identity : BudgetIdentity) : Option Money :=
  (values.find? fun value => decide (value.keyID = keyID ∧ rowIdentity value = some identity) && !isZeroMoney value.spent).map BudgetSpent.spent

def activeOf (state : BudgetState) (identity : BudgetIdentity) : Money := ((held (some state) identity).map BudgetDayState.active).getD knownZeroMoney

-- All a load leaves alone in a state.
def unspent (state : BudgetState) : BudgetState :=
  { state with spent := knownZeroMoney, dayBuckets := ∅, monthBuckets := ∅, totalLoaded := false }

structure Restored (amounts : BudgetIdentity → Option Money) (base state : BudgetState) : Prop where
  rest : unspent state = unspent base
  cells : ∀ identity, held (some state) identity =
    match amounts identity with
    | some spent => some ⟨spent, activeOf base identity⟩
    | none => held (some base) identity

def listedRows (rows : List PendingSpent) (keyID : String) (identity : BudgetIdentity) : Option Money :=
  (rows.find? fun row => row.targets keyID identity && !isZeroMoney row.spent).map PendingSpent.spent

structure Restoring (gens : String → Nat) (seq : Nat) (lim : BudgetLimiter) (done : List PendingSpent) (next : BudgetLimiter) : Prop where
  kept : next.policies = lim.policies ∧ next.sequence = seq
  states : ∀ key, (listedRows done key = fun _ => none) ∧ next.states.lookup key = lim.states.lookup key ∨
    ∃ st, next.states.lookup key = some st ∧ (lim.states.lookup key = none → st.generation = gens key ∧ key ∈ newKeys lim done) ∧
      Restored (listedRows done key) ((lim.states.lookup key).getD (blankState st.address st.generation)) st

section Rows

variable {lim next : BudgetLimiter} {gens : String → Nat} {done : List PendingSpent} {row : PendingSpent} {seq : Nat}

theorem listed_append (first second : List PendingSpent) (key : String) (id : BudgetIdentity) :
    listedRows (first ++ second) key id = (listedRows first key id).or (listedRows second key id) := by
  simp [listedRows, List.find?_append, Option.map_or]

theorem parse_listed {values : List BudgetSpent} {seen due : List PendingSpent} (parsed : parseSpent values seen = some due) (key : String)
    (id : BudgetIdentity) : listedRows due key id = (listedRows seen key id).or (listed values key id) := by
  induction values generalizing seen with
  | nil =>
    cases parsed
    simp [listed]
  | cons v rest ih =>
    simp only [parseSpent] at parsed
    split at parsed
    · cases parsed
    · split at parsed
      · cases parsed
      · rename_i own hit
        split at parsed
        · cases parsed
        · rw [ih parsed, listed_append, Option.or_assoc]
          congr 1
          by_cases here : v.keyID = key ∧ own = id
          · obtain ⟨rfl, rfl⟩ := here
            cases zero : isZeroMoney v.spent <;> simp [listedRows, listed, PendingSpent.targets, hit, zero]
          · simp [listedRows, listed, PendingSpent.targets, hit, here]

theorem new_keys_grow (lim : BudgetLimiter) (done : List PendingSpent) (row : PendingSpent) :
    ∀ key ∈ newKeys lim done, key ∈ newKeys lim (done ++ [row]) := by
  intro key mem
  simp only [newKeys, List.mem_dedup, List.mem_map, List.mem_filter, List.mem_append] at mem ⊢
  obtain ⟨alt, ⟨old, fits⟩, same⟩ := mem
  exact ⟨alt, ⟨.inl old, fits⟩, same⟩

-- A row that is not zero adds its amount to the identity it names and no other.
theorem restored_row {amounts : BudgetIdentity → Option Money} {base st : BudgetState} {id : BudgetIdentity} (spent : Money)
    (restored : Restored amounts base st) (unlisted : amounts id = none) (vacant : alreadyLoaded st id = false) :
    Restored (fun alt => if alt = id then some spent else amounts alt) base (setSpent st id spent) := by
  have before := restored.cells id
  rw [unlisted] at before
  refine ⟨?_, fun alt => ?_⟩
  · rw [← restored.rest]
    cases id <;> rfl
  · by_cases here : alt = id
    · subst here
      rw [if_pos rfl]
      cases alt with
      | total =>
        have same : (unspent st).active = (unspent base).active := by rw [restored.rest]
        simpa [setSpent, activeOf, unspent] using same
      | day start | month start =>
        simp only [alreadyLoaded, Option.isSome_eq_false_iff, Option.isNone_iff_eq_none] at vacant
        simp only [held_day, held_month, vacant] at before
        simp [setSpent, activeOf, ← before]
    · rw [if_neg here, held_set_spent _ _ _ _ here, restored.cells]

theorem set_spent_marks (st : BudgetState) (id : BudgetIdentity) (spent : Money) :
    (setSpent st id spent).address = st.address ∧ (setSpent st id spent).generation = st.generation := by
  cases id <;> exact ⟨rfl, rfl⟩

theorem restored_self (st : BudgetState) : Restored (fun _ => none) st st := ⟨rfl, fun _ => rfl⟩

theorem listed_row (apart : ∀ past ∈ done, past.targets row.keyID row.identity = false) (nz : isZeroMoney row.spent = false) :
    listedRows (done ++ [row]) row.keyID = (fun id => if id = row.identity then some row.spent else listedRows done row.keyID id) ∧
      listedRows done row.keyID row.identity = none := by
  have none : listedRows done row.keyID row.identity = Option.none := by
    rw [listedRows, List.find?_eq_none.mpr fun past mem => by simp [apart past mem], Option.map_none]
  refine ⟨funext fun id => ?_, none⟩
  rw [listed_append]
  by_cases here : id = row.identity
  · subst here
    rw [none, if_pos rfl]
    simp [listedRows, PendingSpent.targets, nz]
  · simp [here, listedRows, PendingSpent.targets, Ne.symm here]

theorem restoring_place (restoring : Restoring gens seq lim done next) {after : BudgetLimiter}
    (apart : ∀ past ∈ done, past.targets row.keyID row.identity = false) (out : PlaceOutcome gens next row after) :
    Restoring gens seq lim (done ++ [row]) after := by
  have grow := new_keys_grow lim done row
  have others : ∀ key, (key = row.keyID → isZeroMoney row.spent = true) → listedRows (done ++ [row]) key = listedRows done key := by
    intro key zero
    funext id
    by_cases same : key = row.keyID
    · simp [listedRows, zero same]
    · simp [listedRows, PendingSpent.targets, Ne.symm same]
  have elsewhere : ∀ key, (key = row.keyID → isZeroMoney row.spent = true) → after.states.lookup key = next.states.lookup key →
      (listedRows (done ++ [row]) key = fun _ => none) ∧ after.states.lookup key = lim.states.lookup key ∨
        ∃ st, after.states.lookup key = some st ∧ (lim.states.lookup key = none → st.generation = gens key ∧ key ∈ newKeys lim (done ++ [row])) ∧
          Restored (listedRows (done ++ [row]) key) ((lim.states.lookup key).getD (blankState st.address st.generation)) st := by
    intro key zero same
    rw [others key zero, same]
    refine (restoring.states key).imp_right ?_
    rintro ⟨st, has, created, restored⟩
    exact ⟨st, has, fun gone => ⟨(created gone).1, grow key (created gone).2⟩, restored⟩
  -- The state the row is put into is restored from the one before the load, or is new.
  have placed : ∀ st, after.states.lookup row.keyID = some (setSpent st row.identity row.spent) → isZeroMoney row.spent = false →
      alreadyLoaded st row.identity = false → (lim.states.lookup row.keyID = none → st.generation = gens row.keyID) →
        Restored (listedRows done row.keyID) ((lim.states.lookup row.keyID).getD (blankState st.address st.generation)) st →
          ∃ st, after.states.lookup row.keyID = some st ∧
            (lim.states.lookup row.keyID = none → st.generation = gens row.keyID ∧ row.keyID ∈ newKeys lim (done ++ [row])) ∧
            Restored (listedRows (done ++ [row]) row.keyID) ((lim.states.lookup row.keyID).getD (blankState st.address st.generation)) st := by
    intro st has nz vacant created restored
    obtain ⟨grown, unlisted⟩ := listed_row apart nz
    obtain ⟨address, generation⟩ := set_spent_marks st row.identity row.spent
    refine ⟨_, has, fun gone => ⟨generation.trans (created gone), by simp [newKeys, nz, gone]⟩, ?_⟩
    rw [grown, address, generation]
    exact restored_row row.spent restored unlisted vacant
  cases out with
  | zero free => exact ⟨restoring.kept, fun key => elsewhere key (fun _ => free) rfl⟩
  | existing nz st has vacant =>
    refine ⟨restoring.kept, fun key => ?_⟩
    by_cases same : key = row.keyID
    · subst same
      right
      rcases restoring.states row.keyID with ⟨nothing, kept⟩ | ⟨old, hit, created, restored⟩
      · refine placed st (by simp [BudgetLimiter.store]) nz vacant (fun gone => by simp [← kept, has] at gone) ?_
        rw [nothing, ← kept, has]
        exact restored_self st
      · rw [has] at hit
        cases hit
        exact placed st (by simp [BudgetLimiter.store]) nz vacant (fun gone => (created gone).1) restored
    · exact elsewhere key (fun equal => absurd equal same) (by simp [BudgetLimiter.store, same])
  | fresh nz gone =>
    refine ⟨restoring.kept, fun key => ?_⟩
    by_cases same : key = row.keyID
    · subst same
      right
      rcases restoring.states row.keyID with ⟨nothing, kept⟩ | ⟨old, hit, _⟩
      · refine placed (blankState next.nextAddress (gens row.keyID)) (by simp [BudgetLimiter.store]) nz
          (by cases row.identity <;> simp [alreadyLoaded, blankState]) (fun _ => rfl) ?_
        rw [nothing, ← kept, gone]
        exact restored_self _
      · rw [gone] at hit
        cases hit
    · exact elsewhere key (fun equal => absurd equal same) (by simp [BudgetLimiter.store, same])

end Rows

theorem atomic_budget_load (limiter : BudgetLimiter) (order : List String) (values : List BudgetSpent) :
    (∃ error, loadSpent limiter order values = (limiter, some error)) ∨
      ∃ next, loadSpent limiter order values = (next, none) ∧ next.policies = limiter.policies ∧
        (∀ keyID, (∀ identity, listed values keyID identity = none) ∧ next.states.lookup keyID = limiter.states.lookup keyID ∨
          ∃ state, next.states.lookup keyID = some state ∧
            Restored (listed values keyID) ((limiter.states.lookup keyID).getD (blankState state.address state.generation)) state) ∧
        ∀ keyID state, limiter.states.lookup keyID = none → next.states.lookup keyID = some state →
          limiter.sequence < state.generation ∧ state.generation ≤ next.sequence ∧
            ∀ other second, limiter.states.lookup other = none → next.states.lookup other = some second →
              second.generation = state.generation → other = keyID := by
  have out := load_outcome limiter order values
  generalize loadSpent limiter order values = result at out
  obtain ⟨next, error⟩ := result
  cases out with
  | refused error => exact .inl ⟨error, rfl⟩
  | loaded due parsed loadable gens nz seq new =>
    have restoring : Restoring gens seq limiter due (due.foldl (placeSpent gens) { limiter with sequence := seq }) :=
      load_rows gens loadable (fun _ _ _ _ restoring _ apart out => restoring_place restoring apart out)
        ⟨⟨rfl, rfl⟩, fun key => .inl ⟨rfl, rfl⟩⟩
    have amounts : ∀ key, listedRows due key = listed values key := fun key => funext fun id => by rw [parse_listed parsed]; rfl
    have sequence := restoring.kept.2
    refine .inr ⟨_, rfl, restoring.kept.1, fun key => ?_, ?_⟩
    · rw [← amounts]
      rcases restoring.states key with ⟨nothing, kept⟩ | ⟨st, has, _, restored⟩
      · exact .inl ⟨fun id => by rw [nothing], kept⟩
      · exact .inr ⟨st, has, restored⟩
    · have created : ∀ key st, limiter.states.lookup key = none →
        (due.foldl (placeSpent gens) { limiter with sequence := seq }).states.lookup key = some st →
          st.generation = gens key ∧ key ∈ newKeys limiter due := by
        intro key st gone has
        rcases restoring.states key with ⟨_, kept⟩ | ⟨new, hit, created, _⟩
        · rw [kept, gone] at has
          cases has
        · rw [has] at hit
          cases hit
          exact created gone
      intro key st gone has
      obtain ⟨generation, mem⟩ := created key st gone has
      obtain ⟨above, below, distinct⟩ := new key mem
      refine ⟨by omega, by omega, fun other second none had same => ?_⟩
      obtain ⟨again, also⟩ := created other second none had
      exact distinct other also (by omega)

def twoRows : List BudgetSpent := [⟨"key", .known 30, .total, zeroTime⟩, ⟨"key", .known 20, .day, 0⟩]

theorem atomic_budget_load_two_rows : ∃ next state, loadSpent newBudgetLimiter ["key"] twoRows = (next, none) ∧
    next.states.lookup "key" = some state ∧ held (some state) .total = some ⟨.known 30, knownZeroMoney⟩ ∧
    held (some state) (.day 0) = some ⟨.known 20, knownZeroMoney⟩ := by
  rcases atomic_budget_load newBudgetLimiter ["key"] twoRows with ⟨error, refused⟩ | ⟨next, loaded, _, states, _⟩
  · have passed : (loadSpent newBudgetLimiter ["key"] twoRows).2 = none := by decide
    rw [refused] at passed
    cases passed
  · rcases states "key" with ⟨unlisted, _⟩ | ⟨state, has, restored⟩
    · exact absurd (unlisted .total) (by decide)
    · exact ⟨next, state, loaded, has, restored.cells .total, restored.cells (.day 0)⟩

end NineGateway.Budget
