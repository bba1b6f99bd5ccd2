import NineGateway.Budget.Cells

set_option autoImplicit false

namespace NineGateway.Budget

-- What validateBudgetState asks of a state besides its counters, and that a
-- lifetime counter nobody has loaded or limited holds nothing active.
structure FrameGood (st : BudgetState) : Prop where
  generation : st.generation ≠ 0
  total : st.hasLimit = true → st.total.isKnown = true
  day : st.hasDayLimit = true → st.dayLimit.isKnown = true
  month : st.hasMonthLimit = true → st.monthLimit.isKnown = true
  unloaded : st.totalLoaded = false → st.active.amount = 0

theorem frame_accepted {st : BudgetState} (good : FrameGood st)
    (cells : ∀ id bin, held (some st) id = some bin → validStart id = true ∧ validCell bin = true) : StateAccepted st :=
  ⟨good.generation, good.total, good.day, good.month, cells⟩

variable {st next : BudgetState} {cap : BudgetCapture} {key : String} {lim : BudgetLimiter} {pol : BudgetPolicy}

theorem frame_same (good : FrameGood st) (frame : SameFrame st next) (active : next.active.amount ≤ st.active.amount) : FrameGood next := by
  refine ⟨frame.generation ▸ good.generation, ?_, ?_, ?_, ?_⟩
  · rw [frame.totalLimit.1, frame.totalLimit.2]
    exact good.total
  · rw [frame.dayLimit.1, frame.dayLimit.2]
    exact good.day
  · rw [frame.monthLimit.1, frame.monthLimit.2]
    exact good.month
  · rw [frame.loaded]
    intro unloaded
    have zero := good.unloaded unloaded
    omega

theorem frame_policy (valid : validPolicy pol = true) (gen : next.generation ≠ 0)
    (totalLimit : next.hasLimit = pol.limited ∧ next.total = pol.total) (dayLimit : next.hasDayLimit = pol.dayLimited ∧ next.dayLimit = pol.day)
    (monthLimit : next.hasMonthLimit = pol.monthLimited ∧ next.monthLimit = pol.month)
    (loaded : next.totalLoaded = (st.totalLoaded || pol.limited)) (active : pol.limited = false → next.active.amount = st.active.amount)
    (unloaded : st.totalLoaded = false → st.active.amount = 0) : FrameGood next := by
  obtain ⟨total, day, m⟩ := (valid_policy_iff pol).mp valid
  refine ⟨gen, ?_, ?_, ?_, ?_⟩
  · rw [totalLimit.1, totalLimit.2, total]
    exact id
  · rw [dayLimit.1, dayLimit.2, day]
    exact id
  · rw [monthLimit.1, monthLimit.2, m]
    exact id
  rw [loaded]
  intro off
  obtain ⟨new, unlimited⟩ := Bool.or_eq_false_iff.mp off
  rw [active unlimited]
  exact unloaded new

theorem frame_blank (address : Nat) {gen : Nat} (nz : gen ≠ 0) : FrameGood (blankState address gen) :=
  ⟨nz, fun absurd => by simp [blankState] at absurd, fun absurd => by simp [blankState] at absurd,
    fun absurd => by simp [blankState] at absurd, fun _ => rfl⟩

theorem frame_set_spent (good : FrameGood st) (id : BudgetIdentity) (spent : Money) : FrameGood (setSpent st id spent) := by
  cases id with
  | total => exact ⟨good.generation, good.total, good.day, good.month, fun absurd => by simp [setSpent] at absurd⟩
  | day | month => exact ⟨good.generation, good.total, good.day, good.month, good.unloaded⟩

def FramesIn (lim : BudgetLimiter) : Prop := ∀ key st, lim.states.lookup key = some st → FrameGood st

structure FramesGood (sys : BudgetSystem) : Prop where
  pending : ∀ replacement, sys.replacing = some replacement → validPolicy replacement.newPolicy = true
  states : FramesIn sys.limiter

theorem frames_store {next : BudgetLimiter} (key : String) (frames : FramesIn lim) (good : FrameGood st)
    (stored : next.states = Finmap.insert key st lim.states) : FramesIn next := by
  intro alt old has
  rw [stored, FiniteMap.lookup_put] at has
  split at has
  · simp only [Option.some.injEq] at has
    exact has ▸ good
  · exact frames alt old has

theorem frames_store_or_delete (frames : FramesIn lim) (good : FrameGood st) : FramesIn (lim.storeOrDelete key st) := by
  intro alt old has
  rw [lookup_store_or_delete] at has
  split at has
  · unfold keepState at has
    split at has
    · simp at has
    · simp only [Option.some.injEq] at has
      exact has ▸ good
  · exact frames alt old has

theorem frames_pruned (now : Int) (key : String) (frames : FramesIn lim) : FramesIn (prunedLimiter lim now key) := by
  cases has : lim.states.lookup key with
  | none =>
    rw [pruned_limiter_none now has]
    exact frames
  | some st =>
    have good := frames key st has
    have pruned : FrameGood (pruneState (currentDay now) (currentMonth now) st) :=
      ⟨good.generation, good.total, good.day, good.month, good.unloaded⟩
    rw [pruned_limiter_some now has]
    exact frames_store key frames pruned rfl

theorem frames_placed {gens : String → Nat} (nz : ∀ key, gens key ≠ 0) (done : List PendingSpent) (lim : BudgetLimiter) (row : PendingSpent)
    (next : BudgetLimiter) (frames : FramesIn lim) (_valid : RowValid row)
    (_distinct : ∀ past ∈ done, past.targets row.keyID row.identity = false) (out : PlaceOutcome gens lim row next) : FramesIn next := by
  cases out with
  | zero => exact frames
  | existing _ _ has => exact frames_store row.keyID frames (frame_set_spent (frames _ _ has) _ _) rfl
  | fresh => exact frames_store row.keyID frames (frame_set_spent (frame_blank _ (nz _)) _ _) rfl

theorem frames_admitted {next : BudgetLimiter} {now : Int} {cand : Money} {base : BudgetState} {seq nextAddress : Nat} (frames : FramesIn lim)
    (passed : ReservePassed lim key pol cand) (begun : Opened lim now key base seq nextAddress)
    (inside : Entered pol cand (captureAt pol now) base st) (stored : next.states = Finmap.insert key st lim.states) : FramesIn next := by
  have baseGood : FrameGood base := by
    cases begun with
    | existing old has =>
      have good := frames key old has
      exact ⟨good.generation, good.total, good.day, good.month, good.unloaded⟩
    | fresh _ nz => exact frame_blank _ nz
  refine frames_store key frames ?_ stored
  refine frame_policy passed.policyValid (inside.generation ▸ baseGood.generation) inside.totalLimit inside.dayLimit
    inside.monthLimit inside.loaded ?_ baseGood.unloaded
  intro unlimited
  have kept := inside.kept .total (by simpa [captureAt] using unlimited)
  simp only [held_total, Option.some.injEq, BudgetDayState.mk.injEq] at kept
  rw [kept.2]

theorem moved_active_le {amt charge : Money} (did : Moved cap amt charge st next) : next.active.amount ≤ st.active.amount := by
  cases cov : cap.covers .total with
  | true =>
    obtain ⟨_, _, pre, after, _, _, _, active⟩ := did.moved .total cov
    simp only [held_total, Option.some.injEq] at pre after
    subst pre after
    exact Nat.le_of_add_right_le (Nat.le_of_eq active)
  | false =>
    have kept := did.kept .total cov
    simp only [held_total, Option.some.injEq, BudgetDayState.mk.injEq] at kept
    rw [kept.2]

theorem shifted_active {actual reserved : Money} (shifted : Shifted cap actual reserved st next) : next.active = st.active := by
  cases cov : cap.covers .total with
  | true =>
    obtain ⟨_, _, pre, after, same, _⟩ := shifted.moved .total cov
    simp only [held_total, Option.some.injEq] at pre after
    subst pre after
    exact same
  | false =>
    have kept := shifted.kept .total cov
    simp only [held_total, Option.some.injEq, BudgetDayState.mk.injEq] at kept
    exact kept.2

theorem touched_total (touched : Touched cap st next) : held (some next) .total = held (some st) .total := by
  cases cov : cap.covers .total with
  | true => exact touched.written .total cov
  | false => exact touched.kept .total cov

variable {sys : BudgetSystem}

theorem frames_step {next : BudgetSystem} {call : Call} {rep : Reply} (ok : sys.Sound) (frames : FramesGood sys)
    (ran : step sys call = some (next, rep)) : FramesGood next := by
  cases step_outcome ok ran with
  | loaded _ _ _ _ out =>
    cases out with
    | refused => exact frames
    | loaded _ _ loadable gens nz =>
      exact ⟨frames.pending, load_rows gens (motive := fun _ lim => FramesIn lim) loadable (frames_placed nz) frames.states⟩
  | registered =>
    refine ⟨frames.pending, ?_⟩
    unfold FramesIn
    rw [register_states]
    exact frames.states
  | replaceOpened key oldPolicy newPolicy _ checked =>
    refine ⟨?_, frames.states⟩
    intro replacement begun
    simp only [Option.some.injEq] at begun
    subst begun
    unfold replaceCheck at checked
    split at checked
    · simp at checked
    · rename_i valid
      simp only [Bool.or_eq_true, not_or, Bool.not_eq_true, Bool.not_eq_false'] at valid
      exact valid.2
  | replaceAborted => exact ⟨fun _ absurd => by simp at absurd, frames.states⟩
  | replaceCommitted due begun =>
    refine ⟨fun _ absurd => by simp at absurd, ?_⟩
    have valid := frames.pending due begun
    cases has : sys.limiter.states.lookup due.keyID with
    | none =>
      intro key st hit
      exact frames.states key st (by simpa [replaceCommit, has] using hit)
    | some st =>
      have good := frames.states _ _ has
      have applied : FrameGood (applyBudgetPolicy st due.newPolicy) :=
        frame_policy valid good.generation ⟨rfl, rfl⟩ ⟨rfl, rfl⟩ ⟨rfl, rfl⟩ rfl (fun _ => rfl) good.unloaded
      exact frames_store due.keyID frames.states applied (by simp only [replaceCommit, has])
  | reserved _ _ _ _ _ _ _ out =>
    refine ⟨frames.pending, ?_⟩
    cases out with
    | unlimited => exact frames.states
    | free => exact frames_pruned _ _ frames.states
    | admitted passed _ _ _ _ _ _ _ begun inside => exact frames_admitted frames.states passed begun inside rfl
  | reserveFailed _ _ _ _ _ _ _ out =>
    refine ⟨frames.pending, ?_⟩
    cases out with
    | refused => exact frames.states
    | rejected | exhausted => exact frames_pruned _ _ frames.states
  | finalized _ _ _ _ _ _ _ out =>
    refine ⟨frames.pending, ?_⟩
    cases out with
    | idle | refused => exact frames.states
    | settled _ _ _ _ cur _ did =>
      exact frames_store_or_delete frames.states (frame_same (frames.states _ _ cur.present) did.frame (moved_active_le did))
  | adjusted _ _ _ _ _ _ _ _ out =>
    refine ⟨frames.pending, ?_⟩
    cases out with
    | repeated | refused | torn => exact frames.states
    | equal _ _ _ live _ touched =>
      have total := touched_total touched
      simp only [held_total, Option.some.injEq, BudgetDayState.mk.injEq] at total
      exact frames_store_or_delete frames.states (frame_same (frames.states _ _ live.present) touched.frame (by rw [total.2]))
    | shifted _ _ _ live _ _ shifted =>
      exact frames_store_or_delete frames.states (frame_same (frames.states _ _ live.present) shifted.frame (by rw [shifted_active shifted]))
  | invalidated | ticked => exact ⟨frames.pending, frames.states⟩
  | _ => exact frames

theorem unloaded_idle (frames : FramesGood sys) (unloaded : ∀ st, sys.limiter.states.lookup key = some st → st.totalLoaded = false) :
    activeIn (sys.cell key .total) = 0 := by
  cases has : sys.limiter.states.lookup key with
  | none => simp [BudgetSystem.cell, has]
  | some st =>
    simp only [BudgetSystem.cell, has, held_total, active_in_some]
    exact (frames.states key st has).unloaded (unloaded st has)

theorem new_frames_good : FramesGood newBudgetSystem := by
  refine ⟨fun _ absurd => by simp [newBudgetSystem] at absurd, ?_⟩
  intro key st has
  simp [newBudgetSystem, newBudgetLimiter, Finmap.lookup_empty] at has

end NineGateway.Budget
