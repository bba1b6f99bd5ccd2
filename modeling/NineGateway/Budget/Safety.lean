import NineGateway.Budget.Lockout

set_option autoImplicit false

namespace NineGateway.Budget

def limitedFor (policy : BudgetPolicy) : BudgetIdentity → Bool
  | .total => policy.limited
  | .day _ => policy.dayLimited
  | .month _ => policy.monthLimited

-- One policy for the key, loads within its limits, and no cost above what was
-- reserved for it.
def steady (keyID : String) (policy : BudgetPolicy) (system : BudgetSystem) : Call → Bool
  | .reserve _ owner offered _ => decide (owner = keyID → offered = policy)
  | .loadSpent _ values => ((parseSpent values []).getD []).all (fun row => decide (row.keyID = keyID →
      limitedFor policy row.identity = true → row.spent.amount ≤ (limitFor policy row.identity).amount))
  | .finalize index (.commit actual) => (system.reservations[index]?.toList).all (fun reservation => decide (reservation.keyID = keyID →
      actual.amount ≤ reservation.amount.amount))
  | .adjust index actual => (system.reservations[index]?.toList).all (fun reservation => decide (reservation.keyID = keyID →
      actual.amount ≤ reservation.amount.amount))
  | _ => true

structure Bounded (key : String) (pol : BudgetPolicy) (sys : BudgetSystem) : Prop where
  sound : sys.Sound
  frames : FramesGood sys
  cells : ∀ id, limitedFor pol id = true → spentIn (sys.cell key id) + activeIn (sys.cell key id) ≤ (limitFor pol id).amount

variable {identity : BudgetIdentity} {pol : BudgetPolicy} {key : String} {lim next : BudgetLimiter} {now : Int}
variable {cand : Money}

theorem bounded_step {sys next : BudgetSystem} {call : Call} {rep : Reply} (inv : Bounded key pol sys)
    (allowed : steady key pol sys call = true) (ran : step sys call = some (next, rep)) : Bounded key pol next := by
  refine ⟨sound_step inv.sound ran, frames_step inv.sound inv.frames ran, ?_⟩
  intro identity limited
  have bound := inv.cells identity limited
  have cellStep := step_cells inv.sound ran key identity
  generalize pre : sys.cell key identity = cell at cellStep bound
  generalize next.cell key identity = after at cellStep ⊢
  generalize flow rep.deltas key identity = sent at cellStep
  generalize loadedSpend (loadedRows call rep) key identity = credit at cellStep
  generalize next.outstanding key identity = holding' at cellStep
  cases cellStep with
  | kept _ _ _ alike => rwa [alike_spent alike, alike_active alike]
  | dropped => exact Nat.zero_le _
  | entered _ offered _ called _ _ _ _ _ _ room _ _ spent active =>
    have same : offered = pol := by simpa [steady, called] using allowed
    rw [same] at room
    simp only [spent_in_some, active_in_some, spent, active]
    omega
  | settled index terminal reservation called has fresh owned covered state current charge failure billed old new _ _ _
      spentKnown activeKnown spent active alike released =>
      rw [alike_spent alike, alike_active alike]
      have small : charge.amount ≤ reservation.amount.amount := by
        rcases charged_le billed with small | ⟨actual, rfl, rfl⟩
        · exact small
        · simpa [steady, called, has, owned] using allowed
      simp only [spent_in_some, active_in_some] at bound ⊢
      omega
  | abandoned => exact bound
  | shifted index actual reservation ticket called has issued fresh owned covered known old new _ _ activeSame oldKnown
      spentKnown spent alike =>
      rw [alike_spent alike, alike_active alike]
      have ticketEq := covering_ticket (inv.sound reservation (List.mem_of_getElem? has)) issued fresh covered
      have small : actual.amount ≤ ticket.reserved.amount := by
        rw [ticketEq] at owned ⊢
        have own : reservation.keyID = key := owned
        have small : actual.amount ≤ reservation.amount.amount := by simpa [steady, called, has, own] using allowed
        exact small
      simp only [spent_in_some, active_in_some, activeSame] at bound ⊢
      omega
  | torn => exact bound
  | blurred => exact Nat.zero_le _
  | loaded _ _ _ called parsed row mem targeted _ _ _ _ _ _ vacant unloaded spent _ active =>
    have aimed : row.keyID = key ∧ row.identity = identity := by simpa [PendingSpent.targets] using targeted
    have within : row.spent.amount ≤ (limitFor pol identity).amount := by
      simp only [steady, called, parsed, Option.getD_some, List.all_eq_true, decide_eq_true_eq] at allowed
      have small := allowed row mem aimed.1
      rw [aimed.2] at small
      exact small limited
    have empty : activeIn cell = 0 := by
      by_cases total : identity = .total
      · subst total
        rw [← pre]
        exact unloaded_idle inv.frames (unloaded rfl)
      · rw [vacant total]
        rfl
    simp only [spent_in_some, active_in_some, spent, active, empty]
    exact within

theorem reserve_admitted_bound {hold : BudgetReservation} (out : ReserveOutcome lim now key pol cand next (.ok hold))
    (cov : (captureAt pol now).covers identity = true) :
    spentIn (held (next.states.lookup key) identity) + activeIn (held (next.states.lookup key) identity) ≤ (limitFor pol identity).amount := by
  cases out with
  | unlimited _ unrestricted => cases identity <;> simp [captureAt, unrestricted] at cov
  | free _ _ room =>
    have fits := room identity cov
    rw [pruned_cell, if_pos rfl, filter_spared (fun bin => covered_not_dropped pol _ _ identity bin cov)]
    omega
  | admitted _ _ room _ _ _ _ _ begun inside =>
    have fits := room identity cov
    obtain ⟨new, there, _, _, spent, active⟩ := inside.counted identity cov
    obtain ⟨spentSource, activeSource⟩ := opened_source begun cov
    simp only [FiniteMap.lookup_put, if_true, there, spent_in_some, active_in_some]
    omega

def currentIdentity (now : Int) (identity : BudgetIdentity) : Bool :=
  decide (identity = .total) || decide (identity = .day (currentDay now)) || decide (identity = .month (currentMonth now))

theorem current_not_dropped (cur : currentIdentity now identity = true)
    (bin : BudgetDayState) : dropped (currentDay now) (currentMonth now) identity bin = false := by
  cases identity with
  | total => rfl
  | day start =>
    have same : start = currentDay now := by simpa [currentIdentity] using cur
    simp [dropped, same]
  | month start =>
    have same : start = currentMonth now := by simpa [currentIdentity] using cur
    simp [dropped, same]

theorem reserve_rejected_cells {err : BudgetError} (out : ReserveOutcome lim now key pol cand next (.error err))
    (cur : currentIdentity now identity = true) (alt : String) :
    held (next.states.lookup alt) identity = held (lim.states.lookup alt) identity := by
  have pruned : held ((prunedLimiter lim now key).states.lookup alt) identity = held (lim.states.lookup alt) identity := by
    rw [pruned_cell, filter_spared (current_not_dropped cur)]
    by_cases same : alt = key
    · rw [if_pos same, same]
    · rw [if_neg same]
  cases out with
  | refused => rfl
  | rejected | exhausted => exact pruned

theorem new_bounded (key : String) (pol : BudgetPolicy) : Bounded key pol newBudgetSystem :=
  ⟨new_system_sound, new_frames_good, fun _ _ => by
    simp [newBudgetSystem, newBudgetLimiter, BudgetSystem.cell, Finmap.lookup_empty]⟩

-- An unknown or missing amount counts as zero, as it does for Reserve.
theorem budget_admission_safety : (∀ (limiter next : BudgetLimiter) (reading : Int) (keyID : String) (policy : BudgetPolicy) (candidate : Money)
        (reservation : BudgetReservation), reserve limiter reading keyID policy candidate = (next, .ok reservation) →
      ∀ identity, (captureAt policy (clampTime limiter.lastNow reading)).covers identity = true →
        spentIn (held (next.states.lookup keyID) identity) + activeIn (held (next.states.lookup keyID) identity) ≤
          (limitFor policy identity).amount) ∧
    (∀ (keyID : String) (policy : BudgetPolicy) (calls : List Call) (final : BudgetSystem) (replies : List Reply),
      Transition.execute step newBudgetSystem calls = some (final, replies) →
      Transition.Along step (fun system call => steady keyID policy system call = true) newBudgetSystem calls →
      ∀ identity, limitedFor policy identity = true →
        spentIn (final.cell keyID identity) + activeIn (final.cell keyID identity) ≤ (limitFor policy identity).amount) ∧
    (∀ (limiter next : BudgetLimiter) (reading : Int) (keyID : String) (policy : BudgetPolicy) (candidate : Money)
        (failure : BudgetError), reserve limiter reading keyID policy candidate = (next, .error failure) →
      ∀ identity, currentIdentity (clampTime limiter.lastNow reading) identity = true →
        ∀ other, held (next.states.lookup other) identity = held (limiter.states.lookup other) identity) := by
  refine ⟨?_, ?_, ?_⟩
  · intro limiter next reading keyID policy candidate reservation took identity cov
    have out := reserve_outcome limiter reading keyID policy candidate
    rw [took] at out
    exact reserve_admitted_bound out cov
  · intro keyID policy calls final replies run along
    exact (Transition.run_invariant (Bounded keyID policy) (fun _ _ _ _ => bounded_step) (new_bounded keyID policy) along run).cells
  · intro limiter next reading keyID policy candidate failure barred identity cur other
    have out := reserve_outcome limiter reading keyID policy candidate
    rw [barred] at out
    exact reserve_rejected_cells out cur other

def steadyRun : List Call :=
  [.loadSpent [] [⟨"key", .known 60, .total, zeroTime⟩],
    .reserve dayNanos "key" (totalAndDailyBudgetPolicy (.known 100) (.known 40)) (.known 40),
    .reserve 0 "key" (totalAndDailyBudgetPolicy (.known 100) (.known 40)) (.known 1), .finalize 0 (.commit (.known 25))]

theorem budget_admission_safety_steady_run : ∃ final replies, Transition.execute step newBudgetSystem steadyRun = some (final, replies) ∧
    spentIn (final.cell "key" .total) = 85 ∧ spentIn (final.cell "key" .total) + activeIn (final.cell "key" .total) ≤ 100 :=
  ⟨_, _, Transition.execute_get (by decide), by decide,
    budget_admission_safety.2.1 "key" (totalAndDailyBudgetPolicy (.known 100) (.known 40)) steadyRun _ _
      (Transition.execute_get (by decide)) (by decide) .total rfl⟩

end NineGateway.Budget
