import NineGateway.Budget.Frames

set_option autoImplicit false

namespace NineGateway.Budget

open Transition

def ownerOf (system : BudgetSystem) (index : Nat) : Option String := system.reservations[index]?.map BudgetReservation.keyID

def bookedBy (keyID : String) (system : BudgetSystem) (call : Call) (reply : Reply) : Nat :=
  match call with
  | .loadSpent _ _ => ((loadedRows call reply).map (fun row => if row.keyID = keyID then row.spent.amount else 0)).sum
  | .reserve _ owner _ candidate =>
    match reply.answer with
    | .reserved _ => if owner = keyID then candidate.amount else 0
    | _ => 0
  | .finalize index (.commit actual) => if ownerOf system index = some keyID then actual.amount else 0
  | .adjust index actual => if ownerOf system index = some keyID then actual.amount else 0
  | _ => 0

def bookedAmounts (calls : List Call) (keyID : String) : Nat :=
  Transition.measure step (bookedBy keyID) newBudgetSystem calls

def touchFound (system : BudgetSystem) (index : Nat) (actual : Money) : Bool :=
  match system.reservations[index]?.bind BudgetReservation.ticket with
  | none => true
  | some ticket =>
    match system.limiter.states.lookup ticket.keyID with
    | none => true
    | some state =>
      ticket.consumed || decide (state.generation ≠ ticket.generation) || decide (actual ≠ ticket.reserved) ||
        ticket.identities.all (fun identity => (held (some state) identity).isSome)

-- January of year 1 is where the zero time lies, which stands for no period.
def readable (call : Call) : Bool :=
  match call.reading with
  | none => true
  | some reading => decide (currentMonth reading ≠ zeroTime)

def lockSafe (system : BudgetSystem) (call : Call) : Bool :=
  match call with
  | .adjust index actual => touchFound system index actual
  | _ => readable call

structure Unlocked (key : String) (booked : Nat) (sys : BudgetSystem) : Prop where
  sound : sys.Sound
  frames : FramesGood sys
  clock : sys.limiter.lastNow = zeroTime ∨ currentMonth sys.limiter.lastNow ≠ zeroTime
  cells : ∀ id bin, sys.cell key id = some bin →
    validStart id = true ∧ bin.spent.isKnown = true ∧ bin.active.isKnown = true ∧ cellSum bin ≤ booked

variable {hold : BudgetReservation} {state : BudgetState} {ticket : BudgetAdjustmentTicket} {id : BudgetIdentity}
variable {system : BudgetSystem} {keyID : String}

theorem touch_not_blurred {i : Nat} {actual : Money} (hit : touchFound system i actual = true) (has : system.reservations[i]? = some hold)
    (issued : hold.ticket = some ticket) (new : ticket.consumed = false) (live : TicketLive system.limiter ticket state)
    (same : actual = ticket.reserved) (cov : ticket.covers id = true) : held (some state) id ≠ none := by
  intro missing
  simp only [touchFound, has, Option.bind_some, issued, live.present, new, live.generation, same] at hit
  have held_ := List.all_eq_true.mp (by simpa using hit) id ((mem_identities _ _).mpr cov)
  simp [missing] at held_

theorem charged_le {term : Terminal} {charge : Money} {err : Option BudgetError}
    (billed : Charged hold term.kind term.actual state charge err) :
    charge.amount ≤ hold.amount.amount ∨ ∃ actual, term = .commit actual ∧ charge = actual := by
  cases billed with
  | proper =>
    cases term with
    | commit actual =>
      by_cases valid : actual.isKnown = true
      · exact .inr ⟨actual, rfl, by simp [chargeFor, Terminal.kind, Terminal.actual, validKnownMoney, valid]⟩
      · exact .inl (by simp [chargeFor, Terminal.kind, Terminal.actual, validKnownMoney, valid])
    | completeConservative | commitDeferred => exact .inl (Nat.le_refl _)
    | releaseBeforeUpstream => exact .inl (Nat.zero_le _)
  | fallback => exact .inl (Nat.le_refl _)

theorem covering_ticket (ok : hold.Sound) (issued : hold.ticket = some ticket) (new : ticket.consumed = false)
    (cov : ticket.covers id = true) : ticket = newTicket hold := by
  rcases ok.ticketIssued ticket issued new with same | idle
  · exact same
  · rw [idle] at cov
    cases id <;> simp [BudgetCapture.covers, idleTicket] at cov

theorem loaded_spend_le (rows : List PendingSpent) (keyID : String) (id : BudgetIdentity) :
    loadedSpend rows keyID id ≤ (rows.map (fun row => if row.keyID = keyID then row.spent.amount else 0)).sum := by
  apply List.sum_le_sum
  intro row _
  by_cases owned : row.keyID = keyID
  · by_cases same : row.identity = id <;> simp [PendingSpent.targets, owned, same]
  · simp [PendingSpent.targets, owned]

theorem clamp_readable {last read : Int} (honest : currentMonth read ≠ zeroTime)
    (clock : last = zeroTime ∨ currentMonth last ≠ zeroTime) : currentMonth (clampTime last read) ≠ zeroTime := by
  rcases clamp_time_cases last read with forward | ⟨begun, still⟩
  · rwa [forward]
  · rw [still]
    exact clock.resolve_left begun

theorem clock_kept {next : BudgetSystem} {call : Call} {rep : Reply} (ok : system.Sound) (ran : step system call = some (next, rep))
    (honest : readable call = true) (clock : system.limiter.lastNow = zeroTime ∨ currentMonth system.limiter.lastNow ≠ zeroTime) :
    next.limiter.lastNow = zeroTime ∨ currentMonth next.limiter.lastNow ≠ zeroTime := by
  rcases step_clock ok ran with same | ⟨reading, read, did⟩
  · rwa [same]
  · simp only [readable, read, decide_eq_true_eq] at honest
    rw [did]
    exact .inr (clamp_readable honest clock)

def Within (id : BudgetIdentity) (bound : Nat) (cell : Option BudgetDayState) : Prop :=
  ∀ bin, cell = some bin →
    validStart id = true ∧ bin.spent.isKnown = true ∧ bin.active.isKnown = true ∧ cellSum bin ≤ bound

section Within

variable {id : BudgetIdentity} {bound : Nat}

theorem within_none : Within id bound none := fun _ absurd => by simp at absurd

theorem within_some {new : BudgetDayState} (start : validStart id = true) (sknown : new.spent.isKnown = true)
    (aknown : new.active.isKnown = true) (sum : cellSum new ≤ bound) : Within id bound (some new) := by
  rintro bin ⟨⟩
  exact ⟨start, sknown, aknown, sum⟩

variable {cell : Option BudgetDayState}

variable (within : Within id bound cell)
include within

theorem within_mono {larger : Nat} (le : bound ≤ larger) : Within id larger cell := by
  intro bin there
  obtain ⟨start, sknown, aknown, sum⟩ := within bin there
  exact ⟨start, sknown, aknown, Nat.le_trans sum le⟩

theorem within_alike {after : Option BudgetDayState} (alike : Alike id cell after) : Within id bound after := by
  rcases alike with rfl | ⟨rfl, ⟨rfl, rfl⟩ | ⟨rfl, rfl⟩⟩
  · exact within
  · exact within_some rfl rfl rfl (Nat.zero_le _)
  · exact within_none

theorem within_sum : spentIn cell + activeIn cell ≤ bound := by
  cases cell with
  | none => exact Nat.zero_le _
  | some bin => exact (within bin rfl).2.2.2

end Within

section Step

variable {keyID : String} {booked : Nat} {system next : BudgetSystem} {call : Call} {rep : Reply}

theorem entered_start {pol : BudgetPolicy} {now : Int} (later : currentMonth now ≠ zeroTime)
    (cov : (captureAt pol now).covers id = true) : validStart id = true := by
  cases id with
  | total => rfl
  | day =>
    simp only [captureAt, covers_day, Bool.and_eq_true, decide_eq_true_eq] at cov
    rw [cov.2, validStart, valid_day_start_current]
    exact decide_eq_true (current_day_nonzero later)
  | month =>
    simp only [captureAt, covers_month, Bool.and_eq_true, decide_eq_true_eq] at cov
    rw [cov.2, validStart, valid_month_start_current]
    exact decide_eq_true later

theorem safe_readable (safe : lockSafe system call = true) : readable call = true := by
  cases call with
  | adjust => rfl
  | _ => exact safe

theorem unlocked_cell (inv : Unlocked keyID booked system) (safe : lockSafe system call = true) (ran : step system call = some (next, rep))
    (id : BudgetIdentity) : Within id (booked + bookedBy keyID system call rep) (next.cell keyID id) := by
  have cells : Within id booked (system.cell keyID id) := inv.cells id
  have kept := within_mono cells (Nat.le_add_right booked (bookedBy keyID system call rep))
  have oldSum := within_sum cells
  have cellStep := step_cells inv.sound ran keyID id
  generalize pre : system.cell keyID id = cell at cellStep cells kept oldSum
  generalize next.cell keyID id = after at cellStep ⊢
  generalize flow rep.deltas keyID id = sent at cellStep
  generalize credited : loadedSpend (loadedRows call rep) keyID id = credit at cellStep
  generalize next.outstanding keyID id = holding' at cellStep
  cases cellStep with
  | kept _ _ _ alike => exact within_alike kept alike
  | dropped => exact within_none
  | entered _ _ cand called granted clock cov _ _ _ _ sknown aknown spent active =>
    have honest := safe_readable safe
    simp only [readable, called, Call.reading, decide_eq_true_eq] at honest
    have later : currentMonth next.limiter.lastNow ≠ zeroTime := clock ▸ clamp_readable honest inv.clock
    have tally : bookedBy keyID system call rep = cand.amount := by simp [bookedBy, called, granted]
    refine within_some (entered_start later cov) sknown aknown ?_
    rw [cellSum, spent, active, tally]
    omega
  | settled index terminal hold called has fresh owned cov state current charge failure billed old new _ _ _
      sknown aknown spent active alike released =>
      obtain ⟨start, _, _, sum⟩ := cells old rfl
      refine within_alike (within_some start sknown aknown ?_) alike
      simp only [cellSum] at sum ⊢
      rcases charged_le billed with small | ⟨actual, rfl, rfl⟩
      · omega
      · have tally : bookedBy keyID system call rep = charge.amount := by
          simp [bookedBy, called, ownerOf, has, owned]
        omega
  | abandoned => exact kept
  | shifted index actual hold ticket called has issued fresh owned cov known old new _ _ activeSame oldKnown sknown spent alike =>
      obtain ⟨start, _, aknown, sum⟩ := cells old rfl
      refine within_alike (within_some start sknown (activeSame ▸ aknown) ?_) alike
      have tally : bookedBy keyID system call rep = actual.amount := by
        have own : hold.keyID = keyID := by
          rw [← owned, covering_ticket (inv.sound hold (List.mem_of_getElem? has)) issued fresh cov]
          rfl
        simp [bookedBy, called, ownerOf, has, own]
      simp only [cellSum, activeSame] at sum ⊢
      omega
  | torn => exact kept
  | blurred _ _ _ _ called has issued fresh _ cov same _ live missing =>
    subst called
    exact absurd missing (touch_not_blurred safe has issued fresh live same cov)
  | loaded _ _ _ called _ row _ targeted valid _ _ _ _ _ vacant unloaded spent aknown active =>
    have aimed : row.keyID = keyID ∧ row.identity = id := by simpa [PendingSpent.targets] using targeted
    have idle : activeIn cell = 0 := by
      by_cases total : id = .total
      · subst total
        rw [← pre]
        exact unloaded_idle inv.frames (unloaded rfl)
      · rw [vacant total]
        rfl
    have tally : row.spent.amount ≤ bookedBy keyID system call rep := by
      rw [← credited, called]
      exact loaded_spend_le _ _ _
    refine within_some (aimed.2 ▸ valid.start) (spent ▸ valid.known) aknown ?_
    rw [cellSum, spent, active, idle]
    omega

theorem unlocked_step (inv : Unlocked keyID booked system) (safe : lockSafe system call = true)
    (ran : step system call = some (next, rep)) : Unlocked keyID (booked + bookedBy keyID system call rep) next :=
  ⟨sound_step inv.sound ran, frames_step inv.sound inv.frames ran,
    clock_kept inv.sound ran (safe_readable safe) inv.clock, unlocked_cell inv safe ran⟩

end Step

theorem new_unlocked (keyID : String) : Unlocked keyID 0 newBudgetSystem := by
  refine ⟨new_system_sound, new_frames_good, .inl rfl, ?_⟩
  intro id bin there
  simp [newBudgetSystem, newBudgetLimiter, BudgetSystem.cell, Finmap.lookup_empty] at there

theorem unlocked_run {cs : List Call} {final : BudgetSystem} {outs : List Reply} (run : execute step newBudgetSystem cs = some (final, outs))
    (hit : Along step (fun system call => lockSafe system call = true) newBudgetSystem cs) (keyID : String) :
    Unlocked keyID (bookedAmounts cs keyID) final := by
  have got := run_measured (bookedBy keyID) (Unlocked keyID) (fun _ _ _ _ _ => unlocked_step) (new_unlocked keyID) hit run
  rwa [Nat.zero_add] at got

theorem unlocked_accepted {booked : Nat} (inv : Unlocked keyID booked system) (bound : booked ≤ maxMoneyMicros)
    (has : system.limiter.states.lookup keyID = some state) : StateAccepted state := by
  apply frame_accepted (inv.frames.states keyID state has)
  intro id bin there
  have cell : system.cell keyID id = some bin := by rwa [BudgetSystem.cell, has]
  obtain ⟨start, sknown, aknown, sum⟩ := inv.cells id bin cell
  exact ⟨start, (valid_cell_iff bin).mpr ⟨sknown, aknown, Nat.le_trans sum bound⟩⟩

theorem reserve_not_state {lim : BudgetLimiter} (read : Int) (pol : BudgetPolicy) (cand : Money)
    (fine : ∀ state, lim.states.lookup keyID = some state → StateAccepted state)
    (gen : (lim.states.lookup keyID).isSome = true ∨ nextGeneration lim.sequence ≠ 0) :
    (reserve lim read keyID pol cand).2 ≠ .error .state := by
  have out := reserve_outcome lim read keyID pol cand
  generalize (reserve lim read keyID pol cand).1 = next at out
  intro failed
  rw [failed] at out
  cases out with
  | refused _ early =>
    rcases early with absurd | absurd | ⟨_, state, has, barred⟩
    · simp at absurd
    · simp at absurd
    · exact barred (fine state has)
  | exhausted _ gone wrapped =>
    rcases gen with there | unwrapped
    · simp [gone] at there
    · exact unwrapped wrapped

-- A key whose adjustments find their buckets is never locked out. Reserve may
-- still answer ErrBudgetState to a key without a state once the generation
-- counter has run through all its values.
theorem no_lock_out_when_found (calls : List Call) (final : BudgetSystem) (replies : List Reply)
    (run : Transition.execute step newBudgetSystem calls = some (final, replies))
    (found : Transition.Along step (fun system call => lockSafe system call = true) newBudgetSystem calls) (keyID : String)
    (bounded : bookedAmounts calls keyID ≤ maxMoneyMicros) :
    (∀ state, final.limiter.states.lookup keyID = some state → validateBudgetState state = true) ∧ ∀ reading policy candidate,
        (final.limiter.states.lookup keyID).isSome = true ∨ nextGeneration final.limiter.sequence ≠ 0 →
          (reserve final.limiter reading keyID policy candidate).2 ≠ .error .state := by
  have fine : ∀ state, final.limiter.states.lookup keyID = some state → StateAccepted state :=
    fun state has => unlocked_accepted (unlocked_run run found keyID) bounded has
  exact ⟨fun state has => (validate_iff state).mpr (fine state has),
    fun reading policy candidate gen => reserve_not_state reading policy candidate fine gen⟩

def foundRun : List Call :=
  [.reserve 0 "key" (totalAndDailyBudgetPolicy (.known 100) (.known 50)) (.known 10), .finalize 0 .commitDeferred,
    .adjust 0 (.known 10), .reserve dayNanos "key" (totalAndDailyBudgetPolicy (.known 100) (.known 50)) (.known 5)]

theorem no_lock_out_found_run : ∃ final replies, Transition.execute step newBudgetSystem foundRun = some (final, replies) ∧
    bookedAmounts foundRun "key" ≤ maxMoneyMicros ∧ (final.limiter.states.lookup "key").isSome = true ∧
    (∀ state, final.limiter.states.lookup "key" = some state → validateBudgetState state = true) :=
  ⟨_, _, Transition.execute_get (by decide), by decide, by decide,
    (no_lock_out_when_found foundRun _ _ (Transition.execute_get (by decide)) (by decide) "key" (by decide)).1⟩

def lockedRun : List Call :=
  [.reserve 0 "key" (totalAndDailyBudgetPolicy (.known 100) (.known 50)) (.known 10), .finalize 0 .commitDeferred,
    .reserve dayNanos "key" (totalAndDailyBudgetPolicy (.known 100) (.known 50)) (.known 5), .adjust 0 (.known 10)]

theorem lock_out_locked_run : ¬ ∀ (calls : List Call) (final : BudgetSystem) (replies : List Reply),
    Transition.execute step newBudgetSystem calls = some (final, replies) → ∀ keyID, bookedAmounts calls keyID ≤ maxMoneyMicros →
        (∀ state, final.limiter.states.lookup keyID = some state → validateBudgetState state = true) ∧
          ∀ reading policy candidate, (reserve final.limiter reading keyID policy candidate).2 ≠ .error .state := by
  intro never
  have ans := (never lockedRun _ _ (execute_get (by decide)) "key" (by decide)).2 dayNanos
    (totalAndDailyBudgetPolicy (.known 100) (.known 50)) (.known 1)
  exact absurd ans (by decide)

end NineGateway.Budget
