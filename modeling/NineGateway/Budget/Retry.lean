import NineGateway.Budget.Admission

set_option autoImplicit false

namespace NineGateway.Budget

variable {lim : BudgetLimiter} {read now later : Int} {key : String} {pol : BudgetPolicy} {cand : Money}

theorem pruned_lookup (lim : BudgetLimiter) (now : Int) (key : String) : (prunedLimiter lim now key).states.lookup key =
    (lim.states.lookup key).map (pruneState (currentDay now) (currentMonth now)) := by
  cases has : lim.states.lookup key with
  | none => simp [prunedLimiter, has]
  | some => simp [prunedLimiter, has]

-- What a later admission counts was not pruned away by the rejected one.
theorem room_pruned (order : now ≤ later) :
    Room (prunedLimiter lim now key) later key pol cand ↔ Room lim later key pol cand := by
  refine forall₂_congr fun id cov => ?_
  have spared : held ((prunedLimiter lim now key).states.lookup key) id = held (lim.states.lookup key) id := by
    rw [pruned_lookup]
    cases lim.states.lookup key with
    | none => rfl
    | some =>
      refine (held_prune _ _ _ id).trans (filter_spared (fun bin => ?_) _)
      cases id with
      | total => rfl
      | day =>
        simp only [captureAt, covers_day, Bool.and_eq_true, decide_eq_true_eq] at cov
        simp [dropped, cov.2, Int.not_lt.mpr (current_day_mono order)]
      | month =>
        simp only [captureAt, covers_month, Bool.and_eq_true, decide_eq_true_eq] at cov
        simp [dropped, cov.2, Int.not_lt.mpr (current_month_mono order)]
  rw [spared]

theorem pruned_refusal (lim : BudgetLimiter) (now : Int) (key : String) (pol : BudgetPolicy) (unrefused : refusedState lim key pol = none) :
    refusedState (prunedLimiter lim now key) key pol = none := by
  unfold refusedState at unrefused ⊢
  rw [pruned_lookup]
  cases has : lim.states.lookup key with
  | none => rfl
  | some st =>
    simp only [has, Option.map_some] at unrefused ⊢
    by_cases valid : validateBudgetState st = true
    · have still := (validate_iff _).mpr (prune_accepted (currentDay now) (currentMonth now) ((validate_iff st).mp valid))
      simp only [valid, still, Bool.not_true, Bool.false_eq_true, if_false] at unrefused ⊢
      exact unrefused
    · simp [valid] at unrefused

theorem passed_pruned (passed : ReservePassed lim key pol cand) : ReservePassed (prunedLimiter lim now key) key pol cand := by
  refine ⟨passed.keyValid, passed.candidateKnown, passed.policyValid, passed.fence, ?_, pruned_refusal lim now key pol passed.unrefused⟩
  intro st has
  rw [pruned_lookup, Option.map_eq_some_iff] at has
  obtain ⟨old, hit, rfl⟩ := has
  exact prune_accepted _ _ (passed.accepted old hit)

theorem room_unlimited (unrestricted : pol.limited = false ∧ pol.dayLimited = false ∧ pol.monthLimited = false) :
    Room lim now key pol cand := by
  intro id cov
  cases id <;> simp [captureAt, unrestricted] at cov

theorem room_blank (gone : lim.states.lookup key = none) : Room lim now key pol cand ↔
    (pol.limited = true → cand.amount ≤ pol.total.amount) ∧ (pol.dayLimited = true → cand.amount ≤ pol.day.amount) ∧
      (pol.monthLimited = true → cand.amount ≤ pol.month.amount) := by
  have empty : (lim.states.lookup key).map (pruneState (currentDay now) (currentMonth now)) = none := by rw [gone]; rfl
  rw [room_iff empty]
  simp [over_limit_false, readBucket, cellSum]

theorem room_admits (room : ∃ hold, (reserve lim read key pol cand).2 = .ok hold) :
    Room lim (clampTime lim.lastNow read) key pol cand := by
  obtain ⟨_, fine⟩ := room
  have out := reserve_outcome lim read key pol cand
  rw [fine] at out
  generalize (reserve lim read key pol cand).1 = next at out
  cases out with
  | unlimited _ unrestricted => exact room_unlimited unrestricted
  | free _ _ room => exact room
  | admitted _ _ room => exact room

theorem pruned_clock (order : now ≤ later) : clampTime (prunedLimiter lim now key).lastNow later = later :=
  if_neg (fun back => Int.not_lt.mpr order back.2)

theorem retry_admits (passed : ReservePassed lim key pol cand) (full : ¬ Room lim now key pol cand)
    (room : Room lim later key pol cand) (order : now ≤ later) :
    ∃ hold, (reserve (prunedLimiter lim now key) later key pol cand).2 = .ok hold := by
  have again : ReservePassed (prunedLimiter lim now key) key pol cand := passed_pruned passed
  have out := reserve_outcome (prunedLimiter lim now key) later key pol cand
  rw [pruned_clock order] at out
  generalize (reserve (prunedLimiter lim now key) later key pol cand).1 = next at out
  generalize (reserve (prunedLimiter lim now key) later key pol cand).2 = ans at out
  cases out with
  | refused _ _ unpassed => exact absurd again unpassed
  | unlimited | free | admitted => exact ⟨_, rfl⟩
  | rejected _ barred => exact absurd ((room_pruned order).mpr room) barred
  | exhausted _ gone =>
    have blank : lim.states.lookup key = none := by simpa [pruned_lookup] using gone
    exact absurd ((room_blank blank).mpr ((room_blank blank).mp room)) full

-- The start of the period after the one that is full: the month before the day.
def retryAt (lim : BudgetLimiter) (now : Int) (key : String) (pol : BudgetPolicy) (cand : Money) : Int :=
  if monthOver lim now key pol cand then nextMonth (currentMonth now) else currentDay now + dayNanos

theorem retry_later (lim : BudgetLimiter) (now : Int) (key : String) (pol : BudgetPolicy) (cand : Money) : now ≤ retryAt lim now key pol cand := by
  unfold retryAt
  split
  · exact Int.le_of_lt (next_month_after now)
  · exact Int.le_of_lt (next_day_after now)

-- A limit can hold the candidate, and what is stored for the period leaves it room.
def Vacant (limit : Money) (cell : Option BudgetDayState) (cand : Money) : Prop :=
  cand.amount ≤ limit.amount ∧ ∀ bin ∈ cell, bin.spent.amount + bin.active.amount + cand.amount ≤ limit.amount

theorem vacant_iff {limit : Money} {cell : Option BudgetDayState} : Vacant limit cell cand ↔
    spentIn cell + activeIn cell + cand.amount ≤ limit.amount := by
  cases cell with
  | none => simp [Vacant]
  | some bin =>
    simp only [Vacant, Option.mem_some_iff, forall_eq', spent_in_some, active_in_some]
    omega

theorem room_iff_vacant (under : totalOver lim key pol cand = false) : Room lim now key pol cand ↔
    (pol.dayLimited = true → Vacant pol.day (held (lim.states.lookup key) (.day (currentDay now))) cand) ∧
      (pol.monthLimited = true → Vacant pol.month (held (lim.states.lookup key) (.month (currentMonth now))) cand) := by
  simp only [vacant_iff]
  constructor
  · intro room
    exact ⟨fun on => room (.day (currentDay now)) (by simp [captureAt, on]), fun on => room (.month (currentMonth now)) (by simp [captureAt, on])⟩
  · rintro ⟨day, m⟩ id cov
    cases id with
    | total =>
      have fits := over_limit_false.mp under (by simpa [captureAt] using cov)
      rwa [read_sum] at fits
    | day =>
      simp only [captureAt, covers_day, Bool.and_eq_true, decide_eq_true_eq] at cov
      obtain ⟨on, rfl⟩ := cov
      exact day on
    | month =>
      simp only [captureAt, covers_month, Bool.and_eq_true, decide_eq_true_eq] at cov
      obtain ⟨on, rfl⟩ := cov
      exact m on

-- The reported time helps exactly when the lifetime limit is what rejects, so that there
-- is none, or the day and the month can hold the candidate and nothing is stored for
-- the next period that leaves it no room. Time zero is no reset.
theorem budget_retry_iff_vacant (limiter : BudgetLimiter) (reading : Int) (keyID : String) (policy : BudgetPolicy) (candidate : Money)
    (reset : Int) (totalRejected : Bool)
    (rejected : (reserve limiter reading keyID policy candidate).2 = .error (.capacity reset totalRejected)) :
    ((reset ≠ zeroTime → ∃ reservation,
        (reserve (reserve limiter reading keyID policy candidate).1 reset keyID policy candidate).2 = .ok reservation) ∧
      (policy.limited = true ∧ policy.total.amount < spentIn (held (limiter.states.lookup keyID) .total) +
            activeIn (held (limiter.states.lookup keyID) .total) + candidate.amount ∨
          policy.dayLimited = true ∧ policy.day.amount < candidate.amount ∨
          policy.monthLimited = true ∧ policy.month.amount < candidate.amount → reset = zeroTime)) ↔
      (policy.limited = true ∧ policy.total.amount < spentIn (held (limiter.states.lookup keyID) .total) +
            activeIn (held (limiter.states.lookup keyID) .total) + candidate.amount) ∨
        retryAt limiter (clampTime limiter.lastNow reading) keyID policy candidate = zeroTime ∨
        (policy.dayLimited = true → Vacant policy.day (held (limiter.states.lookup keyID)
          (.day (currentDay (retryAt limiter (clampTime limiter.lastNow reading) keyID policy candidate)))) candidate) ∧
        (policy.monthLimited = true → Vacant policy.month (held (limiter.states.lookup keyID)
          (.month (currentMonth (retryAt limiter (clampTime limiter.lastNow reading) keyID policy candidate)))) candidate) := by
  have lifetime : (policy.limited = true ∧ policy.total.amount < spentIn (held (limiter.states.lookup keyID) .total) +
      activeIn (held (limiter.states.lookup keyID) .total) + candidate.amount) ↔ totalOver limiter keyID policy candidate = true := by
    simp [totalOver, overLimit, read_sum]
  rw [lifetime]
  have out := reserve_outcome limiter reading keyID policy candidate
  rw [rejected] at out
  generalize (reserve limiter reading keyID policy candidate).1 = next at out
  cases out with
  | refused _ early => simp at early
  | rejected passed full exceeded =>
    cases total : totalOver limiter keyID policy candidate with
    | true => simp [resetAt]
    | false =>
      have fixed : resetAt false (dayOver limiter (clampTime limiter.lastNow reading) keyID policy candidate)
          (monthOver limiter (clampTime limiter.lastNow reading) keyID policy candidate) (currentDay (clampTime limiter.lastNow reading))
          (currentMonth (clampTime limiter.lastNow reading)) = retryAt limiter (clampTime limiter.lastNow reading) keyID policy candidate := by
        rw [total, Bool.false_or] at exceeded
        unfold resetAt retryAt
        cases m : monthOver limiter (clampTime limiter.lastNow reading) keyID policy candidate with
        | true => rfl
        | false =>
          rw [m, Bool.or_false] at exceeded
          simp [exceeded]
      have order := retry_later limiter (clampTime limiter.lastNow reading) keyID policy candidate
      rw [← room_iff_vacant total, fixed]
      generalize retryAt limiter (clampTime limiter.lastNow reading) keyID policy candidate = reset at order
      by_cases useful : reset = zeroTime
      · simp [useful]
      simp only [useful, Bool.false_eq_true, false_or]
      constructor
      · rintro ⟨admits, _⟩
        have room := room_admits (admits useful)
        rw [pruned_clock order] at room
        exact (room_pruned order).mp room
      · intro room
        refine ⟨fun _ => retry_admits passed full room order, ?_⟩
        obtain ⟨day, m⟩ := (room_iff_vacant total).mp room
        rintro (⟨on, short⟩ | ⟨on, short⟩)
        · exact absurd (day on).1 (Nat.not_le.mpr short)
        · exact absurd (m on).1 (Nat.not_le.mpr short)

-- Six of ten are held. Six more wait for the next day.
theorem budget_retry_next_day : ∃ reservation,
    (reserve (reserve (reserve newBudgetLimiter 0 "key" (dailyBudgetPolicy (.known 10)) (.known 6)).1 1 "key"
      (dailyBudgetPolicy (.known 10)) (.known 6)).1 dayNanos "key" (dailyBudgetPolicy (.known 10)) (.known 6)).2 = .ok reservation :=
  ((budget_retry_iff_vacant (reserve newBudgetLimiter 0 "key" (dailyBudgetPolicy (.known 10)) (.known 6)).1 1 "key"
    (dailyBudgetPolicy (.known 10)) (.known 6) dayNanos false (by decide)).mpr
      (.inr (.inr ⟨fun _ => ⟨by decide, by decide⟩, nofun⟩))).1 (by decide)

-- Ten never fit under a day's five, and the next midnight is reported.
theorem budget_retry_never_fits : ¬ ∀ (limiter : BudgetLimiter) (reading : Int) (keyID : String) (policy : BudgetPolicy) (candidate : Money)
    (reset : Int) (totalRejected : Bool),
    (reserve limiter reading keyID policy candidate).2 = .error (.capacity reset totalRejected) →
    (reset ≠ zeroTime → ∃ reservation,
        (reserve (reserve limiter reading keyID policy candidate).1 reset keyID policy candidate).2 = .ok reservation) ∧
      (policy.limited = true ∧ policy.total.amount < spentIn (held (limiter.states.lookup keyID) .total) +
            activeIn (held (limiter.states.lookup keyID) .total) + candidate.amount ∨
          policy.dayLimited = true ∧ policy.day.amount < candidate.amount ∨
          policy.monthLimited = true ∧ policy.month.amount < candidate.amount → reset = zeroTime) := by
  intro helps
  have useless := (helps newBudgetLimiter 0 "key" (dailyBudgetPolicy (.known 5)) (.known 10) dayNanos false (by decide)).2
  exact absurd (useless (.inr (.inl (by decide)))) (by decide)

end NineGateway.Budget
