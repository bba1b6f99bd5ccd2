import NineGateway.Budget.Reserve

set_option autoImplicit false

namespace NineGateway.Budget

def BudgetCapture.covers (capture : BudgetCapture) : BudgetIdentity → Bool
  | .total => capture.totalCaptured
  | .day start => capture.dayCaptured && decide (start = capture.dayStart)
  | .month start => capture.monthCaptured && decide (start = capture.monthStart)

def limitFor (policy : BudgetPolicy) : BudgetIdentity → Money
  | .total => policy.total
  | .day _ => policy.day
  | .month _ => policy.month

-- What Reserve throws away on the way in: a past bucket nobody holds active.
def dropped (dayStart monthStart : Int) : BudgetIdentity → BudgetDayState → Bool
  | .total, _ => false
  | .day start, bucket => decide (start < dayStart) && isZeroMoney bucket.active
  | .month start, bucket => decide (start < monthStart) && isZeroMoney bucket.active

theorem held_prune (dstart mstart : Int) (st : BudgetState) (id : BudgetIdentity) : held (some (pruneState dstart mstart st)) id =
      (held (some st) id).filter (fun bin => !dropped dstart mstart id bin) := by
  cases id with
  | total => rfl
  | day => simp [held_day, pruneState, pruneBuckets, dropped]
  | month => simp [held_month, pruneState, pruneBuckets, dropped]

variable {lim : BudgetLimiter} {cell : BudgetDayState} {pol : BudgetPolicy} {key : String} {limit cand : Money}
variable {limited : Bool} {dstart mstart : Int} {id : BudgetIdentity} {now : Int} {st : BudgetState} {base : BudgetState}

theorem prune_accepted (dstart mstart : Int) (fine : StateAccepted st) : StateAccepted (pruneState dstart mstart st) := by
  refine ⟨fine.generation, fine.total, fine.day, fine.month, ?_⟩
  intro id bin has
  rw [held_prune, Option.filter_eq_some_iff] at has
  exact fine.cells id bin has.1

@[simp] theorem covers_none (id : BudgetIdentity) : noCapture.covers id = false := by
  cases id <;> rfl

@[simp] theorem covers_total (pol : BudgetPolicy) (dstart mstart : Int) : (captureOf pol dstart mstart).covers .total = pol.limited := rfl

@[simp] theorem covers_day (pol : BudgetPolicy) (dstart mstart start : Int) :
    (captureOf pol dstart mstart).covers (.day start) = (pol.dayLimited && decide (start = dstart)) := by
  cases limited : pol.dayLimited <;> simp [BudgetCapture.covers, captureOf, limited]

@[simp] theorem covers_month (pol : BudgetPolicy) (dstart mstart start : Int) :
    (captureOf pol dstart mstart).covers (.month start) = (pol.monthLimited && decide (start = mstart)) := by
  cases limited : pol.monthLimited <;> simp [BudgetCapture.covers, captureOf, limited]

theorem covered_not_dropped (pol : BudgetPolicy) (dstart mstart : Int) (id : BudgetIdentity) (bin : BudgetDayState)
    (cov : (captureOf pol dstart mstart).covers id = true) : dropped dstart mstart id bin = false := by
  cases id with
  | total => rfl
  | day =>
    simp only [covers_day, Bool.and_eq_true, decide_eq_true_eq] at cov
    simp [dropped, cov.2]
  | month =>
    simp only [covers_month, Bool.and_eq_true, decide_eq_true_eq] at cov
    simp [dropped, cov.2]

theorem filter_spared (spared : ∀ bin, dropped dstart mstart id bin = false) (cell : Option BudgetDayState) :
    cell.filter (fun bin => !dropped dstart mstart id bin) = cell := by
  cases cell with
  | none => rfl
  | some bin => simp [Option.filter, spared bin]

theorem exceeds_known {used : Money} (limitKnown : limit.isKnown = true) (usedKnown : used.isKnown = true)
    (candidateKnown : cand.isKnown = true) : exceeds limit used cand = .ok (decide (limit.amount < used.amount + cand.amount)) := by
  by_cases enough : used.amount ≤ limit.amount
  · have remaining := Money.subtract_known limitKnown usedKnown enough
    simp only [exceeds, remaining, Money.less_or_equal_known candidateKnown (Money.known_of_micros _ _), Money.amount_of_micros]
    congr 1
    by_cases fits : cand.amount ≤ limit.amount - used.amount
    · simp only [fits, decide_true, Bool.not_true]
      exact (decide_eq_false (by omega)).symm
    · simp only [fits, decide_false, Bool.not_false]
      exact (decide_eq_true (by omega)).symm
  · have short := Money.subtract_underflow limitKnown usedKnown (Nat.lt_of_not_le enough)
    simp only [exceeds, short]
    congr 1
    exact (decide_eq_true (by omega)).symm

def cellSum (cell : BudgetDayState) : Nat := cell.spent.amount + cell.active.amount

theorem cell_sum_le (valid : validCell cell = true) : cellSum cell ≤ maxMoneyMicros :=
  ((valid_cell_iff cell).mp valid).2.2

theorem cell_known_sum (valid : validCell cell = true) :
    cell.spent.add cell.active = .ok (Money.ofMicros (cellSum cell) (cell_sum_le valid)) := by
  obtain ⟨sknown, aknown, fits⟩ := (valid_cell_iff cell).mp valid
  exact Money.add_known sknown aknown fits

def overLimit (limited : Bool) (limit : Money) (cell : BudgetDayState) (cand : Money) : Bool :=
  limited && decide (limit.amount < cellSum cell + cand.amount)

theorem exceeds_over (valid : validCell cell = true) (limitKnown : limited = limit.isKnown) (candidateKnown : cand.isKnown = true) :
    (if limited then exceeds limit (Money.ofMicros (cellSum cell) (cell_sum_le valid)) cand else .ok false) =
      .ok (overLimit limited limit cell cand) := by
  cases limited with
  | false => rfl
  | true =>
    rw [if_pos rfl, exceeds_known limitKnown.symm (Money.known_of_micros _ _) candidateKnown]
    rfl

theorem check_capacity_valid {total day m : BudgetDayState} (dstart mstart : Int) (policyValid : validPolicy pol = true)
    (candidateKnown : cand.isKnown = true) (totalValid : validCell total = true) (dayValid : validCell day = true)
    (monthValid : validCell m = true) : checkCapacity pol cand dstart mstart total day m =
      let totalOver := overLimit pol.limited pol.total total cand
      let dayOver := overLimit pol.dayLimited pol.day day cand
      let monthOver := overLimit pol.monthLimited pol.month m cand
      if totalOver || dayOver || monthOver then
        .error (.capacity (resetAt totalOver dayOver monthOver dstart mstart) totalOver)
      else .ok () := by
  obtain ⟨totalLimit, dayLimit, monthLimit⟩ := (valid_policy_iff pol).mp policyValid
  have used : knownResult (total.spent.add total.active) = some (Money.ofMicros (cellSum total) (cell_sum_le totalValid)) := by
    rw [cell_known_sum totalValid]
    rfl
  simp only [checkCapacity, used, cell_known_sum dayValid, cell_known_sum monthValid, exceeds_over totalValid totalLimit candidateKnown,
    exceeds_over dayValid dayLimit candidateKnown, exceeds_over monthValid monthLimit candidateKnown]

@[simp] theorem amount_or_known_zero (v : Money) : (orKnownZero v).amount = v.amount := by
  cases v <;> rfl

@[simp] theorem known_or_known_zero (v : Money) : (orKnownZero v).isKnown = true := by
  cases v <;> rfl

theorem or_known_zero_eq {v : Money} (known : v.isKnown = true) : orKnownZero v = v := by
  simp [orKnownZero, known]

theorem read_spent_known (cell : Option BudgetDayState) : (readBucket cell).spent.isKnown = true := by
  cases cell <;> simp [readBucket]

theorem read_active_known (cell : Option BudgetDayState) : (readBucket cell).active.isKnown = true := by
  cases cell <;> simp [readBucket]

theorem read_spent (cell : Option BudgetDayState) : (readBucket cell).spent.amount = spentIn cell := by
  cases cell <;> simp [readBucket]

theorem read_active (cell : Option BudgetDayState) : (readBucket cell).active.amount = activeIn cell := by
  cases cell <;> simp [readBucket]

theorem read_sum (cell : Option BudgetDayState) : cellSum (readBucket cell) = spentIn cell + activeIn cell := by
  rw [cellSum, read_spent, read_active]

theorem read_valid {cell : Option BudgetDayState} (valid : ∀ bin, cell = some bin → validCell bin = true) :
    validCell (readBucket cell) = true := by
  rw [valid_cell_iff]
  refine ⟨read_spent_known cell, read_active_known cell, ?_⟩
  rw [read_spent, read_active]
  cases cell with
  | none => exact Nat.zero_le _
  | some bin => exact ((valid_cell_iff bin).mp (valid bin rfl)).2.2

theorem read_total {old : Option BudgetState} (fine : ∀ st, old = some st → StateAccepted st) :
    readTotal old = readBucket (held old .total) := by
  cases old with
  | none => rfl
  | some st =>
    obtain ⟨sknown, aknown, _⟩ := (valid_cell_iff _).mp ((fine st rfl).cells .total _ rfl).2
    simp [readTotal, readBucket, or_known_zero_eq sknown, or_known_zero_eq aknown]

structure ReservePassed (lim : BudgetLimiter) (key : String) (pol : BudgetPolicy) (cand : Money) : Prop where
  keyValid : validKeyID key = true
  candidateKnown : cand.isKnown = true
  policyValid : validPolicy pol = true
  fence : ∀ cur, lim.policies.lookup key = some cur → sameBudgetPolicy cur pol = true
  accepted : ∀ st, lim.states.lookup key = some st → StateAccepted st
  unrefused : refusedState lim key pol = none

def captureAt (policy : BudgetPolicy) (now : Int) : BudgetCapture := captureOf policy (currentDay now) (currentMonth now)

def Room (lim : BudgetLimiter) (now : Int) (key : String) (pol : BudgetPolicy) (cand : Money) : Prop :=
  ∀ id, (captureAt pol now).covers id = true →
    spentIn (held (lim.states.lookup key) id) + activeIn (held (lim.states.lookup key) id) +
      cand.amount ≤ (limitFor pol id).amount

def totalOver (lim : BudgetLimiter) (key : String) (pol : BudgetPolicy) (cand : Money) : Bool :=
  overLimit pol.limited pol.total (readBucket (held (lim.states.lookup key) .total)) cand

def dayOver (lim : BudgetLimiter) (now : Int) (key : String) (pol : BudgetPolicy) (cand : Money) : Bool :=
  overLimit pol.dayLimited pol.day (readBucket (held (lim.states.lookup key) (.day (currentDay now)))) cand

def monthOver (lim : BudgetLimiter) (now : Int) (key : String) (pol : BudgetPolicy) (cand : Money) : Bool :=
  overLimit pol.monthLimited pol.month (readBucket (held (lim.states.lookup key) (.month (currentMonth now)))) cand

def prunedLimiter (lim : BudgetLimiter) (now : Int) (key : String) : BudgetLimiter :=
  { lim with
    lastNow := now
    states := match lim.states.lookup key with
      | none => lim.states
      | some state => Finmap.insert key (pruneState (currentDay now) (currentMonth now) state) lim.states }

-- The state an admission writes into: the key's own after pruning, or a blank
-- one under a generation and an address never used before.
inductive Opened (lim : BudgetLimiter) (now : Int) (key : String) : BudgetState → Nat → Nat → Prop where
  | existing (st : BudgetState) (has : lim.states.lookup key = some st) :
      Opened lim now key (pruneState (currentDay now) (currentMonth now) st) lim.sequence lim.nextAddress
  | fresh (gone : lim.states.lookup key = none) (nz : nextGeneration lim.sequence ≠ 0) :
      Opened lim now key (blankState lim.nextAddress (nextGeneration lim.sequence)) (nextGeneration lim.sequence) (lim.nextAddress + 1)

structure Entered (pol : BudgetPolicy) (cand : Money) (cap : BudgetCapture) (base st : BudgetState) : Prop where
  address : st.address = base.address
  generation : st.generation = base.generation
  loaded : st.totalLoaded = (base.totalLoaded || pol.limited)
  totalLimit : st.hasLimit = pol.limited ∧ st.total = pol.total
  dayLimit : st.hasDayLimit = pol.dayLimited ∧ st.dayLimit = pol.day
  monthLimit : st.hasMonthLimit = pol.monthLimited ∧ st.monthLimit = pol.month
  counted : ∀ id, cap.covers id = true → ∃ cell, held (some st) id = some cell ∧
    cell.spent.isKnown = true ∧ cell.active.isKnown = true ∧ cell.spent.amount = spentIn (held (some base) id) ∧
    cell.active.amount = activeIn (held (some base) id) + cand.amount
  kept : ∀ id, cap.covers id = false → held (some st) id = held (some base) id

inductive ReserveOutcome (lim : BudgetLimiter) (now : Int) (key : String) (pol : BudgetPolicy) (cand : Money) :
    BudgetLimiter → Except BudgetError BudgetReservation → Prop where
  | refused (err) (early : err = .invalid ∨ err = .policyReplacementConflict ∨
        err = .state ∧ ∃ st, lim.states.lookup key = some st ∧ ¬ StateAccepted st) (unpassed : ¬ ReservePassed lim key pol cand) :
      ReserveOutcome lim now key pol cand lim (.error err)
  | unlimited (passed : ReservePassed lim key pol cand) (unrestricted : pol.limited = false ∧ pol.dayLimited = false ∧ pol.monthLimited = false) :
      ReserveOutcome lim now key pol cand lim (.ok (newBudgetReservation key none 0 cand noCapture))
  | rejected (passed : ReservePassed lim key pol cand) (full : ¬ Room lim now key pol cand)
      (exceeded : (totalOver lim key pol cand || dayOver lim now key pol cand || monthOver lim now key pol cand) = true) :
      ReserveOutcome lim now key pol cand (prunedLimiter lim now key) (.error (.capacity
        (resetAt (totalOver lim key pol cand) (dayOver lim now key pol cand) (monthOver lim now key pol cand) (currentDay now) (currentMonth now))
        (totalOver lim key pol cand)))
  | exhausted (passed : ReservePassed lim key pol cand) (gone : lim.states.lookup key = none) (wrapped : nextGeneration lim.sequence = 0) :
      ReserveOutcome lim now key pol cand { prunedLimiter lim now key with sequence := 0 } (.error .state)
  | free (passed : ReservePassed lim key pol cand) (zero : isZeroMoney cand = true) (room : Room lim now key pol cand)
      (caught : pol.limited = true ∨ pol.dayLimited = true ∨ pol.monthLimited = true) :
      ReserveOutcome lim now key pol cand (prunedLimiter lim now key) (.ok (newBudgetReservation key none 0 cand noCapture))
  | admitted (passed : ReservePassed lim key pol cand) (nz : isZeroMoney cand = false) (room : Room lim now key pol cand)
      (caught : pol.limited = true ∨ pol.dayLimited = true ∨ pol.monthLimited = true)
      (base st : BudgetState) (seq nextAddress : Nat) (begun : Opened lim now key base seq nextAddress)
      (inside : Entered pol cand (captureAt pol now) base st) : ReserveOutcome lim now key pol cand { lim with
          states := Finmap.insert key st lim.states
          sequence := seq, nextAddress := nextAddress, lastNow := now }
        (.ok (newBudgetReservation key (some st.address) st.generation cand (captureAt pol now)))

theorem add_if_known {active : Money} (aknown : active.isKnown = true) (candidateKnown : cand.isKnown = true)
    (fits : limited = true → active.amount + cand.amount ≤ maxMoneyMicros) :
    ∃ next, addIf limited active cand = .ok next ∧ next.isKnown = true ∧
      next.amount = active.amount + (if limited then cand.amount else 0) := by
  cases limited with
  | false => exact ⟨active, rfl, aknown, rfl⟩
  | true => exact ⟨_, Money.add_known aknown candidateKnown (fits rfl), rfl, rfl⟩

theorem enter_entered {newActive newDayActive newMonthActive : Money} (sknown : base.spent.isKnown = true)
    (total : newActive.isKnown = true ∧ newActive.amount = base.active.amount + (if pol.limited then cand.amount else 0))
    (same : pol.limited = false → newActive = base.active) (day : newDayActive.isKnown = true ∧
      newDayActive.amount = (readBucket (held (some base) (.day dstart))).active.amount + (if pol.dayLimited then cand.amount else 0))
    (m : newMonthActive.isKnown = true ∧
      newMonthActive.amount = (readBucket (held (some base) (.month mstart))).active.amount + (if pol.monthLimited then cand.amount else 0)) :
    Entered pol cand (captureOf pol dstart mstart) base
      (enterMonth (enterTotals base pol dstart newActive ⟨(readBucket (held (some base) (.day dstart))).spent, newDayActive⟩)
        pol mstart ⟨(readBucket (held (some base) (.month mstart))).spent, newMonthActive⟩) := by
  refine ⟨rfl, rfl, rfl, ⟨rfl, rfl⟩, ⟨rfl, rfl⟩, ⟨rfl, rfl⟩, ?_, ?_⟩
  · intro id cov
    cases id with
    | total =>
      rw [covers_total] at cov
      refine ⟨_, rfl, sknown, total.1, rfl, ?_⟩
      simpa [enterMonth, enterTotals, cov] using total.2
    | day start =>
      simp only [covers_day, Bool.and_eq_true, decide_eq_true_eq] at cov
      obtain ⟨limited, rfl⟩ := cov
      refine ⟨⟨(readBucket (held (some base) (.day start))).spent, newDayActive⟩, ?_, read_spent_known _, day.1, read_spent _, ?_⟩
      · simp [enterMonth, enterTotals, limited]
      · simpa [limited, read_active] using day.2
    | month start =>
      simp only [covers_month, Bool.and_eq_true, decide_eq_true_eq] at cov
      obtain ⟨limited, rfl⟩ := cov
      refine ⟨⟨(readBucket (held (some base) (.month start))).spent, newMonthActive⟩, ?_, read_spent_known _, m.1, read_spent _, ?_⟩
      · simp [enterMonth, enterTotals, limited]
      · simpa [limited, read_active] using m.2
  · intro id uncovered
    cases id with
    | total =>
      simp [enterMonth, enterTotals, applyBudgetPolicy, same uncovered]
    | day start =>
      cases limited : pol.dayLimited with
      | false => simp [enterMonth, enterTotals, limited]
      | true =>
        have alt : start ≠ dstart := by simpa [limited] using uncovered
        simp [enterMonth, enterTotals, limited, alt]
    | month start =>
      cases limited : pol.monthLimited with
      | false => simp [enterMonth, enterTotals, applyBudgetPolicy, limited]
      | true =>
        have alt : start ≠ mstart := by simpa [limited] using uncovered
        simp [enterMonth, enterTotals, applyBudgetPolicy, limited, alt]

theorem held_blank (address gen : Nat) (id : BudgetIdentity) : held (some (blankState address gen)) id =
      if id = .total then some ⟨knownZeroMoney, knownZeroMoney⟩ else none := by
  cases id <;> simp [blankState, held, Finmap.lookup_empty]

theorem opened_source {seq nextAddress : Nat} (begun : Opened lim now key base seq nextAddress) (cov : (captureAt pol now).covers id = true) :
    spentIn (held (some base) id) = spentIn (held (lim.states.lookup key) id) ∧
      activeIn (held (some base) id) = activeIn (held (lim.states.lookup key) id) := by
  cases begun with
  | existing _ has =>
    rw [held_prune, filter_spared (fun bin => covered_not_dropped pol _ _ id bin cov), has]
    exact ⟨rfl, rfl⟩
  | fresh gone =>
    rw [gone, held_blank]
    by_cases total : id = .total <;> simp [total]

theorem pruned_limiter_none (now : Int) (gone : lim.states.lookup key = none) : prunedLimiter lim now key = { lim with lastNow := now } := by
  simp [prunedLimiter, gone]

theorem pruned_limiter_some (now : Int) (has : lim.states.lookup key = some st) : prunedLimiter lim now key =
      { lim with lastNow := now }.store key (pruneState (currentDay now) (currentMonth now) st) := by
  simp [prunedLimiter, has, BudgetLimiter.store]

theorem over_limit_false : overLimit limited limit cell cand = false ↔ (limited = true → cellSum cell + cand.amount ≤ limit.amount) := by
  simp [overLimit]

theorem over_limit_addable (fits : overLimit limited limit cell cand = false) (on : limited = true) :
    cell.active.amount + cand.amount ≤ maxMoneyMicros := by
  have room := over_limit_false.mp fits on
  have bound := Money.amount_le limit
  unfold cellSum at room
  omega

theorem held_current (pol : BudgetPolicy) (cov : (captureAt pol now).covers id = true) :
    held ((lim.states.lookup key).map (pruneState (currentDay now) (currentMonth now))) id = held (lim.states.lookup key) id := by
  cases lim.states.lookup key with
  | none => rfl
  | some => exact (held_prune _ _ _ id).trans (filter_spared (fun bin => covered_not_dropped pol _ _ id bin cov) _)

theorem room_iff {existing : Option BudgetState} (has : (lim.states.lookup key).map (pruneState (currentDay now) (currentMonth now)) = existing) :
    Room lim now key pol cand ↔ overLimit pol.limited pol.total (readBucket (held existing .total)) cand = false ∧
      overLimit pol.dayLimited pol.day (readBucket (held existing (.day (currentDay now)))) cand = false ∧
      overLimit pol.monthLimited pol.month (readBucket (held existing (.month (currentMonth now)))) cand = false := by
  have spared : ∀ id, (captureAt pol now).covers id = true → held existing id = held (lim.states.lookup key) id := by
    subst has
    exact fun id => held_current pol
  have covered : ∀ id, (captureAt pol now).covers id = true → (spentIn (held (lim.states.lookup key) id) +
      activeIn (held (lim.states.lookup key) id) = cellSum (readBucket (held existing id))) := by
    intro id cov
    rw [read_sum, spared id cov]
  simp only [over_limit_false]
  constructor
  · intro room
    refine ⟨fun on => ?_, fun on => ?_, fun on => ?_⟩
    · exact covered .total on ▸ room .total on
    · have cov : (captureAt pol now).covers (.day (currentDay now)) = true := by simp [captureAt, on]
      exact covered _ cov ▸ room _ cov
    · have cov : (captureAt pol now).covers (.month (currentMonth now)) = true := by simp [captureAt, on]
      exact covered _ cov ▸ room _ cov
  · rintro ⟨total, day, m⟩ id cov
    rw [covered id cov]
    cases id with
    | total => exact total cov
    | day =>
      simp only [captureAt, covers_day, Bool.and_eq_true, decide_eq_true_eq] at cov
      obtain ⟨on, rfl⟩ := cov
      exact day on
    | month =>
      simp only [captureAt, covers_month, Bool.and_eq_true, decide_eq_true_eq] at cov
      obtain ⟨on, rfl⟩ := cov
      exact m on

theorem known_result_ok {money : Money} (known : money.isKnown = true) : knownResult (.ok money) = some money := by
  cases money with
  | unknown => simp at known
  | known => rfl

theorem reserve_at_outcome (passed : ReservePassed lim key pol cand)
    (caught : pol.limited = true ∨ pol.dayLimited = true ∨ pol.monthLimited = true) : ReserveOutcome lim now key pol cand
      (reserveAt { lim with lastNow := now } (currentDay now) (currentMonth now) key pol cand).1
      (reserveAt { lim with lastNow := now } (currentDay now) (currentMonth now) key pol cand).2 := by
  generalize existingEq : (lim.states.lookup key).map (pruneState (currentDay now) (currentMonth now)) = existing
  have fine : ∀ st, existing = some st → StateAccepted st := by
    intro st has
    rw [← existingEq, Option.map_eq_some_iff] at has
    obtain ⟨old, hit, rfl⟩ := has
    exact prune_accepted _ _ (passed.accepted old hit)
  have cellValid : ∀ id, validCell (readBucket (held existing id)) = true := by
    intro id
    apply read_valid
    intro bin has
    cases existing with
    | none => simp at has
    | some st => exact ((fine st rfl).cells id bin has).2
  have prunedEq : BudgetLimiter.storeIf { lim with lastNow := now } key existing = prunedLimiter lim now key := by
    subst existingEq
    cases has : lim.states.lookup key with
    | none => exact (pruned_limiter_none now has).symm
    | some => exact (pruned_limiter_some now has).symm
  simp only [reserveAt, existingEq, prunedEq, read_total fine]
  rw [check_capacity_valid (currentDay now) (currentMonth now) passed.policyValid passed.candidateKnown
    (cellValid .total) (cellValid (.day (currentDay now))) (cellValid (.month (currentMonth now)))]
  have whole : overLimit pol.limited pol.total (readBucket (held existing .total)) cand = totalOver lim key pol cand := by
    rw [totalOver, ← existingEq]
    cases lim.states.lookup key <;> rfl
  have today : overLimit pol.dayLimited pol.day (readBucket (held existing (.day (currentDay now)))) cand = dayOver lim now key pol cand := by
    rw [dayOver, ← existingEq]
    cases on : pol.dayLimited with
    | false => rfl
    | true => rw [held_current pol (by simp [captureAt, on])]
  have monthly : overLimit pol.monthLimited pol.month (readBucket (held existing (.month (currentMonth now)))) cand =
      monthOver lim now key pol cand := by
    rw [monthOver, ← existingEq]
    cases on : pol.monthLimited with
    | false => rfl
    | true => rw [held_current pol (by simp [captureAt, on])]
  have checks : Room lim now key pol cand ↔ _ := room_iff existingEq
  by_cases room : Room lim now key pol cand
  case neg =>
    have barred := room
    simp only [checks, ← Bool.or_eq_false_iff, ← Bool.or_assoc, Bool.not_eq_false] at barred
    simp only [if_pos barred]
    rw [whole, today, monthly] at barred ⊢
    exact .rejected passed room barred
  obtain ⟨totalEq, dayEq, monthEq⟩ := checks.mp room
  simp only [totalEq, dayEq, monthEq, Bool.or_self, Bool.false_eq_true, if_false]
  by_cases zero : isZeroMoney cand = true
  · simp only [if_pos zero]
    exact .free passed zero room caught
  simp only [if_neg zero]
  have nz : isZeroMoney cand = false := by simpa using zero
  obtain ⟨newActive, totalAdd, total⟩ :=
    add_if_known (read_active_known (held existing .total)) passed.candidateKnown (over_limit_addable totalEq)
  obtain ⟨_, dayAdd, day⟩ :=
    add_if_known (read_active_known (held existing (.day (currentDay now)))) passed.candidateKnown (over_limit_addable dayEq)
  obtain ⟨_, monthAdd, m⟩ :=
    add_if_known (read_active_known (held existing (.month (currentMonth now)))) passed.candidateKnown (over_limit_addable monthEq)
  have same : pol.limited = false → newActive = (readBucket (held existing .total)).active := by
    intro off
    simpa [addIf, off] using totalAdd.symm
  simp only [admitCandidate, totalAdd, dayAdd, monthAdd, known_result_ok total.1]
  cases has : lim.states.lookup key with
  | none =>
    obtain rfl : existing = none := by rw [← existingEq, has]; rfl
    by_cases wrapped : nextGeneration lim.sequence = 0
    · simp only [pruned_limiter_none now has, wrapped, if_true]
      have out : ReserveOutcome lim now key pol cand _ _ := .exhausted passed has wrapped
      rwa [pruned_limiter_none now has] at out
    · simp only [pruned_limiter_none now has, if_neg wrapped]
      have begun : Opened lim now key _ _ _ := .fresh has wrapped
      refine .admitted passed nz room caught _ _ _ _ begun ?_
      exact enter_entered rfl total same day m
  | some old =>
    obtain rfl : existing = some (pruneState (currentDay now) (currentMonth now) old) := by rw [← existingEq, has]; rfl
    have live := fine _ rfl
    obtain ⟨sknown, aknown, _⟩ := (valid_cell_iff _).mp (live.cells .total _ rfl).2
    have activeEq : (readBucket (held (some (pruneState (currentDay now) (currentMonth now) old)) .total)).active =
        (pruneState (currentDay now) (currentMonth now) old).active := or_known_zero_eq aknown
    simp only [pruned_limiter_some now has]
    have begun : Opened lim now key _ _ _ := .existing old has
    have inside := enter_entered sknown (activeEq ▸ total) (activeEq ▸ same) day m
    simp only [BudgetLimiter.store, Finmap.insert_insert]
    exact .admitted passed nz room caught _ _ _ _ begun inside

theorem reserve_outcome (lim : BudgetLimiter) (read : Int) (key : String) (pol : BudgetPolicy) (cand : Money) :
    ReserveOutcome lim (clampTime lim.lastNow read) key pol cand (reserve lim read key pol cand).1 (reserve lim read key pol cand).2 := by
  by_cases malformed : (!validKeyID key || !validKnownMoney cand || !validPolicy pol) = true
  · simp only [reserve, if_pos malformed]
    refine .refused .invalid (.inl rfl) ?_
    intro passed
    simp [passed.keyValid, validKnownMoney, passed.candidateKnown, passed.policyValid] at malformed
  simp only [reserve, if_neg malformed]
  by_cases stale : stalePolicy lim key pol = true
  · simp only [if_pos stale]
    refine .refused .policyReplacementConflict (.inr (.inl rfl)) ?_
    intro passed
    cases filed : lim.policies.lookup key with
    | none => simp [stalePolicy, filed] at stale
    | some cur => simp [stalePolicy, filed, passed.fence cur filed] at stale
  simp only [if_neg stale]
  have wellFormed : validKeyID key = true ∧ cand.isKnown = true ∧ validPolicy pol = true := by
    simpa [validKnownMoney, and_assoc] using malformed
  have fence : ∀ cur, lim.policies.lookup key = some cur → sameBudgetPolicy cur pol = true := by
    intro cur filed
    simpa [stalePolicy, filed] using stale
  cases refusal : refusedState lim key pol with
  | some err =>
    refine .refused err ?_ (fun passed => by simp [passed.unrefused] at refusal)
    cases has : lim.states.lookup key with
    | none => simp [refusedState, has] at refusal
    | some st =>
      by_cases valid : validateBudgetState st = true
      · simp only [refusedState, has, valid, Bool.not_true, Bool.false_eq_true, if_false] at refusal
        split at refusal
        · exact .inl (by simpa using refusal.symm)
        · simp at refusal
      · refine .inr (.inr ⟨?_, st, rfl, fun fine => valid ((validate_iff st).mpr fine)⟩)
        simpa [refusedState, has, valid] using refusal.symm
  | none =>
    have passed : ReservePassed lim key pol cand := by
      refine ⟨wellFormed.1, wellFormed.2.1, wellFormed.2.2, fence, ?_, refusal⟩
      intro st has
      rw [← validate_iff]
      by_contra invalid
      rw [Bool.not_eq_true] at invalid
      simp [refusedState, has, invalid] at refusal
    by_cases unrestricted : (!pol.limited && !pol.dayLimited && !pol.monthLimited) = true
    · simp only [if_pos unrestricted]
      exact .unlimited passed (by simpa [and_assoc] using unrestricted)
    simp only [if_neg unrestricted, current_month_of_day]
    apply reserve_at_outcome passed
    simp only [Bool.and_eq_true, Bool.not_eq_true', not_and, Bool.not_eq_false] at unrestricted
    by_cases total : pol.limited = true
    · exact .inl total
    · by_cases day : pol.dayLimited = true
      · exact .inr (.inl day)
      · exact .inr (.inr (unrestricted ⟨by simpa using total, by simpa using day⟩))

end NineGateway.Budget
