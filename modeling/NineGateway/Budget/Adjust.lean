import NineGateway.Budget.Settlement

set_option autoImplicit false

namespace NineGateway.Budget

open BudgetCapture

structure Adjustment where
  ticket : BudgetAdjustmentTicket
  deltas : List CommittedBudgetDelta
deriving DecidableEq, Repr

structure AdjustPlan where
  newSpent : Money
  newDaySpent : Money
  newMonthSpent : Money
  delta : Int
  dayDelta : Int
  monthDelta : Int
  ok : Bool
  resultErr : Option BudgetError
deriving DecidableEq, Repr

def zeroBucket : BudgetDayState := ⟨.unknown, .unknown⟩

def bucketAt (buckets : FiniteMap Int BudgetDayState) (start : Int) : BudgetDayState := (buckets.lookup start).getD zeroBucket

def planFailure (failure : BudgetError) : AdjustPlan :=
  { newSpent := .unknown, newDaySpent := .unknown, newMonthSpent := .unknown, delta := 0, dayDelta := 0, monthDelta := 0
    ok := false, resultErr := some failure }

-- A bucket that cannot take the difference clears ok and keeps its delta zero;
-- it sets no error.
def shiftBucket (counted : Bool) (shift : Money → Except MoneyError Money) (delta : Int) (bucket : BudgetDayState) :
    Money × Int × Bool :=
  if counted then
    match knownResult (shift bucket.spent) with
    | none => (.unknown, 0, false)
    | some next => (next, delta, true)
  else (.unknown, 0, true)

def shiftPlan (shift : Money → Except MoneyError Money) (delta : Int) (ok : Bool) (capture : BudgetCapture)
    (state : BudgetState) : AdjustPlan :=
  match knownResult (if capture.totalCaptured then shift state.spent else .ok state.spent) with
  | none => planFailure (.settlement .arithmetic true)
  | some newSpent =>
    let day := shiftBucket capture.dayCounted shift delta (bucketAt state.dayBuckets capture.dayStart)
    let month := shiftBucket capture.monthCounted shift delta (bucketAt state.monthBuckets capture.monthStart)
    { newSpent := newSpent, newDaySpent := day.1, newMonthSpent := month.1, delta := delta, dayDelta := day.2.1
      monthDelta := month.2.1, ok := ok && day.2.2 && month.2.2, resultErr := none }

def keepPlan (capture : BudgetCapture) (state : BudgetState) : AdjustPlan :=
  { newSpent := state.spent, newDaySpent := (bucketAt state.dayBuckets capture.dayStart).spent
    newMonthSpent := (bucketAt state.monthBuckets capture.monthStart).spent, delta := 0, dayDelta := 0, monthDelta := 0
    ok := true, resultErr := none }

def adjustPlan (actual reserved : Money) (capture : BudgetCapture) (state : BudgetState) : AdjustPlan :=
  match actual.compare reserved with
  | .error _ => planFailure .state
  | .ok .gt =>
    match actual.subtract reserved with
    | .error _ => planFailure (.settlement .arithmetic true)
    | .ok increase => shiftPlan (fun spent => spent.add increase) increase.amount increase.isKnown capture state
  | .ok .lt =>
    match reserved.subtract actual with
    | .error _ => planFailure (.settlement .arithmetic true)
    | .ok refund => shiftPlan (fun spent => spent.subtract refund) (-refund.amount) true capture state
  | .ok .eq => keepPlan capture state

def applyPlan (state : BudgetState) (capture : BudgetCapture) (plan : AdjustPlan) : BudgetState :=
  { state with
    spent := plan.newSpent
    dayBuckets := if capture.dayCounted then
      Finmap.insert capture.dayStart { bucketAt state.dayBuckets capture.dayStart with spent := plan.newDaySpent } state.dayBuckets
      else state.dayBuckets
    monthBuckets := if capture.monthCounted then
      Finmap.insert capture.monthStart { bucketAt state.monthBuckets capture.monthStart with spent := plan.newMonthSpent }
        state.monthBuckets
      else state.monthBuckets }

-- The deltas are guarded by the error alone, not by ok.
def planDeltas (keyID : String) (capture : BudgetCapture) (plan : AdjustPlan) : List CommittedBudgetDelta :=
  if plan.resultErr.isSome then []
  else
    (if plan.delta ≠ 0 ∧ capture.totalCaptured = true then [⟨keyID, plan.delta, .total⟩] else []) ++
    (if plan.dayDelta ≠ 0 then [⟨keyID, plan.dayDelta, .day capture.dayStart⟩] else []) ++
    (if plan.monthDelta ≠ 0 then [⟨keyID, plan.monthDelta, .month capture.monthStart⟩] else [])

def BudgetAdjustmentTicket.consume (ticket : BudgetAdjustmentTicket) (resultErr : Option BudgetError) : BudgetAdjustmentTicket :=
  { ticket with consumed := true, resultErr := resultErr }

def adjust (limiter : BudgetLimiter) (ticket : BudgetAdjustmentTicket) (actual : Money) : BudgetLimiter × Adjustment :=
  if ticket.consumed then (limiter, ⟨ticket, []⟩)
  else if !validKnownMoney actual then (limiter, ⟨ticket.consume (some (.settlement .invalidActual true)), []⟩)
  else if !ticket.hasLimiter || !validKeyID ticket.keyID || decide (ticket.generation = 0) then
    (limiter, ⟨ticket.consume (some .state), []⟩)
  else
    match limiter.states.lookup ticket.keyID with
    | none => (limiter, ⟨ticket.consume (some .state), []⟩)
    | some state =>
      if decide (state.generation ≠ ticket.generation) || !validKnownMoney state.spent || !validKnownMoney state.active then
        (limiter, ⟨ticket.consume (some .state), []⟩)
      else
        let plan := adjustPlan actual ticket.reserved ticket.toBudgetCapture state
        (if plan.resultErr.isNone && plan.ok then
          limiter.storeOrDelete ticket.keyID (applyPlan state ticket.toBudgetCapture plan) else limiter,
          ⟨ticket.consume plan.resultErr, planDeltas ticket.keyID ticket.toBudgetCapture plan⟩)

def invalidate (ticket : BudgetAdjustmentTicket) : BudgetAdjustmentTicket :=
  { ticket with consumed := true, hasLimiter := false, keyID := "", generation := 0, reserved := .unknown }

structure BudgetAdjustmentTicket.Sound (ticket : BudgetAdjustmentTicket) : Prop where
  reserved : ticket.reserved.isKnown = true
  day : ticket.dayCaptured = true → ticket.dayStart ≠ zeroTime
  month : ticket.monthCaptured = true → ticket.monthStart ≠ zeroTime

structure TicketLive (lim : BudgetLimiter) (ticket : BudgetAdjustmentTicket) (st : BudgetState) : Prop where
  usable : ticket.hasLimiter = true ∧ validKeyID ticket.keyID = true ∧ ticket.generation ≠ 0
  present : lim.states.lookup ticket.keyID = some st
  generation : st.generation = ticket.generation
  spentKnown : st.spent.isKnown = true
  activeKnown : st.active.isKnown = true

def takes (actual reserved : Money) : Option BudgetDayState → Bool
  | none => false
  | some bucket => bucket.spent.isKnown && decide (reserved.amount ≤ bucket.spent.amount + actual.amount) &&
      decide (bucket.spent.amount + actual.amount ≤ maxMoneyMicros + reserved.amount)

structure Shifted (cap : BudgetCapture) (actual reserved : Money) (st next : BudgetState) : Prop where
  frame : SameFrame st next
  moved : ∀ id, cap.covers id = true → ∃ old new, held (some st) id = some old ∧
    held (some next) id = some new ∧ new.active = old.active ∧ old.spent.isKnown = true ∧ new.spent.isKnown = true ∧
    new.spent.amount + reserved.amount = old.spent.amount + actual.amount
  kept : ∀ id, cap.covers id = false → held (some next) id = held (some st) id

structure Touched (cap : BudgetCapture) (st next : BudgetState) : Prop where
  frame : SameFrame st next
  written : ∀ id, cap.covers id = true →
    held (some next) id = some ((held (some st) id).getD zeroBucket)
  kept : ∀ id, cap.covers id = false → held (some next) id = held (some st) id

inductive AdjustRefusal (lim : BudgetLimiter) (ticket : BudgetAdjustmentTicket) (actual : Money) : BudgetError → Prop where
  | unknown (unpriced : actual.isKnown = false) : AdjustRefusal lim ticket actual (.settlement .invalidActual true)
  | stale (lost : ∀ st, ¬ TicketLive lim ticket st) : AdjustRefusal lim ticket actual .state
  | full (st) (live : TicketLive lim ticket st) (caught : ticket.totalCaptured = true)
      (blocked : takes actual ticket.reserved (held (some st) .total) = false) : AdjustRefusal lim ticket actual (.settlement .arithmetic true)

inductive AdjustOutcome (lim : BudgetLimiter) (ticket : BudgetAdjustmentTicket) (actual : Money) :
    BudgetLimiter → Adjustment → Prop where
  | repeated (used : ticket.consumed = true) : AdjustOutcome lim ticket actual lim ⟨ticket, []⟩
  | refused (new : ticket.consumed = false) (err) (cause : AdjustRefusal lim ticket actual err) :
      AdjustOutcome lim ticket actual lim ⟨ticket.consume (some err), []⟩
  | equal (new : ticket.consumed = false) (st next) (live : TicketLive lim ticket st)
      (same : actual = ticket.reserved) (touched : Touched ticket.toBudgetCapture st next) :
      AdjustOutcome lim ticket actual (lim.storeOrDelete ticket.keyID next) ⟨ticket.consume none, []⟩
  | shifted (new : ticket.consumed = false) (st next) (live : TicketLive lim ticket st)
      (known : actual.isKnown = true) (diff : actual.amount ≠ ticket.reserved.amount)
      (shifted : Shifted ticket.toBudgetCapture actual ticket.reserved st next) :
      AdjustOutcome lim ticket actual (lim.storeOrDelete ticket.keyID next)
        ⟨ticket.consume none, captureDeltas ticket.keyID ticket.toBudgetCapture (actual.amount - ticket.reserved.amount)⟩
  | torn (new : ticket.consumed = false) (st) (live : TicketLive lim ticket st)
      (known : actual.isKnown = true) (diff : actual.amount ≠ ticket.reserved.amount)
      (total : ticket.totalCaptured = true → takes actual ticket.reserved (held (some st) .total) = true) (id) (cov : ticket.covers id = true)
      (blocked : takes actual ticket.reserved (held (some st) id) = false) : AdjustOutcome lim ticket actual lim
        ⟨ticket.consume none, (captureDeltas ticket.keyID ticket.toBudgetCapture (actual.amount - ticket.reserved.amount)).filter
          (fun d => takes actual ticket.reserved (held (some st) d.identity))⟩

def ShiftSpec (shift : Money → Except MoneyError Money) (actual reserved : Money) : Prop :=
  ∀ spent next, knownResult (shift spent) = some next ↔
    spent.isKnown = true ∧ next.isKnown = true ∧ next.amount + reserved.amount = spent.amount + actual.amount

theorem increase_spec {actual reserved increase : Money} (known : increase.isKnown = true)
    (size : reserved.amount + increase.amount = actual.amount) : ShiftSpec (fun spent => spent.add increase) actual reserved := by
  intro spent next
  rw [Money.add_result]
  constructor
  · rintro ⟨sknown, _, nextKnown, sum⟩
    exact ⟨sknown, nextKnown, by omega⟩
  · rintro ⟨sknown, nextKnown, sum⟩
    exact ⟨sknown, known, nextKnown, by omega⟩

theorem refund_spec {actual reserved refund : Money} (known : refund.isKnown = true)
    (size : actual.amount + refund.amount = reserved.amount) : ShiftSpec (fun spent => spent.subtract refund) actual reserved := by
  intro spent next
  rw [Money.subtract_result]
  constructor
  · rintro ⟨sknown, _, nextKnown, order, difference⟩
    exact ⟨sknown, nextKnown, by omega⟩
  · rintro ⟨sknown, nextKnown, sum⟩
    exact ⟨sknown, known, nextKnown, by omega, by omega⟩

variable {shift : Money → Except MoneyError Money} {cap : BudgetCapture} {st : BudgetState} {actual reserved : Money}
variable {plan : AdjustPlan} {ticket : BudgetAdjustmentTicket} {keep : BudgetIdentity → Bool} {lim : BudgetLimiter} {d : Int}

variable (spec : ShiftSpec shift actual reserved)
include spec

theorem takes_shift (cell : Option BudgetDayState) :
    takes actual reserved cell = (knownResult (shift (cell.getD zeroBucket).spent)).isSome := by
  rw [Bool.eq_iff_iff, Option.isSome_iff_exists]
  cases cell with
  | none =>
    simp only [takes, Bool.false_eq_true, false_iff, Option.getD_none]
    rintro ⟨next, good⟩
    have known := ((spec _ _).mp good).1
    simp [zeroBucket] at known
  | some bin =>
    simp only [takes, Option.getD_some, Bool.and_eq_true, decide_eq_true_eq]
    constructor
    · rintro ⟨⟨known, low⟩, high⟩
      have fits : bin.spent.amount + actual.amount - reserved.amount ≤ maxMoneyMicros := by omega
      exact ⟨Money.ofMicros _ fits, (spec _ _).mpr ⟨known, rfl, by simp only [Money.amount_of_micros]; omega⟩⟩
    · rintro ⟨next, good⟩
      obtain ⟨known, _, sum⟩ := (spec _ _).mp good
      have bound := Money.amount_le next
      exact ⟨⟨known, by omega⟩, by omega⟩

theorem shift_bucket_parts (tally : Bool) (d : Int) (cell : Option BudgetDayState) : (shiftBucket tally shift d (cell.getD zeroBucket)).2 =
      (if tally && takes actual reserved cell then d else 0, !tally || takes actual reserved cell) := by
  cases tally with
  | false => rfl
  | true =>
    rw [takes_shift spec]
    cases good : knownResult (shift (cell.getD zeroBucket).spent) <;> simp [shiftBucket, good]

theorem shift_bucket_value (d : Int) {cell : Option BudgetDayState} (able : takes actual reserved cell = true) :
    ∃ bin, cell = some bin ∧ bin.spent.isKnown = true ∧ (shiftBucket true shift d (cell.getD zeroBucket)).1.isKnown = true ∧
      (shiftBucket true shift d (cell.getD zeroBucket)).1.amount + reserved.amount = bin.spent.amount + actual.amount := by
  rw [takes_shift spec, Option.isSome_iff_exists] at able
  obtain ⟨next, good⟩ := able
  obtain ⟨sknown, nextKnown, sum⟩ := (spec _ _).mp good
  cases cell with
  | none => simp [zeroBucket] at sknown
  | some bin =>
    have chosen : (shiftBucket true shift d ((some bin).getD zeroBucket)).1 = next := by simp only [shiftBucket, good, if_true]
    exact ⟨bin, rfl, sknown, chosen ▸ nextKnown, chosen ▸ sum⟩

theorem shift_plan_full (d : Int) (ok : Bool) (caught : cap.totalCaptured = true)
    (blocked : takes actual reserved (held (some st) .total) = false) :
    shiftPlan shift d ok cap st = planFailure (.settlement .arithmetic true) := by
  rw [takes_shift spec] at blocked
  have err : knownResult (shift st.spent) = none := by simpa using blocked
  simp [shiftPlan, caught, err]

theorem shift_plan_parts (d : Int) (sknown : st.spent.isKnown = true)
    (total : cap.totalCaptured = true → takes actual reserved (held (some st) .total) = true) :
    ∃ newSpent, (newSpent.isKnown = true ∧ (cap.totalCaptured = false → newSpent = st.spent) ∧
        (cap.totalCaptured = true → newSpent.amount + reserved.amount = st.spent.amount + actual.amount)) ∧ shiftPlan shift d true cap st =
        { newSpent := newSpent
          newDaySpent := (shiftBucket cap.dayCounted shift d ((held (some st) (.day cap.dayStart)).getD zeroBucket)).1
          newMonthSpent := (shiftBucket cap.monthCounted shift d ((held (some st) (.month cap.monthStart)).getD zeroBucket)).1
          delta := d
          dayDelta := if cap.dayCounted && takes actual reserved (held (some st) (.day cap.dayStart)) then d else 0
          monthDelta := if cap.monthCounted && takes actual reserved (held (some st) (.month cap.monthStart)) then d else 0
          ok := (!cap.dayCounted || takes actual reserved (held (some st) (.day cap.dayStart))) &&
            (!cap.monthCounted || takes actual reserved (held (some st) (.month cap.monthStart)))
          resultErr := none } := by
  have day := shift_bucket_parts spec cap.dayCounted d (held (some st) (.day cap.dayStart))
  have m := shift_bucket_parts spec cap.monthCounted d (held (some st) (.month cap.monthStart))
  cases on : cap.totalCaptured with
  | false =>
    refine ⟨st.spent, ⟨sknown, fun _ => rfl, fun absurd => by simp at absurd⟩, ?_⟩
    simp only [shiftPlan, on, Bool.false_eq_true, if_false, known_result_ok sknown, bucketAt, held_day, held_month] at day m ⊢
    simp [day, m]
  | true =>
    have able := total on
    rw [takes_shift spec, Option.isSome_iff_exists] at able
    obtain ⟨newSpent, good⟩ := able
    have v := (spec _ _).mp good
    simp only [held_total, Option.getD_some] at good v
    refine ⟨newSpent, ⟨v.2.1, fun absurd => by simp at absurd, fun _ => v.2.2⟩, ?_⟩
    simp only [shiftPlan, on, if_true, good, bucketAt, held_day, held_month] at day m ⊢
    simp [day, m]

omit spec in
theorem captured_deltas (key : String) (keep : BudgetIdentity → Bool) (nz : d ≠ 0) (fine : plan.resultErr = none) (totalDelta : plan.delta = d)
    (total : cap.totalCaptured = true → keep .total = true) (day : plan.dayDelta = if cap.dayCaptured && keep (.day cap.dayStart) then d else 0)
    (m : plan.monthDelta = if cap.monthCaptured && keep (.month cap.monthStart) then d else 0) :
    planDeltas key cap plan = (captureDeltas key cap d).filter (fun entry => keep entry.identity) := by
  have totalPart : (if d ≠ 0 ∧ cap.totalCaptured = true then [(⟨key, d, .total⟩ : CommittedBudgetDelta)] else []) =
      (if cap.totalCaptured then [⟨key, d, .total⟩] else []).filter (fun entry => keep entry.identity) := by
    cases on : cap.totalCaptured with
    | false => simp
    | true => simp [nz, total on]
  have dayPart : (if plan.dayDelta ≠ 0 then [(⟨key, plan.dayDelta, .day cap.dayStart⟩ : CommittedBudgetDelta)] else []) =
      (if cap.dayCaptured then [⟨key, d, .day cap.dayStart⟩] else []).filter (fun entry => keep entry.identity) := by
    rw [day]
    cases on : cap.dayCaptured with
    | false => simp
    | true => cases able : keep (.day cap.dayStart) <;> simp [nz, able]
  have monthPart : (if plan.monthDelta ≠ 0 then [(⟨key, plan.monthDelta, .month cap.monthStart⟩ : CommittedBudgetDelta)] else []) =
      (if cap.monthCaptured then [⟨key, d, .month cap.monthStart⟩] else []).filter (fun entry => keep entry.identity) := by
    rw [m]
    cases on : cap.monthCaptured with
    | false => simp
    | true => cases able : keep (.month cap.monthStart) <;> simp [nz, able]
  simp only [planDeltas, fine, totalDelta, Option.isSome_none, Bool.false_eq_true, if_false, totalPart, dayPart, monthPart,
    captureDeltas, List.filter_append]

omit spec in
theorem apply_plan_kept (day : cap.dayCounted = cap.dayCaptured) (m : cap.monthCounted = cap.monthCaptured)
    (total : cap.totalCaptured = false → plan.newSpent = st.spent) :
    ∀ id, cap.covers id = false → held (some (applyPlan st cap plan)) id = held (some st) id := by
  intro id uncovered
  cases id with
  | total => simp [applyPlan, total uncovered]
  | day start =>
    by_cases on : cap.dayCaptured = true
    · have alt : start ≠ cap.dayStart := by simpa [covers, on] using uncovered
      simp [applyPlan, day, on, alt]
    · simp [applyPlan, day, on]
  | month start =>
    by_cases on : cap.monthCaptured = true
    · have alt : start ≠ cap.monthStart := by simpa [covers, on] using uncovered
      simp [applyPlan, m, on, alt]
    · simp [applyPlan, m, on]

omit spec in
theorem keep_plan_touched (day : cap.dayCounted = cap.dayCaptured) (m : cap.monthCounted = cap.monthCaptured) :
    Touched cap st (applyPlan st cap (keepPlan cap st)) := by
  refine ⟨⟨rfl, rfl, rfl, ⟨rfl, rfl⟩, ⟨rfl, rfl⟩, ⟨rfl, rfl⟩⟩, ?_, apply_plan_kept day m (fun _ => rfl)⟩
  intro id cov
  cases id with
  | total => rfl
  | day =>
    simp only [covers, Bool.and_eq_true, decide_eq_true_eq] at cov
    obtain ⟨on, rfl⟩ := cov
    simp [applyPlan, keepPlan, day, on, bucketAt]
  | month =>
    simp only [covers, Bool.and_eq_true, decide_eq_true_eq] at cov
    obtain ⟨on, rfl⟩ := cov
    simp [applyPlan, keepPlan, m, on, bucketAt]

theorem apply_plan_shifted (day : cap.dayCounted = cap.dayCaptured) (m : cap.monthCounted = cap.monthCaptured)
    (sknown : st.spent.isKnown = true) (able : ∀ id, cap.covers id = true → takes actual reserved (held (some st) id) = true)
    (total : plan.newSpent.isKnown = true ∧ (cap.totalCaptured = false → plan.newSpent = st.spent) ∧
      (cap.totalCaptured = true → plan.newSpent.amount + reserved.amount = st.spent.amount + actual.amount))
    (newDay : plan.newDaySpent = (shiftBucket cap.dayCounted shift d ((held (some st) (.day cap.dayStart)).getD zeroBucket)).1)
    (newMonth : plan.newMonthSpent = (shiftBucket cap.monthCounted shift d ((held (some st) (.month cap.monthStart)).getD zeroBucket)).1) :
    Shifted cap actual reserved st (applyPlan st cap plan) := by
  refine ⟨⟨rfl, rfl, rfl, ⟨rfl, rfl⟩, ⟨rfl, rfl⟩, ⟨rfl, rfl⟩⟩, ?_, ?_⟩
  · intro id cov
    have takesIt := able id cov
    cases id with
    | total => exact ⟨_, _, rfl, rfl, rfl, sknown, total.1, total.2.2 cov⟩
    | day =>
      simp only [covers, Bool.and_eq_true, decide_eq_true_eq] at cov
      obtain ⟨on, rfl⟩ := cov
      obtain ⟨bin, has, bucketKnown, newKnown, sum⟩ := shift_bucket_value spec d takesIt
      rw [day, on] at newDay
      refine ⟨bin, { bin with spent := plan.newDaySpent }, has, ?_, rfl, bucketKnown, newDay ▸ newKnown, newDay ▸ sum⟩
      have hit : st.dayBuckets.lookup cap.dayStart = some bin := has
      simp [applyPlan, day, on, bucketAt, hit]
    | month =>
      simp only [covers, Bool.and_eq_true, decide_eq_true_eq] at cov
      obtain ⟨on, rfl⟩ := cov
      obtain ⟨bin, has, bucketKnown, newKnown, sum⟩ := shift_bucket_value spec d takesIt
      rw [m, on] at newMonth
      refine ⟨bin, { bin with spent := plan.newMonthSpent }, has, ?_, rfl, bucketKnown, newMonth ▸ newKnown, newMonth ▸ sum⟩
      have hit : st.monthBuckets.lookup cap.monthStart = some bin := has
      simp [applyPlan, m, on, bucketAt, hit]
  · exact apply_plan_kept day m total.2.1

omit spec

theorem capture_deltas_filter (key : String) (d : Int) (able : ∀ id, cap.covers id = true → keep id = true) :
    (captureDeltas key cap d).filter (fun entry => keep entry.identity) = captureDeltas key cap d := by
  apply List.filter_eq_self.mpr
  intro entry mem
  exact able _ (capture_delta_covered mem)

theorem plan_ok_of_able (able : ∀ id, cap.covers id = true → keep id = true) :
    (!cap.dayCaptured || keep (.day cap.dayStart)) = true ∧ (!cap.monthCaptured || keep (.month cap.monthStart)) = true := by
  constructor
  · cases on : cap.dayCaptured with
    | false => rfl
    | true => exact able (.day cap.dayStart) (by simp [covers, on])
  · cases on : cap.monthCaptured with
    | false => rfl
    | true => exact able (.month cap.monthStart) (by simp [covers, on])

theorem plan_not_ok_of_blocked (keep : BudgetIdentity → Bool) {id : BudgetIdentity} (total : cap.totalCaptured = true → keep .total = true)
    (cov : cap.covers id = true) (blocked : keep id = false) :
    ¬ ((!cap.dayCaptured || keep (.day cap.dayStart)) = true ∧ (!cap.monthCaptured || keep (.month cap.monthStart)) = true) := by
  rintro ⟨day, m⟩
  cases id with
  | total => simp [total cov] at blocked
  | day =>
    simp only [covers, Bool.and_eq_true, decide_eq_true_eq] at cov
    obtain ⟨on, rfl⟩ := cov
    simp [on, blocked] at day
  | month =>
    simp only [covers, Bool.and_eq_true, decide_eq_true_eq] at cov
    obtain ⟨on, rfl⟩ := cov
    simp [on, blocked] at m

theorem shift_plan_outcome (spec : ShiftSpec shift actual ticket.reserved) (ok : ticket.Sound) (new : ticket.consumed = false)
    (live : TicketLive lim ticket st) (known : actual.isKnown = true) (diff : actual.amount ≠ ticket.reserved.amount)
    (planned : plan = shiftPlan shift (actual.amount - ticket.reserved.amount) true ticket.toBudgetCapture st) : AdjustOutcome lim ticket actual
      (if (plan.resultErr.isNone && plan.ok) = true then lim.storeOrDelete ticket.keyID (applyPlan st ticket.toBudgetCapture plan) else lim)
      ⟨ticket.consume plan.resultErr, planDeltas ticket.keyID ticket.toBudgetCapture plan⟩ := by
  have day := day_counted_eq ok.day
  have m := month_counted_eq ok.month
  have nz : (actual.amount - ticket.reserved.amount : Int) ≠ 0 := by omega
  by_cases full : ticket.totalCaptured = true ∧ takes actual ticket.reserved (held (some st) .total) = false
  · rw [shift_plan_full spec _ _ full.1 full.2] at planned
    subst planned
    exact .refused new _ (.full st live full.1 full.2)
  have total : ticket.totalCaptured = true → takes actual ticket.reserved (held (some st) .total) = true := by
    intro on
    by_contra blocked
    exact full ⟨on, by simpa using blocked⟩
  obtain ⟨_, values, parts⟩ := shift_plan_parts spec (actual.amount - ticket.reserved.amount) live.spentKnown total
  rw [parts, day, m] at planned
  rw [captured_deltas ticket.keyID (fun id => takes actual ticket.reserved (held (some st) id)) nz
    (congrArg AdjustPlan.resultErr planned) (congrArg AdjustPlan.delta planned) total (congrArg AdjustPlan.dayDelta planned)
    (congrArg AdjustPlan.monthDelta planned)]
  by_cases able : ∀ id, ticket.covers id = true → takes actual ticket.reserved (held (some st) id) = true
  · have every := capture_deltas_filter ticket.keyID (actual.amount - ticket.reserved.amount) able
    have passed : (plan.resultErr.isNone && plan.ok) = true := by
      rw [planned]
      simpa using plan_ok_of_able able
    rw [if_pos passed, every]
    have err : plan.resultErr = none := by rw [planned]
    rw [err]
    exact .shifted new st _ live known diff (apply_plan_shifted spec day m live.spentKnown able (by rw [planned]; exact values)
        (by rw [planned, day]) (by rw [planned, m]))
  · push Not at able
    obtain ⟨id, cov, blocked⟩ := able
    have blockedHere : takes actual ticket.reserved (held (some st) id) = false := by simpa using blocked
    have stopped : ¬ (plan.resultErr.isNone && plan.ok) = true := by
      rw [planned]
      simpa using plan_not_ok_of_blocked (fun id => takes actual ticket.reserved (held (some st) id)) total cov blockedHere
    have err : plan.resultErr = none := by rw [planned]
    rw [if_neg stopped, err]
    exact .torn new st live known diff total id cov blockedHere

theorem adjust_plan_outcome (ok : ticket.Sound) (new : ticket.consumed = false) (live : TicketLive lim ticket st)
    (known : actual.isKnown = true) (planned : plan = adjustPlan actual ticket.reserved ticket.toBudgetCapture st) :
    AdjustOutcome lim ticket actual (if (plan.resultErr.isNone && plan.ok) = true then
        lim.storeOrDelete ticket.keyID (applyPlan st ticket.toBudgetCapture plan) else lim)
      ⟨ticket.consume plan.resultErr, planDeltas ticket.keyID ticket.toBudgetCapture plan⟩ := by
  rcases Nat.lt_trichotomy actual.amount ticket.reserved.amount with less | same | greater
  · obtain ⟨refund, refunded, refundKnown, size⟩ := Money.subtract_exists ok.reserved known (Nat.le_of_lt less)
    refine shift_plan_outcome (refund_spec refundKnown size) ok new live known (by omega) ?_
    have direction : (-(refund.amount : Int)) = actual.amount - ticket.reserved.amount := by omega
    rw [planned, adjustPlan, Money.compare_less known ok.reserved less, ← direction]
    simp [refunded]
  · have equal := Money.known_ext known ok.reserved same
    have keep : plan = keepPlan ticket.toBudgetCapture st := by
      rw [planned, adjustPlan, equal, Money.compare_same ok.reserved]
    subst keep
    exact .equal new st _ live equal (keep_plan_touched (day_counted_eq ok.day) (month_counted_eq ok.month))
  · obtain ⟨increase, increased, increaseKnown, size⟩ := Money.subtract_exists known ok.reserved (Nat.le_of_lt greater)
    refine shift_plan_outcome (increase_spec increaseKnown size) ok new live known (by omega) ?_
    have direction : (increase.amount : Int) = actual.amount - ticket.reserved.amount := by omega
    rw [planned, adjustPlan, Money.compare_greater known ok.reserved greater, ← direction]
    simp [increased, increaseKnown]

theorem adjust_outcome (lim : BudgetLimiter) (ticket : BudgetAdjustmentTicket) (actual : Money) (ok : ticket.consumed = false → ticket.Sound) :
    AdjustOutcome lim ticket actual (adjust lim ticket actual).1 (adjust lim ticket actual).2 := by
  unfold adjust
  cases new : ticket.consumed with
  | true => exact .repeated new
  | false =>
    by_cases known : validKnownMoney actual = true
    · simp only [known, Bool.not_true, Bool.false_eq_true, if_false]
      by_cases unusable : (!ticket.hasLimiter || !validKeyID ticket.keyID || decide (ticket.generation = 0)) = true
      · rw [if_pos unusable]
        refine .refused new _ (.stale ?_)
        intro st live
        simp [live.usable.1, live.usable.2.1, live.usable.2.2] at unusable
      · rw [if_neg unusable]
        have usable : ticket.hasLimiter = true ∧ validKeyID ticket.keyID = true ∧ ticket.generation ≠ 0 := by
          simpa [and_assoc] using unusable
        cases has : lim.states.lookup ticket.keyID with
        | none => exact .refused new _ (.stale (fun st live => by simp [live.present] at has))
        | some st =>
          dsimp only
          split
          · rename_i off
            refine .refused new _ (.stale ?_)
            intro alt live
            obtain rfl : st = alt := by simpa [has] using live.present
            simp [validKnownMoney, live.generation, live.spentKnown, live.activeKnown] at off
          · rename_i off
            have matched : st.generation = ticket.generation ∧ st.spent.isKnown = true ∧ st.active.isKnown = true := by
              simpa [validKnownMoney, and_assoc] using off
            exact adjust_plan_outcome (ok new) new ⟨usable, has, matched.1, matched.2.1, matched.2.2⟩ known rfl
    · simp only [known, Bool.not_false, if_true]
      exact .refused new _ (.unknown (by simpa [validKnownMoney] using known))

end NineGateway.Budget
