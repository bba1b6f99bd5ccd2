import NineGateway.Budget.Settle

set_option autoImplicit false

namespace NineGateway.Budget

open BudgetCapture (covers dayCounted monthCounted)

structure Current (lim : BudgetLimiter) (hold : BudgetReservation) (st : BudgetState) : Prop where
  present : lim.states.lookup hold.keyID = some st
  address : some st.address = hold.state
  generation : st.generation = hold.generation
  accepted : StateAccepted st

structure SameFrame (st next : BudgetState) : Prop where
  address : next.address = st.address
  generation : next.generation = st.generation
  loaded : next.totalLoaded = st.totalLoaded
  totalLimit : next.hasLimit = st.hasLimit ∧ next.total = st.total
  dayLimit : next.hasDayLimit = st.hasDayLimit ∧ next.dayLimit = st.dayLimit
  monthLimit : next.hasMonthLimit = st.hasMonthLimit ∧ next.monthLimit = st.monthLimit

structure Moved (cap : BudgetCapture) (amt charge : Money) (st next : BudgetState) : Prop where
  frame : SameFrame st next
  moved : ∀ id, cap.covers id = true → ∃ old new, held (some st) id = some old ∧
    held (some next) id = some new ∧ new.spent.isKnown = true ∧ new.active.isKnown = true ∧
    new.spent.amount = old.spent.amount + charge.amount ∧ new.active.amount + amt.amount = old.active.amount
  kept : ∀ id, cap.covers id = false → held (some next) id = held (some st) id

def captureDeltas (key : String) (cap : BudgetCapture) (d : Int) : List CommittedBudgetDelta :=
  (if cap.totalCaptured then [⟨key, d, .total⟩] else []) ++
  (if cap.dayCaptured then [⟨key, d, .day cap.dayStart⟩] else []) ++
  (if cap.monthCaptured then [⟨key, d, .month cap.monthStart⟩] else [])

variable {st : BudgetState} {cap : BudgetCapture} {cell : BudgetDayState} {caught : Bool} {start : Int} {bin : BudgetDayState}
variable {total day m : Except MoneyError Money} {res : Money × Money × Money} {amt : Money} {charge : Money}

theorem capture_delta_covered {key : String} {d : Int} {entry : CommittedBudgetDelta}
    (mem : entry ∈ captureDeltas key cap d) : cap.covers entry.identity = true := by
  simp only [captureDeltas, List.mem_append] at mem
  rcases mem with (total | day) | m
  · cases on : cap.totalCaptured with
    | false => simp [on] at total
    | true => simp_all [covers]
  · cases on : cap.dayCaptured with
    | false => simp [on] at day
    | true => simp_all [covers]
  · cases on : cap.monthCaptured with
    | false => simp [on] at m
    | true => simp_all [covers]

inductive Refusal (lim : BudgetLimiter) (hold : BudgetReservation) : BudgetError → Prop where
  | stale (lost : ∀ st, ¬ Current lim hold st) : Refusal lim hold .state
  | short (st : BudgetState) (cur : Current lim hold st) (id : BudgetIdentity) (cov : hold.covers id = true)
      (missing : activeIn (held (some st) id) < hold.amount.amount) : Refusal lim hold (.settlement .state false)
  | full (st : BudgetState) (cur : Current lim hold st) (id : BudgetIdentity) (cov : hold.covers id = true)
      (overflow : maxMoneyMicros < spentIn (held (some st) id) + hold.amount.amount) : Refusal lim hold (.settlement .arithmetic true)

inductive Charged (hold : BudgetReservation) (kind : BudgetSettlementKind) (actual : Money) (st : BudgetState) :
    Money → Option BudgetError → Prop where
  | proper : Charged hold kind actual st (chargeFor kind actual hold.amount) (judgeActual (openResult hold kind actual) kind actual).error
  | fallback (id) (cov : hold.covers id = true)
      (overflow : maxMoneyMicros < spentIn (held (some st) id) + (chargeFor kind actual hold.amount).amount) :
      Charged hold kind actual st hold.amount (some (.settlement .arithmetic true))

inductive SettleOutcome (lim : BudgetLimiter) (hold : BudgetReservation) (kind : BudgetSettlementKind) (actual : Money)
    (deferred : Bool) : BudgetLimiter → Settlement → Prop where
  | idle (inactive : hold.state = none ∨ isZeroMoney hold.amount = true) (settlement)
      (err : settlement.result.error = (judgeActual (openResult hold kind actual) kind actual).error) (silent : settlement.deltas = [])
      (ticket : settlement.ticket = if kind = .deferred then some (idleTicket hold) else none) :
      SettleOutcome lim hold kind actual deferred lim settlement
  | refused (live : hold.state ≠ none) (nz : isZeroMoney hold.amount = false) (settlement : Settlement)
      (failure : BudgetError) (err : settlement.result.error = some failure) (silent : settlement.deltas = [])
      (ticket : settlement.ticket = none) (cause : Refusal lim hold failure) : SettleOutcome lim hold kind actual deferred lim settlement
  | settled (live : hold.state ≠ none) (nz : isZeroMoney hold.amount = false) (st next) (cur : Current lim hold st) (charge)
      (did : Moved hold.toBudgetCapture hold.amount charge st next) (chargeKnown : charge.isKnown = true)
      (settlement) (billed : Charged hold kind actual st charge settlement.result.error) (ds : settlement.deltas =
        if isZeroMoney charge then [] else captureDeltas hold.keyID hold.toBudgetCapture charge.amount) (ticket : settlement.ticket =
        if deferred && settlement.result.error.isNone then some (newTicket hold) else none) :
      SettleOutcome lim hold kind actual deferred (lim.storeOrDelete hold.keyID next) settlement

variable {next : Money}

theorem chosen_some {op : Except MoneyError Money} {old : Money} (good : knownResult (if caught then op else .ok old) = some next) :
    next.isKnown = true ∧ (caught = false → next = old) ∧ (caught = true → knownResult op = some next) := by
  refine ⟨?_, ?_, ?_⟩
  · unfold knownResult at good
    split at good
    · cases good
      rfl
    · cases good
  · rintro rfl
    cases old with
    | unknown => cases good
    | known => exact (Option.some.inj good).symm
  · rintro rfl
    exact good

theorem chosen_none {op : Except MoneyError Money} {old : Money} (known : old.isKnown = true)
    (err : knownResult (if caught then op else .ok old) = none) : caught = true ∧ knownResult op = none := by
  cases caught with
  | false =>
    rw [if_neg Bool.false_ne_true, known_result_ok known] at err
    cases err
  | true => exact ⟨rfl, err⟩

theorem released_some (good : knownResult (released caught cell amt) = some next) :
    next.isKnown = true ∧ (caught = false → next = cell.active) ∧
      (caught = true → cell.active.isKnown = true ∧ next.amount + amt.amount = cell.active.amount) := by
  obtain ⟨known, idle, moved⟩ := chosen_some good
  refine ⟨known, idle, fun on => ?_⟩
  obtain ⟨aknown, _, _, order, same⟩ := (Money.subtract_result _ _ _).mp (moved on)
  exact ⟨aknown, by omega⟩

theorem released_none (aknown : cell.active.isKnown = true) (amountKnown : amt.isKnown = true)
    (err : knownResult (released caught cell amt) = none) : caught = true ∧ cell.active.amount < amt.amount := by
  obtain ⟨on, failed⟩ := chosen_none aknown err
  refine ⟨on, ?_⟩
  by_contra enough
  rw [Money.subtract_known aknown amountKnown (Nat.not_lt.mp enough), known_result_ok (Money.known_of_micros _ _)] at failed
  cases failed

theorem charged_some (good : knownResult (charged caught cell charge) = some next) :
    next.isKnown = true ∧ (caught = false → next = cell.spent) ∧
      (caught = true → cell.spent.isKnown = true ∧ next.amount = cell.spent.amount + charge.amount) := by
  obtain ⟨known, idle, moved⟩ := chosen_some good
  refine ⟨known, idle, fun on => ?_⟩
  obtain ⟨sknown, _, _, same⟩ := (Money.add_result _ _ _).mp (moved on)
  exact ⟨sknown, same⟩

theorem charged_none (sknown : cell.spent.isKnown = true) (chargeKnown : charge.isKnown = true)
    (err : knownResult (charged caught cell charge) = none) : caught = true ∧ maxMoneyMicros < cell.spent.amount + charge.amount := by
  obtain ⟨on, failed⟩ := chosen_none sknown err
  refine ⟨on, ?_⟩
  by_contra fits
  rw [Money.add_known sknown chargeKnown (Nat.not_lt.mp fits), known_result_ok (Money.known_of_micros _ _)] at failed
  cases failed

-- A period that was not captured has the zero start, as newBudgetReservation
-- is called.
structure BudgetCapture.Regular (cap : BudgetCapture) : Prop where
  day : cap.dayCaptured = false → cap.dayStart = zeroTime
  month : cap.monthCaptured = false → cap.monthStart = zeroTime

theorem accepted_day_nonzero (fine : StateAccepted st) (has : st.dayBuckets.lookup start = some bin) : start ≠ zeroTime := by
  have valid := (fine.cells (.day start) bin has).1
  exact ((valid_day_start_iff start).mp valid).1

theorem accepted_month_nonzero (fine : StateAccepted st) (has : st.monthBuckets.lookup start = some bin) : start ≠ zeroTime := by
  have valid := (fine.cells (.month start) bin has).1
  exact ((valid_month_start_iff start).mp valid).1

theorem accepted_cell (id : BudgetIdentity) (fine : StateAccepted st) (has : held (some st) id = some bin) :
    bin.spent.isKnown = true ∧ bin.active.isKnown = true ∧ bin.spent.amount + bin.active.amount ≤ maxMoneyMicros :=
  (valid_cell_iff bin).mp (fine.cells id bin has).2

theorem settle_day_known (fine : StateAccepted st) (start : Int) :
    (settleDay st start).spent.isKnown = true ∧ (settleDay st start).active.isKnown = true := by
  cases has : st.dayBuckets.lookup start with
  | none => simp [settleDay, has]
  | some =>
    have known := accepted_cell (.day start) fine has
    simpa [settleDay, has] using And.intro known.1 known.2.1

theorem settle_day_amounts (st : BudgetState) (start : Int) : (settleDay st start).spent.amount = spentIn (held (some st) (.day start)) ∧
      (settleDay st start).active.amount = activeIn (held (some st) (.day start)) := by
  cases has : st.dayBuckets.lookup start <;> simp [settleDay, has]

theorem settle_day_held (pos : 0 < (settleDay st start).active.amount) : held (some st) (.day start) = some (settleDay st start) := by
  cases has : st.dayBuckets.lookup start with
  | none => simp [settleDay, has] at pos
  | some => simp [settleDay, has]

theorem settle_month_amounts (fine : StateAccepted st) (start : Int) :
    (settleMonth st start).spent.amount = spentIn (held (some st) (.month start)) ∧
      (settleMonth st start).active.amount = activeIn (held (some st) (.month start)) := by
  cases has : st.monthBuckets.lookup start with
  | none =>
    rw [held_month, has]
    by_cases zero : start = zeroTime <;> simp [settleMonth, zero, has]
  | some =>
    have nz := accepted_month_nonzero fine has
    simp [settleMonth, has, nz]

theorem settle_month_held (pos : 0 < (settleMonth st start).active.amount) : held (some st) (.month start) = some (settleMonth st start) := by
  by_cases zero : start = zeroTime
  · simp [settleMonth, zero] at pos
  · cases has : st.monthBuckets.lookup start with
    | none => simp [settleMonth, has, zero] at pos
    | some => simp [settleMonth, has, zero]

theorem settle_month_known (fine : StateAccepted st) (there : start = zeroTime ∨ 0 < (settleMonth st start).active.amount) :
    (settleMonth st start).spent.isKnown = true ∧ (settleMonth st start).active.isKnown = true := by
  rcases there with zero | positive
  · simp [settleMonth, zero]
  · have known := accepted_cell (.month start) fine (settle_month_held positive)
    exact ⟨known.1, known.2.1⟩

structure CellMove (caught : Bool) (amt charge : Money) (old new : BudgetDayState) : Prop where
  spentKnown : new.spent.isKnown = true
  activeKnown : new.active.isKnown = true
  idle : caught = false → new = old
  moved : caught = true → new.spent.amount = old.spent.amount + charge.amount ∧
    new.active.amount + amt.amount = old.active.amount

theorem cell_move {newActive newSpent : Money} (release : knownResult (released caught cell amt) = some newActive)
    (spend : knownResult (charged caught cell charge) = some newSpent) : CellMove caught amt charge cell ⟨newSpent, newActive⟩ := by
  obtain ⟨aknown, activeIdle, activeMoved⟩ := released_some release
  obtain ⟨sknown, spentIdle, spentMoved⟩ := charged_some spend
  refine ⟨sknown, aknown, ?_, ?_⟩
  · intro off
    rw [activeIdle off, spentIdle off]
  · intro on
    exact ⟨(spentMoved on).2, (activeMoved on).2⟩

theorem publish_moved {total day m : BudgetDayState} (totalMove : CellMove cap.totalCaptured amt charge ⟨st.spent, st.active⟩ total)
    (dayMove : CellMove cap.dayCaptured amt charge (settleDay st cap.dayStart) day)
    (monthMove : CellMove cap.monthCaptured amt charge (settleMonth st cap.monthStart) m)
    (dayThere : cap.dayCaptured = true → cap.dayStart ≠ zeroTime ∧ held (some st) (.day cap.dayStart) = some (settleDay st cap.dayStart))
    (monthThere : cap.monthCaptured = true → cap.monthStart ≠ zeroTime ∧
      held (some st) (.month cap.monthStart) = some (settleMonth st cap.monthStart)) :
    Moved cap amt charge st (publish st cap total day m) := by
  refine ⟨⟨rfl, rfl, rfl, ⟨rfl, rfl⟩, ⟨rfl, rfl⟩, ⟨rfl, rfl⟩⟩, ?_, ?_⟩
  · intro id cov
    cases id with
    | total =>
      have move := totalMove.moved cov
      exact ⟨_, total, rfl, rfl, totalMove.spentKnown, totalMove.activeKnown, move.1, move.2⟩
    | day =>
      simp only [covers, Bool.and_eq_true, decide_eq_true_eq] at cov
      obtain ⟨on, rfl⟩ := cov
      have move := dayMove.moved on
      refine ⟨_, day, (dayThere on).2, ?_, dayMove.spentKnown, dayMove.activeKnown, move.1, move.2⟩
      simp [publish, dayCounted, on, (dayThere on).1]
    | month =>
      simp only [covers, Bool.and_eq_true, decide_eq_true_eq] at cov
      obtain ⟨on, rfl⟩ := cov
      have move := monthMove.moved on
      refine ⟨_, m, (monthThere on).2, ?_, monthMove.spentKnown, monthMove.activeKnown, move.1, move.2⟩
      simp [publish, monthCounted, on, (monthThere on).1]
  · intro id uncovered
    cases id with
    | total =>
      have same := totalMove.idle uncovered
      simp [publish, same]
    | day start =>
      by_cases on : cap.dayCaptured = true
      · have alt : start ≠ cap.dayStart := by simpa [covers, on] using uncovered
        by_cases nz : cap.dayStart = zeroTime <;> simp [publish, dayCounted, on, nz, alt]
      · simp [publish, dayCounted, on]
    | month start =>
      by_cases on : cap.monthCaptured = true
      · have alt : start ≠ cap.monthStart := by simpa [covers, on] using uncovered
        by_cases nz : cap.monthStart = zeroTime <;> simp [publish, monthCounted, on, nz, alt]
      · simp [publish, monthCounted, on]

theorem all_known_some (good : allKnown total day m = some res) :
    knownResult total = some res.1 ∧ knownResult day = some res.2.1 ∧ knownResult m = some res.2.2 := by
  unfold allKnown at good
  split at good
  · rename_i first second third
    simp only [Option.some.injEq] at good
    subst good
    exact ⟨first, second, third⟩
  · simp at good

theorem all_known_none (err : allKnown total day m = none) : knownResult total = none ∨ knownResult day = none ∨ knownResult m = none := by
  cases first : knownResult total with
  | none => exact .inl rfl
  | some =>
    cases second : knownResult day with
    | none => exact .inr (.inl rfl)
    | some =>
      cases third : knownResult m with
      | none => exact .inr (.inr rfl)
      | some => simp [allKnown, first, second, third] at err

theorem release_all_none (fine : StateAccepted st) (reg : cap.Regular) (amountKnown : amt.isKnown = true) (pos : 0 < amt.amount)
    (err : releaseAll cap ⟨st.spent, st.active⟩ (settleDay st cap.dayStart) (settleMonth st cap.monthStart) amt = none) :
    ∃ id, cap.covers id = true ∧ activeIn (held (some st) id) < amt.amount := by
  rcases all_known_none err with total | day | m
  · obtain ⟨on, short⟩ := released_none (accepted_cell .total fine rfl).2.1 amountKnown total
    exact ⟨.total, on, short⟩
  · obtain ⟨on, short⟩ := released_none (settle_day_known fine _).2 amountKnown day
    rw [(settle_day_amounts st _).2] at short
    exact ⟨.day cap.dayStart, by simp [covers, on], short⟩
  -- A missing month bucket is unknown and so cannot be released, whatever the amount.
  by_cases there : cap.monthStart = zeroTime ∨ 0 < (settleMonth st cap.monthStart).active.amount
  · obtain ⟨on, short⟩ := released_none (settle_month_known fine there).2 amountKnown m
    rw [(settle_month_amounts fine _).2] at short
    exact ⟨.month cap.monthStart, by simp [covers, on], short⟩
  have on : cap.monthCaptured = true := by
    by_contra off
    exact there (.inl (reg.month (by simpa using off)))
  refine ⟨.month cap.monthStart, by simp [covers, on], ?_⟩
  rw [← (settle_month_amounts fine _).2]
  omega

structure Releasable (st : BudgetState) (cap : BudgetCapture) : Prop where
  day : cap.dayCaptured = true → cap.dayStart ≠ zeroTime ∧
    held (some st) (.day cap.dayStart) = some (settleDay st cap.dayStart)
  month : cap.monthCaptured = true → cap.monthStart ≠ zeroTime ∧
    held (some st) (.month cap.monthStart) = some (settleMonth st cap.monthStart)
  monthKnown : (settleMonth st cap.monthStart).spent.isKnown = true

theorem release_all_some (fine : StateAccepted st) (reg : cap.Regular) (pos : 0 < amt.amount)
    (good : releaseAll cap ⟨st.spent, st.active⟩ (settleDay st cap.dayStart)
      (settleMonth st cap.monthStart) amt = some res) : Releasable st cap := by
  obtain ⟨_, day, m⟩ := all_known_some good
  have dayPositive : cap.dayCaptured = true → 0 < (settleDay st cap.dayStart).active.amount := by
    intro on
    have := ((released_some day).2.2 on).2
    omega
  have monthPositive : cap.monthCaptured = true → 0 < (settleMonth st cap.monthStart).active.amount := by
    intro on
    have := ((released_some m).2.2 on).2
    omega
  refine ⟨?_, ?_, ?_⟩
  · intro on
    have has := settle_day_held (dayPositive on)
    exact ⟨accepted_day_nonzero fine has, has⟩
  · intro on
    have has := settle_month_held (monthPositive on)
    exact ⟨accepted_month_nonzero fine has, has⟩
  · refine (settle_month_known fine ?_).1
    cases on : cap.monthCaptured with
    | false => exact .inl (reg.month on)
    | true => exact .inr (monthPositive on)

theorem charge_all_none (fine : StateAccepted st) (releasable : Releasable st cap) (chargeKnown : charge.isKnown = true)
    (err : chargeAll cap ⟨st.spent, st.active⟩ (settleDay st cap.dayStart) (settleMonth st cap.monthStart) charge = none) :
    ∃ id, cap.covers id = true ∧ maxMoneyMicros < spentIn (held (some st) id) + charge.amount := by
  rcases all_known_none err with total | day | m
  · obtain ⟨on, overflow⟩ := charged_none (accepted_cell .total fine rfl).1 chargeKnown total
    exact ⟨.total, on, overflow⟩
  · obtain ⟨on, overflow⟩ := charged_none (settle_day_known fine _).1 chargeKnown day
    rw [(settle_day_amounts st _).1] at overflow
    exact ⟨.day cap.dayStart, by simp [covers, on], overflow⟩
  · obtain ⟨on, overflow⟩ := charged_none releasable.monthKnown chargeKnown m
    rw [(settle_month_amounts fine _).1] at overflow
    exact ⟨.month cap.monthStart, by simp [covers, on], overflow⟩

theorem all_moved {active spent : Money × Money × Money} (releasable : Releasable st cap)
    (release : releaseAll cap ⟨st.spent, st.active⟩ (settleDay st cap.dayStart) (settleMonth st cap.monthStart) amt = some active)
    (spend : chargeAll cap ⟨st.spent, st.active⟩ (settleDay st cap.dayStart) (settleMonth st cap.monthStart) charge = some spent) :
    Moved cap amt charge st (publish st cap ⟨spent.1, active.1⟩ ⟨spent.2.1, active.2.1⟩ ⟨spent.2.2, active.2.2⟩) := by
  obtain ⟨totalRelease, dayRelease, monthRelease⟩ := all_known_some release
  obtain ⟨totalSpend, daySpend, monthSpend⟩ := all_known_some spend
  exact publish_moved (cell_move totalRelease totalSpend) (cell_move dayRelease daySpend) (cell_move monthRelease monthSpend)
    releasable.day releasable.month

theorem day_counted_eq (nz : cap.dayCaptured = true → cap.dayStart ≠ zeroTime) : cap.dayCounted = cap.dayCaptured := by
  cases on : cap.dayCaptured with
  | false => simp [dayCounted, on]
  | true => simp [dayCounted, on, nz on]

theorem month_counted_eq (nz : cap.monthCaptured = true → cap.monthStart ≠ zeroTime) : cap.monthCounted = cap.monthCaptured := by
  cases on : cap.monthCaptured with
  | false => simp [monthCounted, on]
  | true => simp [monthCounted, on, nz on]

theorem settle_deltas_capture (releasable : Releasable st cap) (key : String) (charge : Money) :
    settleDeltas key cap charge = if isZeroMoney charge then [] else captureDeltas key cap charge.amount := by
  have day : cap.dayCounted = cap.dayCaptured := day_counted_eq (fun on => (releasable.day on).1)
  have m : cap.monthCounted = cap.monthCaptured := month_counted_eq (fun on => (releasable.month on).1)
  simp only [settleDeltas, day, m, captureDeltas]

theorem charge_for_known {kind : BudgetSettlementKind} {actual : Money} (amountKnown : amt.isKnown = true) :
    (chargeFor kind actual amt).isKnown = true := by
  cases kind with
  | known =>
    by_cases valid : actual.isKnown = true
    · simp [chargeFor, validKnownMoney, valid]
    · simp [chargeFor, validKnownMoney, valid, amountKnown]
  | conservative | deferred => exact amountKnown
  | preUpstreamRelease => rfl

theorem settle_state_outcome {lim : BudgetLimiter} {hold : BudgetReservation} (kind : BudgetSettlementKind) (actual : Money) (deferred : Bool)
    (reg : hold.Regular) (amountKnown : hold.amount.isKnown = true) (live : hold.state ≠ none) (nz : isZeroMoney hold.amount = false)
    (cur : Current lim hold st) : SettleOutcome lim hold kind actual deferred (settleState lim hold st kind actual deferred).1
      (settleState lim hold st kind actual deferred).2 := by
  have pos := Money.pos_of_nonzero amountKnown nz
  have fine := cur.accepted
  unfold settleState
  dsimp only
  split
  · rename_i err
    obtain ⟨id, cov, short⟩ := release_all_none fine reg amountKnown pos err
    exact .refused live nz _ _ rfl rfl rfl (.short st cur id cov short)
  rename_i newActive newDayActive newMonthActive release
  have releasable := release_all_some fine reg pos release
  have chargeKnown : (chargeFor kind actual hold.amount).isKnown = true := charge_for_known amountKnown
  split
  · rename_i newSpent newDaySpent newMonthSpent spend
    exact .settled live nz st _ cur _ (all_moved releasable release spend) chargeKnown _ .proper (settle_deltas_capture releasable _ _) rfl
  rename_i err
  obtain ⟨id, cov, overflow⟩ := charge_all_none fine releasable chargeKnown err
  -- A zero charge always fits, so the second attempt is for the reserved amount.
  have second : (if (!isZeroMoney (chargeFor kind actual hold.amount) || decide (kind = .known)) = true
      then hold.amount else chargeFor kind actual hold.amount) = hold.amount := by
    cases zero : isZeroMoney (chargeFor kind actual hold.amount) with
    | false => simp
    | true =>
      have none := Money.amount_of_zero zero
      cases cell : held (some st) id with
      | none => simp only [cell, spent_in_none] at overflow; omega
      | some bin =>
        have bound := Money.amount_le bin.spent
        simp only [cell, spent_in_some] at overflow
        omega
  simp only [second]
  split
  · rename_i newSpent newDaySpent newMonthSpent spend
    exact .settled live nz st _ cur _ (all_moved releasable release spend) amountKnown _
      (.fallback id cov overflow) (settle_deltas_capture releasable _ _) rfl
  · rename_i err
    obtain ⟨full, fullCovered, fullOverflow⟩ := charge_all_none fine releasable amountKnown err
    exact .refused live nz _ _ rfl rfl rfl (.full st cur full fullCovered fullOverflow)

theorem settle_outcome (lim : BudgetLimiter) (hold : BudgetReservation) (kind : BudgetSettlementKind) (actual : Money) (deferred : Bool)
    (reg : hold.Regular) (amountKnown : hold.amount.isKnown = true) :
    SettleOutcome lim hold kind actual deferred (settleReservation lim hold kind actual deferred).1
      (settleReservation lim hold kind actual deferred).2 := by
  unfold settleReservation
  split
  · rename_i inactive
    exact .idle (by simpa using inactive) _ rfl rfl rfl
  rename_i active
  have live : hold.state ≠ none := by
    intro gone
    simp [gone] at active
  have nz : isZeroMoney hold.amount = false := by
    simp only [Bool.or_eq_true, not_or, Bool.not_eq_true] at active
    exact active.2
  split
  · rename_i gone
    exact .refused live nz _ _ rfl rfl rfl (.stale (fun st cur => by simp [cur.present] at gone))
  rename_i st has
  split
  · rename_i mismatch
    refine .refused live nz _ _ rfl rfl rfl (.stale ?_)
    intro alt cur
    obtain rfl : st = alt := by simpa [has] using cur.present
    rcases mismatch with address | generation
    · exact address cur.address
    · exact generation cur.generation
  · rename_i match_
    simp only [not_or, not_not] at match_
    by_cases valid : validateBudgetState st = true
    · simp only [valid, Bool.not_true, Bool.false_eq_true, if_false]
      exact settle_state_outcome kind actual deferred reg amountKnown live nz ⟨has, match_.1, match_.2, (validate_iff st).mp valid⟩
    simp only [valid, Bool.not_false, if_true]
    refine .refused live nz _ _ rfl rfl rfl (.stale ?_)
    intro alt cur
    obtain rfl : st = alt := by simpa [has] using cur.present
    exact valid ((validate_iff st).mpr cur.accepted)

end NineGateway.Budget
