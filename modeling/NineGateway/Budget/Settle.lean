import NineGateway.Budget.Admission

set_option autoImplicit false

namespace NineGateway.Budget

structure CommittedBudgetDelta where
  keyID : String
  delta : Int
  identity : BudgetIdentity
deriving DecidableEq, Repr

structure Settlement where
  result : BudgetSettlementResult
  deltas : List CommittedBudgetDelta
  ticket : Option BudgetAdjustmentTicket
deriving DecidableEq, Repr

def chargeFor (kind : BudgetSettlementKind) (actual amount : Money) : Money :=
  match kind with
  | .preUpstreamRelease => knownZeroMoney
  | .known => if validKnownMoney actual then actual else amount
  | _ => amount

def released (captured : Bool) (cell : BudgetDayState) (amount : Money) : Except MoneyError Money :=
  if captured then cell.active.subtract amount else .ok cell.active

def charged (captured : Bool) (cell : BudgetDayState) (charge : Money) : Except MoneyError Money :=
  if captured then cell.spent.add charge else .ok cell.spent

-- A missing day reads as known zeros, a missing month as the zero bucket, whose
-- Money is unknown.
def settleDay (state : BudgetState) (start : Int) : BudgetDayState :=
  match state.dayBuckets.lookup start with
  | none => ⟨knownZeroMoney, knownZeroMoney⟩
  | some bucket => bucket

def settleMonth (state : BudgetState) (start : Int) : BudgetDayState :=
  if start = zeroTime then ⟨knownZeroMoney, knownZeroMoney⟩
  else
    match state.monthBuckets.lookup start with
    | none => ⟨.unknown, .unknown⟩
    | some bucket => bucket

def BudgetCapture.dayCounted (capture : BudgetCapture) : Bool := capture.dayCaptured && decide (capture.dayStart ≠ zeroTime)

def BudgetCapture.monthCounted (capture : BudgetCapture) : Bool := capture.monthCaptured && decide (capture.monthStart ≠ zeroTime)

def publish (state : BudgetState) (capture : BudgetCapture) (total day month : BudgetDayState) : BudgetState :=
  { state with
    spent := total.spent, active := total.active
    dayBuckets := if capture.dayCounted then Finmap.insert capture.dayStart day state.dayBuckets else state.dayBuckets
    monthBuckets := if capture.monthCounted then Finmap.insert capture.monthStart month state.monthBuckets else state.monthBuckets }

def emptied (state : BudgetState) : Bool :=
  isZeroMoney state.spent && isZeroMoney state.active && state.dayBuckets.vacant && state.monthBuckets.vacant

def BudgetLimiter.storeOrDelete (limiter : BudgetLimiter) (keyID : String) (state : BudgetState) : BudgetLimiter :=
  if emptied state then { limiter with states := Finmap.erase keyID limiter.states } else limiter.store keyID state

def settleDeltas (keyID : String) (capture : BudgetCapture) (charge : Money) : List CommittedBudgetDelta :=
  if isZeroMoney charge then []
  else
    (if capture.totalCaptured then [⟨keyID, charge.amount, .total⟩] else []) ++
    (if capture.dayCounted then [⟨keyID, charge.amount, .day capture.dayStart⟩] else []) ++
    (if capture.monthCounted then [⟨keyID, charge.amount, .month capture.monthStart⟩] else [])

def newTicket (reservation : BudgetReservation) : BudgetAdjustmentTicket :=
  { reservation.toBudgetCapture with
    hasLimiter := true, keyID := reservation.keyID, generation := reservation.generation
    reserved := reservation.amount, consumed := false, resultErr := none }

-- The ticket of a reservation that counted nothing keeps no limiter.
def idleTicket (reservation : BudgetReservation) : BudgetAdjustmentTicket :=
  { dayStart := reservation.dayStart, monthStart := reservation.monthStart
    totalCaptured := false, dayCaptured := false, monthCaptured := false
    hasLimiter := false, keyID := "", generation := 0, reserved := reservation.amount, consumed := false, resultErr := none }

def openResult (reservation : BudgetReservation) (kind : BudgetSettlementKind) (actual : Money) : BudgetSettlementResult :=
  { keyID := reservation.keyID, kind := kind, reserved := reservation.amount, actual := actual
    charged := knownZeroMoney, committedDelta := 0, error := none }

def judgeActual (result : BudgetSettlementResult) (kind : BudgetSettlementKind) (actual : Money) : BudgetSettlementResult :=
  if decide (kind = .known) && !validKnownMoney actual then
    { result with kind := .conservative, error := some (.settlement .invalidActual true) }
  else result

def failed (result : BudgetSettlementResult) (failure : BudgetError) : Settlement :=
  { result := { result with error := some failure }, deltas := [], ticket := none }

def complete (limiter : BudgetLimiter) (reservation : BudgetReservation) (state : BudgetState) (result : BudgetSettlementResult)
    (charge : Money) (deferred : Bool) (total day month : BudgetDayState) : BudgetLimiter × Settlement :=
  let capture := reservation.toBudgetCapture
  (limiter.storeOrDelete reservation.keyID (publish state capture total day month),
    { result := { result with charged := charge, committedDelta := charge.amount }
      deltas := settleDeltas reservation.keyID capture charge
      ticket := if deferred && result.error.isNone then some (newTicket reservation) else none })

-- The source computes all three counters before it tests any of them.
def allKnown (total day month : Except MoneyError Money) : Option (Money × Money × Money) :=
  match knownResult total, knownResult day, knownResult month with
  | some total, some day, some month => some (total, day, month)
  | _, _, _ => none

def releaseAll (capture : BudgetCapture) (total day month : BudgetDayState) (amount : Money) : Option (Money × Money × Money) :=
  allKnown (released capture.totalCaptured total amount) (released capture.dayCaptured day amount)
    (released capture.monthCaptured month amount)

def chargeAll (capture : BudgetCapture) (total day month : BudgetDayState) (charge : Money) : Option (Money × Money × Money) :=
  allKnown (charged capture.totalCaptured total charge) (charged capture.dayCaptured day charge)
    (charged capture.monthCaptured month charge)

def settleState (limiter : BudgetLimiter) (reservation : BudgetReservation) (state : BudgetState) (kind : BudgetSettlementKind)
    (actual : Money) (deferred : Bool) : BudgetLimiter × Settlement :=
  let result := judgeActual (openResult reservation kind actual) kind actual
  let charge := chargeFor kind actual reservation.amount
  let total : BudgetDayState := ⟨state.spent, state.active⟩
  let day := settleDay state reservation.dayStart
  let month := settleMonth state reservation.monthStart
  match releaseAll reservation.toBudgetCapture total day month reservation.amount with
  | none => (limiter, failed result (.settlement .state false))
  | some (newActive, newDayActive, newMonthActive) =>
    match chargeAll reservation.toBudgetCapture total day month charge with
    | some (newSpent, newDaySpent, newMonthSpent) =>
      complete limiter reservation state result charge deferred ⟨newSpent, newActive⟩ ⟨newDaySpent, newDayActive⟩
        ⟨newMonthSpent, newMonthActive⟩
    | none =>
      -- One conservative attempt with the reserved amount.
      let second := if !isZeroMoney charge || decide (kind = .known) then reservation.amount else charge
      match chargeAll reservation.toBudgetCapture total day month second with
      | some (newSpent, newDaySpent, newMonthSpent) =>
        complete limiter reservation state
          { result with kind := .conservative, error := some (.settlement .arithmetic true) } reservation.amount deferred
          ⟨newSpent, newActive⟩ ⟨newDaySpent, newDayActive⟩ ⟨newMonthSpent, newMonthActive⟩
      | none => (limiter, failed result (.settlement .arithmetic true))

def settleReservation (limiter : BudgetLimiter) (reservation : BudgetReservation) (kind : BudgetSettlementKind) (actual : Money)
    (deferred : Bool) : BudgetLimiter × Settlement :=
  let result := openResult reservation kind actual
  if reservation.state.isNone || isZeroMoney reservation.amount then
    (limiter,
      { result := judgeActual result kind actual, deltas := []
        ticket := if kind = .deferred then some (idleTicket reservation) else none })
  else
    match limiter.states.lookup reservation.keyID with
    | none => (limiter, failed result .state)
    | some state =>
      if some state.address ≠ reservation.state ∨ state.generation ≠ reservation.generation then (limiter, failed result .state)
      else if !validateBudgetState state then (limiter, failed result .state)
      else settleState limiter reservation state kind actual deferred

end NineGateway.Budget
