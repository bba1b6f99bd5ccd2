import NineGateway.Budget.State

set_option autoImplicit false

namespace NineGateway.Budget

inductive BudgetSettlementKind where
  | known
  | conservative
  | preUpstreamRelease
  | deferred
deriving DecidableEq, Repr

structure BudgetSettlementResult where
  keyID : String
  kind : BudgetSettlementKind
  reserved : Money
  actual : Money
  charged : Money
  committedDelta : Int
  error : Option BudgetError
deriving DecidableEq, Repr

-- The periods an admission was counted in. A period that was not limited keeps
-- the zero start.
structure BudgetCapture where
  dayStart : Int
  monthStart : Int
  totalCaptured : Bool
  dayCaptured : Bool
  monthCaptured : Bool
deriving DecidableEq, Repr

structure BudgetAdjustmentTicket extends BudgetCapture where
  hasLimiter : Bool
  keyID : String
  generation : Nat
  reserved : Money
  consumed : Bool
  resultErr : Option BudgetError
deriving DecidableEq, Repr

-- The shared ownership record behind every copy of a BudgetReservation, with
-- the adjustment ticket a deferred settlement left in it.
structure BudgetReservation extends BudgetCapture where
  keyID : String
  state : Option Nat
  generation : Nat
  amount : Money
  finalized : Bool
  finalErr : Option BudgetError
  result : Option BudgetSettlementResult
  ticket : Option BudgetAdjustmentTicket
deriving DecidableEq, Repr

def newBudgetReservation (keyID : String) (state : Option Nat) (generation : Nat) (amount : Money)
    (capture : BudgetCapture) : BudgetReservation :=
  { capture with
    keyID := keyID, state := state, generation := generation, amount := amount
    finalized := false, finalErr := none, result := none, ticket := none }

def noCapture : BudgetCapture :=
  { dayStart := zeroTime, monthStart := zeroTime, totalCaptured := false, dayCaptured := false, monthCaptured := false }

def nextGeneration (sequence : Nat) : Nat := (sequence + 1) % 18446744073709551616

def pruneBuckets (current : Int) (buckets : FiniteMap Int BudgetDayState) : FiniteMap Int BudgetDayState :=
  buckets.retain (fun start bucket => !(decide (start < current) && isZeroMoney bucket.active))

def pruneState (dayStart monthStart : Int) (state : BudgetState) : BudgetState :=
  { state with
    dayBuckets := pruneBuckets dayStart state.dayBuckets
    monthBuckets := pruneBuckets monthStart state.monthBuckets }

def orKnownZero (value : Money) : Money := if value.isKnown then value else knownZeroMoney

def readBucket : Option BudgetDayState → BudgetDayState
  | none => ⟨knownZeroMoney, knownZeroMoney⟩
  | some bucket => ⟨orKnownZero bucket.spent, orKnownZero bucket.active⟩

def readTotal : Option BudgetState → BudgetDayState
  | none => ⟨knownZeroMoney, knownZeroMoney⟩
  | some state => ⟨state.spent, state.active⟩

-- Whether the candidate does not fit under one limit. A limit already passed is
-- an underflow of the subtraction and rejects.
def exceeds (limit used candidate : Money) : Except BudgetError Bool :=
  match limit.subtract used with
  | .error .underflow => .ok true
  | .error _ => .error .state
  | .ok remaining =>
    match candidate.lessOrEqual remaining with
    | .error _ => .error .state
    | .ok fits => .ok (!fits)

def resetAt (totalRejected dayRejected monthRejected : Bool) (dayStart monthStart : Int) : Int :=
  if !totalRejected && monthRejected then nextMonth monthStart
  else if dayRejected && !totalRejected then dayStart + dayNanos
  else zeroTime

def checkCapacity (policy : BudgetPolicy) (candidate : Money) (dayStart monthStart : Int)
    (total day month : BudgetDayState) : Except BudgetError Unit :=
  match knownResult (total.spent.add total.active) with
  | none => .error .state
  | some used =>
    match if policy.limited then exceeds policy.total used candidate else .ok false with
    | .error failure => .error failure
    | .ok totalRejected =>
      match day.spent.add day.active with
      | .error _ => .error .state
      | .ok dayUsed =>
        match if policy.dayLimited then exceeds policy.day dayUsed candidate else .ok false with
        | .error failure => .error failure
        | .ok dayRejected =>
          let monthChecked : Except BudgetError Bool :=
            if policy.monthLimited then
              match month.spent.add month.active with
              | .error _ => .error .state
              | .ok monthUsed => exceeds policy.month monthUsed candidate
            else .ok false
          match monthChecked with
          | .error failure => .error failure
          | .ok monthRejected =>
            if totalRejected || dayRejected || monthRejected then
              .error (.capacity (resetAt totalRejected dayRejected monthRejected dayStart monthStart) totalRejected)
            else .ok ()

def addIf (limited : Bool) (active candidate : Money) : Except MoneyError Money :=
  if limited then active.add candidate else .ok active

def enterTotals (state : BudgetState) (policy : BudgetPolicy) (dayStart : Int) (newActive : Money)
    (day : BudgetDayState) : BudgetState :=
  { applyBudgetPolicy state policy with
    active := newActive
    dayBuckets := if policy.dayLimited then Finmap.insert dayStart day state.dayBuckets else state.dayBuckets }

def enterMonth (state : BudgetState) (policy : BudgetPolicy) (monthStart : Int) (month : BudgetDayState) : BudgetState :=
  { state with
    monthBuckets := if policy.monthLimited then Finmap.insert monthStart month state.monthBuckets else state.monthBuckets }

def blankState (address generation : Nat) : BudgetState :=
  { address := address, generation := generation, spent := knownZeroMoney, active := knownZeroMoney
    dayBuckets := ∅, monthBuckets := ∅, total := .unknown, hasLimit := false, dayLimit := .unknown, hasDayLimit := false
    monthLimit := .unknown, hasMonthLimit := false, totalLoaded := false }

def captureOf (policy : BudgetPolicy) (dayStart monthStart : Int) : BudgetCapture :=
  { dayStart := if policy.dayLimited then dayStart else zeroTime
    monthStart := if policy.monthLimited then monthStart else zeroTime
    totalCaptured := policy.limited, dayCaptured := policy.dayLimited, monthCaptured := policy.monthLimited }

def BudgetLimiter.store (limiter : BudgetLimiter) (keyID : String) (state : BudgetState) : BudgetLimiter :=
  { limiter with states := Finmap.insert keyID state limiter.states }

def BudgetLimiter.storeIf (limiter : BudgetLimiter) (keyID : String) : Option BudgetState → BudgetLimiter
  | none => limiter
  | some state => limiter.store keyID state

-- The mutation pass. A month addition that overflows leaves an existing state
-- half written, as the source does; the capacity check rules it out.
def admitCandidate (limiter : BudgetLimiter) (keyID : String) (policy : BudgetPolicy) (candidate : Money) (dayStart monthStart : Int)
    (existing : Option BudgetState) (total day month : BudgetDayState) :
    BudgetLimiter × Except BudgetError BudgetReservation :=
  match knownResult (addIf policy.limited total.active candidate), addIf policy.dayLimited day.active candidate with
  | none, _ => (limiter, .error .state)
  | some _, .error _ => (limiter, .error .state)
  | some newActive, .ok newDayActive =>
    match existing with
    | none =>
      let generation := nextGeneration limiter.sequence
      let counted := { limiter with sequence := generation }
      if generation = 0 then (counted, .error .state)
      else
        let entered := enterTotals (blankState limiter.nextAddress generation) policy dayStart newActive ⟨day.spent, newDayActive⟩
        match addIf policy.monthLimited month.active candidate with
        | .error _ => (counted, .error .state)
        | .ok newMonthActive =>
          let state := enterMonth entered policy monthStart ⟨month.spent, newMonthActive⟩
          ({ counted with nextAddress := limiter.nextAddress + 1 }.store keyID state,
            .ok (newBudgetReservation keyID (some state.address) state.generation candidate (captureOf policy dayStart monthStart)))
    | some old =>
      let entered := enterTotals old policy dayStart newActive ⟨day.spent, newDayActive⟩
      match addIf policy.monthLimited month.active candidate with
      | .error _ => (limiter.store keyID entered, .error .state)
      | .ok newMonthActive =>
        let state := enterMonth entered policy monthStart ⟨month.spent, newMonthActive⟩
        (limiter.store keyID state,
          .ok (newBudgetReservation keyID (some state.address) state.generation candidate (captureOf policy dayStart monthStart)))

def reserveAt (limiter : BudgetLimiter) (dayStart monthStart : Int) (keyID : String) (policy : BudgetPolicy)
    (candidate : Money) : BudgetLimiter × Except BudgetError BudgetReservation :=
  let existing := (limiter.states.lookup keyID).map (pruneState dayStart monthStart)
  let pruned := limiter.storeIf keyID existing
  let total := readTotal existing
  let day := readBucket (held existing (.day dayStart))
  let month := readBucket (held existing (.month monthStart))
  match checkCapacity policy candidate dayStart monthStart total day month with
  | .error failure => (pruned, .error failure)
  | .ok () =>
    if isZeroMoney candidate then (pruned, .ok (newBudgetReservation keyID none 0 candidate noCapture))
    else admitCandidate pruned keyID policy candidate dayStart monthStart existing total day month

def limitsMismatch (state : BudgetState) (policy : BudgetPolicy) : Bool :=
  state.hasLimit && (!policy.limited || !sameMoney state.total policy.total) ||
    state.hasDayLimit && (!policy.dayLimited || !sameMoney state.dayLimit policy.day) ||
    state.hasMonthLimit && (!policy.monthLimited || !sameMoney state.monthLimit policy.month)

def stalePolicy (limiter : BudgetLimiter) (keyID : String) (policy : BudgetPolicy) : Bool :=
  match limiter.policies.lookup keyID with
  | none => false
  | some current => !sameBudgetPolicy current policy

def refusedState (limiter : BudgetLimiter) (keyID : String) (policy : BudgetPolicy) : Option BudgetError :=
  match limiter.states.lookup keyID with
  | none => none
  | some state =>
    if !validateBudgetState state then some .state
    else if (limiter.policies.lookup keyID).isNone && limitsMismatch state policy then some .invalid
    else none

-- Reserve holds the policy and lifecycle read locks and the key's shard lock
-- from its first read to its last write, so it is one step. The reading is what
-- the clock returned to nowTime.
def reserve (limiter : BudgetLimiter) (reading : Int) (keyID : String) (policy : BudgetPolicy) (candidate : Money) :
    BudgetLimiter × Except BudgetError BudgetReservation :=
  if !validKeyID keyID || !validKnownMoney candidate || !validPolicy policy then (limiter, .error .invalid)
  else if stalePolicy limiter keyID policy then (limiter, .error .policyReplacementConflict)
  else
    match refusedState limiter keyID policy with
    | some failure => (limiter, .error failure)
    | none =>
      if !policy.limited && !policy.dayLimited && !policy.monthLimited then
        (limiter, .ok (newBudgetReservation keyID none 0 candidate noCapture))
      else
        let now := clampTime limiter.lastNow reading
        reserveAt { limiter with lastNow := now } (currentDay now) (currentMonth (currentDay now)) keyID policy candidate

end NineGateway.Budget
