import NineGateway.Budget.Load
import NineGateway.Library.Transition
import NineGateway.Library.Roster

set_option autoImplicit false

namespace NineGateway.Budget

def registerPolicy (limiter : BudgetLimiter) (keyID : String) (policy : BudgetPolicy) : BudgetLimiter :=
  if !validKeyID keyID || !validPolicy policy then limiter
  else { limiter with policies := Finmap.insert keyID policy limiter.policies }

def replaceCheck (limiter : BudgetLimiter) (keyID : String) (oldPolicy newPolicy : BudgetPolicy) : Option BudgetError :=
  if !validKeyID keyID || !validPolicy oldPolicy || !validPolicy newPolicy then some .invalid
  else if stalePolicy limiter keyID oldPolicy then some .policyReplacementConflict
  else none

def replaceCommit (limiter : BudgetLimiter) (keyID : String) (newPolicy : BudgetPolicy) : BudgetLimiter :=
  { limiter with
    policies := Finmap.insert keyID newPolicy limiter.policies
    states := match limiter.states.lookup keyID with
      | none => limiter.states
      | some state => Finmap.insert keyID (applyBudgetPolicy state newPolicy) limiter.states }

inductive Terminal where
  | commit (actual : Money)
  | completeConservative
  | releaseBeforeUpstream
  | commitDeferred
deriving DecidableEq, Repr

def Terminal.kind : Terminal → BudgetSettlementKind
  | commit _ => .known
  | completeConservative => .conservative
  | releaseBeforeUpstream => .preUpstreamRelease
  | commitDeferred => .deferred

def Terminal.actual : Terminal → Money
  | commit actual => actual
  | releaseBeforeUpstream => knownZeroMoney
  | _ => .unknown

def Terminal.deferred : Terminal → Bool
  | commitDeferred => true
  | _ => false

def BudgetReservation.close (reservation : BudgetReservation) (settlement : Settlement) : BudgetReservation :=
  { reservation with
    finalized := true, finalErr := settlement.result.error, result := some settlement.result, ticket := settlement.ticket }

def finalizeInternal (limiter : BudgetLimiter) (reservation : BudgetReservation) (terminal : Terminal) :
    BudgetLimiter × BudgetReservation × List CommittedBudgetDelta :=
  if reservation.finalized then (limiter, reservation, [])
  else
    let settled := settleReservation limiter reservation terminal.kind terminal.actual terminal.deferred
    (settled.1, reservation.close settled.2, settled.2.deltas)

-- The critical sections of the limiter's methods. ReplacePolicy is two: its
-- callback runs between them with only the policy lock held, so settlements,
-- adjustments and loads go on meanwhile while admissions and other policy
-- changes wait. A ticket is named by the reservation that issued it.
inductive Call where
  | loadSpent (order : List String) (values : List BudgetSpent)
  | registerPolicy (keyID : String) (policy : BudgetPolicy)
  | replaceBegin (keyID : String) (oldPolicy newPolicy : BudgetPolicy)
  | replaceEnd (committed : Bool)
  | reserve (reading : Int) (keyID : String) (policy : BudgetPolicy) (candidate : Money)
  | finalize (index : Nat) (terminal : Terminal)
  | adjust (index : Nat) (actual : Money)
  | invalidate (index : Nat)
  | retryAfter (reading : Int)
deriving DecidableEq, Repr

structure PendingReplacement where
  keyID : String
  newPolicy : BudgetPolicy
deriving DecidableEq, Repr

structure BudgetSystem where
  limiter : BudgetLimiter
  reservations : List BudgetReservation
  replacing : Option PendingReplacement
deriving DecidableEq

def newBudgetSystem : BudgetSystem := { limiter := newBudgetLimiter, reservations := [], replacing := none }

inductive Answer where
  | done
  | reserved (index : Nat)
  | settled (result : Option BudgetSettlementResult)
  | failed (failure : BudgetError)
  | callbackFailed
deriving DecidableEq, Repr

def Answer.error : Answer → Option BudgetError
  | settled result => result.bind BudgetSettlementResult.error
  | failed failure => some failure
  | _ => none

def answerFor : Option BudgetError → Answer
  | none => .done
  | some failure => .failed failure

structure Reply where
  answer : Answer
  deltas : List CommittedBudgetDelta
deriving DecidableEq, Repr

def BudgetReservation.withTicket (reservation : BudgetReservation) (ticket : BudgetAdjustmentTicket) : BudgetReservation :=
  { reservation with ticket := some ticket }

def reserveStep (system : BudgetSystem) : BudgetLimiter × Except BudgetError BudgetReservation → BudgetSystem × Reply
  | (limiter, .ok reservation) =>
    ({ system with limiter := limiter, reservations := system.reservations ++ [reservation] },
      ⟨.reserved system.reservations.length, []⟩)
  | (limiter, .error failure) => ({ system with limiter := limiter }, ⟨.failed failure, []⟩)

-- A call that waits for the policy lock, or names a reservation that does not
-- exist, cannot proceed.
def step (system : BudgetSystem) : Call → Option (BudgetSystem × Reply)
  | .loadSpent order values =>
    let loaded := loadSpent system.limiter order values
    some ({ system with limiter := loaded.1 }, ⟨answerFor loaded.2, []⟩)
  | .registerPolicy keyID policy =>
    if system.replacing.isSome then none
    else some ({ system with limiter := registerPolicy system.limiter keyID policy }, ⟨.done, []⟩)
  | .replaceBegin keyID oldPolicy newPolicy =>
    if system.replacing.isSome then none
    else
      match replaceCheck system.limiter keyID oldPolicy newPolicy with
      | some failure => some (system, ⟨.failed failure, []⟩)
      | none => some ({ system with replacing := some ⟨keyID, newPolicy⟩ }, ⟨.done, []⟩)
  | .replaceEnd committed =>
    match system.replacing with
    | none => none
    | some pending =>
      if committed then
        some ({ system with limiter := replaceCommit system.limiter pending.keyID pending.newPolicy, replacing := none }, ⟨.done, []⟩)
      else some ({ system with replacing := none }, ⟨.callbackFailed, []⟩)
  | .reserve reading keyID policy candidate =>
    if system.replacing.isSome then none
    else some (reserveStep system (reserve system.limiter reading keyID policy candidate))
  | .finalize index terminal =>
    match system.reservations[index]? with
    | none => none
    | some reservation =>
      let closed := finalizeInternal system.limiter reservation terminal
      some ({ system with limiter := closed.1, reservations := system.reservations.set index closed.2.1 },
        ⟨.settled closed.2.1.result, closed.2.2⟩)
  | .adjust index actual =>
    match system.reservations[index]? with
    | none => none
    | some reservation =>
      match reservation.ticket with
      | none => some (system, ⟨.done, []⟩)
      | some ticket =>
        let adjusted := adjust system.limiter ticket actual
        some ({ system with
            limiter := adjusted.1
            reservations := system.reservations.set index (reservation.withTicket adjusted.2.ticket) },
          ⟨answerFor adjusted.2.ticket.resultErr, adjusted.2.deltas⟩)
  | .invalidate index =>
    match system.reservations[index]? with
    | none => none
    | some reservation =>
      match reservation.ticket with
      | none => some (system, ⟨.done, []⟩)
      | some ticket =>
        some ({ system with reservations := system.reservations.set index (reservation.withTicket (invalidate ticket)) },
          ⟨.done, []⟩)
  | .retryAfter reading =>
    some ({ system with limiter := { system.limiter with lastNow := clampTime system.limiter.lastNow reading } }, ⟨.done, []⟩)

def Call.reading : Call → Option Int
  | reserve reading _ _ _ => some reading
  | retryAfter reading => some reading
  | _ => none

def loadedRows : Call → Reply → List PendingSpent
  | .loadSpent _ values, ⟨.done, _⟩ => (parseSpent values []).getD []
  | _, _ => []

structure BudgetReservation.Sound (hold : BudgetReservation) : Prop where
  regular : hold.Regular
  amountKnown : hold.amount.isKnown = true
  counted : ∀ id, hold.covers id = true → hold.state ≠ none ∧ isZeroMoney hold.amount = false
  covering : hold.state ≠ none → validKeyID hold.keyID = true ∧ ∃ id, hold.covers id = true
  ticketSound : ∀ ticket, hold.ticket = some ticket → ticket.consumed = false → ticket.Sound
  ticketIssued : ∀ ticket, hold.ticket = some ticket → ticket.consumed = false →
    ticket = newTicket hold ∨ ticket = idleTicket hold
  untouched : hold.finalized = false → hold.ticket = none

def BudgetSystem.Sound (sys : BudgetSystem) : Prop := ∀ hold ∈ sys.reservations, hold.Sound

inductive StepOutcome (sys : BudgetSystem) : Call → BudgetSystem → Reply → Prop where
  | loaded (order values lim err) (out : LoadOutcome sys.limiter values lim err) :
      StepOutcome sys (.loadSpent order values) { sys with limiter := lim } ⟨answerFor err, []⟩
  | registered (key pol) (free : sys.replacing = none) : StepOutcome sys (.registerPolicy key pol)
        { sys with limiter := registerPolicy sys.limiter key pol } ⟨.done, []⟩
  | replaceRefused (key oldPolicy newPolicy err) : StepOutcome sys (.replaceBegin key oldPolicy newPolicy) sys ⟨.failed err, []⟩
  | replaceOpened (key oldPolicy newPolicy) (free : sys.replacing = none) (checked : replaceCheck sys.limiter key oldPolicy newPolicy = none) :
      StepOutcome sys (.replaceBegin key oldPolicy newPolicy) { sys with replacing := some ⟨key, newPolicy⟩ } ⟨.done, []⟩
  | replaceAborted (due) (begun : sys.replacing = some due) :
      StepOutcome sys (.replaceEnd false) { sys with replacing := none } ⟨.callbackFailed, []⟩
  | replaceCommitted (due) (begun : sys.replacing = some due) : StepOutcome sys (.replaceEnd true)
        { sys with limiter := replaceCommit sys.limiter due.keyID due.newPolicy, replacing := none } ⟨.done, []⟩
  | reserved (read key pol cand) (free : sys.replacing = none) (lim hold)
      (out : ReserveOutcome sys.limiter (clampTime sys.limiter.lastNow read) key pol cand lim (.ok hold)) :
      StepOutcome sys (.reserve read key pol cand) { sys with limiter := lim, reservations := sys.reservations ++ [hold] }
        ⟨.reserved sys.reservations.length, []⟩
  | reserveFailed (read key pol cand) (free : sys.replacing = none) (lim err)
      (out : ReserveOutcome sys.limiter (clampTime sys.limiter.lastNow read) key pol cand lim (.error err)) :
      StepOutcome sys (.reserve read key pol cand) { sys with limiter := lim } ⟨.failed err, []⟩
  | finalizedAgain (i term hold) (has : sys.reservations[i]? = some hold) (fin : hold.finalized = true) :
      StepOutcome sys (.finalize i term) sys ⟨.settled hold.result, []⟩
  | finalized (i term hold) (has : sys.reservations[i]? = some hold) (new : hold.finalized = false) (lim settlement)
      (out : SettleOutcome sys.limiter hold term.kind term.actual term.deferred lim settlement) : StepOutcome sys (.finalize i term)
        { sys with limiter := lim, reservations := sys.reservations.set i (hold.close settlement) }
        ⟨.settled (some settlement.result), settlement.deltas⟩
  | adjustIdle (i actual hold) (has : sys.reservations[i]? = some hold) (unissued : hold.ticket = none) :
      StepOutcome sys (.adjust i actual) sys ⟨.done, []⟩
  | adjusted (i actual hold ticket) (has : sys.reservations[i]? = some hold) (issued : hold.ticket = some ticket) (lim adj)
      (out : AdjustOutcome sys.limiter ticket actual lim adj) : StepOutcome sys (.adjust i actual)
        { sys with limiter := lim, reservations := sys.reservations.set i (hold.withTicket adj.ticket) }
        ⟨answerFor adj.ticket.resultErr, adj.deltas⟩
  | invalidateIdle (i hold) (has : sys.reservations[i]? = some hold) (unissued : hold.ticket = none) :
      StepOutcome sys (.invalidate i) sys ⟨.done, []⟩
  | invalidated (i hold ticket) (has : sys.reservations[i]? = some hold) (issued : hold.ticket = some ticket) : StepOutcome sys (.invalidate i)
        { sys with reservations := sys.reservations.set i (hold.withTicket (invalidate ticket)) } ⟨.done, []⟩
  | ticked (read) : StepOutcome sys (.retryAfter read)
        { sys with limiter := { sys.limiter with lastNow := clampTime sys.limiter.lastNow read } } ⟨.done, []⟩

variable {hold : BudgetReservation} {lim next : BudgetLimiter} {rep : Reply} {call : Call} {cap : BudgetCapture}
variable {pol : BudgetPolicy} {key : String} {amt : Money} {actual : Money}

theorem step_outcome {sys next : BudgetSystem} (sound : sys.Sound)
    (ran : step sys call = some (next, rep)) : StepOutcome sys call next rep := by
  cases call with
  | loadSpent order values =>
    cases ran
    exact .loaded order values _ _ (load_outcome _ _ _)
  | registerPolicy key pol =>
    simp only [step] at ran
    split at ran
    · simp at ran
    · rename_i free
      cases ran
      exact .registered key pol (by simpa using free)
  | replaceBegin key oldPolicy newPolicy =>
    simp only [step] at ran
    split at ran
    · simp at ran
    rename_i free
    cases checked : replaceCheck sys.limiter key oldPolicy newPolicy with
    | some =>
      simp only [checked] at ran
      cases ran
      exact .replaceRefused _ _ _ _
    | none =>
      simp only [checked] at ran
      cases ran
      exact .replaceOpened _ _ _ (by simpa using free) checked
  | replaceEnd committed =>
    simp only [step] at ran
    cases begun : sys.replacing with
    | none => simp [begun] at ran
    | some due =>
      cases committed with
      | true =>
        simp only [begun, if_true] at ran
        cases ran
        exact .replaceCommitted due begun
      | false =>
        simp only [begun, Bool.false_eq_true, if_false] at ran
        cases ran
        exact .replaceAborted due begun
  | reserve read key pol cand =>
    simp only [step] at ran
    split at ran
    · simp at ran
    rename_i free
    have out := reserve_outcome sys.limiter read key pol cand
    generalize reserve sys.limiter read key pol cand = result at ran out
    obtain ⟨lim, ans⟩ := result
    cases ans with
    | ok hold =>
      cases ran
      exact .reserved read key pol cand (by simpa using free) lim hold out
    | error err =>
      cases ran
      exact .reserveFailed read key pol cand (by simpa using free) lim err out
  | finalize i term =>
    simp only [step] at ran
    cases has : sys.reservations[i]? with
    | none => simp [has] at ran
    | some hold =>
      have mem := sound hold (List.mem_of_getElem? has)
      cases done : hold.finalized with
      | true =>
        simp only [has, finalizeInternal, done, if_true, Option.some.injEq, Prod.mk.injEq, Roster.set_same _ _ _ has] at ran
        obtain ⟨rfl, rfl⟩ := ran
        exact .finalizedAgain i term hold has done
      | false =>
        simp only [has, finalizeInternal, done, Bool.false_eq_true, if_false] at ran
        cases ran
        exact .finalized i term hold has done _ _ (settle_outcome _ hold _ _ _ mem.regular mem.amountKnown)
  | adjust i actual =>
    simp only [step] at ran
    cases has : sys.reservations[i]? with
    | none => simp [has] at ran
    | some hold =>
      have mem := sound hold (List.mem_of_getElem? has)
      cases issued : hold.ticket with
      | none =>
        simp only [has, issued] at ran
        cases ran
        exact .adjustIdle i actual hold has issued
      | some ticket =>
        simp only [has, issued] at ran
        cases ran
        exact .adjusted i actual hold ticket has issued _ _ (adjust_outcome _ ticket actual (mem.ticketSound ticket issued))
  | invalidate i =>
    simp only [step] at ran
    cases has : sys.reservations[i]? with
    | none => simp [has] at ran
    | some hold =>
      cases issued : hold.ticket with
      | none =>
        simp only [has, issued] at ran
        cases ran
        exact .invalidateIdle i hold has issued
      | some ticket =>
        simp only [has, issued] at ran
        cases ran
        exact .invalidated i hold ticket has issued
  | retryAfter read =>
    cases ran
    exact .ticked read

theorem new_reservation_sound {st : Option Nat} {gen : Nat} (known : amt.isKnown = true) (reg : cap.Regular)
    (tally : ∀ id, cap.covers id = true → st ≠ none ∧ isZeroMoney amt = false)
    (covering : st ≠ none → validKeyID key = true ∧ ∃ id, cap.covers id = true) : (newBudgetReservation key st gen amt cap).Sound :=
  ⟨reg, known, tally, covering, fun _ issued => by simp [newBudgetReservation] at issued, fun _ issued => by simp [newBudgetReservation] at issued,
    fun _ => rfl⟩

theorem no_capture_regular : noCapture.Regular := ⟨fun _ => rfl, fun _ => rfl⟩

theorem capture_of_regular (pol : BudgetPolicy) (dstart mstart : Int) : (captureOf pol dstart mstart).Regular := by
  constructor
  · intro off
    have unlimited : pol.dayLimited = false := off
    simp [captureOf, unlimited]
  · intro off
    have unlimited : pol.monthLimited = false := off
    simp [captureOf, unlimited]

theorem idle_reservation_sound (key : String) (known : amt.isKnown = true) : (newBudgetReservation key none 0 amt noCapture).Sound :=
  new_reservation_sound known no_capture_regular (fun _ absurd => by simp at absurd) (fun absurd => by simp at absurd)

theorem capture_at_covers (now : Int) (caught : pol.limited = true ∨ pol.dayLimited = true ∨ pol.monthLimited = true) :
    ∃ id, (captureAt pol now).covers id = true := by
  rcases caught with total | day | month
  · exact ⟨.total, by simp [captureAt, total]⟩
  · exact ⟨.day (currentDay now), by simp [captureAt, day]⟩
  · exact ⟨.month (currentMonth now), by simp [captureAt, month]⟩

theorem reserve_sound {now : Int} {cand : Money} (out : ReserveOutcome lim now key pol cand next (.ok hold)) : hold.Sound := by
  cases out with
  | unlimited passed | free passed => exact idle_reservation_sound key passed.candidateKnown
  | admitted passed nz _ caught =>
    exact new_reservation_sound passed.candidateKnown (capture_of_regular _ _ _) (fun _ _ => ⟨by simp, nz⟩)
      (fun _ => ⟨passed.keyValid, capture_at_covers now caught⟩)

theorem moved_nonzero {amt charge : Money} {st next : BudgetState} (fine : StateAccepted st) (did : Moved cap amt charge st next) :
    (cap.dayCaptured = true → cap.dayStart ≠ zeroTime) ∧ (cap.monthCaptured = true → cap.monthStart ≠ zeroTime) := by
  constructor
  · intro on
    obtain ⟨_, _, has, _⟩ := did.moved (.day cap.dayStart) (by simp [BudgetCapture.covers, on])
    exact accepted_day_nonzero fine has
  · intro on
    obtain ⟨_, _, has, _⟩ := did.moved (.month cap.monthStart) (by simp [BudgetCapture.covers, on])
    exact accepted_month_nonzero fine has

theorem close_sound {kind : BudgetSettlementKind} {deferred : Bool} {settlement : Settlement} (ok : hold.Sound)
    (out : SettleOutcome lim hold kind actual deferred next settlement) : (hold.close settlement).Sound := by
  have issuedSound : ∀ ticket, settlement.ticket = some ticket → ticket.Sound ∧ (ticket = newTicket hold ∨ ticket = idleTicket hold) := by
    intro ticket issued
    cases out with
    | idle _ _ _ _ ticketEq =>
      rw [ticketEq] at issued
      split at issued
      · simp only [Option.some.injEq] at issued
        subst issued
        exact ⟨⟨ok.amountKnown, fun absurd => by simp [idleTicket] at absurd, fun absurd => by simp [idleTicket] at absurd⟩, .inr rfl⟩
      · simp at issued
    | refused _ _ _ _ _ _ ticketEq => simp [ticketEq] at issued
    | settled _ _ _ _ cur _ did _ _ _ _ ticketEq =>
      rw [ticketEq] at issued
      split at issued
      · simp only [Option.some.injEq] at issued
        subst issued
        obtain ⟨day, m⟩ := moved_nonzero cur.accepted did
        exact ⟨⟨ok.amountKnown, day, m⟩, .inl rfl⟩
      · simp at issued
  exact ⟨ok.regular, ok.amountKnown, ok.counted, ok.covering, fun ticket issued _ => (issuedSound ticket issued).1,
    fun ticket issued _ => (issuedSound ticket issued).2, fun undone => by simp [BudgetReservation.close] at undone⟩

theorem adjust_consumed {ticket : BudgetAdjustmentTicket} {adj : Adjustment}
    (out : AdjustOutcome lim ticket actual next adj) : adj.ticket.consumed = true := by
  cases out with
  | repeated used => exact used
  | _ => rfl

theorem with_ticket_sound {ticket new : BudgetAdjustmentTicket} (ok : hold.Sound) (issued : hold.ticket = some ticket)
    (consumed : new.consumed = true) : (hold.withTicket new).Sound := by
  have used : ∀ alt, (hold.withTicket new).ticket = some alt → alt.consumed = true := by
    intro alt same
    simp only [BudgetReservation.withTicket, Option.some.injEq] at same
    rw [← same, consumed]
  refine ⟨ok.regular, ok.amountKnown, ok.counted, ok.covering, ?_, ?_, ?_⟩
  · intro alt same unused
    simp [used alt same] at unused
  · intro alt same unused
    simp [used alt same] at unused
  · intro undone
    have none := ok.untouched undone
    simp [issued] at none

theorem sound_step {sys next : BudgetSystem} (ok : sys.Sound) (ran : step sys call = some (next, rep)) : next.Sound := by
  cases step_outcome ok ran with
  | reserved _ _ _ _ _ _ _ out => exact Roster.forall_append _ _ ok (reserve_sound out)
  | finalized _ _ _ has _ _ _ out =>
    exact Roster.forall_set _ _ _ ok (close_sound (ok _ (List.mem_of_getElem? has)) out)
  | adjusted _ _ _ _ has issued _ _ out =>
    exact Roster.forall_set _ _ _ ok (with_ticket_sound (ok _ (List.mem_of_getElem? has)) issued (adjust_consumed out))
  | invalidated _ _ _ has issued =>
    exact Roster.forall_set _ _ _ ok (with_ticket_sound (ok _ (List.mem_of_getElem? has)) issued rfl)
  | _ => exact ok

theorem place_frame (gens : String → Nat) (lim : BudgetLimiter) (due : List PendingSpent) :
    (due.foldl (placeSpent gens) lim).lastNow = lim.lastNow ∧ (due.foldl (placeSpent gens) lim).policies = lim.policies := by
  induction due generalizing lim with
  | nil => exact ⟨rfl, rfl⟩
  | cons row _ ih =>
    obtain ⟨clock, policies⟩ := ih (placeSpent gens lim row)
    rw [List.foldl_cons, clock, policies]
    unfold placeSpent
    split
    · exact ⟨rfl, rfl⟩
    · split <;> exact ⟨rfl, rfl⟩

theorem store_or_delete_frame (lim : BudgetLimiter) (key : String) (st : BudgetState) :
    (lim.storeOrDelete key st).lastNow = lim.lastNow ∧ (lim.storeOrDelete key st).policies = lim.policies := by
  unfold BudgetLimiter.storeOrDelete
  split <;> exact ⟨rfl, rfl⟩

-- What a step does besides the states: it may read the clock or publish a
-- policy.
inductive FrameStep (sys next : BudgetSystem) (call : Call) : Prop where
  | kept (clock : next.limiter.lastNow = sys.limiter.lastNow) (same : next.limiter.policies = sys.limiter.policies)
  | read (t : Int) (reading : call.reading = some t) (clock : next.limiter.lastNow = clampTime sys.limiter.lastNow t)
      (same : next.limiter.policies = sys.limiter.policies)
  | installed (key : String) (pol : BudgetPolicy) (called : call = .registerPolicy key pol ∨ call = .replaceEnd true ∧
      sys.replacing = some ⟨key, pol⟩)
      (valid : call = .registerPolicy key pol → validPolicy pol = true) (clock : next.limiter.lastNow = sys.limiter.lastNow)
      (pub : next.limiter.policies = Finmap.insert key pol sys.limiter.policies)

variable {sys next : BudgetSystem}

theorem step_frame (ok : sys.Sound) (ran : step sys call = some (next, rep)) : FrameStep sys next call := by
  cases step_outcome ok ran with
  | loaded _ _ _ _ out =>
    cases out with
    | refused => exact .kept rfl rfl
    | loaded =>
      obtain ⟨clock, policies⟩ := place_frame _ _ _
      exact .kept clock policies
  | registered key pol =>
    by_cases fine : (!validKeyID key || !validPolicy pol) = true
    · exact .kept (by simp [registerPolicy, fine]) (by simp [registerPolicy, fine])
    · refine .installed key pol (.inl rfl) (fun _ => ?_) (by simp [registerPolicy, fine]) (by simp [registerPolicy, fine])
      simp only [Bool.or_eq_true, Bool.not_eq_true', not_or, Bool.not_eq_false] at fine
      exact fine.2
  | replaceCommitted pending begun =>
    exact .installed pending.keyID pending.newPolicy (.inr ⟨rfl, begun⟩) (fun absurd => by simp at absurd) rfl rfl
  | reserved read _ _ _ _ _ _ out =>
    cases out with
    | unlimited => exact .kept rfl rfl
    | free | admitted => exact .read read rfl rfl rfl
  | reserveFailed read _ _ _ _ _ _ out =>
    cases out with
    | refused => exact .kept rfl rfl
    | rejected | exhausted => exact .read read rfl rfl rfl
  | finalized _ _ _ _ _ _ _ out =>
    cases out with
    | idle | refused => exact .kept rfl rfl
    | settled => exact .kept (store_or_delete_frame _ _ _).1 (store_or_delete_frame _ _ _).2
  | adjusted _ _ _ _ _ _ _ _ out =>
    cases out with
    | repeated | refused | torn => exact .kept rfl rfl
    | equal | shifted => exact .kept (store_or_delete_frame _ _ _).1 (store_or_delete_frame _ _ _).2
  | ticked read => exact .read read rfl rfl rfl
  | _ => exact .kept rfl rfl

theorem step_clock (ok : sys.Sound) (ran : step sys call = some (next, rep)) :
    next.limiter.lastNow = sys.limiter.lastNow ∨
      ∃ read, call.reading = some read ∧ next.limiter.lastNow = clampTime sys.limiter.lastNow read := by
  cases step_frame ok ran with
  | kept clock | installed _ _ _ _ clock => exact .inl clock
  | read t reading clock => exact .inr ⟨t, reading, clock⟩

theorem sound_run {cs : List Call} {sys final : BudgetSystem} {outs : List Reply} (ok : sys.Sound)
    (run : Transition.execute step sys cs = some (final, outs)) : final.Sound :=
  Transition.run_invariant BudgetSystem.Sound (fun _ _ _ _ kept _ transition => sound_step kept transition) ok
    Transition.along_always run

theorem new_system_sound : newBudgetSystem.Sound := by
  intro hold mem
  simp [newBudgetSystem] at mem

end NineGateway.Budget
