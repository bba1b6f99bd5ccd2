import NineGateway.Observation.Worker
import NineGateway.Library.Roster
import NineGateway.Library.Transition

set_option autoImplicit false

namespace NineGateway.Observation

inductive Ticket where
  | token (reservation : Nat)
  | budget (reservation : Nat)
deriving DecidableEq, Repr

def UsageObservationJob.tokens (job : UsageObservationJob) : List Ticket := (job.ticket.map Ticket.token).toList
def UsageObservationJob.budgets (job : UsageObservationJob) : List Ticket := (job.budgetTicket.map Ticket.budget).toList
def UsageObservationJob.tickets (job : UsageObservationJob) : List Ticket := job.tokens ++ job.budgets

inductive Phase where
  | idle
  | adjusting
  | terminal
deriving DecidableEq, Repr

-- What an observation that was parsed is good for: adjusting the token ticket, and
-- the budget ticket.
structure Verdict where
  token : Bool
  budget : Bool
deriving DecidableEq, Repr

inductive Progress where
  | parsing
  | gating (verdict : Verdict)
  | token (verdict : Verdict)
  | budget (verdict : Verdict)
  | finishing
deriving DecidableEq, Repr

-- Where the worker's goroutine is. A job is processed for the loop or for
-- drainQueued. While it discards the queue it holds the mutex, and the job it
-- has received.
inductive Routine where
  | waiting
  | looping
  | draining
  | wiping (hand : Option UsageObservationJob)
  | releasing (job : UsageObservationJob)
  | processing (job : UsageObservationJob) (progress : Progress) (drains : Bool)
  | done
deriving DecidableEq, Repr

-- How far a call of Shutdown or Drain has come. Once its deadline has passed, it
-- tries the phase twice. It holds the mutex while it is emptying the queue.
inductive Closing where
  | flagging
  | bounding
  | stopping
  | waiting
  | expiring
  | between
  | discarding
  | emptying (hand : Option UsageObservationJob)
  | returned (expired : Bool)
deriving DecidableEq, Repr

structure Closer where
  drains : Bool
  stage : Closing
deriving DecidableEq, Repr

-- What follows once the queue is empty.
def Closer.emptied (closer : Closer) : Closing := if closer.drains then .returned true else .stopping

def Routine.locks : Routine → Bool
  | .wiping _ => true
  | .waiting | .looping | .draining | .releasing _ | .processing _ _ _ | .done => false

def Closing.locks : Closing → Bool
  | .emptying _ => true
  | .flagging | .bounding | .stopping | .waiting | .expiring | .between | .discarding | .returned _ => false

-- The jobs and the tickets that were dealt with are kept for the record.
structure ObservationSystem where
  worker : UsageObservationWorker
  wake : Bool
  stopped : Bool
  drain : Bool
  phase : Phase
  routine : Routine
  submissions : List (UsageObservationJob × Submitted)
  closers : List Closer
  processed : List UsageObservationJob
  dropped : List UsageObservationJob
  begun : List UsageObservationJob
  adjusted : List Ticket
  invalidated : List Ticket
deriving DecidableEq, Repr

def newObservationSystem (capacity maxBytes : Int) : ObservationSystem :=
  { worker := newUsageObservationWorker capacity maxBytes, wake := false, stopped := false, drain := false, phase := .idle, routine := .waiting
    submissions := [], closers := [], processed := [], dropped := [], begun := [], adjusted := [], invalidated := [] }

inductive Move where
  | hand (job : UsageObservationJob)
  | submit (call : Nat)
  | stop
  | wake
  | claim
  | discard
  | take
  | release
  | parse (outcome : Option Verdict)
  | begin
  | settleToken
  | settleBudget
  | finish
  | close (drains : Bool)
  | advance (call : Nat) (expired : Bool)
deriving DecidableEq, Repr

namespace ObservationSystem

def locked (system : ObservationSystem) : Bool := system.routine.locks || system.closers.any fun closer => closer.stage.locks

def drop (system : ObservationSystem) (jobs : List UsageObservationJob) : ObservationSystem :=
  { system with dropped := system.dropped ++ jobs, invalidated := system.invalidated ++ jobs.flatMap UsageObservationJob.tickets }

def received (system : ObservationSystem) (rest : List UsageObservationJob) : ObservationSystem :=
  { system with worker := { system.worker with queue := rest, returning := system.worker.returning + 1 } }

def releaseSlot (system : ObservationSystem) : Option ObservationSystem :=
  system.worker.releaseSlot.map fun worker => { system with worker := { worker with returning := worker.returning - 1 } }

-- The loop receives a job, or finds the queue empty and ends, and then gives the
-- slot back before it drops the job. It holds the mutex throughout, which
-- drainQueued does not need to receive from the same queue.
def discardQueuedLocked (system : ObservationSystem) :
    Option UsageObservationJob → Option (ObservationSystem × Option (Option UsageObservationJob))
  | none =>
    match system.worker.queue with
    | [] => some (system, none)
    | job :: rest => some (system.received rest, some (some job))
  | some job => system.releaseSlot.map fun freed => (freed.drop [job], some none)

def submitted (system : ObservationSystem) (call : Nat) (job : UsageObservationJob) (worker : UsageObservationWorker) (outcome : Submitted) :
    ObservationSystem :=
  let next :=
    { system with
      worker := worker, submissions := system.submissions.set call (job, outcome), wake := system.wake || decide (outcome = .accepted) }
  if outcome = .dropped then next.drop [job] else next

def submitMove (system : ObservationSystem) (call : Nat) : Option ObservationSystem :=
  match system.submissions[call]? with
  | some (job, .pending submission) =>
    -- A call that has claimed its slot goes on under the mutex.
    if submission.holds && system.locked then none
    else (submit system.worker job submission).map fun moved => system.submitted call job moved.1 moved.2
  | _ => none

def wind (system : ObservationSystem) : ObservationSystem := { system with routine := if system.drain then .draining else .wiping none }

def claim (system : ObservationSystem) : Option ObservationSystem :=
  if !system.worker.accepting then some system.wind
  else
    match system.worker.queue with
    | [] => some { system with routine := .waiting }
    | job :: rest =>
      (UsageObservationWorker.releaseSlot { system.worker with queue := rest }).map fun worker =>
        { system with worker := worker, routine := .processing job .parsing false, processed := system.processed ++ [job] }

def take (system : ObservationSystem) : ObservationSystem :=
  match system.worker.queue with
  | [] => { system with routine := .done }
  | job :: rest => { system.received rest with routine := .releasing job }

def discard (system : ObservationSystem) (hand : Option UsageObservationJob) : Option ObservationSystem :=
  (system.discardQueuedLocked hand).map fun moved => { moved.1 with routine := moved.2.elim .done .wiping }

def back (drains : Bool) : Routine := if drains then .draining else .looping

def settle (system : ObservationSystem) (tickets : List Ticket) (adjusts : Bool) : ObservationSystem :=
  { system with
    adjusted := system.adjusted ++ if adjusts then tickets else [], invalidated := system.invalidated ++ if adjusts then [] else tickets }

def invalidate (system : ObservationSystem) (job : UsageObservationJob) (drains : Bool) : ObservationSystem :=
  { system.settle job.tickets false with routine := back drains }

def parse (system : ObservationSystem) (job : UsageObservationJob) (drains : Bool) : Option Verdict → ObservationSystem
  | none => system.invalidate job drains
  | some verdict => { system with routine := .processing job (.gating verdict) drains }

def beginAdjust (system : ObservationSystem) (job : UsageObservationJob) (verdict : Verdict) (drains : Bool) : ObservationSystem :=
  if system.phase = .idle then
    { system with phase := .adjusting, begun := system.begun ++ [job], routine := .processing job (.token verdict) drains }
  else system.invalidate job drains

def finishAdjust (system : ObservationSystem) : ObservationSystem :=
  { system with phase := if system.phase = .adjusting then .idle else system.phase }

def advanceTo (system : ObservationSystem) (call : Nat) (closer : Closer) (stage : Closing) : ObservationSystem :=
  { system with closers := system.closers.set call { closer with stage := stage } }

def expire (system : ObservationSystem) (expected : Phase) : ObservationSystem :=
  { system with phase := if system.phase = expected then .terminal else system.phase }

-- Shutdown empties the queue when it stops admission, Drain once its deadline has
-- passed.
def advance (system : ObservationSystem) (call : Nat) (closer : Closer) (expired : Bool) : Option ObservationSystem :=
  match closer.stage with
  | .flagging => some ({ system with drain := true }.advanceTo call closer .bounding)
  | .bounding =>
    if system.locked then none
    else some ({ system with worker := { system.worker with accepting := false } }.advanceTo call closer
      (if closer.drains then .stopping else .emptying none))
  | .stopping => some ({ system with stopped := true }.advanceTo call closer .waiting)
  | .waiting =>
    if expired then some (system.advanceTo call closer .expiring)
    else if system.routine = .done then some (system.advanceTo call closer (.returned false))
    else none
  | .expiring => some ((system.expire .idle).advanceTo call closer .between)
  | .between => some ((system.expire .adjusting).advanceTo call closer (if closer.drains then .discarding else .returned true))
  | .discarding => if system.locked then none else some (system.advanceTo call closer (.emptying none))
  | .emptying hand => (system.discardQueuedLocked hand).map fun moved => moved.1.advanceTo call closer (moved.2.elim closer.emptied .emptying)
  | .returned _ => none

def move (system : ObservationSystem) : Move → Option ObservationSystem
  | .hand job => some { system with submissions := system.submissions ++ [(job, .pending .checking)] }
  | .submit call => system.submitMove call
  | .stop => if system.routine = .waiting ∧ system.stopped ∧ system.locked = false then some system.wind else none
  | .wake => if system.routine = .waiting ∧ system.wake then some { system with wake := false, routine := .looping } else none
  | .claim => if system.routine = .looping ∧ system.locked = false then system.claim else none
  | .discard =>
    match system.routine with
    | .wiping hand => system.discard hand
    | _ => none
  | .take => if system.routine = .draining then some system.take else none
  | .release =>
    match system.routine with
    | .releasing job =>
      system.releaseSlot.map fun freed => { freed with routine := .processing job .parsing true, processed := system.processed ++ [job] }
    | _ => none
  | .parse outcome =>
    match system.routine with
    | .processing job .parsing drains => some (system.parse job drains outcome)
    | _ => none
  | .begin =>
    match system.routine with
    | .processing job (.gating verdict) drains => some (system.beginAdjust job verdict drains)
    | _ => none
  | .settleToken =>
    match system.routine with
    | .processing job (.token verdict) drains =>
      some { system.settle job.tokens verdict.token with routine := .processing job (.budget verdict) drains }
    | _ => none
  | .settleBudget =>
    match system.routine with
    | .processing job (.budget verdict) drains => some { system.settle job.budgets verdict.budget with routine := .processing job .finishing drains }
    | _ => none
  | .finish =>
    match system.routine with
    | .processing _ .finishing drains => some { system.finishAdjust with routine := back drains }
    | _ => none
  | .close drains => some { system with closers := system.closers ++ [⟨drains, if drains then .flagging else .bounding⟩] }
  | .advance call expired => system.closers[call]?.bind fun closer => system.advance call closer expired

end ObservationSystem

def step (system : ObservationSystem) (move : Move) : Option (ObservationSystem × Unit) := (system.move move).map (·, ())

namespace ObservationSystem

def Winds (sys : ObservationSystem) : Prop :=
  sys.routine = .waiting ∧ sys.stopped = true ∨ sys.routine = .looping ∧ sys.worker.accepting = false

def freed (sys : ObservationSystem) : ObservationSystem :=
  { sys with worker := { sys.worker with slots := sys.worker.slots + 1, returning := sys.worker.returning - 1 } }

def bounded (sys : ObservationSystem) (call : Nat) (closer : Closer) : ObservationSystem :=
  advanceTo { sys with worker := { sys.worker with accepting := false } } call closer (if closer.drains then .stopping else .emptying none)

end ObservationSystem

def Progress.isBegun : Progress → Bool
  | .parsing | .gating _ => false
  | .token _ | .budget _ | .finishing => true

inductive Moved (sys : ObservationSystem) : Move → ObservationSystem → Prop where
  | handed (job) : Moved sys (.hand job) { sys with submissions := sys.submissions ++ [(job, .pending .checking)] }
  | submitted {call : Nat} {job : UsageObservationJob} {sub : Submission} {worker : UsageObservationWorker} {out : Submitted}
      (has : sys.submissions[call]? = some (job, .pending sub)) (outs : SubmitOutcome sys.worker job sub worker out) :
      Moved sys (.submit call) (sys.submitted call job worker out)
  | wound {move : Move} (winds : sys.Winds) : Moved sys move sys.wind
  | wiped (wiping : sys.routine = .wiping none) (empty : sys.worker.queue = []) : Moved sys .discard { sys with routine := .done }
  | wiping {job : UsageObservationJob} {rest : List UsageObservationJob} (wiping : sys.routine = .wiping none)
      (queued : sys.worker.queue = job :: rest) : Moved sys .discard { sys.received rest with routine := .wiping (some job) }
  | wipedOff {job : UsageObservationJob} (wiping : sys.routine = .wiping (some job)) :
      Moved sys .discard { sys.freed.drop [job] with routine := .wiping none }
  | woken (waiting : sys.routine = .waiting) (wake : sys.wake = true) : Moved sys .wake { sys with wake := false, routine := .looping }
  | paused (looping : sys.routine = .looping) (empty : sys.worker.queue = []) : Moved sys .claim { sys with routine := .waiting }
  | claimed {job : UsageObservationJob} {rest : List UsageObservationJob} (looping : sys.routine = .looping)
      (accepting : sys.worker.accepting = true) (queued : sys.worker.queue = job :: rest) : Moved sys .claim { sys with
          worker := { sys.worker with queue := rest, slots := sys.worker.slots + 1 }, routine := .processing job .parsing false
          processed := sys.processed ++ [job] }
  | exhausted (draining : sys.routine = .draining) (empty : sys.worker.queue = []) : Moved sys .take { sys with routine := .done }
  | taken {job : UsageObservationJob} {rest : List UsageObservationJob} (draining : sys.routine = .draining)
      (queued : sys.worker.queue = job :: rest) : Moved sys .take { sys.received rest with routine := .releasing job }
  | released {job : UsageObservationJob} (releasing : sys.routine = .releasing job) :
      Moved sys .release { sys.freed with routine := .processing job .parsing true, processed := sys.processed ++ [job] }
  | parsed {job : UsageObservationJob} {drains : Bool} (out verdict) (parsing : sys.routine = .processing job .parsing drains) :
      Moved sys (.parse out) { sys with routine := .processing job (.gating verdict) drains }
  | failed {move : Move} {job : UsageObservationJob} {prog : Progress} {drains : Bool}
      (processing : sys.routine = .processing job prog drains) (unbegun : prog.isBegun = false) : Moved sys move (sys.invalidate job drains)
  | began {job : UsageObservationJob} {verdict : Verdict} {drains : Bool} (gating : sys.routine = .processing job (.gating verdict) drains)
      (idle : sys.phase = .idle) : Moved sys .begin
        { sys with phase := .adjusting, begun := sys.begun ++ [job], routine := .processing job (.token verdict) drains }
  | settledToken {job : UsageObservationJob} {verdict : Verdict} {drains : Bool} (settling : sys.routine = .processing job (.token verdict) drains) :
      Moved sys .settleToken { sys.settle job.tokens verdict.token with routine := .processing job (.budget verdict) drains }
  | settledBudget {job : UsageObservationJob} {verdict : Verdict} {drains : Bool}
      (settling : sys.routine = .processing job (.budget verdict) drains) :
      Moved sys .settleBudget { sys.settle job.budgets verdict.budget with routine := .processing job .finishing drains }
  | finished {job : UsageObservationJob} {drains : Bool} (finishing : sys.routine = .processing job .finishing drains) :
      Moved sys .finish { sys.finishAdjust with routine := ObservationSystem.back drains }
  | closing (drains) : Moved sys (.close drains) { sys with closers := sys.closers ++ [⟨drains, if drains then .flagging else .bounding⟩] }
  | flagged {call : Nat} {closer : Closer} (expired) (has : sys.closers[call]? = some closer) (stage : closer.stage = .flagging) :
      Moved sys (.advance call expired) ({ sys with drain := true }.advanceTo call closer .bounding)
  | bounded {call : Nat} {closer : Closer} (expired) (has : sys.closers[call]? = some closer) (stage : closer.stage = .bounding) :
      Moved sys (.advance call expired) (sys.bounded call closer)
  | stopped {call : Nat} {closer : Closer} (expired) (has : sys.closers[call]? = some closer) (stage : closer.stage = .stopping) :
      Moved sys (.advance call expired) ({ sys with stopped := true }.advanceTo call closer .waiting)
  | waited {call : Nat} {closer : Closer} {later : Closing} (expired) (has : sys.closers[call]? = some closer)
      (stage : closer.stage = .waiting) (either : later = .expiring ∨ later = .returned false) :
      Moved sys (.advance call expired) (sys.advanceTo call closer later)
  | expired {call : Nat} {closer : Closer} (expired) (has : sys.closers[call]? = some closer) (stage : closer.stage = .expiring) :
      Moved sys (.advance call expired) ((sys.expire .idle).advanceTo call closer .between)
  | tried {call : Nat} {closer : Closer} (expired) (has : sys.closers[call]? = some closer) (stage : closer.stage = .between) :
      Moved sys (.advance call expired) ((sys.expire .adjusting).advanceTo call closer (if closer.drains then .discarding else .returned true))
  | discarded {call : Nat} {closer : Closer} (expired) (has : sys.closers[call]? = some closer) (stage : closer.stage = .discarding) :
      Moved sys (.advance call expired) (sys.advanceTo call closer (.emptying none))
  | emptied {call : Nat} {closer : Closer} (expired) (has : sys.closers[call]? = some closer) (stage : closer.stage = .emptying none)
      (empty : sys.worker.queue = []) : Moved sys (.advance call expired) (sys.advanceTo call closer closer.emptied)
  | emptying {call : Nat} {closer : Closer} {job : UsageObservationJob} {rest : List UsageObservationJob} (expired)
      (has : sys.closers[call]? = some closer) (stage : closer.stage = .emptying none) (queued : sys.worker.queue = job :: rest) :
      Moved sys (.advance call expired) ((sys.received rest).advanceTo call closer (.emptying (some job)))
  | emptiedOff {call : Nat} {closer : Closer} {job : UsageObservationJob} (expired) (has : sys.closers[call]? = some closer)
      (stage : closer.stage = .emptying (some job)) :
      Moved sys (.advance call expired) ((sys.freed.drop [job]).advanceTo call closer (.emptying none))

open ObservationSystem (advance beginAdjust claim submitMove)

section Inversion

variable {sys next : ObservationSystem} {move : Move}

inductive DiscardOutcome (sys : ObservationSystem) :
    Option UsageObservationJob → ObservationSystem → Option (Option UsageObservationJob) → Prop where
  | ended (empty : sys.worker.queue = []) : DiscardOutcome sys none sys none
  | received {job : UsageObservationJob} {rest : List UsageObservationJob} (queued : sys.worker.queue = job :: rest) :
      DiscardOutcome sys none (sys.received rest) (some (some job))
  | dropped (job) : DiscardOutcome sys (some job) (sys.freed.drop [job]) (some none)

theorem released_eq (did : sys.releaseSlot = some next) : next = sys.freed := by
  obtain ⟨_, freed, rfl⟩ := Option.map_eq_some_iff.mp did
  obtain ⟨_, rfl⟩ := release_slot_eq freed
  rfl

theorem discard_outcome {hand : Option UsageObservationJob} {later : Option (Option UsageObservationJob)}
    (did : sys.discardQueuedLocked hand = some (next, later)) : DiscardOutcome sys hand next later := by
  cases hand with
  | none =>
    simp only [ObservationSystem.discardQueuedLocked] at did
    split at did <;> cases did
    · rename_i empty
      exact .ended empty
    · rename_i queued
      exact .received queued
  | some job =>
    obtain ⟨_, freed, ⟨⟩⟩ := Option.map_eq_some_iff.mp did
    rw [released_eq freed]
    exact .dropped job

theorem claim_moved (looping : sys.routine = .looping) (did : sys.claim = some next) : Moved sys .claim next := by
  unfold claim at did
  split at did
  · rename_i denied
    cases did
    exact .wound (.inr ⟨looping, by simpa using denied⟩)
  rename_i accepting
  split at did
  · rename_i empty
    cases did
    exact .paused looping empty
  · rename_i job rest queued
    obtain ⟨_, freed, rfl⟩ := Option.map_eq_some_iff.mp did
    obtain ⟨_, rfl⟩ := release_slot_eq freed
    exact .claimed looping (by simpa using accepting) queued

theorem advance_moved {call : Nat} {closer : Closer} {expired : Bool} (has : sys.closers[call]? = some closer)
    (did : sys.advance call closer expired = some next) : Moved sys (.advance call expired) next := by
  unfold advance at did
  split at did
  · rename_i stage
    cases did
    exact .flagged _ has stage
  · rename_i stage
    split at did <;> cases did
    exact .bounded _ has stage
  · rename_i stage
    cases did
    exact .stopped _ has stage
  · rename_i stage
    split at did
    · cases did
      exact .waited _ has stage (.inl rfl)
    · split at did <;> cases did
      exact .waited _ has stage (.inr rfl)
  · rename_i stage
    cases did
    exact .expired _ has stage
  · rename_i stage
    cases did
    exact .tried _ has stage
  · rename_i stage
    split at did <;> cases did
    exact .discarded _ has stage
  · rename_i hand stage
    obtain ⟨⟨_, _⟩, discarded, rfl⟩ := Option.map_eq_some_iff.mp did
    cases discard_outcome discarded with
    | ended empty => exact .emptied _ has stage empty
    | received queued => exact .emptying _ has stage queued
    | dropped => exact .emptiedOff _ has stage
  · cases did

theorem move_moved (did : sys.move move = some next) : Moved sys move next := by
  cases move with
  | hand job =>
    cases did
    exact .handed job
  | submit call =>
    simp only [ObservationSystem.move, submitMove] at did
    split at did
    · rename_i job sub has
      split at did
      · cases did
      obtain ⟨⟨_, _⟩, sent, rfl⟩ := Option.map_eq_some_iff.mp did
      exact .submitted has (submit_outcome sent)
    · cases did
  | stop =>
    simp only [ObservationSystem.move] at did
    split at did <;> cases did
    rename_i ready
    exact .wound (.inl ⟨ready.1, ready.2.1⟩)
  | wake =>
    simp only [ObservationSystem.move] at did
    split at did <;> cases did
    rename_i ready
    exact .woken ready.1 ready.2
  | claim =>
    simp only [ObservationSystem.move] at did
    split at did
    · rename_i looping
      exact claim_moved looping.1 did
    · cases did
  | discard =>
    simp only [ObservationSystem.move, ObservationSystem.discard] at did
    split at did
    · rename_i hand wiping
      obtain ⟨⟨_, _⟩, discarded, rfl⟩ := Option.map_eq_some_iff.mp did
      cases discard_outcome discarded with
      | ended empty => exact .wiped wiping empty
      | received queued => exact .wiping wiping queued
      | dropped => exact .wipedOff wiping
    · cases did
  | take =>
    simp only [ObservationSystem.move, ObservationSystem.take] at did
    split at did <;> cases did
    rename_i draining
    split
    · rename_i empty
      exact .exhausted draining empty
    · rename_i job rest queued
      exact .taken draining queued
  | release =>
    simp only [ObservationSystem.move] at did
    split at did
    · rename_i job releasing
      obtain ⟨_, freed, rfl⟩ := Option.map_eq_some_iff.mp did
      rw [released_eq freed]
      exact .released releasing
    · cases did
  | parse out =>
    simp only [ObservationSystem.move] at did
    split at did <;> cases did
    rename_i job drains parsing
    cases out with
    | none => exact .failed parsing rfl
    | some verdict => exact .parsed _ verdict parsing
  | begin =>
    simp only [ObservationSystem.move, beginAdjust] at did
    split at did <;> cases did
    rename_i job verdict drains gating
    split
    · rename_i idle
      exact .began gating idle
    · exact .failed gating rfl
  | settleToken =>
    simp only [ObservationSystem.move] at did
    split at did <;> cases did
    rename_i settling
    exact .settledToken settling
  | settleBudget =>
    simp only [ObservationSystem.move] at did
    split at did <;> cases did
    rename_i settling
    exact .settledBudget settling
  | finish =>
    simp only [ObservationSystem.move] at did
    split at did <;> cases did
    rename_i finishing
    exact .finished finishing
  | close drains =>
    cases did
    exact .closing drains
  | advance =>
    obtain ⟨_, has, ahead⟩ := Option.bind_eq_some_iff.mp did
    exact advance_moved has ahead

end Inversion

end NineGateway.Observation
