import NineGateway.Lifecycle.System
import NineGateway.Proxy.Response

set_option autoImplicit false

namespace NineGateway.Proxy

open Trace (Text RequestTraceState TerminalMetadata TerminalOutcome SafeErrorCode CompletionRecord ClockReading)
open Completion (CompletionOwnership Emission)
open Lifecycle (LeaseOutcome LeaseAdjustmentTickets)
open Observation (UsageObservationWorker UsageObservationJob Submission)

-- What the middleware keeps for one request. The records that reached the
-- completion log and the request history are kept.
structure Exchange where
  trace : Option RequestTraceState
  terminal : TerminalMetadata
  completion : Option CompletionOwnership
  emitted : List CompletionRecord

def setTerminalMetadata (current fresh : TerminalMetadata) : TerminalMetadata :=
  if current.outcome ≠ .unknown ∧ ¬(fresh.outcome = .cancelled ∧ current.upstreamStarted = true) then current else fresh

namespace Exchange

def tell (exchange : Exchange) (call : Trace.Call) : Exchange := { exchange with trace := exchange.trace.map (fun trace => trace.apply call) }

def setTerminal (exchange : Exchange) (outcome : TerminalOutcome) (upstreamStarted : Bool) : Exchange :=
  tell { exchange with terminal := setTerminalMetadata exchange.terminal ⟨outcome, upstreamStarted⟩ }
    (if outcome = .cancelled then .setCancellation else .setTerminalOutcome outcome)

def streamCloseDelay (ownership : CompletionOwnership) (trace : RequestTraceState) : Trace.DurationMicros :=
  if ownership.timingInvalid then none
  else
    match ownership.lastMeaningful with
    | none => none
    | some last => Trace.durationMicros last trace.finishedMono

def emitTrace (trace : RequestTraceState) (ownership : CompletionOwnership) (emission : Emission) (clock : ClockReading) :
    RequestTraceState × Option CompletionRecord :=
  let used := if Trace.Usage.anyKnown emission.usage then trace.apply (.setUsage emission.usage) else trace
  let priced := if emission.cost.isKnown then used.apply (.setCost emission.cost) else used
  (priced.apply (.setTimingEnrichment (streamCloseDelay ownership trace))).final clock

-- A record that fails its validation reaches neither the log nor the history.
def emit (exchange : Exchange) (ownership : CompletionOwnership) (emission : Emission) (clock : ClockReading) : Exchange :=
  match exchange.trace with
  | none => exchange
  | some trace =>
    let final := emitTrace trace ownership emission clock
    { exchange with trace := some final.1, emitted := exchange.emitted ++ final.2.toList }

def resolve (exchange : Exchange) (outcome : CompletionOwnership × Option Emission) (clock : ClockReading) : Exchange :=
  let settled := { exchange with completion := some outcome.1 }
  match outcome.2 with
  | none => settled
  | some emission => settled.emit outcome.1 emission clock

def finishWithTiming (exchange : Exchange) (usage : Usage) (cost : Money) (lastMeaningful : Option Int) (clock : ClockReading) : Exchange :=
  match exchange.completion with
  | none => exchange
  | some ownership => exchange.resolve (ownership.finishWithTiming usage cost lastMeaningful) clock

def finish (exchange : Exchange) (usage : Usage) (cost : Money) (clock : ClockReading) : Exchange := exchange.finishWithTiming usage cost none clock

def complete (exchange : Exchange) (clock : ClockReading) : Exchange :=
  match exchange.completion with
  | none => exchange
  | some ownership => exchange.resolve ownership.complete clock

end Exchange

inductive DispatchError where
  | cancelled
  | decodedRepresentationTooLarge
  | compressedWireTooLarge
  | unsupportedResponse
  | other
deriving DecidableEq, Repr

def dispatchErrorCode : DispatchError → SafeErrorCode
  | .unsupportedResponse => .unsupportedResponse
  | _ => .conversion

-- Why client.Do gave no response that can be used. The body may be found too
-- large by the transport or by the proxy's own check after the call.
inductive UpstreamFailure where
  | bodyTooLarge
  | cancelled
  | timeout
  | connection
  | uploadExceeded
  | missing
deriving DecidableEq, Repr

def UpstreamFailure.outcome : UpstreamFailure → TerminalOutcome
  | bodyTooLarge => .preUpstream
  | cancelled => .cancelled
  | timeout => .upstreamError
  | connection => .upstreamError
  | uploadExceeded => .preUpstream
  | missing => .upstreamError

def UpstreamFailure.code : UpstreamFailure → SafeErrorCode
  | bodyTooLarge => .invalidRequest
  | cancelled => .cancellation
  | timeout => .upstreamTimeout
  | connection => .upstreamConnection
  | uploadExceeded => .invalidRequest
  | missing => .upstreamConnection

inductive Return where
  | dispatched (failure : DispatchError)
  | draining
  | handing
  | enriching
  | concluding
deriving DecidableEq, Repr

-- Up to dispatched the handler runs its body, from unwinding on its deferred
-- block, and from completing on the middleware around it.
inductive Stage where
  | inspecting
  | planning
  | acquiring
  | building
  | awaiting
  | dispatching
  | forwarding
  | converting
  | draining
  | delivering
  | dispatched (failure : Option DispatchError)
  | calling (outcome : LeaseOutcome) (back : Return)
  | waiting (caller : Nat) (back : Return)
  | unwinding
  | handing (tickets : LeaseAdjustmentTickets)
  | submitting (job : UsageObservationJob) (submission : Submission)
  | invalidating (job : UsageObservationJob)
  | enriching
  | concluding
  | completing
  | closing
  | returned
deriving DecidableEq, Repr

def Return.stage (result : Lifecycle.LeaseResult) : Return → Stage
  | dispatched failure => .dispatched (some failure)
  | draining => .draining
  | handing => .handing result.tickets
  | enriching => .enriching
  | concluding => .concluding

structure Handler where
  request : Request
  metadata : Option RequestMetadata
  inspection : Option Nat
  admission : Option Nat
  tokenAdmission : Bool
  budgetAdmission : Bool
  upstreamStarted : Bool
  response : Option UpstreamResponse
  observation : Option ResponseObservation
  panicking : Bool
  stage : Stage

-- The base URL of the upstream is there unless it could not be parsed.
structure Config where
  baseURL : Bool
  strings : Strings
  responseDispatch : Bool
  maxObservedResponseBytes : Int

inductive Write where
  | status (status : Int)
  | bytes (written : Int) (successful countZero : Bool) (clock : ClockReading)
  | errorCode (code : SafeErrorCode)
deriving DecidableEq

def Write.call : Write → Trace.Call
  | .status value => .setDownstreamStatus value
  | .bytes written successful countZero clock => .recordDownstreamWrite written successful countZero clock
  | .errorCode code => .setErrorCode code

-- What the client, the upstream, the policy checks and the clock answer to the
-- handler. A step of its own needs no answer but the clock's.
inductive Event where
  | misconfigured
  | refuse (code : SafeErrorCode)
  | inspect (keyID : String) (maximum : Int)
  | describe (metadata : Option RequestMetadata)
  | bypass
  | acquire (options : Resource.ResourceLeaseOptions) (tokenAdmission budgetAdmission : Bool)
  | proceed
  | start (clock : ClockReading)
  | fail (failure : UpstreamFailure)
  | respond (response : UpstreamResponse) (clock : ClockReading)
  | callback
  | record (written : List UInt8)
  | convertFailed (failure : DispatchError)
  | aggregated (usage : Usage) (cost : Money) (observed : Bool) (lastMeaningful : Option Int) (clock : ClockReading)
  | drained (failure : Option DispatchError)
  | dispatch (failure : Option DispatchError)
  | conclude (requestDone deadline : Bool)
  | write (write : Write)
  | crash
  | run (clock : ClockReading)
deriving DecidableEq

structure Scene where
  lifecycle : Lifecycle.System
  worker : Option UsageObservationWorker
  handler : Handler
  exchange : Exchange

abbrev Made := Option (Lifecycle.Call × Lifecycle.Reply)

namespace Scene

def enter (scene : Scene) (stage : Stage) : Scene := { scene with handler := { scene.handler with stage := stage } }

def tell (scene : Scene) (call : Trace.Call) : Scene := { scene with exchange := scene.exchange.tell call }

def setTerminal (scene : Scene) (outcome : TerminalOutcome) : Scene :=
  { scene with exchange := scene.exchange.setTerminal outcome scene.handler.upstreamStarted }

def fail (scene : Scene) (outcome : TerminalOutcome) (code : SafeErrorCode) : Scene :=
  ((scene.setTerminal outcome).tell (.setErrorCode code)).enter .unwinding

def alone (scene : Scene) : Option (Scene × Made) := some (scene, none)

def ask (scene : Scene) (call : Lifecycle.Call) (continued : Scene → Lifecycle.Reply → Option Scene) : Option (Scene × Made) :=
  match Lifecycle.step scene.lifecycle call with
  | none => none
  | some (lifecycle, reply) => (continued { scene with lifecycle := lifecycle } reply).map (fun next => (next, some (call, reply)))

-- The body before admission.

-- Without a base URL only the middleware's own state learns the outcome.
def giveUp (scene : Scene) : Scene :=
  let told := { scene with exchange := { scene.exchange with terminal := setTerminalMetadata scene.exchange.terminal ⟨.preUpstream, false⟩ } }
  (told.tell (.setErrorCode .internal)).enter .concluding

def misconfigured (config : Config) (scene : Scene) : Option (Scene × Made) :=
  match scene.handler.stage, scene.handler.inspection with
  | .inspecting, none => if config.baseURL then none else alone scene.giveUp
  | _, _ => none

-- Before the upstream call starts every refusal is a pre-upstream outcome.
def refuse (config : Config) (scene : Scene) (code : SafeErrorCode) : Option (Scene × Made) :=
  match scene.handler.stage with
  | .inspecting => if config.baseURL then alone (scene.fail .preUpstream code) else none
  | .planning | .building => alone (scene.fail .preUpstream code)
  | _ => none

def inspecting (scene : Scene) : Lifecycle.Reply → Scene
  | .resources (.slot slot) => { scene with handler := { scene.handler with inspection := some slot } }
  | _ => scene.fail .preUpstream .concurrencyLimit

def inspect (config : Config) (scene : Scene) (keyID : String) (maximum : Int) : Option (Scene × Made) :=
  match scene.handler.stage, scene.handler.inspection with
  | .inspecting, none =>
    if config.baseURL && scene.handler.request.principal.isSome && scene.handler.request.inspectable then
      scene.ask (.resources (.acquireSlot keyID maximum)) (fun moved reply => some (moved.inspecting reply))
    else none
  | _, _ => none

def tracedModel (metadata : Option RequestMetadata) : Text :=
  match metadata with
  | none => .empty
  | some read => if Trace.validBoundedText read.model 512 then read.model else .empty

def describing (request : Request) (metadata : Option RequestMetadata) : Trace.Call :=
  .setRequestMetadataPath request.method (boundedEscapedPath request) (classifyRoute request.method request.path) (tracedModel metadata)
    (requestedMode metadata)

def described (scene : Scene) (metadata : Option RequestMetadata) : Scene :=
  let read := { scene with handler := { scene.handler with metadata := metadata } }
  (read.tell (describing scene.handler.request metadata)).enter .planning

def describe (config : Config) (scene : Scene) (metadata : Option RequestMetadata) : Option (Scene × Made) :=
  match scene.handler.stage with
  | .inspecting =>
    if config.baseURL = true ∧ (metadata = none ∨ scene.handler.request.inspectable = true) then alone (scene.described metadata) else none
  | _ => none

def bypass (scene : Scene) : Option (Scene × Made) :=
  match scene.handler.stage, scene.handler.request.principal with
  | .planning, none => alone (scene.enter .building)
  | _, _ => none

def admissionCode (rejection : Resource.AdmissionError) : SafeErrorCode :=
  match rejection.resource with
  | .concurrency => .concurrencyLimit
  | .tokens => .tokenLimit
  | .budget => if rejection.invalid then .internal else .budgetLimit

def acquiring (inspection : Option Nat) (options : Resource.ResourceLeaseOptions) : Resource.Call :=
  match inspection with
  | some slot => .acquireWithProvisional slot options
  | none => .acquire options

def planned (scene : Scene) (tokenAdmission budgetAdmission : Bool) (admission : Option Nat) : Scene :=
  { scene with
    handler :=
      { scene.handler with
        inspection := none, tokenAdmission := tokenAdmission, budgetAdmission := budgetAdmission, admission := admission } }

def acquire (scene : Scene) (options : Resource.ResourceLeaseOptions) (tokenAdmission budgetAdmission : Bool) : Option (Scene × Made) :=
  match scene.handler.stage, scene.handler.request.principal with
  | .planning, some _ =>
    scene.ask (.resources (acquiring scene.handler.inspection options)) (fun moved reply =>
      match reply with
      | .resources (.started admission) => some ((moved.planned tokenAdmission budgetAdmission (some admission)).enter .acquiring)
      | .resources (.refused failure) =>
        some ((moved.planned tokenAdmission budgetAdmission none).fail .preUpstream (admissionCode failure))
      | _ => none)
  | _, _ => none

def disowned (scene : Scene) : Scene := { scene with handler := { scene.handler with admission := none } }

def proceed (scene : Scene) : Option (Scene × Made) :=
  match scene.handler.stage, scene.handler.admission with
  | .acquiring, some index =>
    match (scene.lifecycle.resources.admissions[index]?).map Resource.Admission.phase with
    | some (.admitted _) => alone (scene.enter .building)
    | some (.rejected failure) => alone (scene.disowned.fail .preUpstream (admissionCode failure))
    | _ => none
  | _, _ => none

-- The upstream call and its response.

def started (scene : Scene) (clock : ClockReading) : Scene :=
  let begun := { scene with handler := { scene.handler with upstreamStarted := true } }
  (begun.tell (.setUpstreamStart clock)).enter .awaiting

def start (scene : Scene) (clock : ClockReading) : Option (Scene × Made) :=
  match scene.handler.stage with
  | .building => alone (scene.started clock)
  | _ => none

def failUpstream (scene : Scene) (failure : UpstreamFailure) : Option (Scene × Made) :=
  match scene.handler.stage with
  | .awaiting => alone (scene.fail failure.outcome failure.code)
  | _ => none

def observe (config : Config) (handler : Handler) (completion : Option CompletionOwnership) (response : UpstreamResponse) :
    Option ResponseObservation :=
  let mode := responseMode config.strings response
  if (handler.tokenAdmission || handler.budgetAdmission || completion.isSome) = true ∧ (mode = .json ∨ mode = .sse) then
    (responseObservationCoding config.strings response.contentEncodings).map (newResponseObservation config.maxObservedResponseBytes)
  else none

def classified (config : Config) (scene : Scene) (response : UpstreamResponse) (clock : ClockReading) : Scene :=
  let actual := classifyActualResponseHeader config.strings response.contentTypes
  let headed := tell { scene with handler := { scene.handler with response := some response } } (.setUpstreamHeaders response.status clock)
  if actual = .unknown then headed else headed.tell (.setUpstreamResponseMode actual)

def selected (config : Config) (scene : Scene) (response : UpstreamResponse) : Scene :=
  let told := scene.tell (.setDeliveredMode (deliveredMode config.strings scene.handler.request scene.handler.metadata response))
  let observed := { told with handler := { told.handler with observation := observe config scene.handler scene.exchange.completion response } }
  observed.enter
    (if shouldAggregateSSE scene.handler.request scene.handler.metadata (responseMode config.strings response) then .converting else .forwarding)

def respond (config : Config) (scene : Scene) (response : UpstreamResponse) (clock : ClockReading) : Option (Scene × Made) :=
  match scene.handler.stage with
  | .awaiting =>
    if config.responseDispatch then alone (((scene.classified config response clock).setTerminal .customDispatch).enter .dispatching)
    else alone ((scene.classified config response clock).selected config response)
  | _ => none

def callback (scene : Scene) : Option (Scene × Made) :=
  match scene.handler.stage with
  | .dispatching => alone (scene.enter .unwinding)
  | _ => none

def observed (scene : Scene) (change : ResponseObservation → ResponseObservation) : Scene :=
  { scene with handler := { scene.handler with observation := scene.handler.observation.map change } }

def record (scene : Scene) (written : List UInt8) : Option (Scene × Made) :=
  match scene.handler.stage with
  | .forwarding => alone (scene.observed (fun observation => observation.record written))
  | _ => none

def settleLease (scene : Scene) (outcome : LeaseOutcome) (back : Return) (without : Stage) : Scene :=
  scene.enter (if scene.handler.admission.isSome then .calling outcome back else without)

def convertFailed (scene : Scene) (failure : DispatchError) : Option (Scene × Made) :=
  match scene.handler.stage with
  | .converting =>
    alone ((scene.tell (.setErrorCode (dispatchErrorCode failure))).settleLease .conservative (.dispatched failure) (.dispatched (some failure)))
  | _ => none

def convertedOutcome (usage : Usage) (cost : Money) (observed : Bool) : LeaseOutcome :=
  match observed, usage.total with
  | true, some total => .known total true cost
  | _, _ => .conservative

def canonical (scene : Scene) (usage : Usage) (cost : Money) (lastMeaningful : Option Int) (clock : ClockReading) : Scene :=
  match scene.handler.observation with
  | none => scene
  | some _ =>
    { scene.observed (fun observation => observation.setCanonical usage cost) with
      exchange := scene.exchange.finishWithTiming usage cost lastMeaningful clock }

def aggregated (scene : Scene) (usage : Usage) (cost : Money) (observed : Bool) (lastMeaningful : Option Int) (clock : ClockReading) :
    Option (Scene × Made) :=
  match scene.handler.stage with
  | .converting => alone ((scene.canonical usage cost lastMeaningful clock).settleLease (convertedOutcome usage cost observed) .draining .draining)
  | _ => none

def drained (scene : Scene) (failure : Option DispatchError) : Option (Scene × Made) :=
  match scene.handler.stage, failure with
  | .draining, none => alone (scene.enter .delivering)
  | .draining, some failure =>
    let told := scene.tell (.setErrorCode (dispatchErrorCode failure))
    if failure = .compressedWireTooLarge then alone (told.settleLease .conservative (.dispatched failure) (.dispatched (some failure)))
    else alone (told.enter (.dispatched (some failure)))
  | _, _ => none

def dispatch (scene : Scene) (failure : Option DispatchError) : Option (Scene × Made) :=
  match scene.handler.stage with
  | .forwarding | .delivering => alone (scene.enter (.dispatched failure))
  | _ => none

def errorCode (scene : Scene) : SafeErrorCode :=
  match scene.exchange.trace with
  | none => .unknown
  | some trace => trace.input.errorCode

def judge (scene : Scene) (failure : Option DispatchError) (requestDone deadline : Bool) : Scene :=
  if requestDone then scene.setTerminal .cancelled
  else if deadline then (scene.tell (.setErrorCode .upstreamTimeout)).setTerminal .upstreamError
  else
    match failure with
    | some .cancelled => scene.setTerminal .cancelled
    | some failure =>
      let coded :=
        if scene.errorCode = .unknown then
          scene.tell (.setErrorCode
            (if failure = .decodedRepresentationTooLarge ∨ failure = .compressedWireTooLarge then .conversion else .responseTransport))
        else scene
      coded.setTerminal .responseError
    | none => scene.setTerminal (if 400 ≤ (scene.handler.response.map UpstreamResponse.status).getD 0 then .upstreamError else .complete)

def conclude (scene : Scene) (requestDone deadline : Bool) : Option (Scene × Made) :=
  match scene.handler.stage with
  | .dispatched failure =>
    alone (((scene.observed (fun observation => observation.finish failure.isSome)).judge failure requestDone deadline).enter .unwinding)
  | _ => none

-- The stages in which the handler runs code that is not the limiters' or the
-- worker's.
def exposed : Stage → Bool
  | .inspecting | .planning | .building | .awaiting | .dispatching | .forwarding | .converting | .draining | .delivering => true
  | _ => false

def crashed (scene : Scene) : Scene := enter { scene with handler := { scene.handler with panicking := true } } .unwinding

def crash (scene : Scene) : Option (Scene × Made) := if exposed scene.handler.stage then alone scene.crashed else none

def written (scene : Scene) (write : Write) : Option (Scene × Made) :=
  if scene.handler.stage = .returned then none else alone (scene.tell write.call)

-- The deferred block.

def call (scene : Scene) (outcome : LeaseOutcome) (back : Return) : Option (Scene × Made) :=
  match scene.handler.admission with
  | none => none
  | some admission =>
    scene.ask (.terminate admission outcome) (fun moved reply =>
      match reply with
      | .entered caller => some (moved.enter (.waiting caller back))
      | _ => none)

def wait (scene : Scene) (caller : Nat) (back : Return) : Option (Scene × Made) :=
  scene.ask (.answer caller) (fun moved reply =>
    match reply with
    | .answered result => some (moved.enter (Return.stage result back))
    | _ => none)

def transfer (scene : Scene) : Option Scene :=
  match scene.exchange.completion with
  | none => none
  | some ownership =>
    ownership.transfer.map (fun taken => { scene with exchange := { scene.exchange with completion := some taken } })

def completionJob (index : Nat) (observation : ResponseObservation) : UsageObservationJob :=
  { Observation.newUsageObservationJobOwned observation.bytes observation.coding none with completion := some index }

def settleObserved (scene : Scene) (index : Nat) (observation : ResponseObservation) (clock : ClockReading) : Scene :=
  if observation.eligible then
    match scene.exchange.completion, observation.canonical with
    | some _, some (usage, cost) => { scene with exchange := scene.exchange.finish usage cost clock }.enter .concluding
    | completion, _ =>
      match scene.handler.admission with
      | some _ => scene.enter (if scene.worker.isSome then .calling .deferred .handing else .calling .conservative .concluding)
      | none =>
        if completion.isNone then scene.enter .concluding
        else if scene.worker.isNone then scene.enter .enriching
        else
          match scene.transfer with
          | none => scene.enter .enriching
          | some moved => moved.enter (.submitting (completionJob index observation) .checking)
  else scene.settleLease .conservative .enriching .enriching

def settle (scene : Scene) (index : Nat) (clock : ClockReading) : Scene :=
  match scene.handler.upstreamStarted, scene.handler.observation with
  | false, _ => scene.settleLease .release .concluding .concluding
  | true, none => scene.settleLease .conservative .concluding .concluding
  | true, some observation => scene.settleObserved index observation clock

def uninspected (scene : Scene) : Scene := { scene with handler := { scene.handler with inspection := none } }

def unwind (scene : Scene) (index : Nat) (clock : ClockReading) : Option (Scene × Made) :=
  match scene.handler.inspection with
  | some slot => scene.ask (.resources (.release slot)) (fun moved _ => some moved.uninspected)
  | none => alone (scene.settle index clock)

def handedJob (index : Nat) (observation : Option ResponseObservation) (tickets : LeaseAdjustmentTickets) (completed : Bool) : UsageObservationJob :=
  { Observation.newUsageObservationJobOwned ((observation.map ResponseObservation.bytes).getD [])
      ((observation.map ResponseObservation.coding).getD Observation.contentCodingIdentity) tickets.token with
    budgetTicket := tickets.budget, completion := if completed then some index else none }

def hand (scene : Scene) (index : Nat) (tickets : LeaseAdjustmentTickets) : Scene :=
  if scene.exchange.completion.isNone then
    if tickets.token = none ∧ tickets.budget = none then scene.enter .concluding
    else scene.enter (.submitting (handedJob index scene.handler.observation tickets false) .checking)
  else
    match scene.transfer with
    | none => scene.enter (.invalidating (handedJob index scene.handler.observation tickets false))
    | some moved => moved.enter (.submitting (handedJob index scene.handler.observation tickets true) .checking)

def submittedStage (job : UsageObservationJob) : Observation.Submitted → Stage
  | .pending submission => .submitting job submission
  | .accepted => .concluding
  | .dropped => .invalidating job

def submit (scene : Scene) (job : UsageObservationJob) (submission : Submission) : Option (Scene × Made) :=
  match scene.worker with
  | none => alone (scene.enter (.invalidating job))
  | some worker =>
    (Observation.submit worker job submission).map (fun moved =>
      (enter { scene with worker := some moved.1 } (submittedStage job moved.2), none))

def unenriched (scene : Scene) (clock : ClockReading) : Scene := { scene with exchange := scene.exchange.finish unknownUsage .unknown clock }

-- invalidateObservationJob, after which a call without a lease finishes the
-- completion once more.
def invalidate (scene : Scene) (job : UsageObservationJob) (clock : ClockReading) : Option (Scene × Made) :=
  match job.ticket, job.budgetTicket with
  | some ticket, _ =>
    scene.ask (.resources (.tokenCall (.invalidate ticket))) (fun moved _ => some (moved.enter (.invalidating { job with ticket := none })))
  | none, some ticket =>
    scene.ask (.resources (.budgetCall (.invalidate ticket))) (fun moved _ => some (moved.enter (.invalidating { job with budgetTicket := none })))
  | none, none =>
    let finished := if job.completion.isSome then scene.unenriched clock else scene
    alone (finished.enter (if scene.handler.admission.isSome then .concluding else .enriching))

def finishBlock (scene : Scene) : Scene :=
  let settled := if scene.exchange.terminal.outcome = .unknown then
      scene.setTerminal (if scene.handler.upstreamStarted then .complete else .preUpstream) else scene
  settled.enter (if scene.handler.panicking then .returned else .completing)

def completeRequest (scene : Scene) (clock : ClockReading) : Scene :=
  let told := scene.tell (.setTerminalMetadata scene.exchange.terminal)
  enter { told with exchange := told.exchange.complete clock } .closing

def run (scene : Scene) (index : Nat) (clock : ClockReading) : Option (Scene × Made) :=
  match scene.handler.stage with
  | .calling outcome back => scene.call outcome back
  | .waiting caller back => scene.wait caller back
  | .unwinding => scene.unwind index clock
  | .handing tickets => alone (scene.hand index tickets)
  | .submitting job submission => scene.submit job submission
  | .invalidating job => scene.invalidate job clock
  | .enriching => alone ((scene.unenriched clock).enter .concluding)
  | .concluding => alone scene.finishBlock
  | .completing => alone (scene.completeRequest clock)
  | .closing => alone ((scene.tell (.freezeBase clock)).enter .returned)
  | _ => none

def advance (config : Config) (index : Nat) (scene : Scene) : Event → Option (Scene × Made)
  | .misconfigured => scene.misconfigured config
  | .refuse code => scene.refuse config code
  | .inspect keyID maximum => scene.inspect config keyID maximum
  | .describe metadata => scene.describe config metadata
  | .bypass => scene.bypass
  | .acquire options tokenAdmission budgetAdmission => scene.acquire options tokenAdmission budgetAdmission
  | .proceed => scene.proceed
  | .start clock => scene.start clock
  | .fail failure => scene.failUpstream failure
  | .respond response clock => scene.respond config response clock
  | .callback => scene.callback
  | .record written => scene.record written
  | .convertFailed failure => scene.convertFailed failure
  | .aggregated usage cost observed lastMeaningful clock => scene.aggregated usage cost observed lastMeaningful clock
  | .drained failure => scene.drained failure
  | .dispatch failure => scene.dispatch failure
  | .conclude requestDone deadline => scene.conclude requestDone deadline
  | .write write => scene.written write
  | .crash => scene.crash
  | .run clock => scene.run index clock

end Scene

end NineGateway.Proxy
