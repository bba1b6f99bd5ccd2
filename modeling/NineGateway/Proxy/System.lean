import NineGateway.Lifecycle.Tickets
import NineGateway.Proxy.Handler

set_option autoImplicit false

namespace NineGateway.Proxy

open Trace (Text RequestTraceState ClockReading SafeErrorCode)
open Completion (CompletionOwnership)
open Observation (UsageObservationWorker UsageObservationJob)

structure System where
  lifecycle : Lifecycle.System
  worker : Option UsageObservationWorker
  handlers : List Handler
  exchanges : List Exchange

-- What the outer middleware does before the handler runs. Without it there is no
-- trace, and a completion comes only with one.
-- The trace learns the principal once the handler has found its base URL.
def newExchange (config : Config) (request : Request) : Option (Text × ClockReading × Bool) → Option Exchange
  | none => some { trace := none, terminal := ⟨.unknown, false⟩, completion := none, emitted := [] }
  | some (id, clock, owned) =>
    (Trace.newRequestTraceState id clock).map (fun trace =>
      let routed := trace.apply (.setRouteMetadata request.method (boundedEscapedPath request) (classifyRoute request.method request.path))
      { trace := some (match request.principal with
          | none => routed
          | some (keyID, keyName) => if config.baseURL then routed.apply (.setAuthentication keyID keyName) else routed)
        terminal := ⟨.unknown, false⟩
        completion := if owned then some Completion.newCompletionOwnership else none
        emitted := [] })

def newHandler (request : Request) : Handler :=
  { request := request, metadata := none, inspection := none, admission := none, tokenAdmission := false, budgetAdmission := false
    upstreamStarted := false, response := none, observation := none, panicking := false, stage := .inspecting }

def newSystem (slots : Option Nat) (tokens budgets : Bool) (worker : Option (Int × Int)) : System :=
  { lifecycle := Lifecycle.freshSystem slots tokens budgets
    worker := worker.map (fun options => Observation.newUsageObservationWorker options.1 options.2)
    handlers := [], exchanges := [] }

-- Besides the handlers, others use the limiters, the call that entered a lease
-- first goes on settling it, the worker takes and finishes its jobs, and someone
-- else may complete a request's record.
inductive Call where
  | arrive (request : Request) (context : Option (Text × ClockReading × Bool))
  | handle (index : Nat) (event : Event)
  | resources (call : Resource.Call)
  | settle (admission : Nat) (reading : Int)
  | worker (action : Observation.Act)
  | finish (index : Nat) (usage : Usage) (cost : Money) (lastMeaningful : Option Int) (clock : ClockReading)
  | complete (index : Nat) (clock : ClockReading)

def Accepted (worker : Option UsageObservationWorker) (part : UsageObservationJob → Option Nat) (name : Nat) : Prop :=
  ∃ running job, worker = some running ∧ job ∈ running.submitted ∧ part job = some name

instance (worker : Option UsageObservationWorker) (part : UsageObservationJob → Option Nat) (name : Nat) : Decidable (Accepted worker part name) :=
  match worker with
  | none => isFalse (by rintro ⟨_, _, absent, _⟩; cases absent)
  | some running =>
    decidable_of_iff (∃ job ∈ running.submitted, part job = some name)
      ⟨fun ⟨job, member, same⟩ => ⟨running, job, rfl, member, same⟩, fun ⟨_, job, here, member, same⟩ => ⟨job, Option.some.inj here ▸ member, same⟩⟩

namespace System

def scene (system : System) (index : Nat) : Option Scene :=
  match system.handlers[index]?, system.exchanges[index]? with
  | some handler, some exchange => some ⟨system.lifecycle, system.worker, handler, exchange⟩
  | _, _ => none

def restore (system : System) (index : Nat) (scene : Scene) : System :=
  { lifecycle := scene.lifecycle, worker := scene.worker
    handlers := system.handlers.set index scene.handler, exchanges := system.exchanges.set index scene.exchange }

def ask (system : System) (call : Lifecycle.Call) : Option (System × Made) :=
  (Lifecycle.step system.lifecycle call).map (fun moved => ({ system with lifecycle := moved.1 }, some (call, moved.2)))

end System

def step (config : Config) (system : System) : Call → Option (System × Made)
  | .arrive request context =>
    (newExchange config request context).map (fun exchange =>
      ({ system with handlers := system.handlers ++ [newHandler request], exchanges := system.exchanges ++ [exchange] }, none))
  | .handle index event =>
    match system.scene index with
    | none => none
    | some scene => (scene.advance config index event).map (fun moved => (system.restore index moved.1, moved.2))
  | .resources call => system.ask (.resources call)
  | .settle admission reading => system.ask (.settle admission reading)
  | .worker action =>
    match system.worker with
    | none => none
    | some worker => (Observation.act worker action).map (fun moved => ({ system with worker := some moved }, none))
  | .finish index usage cost lastMeaningful clock =>
    if Accepted system.worker UsageObservationJob.completion index then
      (system.exchanges[index]?).map (fun exchange =>
        ({ system with exchanges := system.exchanges.set index (exchange.finishWithTiming usage cost lastMeaningful clock) }, none))
    else none
  | .complete index clock =>
    (system.exchanges[index]?).map (fun exchange =>
      ({ system with exchanges := system.exchanges.set index (exchange.complete clock) }, none))

def Stage.caller : Stage → Option Nat
  | waiting caller _ => some caller
  | _ => none

namespace Scene

def moved (scene : Scene) (life : Lifecycle.System) : Scene := { scene with lifecycle := life }

inductive Move (cfg : Config) (i : Nat) (scene : Scene) : Event → Scene → Made → Prop where
  | misconfigured (stage : scene.handler.stage = .inspecting) (free : scene.handler.inspection = none) :
      Move cfg i scene .misconfigured scene.giveUp none
  | refused (code) (stage : scene.handler.stage = .inspecting ∨ scene.handler.stage = .planning ∨ scene.handler.stage = .building) :
      Move cfg i scene (.refuse code) (scene.fail .preUpstream code) none
  | inspected (key most life rep) (stage : scene.handler.stage = .inspecting)
      (ran : Lifecycle.step scene.lifecycle (.resources (.acquireSlot key most)) = some (life, rep)) :
      Move cfg i scene (.inspect key most) ((scene.moved life).inspecting rep) (some (.resources (.acquireSlot key most), rep))
  | described (data) (stage : scene.handler.stage = .inspecting) (inspectable : data = none ∨ scene.handler.request.inspectable = true) :
      Move cfg i scene (.describe data) (scene.described data) none
  | bypassed (stage : scene.handler.stage = .planning) : Move cfg i scene .bypass (scene.enter .building) none
  | acquiring (opts tokenAdmission budgetAdmission life adm) (stage : scene.handler.stage = .planning)
      (ran : Lifecycle.step scene.lifecycle (.resources (Scene.acquiring scene.handler.inspection opts)) =
        some (life, .resources (.started adm))) : Move cfg i scene (.acquire opts tokenAdmission budgetAdmission)
        (((scene.moved life).planned tokenAdmission budgetAdmission (some adm)).enter .acquiring)
        (some (.resources (Scene.acquiring scene.handler.inspection opts), .resources (.started adm)))
  | unacquired (opts tokenAdmission budgetAdmission life err) (stage : scene.handler.stage = .planning)
      (ran : Lifecycle.step scene.lifecycle (.resources (Scene.acquiring scene.handler.inspection opts)) =
        some (life, .resources (.refused err))) : Move cfg i scene (.acquire opts tokenAdmission budgetAdmission)
        (((scene.moved life).planned tokenAdmission budgetAdmission none).fail .preUpstream (admissionCode err))
        (some (.resources (Scene.acquiring scene.handler.inspection opts), .resources (.refused err)))
  | admitted (adm lease) (stage : scene.handler.stage = .acquiring)
      (mine : scene.handler.admission = some adm) (granted : Lifecycle.admittedLease scene.lifecycle adm = some lease) :
      Move cfg i scene .proceed (scene.enter .building) none
  | rejected (adm entry err) (stage : scene.handler.stage = .acquiring)
      (mine : scene.handler.admission = some adm) (has : scene.lifecycle.resources.admissions[adm]? = some entry)
      (phase : entry.phase = .rejected err) : Move cfg i scene .proceed (scene.disowned.fail .preUpstream (admissionCode err)) none
  | started (clock) (stage : scene.handler.stage = .building) : Move cfg i scene (.start clock) (scene.started clock) none
  | failed (err) (stage : scene.handler.stage = .awaiting) : Move cfg i scene (.fail err) (scene.fail err.outcome err.code) none
  | customized (resp clock) (stage : scene.handler.stage = .awaiting) (custom : cfg.responseDispatch = true) :
      Move cfg i scene (.respond resp clock) (((scene.classified cfg resp clock).setTerminal .customDispatch).enter .dispatching) none
  | selected (resp clock) (stage : scene.handler.stage = .awaiting) (builtin : cfg.responseDispatch = false) :
      Move cfg i scene (.respond resp clock) ((scene.classified cfg resp clock).selected cfg resp) none
  | calledBack (stage : scene.handler.stage = .dispatching) : Move cfg i scene .callback (scene.enter .unwinding) none
  | recorded (written) (stage : scene.handler.stage = .forwarding) :
      Move cfg i scene (.record written) (scene.observed (fun obs => obs.record written)) none
  | unconverted (err) (stage : scene.handler.stage = .converting) : Move cfg i scene (.convertFailed err)
        ((scene.tell (.setErrorCode (dispatchErrorCode err))).settleLease .conservative (.dispatched err) (.dispatched (some err))) none
  | aggregated (usage cost known lastSeen clock) (stage : scene.handler.stage = .converting) :
      Move cfg i scene (.aggregated usage cost known lastSeen clock)
        ((scene.canonical usage cost lastSeen clock).settleLease (convertedOutcome usage cost known) .draining .draining) none
  | drained (stage : scene.handler.stage = .draining) : Move cfg i scene (.drained none) (scene.enter .delivering) none
  | overflowed (stage : scene.handler.stage = .draining) : Move cfg i scene (.drained (some .compressedWireTooLarge))
        ((scene.tell (.setErrorCode (dispatchErrorCode .compressedWireTooLarge))).settleLease .conservative (.dispatched .compressedWireTooLarge)
          (.dispatched (some .compressedWireTooLarge))) none
  | undrained (err) (stage : scene.handler.stage = .draining) : Move cfg i scene (.drained (some err))
        ((scene.tell (.setErrorCode (dispatchErrorCode err))).enter (.dispatched (some err))) none
  | dispatched (err) (stage : scene.handler.stage = .forwarding ∨ scene.handler.stage = .delivering) :
      Move cfg i scene (.dispatch err) (scene.enter (.dispatched err)) none
  | concluded (err requestDone deadline) (stage : scene.handler.stage = .dispatched err) : Move cfg i scene (.conclude requestDone deadline)
        (((scene.observed (fun obs => obs.finish err.isSome)).judge err requestDone deadline).enter .unwinding) none
  | wrote (write) (running : scene.handler.stage ≠ .returned) : Move cfg i scene (.write write) (scene.tell write.call) none
  | crashed (body : exposed scene.handler.stage = true) : Move cfg i scene .crash scene.crashed none
  | entered (clock out back adm life caller) (stage : scene.handler.stage = .calling out back) (mine : scene.handler.admission = some adm)
      (ran : Lifecycle.step scene.lifecycle (.terminate adm out) = some (life, .entered caller)) :
      Move cfg i scene (.run clock) ((scene.moved life).enter (.waiting caller back)) (some (.terminate adm out, .entered caller))
  | answered (clock caller back life res) (stage : scene.handler.stage = .waiting caller back)
      (ran : Lifecycle.step scene.lifecycle (.answer caller) = some (life, .answered res)) :
      Move cfg i scene (.run clock) ((scene.moved life).enter (back.stage res)) (some (.answer caller, .answered res))
  | released (clock slot life rep) (stage : scene.handler.stage = .unwinding)
      (ran : Lifecycle.step scene.lifecycle (.resources (.release slot)) = some (life, rep)) :
      Move cfg i scene (.run clock) (scene.moved life).uninspected (some (.resources (.release slot), rep))
  | settled (clock) (stage : scene.handler.stage = .unwinding) : Move cfg i scene (.run clock) (scene.settle i clock) none
  | handed (clock tickets) (stage : scene.handler.stage = .handing tickets) : Move cfg i scene (.run clock) (scene.hand i tickets) none
  | unsubmitted (clock job sub) (stage : scene.handler.stage = .submitting job sub) (gone : scene.worker = none) :
      Move cfg i scene (.run clock) (scene.enter (.invalidating job)) none
  | submitted (clock job sub worker after out) (stage : scene.handler.stage = .submitting job sub) (has : scene.worker = some worker)
      (sent : Observation.SubmitOutcome worker job sub after out) :
      Move cfg i scene (.run clock) (enter { scene with worker := some after } (submittedStage job out)) none
  | tokenInvalidated (clock job ticket life rep) (stage : scene.handler.stage = .invalidating job) (held : job.ticket = some ticket)
      (ran : Lifecycle.step scene.lifecycle (.resources (.tokenCall (.invalidate ticket))) = some (life, rep)) :
      Move cfg i scene (.run clock) ((scene.moved life).enter (.invalidating { job with ticket := none }))
        (some (.resources (.tokenCall (.invalidate ticket)), rep))
  | budgetInvalidated (clock job ticket life rep)
      (stage : scene.handler.stage = .invalidating job) (spent : job.ticket = none) (held : job.budgetTicket = some ticket)
      (ran : Lifecycle.step scene.lifecycle (.resources (.budgetCall (.invalidate ticket))) = some (life, rep)) :
      Move cfg i scene (.run clock) ((scene.moved life).enter (.invalidating { job with budgetTicket := none }))
        (some (.resources (.budgetCall (.invalidate ticket)), rep))
  | invalidated (clock job) (stage : scene.handler.stage = .invalidating job) (spent : job.ticket = none ∧ job.budgetTicket = none) :
      Move cfg i scene (.run clock) ((if job.completion.isSome then scene.unenriched clock else scene).enter
          (if scene.handler.admission.isSome then .concluding else .enriching)) none
  | enriched (clock) (stage : scene.handler.stage = .enriching) : Move cfg i scene (.run clock) ((scene.unenriched clock).enter .concluding) none
  | blockFinished (clock) (stage : scene.handler.stage = .concluding) : Move cfg i scene (.run clock) scene.finishBlock none
  | completed (clock) (stage : scene.handler.stage = .completing) : Move cfg i scene (.run clock) (scene.completeRequest clock) none
  | closed (clock) (stage : scene.handler.stage = .closing) :
      Move cfg i scene (.run clock) ((scene.tell (.freezeBase clock)).enter .returned) none

section Inversion

variable {cfg : Config} {i : Nat} {scene next : Scene} {made : Made}

theorem ask_eq {call : Lifecycle.Call} {continued : Scene → Lifecycle.Reply → Option Scene} (did : scene.ask call continued = some (next, made)) :
    ∃ life rep, Lifecycle.step scene.lifecycle call = some (life, rep) ∧ continued (scene.moved life) rep = some next ∧
      made = some (call, rep) := by
  unfold ask at did
  split at did
  · cases did
  · rename_i life rep ran
    obtain ⟨_, onward, ⟨⟩⟩ := Option.map_eq_some_iff.mp did
    exact ⟨life, rep, ran, onward, rfl⟩

variable {clock : ClockReading}

theorem run_move (did : scene.run i clock = some (next, made)) : Move cfg i scene (.run clock) next made := by
  unfold run at did
  split at did
  · rename_i out back stage
    unfold call at did
    split at did
    · cases did
    rename_i adm mine
    obtain ⟨life, _, ran, onward, rfl⟩ := ask_eq did
    split at onward <;> cases onward
    exact .entered clock out back adm life _ stage mine ran
  · rename_i caller back stage
    obtain ⟨life, _, ran, onward, rfl⟩ := ask_eq did
    split at onward <;> cases onward
    exact .answered clock caller back life _ stage ran
  · rename_i stage
    unfold unwind at did
    split at did
    · rename_i slot inspection
      obtain ⟨life, rep, ran, ⟨⟩, rfl⟩ := ask_eq did
      exact .released clock slot life rep stage ran
    · cases did
      exact .settled clock stage
  · rename_i tickets stage
    cases did
    exact .handed clock tickets stage
  · rename_i job sub stage
    unfold submit at did
    split at did
    · rename_i gone
      cases did
      exact .unsubmitted clock job sub stage gone
    · rename_i worker has
      obtain ⟨⟨after, out⟩, sent, ⟨⟩⟩ := Option.map_eq_some_iff.mp did
      exact .submitted clock job sub worker after out stage has (Observation.submit_outcome sent)
  · rename_i job stage
    unfold invalidate at did
    split at did
    · rename_i ticket held
      obtain ⟨life, rep, ran, ⟨⟩, rfl⟩ := ask_eq did
      exact .tokenInvalidated clock job ticket life rep stage held ran
    · rename_i ticket spent held
      obtain ⟨life, rep, ran, ⟨⟩, rfl⟩ := ask_eq did
      exact .budgetInvalidated clock job ticket life rep stage spent held ran
    · rename_i spent budgetSpent
      cases did
      exact .invalidated clock job stage ⟨spent, budgetSpent⟩
  · rename_i stage
    cases did
    exact .enriched clock stage
  · rename_i stage
    cases did
    exact .blockFinished clock stage
  · rename_i stage
    cases did
    exact .completed clock stage
  · rename_i stage
    cases did
    exact .closed clock stage
  · cases did

theorem acquire_move {opts : Resource.ResourceLeaseOptions} {tokenAdmission budgetAdmission : Bool}
    (did : scene.acquire opts tokenAdmission budgetAdmission = some (next, made)) :
    Move cfg i scene (.acquire opts tokenAdmission budgetAdmission) next made := by
  unfold acquire at did
  split at did
  · rename_i principal stage known
    obtain ⟨life, _, ran, onward, rfl⟩ := ask_eq did
    split at onward
    · cases onward
      exact .acquiring opts tokenAdmission budgetAdmission life _ stage ran
    · cases onward
      exact .unacquired opts tokenAdmission budgetAdmission life _ stage ran
    · cases onward
  · cases did

theorem proceed_move (did : scene.proceed = some (next, made)) : Move cfg i scene .proceed next made := by
  unfold proceed at did
  split at did
  · rename_i adm stage mine
    split at did
    · rename_i lease phase
      obtain ⟨entry, hit, same⟩ := Option.map_eq_some_iff.mp phase
      cases did
      exact .admitted adm lease stage mine (Lifecycle.admitted_lease_iff.mpr ⟨entry, hit, same⟩)
    · rename_i err phase
      obtain ⟨entry, hit, same⟩ := Option.map_eq_some_iff.mp phase
      cases did
      exact .rejected adm entry err stage mine hit same
    · cases did
  · cases did

theorem drained_move {err : Option DispatchError} (did : scene.drained err = some (next, made)) :
    Move cfg i scene (.drained err) next made := by
  unfold drained at did
  split at did
  · rename_i stage
    cases did
    exact .drained stage
  · rename_i err stage
    split at did
    · rename_i large
      subst large
      cases did
      exact .overflowed stage
    · cases did
      exact .undrained err stage
  · cases did

theorem respond_move {resp : UpstreamResponse} (did : scene.respond cfg resp clock = some (next, made)) :
    Move cfg i scene (.respond resp clock) next made := by
  unfold respond at did
  split at did
  · rename_i stage
    split at did
    · rename_i custom
      cases did
      exact .customized resp clock stage custom
    · rename_i builtin
      cases did
      exact .selected resp clock stage (by simpa using builtin)
  · cases did

theorem inspect_move {key : String} {most : Int} (did : scene.inspect cfg key most = some (next, made)) :
    Move cfg i scene (.inspect key most) next made := by
  unfold inspect at did
  split at did
  · rename_i stage free
    split at did
    · obtain ⟨life, rep, ran, ⟨⟩, rfl⟩ := ask_eq did
      exact .inspected key most life rep stage ran
    · cases did
  · cases did

theorem advance_move {event : Event} (did : scene.advance cfg i event = some (next, made)) : Move cfg i scene event next made := by
  cases event with
  | misconfigured =>
    simp only [advance, misconfigured] at did
    split at did
    · rename_i stage free
      split at did <;> cases did
      exact .misconfigured stage free
    · cases did
  | refuse code =>
    simp only [advance, refuse] at did
    split at did
    · rename_i stage
      split at did <;> cases did
      exact .refused code (by simp [stage])
    · rename_i stage
      cases did
      exact .refused code (by simp [stage])
    · rename_i stage
      cases did
      exact .refused code (by simp [stage])
    · cases did
  | inspect => exact inspect_move did
  | describe data =>
    simp only [advance, describe] at did
    split at did
    · rename_i stage
      split at did <;> cases did
      rename_i inspectable
      exact .described data stage inspectable.2
    · cases did
  | bypass =>
    simp only [advance, bypass] at did
    split at did <;> cases did
    rename_i stage anonymous
    exact .bypassed stage
  | acquire => exact acquire_move did
  | proceed => exact proceed_move did
  | start clock =>
    simp only [advance, start] at did
    split at did <;> cases did
    rename_i stage
    exact .started clock stage
  | fail err =>
    simp only [advance, failUpstream] at did
    split at did <;> cases did
    rename_i stage
    exact .failed err stage
  | respond => exact respond_move did
  | callback =>
    simp only [advance, callback] at did
    split at did <;> cases did
    rename_i stage
    exact .calledBack stage
  | record written =>
    simp only [advance, record] at did
    split at did <;> cases did
    rename_i stage
    exact .recorded written stage
  | convertFailed err =>
    simp only [advance, convertFailed] at did
    split at did <;> cases did
    rename_i stage
    exact .unconverted err stage
  | aggregated usage cost known lastSeen clock =>
    simp only [advance, Scene.aggregated] at did
    split at did <;> cases did
    rename_i stage
    exact .aggregated usage cost known lastSeen clock stage
  | drained => exact drained_move did
  | dispatch err =>
    simp only [advance, dispatch] at did
    split at did
    · rename_i stage
      cases did
      exact .dispatched err (.inl stage)
    · rename_i stage
      cases did
      exact .dispatched err (.inr stage)
    · cases did
  | conclude requestDone deadline =>
    simp only [advance, conclude] at did
    split at did <;> cases did
    rename_i err stage
    exact .concluded err requestDone deadline stage
  | write write =>
    simp only [advance, written] at did
    split at did <;> cases did
    rename_i running
    exact .wrote write running
  | crash =>
    simp only [advance, crash] at did
    split at did <;> cases did
    rename_i body
    exact .crashed body
  | run => exact run_move did

end Inversion

end Scene

inductive Outcome (cfg : Config) (sys : System) : Call → System → Made → Prop where
  | arrived (req context exch) (begun : newExchange cfg req context = some exch) : Outcome cfg sys (.arrive req context)
        { sys with handlers := sys.handlers ++ [newHandler req], exchanges := sys.exchanges ++ [exch] } none
  | handled (i event scene next made) (hit : sys.scene i = some scene)
      (move : Scene.Move cfg i scene event next made) : Outcome cfg sys (.handle i event) (sys.restore i next) made
  | used (call life rep) (ran : Lifecycle.step sys.lifecycle (.resources call) = some (life, rep)) :
      Outcome cfg sys (.resources call) { sys with lifecycle := life } (some (.resources call, rep))
  | settled (adm read life rep) (ran : Lifecycle.step sys.lifecycle (.settle adm read) = some (life, rep)) :
      Outcome cfg sys (.settle adm read) { sys with lifecycle := life } (some (.settle adm read, rep))
  | worked (action worker after) (has : sys.worker = some worker) (acted : Observation.act worker action = some after) :
      Outcome cfg sys (.worker action) { sys with worker := some after } none
  | finished (i usage cost lastSeen clock exch)
      (fine : Accepted sys.worker UsageObservationJob.completion i) (has : sys.exchanges[i]? = some exch) :
      Outcome cfg sys (.finish i usage cost lastSeen clock)
        { sys with exchanges := sys.exchanges.set i (exch.finishWithTiming usage cost lastSeen clock) } none
  | completed (i clock exch) (has : sys.exchanges[i]? = some exch) :
      Outcome cfg sys (.complete i clock) { sys with exchanges := sys.exchanges.set i (exch.complete clock) } none

variable {sys next : System} {made : Made}

theorem ask_step {call : Lifecycle.Call} (did : sys.ask call = some (next, made)) :
    ∃ life rep, Lifecycle.step sys.lifecycle call = some (life, rep) ∧ next = { sys with lifecycle := life } ∧ made = some (call, rep) := by
  obtain ⟨⟨life, rep⟩, ran, ⟨⟩⟩ := Option.map_eq_some_iff.mp did
  exact ⟨life, rep, ran, rfl, rfl⟩

theorem step_outcome {cfg : Config} {call : Call} (ran : step cfg sys call = some (next, made)) : Outcome cfg sys call next made := by
  cases call with
  | arrive req context =>
    obtain ⟨exch, begun, ⟨⟩⟩ := Option.map_eq_some_iff.mp ran
    exact .arrived req context exch begun
  | handle i event =>
    simp only [step] at ran
    split at ran
    · cases ran
    · rename_i scene hit
      obtain ⟨⟨after, rep⟩, did, ⟨⟩⟩ := Option.map_eq_some_iff.mp ran
      exact .handled i event scene after rep hit (Scene.advance_move did)
  | resources call =>
    obtain ⟨life, rep, did, rfl, rfl⟩ := ask_step ran
    exact .used call life rep did
  | settle adm read =>
    obtain ⟨life, rep, did, rfl, rfl⟩ := ask_step ran
    exact .settled adm read life rep did
  | worker action =>
    simp only [step] at ran
    split at ran
    · cases ran
    · rename_i worker has
      obtain ⟨after, acted, ⟨⟩⟩ := Option.map_eq_some_iff.mp ran
      exact .worked action worker after has acted
  | finish i usage cost lastSeen clock =>
    simp only [step] at ran
    split at ran
    · rename_i fine
      obtain ⟨exch, has, ⟨⟩⟩ := Option.map_eq_some_iff.mp ran
      exact .finished i usage cost lastSeen clock exch fine has
    · cases ran
  | complete i clock =>
    obtain ⟨exch, has, ⟨⟩⟩ := Option.map_eq_some_iff.mp ran
    exact .completed i clock exch has

end NineGateway.Proxy
