import Mathlib.Logic.Relation
import NineGateway.Proxy.Settlement
import NineGateway.Trace.Verdict

set_option autoImplicit false

namespace NineGateway.Proxy

open Trace (RequestTraceState ClockReading TerminalMetadata TerminalOutcome)
open Completion (CompletionOwnership)
open Scene

inductive Change (exch : Exchange) : Exchange → Prop where
  | told (call) : Change exch (exch.tell call)
  | marked (term) : Change exch { exch with terminal := term }
  | resolved (own out clock) (has : exch.completion = some own) (emits : own.Emits out) : Change exch (exch.resolve out clock)
  | transferred (own taken) (has : exch.completion = some own)
      (did : own.transfer = some taken) : Change exch { exch with completion := some taken }

abbrev Changes := Relation.ReflTransGen Change

-- A trace is written by its setters alone, and a record is out exactly when the
-- completion is finalized and the trace passed its validation.
structure Exchange.Recorded (exch : Exchange) : Prop where
  sound : ∀ trace, exch.trace = some trace → trace.Sound ∧ trace.Judged
  pending : ∀ own, exch.completion = some own → own.finalized = false → exch.emitted = []
  untraced : exch.trace = none → exch.completion = none
  out : ∀ own trace, exch.completion = some own → own.finalized = true → exch.trace = some trace →
    trace.base.isSome = true ∧ (exch.emitted ≠ [] ↔ trace.ModesPass ∧ trace.OutcomePasses)

section Records

variable {exch next : Exchange}

def enrichedTrace (trace : RequestTraceState) (own : CompletionOwnership) (emission : Completion.Emission) : RequestTraceState :=
  let used := if Trace.Usage.anyKnown emission.usage then trace.apply (.setUsage emission.usage) else trace
  let priced := if emission.cost.isKnown then used.apply (.setCost emission.cost) else used
  priced.apply (.setTimingEnrichment (Exchange.streamCloseDelay own trace))

theorem enriched_idly (trace : RequestTraceState) (own : CompletionOwnership) (emission : Completion.Emission) :
    Trace.Idly trace (enrichedTrace trace own emission) := by
  unfold enrichedTrace
  refine .call _ _ ?_ rfl
  have used : Trace.Idly trace (if Trace.Usage.anyKnown emission.usage then trace.apply (.setUsage emission.usage) else trace) := by
    split
    · exact .call trace _ .refl rfl
    · exact .refl
  split
  · exact .call _ _ used rfl
  · exact used

theorem emit_trace_passes {trace : RequestTraceState} (ok : trace.Sound) (judged : trace.Judged) (own : CompletionOwnership)
    (emission : Completion.Emission) (clock : ClockReading) :
    (Exchange.emitTrace trace own emission clock).2.isSome = true ↔ trace.ModesPass ∧ trace.OutcomePasses := by
  have idly := enriched_idly trace own emission
  obtain ⟨later, laterJudged⟩ := Trace.idly_sound idly ok judged
  obtain ⟨modes, out⟩ := Trace.idly_passes idly ok judged
  show ((enrichedTrace trace own emission).final clock).2.isSome = true ↔ _
  rw [Trace.final_iff_base, Trace.freeze_passes later laterJudged, modes, out]

theorem emit_trace_idly (trace : RequestTraceState) (own : CompletionOwnership) (emission : Completion.Emission) (clock : ClockReading) :
    Trace.Idly trace (Exchange.emitTrace trace own emission clock).1 :=
  Trace.idly_trans (enriched_idly trace own emission) (Trace.final_idly _ clock)

theorem replaced_recorded {own taken : CompletionOwnership} (noted : exch.Recorded) (has : exch.completion = some own)
    (same : taken.finalized = own.finalized) : Exchange.Recorded { exch with completion := some taken } := by
  refine ⟨noted.sound, ?_, ?_, ?_⟩
  · rintro _ ⟨⟩ unfinalized
    exact noted.pending own has (same.symm.trans unfinalized)
  · intro untraced
    rw [noted.untraced untraced] at has
    cases has
  · rintro _ trace ⟨⟩ finalized traced
    exact noted.out own trace has (same.symm.trans finalized) traced

theorem resolve_recorded {own : CompletionOwnership} {out : CompletionOwnership × Option Completion.Emission} (noted : exch.Recorded)
    (has : exch.completion = some own) (emits : own.Emits out) (clock : ClockReading) : (exch.resolve out clock).Recorded := by
  obtain ⟨paid, emission⟩ := out
  rcases emits with ⟨silent, same⟩ | ⟨speaks, new, final⟩
  · cases silent
    exact replaced_recorded noted has same
  · obtain ⟨emission, rfl⟩ := Option.isSome_iff_exists.mp speaks
    cases traced : exch.trace with
    | none =>
      rw [noted.untraced traced] at has
      cases has
    | some trace =>
      obtain ⟨ok, judged⟩ := noted.sound trace traced
      have idly := emit_trace_idly trace paid emission clock
      have passes := emit_trace_passes ok judged paid emission clock
      have past := noted.pending own has new
      simp only [Exchange.resolve, Exchange.emit, traced]
      refine ⟨?_, ?_, ?_, ?_⟩
      · rintro _ ⟨⟩
        exact Trace.idly_sound idly ok judged
      · rintro _ ⟨⟩ unfinalized
        exact absurd (final.symm.trans unfinalized) (by simp)
      · nofun
      rintro _ _ ⟨⟩ _ ⟨⟩
      obtain ⟨modes, ends⟩ := Trace.idly_passes idly ok judged
      refine ⟨Trace.final_frozen _ clock, ?_⟩
      rw [modes, ends, ← passes, past]
      cases (Exchange.emitTrace trace paid emission clock).2 <;> simp

theorem change_recorded (noted : exch.Recorded) (change : Change exch next) : next.Recorded := by
  cases change with
  | told call =>
    refine ⟨?_, noted.pending, ?_, ?_⟩
    · intro trace hit
      obtain ⟨past, traced, rfl⟩ := Option.map_eq_some_iff.mp hit
      obtain ⟨ok, judged⟩ := noted.sound past traced
      exact ⟨Trace.apply_sound ok call, Trace.apply_judged ok judged call⟩
    · intro untraced
      exact noted.untraced (Option.map_eq_none_iff.mp untraced)
    · intro own trace has fin hit
      obtain ⟨past, traced, rfl⟩ := Option.map_eq_some_iff.mp hit
      obtain ⟨frozen, out⟩ := noted.out own past has fin traced
      obtain ⟨facets, base, set, term⟩ := Trace.frozen_kept frozen call
      refine ⟨by rw [base]; exact frozen, ?_⟩
      rw [Trace.modes_congr facets, RequestTraceState.OutcomePasses, Trace.completed_terminal_congr facets set term]
      exact out
  | marked => exact ⟨noted.sound, noted.pending, noted.untraced, noted.out⟩
  | resolved own out clock has emits => exact resolve_recorded noted has emits clock
  | transferred own _ has did =>
    obtain ⟨pre, after⟩ := own.transfer_unfinalized did
    exact replaced_recorded noted has (after.trans pre.symm)

theorem changes_recorded (noted : exch.Recorded) (changes : Changes exch next) : next.Recorded := by
  induction changes with
  | refl => exact noted
  | tail _ change ih => exact change_recorded ih change

theorem new_recorded {cfg : Config} {req : Request} {context : Option (Trace.Text × ClockReading × Bool)}
    (begun : newExchange cfg req context = some exch) :
    exch.Recorded := by
  unfold newExchange at begun
  split at begun
  · cases begun
    refine ⟨?_, fun _ _ _ => rfl, fun _ => rfl, ?_⟩
    · rintro trace ⟨⟩
    · rintro own trace ⟨⟩
  · obtain ⟨created, new, rfl⟩ := Option.map_eq_some_iff.mp begun
    refine ⟨?_, fun _ _ _ => rfl, ?_, ?_⟩
    · rintro _ ⟨⟩
      have routed := fun call => (⟨Trace.apply_sound (Trace.new_state_sound new) call,
        Trace.apply_judged (Trace.new_state_sound new) (Trace.new_judged new) call⟩ : (created.apply call).Sound ∧ (created.apply call).Judged)
      cases req.principal with
      | none => exact routed _
      | some =>
        obtain ⟨ok, judged⟩ := routed (.setRouteMetadata req.method (boundedEscapedPath req) (classifyRoute req.method req.path))
        dsimp only
        split
        · exact ⟨Trace.apply_sound ok _, Trace.apply_judged ok judged _⟩
        · exact ⟨ok, judged⟩
    · nofun
    · intro own trace has fin
      simp only at has
      split at has <;> cases has
      cases fin

end Records

inductive Phase where
  | inspecting
  | early
  | awaiting
  | responding
  | ending
deriving DecidableEq, Repr

def Return.phase : Return → Phase
  | dispatched _ => .responding
  | draining => .responding
  | handing => .ending
  | enriching => .ending
  | concluding => .ending

def Stage.phase : Stage → Phase
  | inspecting => .inspecting
  | planning | acquiring | building => .early
  | awaiting => .awaiting
  | forwarding | converting | draining | delivering | dispatched _ => .responding
  | calling _ back => back.phase
  | waiting _ back => back.phase
  | _ => .ending

structure Facts where
  request : Request
  metadata : Option RequestMetadata
  upstreamStarted : Bool
  response : Option UpstreamResponse

def Handler.facts (handler : Handler) : Facts := ⟨handler.request, handler.metadata, handler.upstreamStarted, handler.response⟩

-- The calls reach the trace between others that write nothing of the request.
structure Writes (pre after : Exchange) (cs : List Trace.Call) : Prop where
  changes : Changes pre after
  calls : ∀ later, after.trace = some later → ∃ past first, pre.trace = some past ∧ Trace.Idly past first ∧
    Trace.Idly (cs.foldl RequestTraceState.apply first) later

structure Unheard (pre after : Exchange) : Prop where
  terminal : after.terminal = pre.terminal
  writes : Writes pre after []

def terminalCall (out : TerminalOutcome) : Trace.Call := if out = .cancelled then .setCancellation else .setTerminalOutcome out

def heading (cfg : Config) (resp : UpstreamResponse) (clock : ClockReading) : List Trace.Call :=
  if classifyActualResponseHeader cfg.strings resp.contentTypes = .unknown then [.setUpstreamHeaders resp.status clock]
  else [.setUpstreamHeaders resp.status clock, .setUpstreamResponseMode (classifyActualResponseHeader cfg.strings resp.contentTypes)]

def Fits (phase : Phase) (out : TerminalOutcome) : Prop :=
  (phase = .inspecting ∨ phase = .early) ∧ out = .preUpstream ∨
    (phase = .awaiting ∨ phase = .responding) ∧ out ≠ .unknown ∧ out ≠ .preUpstream

structure Idle (scene next : Scene) : Prop where
  facts : next.handler.facts = scene.handler.facts
  quiet : Unheard scene.exchange next.exchange

-- What a step writes of its request. A request body that is found too large only
-- after the upstream call started is marked.
inductive Noted (cfg : Config) (scene next : Scene) : Bool → Prop where
  | idle (idle : Idle scene next) (phase : next.handler.stage.phase = scene.handler.stage.phase ∨ next.handler.stage.phase = .ending) :
      Noted cfg scene next false
  | described (data) (inspectable : data = none ∨ scene.handler.request.inspectable = true)
      (phase : scene.handler.stage.phase = .inspecting) (later : next.handler.stage.phase = .early)
      (facts : next.handler.facts = { scene.handler.facts with metadata := data }) (term : next.exchange.terminal = scene.exchange.terminal)
      (writes : Writes scene.exchange next.exchange [Scene.describing scene.handler.request data]) : Noted cfg scene next false
  | started (clock) (phase : scene.handler.stage.phase = .early) (later : next.handler.stage.phase = .awaiting)
      (facts : next.handler.facts = { scene.handler.facts with upstreamStarted := true })
      (term : next.exchange.terminal = scene.exchange.terminal)
      (writes : Writes scene.exchange next.exchange [.setUpstreamStart clock]) : Noted cfg scene next false
  | answered (resp clock) (builtin : cfg.responseDispatch = false)
      (phase : scene.handler.stage.phase = .awaiting) (later : next.handler.stage.phase = .responding)
      (facts : next.handler.facts = { scene.handler.facts with response := some resp }) (term : next.exchange.terminal = scene.exchange.terminal)
      (writes : Writes scene.exchange next.exchange (heading cfg resp clock ++
        [.setDeliveredMode (deliveredMode cfg.strings scene.handler.request scene.handler.metadata resp)])) : Noted cfg scene next false
  | customized (resp clock) (custom : cfg.responseDispatch = true)
      (phase : scene.handler.stage.phase = .awaiting) (later : next.handler.stage.phase = .ending)
      (facts : next.handler.facts = { scene.handler.facts with response := some resp })
      (term : next.exchange.terminal = setTerminalMetadata scene.exchange.terminal ⟨.customDispatch, scene.handler.upstreamStarted⟩)
      (writes : Writes scene.exchange next.exchange (heading cfg resp clock ++ [.setTerminalOutcome .customDispatch])) :
      Noted cfg scene next false
  | gaveUp (phase : scene.handler.stage.phase = .inspecting) (later : next.handler.stage.phase = .ending)
      (facts : next.handler.facts = scene.handler.facts) (writes : Writes scene.exchange next.exchange []) : Noted cfg scene next false
  | ruled (out) (fits : Fits scene.handler.stage.phase out) (later : next.handler.stage.phase = .ending)
      (facts : next.handler.facts = scene.handler.facts)
      (term : next.exchange.terminal = setTerminalMetadata scene.exchange.terminal ⟨out, scene.handler.upstreamStarted⟩)
      (writes : Writes scene.exchange next.exchange [terminalCall out]) : Noted cfg scene next false
  | overrun (phase : scene.handler.stage.phase = .awaiting) (later : next.handler.stage.phase = .ending)
      (facts : next.handler.facts = scene.handler.facts)
      (term : next.exchange.terminal = setTerminalMetadata scene.exchange.terminal ⟨.preUpstream, scene.handler.upstreamStarted⟩)
      (writes : Writes scene.exchange next.exchange [.setTerminalOutcome .preUpstream]) : Noted cfg scene next true
  | defaulted (unset : scene.exchange.terminal.outcome = .unknown) (phase : scene.handler.stage.phase = .ending)
      (later : next.handler.stage.phase = .ending) (facts : next.handler.facts = scene.handler.facts)
      (writes : Writes scene.exchange next.exchange
        [.setTerminalOutcome (if scene.handler.upstreamStarted then .complete else .preUpstream)]) : Noted cfg scene next false
  | completed (phase : scene.handler.stage.phase = .ending) (later : next.handler.stage.phase = .ending)
      (facts : next.handler.facts = scene.handler.facts) (term : next.exchange.terminal = scene.exchange.terminal)
      (writes : Writes scene.exchange next.exchange [.setTerminalMetadata scene.exchange.terminal]) : Noted cfg scene next false

def UpstreamFailure.late : UpstreamFailure → Bool
  | bodyTooLarge => true
  | uploadExceeded => true
  | _ => false

def Event.late : Event → Bool
  | fail failure => failure.late
  | _ => false

open Trace.RequestTraceState (apply)

section Writing

variable {pre middle after exch : Exchange} {cs : List Trace.Call}

theorem writes_same (exch : Exchange) : Writes exch exch [] := ⟨.refl, fun later hit => ⟨later, later, hit, .refl, .refl⟩⟩

theorem writes_before (writes : Writes pre middle cs) (quiet : Writes middle after []) : Writes pre after cs := by
  refine ⟨writes.changes.trans quiet.changes, ?_⟩
  intro later hit
  obtain ⟨_, _, there, idly, rest⟩ := quiet.calls later hit
  obtain ⟨past, first, has, start, told⟩ := writes.calls _ there
  exact ⟨past, first, has, start, Trace.idly_trans told (Trace.idly_trans idly rest)⟩

theorem writes_after (quiet : Writes pre middle []) (writes : Writes middle after cs) : Writes pre after cs := by
  refine ⟨quiet.changes.trans writes.changes, ?_⟩
  intro later hit
  obtain ⟨_, first, there, start, told⟩ := writes.calls later hit
  obtain ⟨past, _, has, idly, rest⟩ := quiet.calls _ there
  exact ⟨past, first, has, Trace.idly_trans (Trace.idly_trans idly rest) start, told⟩

theorem told_trace (exch : Exchange) (cs : List Trace.Call) :
    (cs.foldl Exchange.tell exch).trace = exch.trace.map (fun trace => cs.foldl apply trace) := by
  induction cs generalizing exch with
  | nil => simp
  | cons call cs ih => simp [ih, Exchange.tell, Function.comp_def]

theorem told_changes (exch : Exchange) (cs : List Trace.Call) : Changes exch (cs.foldl Exchange.tell exch) := by
  induction cs generalizing exch with
  | nil => exact .refl
  | cons call _ ih => exact .head (.told call) (ih _)

theorem told_writes (exch : Exchange) (cs : List Trace.Call) : Writes exch (cs.foldl Exchange.tell exch) cs := by
  refine ⟨told_changes exch cs, ?_⟩
  intro later hit
  rw [told_trace] at hit
  obtain ⟨past, there, rfl⟩ := Option.map_eq_some_iff.mp hit
  exact ⟨past, past, there, .refl, .refl⟩

theorem tell_writes (exch : Exchange) (call : Trace.Call) : Writes exch (exch.tell call) [call] := told_writes exch [call]

theorem tell_quiet (exch : Exchange) {call : Trace.Call} (idle : call.idle = true) : Unheard exch (exch.tell call) := by
  refine ⟨rfl, .single (.told call), ?_⟩
  intro later hit
  obtain ⟨past, has, rfl⟩ := Option.map_eq_some_iff.mp hit
  exact ⟨past, past, has, .refl, .call past call .refl idle⟩

theorem marked_writes (exch : Exchange) (term : TerminalMetadata) : Writes exch { exch with terminal := term } [] :=
  ⟨.single (.marked term), (writes_same exch).calls⟩

theorem set_terminal_writes (exch : Exchange) (out : TerminalOutcome) (begun : Bool) :
    Writes exch (exch.setTerminal out begun) [terminalCall out] := writes_after (marked_writes exch _) (tell_writes _ _)

theorem resolve_quiet {own : CompletionOwnership} {out : CompletionOwnership × Option Completion.Emission} (has : exch.completion = some own)
    (emits : own.Emits out) (clock : ClockReading) : Unheard exch (exch.resolve out clock) := by
  have changes : Changes exch (exch.resolve out clock) := .single (.resolved own out clock has emits)
  unfold Exchange.resolve at *
  simp only at *
  split at *
  · exact ⟨rfl, changes, (writes_same exch).calls⟩
  unfold Exchange.emit at *
  split at *
  · exact ⟨rfl, changes, (writes_same exch).calls⟩
  · rename_i trace traced
    refine ⟨rfl, changes, ?_⟩
    rintro _ ⟨⟩
    exact ⟨trace, trace, traced, .refl, emit_trace_idly trace _ _ clock⟩

theorem finish_quiet (exch : Exchange) (usage : Usage) (cost : Money) (lastSeen : Option Int) (clock : ClockReading) :
    Unheard exch (exch.finishWithTiming usage cost lastSeen clock) := by
  unfold Exchange.finishWithTiming
  split
  · exact ⟨rfl, writes_same exch⟩
  · rename_i own has
    exact resolve_quiet has (own.finish_emits usage cost lastSeen) clock

theorem complete_quiet (exch : Exchange) (clock : ClockReading) : Unheard exch (exch.complete clock) := by
  unfold Exchange.complete
  split
  · exact ⟨rfl, writes_same exch⟩
  · rename_i own has
    exact resolve_quiet has own.complete_emits clock

end Writing

section Moves

variable {cfg : Config} {i : Nat} {scene next : Scene} {event : Event} {made : Made}

theorem noted_changes {late : Bool} (noted : Noted cfg scene next late) : Changes scene.exchange next.exchange := by
  cases noted with
  | idle idle => exact idle.quiet.writes.changes
  | described _ _ _ _ _ _ writes | started _ _ _ _ _ writes | answered _ _ _ _ _ _ _ writes | customized _ _ _ _ _ _ _ writes
  | gaveUp _ _ _ writes | ruled _ _ _ _ _ writes | overrun _ _ _ _ writes | defaulted _ _ _ _ writes | completed _ _ _ _ writes =>
    exact writes.changes

theorem idle_same (facts : next.handler.facts = scene.handler.facts) (exch : next.exchange = scene.exchange) : Idle scene next :=
  ⟨facts, by rw [exch], by rw [exch]; exact writes_same _⟩

theorem idle_entered (idle : Idle scene next) (stage : Stage) : Idle scene (next.enter stage) := ⟨idle.facts, idle.quiet⟩

theorem idle_told (scene : Scene) {call : Trace.Call} (idle : call.idle = true) : Idle scene (scene.tell call) :=
  ⟨rfl, tell_quiet scene.exchange idle⟩

theorem idle_finished (scene : Scene) (usage : Usage) (cost : Money) (lastSeen : Option Int) (clock : ClockReading) :
    Idle scene { scene with exchange := scene.exchange.finishWithTiming usage cost lastSeen clock } :=
  ⟨rfl, finish_quiet _ usage cost lastSeen clock⟩

theorem transfer_idle (did : scene.transfer = some next) : Idle scene next := by
  unfold transfer at did
  split at did
  · cases did
  · rename_i own has
    obtain ⟨taken, transferred, rfl⟩ := Option.map_eq_some_iff.mp did
    exact ⟨rfl, rfl, .single (.transferred own taken has transferred), (writes_same _).calls⟩

theorem canonical_idle (usage : Usage) (cost : Money) (lastSeen : Option Int) (clock : ClockReading) :
    Idle scene (scene.canonical usage cost lastSeen clock) := by
  unfold canonical
  split
  · exact idle_same rfl rfl
  · exact ⟨rfl, finish_quiet _ usage cost lastSeen clock⟩

theorem settle_idle (clock : ClockReading) : Idle scene (scene.settle i clock) := by
  unfold settle
  split
  · exact idle_same rfl rfl
  · exact idle_same rfl rfl
  unfold settleObserved
  split
  · split
    · exact idle_entered (idle_finished scene _ _ none clock) _
    split
    · exact idle_same rfl rfl
    split
    · exact idle_same rfl rfl
    split
    · exact idle_same rfl rfl
    · split
      · exact idle_same rfl rfl
      · rename_i taken
        exact idle_entered (transfer_idle taken) _
  · exact idle_same rfl rfl

variable (tickets : Lifecycle.LeaseAdjustmentTickets)

theorem hand_idle : Idle scene (scene.hand i tickets) := by
  unfold hand
  split
  · split <;> exact idle_same rfl rfl
  · split
    · exact idle_same rfl rfl
    · rename_i taken
      exact idle_entered (transfer_idle taken) _

theorem return_phase (res : Lifecycle.LeaseResult) (back : Return) : (back.stage res).phase = back.phase := by cases back <;> rfl

theorem back_ending {back : Return} (deferred : back = .handing ∨ back = .enriching ∨ back = .concluding) : back.phase = .ending := by
  rcases deferred with rfl | rfl | rfl <;> rfl

theorem settle_ending (clock : ClockReading) : (scene.settle i clock).handler.stage.phase = .ending :=
  settle_stage (fun stage => stage.phase = .ending) clock (fun _ _ deferred => back_ending deferred) rfl rfl (fun _ => rfl)

theorem hand_ending : (scene.hand i tickets).handler.stage.phase = .ending :=
  hand_stage (fun stage => stage.phase = .ending) rfl rfl (fun _ => rfl)

variable {start : Scene}

theorem fail_ruled (out : TerminalOutcome) (code : Trace.SafeErrorCode) (facts : start.handler.facts = scene.handler.facts)
    (exch : start.exchange = scene.exchange) :
    (start.fail out code).exchange.terminal = setTerminalMetadata scene.exchange.terminal ⟨out, scene.handler.upstreamStarted⟩ ∧
      Writes scene.exchange (start.fail out code).exchange [terminalCall out] := by
  have begun : start.handler.upstreamStarted = scene.handler.upstreamStarted := congrArg Facts.upstreamStarted facts
  refine ⟨?_, ?_⟩
  · rw [← exch, ← begun]
    rfl
  · rw [← exch]
    exact writes_before (set_terminal_writes start.exchange out start.handler.upstreamStarted) (tell_quiet _ rfl).writes

theorem fail_noted {out : TerminalOutcome} (code : Trace.SafeErrorCode) (fits : Fits scene.handler.stage.phase out)
    (facts : start.handler.facts = scene.handler.facts) (exch : start.exchange = scene.exchange) :
    Noted cfg scene (start.fail out code) false := by
  obtain ⟨term, writes⟩ := fail_ruled out code facts exch
  exact .ruled out fits rfl facts term writes

theorem refusal_fits {phase : Phase} (pre : phase = .inspecting ∨ phase = .early) : Fits phase .preUpstream := .inl ⟨pre, rfl⟩

theorem failure_noted (err : UpstreamFailure) (stage : scene.handler.stage = .awaiting) :
    Noted cfg scene (scene.fail err.outcome err.code) err.late := by
  have phase : scene.handler.stage.phase = .awaiting := by rw [stage]; rfl
  obtain ⟨term, writes⟩ := fail_ruled err.outcome err.code (rfl : scene.handler.facts = _) rfl
  cases err with
  | bodyTooLarge | uploadExceeded => exact .overrun phase rfl rfl term writes
  | _ => exact .ruled _ (.inr ⟨.inl phase, by decide⟩) rfl rfl term writes

theorem classified_exchange (cfg : Config) (scene : Scene) (resp : UpstreamResponse) (clock : ClockReading) :
    (scene.classified cfg resp clock).exchange = (heading cfg resp clock).foldl Exchange.tell scene.exchange := by
  unfold classified heading
  simp only
  split <;> rfl

theorem classified_terminal (cfg : Config) (scene : Scene) (resp : UpstreamResponse) (clock : ClockReading) :
    (scene.classified cfg resp clock).exchange.terminal = scene.exchange.terminal := by
  unfold classified
  simp only
  split <;> rfl

theorem heading_writes (cfg : Config) (scene : Scene) (resp : UpstreamResponse) (clock : ClockReading) (call : Trace.Call) :
    Writes scene.exchange ((scene.classified cfg resp clock).exchange.tell call) (heading cfg resp clock ++ [call]) := by
  have told := told_writes scene.exchange (heading cfg resp clock ++ [call])
  rw [List.foldl_append, ← classified_exchange] at told
  exact told

theorem judge_ruled (scene : Scene) (err : Option DispatchError) (requestDone deadline : Bool) :
    (scene.judge err requestDone deadline).handler = scene.handler ∧ ∃ out, out ≠ .unknown ∧ out ≠ .preUpstream ∧
      (scene.judge err requestDone deadline).exchange.terminal =
        setTerminalMetadata scene.exchange.terminal ⟨out, scene.handler.upstreamStarted⟩ ∧
      Writes scene.exchange (scene.judge err requestDone deadline).exchange [terminalCall out] := by
  have direct := set_terminal_writes scene.exchange
  have coded : ∀ (code : Trace.SafeErrorCode) (out : TerminalOutcome),
      Writes scene.exchange ((scene.exchange.tell (.setErrorCode code)).setTerminal out scene.handler.upstreamStarted) [terminalCall out] :=
    fun code out => writes_after (tell_quiet scene.exchange rfl).writes (set_terminal_writes _ out scene.handler.upstreamStarted)
  unfold judge
  split
  · exact ⟨rfl, .cancelled, by decide, by decide, rfl, direct _ _⟩
  split
  · exact ⟨rfl, .upstreamError, by decide, by decide, rfl, coded _ _⟩
  split
  · exact ⟨rfl, .cancelled, by decide, by decide, rfl, direct _ _⟩
  · split
    · exact ⟨rfl, .responseError, by decide, by decide, rfl, coded _ _⟩
    · exact ⟨rfl, .responseError, by decide, by decide, rfl, direct _ _⟩
  · refine ⟨rfl, _, ?_, ?_, rfl, direct _ _⟩ <;> split <;> decide

theorem move_noted (move : Move cfg i scene event next made) : Noted cfg scene next event.late := by
  cases move with
  | misconfigured stage =>
    exact .gaveUp (by rw [stage]; rfl) rfl rfl (writes_before (marked_writes scene.exchange _) (tell_quiet _ rfl).writes)
  | refused code stage =>
    refine fail_noted code (refusal_fits ?_) rfl rfl
    rcases stage with stage | stage | stage <;> simp [stage, Stage.phase]
  | inspected _ _ _ _ stage =>
    unfold inspecting
    split
    · exact .idle (idle_same rfl rfl) (.inl rfl)
    · exact fail_noted _ (refusal_fits (by simp [stage, Stage.phase])) rfl rfl
  | described data stage inspectable =>
    exact .described data inspectable (by rw [stage]; rfl) rfl rfl rfl (tell_writes scene.exchange _)
  | bypassed stage | acquiring _ _ _ _ _ stage | admitted _ _ stage | drained stage | entered _ _ _ _ _ _ stage =>
    exact .idle (idle_same rfl rfl) (.inl (by rw [stage]; rfl))
  | unacquired _ _ _ _ _ stage =>
    exact fail_noted _ (refusal_fits (by simp [stage, Stage.phase])) rfl rfl
  | rejected _ _ _ stage => exact fail_noted _ (refusal_fits (by simp [stage, Stage.phase])) rfl rfl
  | started clock stage => exact .started clock (by rw [stage]; rfl) rfl rfl rfl (tell_writes scene.exchange _)
  | failed err stage => exact failure_noted err stage
  | customized resp clock stage custom =>
    have told := classified_told cfg scene resp clock
    refine .customized resp clock custom (by rw [stage]; rfl) rfl ?_ ?_ (writes_before (heading_writes cfg scene resp clock _) (marked_writes _ _))
    · show (scene.classified cfg resp clock).handler.facts = _
      rw [told.handler]
      rfl
    · show setTerminalMetadata (scene.classified cfg resp clock).exchange.terminal _ = _
      rw [classified_terminal, told.handler]
  | selected resp clock stage builtin =>
    have told := classified_told cfg scene resp clock
    refine .answered resp clock builtin (by rw [stage]; rfl) ?_ ?_ (classified_terminal cfg scene resp clock) ?_
    · exact either_stage (fun stage => stage.phase = .responding) rfl rfl
    · show (scene.classified cfg resp clock).handler.facts = _
      rw [told.handler]
      rfl
    · have writes := heading_writes cfg scene resp clock
        (.setDeliveredMode (deliveredMode cfg.strings scene.handler.request scene.handler.metadata resp))
      simp only [selected, told.handler]
      exact writes
  | recorded | released => exact .idle (idle_same rfl rfl) (.inl rfl)
  | unconverted _ stage | overflowed stage =>
    refine .idle (idle_entered (idle_told scene rfl) _) (.inl ?_)
    rw [stage]
    exact settle_lease_stage (fun stage => stage.phase = .responding) rfl rfl
  | aggregated usage cost _ lastSeen clock stage =>
    refine .idle (idle_entered (canonical_idle usage cost lastSeen clock) _) (.inl ?_)
    rw [stage]
    exact settle_lease_stage (fun stage => stage.phase = .responding) rfl rfl
  | undrained _ stage => exact .idle (idle_entered (idle_told scene rfl) _) (.inl (by rw [stage]; rfl))
  | dispatched _ stage =>
    refine .idle (idle_same rfl rfl) (.inl ?_)
    rcases stage with stage | stage <;> rw [stage] <;> rfl
  | concluded err requestDone deadline stage =>
    obtain ⟨handler, out, known, post, term, writes⟩ :=
      judge_ruled (scene.observed (fun obs => obs.finish err.isSome)) err requestDone deadline
    refine .ruled out (.inr ⟨.inr (by rw [stage]; rfl), known, post⟩) rfl ?_ term writes
    show (judge _ err requestDone deadline).handler.facts = _
    rw [handler]
    rfl
  | wrote write => exact .idle (idle_told scene (by cases write <;> rfl)) (.inl rfl)
  | answered _ _ back _ res stage =>
    refine .idle (idle_same rfl rfl) (.inl ?_)
    rw [stage]
    exact return_phase res back
  | settled clock => exact .idle (settle_idle clock) (.inr (settle_ending clock))
  | handed _ tickets => exact .idle (hand_idle tickets) (.inr (hand_ending tickets))
  | submitted _ _ _ _ _ out =>
    refine .idle (idle_same rfl rfl) (.inr ?_)
    cases out <;> rfl
  | invalidated clock _ stage =>
    refine .idle (idle_entered ?_ _) (.inr (either_stage (fun stage => stage.phase = .ending) rfl rfl))
    split
    · exact idle_finished scene _ _ none clock
    · exact idle_same rfl rfl
  | enriched clock => exact .idle (idle_entered (idle_finished scene _ _ none clock) _) (.inr rfl)
  | blockFinished _ stage =>
    have ending : scene.finishBlock.handler.stage.phase = .ending := either_stage (fun stage => stage.phase = .ending) rfl rfl
    by_cases unset : scene.exchange.terminal.outcome = .unknown
    · refine .defaulted unset (by rw [stage]; rfl) ending ?_ ?_
      · simp only [finishBlock, unset, if_true]
        rfl
      have writes := set_terminal_writes scene.exchange (if scene.handler.upstreamStarted then .complete else .preUpstream)
        scene.handler.upstreamStarted
      have call : terminalCall (if scene.handler.upstreamStarted then .complete else .preUpstream) =
          .setTerminalOutcome (if scene.handler.upstreamStarted then .complete else .preUpstream) := by
        cases scene.handler.upstreamStarted <;> rfl
      rw [call] at writes
      simp only [finishBlock, unset, if_true]
      exact writes
    · refine .idle ?_ (.inr ending)
      simp only [finishBlock, unset, if_false]
      exact idle_same rfl rfl
  | completed clock stage =>
    have quiet := complete_quiet (scene.exchange.tell (.setTerminalMetadata scene.exchange.terminal)) clock
    exact .completed (by rw [stage]; rfl) rfl rfl quiet.terminal (writes_before (tell_writes scene.exchange _) quiet.writes)
  | closed => exact .idle (idle_entered (idle_told scene rfl) _) (.inr rfl)
  | _ => exact .idle (idle_same rfl rfl) (.inr rfl)

end Moves

section Traces

variable {pre after : Exchange} {cs : List Trace.Call} {later : RequestTraceState}

theorem told_sound {st : RequestTraceState} (ok : st.Sound) (judged : st.Judged) (cs : List Trace.Call) :
    (cs.foldl apply st).Sound ∧ (cs.foldl apply st).Judged := by
  induction cs generalizing st with
  | nil => exact ⟨ok, judged⟩
  | cons call _ ih => exact ih (Trace.apply_sound ok call) (Trace.apply_judged ok judged call)

theorem frozen_calls {first : RequestTraceState} (frozen : first.base.isSome = true) (cs : List Trace.Call) :
    (cs.foldl apply first).facets = first.facets ∧ (cs.foldl apply first).base = first.base ∧
      Trace.completedTerminal (cs.foldl apply first) = Trace.completedTerminal first := by
  induction cs generalizing first with
  | nil => exact ⟨rfl, rfl, rfl⟩
  | cons call _ ih =>
    obtain ⟨facets, base, set, term⟩ := Trace.frozen_kept frozen call
    have still : (first.apply call).base.isSome = true := by rw [base]; exact frozen
    obtain ⟨kept, same, ended⟩ := ih still
    exact ⟨kept.trans facets, same.trans base, ended.trans (Trace.completed_terminal_congr facets set term)⟩

theorem writes_cases (writes : Writes pre after cs) (hit : after.trace = some later) : ∃ past, pre.trace = some past ∧
    ((later.base.isSome = true ∧ later.facets = past.facets ∧
        (past.Sound → past.Judged → Trace.completedTerminal later = Trace.completedTerminal past)) ∨
      ∃ first, first.base = none ∧ past.base = none ∧ first.facets = past.facets ∧ first.terminalSet = past.terminalSet ∧
        first.input.terminal = past.input.terminal ∧ (past.Sound → past.Judged → first.Sound ∧ first.Judged) ∧
        Trace.Idly (cs.foldl apply first) later) := by
  obtain ⟨past, first, has, idly, rest⟩ := writes.calls later hit
  refine ⟨past, has, ?_⟩
  cases base : first.base with
  | none =>
    obtain ⟨begun, set, term⟩ := Trace.idly_open idly base
    exact .inr ⟨first, base, begun, Trace.idly_facets idly, set, term, Trace.idly_sound idly, rest⟩
  | some =>
    have frozen : first.base.isSome = true := by simp [base]
    obtain ⟨facets, same, ended⟩ := frozen_calls frozen cs
    refine .inl ⟨?_, ?_, ?_⟩
    · rw [Trace.idly_frozen rest (by rw [same]; exact frozen), same]
      exact frozen
    · rw [Trace.idly_facets rest, facets, Trace.idly_facets idly]
    · intro ok judged
      obtain ⟨firstSound, firstJudged⟩ := Trace.idly_sound idly ok judged
      obtain ⟨laterSound, laterJudged⟩ := told_sound firstSound firstJudged cs
      rw [Trace.idly_terminal rest laterSound laterJudged, ended, Trace.idly_terminal idly ok judged]

theorem writes_open (writes : Writes pre after cs) (hit : after.trace = some later) (begun : later.base = none) : ∃ past first,
    pre.trace = some past ∧ past.base = none ∧ first.base = none ∧ first.facets = past.facets ∧ first.terminalSet = past.terminalSet ∧
      first.input.terminal = past.input.terminal ∧ later.facets = (cs.foldl apply first).facets ∧
      later.terminalSet = (cs.foldl apply first).terminalSet ∧ later.input.terminal = (cs.foldl apply first).input.terminal := by
  obtain ⟨past, has, ⟨frozen, _⟩ | ⟨first, base, unfrozen, facets, set, term, _, idly⟩⟩ := writes_cases writes hit
  · simp [begun] at frozen
  · obtain ⟨_, laterSet, laterTerminal⟩ := Trace.idly_open idly begun
    exact ⟨past, first, has, unfrozen, base, facets, set, term, Trace.idly_facets idly, laterSet, laterTerminal⟩

end Traces

structure Paced (scene : Scene) : Prop where
  unstarted : scene.handler.stage.phase = .inspecting ∨ scene.handler.stage.phase = .early → scene.handler.upstreamStarted = false
  started : scene.handler.stage.phase = .awaiting ∨ scene.handler.stage.phase = .responding → scene.handler.upstreamStarted = true
  upstream : ∀ trace, scene.exchange.trace = some trace → trace.base = none → trace.upstream = scene.handler.upstreamStarted

section Pace

variable {cfg : Config} {scene next : Scene} {late : Bool}

theorem upstream_same {cs : List Trace.Call} (paced : Paced scene) (writes : Writes scene.exchange next.exchange cs)
    (same : next.handler.upstreamStarted = scene.handler.upstreamStarted)
    (kept : ∀ first : RequestTraceState, first.base = none → first.upstream = scene.handler.upstreamStarted →
      (cs.foldl apply first).upstream = first.upstream) :
    ∀ trace, next.exchange.trace = some trace → trace.base = none → trace.upstream = next.handler.upstreamStarted := by
  intro trace hit begun
  obtain ⟨past, first, has, unfrozen, base, facets, _, _, later, _, _⟩ := writes_open writes hit begun
  have pre : first.upstream = scene.handler.upstreamStarted := (congrArg Trace.Facets.upstream facets).trans (paced.upstream past has unfrozen)
  have after : trace.upstream = (cs.foldl apply first).upstream := congrArg Trace.Facets.upstream later
  rw [after, kept first base pre, pre, same]

theorem ended_paced (later : next.handler.stage.phase = .ending)
    (upstream : ∀ trace, next.exchange.trace = some trace → trace.base = none → trace.upstream = next.handler.upstreamStarted) : Paced next := by
  refine ⟨?_, ?_, upstream⟩ <;> simp [later]

theorem terminal_ruling (out : TerminalOutcome) : (terminalCall out).ruling = true := by
  unfold terminalCall
  split <;> rfl

theorem ruling_upstream {call : Trace.Call} (ruling : call.ruling = true) (first : RequestTraceState) :
    ([call].foldl apply first).upstream = first.upstream := congrArg Trace.Facets.upstream (Trace.ruling_facets ruling)

theorem noted_paced (paced : Paced scene) (noted : Noted cfg scene next late) : Paced next := by
  cases noted with
  | idle idle phase =>
    have same : next.handler.upstreamStarted = scene.handler.upstreamStarted := congrArg Facts.upstreamStarted idle.facts
    have upstream := upstream_same paced idle.quiet.writes same (fun _ _ _ => rfl)
    rcases phase with phase | phase
    · refine ⟨?_, ?_, upstream⟩ <;> rw [phase, same]
      · exact paced.unstarted
      · exact paced.started
    · exact ended_paced phase upstream
  | described _ _ phase later facts _ writes =>
    have same : next.handler.upstreamStarted = scene.handler.upstreamStarted := congrArg Facts.upstreamStarted facts
    refine ⟨fun _ => by rw [same]; exact paced.unstarted (.inl phase), by simp [later], ?_⟩
    exact upstream_same paced writes same (fun first _ _ => Trace.metadata_upstream ..)
  | started clock _ later facts _ writes =>
    have new : next.handler.upstreamStarted = true := congrArg Facts.upstreamStarted facts
    refine ⟨by simp [later], fun _ => new, ?_⟩
    intro trace hit begun
    obtain ⟨_, _, _, _, base, _, _, _, after, _, _⟩ := writes_open writes hit begun
    rw [new]
    exact (congrArg Trace.Facets.upstream after).trans (congrArg Trace.Facets.upstream (Trace.start_facets base clock))
  | answered _ _ _ phase later facts _ writes =>
    have same : next.handler.upstreamStarted = scene.handler.upstreamStarted := congrArg Facts.upstreamStarted facts
    have started := paced.started (.inl phase)
    refine ⟨by simp [later], fun _ => by rw [same]; exact started, upstream_same paced writes same ?_⟩
    intro first _ pre
    rw [Trace.upstream_stays_along (pre.trans started), pre, started]
  | customized _ _ _ phase later facts _ writes =>
    have same : next.handler.upstreamStarted = scene.handler.upstreamStarted := congrArg Facts.upstreamStarted facts
    have started := paced.started (.inl phase)
    refine ended_paced later (upstream_same paced writes same ?_)
    intro first _ pre
    rw [Trace.upstream_stays_along (pre.trans started), pre, started]
  | gaveUp _ later facts writes =>
    exact ended_paced later (upstream_same paced writes (congrArg Facts.upstreamStarted facts) (fun _ _ _ => rfl))
  | ruled out _ later facts _ writes =>
    exact ended_paced later (upstream_same paced writes (congrArg Facts.upstreamStarted facts)
      (fun first _ _ => ruling_upstream (terminal_ruling out) first))
  | overrun _ later facts _ writes | defaulted _ _ later facts writes | completed _ later facts _ writes =>
    exact ended_paced later (upstream_same paced writes (congrArg Facts.upstreamStarted facts) (fun first _ _ => ruling_upstream rfl first))

end Pace

structure Blank (req : Request) (trace : RequestTraceState) : Prop where
  base : trace.base = none
  unset : trace.terminalSet = false
  upstream : trace.upstream = false
  fresh : trace.metadataSet = false
  routed : trace.routeSet = true → trace.input.method = req.method ∧ trace.input.route = classifyRoute req.method req.path
  modes : trace.input.requestedMode = .unknown ∧ trace.input.upstreamMode = .unknown ∧ trace.input.deliveredMode = .unknown

variable {cfg : Config} {context : Option (Trace.Text × ClockReading × Bool)} {req : Request} {trace : RequestTraceState} {exch : Exchange}

theorem routed_blank {id : Trace.Text} {clock : ClockReading} {created : RequestTraceState}
    (new : Trace.newRequestTraceState id clock = some created) :
    Blank req (created.apply (.setRouteMetadata req.method (boundedEscapedPath req) (classifyRoute req.method req.path))) := by
  unfold Trace.newRequestTraceState at new
  split at new <;> cases new
  simp only [apply, RequestTraceState.setRouteMetadata]
  split
  · exact ⟨rfl, rfl, rfl, rfl, (fun has => by cases has), rfl, rfl, rfl⟩
  · exact ⟨rfl, rfl, rfl, rfl, fun _ => ⟨rfl, rfl⟩, rfl, rfl, rfl⟩

theorem authenticated_blank (blank : Blank req trace) (key keyName : Trace.Text) :
    Blank req (trace.apply (.setAuthentication key keyName)) := by
  simp only [apply, RequestTraceState.setAuthentication]
  split
  · exact blank
  · exact ⟨blank.base, blank.unset, blank.upstream, blank.fresh, blank.routed, blank.modes⟩

theorem opened_trace (begun : newExchange cfg req context = some exch) (traced : exch.trace = some trace) : Blank req trace := by
  unfold newExchange at begun
  split at begun
  · cases begun
    cases traced
  obtain ⟨_, new, rfl⟩ := Option.map_eq_some_iff.mp begun
  cases traced
  cases req.principal with
  | none => exact routed_blank new
  | some principal =>
    dsimp only
    split
    · exact authenticated_blank (routed_blank new) principal.1 principal.2
    · exact routed_blank new

theorem opened_paced {scene : Scene} (begun : newExchange cfg req context = some scene.exchange)
    (handler : scene.handler = newHandler req) : Paced scene := by
  refine ⟨fun _ => by rw [handler]; rfl, by rw [handler]; simp [newHandler, Stage.phase], ?_⟩
  intro trace traced _
  rw [handler]
  exact (opened_trace begun traced).upstream

def Call.late (index : Nat) : Call → Bool
  | .handle other event => decide (other = index) && event.late
  | _ => false

section Runs

variable {sys next : System} {call : Call} {made : Made} {i : Nat} {scene : Scene}

theorem bystander_noted {pre after : Scene} (handler : after.handler = pre.handler) (exch : after.exchange = pre.exchange) :
    Noted cfg pre after false := .idle (idle_same (by rw [handler]) exch) (.inl (by rw [handler]))

-- A step of one exchange alone that tells its trace nothing.
theorem quiet_noted {exch new : Exchange} {alt : Nat} (hit : System.scene { sys with exchanges := sys.exchanges.set alt new } i = some scene)
    (has : sys.exchanges[alt]? = some exch) (quiet : Unheard exch new) : ∃ pre, sys.scene i = some pre ∧ Noted cfg pre scene false := by
  obtain ⟨dealt, exchanged, _, _⟩ := scene_iff.mp hit
  by_cases same : alt = i
  · subst same
    rw [List.getElem?_set_self (List.getElem?_eq_some_iff.mp has).1] at exchanged
    obtain rfl := Option.some.inj exchanged
    exact ⟨⟨sys.lifecycle, sys.worker, scene.handler, exch⟩, scene_iff.mpr ⟨dealt, has, rfl, rfl⟩, .idle ⟨rfl, quiet⟩ (.inl rfl)⟩
  · simp only [List.getElem?_set_ne same] at exchanged
    exact ⟨⟨sys.lifecycle, sys.worker, scene.handler, scene.exchange⟩, scene_iff.mpr ⟨dealt, exchanged, rfl, rfl⟩, bystander_noted rfl rfl⟩

-- A step of the system as one request sees it. It opens the request, is the
-- handler's own step, or writes nothing.
theorem scene_step (paired : sys.handlers.length = sys.exchanges.length) (ran : step cfg sys call = some (next, made))
    (hit : next.scene i = some scene) :
    (∃ pre, sys.scene i = some pre ∧ Noted cfg pre scene (call.late i)) ∨
      (i = sys.handlers.length ∧ call.late i = false ∧
        ∃ req context, newExchange cfg req context = some scene.exchange ∧ scene.handler = newHandler req) := by
  cases step_outcome ran with
  | arrived req context _ begun =>
    obtain ⟨dealt, exchanged, life, worker⟩ := scene_iff.mp hit
    simp only [Roster.lookup_append, ← paired] at dealt exchanged
    by_cases new : sys.handlers.length = i
    · subst new
      simp only [if_true, Option.some.injEq] at dealt exchanged
      exact .inr ⟨rfl, rfl, req, context, exchanged ▸ begun, dealt.symm⟩
    · simp only [new, if_false] at dealt exchanged
      exact .inl ⟨⟨sys.lifecycle, sys.worker, scene.handler, scene.exchange⟩, scene_iff.mpr ⟨dealt, exchanged, rfl, rfl⟩,
        bystander_noted rfl rfl⟩
  | handled alt _ pre after _ has move =>
    by_cases same : alt = i
    · subst same
      obtain rfl := Option.some.inj ((restored_scene after has).symm.trans hit)
      refine .inl ⟨pre, has, ?_⟩
      simpa [Call.late] using move_noted move
    · obtain ⟨past, there, handler, exch, _, _⟩ := bystander_scene same hit
      refine .inl ⟨past, there, ?_⟩
      simpa [Call.late, same] using bystander_noted handler exch
  | used | settled | worked =>
    obtain ⟨dealt, exchanged, _, _⟩ := scene_iff.mp hit
    exact .inl ⟨⟨sys.lifecycle, sys.worker, scene.handler, scene.exchange⟩, scene_iff.mpr ⟨dealt, exchanged, rfl, rfl⟩,
      bystander_noted rfl rfl⟩
  | finished _ usage cost lastSeen clock _ _ has => exact .inl (quiet_noted hit has (finish_quiet _ usage cost lastSeen clock))
  | completed _ clock _ has => exact .inl (quiet_noted hit has (complete_quiet _ clock))

theorem handlers_grow (ran : step cfg sys call = some (next, made)) : sys.handlers.length ≤ next.handlers.length := by
  cases step_outcome ran with
  | arrived => simp
  | handled => simp [System.restore]
  | _ => exact Nat.le_refl _

theorem late_inside (ran : step cfg sys call = some (next, made)) (late : call.late i = true) : i < sys.handlers.length := by
  cases step_outcome ran with
  | handled _ _ _ _ _ has =>
    simp only [Call.late, Bool.and_eq_true, decide_eq_true_eq] at late
    obtain ⟨rfl, _⟩ := late
    exact (List.getElem?_eq_some_iff.mp (scene_iff.mp has).1).1
  | _ => cases late

structure Tracked (property : Bool → Scene → Prop) (past : List Call) (sys : System) : Prop where
  paired : sys.handlers.length = sys.exchanges.length
  scenes : ∀ i scene, sys.scene i = some scene → property (past.any (Call.late i)) scene
  unborn : ∀ i, sys.handlers.length ≤ i → past.any (Call.late i) = false

theorem tracked_step {property : Bool → Scene → Prop} {past : List Call}
    (opens : ∀ scene req context, newExchange cfg req context = some scene.exchange → scene.handler = newHandler req → property false scene)
    (keeps : ∀ late pre after new, property late pre → Noted cfg pre after new → property (new || late) after) (ok : Sound sys)
    (tracked : Tracked property past sys) (ran : step cfg sys call = some (next, made)) :
    Tracked property (past ++ [call]) next := by
  refine ⟨(sound_step ok ran).paired, ?_, ?_⟩
  · intro i scene hit
    simp only [List.any_append, List.any_cons, List.any_nil, Bool.or_false]
    rw [Bool.or_comm]
    obtain ⟨pre, has, noted⟩ | ⟨rfl, early, req, context, begun, handler⟩ := scene_step tracked.paired ran hit
    · exact keeps _ pre scene _ (tracked.scenes i pre has) noted
    · rw [early, tracked.unborn _ (Nat.le_refl _)]
      exact opens scene req context begun handler
  · intro i outside
    have grown := handlers_grow ran
    have unborn := tracked.unborn i (Nat.le_trans grown outside)
    cases late : call.late i with
    | false => simp [unborn, late]
    | true =>
      have inside := late_inside ran late
      omega

theorem scene_run (property : Bool → Scene → Prop)
    (opens : ∀ scene req context, newExchange cfg req context = some scene.exchange → scene.handler = newHandler req → property false scene)
    (keeps : ∀ late pre after new, property late pre → Noted cfg pre after new → property (new || late) after)
    {slots : Option Nat} {tokens budgets : Bool} {worker : Option (Int × Int)} {cs : List Call}
    {outs : List Made} (run : Transition.execute (step cfg) (newSystem slots tokens budgets worker) cs = some (sys, outs))
    (hit : sys.scene i = some scene) : property (cs.any (Call.late i)) scene := by
  have tracked : Tracked property cs sys := by
    refine Transition.run_traced (fun past _ sys => Tracked property past sys) ?_ ?_ Transition.along_always run
    · intro past told st call next rep got tracked _ transition
      exact tracked_step opens keeps (sound_run got) tracked transition
    · refine ⟨rfl, ?_, fun _ _ => rfl⟩
      intro i scene hit
      have dealt := (scene_iff.mp hit).1
      simp [newSystem] at dealt
  exact tracked.scenes i scene hit

end Runs

def Scene.summary (scene : Scene) : Stage × Nat × Option Bool × Bool :=
  (scene.handler.stage, scene.exchange.emitted.length, scene.exchange.completion.map Completion.CompletionOwnership.finalized,
    scene.exchange.trace.isSome)

theorem summary_returned {out : Option (System × List Made)} (count : Nat) (through : out.isSome = true)
    (got : ((out.get through).1.scene 0).map Scene.summary = some (.returned, count, some true, true)) : ∃ system replies scene ownership trace,
      out = some (system, replies) ∧ system.scene 0 = some scene ∧ scene.handler.stage = .returned ∧ scene.exchange.emitted.length = count ∧
        scene.exchange.completion = some ownership ∧ ownership.finalized = true ∧ scene.exchange.trace = some trace := by
  obtain ⟨scene, hit, same⟩ := Option.map_eq_some_iff.mp got
  simp only [Scene.summary, Prod.mk.injEq] at same
  obtain ⟨back, emitted, comp, isTraced⟩ := same
  obtain ⟨own, has, fin⟩ := Option.map_eq_some_iff.mp comp
  obtain ⟨trace, traced⟩ := Option.isSome_iff_exists.mp isTraced
  exact ⟨_, _, scene, own, trace, Transition.outcome_get through, hit, back, emitted, has, fin, traced⟩

end NineGateway.Proxy
