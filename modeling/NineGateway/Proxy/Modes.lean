import NineGateway.Proxy.Returning
import NineGateway.Proxy.Tracing

set_option autoImplicit false

namespace NineGateway.Proxy

open Trace (Text RequestTraceState ClockReading RequestMode ResponseMode)
open Trace.Facets Scene

structure Modes where
  requested : RequestMode
  upstream : ResponseMode
  delivered : ResponseMode
deriving DecidableEq

def tracedModes (trace : RequestTraceState) : Modes := ⟨trace.input.requestedMode, trace.input.upstreamMode, trace.input.deliveredMode⟩

-- The modes the handler tells its trace. A custom dispatch tells no delivery.
def writtenModes (config : Config) (handler : Handler) : Modes :=
  match handler.response with
  | none => ⟨requestedMode handler.metadata, .unknown, .unknown⟩
  | some response =>
    ⟨requestedMode handler.metadata, classifyActualResponseHeader config.strings response.contentTypes,
      if config.responseDispatch then .unknown else deliveredMode config.strings handler.request handler.metadata response⟩

-- The answers whose modes the validator refuses: a redirect with a media type
-- that is not opaque, JSON for a request that asked for a stream, and a stream
-- for one that asked for none and is not converted.
def ModesConflict (strings : Strings) (request : Request) (metadata : Option RequestMetadata) (response : UpstreamResponse) : Prop :=
  let actual := classifyActualResponseHeader strings response.contentTypes
  if response.redirects then actual = .json ∨ actual = .sse
  else actual = .json ∧ metadata.bind RequestMetadata.stream = some true ∨
    actual = .sse ∧ metadata.bind RequestMetadata.stream = some false ∧ ¬(request.method = methodPost ∧ request.path = chatCompletionsPath)

section Classes

variable (strings : Strings)

theorem classifiers_agree (contentTypes : List Text) :
    classifyActualResponseHeader strings contentTypes = .unknown ∧ classifyResponseHeader strings contentTypes = .opaque_ ∨
      classifyActualResponseHeader strings contentTypes = classifyResponseHeader strings contentTypes ∧
        classifyResponseHeader strings contentTypes ≠ .unknown := by
  match contentTypes with
  | [] => exact .inl ⟨rfl, rfl⟩
  | [contentType] =>
    simp only [classifyActualResponseHeader, classifyResponseHeader, classifyResponse]
    cases strings.mediaType contentType with
    | none => exact .inl ⟨rfl, rfl⟩
    | some =>
      refine .inr ⟨rfl, ?_⟩
      simp only
      split
      · decide
      · split <;> decide
  | _ :: _ :: _ => exact .inl ⟨rfl, rfl⟩

variable (req : Request)
variable (data : Option RequestMetadata)

theorem delivered_known (resp : UpstreamResponse) : deliveredMode strings req data resp ≠ .unknown := by
  have known : responseMode strings resp ≠ .unknown := by
    unfold responseMode
    split
    · decide
    · rcases classifiers_agree strings resp.contentTypes with ⟨_, header⟩ | ⟨_, header⟩
      · rw [header]
        decide
      · exact header
  unfold deliveredMode
  split
  · decide
  · exact known

theorem redirect_delivers {resp : UpstreamResponse} (redirects : resp.redirects = true) (req : Request) (data : Option RequestMetadata) :
    deliveredMode strings req data resp = .opaque_ := by
  have mode : responseMode strings resp = .opaque_ := by simp [responseMode, redirects]
  have unconverted : shouldAggregateSSE req data .opaque_ = false := by
    unfold shouldAggregateSSE
    split <;> simp
  simp [deliveredMode, mode, unconverted]

theorem aggregate_iff : shouldAggregateSSE req data .sse = true ↔ (req.method = methodPost ∧ req.path = chatCompletionsPath)
    ∧ data.bind RequestMetadata.stream = some false := by
  unfold shouldAggregateSSE
  by_cases method : req.method = methodPost <;> by_cases path : req.path = chatCompletionsPath <;> simp [method, path]

theorem delivered_modes_iff (resp : UpstreamResponse) :
    Trace.firstFault (Trace.modeFaults (requestedMode data) (classifyActualResponseHeader strings resp.contentTypes)
      (deliveredMode strings req data resp)) = none ↔ ¬ModesConflict strings req data resp := by
  unfold ModesConflict
  cases redirects : resp.redirects with
  | true =>
    rw [redirect_delivers strings redirects]
    cases classifyActualResponseHeader strings resp.contentTypes <;> simp [Trace.first_fault_none, Trace.modeFaults]
  | false =>
    have mode : responseMode strings resp = classifyResponseHeader strings resp.contentTypes := by simp [responseMode, redirects]
    rcases classifiers_agree strings resp.contentTypes with ⟨actual, header⟩ | ⟨actual, known⟩
    · simp [deliveredMode, mode, header, actual, Trace.first_fault_none, Trace.modeFaults]
    cases header : classifyResponseHeader strings resp.contentTypes with
    | unknown => exact absurd header known
    | opaque_ => simp [deliveredMode, mode, header, actual, Trace.first_fault_none, Trace.modeFaults]
    | json =>
      cases stream : data.bind RequestMetadata.stream with
      | none => simp [deliveredMode, mode, header, actual, Trace.first_fault_none, Trace.modeFaults, requestedMode, stream]
      | some flag =>
        cases flag <;> simp [deliveredMode, mode, header, actual, Trace.first_fault_none, Trace.modeFaults, requestedMode, stream]
    | sse =>
      have aggregates := aggregate_iff req data
      by_cases converted : shouldAggregateSSE req data .sse = true
      · obtain ⟨chats, stream⟩ := aggregates.mp converted
        simp [deliveredMode, mode, header, actual, converted, Trace.first_fault_none, Trace.modeFaults, requestedMode, stream, chats]
      cases stream : data.bind RequestMetadata.stream with
      | none =>
        simp [deliveredMode, mode, header, actual, converted, Trace.first_fault_none, Trace.modeFaults, requestedMode, stream]
      | some flag =>
        cases flag with
        | true =>
          simp [deliveredMode, mode, header, actual, converted, Trace.first_fault_none, Trace.modeFaults, requestedMode, stream]
        | false =>
          have apart : ¬(req.method = methodPost ∧ req.path = chatCompletionsPath) :=
            fun chats => converted (aggregates.mpr ⟨chats, stream⟩)
          simp [deliveredMode, mode, header, actual, converted, Trace.first_fault_none, Trace.modeFaults, requestedMode, stream, apart]

theorem undelivered_modes (asked : RequestMode) (upstream : ResponseMode) :
    Trace.firstFault (Trace.modeFaults asked upstream .unknown) = none := by
  cases asked <;> cases upstream <;> rfl

end Classes

def modesIn (facets : Trace.Facets) : Modes := ⟨facets.requestedMode, facets.upstreamMode, facets.deliveredMode⟩

def RoutedIn (req : Request) (facets : Trace.Facets) : Prop :=
  facets.routeSet = true → facets.method = req.method ∧ facets.route = classifyRoute req.method req.path

structure Moded (cfg : Config) (scene : Scene) : Prop where
  undescribed : scene.handler.stage.phase = .inspecting →
    scene.handler.metadata = none ∧ ∀ trace, scene.exchange.trace = some trace → trace.metadataSet = false
  inspected : scene.handler.metadata = none ∨ scene.handler.request.inspectable = true
  unanswered : scene.handler.stage.phase = .inspecting ∨ scene.handler.stage.phase = .early ∨ scene.handler.stage.phase = .awaiting →
    scene.handler.response = none
  routed : ∀ trace, scene.exchange.trace = some trace → RoutedIn scene.handler.request trace.facets
  written : ∀ trace, scene.exchange.trace = some trace → trace.base = none ∨ trace.input.deliveredMode ≠ .unknown →
    tracedModes trace = writtenModes cfg scene.handler

structure Alike (past trace : RequestTraceState) : Prop where
  opened : trace.base = none → past.base = none
  facets : ∃ flag, trace.facets = { past.facets with upstream := flag }

section Written

variable {cfg : Config} {scene next : Scene} {late : Bool} {cs : List Trace.Call}

theorem writes_alike (writes : Writes scene.exchange next.exchange cs)
    (kept : ∀ first : RequestTraceState, first.base = none → ∃ flag, (cs.foldl RequestTraceState.apply first).facets =
      { first.facets with upstream := flag }) :
    ∀ trace, next.exchange.trace = some trace → ∃ past, scene.exchange.trace = some past ∧ Alike past trace := by
  intro trace hit
  obtain ⟨past, has, ⟨frozen, facets, _⟩ | ⟨first, base, begun, facets, _, _, _, idly⟩⟩ := writes_cases writes hit
  · refine ⟨past, has, ?_, past.upstream, facets⟩
    intro begun
    simp [begun] at frozen
  · obtain ⟨flag, same⟩ := kept first base
    exact ⟨past, has, fun _ => begun, flag, by rw [Trace.idly_facets idly, same, facets]⟩

theorem alike_modes {past trace : RequestTraceState} (alike : Alike past trace) : tracedModes trace = tracedModes past ∧
    trace.metadataSet = past.metadataSet ∧ ∀ req, RoutedIn req past.facets → RoutedIn req trace.facets := by
  obtain ⟨_, facets⟩ := alike.facets
  refine ⟨congrArg modesIn facets, congrArg metadataSet facets, fun req routed => ?_⟩
  rw [facets]
  exact routed

theorem written_facts (cfg : Config) {handler alt : Handler} (facts : ∃ begun, alt.facts = { handler.facts with upstreamStarted := begun }) :
    writtenModes cfg alt = writtenModes cfg handler := by
  obtain ⟨_, facts⟩ := facts
  have req : alt.request = handler.request := congrArg Facts.request facts
  have data : alt.metadata = handler.metadata := congrArg Facts.metadata facts
  have resp : alt.response = handler.response := congrArg Facts.response facts
  simp only [writtenModes, req, data, resp]

theorem alike_moded (moded : Moded cfg scene) (facts : ∃ begun, next.handler.facts = { scene.handler.facts with upstreamStarted := begun })
    (first : next.handler.stage.phase = .inspecting → scene.handler.stage.phase = .inspecting)
    (pre : next.handler.stage.phase = .inspecting ∨ next.handler.stage.phase = .early ∨ next.handler.stage.phase = .awaiting →
      scene.handler.stage.phase = .inspecting ∨ scene.handler.stage.phase = .early ∨ scene.handler.stage.phase = .awaiting)
    (alike : ∀ trace, next.exchange.trace = some trace → ∃ past, scene.exchange.trace = some past ∧ Alike past trace) :
    Moded cfg next := by
  have modes := written_facts cfg facts
  obtain ⟨_, facts⟩ := facts
  have req : next.handler.request = scene.handler.request := congrArg Facts.request facts
  have data : next.handler.metadata = scene.handler.metadata := congrArg Facts.metadata facts
  have resp : next.handler.response = scene.handler.response := congrArg Facts.response facts
  refine ⟨?_, ?_, ?_, ?_, ?_⟩
  · intro phase
    obtain ⟨unread, unset⟩ := moded.undescribed (first phase)
    refine ⟨data.trans unread, ?_⟩
    intro trace hit
    obtain ⟨past, has, same⟩ := alike trace hit
    rw [(alike_modes same).2.1, unset past has]
  · rw [data, req]
    exact moded.inspected
  · intro phase
    rw [resp, moded.unanswered (pre phase)]
  · intro trace hit
    obtain ⟨past, has, same⟩ := alike trace hit
    rw [req]
    exact (alike_modes same).2.2 _ (moded.routed past has)
  · intro trace hit holds
    obtain ⟨past, has, same⟩ := alike trace hit
    obtain ⟨traced, _⟩ := alike_modes same
    have given : trace.input.deliveredMode = past.input.deliveredMode := congrArg Modes.delivered traced
    rw [traced, modes]
    exact moded.written past has (holds.imp same.opened (fun known => by rw [← given]; exact known))

variable {req : Request} {data : Option RequestMetadata} {trace : RequestTraceState} {first : RequestTraceState}
variable {call : Trace.Call}

theorem unanswered_undelivered (moded : Moded cfg scene) (unanswered : scene.handler.response = none)
    (traced : scene.exchange.trace = some trace) : trace.input.deliveredMode = .unknown := by
  by_contra known
  have written := congrArg Modes.delivered (moded.written trace traced (.inr known))
  simp only [writtenModes, unanswered] at written
  exact known written

theorem idle_alike (writes : Writes scene.exchange next.exchange []) :
    ∀ trace, next.exchange.trace = some trace → ∃ past, scene.exchange.trace = some past ∧ Alike past trace :=
  writes_alike writes (fun first _ => ⟨first.upstream, rfl⟩)

theorem ruling_alike (ruling : call.ruling = true) (writes : Writes scene.exchange next.exchange [call]) :
    ∀ trace, next.exchange.trace = some trace → ∃ past, scene.exchange.trace = some past ∧ Alike past trace :=
  writes_alike writes (fun first _ => ⟨first.upstream, Trace.ruling_facets ruling⟩)

theorem ended_moded (moded : Moded cfg scene) (facts : next.handler.facts = scene.handler.facts) (later : next.handler.stage.phase = .ending)
    (alike : ∀ trace, next.exchange.trace = some trace → ∃ past, scene.exchange.trace = some past ∧ Alike past trace) : Moded cfg next :=
  alike_moded moded ⟨scene.handler.upstreamStarted, facts⟩ (by simp [later]) (by simp [later]) alike

theorem described_valid (req : Request) (data : Option RequestMetadata) :
    (Trace.validBoundedText req.method 32 && Trace.validBoundedText (boundedEscapedPath req) 2048 &&
      Trace.validBoundedText (tracedModel data) 512) = Trace.validBoundedText req.method 32 := by
  have path : Trace.validBoundedText (boundedEscapedPath req) 2048 = true := by
    unfold boundedEscapedPath
    split
    · assumption
    · exact Trace.empty_text_valid 2048
  have model : Trace.validBoundedText (tracedModel data) 512 = true := by
    unfold tracedModel
    split
    · exact Trace.empty_text_valid 512
    · split
      · assumption
      · exact Trace.empty_text_valid 512
  rw [path, model, Bool.and_true, Bool.and_true]

theorem inspectable_valid (inspectable : req.inspectable = true) : Trace.validBoundedText req.method 32 = true := by
  have method : req.method = methodPost := by
    simp only [Request.inspectable, Bool.and_eq_true, decide_eq_true_eq] at inspectable
    exact inspectable.1
  rw [method]
  decide +kernel

theorem described_modes (inspectable : data = none ∨ req.inspectable = true) (begun : first.base = none) (new : first.metadataSet = false)
    (routed : RoutedIn req first.facets) (blank : modesIn first.facets = ⟨.unknown, .unknown, .unknown⟩) :
    RoutedIn req (first.apply (describing req data)).facets ∧
      modesIn (first.apply (describing req data)).facets = ⟨requestedMode data, .unknown, .unknown⟩ := by
  have facets : (first.apply (describing req data)).facets =
      if Trace.validBoundedText req.method 32 && Trace.validBoundedText (boundedEscapedPath req) 2048 &&
          Trace.validBoundedText (tracedModel data) 512 then
        { first.facets with
          method := req.method, route := classifyRoute req.method req.path, model := tracedModel data
          requestedMode := requestedMode data, routeSet := true, metadataSet := true }
      else first.facets := Trace.metadata_facets begun new routed
  rw [described_valid] at facets
  rw [facets]
  split
  · obtain ⟨_, upstream, given⟩ := Modes.mk.inj blank
    exact ⟨fun _ => ⟨rfl, rfl⟩, by rw [modesIn, upstream, given]⟩
  rename_i invalid
  refine ⟨routed, ?_⟩
  rcases inspectable with rfl | inspectable
  · exact blank
  · exact absurd (inspectable_valid inspectable) invalid

-- What the trace of an unanswered request says once it was told these calls.
theorem told_moded (moded : Moded cfg scene) (unanswered : scene.handler.response = none) (req : next.handler.request = scene.handler.request)
    (writes : Writes scene.exchange next.exchange cs)
    (told : ∀ first past : RequestTraceState, first.base = none → scene.exchange.trace = some past → past.base = none →
      first.facets = past.facets → RoutedIn scene.handler.request (cs.foldl RequestTraceState.apply first).facets ∧
        modesIn (cs.foldl RequestTraceState.apply first).facets = writtenModes cfg next.handler) {trace : RequestTraceState}
    (hit : next.exchange.trace = some trace) : RoutedIn next.handler.request trace.facets ∧
      (trace.base = none ∨ trace.input.deliveredMode ≠ .unknown → tracedModes trace = writtenModes cfg next.handler) := by
  rw [req]
  obtain ⟨past, has, ⟨frozen, facets, _⟩ | ⟨first, base, begun, facets, _, _, _, idly⟩⟩ := writes_cases writes hit
  · refine ⟨?_, ?_⟩
    · rw [facets]
      exact moded.routed past has
    · rintro (begun | known)
      · simp [begun] at frozen
      · exact absurd ((congrArg Trace.Facets.deliveredMode facets).trans (unanswered_undelivered moded unanswered has)) known
  · have same := Trace.idly_facets idly
    obtain ⟨routed, modes⟩ := told first past base has begun facets
    rw [same]
    exact ⟨routed, fun _ => (congrArg modesIn same).trans modes⟩

theorem heading_facets (cfg : Config) (resp : UpstreamResponse) (clock : ClockReading) (begun : first.base = none)
    (started : first.upstream = true) (unset : first.input.upstreamMode = .unknown) :
    ((heading cfg resp clock).foldl RequestTraceState.apply first).facets =
        { first.facets with upstreamMode := classifyActualResponseHeader cfg.strings resp.contentTypes } ∧
      ((heading cfg resp clock).foldl RequestTraceState.apply first).base = none := by
  have headed := Trace.headers_facets started resp.status clock
  have still : (first.apply (.setUpstreamHeaders resp.status clock)).base = none :=
    (Trace.apply_applied first (.setUpstreamHeaders resp.status clock) (fun _ same => by cases same)).base.trans begun
  unfold heading
  split
  · rename_i unknown
    refine ⟨?_, still⟩
    show (first.apply (.setUpstreamHeaders resp.status clock)).facets = _
    rw [headed, unknown, ← unset]
    rfl
  · rename_i known
    have mode : (first.apply (.setUpstreamHeaders resp.status clock)).input.upstreamMode = .unknown :=
      (congrArg upstreamMode headed).trans unset
    have upstream : (first.apply (.setUpstreamHeaders resp.status clock)).upstream = true :=
      (congrArg upstream headed).trans started
    refine ⟨?_, (Trace.apply_applied _ (.setUpstreamResponseMode _) (fun _ same => by cases same)).base.trans still⟩
    show ((first.apply (.setUpstreamHeaders resp.status clock)).apply (.setUpstreamResponseMode _)).facets = _
    rw [Trace.upstream_mode_facets still upstream mode known, headed]

theorem described_moded (moded : Moded cfg scene) (inspectable : data = none ∨ scene.handler.request.inspectable = true)
    (phase : scene.handler.stage.phase = .inspecting) (later : next.handler.stage.phase = .early)
    (facts : next.handler.facts = { scene.handler.facts with metadata := data })
    (writes : Writes scene.exchange next.exchange [describing scene.handler.request data]) : Moded cfg next := by
  have req : next.handler.request = scene.handler.request := congrArg Facts.request facts
  have read : next.handler.metadata = data := congrArg Facts.metadata facts
  have unanswered := moded.unanswered (.inl phase)
  have resp : next.handler.response = none := (congrArg Facts.response facts).trans unanswered
  obtain ⟨unread, new⟩ := moded.undescribed phase
  -- An open trace has no mode yet and takes the metadata.
  have told := @told_moded _ _ _ _ moded unanswered req writes (by
    intro first past base has begun facets
    have blank : modesIn first.facets = ⟨.unknown, .unknown, .unknown⟩ := by
      refine (congrArg modesIn facets).trans ((moded.written past has (.inl begun)).trans ?_)
      simp [writtenModes, unanswered, unread, requestedMode]
    have routed : RoutedIn scene.handler.request first.facets := by
      rw [facets]
      exact moded.routed past has
    obtain ⟨routed, modes⟩ := described_modes inspectable base ((congrArg metadataSet facets).trans (new past has)) routed blank
    refine ⟨routed, modes.trans ?_⟩
    simp only [writtenModes, resp, read])
  refine ⟨by simp [later], ?_, fun _ => resp, fun _ hit => (told hit).1, fun _ hit => (told hit).2⟩
  rw [read, req]
  exact inspectable

theorem response_moded (moded : Moded cfg scene) (paced : Paced scene) {resp : UpstreamResponse} {clock : ClockReading}
    (phase : scene.handler.stage.phase = .awaiting) (later : next.handler.stage.phase = .responding ∨ next.handler.stage.phase = .ending)
    (facts : next.handler.facts = { scene.handler.facts with response := some resp })
    (writes : Writes scene.exchange next.exchange (heading cfg resp clock ++ [call]))
    (delivers : ∀ headed : RequestTraceState, headed.base = none → headed.input.deliveredMode = .unknown →
      (headed.apply call).facets = { headed.facets with
        deliveredMode := if cfg.responseDispatch then .unknown
          else deliveredMode cfg.strings scene.handler.request scene.handler.metadata resp }) : Moded cfg next := by
  have req : next.handler.request = scene.handler.request := congrArg Facts.request facts
  have data : next.handler.metadata = scene.handler.metadata := congrArg Facts.metadata facts
  have answered : next.handler.response = some resp := congrArg Facts.response facts
  have unanswered := moded.unanswered (.inr (.inr phase))
  have told := @told_moded _ _ _ _ moded unanswered req writes (by
    intro first past base has begun facets
    have modes := moded.written past has (.inl begun)
    simp only [writtenModes, unanswered, tracedModes, Modes.mk.injEq] at modes
    have started : first.upstream = true :=
      (congrArg upstream facets).trans ((paced.upstream past has begun).trans (paced.started (.inl phase)))
    obtain ⟨headed, still⟩ := heading_facets cfg resp clock base started ((congrArg upstreamMode facets).trans modes.2.1)
    have undelivered : ((heading cfg resp clock).foldl RequestTraceState.apply first).input.deliveredMode = .unknown :=
      (congrArg Trace.Facets.deliveredMode headed).trans ((congrArg Trace.Facets.deliveredMode facets).trans modes.2.2)
    rw [List.foldl_append]
    simp only [List.foldl_cons, List.foldl_nil]
    rw [delivers _ still undelivered, headed, facets]
    refine ⟨moded.routed past has, ?_⟩
    simp only [modesIn, writtenModes, answered, req, data, ← modes.1]
    rfl)
  have ended : next.handler.stage.phase ≠ .inspecting ∧ next.handler.stage.phase ≠ .early ∧ next.handler.stage.phase ≠ .awaiting := by
    rcases later with later | later <;> simp [later]
  refine ⟨fun phase => absurd phase ended.1, ?_, ?_, fun _ hit => (told hit).1, fun _ hit => (told hit).2⟩
  · rw [data, req]
    exact moded.inspected
  · rintro (phase | phase | phase)
    · exact absurd phase ended.1
    · exact absurd phase ended.2.1
    · exact absurd phase ended.2.2

theorem noted_moded (paced : Paced scene) (moded : Moded cfg scene) (noted : Noted cfg scene next late) : Moded cfg next := by
  cases noted with
  | idle idle phase =>
    rcases phase with phase | phase
    · exact alike_moded moded ⟨scene.handler.upstreamStarted, idle.facts⟩ (by rw [phase]; exact id) (by rw [phase]; exact id)
        (idle_alike idle.quiet.writes)
    · exact ended_moded moded idle.facts phase (idle_alike idle.quiet.writes)
  | described _ inspectable phase later facts _ writes => exact described_moded moded inspectable phase later facts writes
  | started clock phase later facts _ writes =>
    refine alike_moded moded ⟨true, facts⟩ (by simp [later]) (fun _ => .inr (.inl phase)) (writes_alike writes ?_)
    exact fun first base => ⟨true, Trace.start_facets base clock⟩
  | answered resp _ builtin phase later facts _ writes =>
    refine response_moded moded paced phase (.inl later) facts writes ?_
    intro headed base undelivered
    rw [Trace.delivered_mode_facets base undelivered (delivered_known cfg.strings _ _ resp), builtin]
    rfl
  | customized _ _ custom phase later facts _ writes =>
    refine response_moded moded paced phase (.inr later) facts writes ?_
    intro headed base undelivered
    rw [Trace.ruling_facets rfl, custom, if_pos rfl, ← undelivered]
    rfl
  | gaveUp _ later facts writes => exact ended_moded moded facts later (idle_alike writes)
  | ruled out _ later facts _ writes => exact ended_moded moded facts later (ruling_alike (terminal_ruling out) writes)
  | overrun _ later facts _ writes | defaulted _ _ later facts writes | completed _ later facts _ writes =>
    exact ended_moded moded facts later (ruling_alike rfl writes)

theorem opened_moded {context : Option (Text × ClockReading × Bool)} (begun : newExchange cfg req context = some scene.exchange)
    (handler : scene.handler = newHandler req) : Moded cfg scene := by
  refine ⟨?_, by rw [handler]; exact .inl rfl, fun _ => by rw [handler]; rfl, ?_, ?_⟩
  · intro _
    exact ⟨by rw [handler]; rfl, fun trace traced => (opened_trace begun traced).fresh⟩
  · intro trace traced
    rw [handler]
    exact (opened_trace begun traced).routed
  · intro trace traced _
    obtain ⟨asked, upstream, given⟩ := (opened_trace begun traced).modes
    rw [handler]
    simp [tracedModes, writtenModes, newHandler, asked, upstream, given, requestedMode]

-- Where a delivery reached the trace, its answer is none the validator refuses.
def ModesAgree (config : Config) (handler : Handler) (trace : RequestTraceState) : Prop :=
  trace.input.deliveredMode ≠ .unknown → ∀ response, handler.response = some response →
    ¬ModesConflict config.strings handler.request handler.metadata response

theorem modes_pass_iff (moded : Moded cfg scene) (traced : scene.exchange.trace = some trace) :
    trace.ModesPass ↔ ModesAgree cfg scene.handler trace := by
  by_cases unknown : trace.input.deliveredMode = .unknown
  · have passes : trace.ModesPass := by
      unfold RequestTraceState.ModesPass
      rw [unknown]
      exact undelivered_modes _ _
    exact ⟨fun _ known => absurd unknown known, fun _ => passes⟩
  · have modes := moded.written trace traced (.inr unknown)
    unfold writtenModes at modes
    split at modes
    · exact absurd (congrArg Modes.delivered modes) unknown
    rename_i resp told
    have asked : trace.input.requestedMode = _ := congrArg Modes.requested modes
    have upstream : trace.input.upstreamMode = _ := congrArg Modes.upstream modes
    have given : trace.input.deliveredMode = _ := congrArg Modes.delivered modes
    cases custom : cfg.responseDispatch with
    | true =>
      rw [custom] at given
      exact absurd given unknown
    | false =>
      simp only [custom, Bool.false_eq_true, if_false] at given
      unfold RequestTraceState.ModesPass ModesAgree
      rw [asked, upstream, given, delivered_modes_iff]
      constructor
      · intro agrees _ other same
        rw [told] at same
        exact Option.some.inj same ▸ agrees
      · intro agrees
        exact agrees (delivered_known cfg.strings _ _ resp) resp told

end Written

theorem completed_modes_pass_iff (config : Config) (slots : Option Nat) (tokens budgets : Bool) (worker : Option (Int × Int)) {system : System}
    {calls : List Call} {replies : List Made}
    (run : Transition.execute (step config) (newSystem slots tokens budgets worker) calls = some (system, replies)) {index : Nat} {scene : Scene}
    (found : system.scene index = some scene) {trace : RequestTraceState} (traced : scene.exchange.trace = some trace) :
    (trace.base = none → tracedModes trace = writtenModes config scene.handler) ∧ (trace.ModesPass ↔ ModesAgree config scene.handler trace) ∧
      (∀ clock, (trace.freezeBase clock).2.isSome = true ↔ ModesAgree config scene.handler trace ∧ trace.OutcomePasses) ∧
      ∀ ownership, scene.exchange.completion = some ownership → ownership.finalized = true →
        (scene.exchange.emitted ≠ [] ↔ ModesAgree config scene.handler trace ∧ trace.OutcomePasses) := by
  obtain ⟨recorded, _, moded⟩ := scene_run (fun _ scene => scene.exchange.Recorded ∧ Paced scene ∧ Moded config scene)
    (fun scene req context begun handler => ⟨new_recorded begun, opened_paced begun handler, opened_moded begun handler⟩)
    (fun _ before after _ holds noted =>
      ⟨changes_recorded holds.1 (noted_changes noted), noted_paced holds.2.1 noted, noted_moded holds.2.1 holds.2.2 noted⟩) run found
  obtain ⟨ok, judged⟩ := recorded.sound trace traced
  have passes := modes_pass_iff moded traced
  refine ⟨fun begun => moded.written trace traced (.inl begun), passes, ?_, ?_⟩
  · intro clock
    rw [Trace.freeze_passes ok judged clock, passes]
  · intro ownership has fin
    rw [(recorded.out ownership trace has fin traced).2, passes]

def answeredChat (stream : Bool) (status : Int) : List Call :=
  [.arrive chat (some ("0123456789abcdef0123456789abcdef".toUTF8, instant, true)), .handle 0 (.inspect "key" 2),
    .handle 0 (.describe (some ⟨"model".toUTF8, some stream⟩)),
    .handle 0 (.acquire ⟨"key", 2, [⟨10, 60⟩], 4, Budget.unlimitedBudgetPolicy, .unknown⟩ true false),
    .resources (.advance 0 0), .resources (.advance 0 0), .handle 0 .proceed, .handle 0 (.start instant),
    .handle 0 (.respond ⟨status, [jsonType], []⟩ instant), .handle 0 (.record [123, 125]), .handle 0 (.dispatch none),
    .handle 0 (.conclude false false),
    .handle 0 (.run instant), .handle 0 (.run instant), .settle 0 0, .settle 0 0, .settle 0 0, .settle 0 0, .settle 0 0, .handle 0 (.run instant),
    .handle 0 (.run instant), .handle 0 (.run instant), .handle 0 (.run instant)]

def afterChat (stream : Bool) (status : Int) : Option (System × List Made) :=
  Transition.execute (step plain) (newSystem (some 7) true false none) (answeredChat stream status)

theorem json_chat_runs : (afterChat false 200).isSome = true := by decide +kernel

theorem completed_modes_pass_iff_json : ∃ system replies scene trace, afterChat false 200 = some (system, replies) ∧ system.scene 0 = some scene ∧
    scene.exchange.trace = some trace ∧ scene.handler.stage = .returned ∧ scene.exchange.emitted ≠ [] ∧ ModesAgree plain scene.handler trace := by
  obtain ⟨system, replies, scene, own, trace, run, hit, back, one, has, fin, traced⟩ :=
    summary_returned 1 json_chat_runs (by decide +kernel)
  have emitted : scene.exchange.emitted ≠ [] := List.ne_nil_of_length_pos (by rw [one]; decide)
  obtain ⟨_, _, _, out⟩ := completed_modes_pass_iff plain (some 7) true false none run hit traced
  exact ⟨system, replies, scene, trace, run, hit, traced, back, emitted, ((out own has fin).mp emitted).1⟩

theorem streamed_chat_runs : (afterChat true 429).isSome = true := by decide +kernel

-- A JSON error in answer to a request for a stream leaves no record.
theorem streamed_json_error_unrecorded : ∃ system replies scene ownership, afterChat true 429 = some (system, replies) ∧ system.scene 0 = some scene ∧
    scene.handler.stage = .returned ∧ scene.exchange.completion = some ownership ∧ ownership.finalized = true ∧ scene.exchange.emitted = [] := by
  obtain ⟨system, replies, scene, own, _, run, hit, back, none, has, fin, _⟩ := summary_returned 0 streamed_chat_runs (by decide +kernel)
  exact ⟨system, replies, scene, own, run, hit, back, has, fin, List.length_eq_zero_iff.mp none⟩

end NineGateway.Proxy
