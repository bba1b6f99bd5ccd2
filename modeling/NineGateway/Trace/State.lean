import NineGateway.Clock
import NineGateway.Trace.Record

set_option autoImplicit false

namespace NineGateway.Trace

-- A reading of the trace clock. The wall clock never reads the zero time.
structure ClockReading where
  wall : Int
  mono : Int
  real : wall ≠ zeroTime
deriving DecidableEq, Repr

structure RequestTraceEnrichment where
  usage : Usage
  cost : Money
  timing : CompletionTiming
deriving DecidableEq, Repr

def noEnrichment : RequestTraceEnrichment := ⟨unknownUsage, .unknown, unknownTiming⟩

-- A frozen base is some, and some none when its record was invalid.
structure RequestTraceState where
  input : CompletionRecordInput
  startedMono : Int
  upstreamMono : Int
  lastMono : Int
  lastWall : Int
  upstream : Bool
  upstreamBoundarySet : Bool
  headers : Bool
  firstByte : Bool
  finished : Bool
  finishedMono : Int
  terminalSet : Bool
  authSet : Bool
  metadataSet : Bool
  routeSet : Bool
  usageSet : Bool
  costSet : Bool
  errorSet : Bool
  base : Option (Option CompletionRecord)
  enrichment : RequestTraceEnrichment
  enrichmentUsage : Bool
  enrichmentCost : Bool
  enrichmentSnap : Option RequestTraceEnrichment
deriving DecidableEq

-- The last whole second before the smallest timestamp is left out too.
def newUnixMicros (wall : Int) : UnixMicros :=
  let seconds := wall / 1000000000
  let micros := wall % 1000000000 / 1000
  if 9223372036854 < seconds ∨ (seconds = 9223372036854 ∧ 775807 < micros) ∨ seconds < -9223372036854 then none
  else some (seconds * 1000000 + micros)

-- The difference of two instants saturates at the largest duration.
def durationMicros (start stop : Int) : DurationMicros :=
  if start = zeroTime ∨ stop < start then none else some (min (stop - start) 9223372036854775807 / 1000).toNat

def newRequestTraceState (id : Text) (reading : ClockReading) : Option RequestTraceState :=
  if validRequestID id then
    some
      { input :=
          { requestID := id, keyID := .empty, keyName := .empty, method := .empty, path := .empty, route := .unknown, routeClass := .unknown
            model := .empty, requestedMode := .unknown, upstreamMode := .unknown, actualUpstreamMode := .unknown, deliveredMode := .unknown
            downstreamStatus := none, upstreamStatus := none, terminal := ⟨.unknown, false⟩, errorCode := .unknown, safeErrorCode := .unknown
            clientBytes := none, upstreamBytes := none, deliveredBytes := none, usage := unknownUsage, cost := .unknown
            timing := { unknownTiming with startedAt := newUnixMicros reading.wall } }
        startedMono := reading.mono, upstreamMono := zeroTime, lastMono := reading.mono, lastWall := reading.wall, upstream := false
        upstreamBoundarySet := false, headers := false, firstByte := false, finished := false, finishedMono := zeroTime, terminalSet := false
        authSet := false, metadataSet := false, routeSet := false, usageSet := false, costSet := false, errorSet := false, base := none
        enrichment := noEnrichment, enrichmentUsage := false, enrichmentCost := false, enrichmentSnap := none }
  else none

namespace RequestTraceState

def reading (state : RequestTraceState) (clock : ClockReading) : RequestTraceState :=
  { state with lastWall := clampTime state.lastWall clock.wall, lastMono := clampTime state.lastMono clock.mono }

def setAuthentication (state : RequestTraceState) (keyID keyName : Text) : RequestTraceState × Bool :=
  if !validBoundedText keyID 256 || !validBoundedText keyName 256 || state.base.isSome || state.authSet then (state, false)
  else ({ state with input := { state.input with keyID := keyID, keyName := keyName }, authSet := true }, true)

def setRequestMetadataPath (state : RequestTraceState) (method path : Text) (route : RouteClass) (model : Text) (requestedMode : RequestMode) :
    RequestTraceState × Bool :=
  if !validBoundedText method 32 || !validBoundedText path 2048 || !validBoundedText model 512 then (state, false)
  else if state.base.isSome || state.metadataSet && (state.input.model ≠ .empty || state.input.requestedMode ≠ .unknown) then (state, false)
  else if state.routeSet && (state.input.method ≠ method || state.input.route ≠ route) then (state, false)
  else
    ({ state with
        input :=
          { state.input with
            method := method, route := route, model := model, requestedMode := requestedMode
            path := if path ≠ .empty then path else state.input.path }
        routeSet := true, metadataSet := true }, true)

def setRouteMetadata (state : RequestTraceState) (method path : Text) (route : RouteClass) : RequestTraceState × Bool :=
  if !validBoundedText method 32 || !validBoundedText path 2048 || state.base.isSome || state.routeSet then (state, false)
  else ({ state with input := { state.input with method := method, path := path, route := route }, routeSet := true }, true)

def setUpstreamStart (state : RequestTraceState) (clock : ClockReading) : RequestTraceState × Bool :=
  if state.base.isSome || state.upstream then (state, false)
  else
    let read := state.reading clock
    ({ read with
        upstream := true, upstreamMono := read.lastMono, upstreamBoundarySet := true
        input :=
          { read.input with
            terminal := { read.input.terminal with upstreamStarted := true }
            timing := { read.input.timing with upstreamStartedAt := newUnixMicros read.lastWall } } }, true)

def setUpstreamHeadersStatus (state : RequestTraceState) (status : Fin 1000) (clock : ClockReading) : RequestTraceState × Bool :=
  if state.base.isSome || state.headers then (state, false)
  else
    let read := state.reading clock
    ({ read with
        headers := true, upstream := true
        input :=
          { read.input with
            terminal := { read.input.terminal with upstreamStarted := true }
            upstreamStatus := some status
            timing :=
              { read.input.timing with
                upstreamHeadersAt := newUnixMicros read.lastWall
                timeToUpstreamHeaders :=
                  if read.upstreamBoundarySet then durationMicros read.upstreamMono read.lastMono
                  else read.input.timing.timeToUpstreamHeaders } } }, true)

def newStatus (status : Int) : OptionalStatus := if inside : 0 ≤ status ∧ status ≤ 999 then some ⟨status.toNat, by omega⟩ else none

def setUpstreamHeaders (state : RequestTraceState) (status : Int) (clock : ClockReading) : RequestTraceState × Bool :=
  match newStatus status with
  | none => (state, false)
  | some value => state.setUpstreamHeadersStatus value clock

def setDownstreamStatus (state : RequestTraceState) (status : Int) : RequestTraceState × Bool :=
  match newStatus status with
  | none => (state, false)
  | some value =>
    if state.base.isSome || state.input.downstreamStatus.isSome then (state, false)
    else ({ state with input := { state.input with downstreamStatus := some value } }, true)

def setUpstreamResponseMode (state : RequestTraceState) (mode : ResponseMode) : RequestTraceState × Bool :=
  if mode = .unknown || state.base.isSome || state.input.upstreamMode ≠ .unknown then (state, false)
  else
    ({ state with
        upstream := true
        input :=
          { state.input with
            upstreamMode := mode, actualUpstreamMode := mode, terminal := { state.input.terminal with upstreamStarted := true } } }, true)

def setDeliveredMode (state : RequestTraceState) (mode : ResponseMode) : RequestTraceState × Bool :=
  if mode = .unknown || state.base.isSome || state.input.deliveredMode ≠ .unknown then (state, false)
  else ({ state with input := { state.input with deliveredMode := mode } }, true)

def recordDownstreamWrite (state : RequestTraceState) (written : Int) (successful countZero : Bool) (clock : ClockReading) :
    RequestTraceState × Bool :=
  if written < 0 ∨ written = 0 ∧ countZero = false then (state, false)
  else if state.base.isSome then (state, false)
  else
    let current := state.input.deliveredBytes.getD 0
    if 9223372036854775807 - current < written then (state, false)
    else
      let counted := { state with input := { state.input with deliveredBytes := some (current + written.toNat) } }
      if successful && decide (0 < written) && !state.firstByte then
        let read := counted.reading clock
        ({ read with
            firstByte := true
            input :=
              { read.input with
                timing :=
                  { read.input.timing with
                    firstByteAt := newUnixMicros read.lastWall, timeToFirstByte := durationMicros read.startedMono read.lastMono } } }, true)
      else (counted, true)

def setUsage (state : RequestTraceState) (usage : Usage) : RequestTraceState × Bool :=
  if state.base.isNone then
    if state.usageSet then (state, false) else ({ state with input := { state.input with usage := usage }, usageSet := true }, true)
  else if state.enrichmentSnap.isSome || state.enrichmentUsage then (state, false)
  else ({ state with enrichment := { state.enrichment with usage := usage }, enrichmentUsage := true }, true)

def setCost (state : RequestTraceState) (cost : Money) : RequestTraceState × Bool :=
  if state.base.isNone then
    if state.costSet then (state, false) else ({ state with input := { state.input with cost := cost }, costSet := true }, true)
  else if state.enrichmentSnap.isSome || state.enrichmentCost then (state, false)
  else ({ state with enrichment := { state.enrichment with cost := cost }, enrichmentCost := true }, true)

def setTimingEnrichment (state : RequestTraceState) (delay : DurationMicros) : RequestTraceState × Bool :=
  if delay.isNone || state.enrichmentSnap.isSome || state.enrichment.timing.streamCloseDelay.isSome then (state, false)
  else ({ state with enrichment := { state.enrichment with timing := { state.enrichment.timing with streamCloseDelay := delay } } }, true)

def setErrorCode (state : RequestTraceState) (code : SafeErrorCode) : RequestTraceState × Bool :=
  if code = .unknown || state.base.isSome || state.errorSet then (state, false)
  else ({ state with input := { state.input with errorCode := code, safeErrorCode := code }, errorSet := true }, true)

def cancelled (state : RequestTraceState) : RequestTraceState :=
  { state with input := { state.input with errorCode := .cancellation, safeErrorCode := .cancellation }, errorSet := true }

-- A cancellation may replace an earlier outcome, and only after upstream work
-- began.
def setCancellation (state : RequestTraceState) : RequestTraceState × Bool :=
  if state.base.isSome || !state.upstream then (state, false)
  else ({ state.cancelled with input := { state.cancelled.input with terminal := ⟨.cancelled, true⟩ }, terminalSet := true }, true)

def setTerminalMetadata (state : RequestTraceState) (metadata : TerminalMetadata) : RequestTraceState × Bool :=
  if state.base.isSome || state.terminalSet || metadata.upstreamStarted ≠ state.upstream || metadata.outcome = .preUpstream && state.upstream ||
      metadata.outcome ≠ .unknown && metadata.outcome ≠ .preUpstream && !state.upstream then (state, false)
  else
    let marked := if metadata.outcome = .cancelled then state.cancelled else state
    ({ marked with input := { marked.input with terminal := metadata }, terminalSet := true }, true)

-- Unlike setTerminalMetadata it does not compare the outcome with the flag.
def setTerminalOutcome (state : RequestTraceState) (outcome : TerminalOutcome) : RequestTraceState × Bool :=
  if state.base.isSome || state.terminalSet then (state, false)
  else
    let marked := if outcome = .cancelled then state.cancelled else state
    ({ marked with input := { marked.input with terminal := ⟨outcome, state.upstream⟩ }, terminalSet := true }, true)

def completeLocked (state : RequestTraceState) (clock : ClockReading) : RequestTraceState :=
  if state.finished then state
  else
    let read := state.reading clock
    { read with
      finished := true, finishedMono := read.lastMono, terminalSet := true
      input :=
        { read.input with
          timing := { read.input.timing with finishedAt := newUnixMicros read.lastWall, total := durationMicros read.startedMono read.lastMono }
          terminal :=
            if read.terminalSet then read.input.terminal
            else ⟨if read.upstream then .complete else .preUpstream, read.upstream⟩ } }

def freezeBase (state : RequestTraceState) (clock : ClockReading) : RequestTraceState × Option CompletionRecord :=
  match state.base with
  | some record => (state, record)
  | none =>
    let completed := state.completeLocked clock
    let record := (newCompletionRecord completed.input).toOption
    ({ completed with base := some record }, record)

def freezeEnrichment (state : RequestTraceState) : RequestTraceState × RequestTraceEnrichment :=
  match state.enrichmentSnap with
  | some snap => (state, snap)
  | none => ({ state with enrichmentSnap := some state.enrichment }, state.enrichment)

end RequestTraceState

def Usage.anyKnown (usage : Usage) : Bool :=
  usage.input.isSome || usage.output.isSome || usage.total.isSome || usage.cachedInput.isSome || usage.reasoningOutput.isSome

def mergeRequestTraceEnrichment (base : CompletionRecord) (enrichment : RequestTraceEnrichment) : Except String CompletionRecord :=
  newCompletionRecord
    { base.input with
      usage := if Usage.anyKnown enrichment.usage then enrichment.usage else base.input.usage
      cost := if enrichment.cost.isKnown then enrichment.cost else base.input.cost
      timing :=
        { base.input.timing with
          streamCloseDelay :=
            if enrichment.timing.streamCloseDelay.isSome then enrichment.timing.streamCloseDelay else base.input.timing.streamCloseDelay } }

def RequestTraceState.final (state : RequestTraceState) (clock : ClockReading) : RequestTraceState × Option CompletionRecord :=
  match state.freezeBase clock with
  | (frozen, none) => (frozen, none)
  | (frozen, some base) => (frozen.freezeEnrichment.1, (mergeRequestTraceEnrichment base frozen.freezeEnrichment.2).toOption)

inductive Call where
  | setAuthentication (keyID keyName : Text)
  | setRequestMetadataPath (method path : Text) (route : RouteClass) (model : Text) (requestedMode : RequestMode)
  | setRouteMetadata (method path : Text) (route : RouteClass)
  | setUpstreamStart (clock : ClockReading)
  | setUpstreamHeaders (status : Int) (clock : ClockReading)
  | setDownstreamStatus (status : Int)
  | setUpstreamResponseMode (mode : ResponseMode)
  | setDeliveredMode (mode : ResponseMode)
  | recordDownstreamWrite (written : Int) (successful countZero : Bool) (clock : ClockReading)
  | setUsage (usage : Usage)
  | setCost (cost : Money)
  | setTimingEnrichment (delay : DurationMicros)
  | setErrorCode (code : SafeErrorCode)
  | setCancellation
  | setTerminalMetadata (metadata : TerminalMetadata)
  | setTerminalOutcome (outcome : TerminalOutcome)
  | freezeBase (clock : ClockReading)
  | freezeEnrichment
deriving DecidableEq

def RequestTraceState.apply (state : RequestTraceState) : Call → RequestTraceState
  | .setAuthentication keyID keyName => (state.setAuthentication keyID keyName).1
  | .setRequestMetadataPath method path route model requestedMode => (state.setRequestMetadataPath method path route model requestedMode).1
  | .setRouteMetadata method path route => (state.setRouteMetadata method path route).1
  | .setUpstreamStart clock => (state.setUpstreamStart clock).1
  | .setUpstreamHeaders status clock => (state.setUpstreamHeaders status clock).1
  | .setDownstreamStatus status => (state.setDownstreamStatus status).1
  | .setUpstreamResponseMode mode => (state.setUpstreamResponseMode mode).1
  | .setDeliveredMode mode => (state.setDeliveredMode mode).1
  | .recordDownstreamWrite written successful countZero clock => (state.recordDownstreamWrite written successful countZero clock).1
  | .setUsage usage => (state.setUsage usage).1
  | .setCost cost => (state.setCost cost).1
  | .setTimingEnrichment delay => (state.setTimingEnrichment delay).1
  | .setErrorCode code => (state.setErrorCode code).1
  | .setCancellation => state.setCancellation.1
  | .setTerminalMetadata metadata => (state.setTerminalMetadata metadata).1
  | .setTerminalOutcome outcome => (state.setTerminalOutcome outcome).1
  | .freezeBase clock => (state.freezeBase clock).1
  | .freezeEnrichment => state.freezeEnrichment.1

-- What the validator asks for besides the modes and the terminal outcome holds
-- of every trace.
structure RequestTraceState.Sound (st : RequestTraceState) : Prop where
  identity : firstFault (identityFaults st.input) = none
  spelled : st.input.routeClass = .unknown ∧ st.input.actualUpstreamMode = st.input.upstreamMode ∧
    st.input.safeErrorCode = st.input.errorCode
  real : st.lastWall ≠ zeroTime
  started : ∃ start, st.input.timing.startedAt = newUnixMicros start ∧ start ≤ st.lastWall
  ordered : finishPrecedesStart st.input.timing = false

open RequestTraceState (apply completeLocked final freezeBase reading)

section Soundness

variable {st : RequestTraceState}

theorem new_unix_micros_mono {early late first second : Int} (order : early ≤ late) (one : newUnixMicros early = some first)
    (two : newUnixMicros late = some second) : first ≤ second := by
  simp only [newUnixMicros] at one two
  split at one
  · cases one
  split at two
  · cases two
  · simp only [Option.some.injEq] at one two
    omega

theorem reading_later (real : st.lastWall ≠ zeroTime) (clock : ClockReading) :
    st.lastWall ≤ (st.reading clock).lastWall ∧ (st.reading clock).lastWall ≠ zeroTime := by
  simp only [reading, clampTime]
  split
  · exact ⟨Int.le_refl _, real⟩
  · exact ⟨by omega, clock.real⟩

theorem sound_kept {next : RequestTraceState} (ok : st.Sound) (id : firstFault (identityFaults next.input) = none)
    (spelled : next.input.routeClass = .unknown ∧ next.input.actualUpstreamMode = next.input.upstreamMode ∧
      next.input.safeErrorCode = next.input.errorCode) (begun : next.input.timing.startedAt = st.input.timing.startedAt)
    (fin : next.input.timing.finishedAt = st.input.timing.finishedAt)
    (later : next.lastWall = st.lastWall ∨ ∃ clock, next.lastWall = (st.reading clock).lastWall) : next.Sound := by
  obtain ⟨start, stamp, passed⟩ := ok.started
  have later : st.lastWall ≤ next.lastWall ∧ next.lastWall ≠ zeroTime := by
    rcases later with same | ⟨clock, read⟩
    · exact ⟨Int.le_of_eq same.symm, same ▸ ok.real⟩
    · rw [read]
      exact reading_later ok.real clock
  refine ⟨id, spelled, later.2, ⟨start, begun.trans stamp, Int.le_trans passed later.1⟩, ?_⟩
  have ordered := ok.ordered
  simp only [finishPrecedesStart, begun, fin] at ordered ⊢
  exact ordered

theorem cancelled_sound (ok : st.Sound) : st.cancelled.Sound :=
  sound_kept ok ok.identity ⟨ok.spelled.1, ok.spelled.2.1, rfl⟩ rfl rfl (.inl rfl)

theorem identity_parts (input : CompletionRecordInput) : firstFault (identityFaults input) = none ↔ validRequestID input.requestID = true ∧
    ((input.keyID ≠ .empty → validBoundedText input.keyID 256 = true) ∧ (input.keyName ≠ .empty → validBoundedText input.keyName 256 = true)) ∧
      validBoundedText input.method 32 = true ∧ validBoundedText input.path 2048 = true ∧ validBoundedText input.model 512 = true := by
  simp only [first_fault_none, identityFaults, List.forall_mem_cons, List.not_mem_nil, false_implies, implies_true, and_true,
    Bool.or_eq_false_iff, Bool.and_eq_false_iff, Bool.not_eq_false', decide_eq_false_iff_not, and_assoc]
  grind

theorem complete_locked_sound (clock : ClockReading) (ok : st.Sound) : (st.completeLocked clock).Sound := by
  unfold completeLocked
  split
  · exact ok
  obtain ⟨start, stamp, passed⟩ := ok.started
  obtain ⟨later, real⟩ := reading_later ok.real clock
  refine ⟨ok.identity, ok.spelled, real, ⟨start, stamp, Int.le_trans passed later⟩, ?_⟩
  simp only [finishPrecedesStart]
  split
  · rename_i begun fin one two
    change st.input.timing.startedAt = some begun at one
    rw [stamp] at one
    have order := new_unix_micros_mono (Int.le_trans passed later) one two
    exact decide_eq_false (by omega)
  · rfl

theorem new_state_sound {id : Text} {clock : ClockReading} (created : newRequestTraceState id clock = some st) : st.Sound := by
  unfold newRequestTraceState at created
  split at created <;> cases created
  rename_i valid
  refine ⟨(identity_parts _).mpr ⟨valid, ⟨by simp, by simp⟩, empty_text_valid _, empty_text_valid _, empty_text_valid _⟩, ⟨rfl, rfl, rfl⟩,
    clock.real, ⟨clock.wall, rfl, Int.le_refl _⟩, ?_⟩
  simp only [finishPrecedesStart, unknownTiming]
  split
  · rename_i fin
    cases fin
  · rfl

theorem new_record_spelled {input : CompletionRecordInput} (routes : input.routeClass = .unknown ∨ input.routeClass = input.route)
    (modes : input.actualUpstreamMode = input.upstreamMode) (errors : input.safeErrorCode = input.errorCode) :
    (newCompletionRecord input).toOption.isSome = true ↔ validateCompletionInput input = none := by
  have agreeing : firstFault (conflictFaults input) = none := by
    rcases routes with unset | same
    · simp [firstFault, conflictFaults, unset, modes, errors]
    · simp [firstFault, conflictFaults, same, modes, errors]
  have checks : validateCompletionInput (normalizeCompletionInput input) = validateCompletionInput input := by
    have upstream : (normalizeCompletionInput input).upstreamMode = input.upstreamMode := by simp [normalizeCompletionInput, modes]
    simp only [validateCompletionInput, upstream]
    rfl
  unfold newCompletionRecord
  rw [agreeing]
  simp only
  split
  · rename_i message checked
    rw [checks] at checked
    simp [checked, Except.toOption]
  · rename_i checked
    rw [checks] at checked
    simp [checked, Except.toOption]

theorem new_record_iff (ok : st.Sound) : (newCompletionRecord st.input).toOption.isSome = true ↔
    firstFault (modeFaults st.input.requestedMode st.input.upstreamMode st.input.deliveredMode) = none ∧
      firstFault (terminalFaults st.input.terminal) = none := by
  rw [new_record_spelled (.inl ok.spelled.1) ok.spelled.2.1 ok.spelled.2.2, validate_parts]
  have id := ok.identity
  have timing : firstFault (timingFaults st.input.timing) = none := by simp [timingFaults, firstFault, ok.ordered]
  simp [id, timing]

theorem merge_valid (base : CompletionRecord) (enrichment : RequestTraceEnrichment) :
    (mergeRequestTraceEnrichment base enrichment).toOption.isSome = true := by
  refine (new_record_spelled (.inr ?_) ?_ ?_).mpr ?_
  · exact base.spelled.1
  · exact base.spelled.2.1
  · exact base.spelled.2.2
  · exact base.valid

theorem final_iff_base (st : RequestTraceState) (clock : ClockReading) : (st.final clock).2.isSome = (st.freezeBase clock).2.isSome := by
  unfold final
  split
  · rename_i frozen none_
    rw [none_]
  · rename_i frozen base some_
    rw [some_]
    exact merge_valid base _

def completedTerminal (state : RequestTraceState) : TerminalMetadata :=
  if state.terminalSet then state.input.terminal else ⟨if state.upstream then .complete else .preUpstream, state.upstream⟩

theorem freeze_base_iff (ok : st.Sound) (clock : ClockReading) (open_ : st.base = none) (undone : st.finished = false) :
    (st.freezeBase clock).2.isSome = true ↔ firstFault (modeFaults st.input.requestedMode st.input.upstreamMode st.input.deliveredMode) = none ∧
        firstFault (terminalFaults (completedTerminal st)) = none := by
  have ended := new_record_iff (complete_locked_sound clock ok)
  simp only [freezeBase, open_]
  rw [ended]
  simp only [completeLocked, undone]
  rfl

end Soundness

end NineGateway.Trace
