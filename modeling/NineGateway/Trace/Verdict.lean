import NineGateway.Trace.State

set_option autoImplicit false

namespace NineGateway.Trace

structure Facets where
  method : Text
  route : RouteClass
  model : Text
  requestedMode : RequestMode
  upstreamMode : ResponseMode
  deliveredMode : ResponseMode
  upstream : Bool
  routeSet : Bool
  metadataSet : Bool

-- The calls that write neither a mode nor a route nor an outcome. Freezing gives
-- an outcome only to a trace without one.
def Call.idle : Call → Bool
  | .setRequestMetadataPath _ _ _ _ _ => false
  | .setRouteMetadata _ _ _ => false
  | .setUpstreamStart _ => false
  | .setUpstreamHeaders _ _ => false
  | .setUpstreamResponseMode _ => false
  | .setDeliveredMode _ => false
  | .setCancellation => false
  | .setTerminalMetadata _ => false
  | .setTerminalOutcome _ => false
  | _ => true

def Call.milestone : Call → Bool
  | .setRequestMetadataPath _ _ _ _ _ => true
  | .setRouteMetadata _ _ _ => true
  | .setUpstreamStart _ => true
  | .setUpstreamHeaders _ _ => true
  | .setUpstreamResponseMode _ => true
  | .setDeliveredMode _ => true
  | _ => false

def Call.ruling : Call → Bool
  | .setCancellation => true
  | .setTerminalMetadata _ => true
  | .setTerminalOutcome _ => true
  | _ => false

namespace RequestTraceState

def facets (st : RequestTraceState) : Facets :=
  { method := st.input.method, route := st.input.route, model := st.input.model, requestedMode := st.input.requestedMode
    upstreamMode := st.input.upstreamMode, deliveredMode := st.input.deliveredMode, upstream := st.upstream, routeSet := st.routeSet
    metadataSet := st.metadataSet }

def ModesPass (state : RequestTraceState) : Prop :=
  firstFault (modeFaults state.input.requestedMode state.input.upstreamMode state.input.deliveredMode) = none

def OutcomePasses (state : RequestTraceState) : Prop := firstFault (terminalFaults (completedTerminal state)) = none

structure Judged (st : RequestTraceState) : Prop where
  unfinished : st.base = none → st.finished = false
  verdict : ∀ row, st.base = some row → st.terminalSet = true ∧ (row.isSome = true ↔ st.ModesPass ∧ st.OutcomePasses)

end RequestTraceState

open RequestTraceState (apply completeLocked facets final freezeBase reading setDeliveredMode setRequestMetadataPath setUpstreamHeadersStatus
  setUpstreamStart)

section Setters

variable {st : RequestTraceState} {call : Call}

-- What a call other than freezeBase leaves of the trace, and of a frozen one.
structure Applied (st : RequestTraceState) (call : Call) (next : RequestTraceState) : Prop where
  base : next.base = st.base
  finished : next.finished = st.finished
  set : call.ruling = false ∨ st.base.isSome = true → next.terminalSet = st.terminalSet
  terminal : call.idle = true ∨ st.base.isSome = true → next.input.terminal = st.input.terminal
  facets : call.milestone = false ∨ st.base.isSome = true → next.facets = st.facets
  sound : st.Sound → next.Sound

variable {next : RequestTraceState}

theorem idle_plain (idle : call.idle = true) : call.milestone = false ∧ call.ruling = false := by
  cases call <;> first | exact ⟨rfl, rfl⟩ | cases idle

theorem applied_refused : Applied st call st := ⟨rfl, rfl, fun _ => rfl, fun _ => rfl, fun _ => rfl, id⟩

theorem applied_idle (same : (next.base, next.finished, next.terminalSet, next.input.terminal, next.facets) =
    (st.base, st.finished, st.terminalSet, st.input.terminal, st.facets)) (sound : st.Sound → next.Sound) : Applied st call next := by
  simp only [Prod.mk.injEq] at same
  obtain ⟨base, finished, set, terminal, facets⟩ := same
  exact ⟨base, finished, fun _ => set, fun _ => terminal, fun _ => facets, sound⟩

theorem applied_milestone (begun : st.base = none) (milestone : call.milestone = true)
    (same : (next.base, next.finished, next.terminalSet) = (st.base, st.finished, st.terminalSet)) (sound : st.Sound → next.Sound) :
    Applied st call next := by
  simp only [Prod.mk.injEq] at same
  obtain ⟨base, finished, set⟩ := same
  refine ⟨base, finished, fun _ => set, ?_, ?_, sound⟩
  · rintro (idle | frozen)
    · simp [(idle_plain idle).1] at milestone
    · simp [begun] at frozen
  · simp [begun, milestone]

theorem applied_ruling (begun : st.base = none) (ruling : call.ruling = true)
    (same : (next.base, next.finished, next.facets) = (st.base, st.finished, st.facets)) (sound : st.Sound → next.Sound) : Applied st call next := by
  simp only [Prod.mk.injEq] at same
  obtain ⟨base, finished, facets⟩ := same
  refine ⟨base, finished, ?_, ?_, fun _ => facets, sound⟩
  · simp [begun, ruling]
  · rintro (idle | frozen)
    · simp [(idle_plain idle).2] at ruling
    · simp [begun] at frozen

theorem sound_plain (same : (identityFaults next.input, next.input.routeClass, next.input.upstreamMode, next.input.actualUpstreamMode,
      next.input.errorCode, next.input.safeErrorCode, next.input.timing.startedAt, next.input.timing.finishedAt, next.lastWall) =
    (identityFaults st.input, st.input.routeClass, st.input.upstreamMode, st.input.actualUpstreamMode, st.input.errorCode, st.input.safeErrorCode,
      st.input.timing.startedAt, st.input.timing.finishedAt, st.lastWall)) (ok : st.Sound) : next.Sound := by
  simp only [Prod.mk.injEq] at same
  obtain ⟨id, route, upstream, actual, code, safe, begun, fin, wall⟩ := same
  refine sound_kept ok (id ▸ ok.identity) ?_ begun fin (.inl wall)
  rw [route, upstream, actual, code, safe]
  exact ok.spelled

-- Every setter looks first whether it may write.
theorem applied_unless {refuses : Prop} [Decidable refuses] {write : RequestTraceState × Bool} (applied : ¬ refuses → Applied st call write.1) :
    Applied st call (if refuses then (st, false) else write).1 := by
  split
  · exact applied_refused
  · rename_i passes
    exact applied passes

theorem authentication_applied (key keyName : Text) : Applied st (.setAuthentication key keyName) (st.setAuthentication key keyName).1 := by
  refine applied_unless fun valid => applied_idle rfl (fun ok => ?_)
  simp only [Bool.or_eq_true, Bool.not_eq_true', not_or, Bool.not_eq_false, Bool.not_eq_true] at valid
  obtain ⟨req, _, texts⟩ := (identity_parts _).mp ok.identity
  have id := (identity_parts { st.input with keyID := key, keyName := keyName }).mpr ⟨req, ⟨fun _ => valid.1.1.1, fun _ => valid.1.1.2⟩, texts⟩
  exact sound_kept ok id ok.spelled rfl rfl (.inl rfl)

theorem request_metadata_applied (method path : Text) (route : RouteClass) (model : Text) (mode : RequestMode) :
    Applied st (.setRequestMetadataPath method path route model mode) (st.setRequestMetadataPath method path route model mode).1 := by
  refine applied_unless fun valid => applied_unless fun clear => applied_unless fun _ => ?_
  simp only [Bool.or_eq_true, Bool.not_eq_true', not_or, Bool.not_eq_false] at valid
  refine applied_milestone (by simp_all) rfl rfl (fun ok => ?_)
  obtain ⟨req, keys, _, older, _⟩ := (identity_parts _).mp ok.identity
  refine sound_kept ok ((identity_parts _).mpr ⟨req, keys, valid.1.1, ?_, valid.2⟩) ok.spelled rfl rfl (.inl rfl)
  split
  · exact valid.1.2
  · exact older

theorem route_metadata_applied (method path : Text) (route : RouteClass) :
    Applied st (.setRouteMetadata method path route) (st.setRouteMetadata method path route).1 := by
  refine applied_unless fun valid => ?_
  simp only [Bool.or_eq_true, Bool.not_eq_true', not_or, Bool.not_eq_false, Bool.not_eq_true] at valid
  refine applied_milestone (by simpa using valid.1.2) rfl rfl (fun ok => ?_)
  obtain ⟨req, keys, _, _, model⟩ := (identity_parts _).mp ok.identity
  have id := (identity_parts { st.input with method := method, path := path, route := route }).mpr ⟨req, keys, valid.1.1.1, valid.1.1.2, model⟩
  exact sound_kept ok id ok.spelled rfl rfl (.inl rfl)

theorem write_applied (written : Int) (successful countZero : Bool) (clock : ClockReading) :
    Applied st (.recordDownstreamWrite written successful countZero clock) (st.recordDownstreamWrite written successful countZero clock).1 := by
  refine applied_unless fun _ => applied_unless fun _ => applied_unless fun _ => ?_
  split
  · exact applied_idle rfl (fun ok => sound_kept ok ok.identity ok.spelled rfl rfl (.inr ⟨clock, rfl⟩))
  · exact applied_idle rfl (sound_plain rfl)

-- An outcome that is decided, with the cancellation it may come with.
theorem decided_applied {cancels : Prop} [Decidable cancels] (terminal : TerminalMetadata) (begun : st.base = none) (ruling : call.ruling = true) :
    Applied st call { (if cancels then st.cancelled else st) with
      input := { (if cancels then st.cancelled else st).input with terminal := terminal }, terminalSet := true } := by
  by_cases cancelled : cancels
  · simp only [if_pos cancelled]
    exact applied_ruling begun ruling rfl (fun ok => sound_kept ok ok.identity (cancelled_sound ok).spelled rfl rfl (.inl rfl))
  · simp only [if_neg cancelled]
    exact applied_ruling begun ruling rfl (sound_plain rfl)

theorem apply_applied (st : RequestTraceState) (call : Call) (unfrozen : ∀ clock, call ≠ .freezeBase clock) : Applied st call (st.apply call) := by
  cases call with
  | freezeBase clock => exact absurd rfl (unfrozen clock)
  | setAuthentication => exact authentication_applied ..
  | setRequestMetadataPath => exact request_metadata_applied ..
  | setRouteMetadata => exact route_metadata_applied ..
  | recordDownstreamWrite => exact write_applied ..
  | setUpstreamStart clock =>
    exact applied_unless fun clear => applied_milestone (by simp_all) rfl rfl
      (fun ok => sound_kept ok ok.identity ok.spelled rfl rfl (.inr ⟨clock, rfl⟩))
  | setUpstreamHeaders _ clock =>
    simp only [apply, RequestTraceState.setUpstreamHeaders, setUpstreamHeadersStatus]
    split
    · exact applied_refused
    · exact applied_unless fun clear => applied_milestone (by simp_all) rfl rfl
        (fun ok => sound_kept ok ok.identity ok.spelled rfl rfl (.inr ⟨clock, rfl⟩))
  | setUpstreamResponseMode =>
    exact applied_unless fun clear => applied_milestone (by simp_all) rfl rfl
      (fun ok => sound_kept ok ok.identity ⟨ok.spelled.1, rfl, ok.spelled.2.2⟩ rfl rfl (.inl rfl))
  | setDeliveredMode => exact applied_unless fun clear => applied_milestone (by simp_all) rfl rfl (sound_plain rfl)
  | setDownstreamStatus =>
    simp only [apply, RequestTraceState.setDownstreamStatus]
    split
    · exact applied_refused
    · exact applied_unless fun _ => applied_idle rfl (sound_plain rfl)
  | setUsage | setCost =>
    simp only [apply, RequestTraceState.setUsage, RequestTraceState.setCost]
    split <;> exact applied_unless fun _ => applied_idle rfl (sound_plain rfl)
  | freezeEnrichment =>
    simp only [apply, RequestTraceState.freezeEnrichment]
    split
    · exact applied_refused
    · exact applied_idle rfl (sound_plain rfl)
  | setTimingEnrichment => exact applied_unless fun _ => applied_idle rfl (sound_plain rfl)
  | setErrorCode =>
    exact applied_unless fun _ => applied_idle rfl
      (fun ok => sound_kept ok ok.identity ⟨ok.spelled.1, ok.spelled.2.1, rfl⟩ rfl rfl (.inl rfl))
  | setCancellation =>
    exact applied_unless fun clear => applied_ruling (by simp_all) rfl rfl
      (fun ok => sound_kept ok ok.identity (cancelled_sound ok).spelled rfl rfl (.inl rfl))
  | setTerminalMetadata metadata =>
    refine applied_unless fun clear => ?_
    simp only [Bool.or_eq_true, not_or] at clear
    exact decided_applied metadata (by simp_all) rfl
  | setTerminalOutcome outcome =>
    refine applied_unless fun clear => ?_
    exact decided_applied ⟨outcome, st.upstream⟩ (by simp_all) rfl

theorem apply_cases (st : RequestTraceState) (call : Call) : Applied st call (st.apply call) ∨ st.base = none ∧
    ∃ clock, call = .freezeBase clock := by
  by_cases freezing : ∃ clock, call = .freezeBase clock
  · cases base : st.base with
    | none => exact .inr ⟨rfl, freezing⟩
    | some =>
      obtain ⟨clock, rfl⟩ := freezing
      simp only [apply, freezeBase, base]
      exact .inl applied_refused
  · exact .inl (apply_applied st call (fun clock same => freezing ⟨clock, same⟩))

theorem apply_sound (ok : st.Sound) (call : Call) : (st.apply call).Sound := by
  rcases apply_cases st call with applied | ⟨begun, clock, rfl⟩
  · exact applied.sound ok
  · have ended := complete_locked_sound clock ok
    simp only [apply, freezeBase, begun]
    exact sound_kept ended ended.identity ended.spelled rfl rfl (.inl rfl)

theorem frozen_kept (frozen : st.base.isSome = true) (call : Call) : (st.apply call).facets = st.facets ∧
    (st.apply call).base = st.base ∧ (st.apply call).terminalSet = st.terminalSet ∧ (st.apply call).input.terminal = st.input.terminal := by
  rcases apply_cases st call with applied | ⟨begun, _⟩
  · exact ⟨applied.facets (.inr frozen), applied.base, applied.set (.inr frozen), applied.terminal (.inr frozen)⟩
  · rw [begun] at frozen
    cases frozen

theorem apply_open (begun : (st.apply call).base = none) : st.base = none := by
  cases base : st.base with
  | none => rfl
  | some =>
    have frozen : st.base.isSome = true := by simp [base]
    have kept := (frozen_kept frozen call).2.1
    rw [begun, base] at kept
    cases kept

variable {alt : RequestTraceState}

theorem completed_terminal_congr (facets : alt.facets = st.facets) (set : alt.terminalSet = st.terminalSet)
    (term : alt.input.terminal = st.input.terminal) : completedTerminal alt = completedTerminal st := by
  have upstream : alt.upstream = st.upstream := congrArg Facets.upstream facets
  simp only [completedTerminal, set, term, upstream]

theorem modes_congr (facets : alt.facets = st.facets) : alt.ModesPass ↔ st.ModesPass := by
  have asked : alt.input.requestedMode = st.input.requestedMode := congrArg Facets.requestedMode facets
  have upstream : alt.input.upstreamMode = st.input.upstreamMode := congrArg Facets.upstreamMode facets
  have given : alt.input.deliveredMode = st.input.deliveredMode := congrArg Facets.deliveredMode facets
  simp only [RequestTraceState.ModesPass, asked, upstream, given]

theorem freeze_facets (clock : ClockReading) : (st.apply (.freezeBase clock)).facets = st.facets := by
  simp only [apply, freezeBase]
  split
  · rfl
  · simp only [completeLocked]
    split <;> rfl

theorem freeze_terminal (judged : st.Judged) (clock : ClockReading) :
    completedTerminal (st.apply (.freezeBase clock)) = completedTerminal st := by
  simp only [apply, freezeBase]
  split
  · rfl
  · rename_i begun
    simp only [completeLocked, judged.unfinished begun]
    rfl

theorem idle_facets (idle : call.idle = true) : (st.apply call).facets = st.facets := by
  rcases apply_cases st call with applied | ⟨_, clock, rfl⟩
  · exact applied.facets (.inl (idle_plain idle).1)
  · exact freeze_facets clock

theorem idle_terminal (judged : st.Judged) (idle : call.idle = true) : completedTerminal (st.apply call) = completedTerminal st := by
  rcases apply_cases st call with applied | ⟨_, clock, rfl⟩
  · exact completed_terminal_congr (idle_facets idle) (applied.set (.inl (idle_plain idle).2)) (applied.terminal (.inl idle))
  · exact freeze_terminal judged clock

theorem freeze_closed (st : RequestTraceState) (clock : ClockReading) : (st.apply (.freezeBase clock)).base ≠ none := by
  simp only [apply, freezeBase]
  split
  · rename_i row base
    simp [base]
  · simp

theorem idle_open (idle : call.idle = true) (begun : (st.apply call).base = none) : (st.apply call).terminalSet = st.terminalSet ∧
    (st.apply call).input.terminal = st.input.terminal := by
  rcases apply_cases st call with applied | ⟨_, clock, rfl⟩
  · exact ⟨applied.set (.inl (idle_plain idle).2), applied.terminal (.inl idle)⟩
  · exact absurd begun (freeze_closed st clock)

theorem apply_judged (ok : st.Sound) (judged : st.Judged) (call : Call) : (st.apply call).Judged := by
  cases base : st.base with
  | some row =>
    have frozen : st.base.isSome = true := by simp [base]
    obtain ⟨facets, same, set, term⟩ := frozen_kept frozen call
    obtain ⟨ended, verdict⟩ := judged.verdict row base
    refine ⟨?_, ?_⟩
    · rw [same, base]
      nofun
    intro alt hit
    rw [same, base] at hit
    cases hit
    refine ⟨by rw [set, ended], ?_⟩
    rw [modes_congr facets, RequestTraceState.OutcomePasses, completed_terminal_congr facets set term]
    exact verdict
  | none =>
    rcases apply_cases st call with applied | ⟨_, clock, rfl⟩
    · refine ⟨fun _ => by rw [applied.finished, judged.unfinished base], ?_⟩
      intro row hit
      rw [applied.base, base] at hit
      cases hit
    refine ⟨fun begun => absurd begun (freeze_closed st clock), ?_⟩
    intro row hit
    have undone := judged.unfinished base
    simp only [apply, freezeBase, base, Option.some.injEq] at hit
    refine ⟨by simp [apply, freezeBase, base, completeLocked, undone], ?_⟩
    rw [modes_congr (freeze_facets clock), RequestTraceState.OutcomePasses, freeze_terminal judged clock, ← hit]
    simpa [freezeBase, base, RequestTraceState.ModesPass] using freeze_base_iff ok clock base undone

theorem freeze_passes (ok : st.Sound) (judged : st.Judged) (clock : ClockReading) :
    (st.freezeBase clock).2.isSome = true ↔ st.ModesPass ∧ st.OutcomePasses := by
  cases base : st.base with
  | none => exact freeze_base_iff ok clock base (judged.unfinished base)
  | some row =>
    simp only [freezeBase, base]
    exact (judged.verdict row base).2

theorem new_judged {id : Text} {clock : ClockReading} (created : newRequestTraceState id clock = some st) : st.Judged := by
  unfold newRequestTraceState at created
  split at created <;> cases created
  exact ⟨fun _ => rfl, fun row hit => by cases hit⟩

end Setters

section Milestones

variable {st : RequestTraceState} {call : Call}

theorem milestone_set (milestone : call.milestone = true) : (st.apply call).terminalSet = st.terminalSet := by
  rcases apply_cases st call with applied | ⟨_, clock, rfl⟩
  · exact applied.set (.inl (by cases call <;> first | rfl | cases milestone))
  · cases milestone

theorem ruling_facets (ruling : call.ruling = true) : (st.apply call).facets = st.facets := by
  rcases apply_cases st call with applied | ⟨_, clock, rfl⟩
  · exact applied.facets (.inl (by cases call <;> first | rfl | cases ruling))
  · cases ruling

theorem start_facets (begun : st.base = none) (clock : ClockReading) :
    (st.apply (.setUpstreamStart clock)).facets = { st.facets with upstream := true } := by
  cases upstream : st.upstream with
  | true => simp [apply, setUpstreamStart, upstream, facets]
  | false => simp [apply, setUpstreamStart, upstream, begun, facets, reading]

theorem headers_facets (begun : st.upstream = true) (status : Int) (clock : ClockReading) :
    (st.apply (.setUpstreamHeaders status clock)).facets = st.facets := by
  simp only [apply, RequestTraceState.setUpstreamHeaders, setUpstreamHeadersStatus]
  split
  · rfl
  · split
    · rfl
    · simp [facets, reading, begun]

variable {mode : ResponseMode}

theorem upstream_mode_facets (begun : st.base = none) (started : st.upstream = true) (unset : st.input.upstreamMode = .unknown)
    (known : mode ≠ .unknown) :
    (st.apply (.setUpstreamResponseMode mode)).facets = { st.facets with upstreamMode := mode } := by
  simp [apply, RequestTraceState.setUpstreamResponseMode, known, begun, unset, facets, started]

theorem delivered_mode_facets (begun : st.base = none) (unset : st.input.deliveredMode = .unknown)
    (known : mode ≠ .unknown) : (st.apply (.setDeliveredMode mode)).facets = { st.facets with deliveredMode := mode } := by
  simp [apply, setDeliveredMode, known, begun, unset, facets]

theorem metadata_facets {method path model : Text} {route : RouteClass} {mode : RequestMode} (begun : st.base = none)
    (new : st.metadataSet = false) (routed : st.routeSet = true → st.input.method = method ∧ st.input.route = route) :
    (st.apply (.setRequestMetadataPath method path route model mode)).facets =
      if validBoundedText method 32 && validBoundedText path 2048 && validBoundedText model 512 then
        { st.facets with method := method, route := route, model := model, requestedMode := mode, routeSet := true, metadataSet := true }
      else st.facets := by
  have agrees : ¬(st.routeSet = true ∧ (¬st.input.method = method ∨ ¬st.input.route = route)) := by
    rintro ⟨set, alt | alt⟩
    · exact alt (routed set).1
    · exact alt (routed set).2
  simp only [apply, setRequestMetadataPath]
  cases validBoundedText method 32 <;> cases validBoundedText path 2048 <;> cases validBoundedText model 512 <;>
    simp [begun, new, agrees, facets]

theorem metadata_upstream (method path : Text) (route : RouteClass) (model : Text) (mode : RequestMode) :
    (st.apply (.setRequestMetadataPath method path route model mode)).upstream = st.upstream := by
  simp only [apply, setRequestMetadataPath]
  split
  · rfl
  · split
    · rfl
    · split <;> rfl

theorem upstream_stays (begun : st.upstream = true) (call : Call) : (st.apply call).upstream = true := by
  cases idle : call.idle with
  | true => exact (congrArg Facets.upstream (idle_facets idle)).trans begun
  | false =>
    cases ruling : call.ruling with
    | true => exact (congrArg Facets.upstream (ruling_facets ruling)).trans begun
    | false =>
      cases call with
      | setRequestMetadataPath => rw [metadata_upstream, begun]
      | setRouteMetadata =>
        simp only [apply, RequestTraceState.setRouteMetadata]
        split <;> exact begun
      | setUpstreamStart => simp [apply, RequestTraceState.setUpstreamStart, begun]
      | setUpstreamHeaders status clock => exact (congrArg Facets.upstream (headers_facets begun status clock)).trans begun
      | setUpstreamResponseMode =>
        simp only [apply, RequestTraceState.setUpstreamResponseMode]
        split
        · exact begun
        · rfl
      | setDeliveredMode =>
        simp only [apply, RequestTraceState.setDeliveredMode]
        split <;> exact begun
      | setCancellation | setTerminalMetadata | setTerminalOutcome => cases ruling
      | _ => cases idle

theorem upstream_stays_along (begun : st.upstream = true) (cs : List Call) : (cs.foldl apply st).upstream = true := by
  induction cs generalizing st with
  | nil => exact begun
  | cons call _ ih => exact ih (upstream_stays begun call)

end Milestones

inductive Idly (pre : RequestTraceState) : RequestTraceState → Prop where
  | refl : Idly pre pre
  | call (after call) (idly : Idly pre after) (idle : call.idle = true) : Idly pre (after.apply call)

section Idling

variable {pre after : RequestTraceState}

theorem idly_trans {later : RequestTraceState} (first : Idly pre after) (second : Idly after later) : Idly pre later := by
  induction second with
  | refl => exact first
  | call middle call _ idle ih => exact .call middle call ih idle

variable (idly : Idly pre after)
include idly

theorem idly_facets : after.facets = pre.facets := by
  induction idly with
  | refl => rfl
  | call _ _ _ idle ih => rw [idle_facets idle, ih]

theorem idly_sound (ok : pre.Sound) (judged : pre.Judged) : after.Sound ∧ after.Judged := by
  induction idly with
  | refl => exact ⟨ok, judged⟩
  | call _ call _ _ ih => exact ⟨apply_sound ih.1 call, apply_judged ih.1 ih.2 call⟩

theorem idly_terminal (ok : pre.Sound) (judged : pre.Judged) : completedTerminal after = completedTerminal pre := by
  induction idly with
  | refl => rfl
  | call _ _ idly idle ih => rw [idle_terminal (idly_sound idly ok judged).2 idle, ih]

theorem idly_open (begun : after.base = none) :
    pre.base = none ∧ after.terminalSet = pre.terminalSet ∧ after.input.terminal = pre.input.terminal := by
  induction idly with
  | refl => exact ⟨begun, rfl, rfl⟩
  | call _ _ _ idle ih =>
    obtain ⟨past, set, term⟩ := ih (apply_open begun)
    obtain ⟨same, unchanged⟩ := idle_open idle begun
    exact ⟨past, same.trans set, unchanged.trans term⟩

theorem idly_frozen (frozen : pre.base.isSome = true) : after.base = pre.base := by
  induction idly with
  | refl => rfl
  | call _ call _ _ ih => rw [(frozen_kept (by rw [ih]; exact frozen) call).2.1, ih]

theorem idly_passes (ok : pre.Sound) (judged : pre.Judged) : (after.ModesPass ↔ pre.ModesPass) ∧ (after.OutcomePasses ↔ pre.OutcomePasses) := by
  refine ⟨modes_congr (idly_facets idly), ?_⟩
  simp only [RequestTraceState.OutcomePasses, idly_terminal idly ok judged]

omit idly

theorem final_idly (st : RequestTraceState) (clock : ClockReading) : Idly st (st.final clock).1 := by
  have frozen : Idly st (st.freezeBase clock).1 := .call st (.freezeBase clock) .refl rfl
  unfold final
  split
  · rename_i after barred
    rw [barred] at frozen
    exact frozen
  · rename_i after base fine
    rw [fine] at frozen
    exact .call after .freezeEnrichment frozen rfl

theorem final_frozen (st : RequestTraceState) (clock : ClockReading) : (st.final clock).1.base.isSome = true := by
  have frozen : (st.freezeBase clock).1.base.isSome = true := Option.isSome_iff_ne_none.mpr (freeze_closed st clock)
  unfold final
  split
  · rename_i after barred
    rw [barred] at frozen
    exact frozen
  · rename_i after base fine
    rw [fine] at frozen
    exact (frozen_kept frozen .freezeEnrichment).2.1 ▸ frozen

end Idling

end NineGateway.Trace
