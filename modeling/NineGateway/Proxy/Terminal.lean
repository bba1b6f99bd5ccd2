import NineGateway.Proxy.Returning
import NineGateway.Proxy.Tracing

set_option autoImplicit false

namespace NineGateway.Proxy

open Trace (RequestTraceState ClockReading TerminalOutcome)

open Trace.RequestTraceState (apply setTerminalOutcome OutcomePasses)

section Outcomes

variable {st : RequestTraceState}

theorem set_passes (set : st.terminalSet = true) (passes : Trace.firstFault (Trace.terminalFaults st.input.terminal) = none) :
    st.OutcomePasses := by
  simp only [OutcomePasses, Trace.completedTerminal, set, if_true]
  exact passes

theorem unset_passes (unset : st.terminalSet = false) : st.OutcomePasses := by
  simp only [OutcomePasses, Trace.completedTerminal, unset]
  cases st.upstream <;> rfl

-- The setter does not compare the outcome with the flag, so its caller must.
theorem set_outcome_passes {out : TerminalOutcome} (fits : Trace.firstFault (Trace.terminalFaults ⟨out, st.upstream⟩) = none)
    (passes : st.OutcomePasses) : (st.apply (.setTerminalOutcome out)).OutcomePasses := by
  simp only [apply, setTerminalOutcome]
  split
  · exact passes
  · split <;> exact set_passes rfl fits

theorem set_cancellation_passes (passes : st.OutcomePasses) : (st.apply .setCancellation).OutcomePasses := by
  simp only [apply, RequestTraceState.setCancellation]
  split
  · exact passes
  · exact set_passes rfl rfl

theorem set_metadata_passes (data : Trace.TerminalMetadata) (passes : st.OutcomePasses) :
    (st.apply (.setTerminalMetadata data)).OutcomePasses := by
  simp only [apply, RequestTraceState.setTerminalMetadata]
  split
  · exact passes
  rename_i compared
  have fits : Trace.firstFault (Trace.terminalFaults data) = none := by
    simp only [Bool.or_eq_true, decide_eq_true_eq, not_or, Bool.and_eq_true, Bool.not_eq_true', not_and] at compared
    obtain ⟨⟨⟨_, flag⟩, pre⟩, after⟩ := compared
    simp only [Trace.first_fault_none, Trace.terminalFaults, List.mem_cons, List.not_mem_nil, or_false, forall_eq_or_imp, forall_eq]
    have same : data.upstreamStarted = st.upstream := by simpa using flag
    cases upstream : st.upstream <;> simp_all
  split <;> exact set_passes rfl fits

theorem outcome_stays (set : st.terminalSet = true) {call : Trace.Call}
    (settles : (∃ out, call = .setTerminalOutcome out) ∨ ∃ data, call = .setTerminalMetadata data) : st.apply call = st := by
  rcases settles with ⟨out, rfl⟩ | ⟨data, rfl⟩
  · simp [apply, setTerminalOutcome, set]
  · simp [apply, RequestTraceState.setTerminalMetadata, set]

theorem milestones_unset {cs : List Trace.Call} (milestones : ∀ call ∈ cs, call.milestone = true) (unset : st.terminalSet = false) :
    (cs.foldl apply st).terminalSet = false := by
  induction cs generalizing st with
  | nil => exact unset
  | cons call _ ih =>
    exact ih (fun alt mem => milestones alt (List.mem_cons_of_mem _ mem))
      ((Trace.milestone_set (milestones call List.mem_cons_self)).trans unset)

theorem heading_milestones (cfg : Config) (resp : UpstreamResponse) (clock : ClockReading) :
    ∀ call ∈ heading cfg resp clock, call.milestone = true := by
  intro call mem
  unfold heading at mem
  split at mem <;> simp only [List.mem_cons, List.not_mem_nil, or_false] at mem
  · rw [mem]
    rfl
  · rcases mem with rfl | rfl <;> rfl

end Outcomes

-- The outcome in a trace fits its flag unless the body was found too large after
-- the start, and then an open trace holds a pre-upstream outcome.
structure Ruled (late : Bool) (scene : Scene) : Prop where
  unruled : scene.handler.stage.phase ≠ .ending → ∀ trace, scene.exchange.trace = some trace → trace.base = none → trace.terminalSet = false
  passes : late = false → ∀ trace, scene.exchange.trace = some trace → trace.OutcomePasses
  overrun : late = true → scene.handler.stage.phase = .ending ∧
    ∀ trace, scene.exchange.trace = some trace → trace.base = none → trace.terminalSet = true ∧ trace.input.terminal = ⟨.preUpstream, true⟩

section Rulings

variable {cfg : Config} {scene next : Scene} {late new : Bool} {cs : List Trace.Call}

variable (noted : scene.exchange.Recorded)
include noted

theorem passes_later (paced : Paced scene) (writes : Writes scene.exchange next.exchange cs)
    (passes : ∀ trace, scene.exchange.trace = some trace → trace.OutcomePasses)
    (kept : ∀ past first : RequestTraceState, scene.exchange.trace = some past → past.base = none → first.base = none →
      first.terminalSet = past.terminalSet → first.upstream = scene.handler.upstreamStarted → first.OutcomePasses →
      (cs.foldl apply first).OutcomePasses) : ∀ trace, next.exchange.trace = some trace → trace.OutcomePasses := by
  intro trace hit
  obtain ⟨past, has, ⟨_, _, same⟩ | ⟨first, base, begun, facets, set, term, soundly, idly⟩⟩ := writes_cases writes hit
  · obtain ⟨ok, judged⟩ := noted.sound past has
    unfold OutcomePasses
    rw [same ok judged]
    exact passes past has
  · obtain ⟨ok, judged⟩ := noted.sound past has
    obtain ⟨firstSound, firstJudged⟩ := soundly ok judged
    obtain ⟨toldSound, toldJudged⟩ := told_sound firstSound firstJudged cs
    have upstream : first.upstream = scene.handler.upstreamStarted :=
      (congrArg Trace.Facets.upstream facets).trans (paced.upstream past has begun)
    have firstPasses : first.OutcomePasses := by
      unfold OutcomePasses
      rw [Trace.completed_terminal_congr facets set term]
      exact passes past has
    rw [(Trace.idly_passes idly toldSound toldJudged).2]
    exact kept past first has begun base set upstream firstPasses

theorem milestones_ruled (paced : Paced scene) (ruled : Ruled late scene) (writes : Writes scene.exchange next.exchange cs)
    (body : scene.handler.stage.phase ≠ .ending) (milestones : ∀ call ∈ cs, call.milestone = true) : Ruled late next := by
  refine ⟨?_, ?_, fun overrun => absurd (ruled.overrun overrun).1 body⟩
  · intro _ trace found opened
    obtain ⟨past, _, has, unfrozen, _, _, set, _, _, later, _⟩ := writes_open writes found opened
    rw [later]
    exact milestones_unset milestones (set.trans (ruled.unruled body past has unfrozen))
  · intro early
    refine passes_later noted paced writes (ruled.passes early) ?_
    intro past first has unfrozen _ set _ _
    exact unset_passes (milestones_unset milestones (set.trans (ruled.unruled body past has unfrozen)))

theorem ended_ruled (paced : Paced scene) (ruled : Ruled late scene) (writes : Writes scene.exchange next.exchange cs)
    (later : next.handler.stage.phase = .ending)
    (kept : ∀ past first : RequestTraceState, scene.exchange.trace = some past → past.base = none → first.base = none →
      first.terminalSet = past.terminalSet → first.upstream = scene.handler.upstreamStarted → first.OutcomePasses →
      (cs.foldl apply first).OutcomePasses)
    (stays : scene.handler.stage.phase = .ending → ∀ first : RequestTraceState, first.terminalSet = true →
      (cs.foldl apply first).terminalSet = first.terminalSet ∧
        (cs.foldl apply first).input.terminal = first.input.terminal) : Ruled late next := by
  refine ⟨fun body => absurd later body, fun early => passes_later noted paced writes (ruled.passes early) kept, ?_⟩
  intro overrun
  obtain ⟨ending, terminals⟩ := ruled.overrun overrun
  refine ⟨later, ?_⟩
  intro trace hit begun
  obtain ⟨past, first, has, unfrozen, _, _, set, term, _, laterSet, laterTerminal⟩ := writes_open writes hit begun
  obtain ⟨earlierSet, earlierTerminal⟩ := terminals past has unfrozen
  obtain ⟨sameSet, sameTerminal⟩ := stays ending first (set.trans earlierSet)
  exact ⟨laterSet.trans (sameSet.trans (set.trans earlierSet)), laterTerminal.trans (sameTerminal.trans (term.trans earlierTerminal))⟩

theorem idle_ruled (paced : Paced scene) (ruled : Ruled late scene) (idle : Idle scene next)
    (phase : next.handler.stage.phase = scene.handler.stage.phase ∨ next.handler.stage.phase = .ending) : Ruled late next := by
  by_cases body : scene.handler.stage.phase = .ending
  · have later : next.handler.stage.phase = .ending := by
      rcases phase with phase | phase
      · rw [phase, body]
      · exact phase
    exact ended_ruled noted paced ruled idle.quiet.writes later (fun _ _ _ _ _ _ _ passes => passes) (fun _ _ _ => ⟨rfl, rfl⟩)
  · exact milestones_ruled noted paced ruled idle.quiet.writes body (by simp)

omit noted

theorem fitting_passes {phase : Phase} {out : TerminalOutcome} (fits : Fits phase out) {st : RequestTraceState}
    (unstarted : phase = .inspecting ∨ phase = .early → st.upstream = false)
    (begun : phase = .awaiting ∨ phase = .responding → st.upstream = true) (passes : st.OutcomePasses) :
    (st.apply (terminalCall out)).OutcomePasses := by
  unfold terminalCall
  split
  · exact set_cancellation_passes passes
  refine set_outcome_passes ?_ passes
  rcases fits with ⟨pre, rfl⟩ | ⟨after, known, post⟩
  · rw [unstarted pre]
    rfl
  · rw [begun after]
    simp [Trace.first_fault_none, Trace.terminalFaults, post]

theorem fits_body {phase : Phase} {out : TerminalOutcome} (fits : Fits phase out) : phase ≠ .ending := by
  rintro rfl
  rcases fits with ⟨pre | pre, _⟩ | ⟨after | after, _⟩ <;> cases ‹_ = _›

theorem noted_ruled (recorded : scene.exchange.Recorded) (paced : Paced scene) (ruled : Ruled late scene) (noted : Noted cfg scene next new) :
    Ruled (new || late) next := by
  cases noted with
  | idle idle phase =>
    exact idle_ruled recorded paced ruled idle phase
  | described _ _ phase _ _ _ writes =>
    exact milestones_ruled recorded paced ruled writes (by simp [phase]) (by simp [Scene.describing, Trace.Call.milestone])
  | started _ phase _ _ _ writes =>
    exact milestones_ruled recorded paced ruled writes (by simp [phase]) (by simp [Trace.Call.milestone])
  | answered resp clock _ phase _ _ _ writes =>
    refine milestones_ruled recorded paced ruled writes (by simp [phase]) ?_
    intro call mem
    rcases List.mem_append.mp mem with mem | mem
    · exact heading_milestones cfg resp clock call mem
    · rw [List.mem_singleton.mp mem]
      rfl
  | customized resp clock _ phase later _ _ writes =>
    refine ended_ruled recorded paced ruled writes later ?_ (by simp [phase])
    intro past first has unfrozen _ set upstream _
    rw [List.foldl_append]
    have started := Trace.upstream_stays_along (upstream.trans (paced.started (.inl phase))) (heading cfg resp clock)
    have unset := milestones_unset (heading_milestones cfg resp clock) (set.trans (ruled.unruled (by simp [phase]) past has unfrozen))
    refine set_outcome_passes ?_ (unset_passes unset)
    rw [started]
    rfl
  | gaveUp phase later _ writes =>
    exact ended_ruled recorded paced ruled writes later (fun _ _ _ _ _ _ _ passes => passes) (by simp [phase])
  | ruled _ fits later _ _ writes =>
    refine ended_ruled recorded paced ruled writes later ?_ (fun ending => absurd ending (fits_body fits))
    intro _ first _ _ _ _ upstream passes
    exact fitting_passes fits (fun pre => upstream.trans (paced.unstarted pre)) (fun after => upstream.trans (paced.started after)) passes
  | overrun phase later _ _ writes =>
    refine ⟨fun body => absurd later body, by simp, fun _ => ⟨later, ?_⟩⟩
    intro trace hit begun
    obtain ⟨past, first, has, unfrozen, base, facets, set, _, _, laterSet, laterTerminal⟩ := writes_open writes hit begun
    have unset := set.trans (ruled.unruled (by simp [phase]) past has unfrozen)
    have started : first.upstream = true :=
      (congrArg Trace.Facets.upstream facets).trans ((paced.upstream past has unfrozen).trans (paced.started (.inl phase)))
    rw [laterSet, laterTerminal]
    simp [apply, setTerminalOutcome, base, unset, started]
  | defaulted _ _ later _ writes =>
    refine ended_ruled recorded paced ruled writes later ?_ ?_
    · intro _ first _ _ _ _ upstream passes
      refine set_outcome_passes ?_ passes
      rw [upstream]
      cases scene.handler.upstreamStarted <;> rfl
    · intro _ first set
      have same : first.apply (.setTerminalOutcome (if scene.handler.upstreamStarted then .complete else .preUpstream)) = first :=
        outcome_stays set (.inl ⟨_, rfl⟩)
      exact ⟨congrArg RequestTraceState.terminalSet same, congrArg (fun st => st.input.terminal) same⟩
  | completed _ later _ _ writes =>
    refine ended_ruled recorded paced ruled writes later (fun _ _ _ _ _ _ _ passes => set_metadata_passes _ passes) ?_
    intro _ first set
    have same : first.apply (.setTerminalMetadata scene.exchange.terminal) = first := outcome_stays set (.inr ⟨_, rfl⟩)
    exact ⟨congrArg RequestTraceState.terminalSet same, congrArg (fun st => st.input.terminal) same⟩

theorem opened_ruled {req : Request} {context : Option (Trace.Text × ClockReading × Bool)}
    (begun : newExchange cfg req context = some scene.exchange) :
    Ruled false scene :=
  ⟨fun _ _ traced _ => (opened_trace begun traced).unset, fun _ _ traced => unset_passes (opened_trace begun traced).unset,
    fun late => by cases late⟩

end Rulings

theorem completed_outcome_passes (config : Config) (slots : Option Nat) (tokens budgets : Bool) (worker : Option (Int × Int)) {system : System}
    {calls : List Call} {replies : List Made}
    (run : Transition.execute (step config) (newSystem slots tokens budgets worker) calls = some (system, replies)) {index : Nat} {scene : Scene}
    (found : system.scene index = some scene) {trace : RequestTraceState} (traced : scene.exchange.trace = some trace) :
    (calls.any (Call.late index) = false → trace.OutcomePasses ∧ (∀ clock, (trace.freezeBase clock).2.isSome = true ↔ trace.ModesPass) ∧
      ∀ ownership, scene.exchange.completion = some ownership → ownership.finalized = true → (scene.exchange.emitted ≠ [] ↔ trace.ModesPass)) ∧
    (calls.any (Call.late index) = true → trace.base = none → ¬trace.OutcomePasses ∧ ∀ clock, (trace.freezeBase clock).2 = none) := by
  obtain ⟨recorded, _, ruled⟩ := scene_run (fun late scene => scene.exchange.Recorded ∧ Paced scene ∧ Ruled late scene)
    (fun scene req context begun handler => ⟨new_recorded begun, opened_paced begun handler, opened_ruled begun⟩)
    (fun late pre after new holds noted =>
      ⟨changes_recorded holds.1 (noted_changes noted), noted_paced holds.2.1 noted, noted_ruled holds.1 holds.2.1 holds.2.2 noted⟩) run found
  obtain ⟨ok, judged⟩ := recorded.sound trace traced
  refine ⟨?_, ?_⟩
  · intro early
    have passes := ruled.passes early trace traced
    refine ⟨passes, ?_, ?_⟩
    · intro clock
      rw [Trace.freeze_passes ok judged clock]
      exact and_iff_left passes
    · intro ownership has fin
      rw [(recorded.out ownership trace has fin traced).2]
      exact and_iff_left passes
  · intro late begun
    obtain ⟨set, term⟩ := (ruled.overrun late).2 trace traced begun
    have fails : ¬trace.OutcomePasses := by
      simp [OutcomePasses, Trace.completedTerminal, set, term, Trace.first_fault_none, Trace.terminalFaults]
    refine ⟨fails, ?_⟩
    intro clock
    have verdict := Trace.freeze_passes ok judged clock
    cases row : (trace.freezeBase clock).2 with
    | none => rfl
    | some =>
      rw [row] at verdict
      exact absurd (verdict.mp rfl).2 fails

def endedChat (failure : UpstreamFailure) : List Call :=
  [.arrive chat (some ("0123456789abcdef0123456789abcdef".toUTF8, instant, true)), .handle 0 (.inspect "key" 2),
    .handle 0 (.describe (some ⟨"model".toUTF8, some false⟩)),
    .handle 0 (.acquire ⟨"key", 2, [⟨10, 60⟩], 4, Budget.unlimitedBudgetPolicy, .unknown⟩ true false),
    .resources (.advance 0 0), .resources (.advance 0 0), .handle 0 .proceed, .handle 0 (.start instant), .handle 0 (.fail failure),
    .handle 0 (.run instant), .handle 0 (.run instant), .settle 0 0, .settle 0 0, .settle 0 0, .settle 0 0, .settle 0 0, .handle 0 (.run instant),
    .handle 0 (.run instant), .handle 0 (.run instant), .handle 0 (.run instant)]

def afterFailure (failure : UpstreamFailure) : Option (System × List Made) :=
  Transition.execute (step plain) (newSystem (some 7) true false none) (endedChat failure)

theorem timed_out_chat_runs : (afterFailure .timeout).isSome = true := by decide +kernel

theorem completed_outcome_passes_timeout : ∃ system replies scene trace, afterFailure .timeout = some (system, replies) ∧
    system.scene 0 = some scene ∧
    scene.exchange.trace = some trace ∧ scene.handler.stage = .returned ∧ trace.OutcomePasses ∧ scene.exchange.emitted ≠ [] ∧ trace.ModesPass := by
  obtain ⟨system, replies, scene, own, trace, run, hit, back, one, has, fin, traced⟩ :=
    summary_returned 1 timed_out_chat_runs (by decide +kernel)
  have emitted : scene.exchange.emitted ≠ [] := List.ne_nil_of_length_pos (by rw [one]; decide)
  obtain ⟨passes, _, out⟩ := (completed_outcome_passes plain (some 7) true false none run hit traced).1 rfl
  exact ⟨system, replies, scene, trace, run, hit, traced, back, passes, emitted, (out own has fin).mp emitted⟩

theorem oversized_chat_runs : (afterFailure .bodyTooLarge).isSome = true := by decide +kernel

-- A body found too large by the transport leaves no record.
theorem oversized_body_unrecorded : ∃ system replies scene ownership, afterFailure .bodyTooLarge = some (system, replies) ∧
    system.scene 0 = some scene ∧ scene.handler.stage = .returned ∧ scene.exchange.completion = some ownership ∧ ownership.finalized = true ∧
      scene.exchange.emitted = [] := by
  obtain ⟨system, replies, scene, own, _, run, hit, back, none, has, fin, _⟩ := summary_returned 0 oversized_chat_runs (by decide +kernel)
  exact ⟨system, replies, scene, own, run, hit, back, has, fin, List.length_eq_zero_iff.mp none⟩

end NineGateway.Proxy
