import NineGateway.Observation.Settled

set_option autoImplicit false

namespace NineGateway.Observation

open Transition

def Routine.unbegun : Routine → Bool
  | .releasing _ | .processing _ .parsing _ | .processing _ (.gating _) _ => true
  | .processing _ (.token _) _ | .processing _ (.budget _) _ | .processing _ .finishing _ => false
  | .waiting | .looping | .draining | .wiping _ | .done => false

def Routine.adjusting : Routine → Option UsageObservationJob
  | .processing job (.token _) _ | .processing job (.budget _) _ | .processing job .finishing _ => some job
  | .processing _ .parsing _ | .processing _ (.gating _) _ | .releasing _ | .waiting | .looping | .draining | .wiping _ | .done => none

namespace ObservationSystem

def Shut (sys : ObservationSystem) : Prop := sys.worker.queue = [] ∧ sys.worker.accepting = false

def Sealed (sys : ObservationSystem) : Prop := sys.phase = .terminal ∨ sys.Shut ∧ sys.routine.unbegun = false

end ObservationSystem

def Closer.Kept (sys : ObservationSystem) (closer : Closer) : Prop :=
  match closer.stage with
  | .flagging | .bounding | .returned false => True
  | .stopping | .waiting | .expiring => closer.drains = true ∨ sys.Shut
  | .between => if closer.drains then sys.phase ≠ .idle else sys.Sealed
  | .emptying _ => if closer.drains then sys.Sealed else sys.worker.accepting = false
  | .discarding => closer.drains = true ∧ sys.Sealed
  | .returned true => sys.Sealed

-- The adjustment under way is not finished between the two attempts of a Drain
-- whose deadline has passed.
def FinishesClear (system : ObservationSystem) (move : Move) : Prop :=
  move = .finish → ∀ closer ∈ system.closers, closer.drains = true → closer.stage ≠ .between

instance (system : ObservationSystem) (move : Move) : Decidable (FinishesClear system move) := by
  unfold FinishesClear
  infer_instance

structure Started (sys : ObservationSystem) : Prop where
  adjusting : sys.phase = .adjusting → sys.routine.adjusting ≠ none
  begun : ∀ job, sys.routine.adjusting = some job → job ∈ sys.begun

open ObservationSystem (advanceTo back expire finishAdjust)

section Steps

variable {sys next : ObservationSystem} {move : Move}

theorem adjusting_begun {routine : Routine} (adjusting : routine.adjusting ≠ none) : routine.unbegun = false := by
  cases routine with
  | processing _ prog =>
    cases prog with
    | parsing | gating => exact absurd rfl adjusting
    | token | budget | finishing => rfl
  | releasing => exact absurd rfl adjusting
  | waiting | looping | draining | wiping | done => rfl

theorem back_begun (drains : Bool) : (back drains).unbegun = false ∧ (back drains).adjusting = none := by
  cases drains <;> exact ⟨rfl, rfl⟩

theorem wind_begun (sys : ObservationSystem) : sys.wind.routine.unbegun = false ∧ sys.wind.routine.adjusting = none := by
  unfold ObservationSystem.wind
  split <;> exact ⟨rfl, rfl⟩

theorem moved_denied (did : Moved sys move next) (denied : sys.worker.accepting = false) : next.worker.accepting = false := by
  cases did with
  | submitted _ outs =>
    cases outs <;> exact denied
  | bounded => rfl
  | _ => exact denied

theorem moved_shut (did : Moved sys move next) (shut : sys.Shut) : next.Shut := by
  refine ⟨?_, moved_denied did shut.2⟩
  obtain ⟨empty, denied⟩ := shut
  cases did with
  | submitted _ outs =>
    cases outs with
    | queued accepting => rw [denied] at accepting; cases accepting
    | refused | checked | claimed | admitted | freed => exact empty
  | claimed _ accepting => rw [denied] at accepting; cases accepting
  | taken _ queued | wiping _ queued | emptying _ _ _ queued => rw [empty] at queued; cases queued
  | _ => exact empty

theorem moved_sealed (did : Moved sys move next) (sealed : sys.Sealed) : next.Sealed := by
  rcases sealed with term | ⟨shut, begun⟩
  · left
    cases did with
    | submitted _ outs =>
      cases outs <;> exact term
    | began _ idle => rw [term] at idle; cases idle
    | finished => simp [finishAdjust, term]
    | expired | tried => simp [expire, advanceTo, term]
    | _ => exact term
  · refine .inr ⟨moved_shut did shut, ?_⟩
    cases did with
    | submitted _ outs =>
      cases outs <;> exact begun
    | claimed _ _ queued | taken _ queued => rw [shut.1] at queued; cases queued
    | released releasing | parsed _ _ releasing => rw [releasing] at begun; cases begun
    | failed | finished => exact (back_begun _).1
    | wound => exact (wind_begun sys).1
    | wiped | wiping | wipedOff | woken | paused | exhausted | began | settledToken | settledBudget => rfl
    | _ => exact begun

theorem moved_phase (did : Moved sys move next) (undone : move ≠ .finish) (busy : sys.phase ≠ .idle) : next.phase ≠ .idle := by
  cases did with
  | submitted _ outs =>
    cases outs <;> exact busy
  | began => simp
  | finished => exact absurd rfl undone
  | expired | tried =>
    simp only [expire, advanceTo]
    split <;> simp_all
  | _ => exact busy

theorem moved_kept {closer : Closer} (clear : FinishesClear sys move) (did : Moved sys move next) (shown : closer ∈ sys.closers)
    (kept : closer.Kept sys) : closer.Kept next := by
  obtain ⟨drains, stage⟩ := closer
  cases stage with
  | flagging | bounding => trivial
  | stopping | waiting | expiring => exact kept.imp_right (moved_shut did)
  | between =>
    cases drains with
    | true => exact moved_phase did (fun finish => clear finish _ shown rfl rfl) kept
    | false => exact moved_sealed did kept
  | discarding => exact ⟨kept.1, moved_sealed did kept.2⟩
  | emptying =>
    cases drains with
    | true => exact moved_sealed did kept
    | false => exact moved_denied did kept
  | returned expired =>
    cases expired with
    | true => exact moved_sealed did kept
    | false => trivial

theorem unbegun_adjusting {job : UsageObservationJob} {prog : Progress} {drains : Bool} (unbegun : prog.isBegun = false) :
    (Routine.processing job prog drains).adjusting = none := by
  cases prog with
  | parsing | gating => rfl
  | token | budget | finishing => cases unbegun

theorem moved_started (begun : Started sys) (did : Moved sys move next) : Started next := by
  have resting : sys.routine.adjusting = none → next.routine.adjusting = none → next.phase = sys.phase → Started next := by
    intro pre after same
    refine ⟨fun phase => absurd pre (begun.adjusting (same.symm.trans phase)), fun job busy => ?_⟩
    rw [after] at busy
    cases busy
  cases did with
  | submitted _ outs =>
    cases outs <;> exact ⟨begun.adjusting, begun.begun⟩
  | wound winds => exact resting (by rcases winds with winds | winds <;> rw [winds.1] <;> rfl) (wind_begun sys).2 rfl
  | wiped waiting | wiping waiting | wipedOff waiting | woken waiting | paused waiting | claimed waiting | exhausted waiting
  | taken waiting | released waiting | parsed _ _ waiting =>
    exact resting (by rw [waiting]; rfl) rfl rfl
  | failed processing unbegun => exact resting (by rw [processing]; exact unbegun_adjusting unbegun) (back_begun _).2 rfl
  | began => exact ⟨fun _ => Option.some_ne_none _, fun job busy => Option.some.inj busy ▸ List.mem_append_right _ (List.mem_singleton_self _)⟩
  | settledToken settling | settledBudget settling =>
    refine ⟨fun _ => Option.some_ne_none _, fun job busy => begun.begun job ?_⟩
    rw [settling]
    exact busy
  | finished finishing =>
    rename_i job drains
    refine ⟨fun phase => ?_, fun job busy => ?_⟩
    · simp only [finishAdjust] at phase
      split at phase <;> simp_all
    · rw [show Routine.adjusting _ = none from (back_begun drains).2] at busy
      cases busy
  | expired | tried =>
    refine ⟨fun phase => begun.adjusting ?_, begun.begun⟩
    simp only [expire, advanceTo] at phase
    split at phase
    · cases phase
    · exact phase
  | _ => exact ⟨begun.adjusting, begun.begun⟩

theorem moved_closers (clear : FinishesClear sys move) (begun : Started sys) (kept : ∀ closer ∈ sys.closers, closer.Kept sys)
    (did : Moved sys move next) : ∀ closer ∈ next.closers, closer.Kept next := by
  have onward : ∀ closer ∈ sys.closers, closer.Kept next := fun closer shown => moved_kept clear did shown (kept closer shown)
  have shut := moved_shut did
  have sealed := moved_sealed did
  cases did with
  | submitted _ outs =>
    cases outs <;> exact onward
  | closing drains => exact Roster.forall_append _ _ onward (by cases drains <;> trivial)
  | flagged => exact Roster.forall_set _ _ _ onward trivial
  | bounded expired has =>
    rename_i call closer _
    refine Roster.forall_set _ _ _ onward ?_
    obtain ⟨drains, _⟩ := closer
    cases drains with
    | true => exact .inl rfl
    | false => rfl
  | stopped _ has stage | emptying _ has stage | emptiedOff _ has stage =>
    have here := onward _ (List.mem_of_getElem? has)
    simp only [Closer.Kept, stage] at here
    exact Roster.forall_set _ _ _ onward here
  | discarded _ has stage =>
    have here := onward _ (List.mem_of_getElem? has)
    simp only [Closer.Kept, stage] at here
    exact Roster.forall_set _ _ _ onward (by simpa only [Closer.Kept, here.1, if_true] using here.2)
  | emptied expired has stage empty =>
    rename_i call closer
    have here := onward _ (List.mem_of_getElem? has)
    simp only [Closer.Kept, stage] at here
    refine Roster.forall_set _ _ _ onward ?_
    obtain ⟨drains, _⟩ := closer
    cases drains with
    | true => exact here
    | false => exact .inr ⟨empty, here⟩
  | waited _ has stage either =>
    have here := onward _ (List.mem_of_getElem? has)
    simp only [Closer.Kept, stage] at here
    rcases either with rfl | rfl
    · exact Roster.forall_set _ _ _ onward here
    · exact Roster.forall_set _ _ _ onward trivial
  | expired expired has stage =>
    rename_i call closer
    have here := kept _ (List.mem_of_getElem? has)
    simp only [Closer.Kept, stage] at here
    refine Roster.forall_set _ _ _ onward ?_
    obtain ⟨drains, _⟩ := closer
    cases drains with
    | true =>
      show ObservationSystem.phase _ ≠ .idle
      simp only [expire, advanceTo]
      split <;> simp_all
    | false =>
      by_cases adjusting : sys.phase = .adjusting
      · exact .inr ⟨shut (here.resolve_left (by simp)), adjusting_begun (begun.adjusting adjusting)⟩
      · left
        simp only [expire, advanceTo]
        cases phase : sys.phase <;> simp_all
  | tried expired has stage =>
    rename_i call closer
    have here := kept _ (List.mem_of_getElem? has)
    simp only [Closer.Kept, stage] at here
    refine Roster.forall_set _ _ _ onward ?_
    obtain ⟨drains, _⟩ := closer
    cases drains with
    | true =>
      refine ⟨rfl, .inl ?_⟩
      simp only [expire, advanceTo, if_true] at here ⊢
      cases phase : sys.phase <;> simp_all
    | false => exact sealed here
  | _ => exact onward

theorem sealed_adjusts (sealed : sys.Sealed) (started : Started sys) (did : Moved sys move next) : next.begun = sys.begun ∧
      ∃ later, next.adjusted = sys.adjusted ++ later ∧ ∀ ticket ∈ later, ∃ job ∈ sys.begun, ticket ∈ job.tickets := by
  have still : next.begun = sys.begun → next.adjusted = sys.adjusted → next.begun = sys.begun ∧
      ∃ later, next.adjusted = sys.adjusted ++ later ∧ ∀ ticket ∈ later, ∃ job ∈ sys.begun, ticket ∈ job.tickets :=
    fun begun tuned => ⟨begun, [], tuned.trans (List.append_nil _).symm, fun _ mem => nomatch mem⟩
  cases did with
  | submitted _ outs =>
    cases outs <;> exact still rfl rfl
  | began gating idle =>
    rcases sealed with term | ⟨shut, begun⟩
    · rw [term] at idle; cases idle
    · rw [gating] at begun; cases begun
  | failed => exact still rfl (List.append_nil _)
  | settledToken settling =>
    rename_i job verdict drains
    refine ⟨rfl, _, rfl, fun ticket mem => ⟨job, started.begun job (by rw [settling]; rfl), List.mem_append_left _ ?_⟩⟩
    cases adjusts : verdict.token <;> simp_all
  | settledBudget settling =>
    rename_i job verdict drains
    refine ⟨rfl, _, rfl, fun ticket mem => ⟨job, started.begun job (by rw [settling]; rfl), List.mem_append_right _ ?_⟩⟩
    cases adjusts : verdict.budget <;> simp_all
  | _ => exact still rfl rfl

end Steps

theorem adjustment_ends_at_deadline (capacity maxBytes : Int) (before after : List Move) (middle reached : ObservationSystem)
    (replies answers : List Unit) (closer : Closer) (clear : Transition.Along step FinishesClear (newObservationSystem capacity maxBytes) before)
    (run : Transition.execute step (newObservationSystem capacity maxBytes) before = some (middle, replies)) (listed : closer ∈ middle.closers)
    (expired : closer.stage = .returned true) (onward : Transition.execute step middle after = some (reached, answers)) :
    reached.begun = middle.begun ∧
      (∃ later, reached.adjusted = middle.adjusted ++ later ∧ ∀ ticket ∈ later, ∃ job ∈ middle.begun, ticket ∈ job.tickets) ∧
      (reached.AtRest → ((reached.submissions.map Prod.fst).flatMap UsageObservationJob.tickets).Perm (reached.adjusted ++ reached.invalidated)) := by
  obtain ⟨started, kept⟩ : Started middle ∧ ∀ closer ∈ middle.closers, closer.Kept middle := by
    refine run_invariant (fun st => Started st ∧ ∀ closer ∈ st.closers, closer.Kept st) ?_
      ⟨⟨by simp [newObservationSystem], by simp [newObservationSystem, Routine.adjusting]⟩, by simp [newObservationSystem]⟩ clear run
    intro st move later rep holds allowed stepped
    obtain ⟨_, did, ⟨⟩⟩ := Option.map_eq_some_iff.mp stepped
    exact ⟨moved_started holds.1 (move_moved did), moved_closers allowed holds.1 holds.2 (move_moved did)⟩
  have sealed : middle.Sealed := by
    have here := kept closer listed
    simpa only [Closer.Kept, expired] using here
  obtain ⟨_, _, begun, later⟩ : reached.Sealed ∧ Started reached ∧ reached.begun = middle.begun ∧
      ∃ later, reached.adjusted = middle.adjusted ++ later ∧ ∀ ticket ∈ later, ∃ job ∈ middle.begun, ticket ∈ job.tickets := by
    refine run_invariant (fun st => st.Sealed ∧ Started st ∧ st.begun = middle.begun ∧
      ∃ later, st.adjusted = middle.adjusted ++ later ∧ ∀ ticket ∈ later, ∃ job ∈ middle.begun, ticket ∈ job.tickets) ?_
      ⟨sealed, started, rfl, [], (List.append_nil _).symm, fun _ mem => nomatch mem⟩ along_always onward
    rintro st move last rep ⟨sealed, started, begun, past, tuned, known⟩ _ stepped
    obtain ⟨_, did, ⟨⟩⟩ := Option.map_eq_some_iff.mp stepped
    obtain ⟨still, later, more, new⟩ := sealed_adjusts sealed started (move_moved did)
    rw [begun] at still new
    refine ⟨moved_sealed (move_moved did) sealed, moved_started started (move_moved did), still, past ++ later, ?_, fun ticket mem => ?_⟩
    · rw [more, tuned, List.append_assoc]
    · exact (List.mem_append.mp mem).elim (known ticket) (new ticket)
  refine ⟨begun, later, fun rest => ?_⟩
  have whole := execute_append run onward
  obtain ⟨conserved, flag, _⟩ := reached_sound whole
  obtain ⟨none_left, paid⟩ := settled_at_rest conserved flag rest
  have handed := handed_perm conserved
  have tickets := ticket_perm conserved
  rw [none_left, List.append_nil] at handed
  rw [paid, List.append_nil] at tickets
  exact (handed.flatMap_right _).trans tickets

def drainBegun : List Move :=
  handedOver 0 0 ++ handedOver 1 1 ++ [.close true] ++ List.replicate 3 (.advance 0 false) ++
    [.stop, .take, .release, .parse (some ⟨true, false⟩), .begin]

def deadlinePassed : List Move := drainBegun ++ List.replicate 7 (.advance 0 true)

theorem adjustment_ends_at_deadline_first : ∃ middle replies reached answers,
    Transition.execute step (newObservationSystem 2 0) deadlinePassed = some (middle, replies) ∧
      Transition.execute step middle [.settleToken] = some (reached, answers) ∧ reached.begun = middle.begun ∧ reached.adjusted = [.token 0] := by
  refine ⟨_, _, _, _, execute_get (by decide +kernel), execute_get (by decide +kernel), ?_, by decide +kernel⟩
  exact (adjustment_ends_at_deadline 2 0 deadlinePassed [.settleToken] _ _ _ _ ⟨true, .returned true⟩ (by decide +kernel)
    (execute_get (by decide +kernel)) (by decide +kernel) rfl (execute_get (by decide +kernel))).1

def finishedBetween : List Move :=
  drainBegun ++ [.advance 0 true, .advance 0 true, .settleToken, .settleBudget, .finish, .take, .release] ++ List.replicate 3 (.advance 0 true)

theorem job_begins_after_deadline : ∃ middle replies reached answers,
    Transition.execute step (newObservationSystem 2 0) finishedBetween = some (middle, replies) ∧ ⟨true, .returned true⟩ ∈ middle.closers ∧
      Transition.execute step middle [.parse (some ⟨true, false⟩), .begin, .settleToken] = some (reached, answers) ∧
      middle.begun = [observationOf 0] ∧ middle.adjusted = [.token 0] ∧ reached.adjusted = [.token 0, .token 1] :=
  ⟨_, _, _, _, Transition.execute_get (by decide +kernel), by decide +kernel, Transition.execute_get (by decide +kernel), by decide +kernel,
    by decide +kernel, by decide +kernel⟩

end NineGateway.Observation
