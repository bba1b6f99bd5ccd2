import NineGateway.Proxy.Settlement

set_option autoImplicit false

namespace NineGateway.Proxy

open Trace (ClockReading)
open Lifecycle (Granted LeaseAdjustmentTickets)
open Observation (UsageObservationWorker UsageObservationJob Submission)
open Transition

def Stage.settling : Stage → Bool
  | calling _ _ | waiting _ _ | unwinding | handing _ | submitting _ _ | invalidating _ | enriching | concluding | completing | closing => true
  | _ => false

def Stage.unwound : Stage → Bool
  | completing | closing | returned => true
  | _ => false

def submissionRank : Submission → Nat
  | .checking => 3
  | .claiming => 2
  | .admitting => 1
  | .enqueueing => 0

def jobRank (job : UsageObservationJob) : Nat := job.ticket.toList.length + job.budgetTicket.toList.length

def Return.rank : Return → Nat
  | dispatched _ => 4
  | draining => 8
  | handing => 0
  | enriching => 0
  | concluding => 0

-- A bound on the steps the handler is away from its return, those of its lease
-- apart.
def Stage.rank : Stage → Nat
  | inspecting => 28
  | planning => 27
  | acquiring => 26
  | building => 25
  | awaiting => 24
  | dispatching => 23
  | forwarding => 23
  | converting => 23
  | draining => 20
  | delivering => 19
  | dispatched _ => 16
  | calling _ back => back.rank + 14
  | waiting _ back => back.rank + 13
  | unwinding => 15
  | handing _ => 12
  | submitting _ submission => submissionRank submission + 8
  | invalidating job => jobRank job + 5
  | enriching => 4
  | concluding => 3
  | completing => 2
  | closing => 1
  | returned => 0

def Scene.rank (scene : Scene) (adm : Nat) : Nat := scene.handler.stage.rank + (scene.lifecycle.lease adm).rank

open Scene

theorem job_rank_le (job : UsageObservationJob) : jobRank job ≤ 2 := by
  unfold jobRank
  cases job.ticket <;> cases job.budgetTicket <;> simp

def Falls (adm : Nat) (scene : Scene) (out : Option (Scene × Made)) : Prop :=
  ∃ next made, out = some (next, made) ∧ next.handler.admission = scene.handler.admission ∧ next.rank adm < scene.rank adm

section Falling

variable {cfg : Config} {i adm : Nat} {scene next : Scene}

theorem inner_falls (inner : Inner scene next) (lower : next.handler.stage.rank < scene.handler.stage.rank) : Falls adm scene (alone next) := by
  refine ⟨next, none, rfl, inner.admission, ?_⟩
  unfold rank
  rw [inner.lifecycle]
  omega

theorem entered_falls (after : Stage) {pre : Stage} (inner : Inner scene next) (got : next.handler.stage = after) (stage : scene.handler.stage = pre)
    (lower : after.rank < pre.rank) : Falls adm scene (alone next) :=
  inner_falls inner (by rw [got, stage]; exact lower)

theorem asked_falls {call : Lifecycle.Call} {life : Lifecycle.System} {rep : Lifecycle.Reply}
    {continued : Scene → Lifecycle.Reply → Option Scene} (ran : Lifecycle.step scene.lifecycle call = some (life, rep))
    (following : continued { scene with lifecycle := life } rep = some next) (same : next.lifecycle = life)
    (kept : next.handler.admission = scene.handler.admission) (lower : next.handler.stage.rank < scene.handler.stage.rank) :
    Falls adm scene (scene.ask call continued) := by
  refine ⟨next, some (call, rep), by simp [ask, ran, following], kept, ?_⟩
  have lease := Lifecycle.lease_rank_kept ran adm
  unfold rank
  rw [same]
  omega

variable {out : Lifecycle.LeaseOutcome} {job : UsageObservationJob} {back : Return}

theorem call_falls (stage : scene.handler.stage = .calling out back) (mine : scene.handler.admission = some adm)
    (granted : Granted scene.lifecycle adm) : Falls adm scene (scene.call out back) := by
  obtain ⟨_, took⟩ := granted
  have inside : ∃ life caller, Lifecycle.step scene.lifecycle (.terminate adm out) = some (life, .entered caller) := by
    cases st : scene.lifecycle.lease adm <;> simp [Lifecycle.step, took, st]
  obtain ⟨_, _, ran⟩ := inside
  simp only [call, mine]
  refine asked_falls ran rfl rfl rfl ?_
  rw [stage]
  simp [enter, Stage.rank]

theorem wait_falls {caller : Nat} (stage : scene.handler.stage = .waiting caller back)
    (due : scene.lifecycle.callers[caller]? = some ⟨adm, none⟩) (decided : (scene.lifecycle.lease adm).outcome = some out) :
    Falls adm scene (scene.wait caller back) ∨ ∃ out prog, scene.lifecycle.lease adm = .finalizing out prog := by
  cases st : scene.lifecycle.lease adm with
  | «open» =>
    rw [st] at decided
    cases decided
  | finalizing out prog => exact .inr ⟨out, prog, rfl⟩
  | finalized _ res =>
    left
    have told : Lifecycle.step scene.lifecycle (.answer caller) =
        some ({ scene.lifecycle with callers := scene.lifecycle.callers.set caller ⟨adm, some res⟩ }, .answered res) := by
      simp only [Lifecycle.step, due, st]
    refine asked_falls told rfl rfl rfl ?_
    rw [stage]
    cases back <;> simp [enter, Return.stage, Stage.rank, Return.rank]

theorem submit_falls {sub : Submission} (stage : scene.handler.stage = .submitting job sub)
    (even : ∀ worker, scene.worker = some worker → ∃ held, worker.Balanced (held + sub.holds.toNat)) :
    Falls adm scene (scene.submit job sub) := by
  unfold submit
  cases has : scene.worker with
  | none =>
    refine inner_falls ⟨rfl, rfl, rfl, rfl⟩ ?_
    have small := job_rank_le job
    rw [stage]
    simp only [enter, Stage.rank]
    omega
  | some worker =>
    obtain ⟨held, fair⟩ := even worker has
    obtain ⟨⟨after, out⟩, sent⟩ := Option.isSome_iff_exists.mp (Observation.submit_enabled job fair)
    refine ⟨enter { scene with worker := some after } (submittedStage job out), none, by simp [sent], rfl, ?_⟩
    have small := job_rank_le job
    have lower : (submittedStage job out).rank < scene.handler.stage.rank := by
      rw [stage]
      cases Observation.submit_outcome sent <;> simp only [submittedStage, Stage.rank, submissionRank] <;> omega
    exact Nat.add_lt_add_right lower _

theorem invalidate_falls (clock : ClockReading) (stage : scene.handler.stage = .invalidating job)
    (held : Held scene.lifecycle ⟨job.ticket, job.budgetTicket⟩) : Falls adm scene (scene.invalidate job clock) := by
  unfold invalidate
  split
  · rename_i ticket given
    obtain ⟨⟨_, _⟩, ran⟩ := Option.isSome_iff_exists.mp (Lifecycle.token_invalidate_enabled (held.token ticket given))
    refine asked_falls ran rfl rfl rfl ?_
    rw [stage]
    simp [enter, Stage.rank, jobRank, given]
  · rename_i ticket spent given
    obtain ⟨⟨_, _⟩, ran⟩ := Option.isSome_iff_exists.mp (Lifecycle.budget_invalidate_enabled (held.budget ticket given))
    refine asked_falls ran rfl rfl rfl ?_
    rw [stage]
    simp [enter, Stage.rank, jobRank, given]
  · refine inner_falls (entered_inner ?_ _) ?_
    · split <;> exact ⟨rfl, rfl, rfl, rfl⟩
    · rw [stage]
      exact either_stage (fun stage => stage.rank < _) (by simp [Stage.rank]) (by simp [Stage.rank])

-- Whatever the others have done, a handler that settles can go on, or its lease
-- is being settled.
theorem run_falls (clock : ClockReading) (stand : Standing i scene) (held : Held scene.lifecycle scene.handler.stage.tickets)
    (free : scene.handler.inspection = none)
    (even : ∀ worker, scene.worker = some worker → ∃ held, worker.Balanced (held + scene.handler.stage.holds.toNat))
    (mine : scene.handler.admission = some adm) (granted : Granted scene.lifecycle adm) (settling : scene.handler.stage.settling = true) :
    Falls adm scene (scene.run i clock) ∨ ∃ out prog, scene.lifecycle.lease adm = .finalizing out prog := by
  unfold run
  cases stage : scene.handler.stage with
  | calling => exact .inl (call_falls stage mine granted)
  | waiting =>
    have lease := stand.lease
    unfold LeaseStanding at lease
    rw [stage] at lease
    obtain ⟨owned, _, yours, _, due, decided, _⟩ := lease
    obtain rfl : adm = owned := Option.some.inj (mine.symm.trans yours)
    exact wait_falls stage due decided
  | unwinding =>
    left
    simp only [unwind, free]
    refine inner_falls (settle_inner clock) ?_
    rw [stage]
    refine settle_stage (fun stage => stage.rank < _) clock ?_ (by decide) (by decide) (by intro obs; simp [Stage.rank, submissionRank])
    rintro out back (rfl | rfl | rfl) <;> simp [Stage.rank, Return.rank]
  | handing tickets =>
    left
    refine inner_falls (hand_inner tickets) ?_
    rw [stage]
    have small := job_rank_le (handedJob i scene.handler.observation tickets false)
    refine hand_stage (fun stage => stage.rank < _) (by simp [Stage.rank]) ?_ (by intro ended; simp [Stage.rank, submissionRank])
    simp only [Stage.rank]
    omega
  | submitting =>
    rw [stage] at even
    exact .inl (submit_falls stage even)
  | invalidating =>
    rw [stage] at held
    exact .inl (invalidate_falls clock stage held)
  | enriching => exact .inl (entered_falls .concluding ⟨rfl, rfl, rfl, rfl⟩ rfl stage (by decide))
  | concluding =>
    left
    refine inner_falls (entered_inner ?_ _) ?_
    · split <;> exact ⟨rfl, rfl, rfl, rfl⟩
    · rw [stage]
      exact either_stage (fun stage => stage.rank < _) (by decide) (by decide)
  | completing => exact .inl (entered_falls .closing ⟨rfl, rfl, rfl, rfl⟩ rfl stage (by decide))
  | closing => exact .inl (entered_falls .returned ⟨rfl, rfl, rfl, rfl⟩ rfl stage (by decide))
  | _ => simp [stage, Stage.settling] at settling

theorem body_falls (stand : Standing i scene) (mine : scene.handler.admission = some adm) (granted : Granted scene.lifecycle adm)
    (body : scene.handler.stage.settling = false) (running : scene.handler.stage ≠ .returned) :
    ∃ event, Falls adm scene (scene.advance cfg i event) := by
  have lease := stand.lease
  unfold LeaseStanding at lease
  cases stage : scene.handler.stage with
  | inspecting | planning =>
    rw [stage] at lease
    simp [lease.1] at mine
  | acquiring =>
    obtain ⟨_, took⟩ := granted
    obtain ⟨_, has, phase⟩ := Lifecycle.admitted_lease_iff.mp took
    refine ⟨.proceed, ?_⟩
    simp only [advance, proceed, stage, mine, has, Option.map_some, phase]
    exact entered_falls .building ⟨rfl, rfl, rfl, rfl⟩ rfl stage (by decide)
  | building =>
    refine ⟨.refuse .internal, ?_⟩
    simp only [advance, refuse, stage]
    exact entered_falls .unwinding ⟨rfl, rfl, rfl, rfl⟩ rfl stage (by decide)
  | awaiting =>
    refine ⟨.fail .connection, ?_⟩
    simp only [advance, failUpstream, stage]
    exact entered_falls .unwinding ⟨rfl, rfl, rfl, rfl⟩ rfl stage (by decide)
  | dispatching =>
    refine ⟨.callback, ?_⟩
    simp only [advance, callback, stage]
    exact entered_falls .unwinding ⟨rfl, rfl, rfl, rfl⟩ rfl stage (by decide)
  | forwarding | delivering =>
    refine ⟨.dispatch none, ?_⟩
    simp only [advance, dispatch, stage]
    exact entered_falls (.dispatched none) ⟨rfl, rfl, rfl, rfl⟩ rfl stage (by decide)
  | converting =>
    refine ⟨.convertFailed .other, ?_⟩
    simp only [advance, convertFailed, stage]
    refine inner_falls ⟨rfl, rfl, rfl, rfl⟩ ?_
    rw [stage]
    exact settle_lease_stage (fun stage => stage.rank < _) (by decide) (by decide)
  | draining =>
    refine ⟨.drained none, ?_⟩
    simp only [advance, drained, stage]
    exact entered_falls .delivering ⟨rfl, rfl, rfl, rfl⟩ rfl stage (by decide)
  | dispatched err =>
    refine ⟨.conclude false false, ?_⟩
    simp only [advance, conclude, stage]
    have inner := told_inner (judge_told (scene.observed (fun obs => obs.finish err.isSome)) err false false)
    exact entered_falls .unwinding ⟨inner.lifecycle, inner.worker, inner.admission, inner.inspection⟩ rfl stage (by simp [Stage.rank])
  | returned => exact absurd stage running
  | _ => simp [stage, Stage.settling] at body

end Falling

def Serves (index admission : Nat) (call : Call) : Prop := (∃ event, call = .handle index event) ∨ ∃ reading, call = .settle admission reading

def Begun (calls : List Call) (replies : List Made) (index admission : Nat) : Prop :=
  ∃ (position : Nat) (event : Event) (asked : Lifecycle.Call),
    calls[position]? = some (.handle index event) ∧ replies[position]? = some (some (asked, .resources (.started admission)))

-- An admission stays with the handler that began it, unless it was rejected.
def Owned (cs : List Call) (outs : List Made) (sys : System) : Prop :=
  ∀ i adm, Begun cs outs i adm → ∃ handler, sys.handlers[i]? = some handler ∧
    (handler.admission = some adm ∨ ∃ entry err, sys.lifecycle.resources.admissions[adm]? = some entry ∧ entry.phase = .rejected err)

section Owners

variable {cfg : Config} {sys next : System} {call : Call} {made : Made}

theorem handlers_kept {i : Nat} {handler : Handler} (ok : Sound sys) (ran : step cfg sys call = some (next, made))
    (has : sys.handlers[i]? = some handler) :
    ∃ later, next.handlers[i]? = some later ∧ ∀ adm, handler.admission = some adm → later.admission = some adm ∨
      ∃ entry err, next.lifecycle.resources.admissions[adm]? = some entry ∧ entry.phase = .rejected err := by
  cases step_outcome ran with
  | arrived => exact ⟨handler, Roster.entry_kept has _, fun _ mine => .inl mine⟩
  | handled alt _ scene after _ hit move =>
    obtain ⟨dealt, _, _, _⟩ := scene_iff.mp hit
    by_cases here : alt = i
    · subst here
      obtain rfl : scene.handler = handler := Option.some.inj (dealt.symm.trans has)
      refine ⟨after.handler, (scene_iff.mp (restored_scene after hit)).1, ?_⟩
      intro adm mine
      have planning : scene.handler.stage ≠ .planning := by
        intro stage
        have lease := (ok.standing alt scene hit).lease
        unfold LeaseStanding at lease
        rw [stage] at lease
        simp [lease.1] at mine
      obtain ⟨touched, _, took⟩ := move_footprint move
      cases took with
      | kept _ same => exact .inl (same.trans mine)
      | begun _ _ stage => exact absurd stage planning
      | dropped _ _ cause =>
        rcases cause with stage | ⟨owned, entry, err, yours, there, barred⟩
        · exact absurd stage planning
        obtain rfl : owned = adm := Option.some.inj (yours.symm.trans mine)
        refine .inr ⟨entry, err, ?_, barred⟩
        show after.lifecycle.resources.admissions[owned]? = some entry
        cases touched with
        | alone same => rw [same, there]
        | asked _ _ _ did => exact Lifecycle.rejected_kept did there barred
    · exact ⟨handler, by simpa only [System.restore, List.getElem?_set_ne here] using has, fun _ mine => .inl mine⟩
  | _ => exact ⟨handler, has, fun _ mine => .inl mine⟩

theorem rejected_stays {adm : Nat} {entry : Resource.Admission} {err : Resource.AdmissionError} (ran : step cfg sys call = some (next, made))
    (has : sys.lifecycle.resources.admissions[adm]? = some entry)
    (barred : entry.phase = .rejected err) : next.lifecycle.resources.admissions[adm]? = some entry := by
  cases step_outcome ran with
  | handled _ _ _ after _ hit move =>
    obtain ⟨_, _, life, _⟩ := scene_iff.mp hit
    rw [← life] at has
    show after.lifecycle.resources.admissions[adm]? = some entry
    cases (move_footprint move).touched with
    | alone same => rw [same, has]
    | asked _ _ _ did => exact Lifecycle.rejected_kept did has barred
  | used _ _ _ did | settled _ _ _ _ did => exact Lifecycle.rejected_kept did has barred
  | _ => exact has

theorem begun_step {i adm : Nat} {event : Event} {asked : Lifecycle.Call}
    (ran : step cfg sys (.handle i event) = some (next, some (asked, .resources (.started adm)))) :
    ∃ handler, next.handlers[i]? = some handler ∧ handler.admission = some adm := by
  generalize rep : (some (asked, Lifecycle.Reply.resources (.started adm)) : Made) = made at ran
  cases step_outcome ran with
  | handled _ _ _ after _ hit move =>
    refine ⟨after.handler, (scene_iff.mp (restored_scene after hit)).1, ?_⟩
    cases move with
    | acquiring =>
      cases rep
      rfl
    | inspected _ _ _ _ _ did | released _ _ _ _ _ did | tokenInvalidated _ _ _ _ _ _ _ did
    | budgetInvalidated _ _ _ _ _ _ _ _ did =>
      cases rep
      cases Lifecycle.step_outcome did with
      | resources _ _ _ _ below => cases below
    | _ => cases rep

variable {outs : List Made} {cs : List Call}

theorem owned_step (synchronous : cs.length = outs.length) (ok : Sound sys) (owned : Owned cs outs sys)
    (ran : step cfg sys call = some (next, made)) : Owned (cs ++ [call]) (outs ++ [made]) next := by
  rintro i adm ⟨pos, event, asked, called, replied⟩
  rcases Roster.entry_append called with past | ⟨last, now⟩
  · rcases Roster.entry_append replied with told | ⟨end_, _⟩
    · obtain ⟨_, has, mine⟩ := owned i adm ⟨pos, event, asked, past, told⟩
      obtain ⟨later, there, kept⟩ := handlers_kept ok ran has
      refine ⟨later, there, ?_⟩
      rcases mine with mine | ⟨entry, err, hit, barred⟩
      · exact kept adm mine
      · exact .inr ⟨entry, err, rejected_stays ran hit barred, barred⟩
    · have inside := (List.getElem?_eq_some_iff.mp past).1
      omega
  · rcases Roster.entry_append replied with told | ⟨_, rep⟩
    · have inside := (List.getElem?_eq_some_iff.mp told).1
      omega
    · subst now rep
      obtain ⟨handler, has, mine⟩ := begun_step ran
      exact ⟨handler, has, .inl mine⟩

theorem owned_run {slots : Option Nat} {tokens budgets : Bool} {worker : Option (Int × Int)}
    (run : execute (step cfg) (newSystem slots tokens budgets worker) cs = some (sys, outs)) : Owned cs outs sys := by
  refine run_traced Owned ?_ ?_ along_always run
  · intro past told st call next made got owned _ transition
    exact owned_step (execute_length got) (sound_run got) owned transition
  · rintro i adm ⟨pos, event, asked, called, _⟩
    simp at called

end Owners

section Progress

variable {cfg : Config} {sys next : System} {i adm : Nat} {scene : Scene}

variable {made : Made}

theorem handle_step {event : Event} {after : Scene} (hit : sys.scene i = some scene) (did : scene.advance cfg i event = some (after, made)) :
    step cfg sys (.handle i event) = some (sys.restore i after, made) := by
  simp [step, hit, did]

theorem settle_step {out : Lifecycle.LeaseOutcome} {prog : Lifecycle.Progress} (ok : Sound sys)
    (busy : sys.lifecycle.lease adm = .finalizing out prog) (read : Int) :
    ∃ life rep, Lifecycle.step sys.lifecycle (.settle adm read) = some (life, rep) ∧
      step cfg sys (.settle adm read) = some ({ sys with lifecycle := life }, some (.settle adm read, rep)) := by
  obtain ⟨⟨life, rep⟩, ran⟩ := Option.isSome_iff_exists.mp (Lifecycle.settle_enabled ok.regular busy read)
  exact ⟨life, rep, ran, by simp [step, System.ask, ran]⟩

theorem own_balanced (ok : Sound sys) (hit : sys.scene i = some scene) :
    ∀ worker, scene.worker = some worker → ∃ held, worker.Balanced (held + scene.handler.stage.holds.toNat) := by
  obtain ⟨dealt, _, _, same⟩ := scene_iff.mp hit
  intro worker has
  have own := Roster.weight_le_total (fun handler : Handler => handler.stage.holds.toNat) sys.handlers i scene.handler dealt (by simp)
  refine ⟨Roster.total (fun handler : Handler => handler.stage.holds.toNat) sys.handlers - scene.handler.stage.holds.toNat, ?_⟩
  rw [Nat.sub_add_cancel own]
  exact ok.balanced worker (by rw [← same, has])

theorem settling_falls (ok : Sound sys) (hit : sys.scene i = some scene) (mine : scene.handler.admission = some adm)
    (granted : Granted sys.lifecycle adm) (settling : scene.handler.stage.settling = true) (clock : ClockReading) :
    Falls adm scene (scene.run i clock) ∨ ∃ out prog, sys.lifecycle.lease adm = .finalizing out prog := by
  obtain ⟨dealt, _, life, _⟩ := scene_iff.mp hit
  have mem := List.mem_of_getElem? dealt
  rw [← life]
  exact run_falls clock (ok.standing i scene hit) (by rw [life]; exact ok.held _ mem)
    (ok.free _ mem (by simp [mine])) (own_balanced ok hit) mine (by rwa [life]) settling

theorem serves_falls (cfg : Config) (ok : Sound sys) (hit : sys.scene i = some scene) (mine : scene.handler.admission = some adm)
    (granted : Granted sys.lifecycle adm) (running : scene.handler.stage ≠ .returned) :
    ∃ call next made later, Serves i adm call ∧ step cfg sys call = some (next, made) ∧ next.scene i = some later ∧
      later.handler.admission = some adm ∧ later.rank adm < scene.rank adm := by
  obtain ⟨dealt, exchanged, life, worker⟩ := scene_iff.mp hit
  have handle : ∀ event, Falls adm scene (scene.advance cfg i event) → ∃ call next made later, Serves i adm call ∧
      step cfg sys call = some (next, made) ∧ next.scene i = some later ∧ later.handler.admission = some adm ∧
      later.rank adm < scene.rank adm := by
    rintro event ⟨after, made, did, kept, lower⟩
    exact ⟨.handle i event, sys.restore i after, made, after, .inl ⟨event, rfl⟩, handle_step hit did, restored_scene after hit,
      kept.trans mine, lower⟩
  cases settling : scene.handler.stage.settling with
  | false =>
    obtain ⟨event, falls⟩ := body_falls (ok.standing i scene hit) mine (by rwa [life]) settling running
    exact handle event falls
  | true =>
    obtain ⟨clock⟩ : Nonempty ClockReading := ⟨⟨0, 0, by decide⟩⟩
    rcases settling_falls ok hit mine granted settling clock with falls | ⟨out, prog, busy⟩
    · exact handle (.run clock) falls
    obtain ⟨after, _, below, ran⟩ := settle_step ok busy 0
    refine ⟨.settle adm 0, _, _, { scene with lifecycle := after }, .inr ⟨0, rfl⟩, ran, scene_iff.mpr ⟨dealt, exchanged, rfl, worker⟩, mine, ?_⟩
    have lower := Lifecycle.lease_rank_settled below
    unfold rank
    rw [life]
    exact Nat.add_lt_add_left lower _

theorem granted_kept {call : Call} (ran : step cfg sys call = some (next, made))
    (granted : Granted sys.lifecycle adm) : Granted next.lifecycle adm := by
  obtain ⟨lease, took⟩ := granted
  cases step_outcome ran with
  | handled _ _ _ after _ hit move =>
    obtain ⟨_, _, life, _⟩ := scene_iff.mp hit
    rw [← life] at took
    refine ⟨lease, ?_⟩
    show Lifecycle.admittedLease after.lifecycle adm = some lease
    cases (move_footprint move).touched with
    | alone same => rw [same, took]
    | asked _ _ _ did => exact (Lifecycle.admitted_kept did took).2
  | used _ _ _ did | settled _ _ _ _ did => exact ⟨lease, (Lifecycle.admitted_kept did took).2⟩
  | _ => exact ⟨lease, took⟩

theorem serves_return (ok : Sound sys) (hit : sys.scene i = some scene) (mine : scene.handler.admission = some adm)
    (granted : Granted sys.lifecycle adm) :
    ∃ more final answers later, execute (step cfg) sys more = some (final, answers) ∧ (∀ call ∈ more, Serves i adm call) ∧
      final.scene i = some later ∧ later.handler.admission = some adm ∧ later.handler.stage = .returned := by
  induction bound : scene.rank adm using Nat.strong_induction_on generalizing sys scene with
  | _ bound ih =>
    by_cases running : scene.handler.stage = .returned
    · exact ⟨[], sys, [], scene, rfl, by simp, hit, mine, running⟩
    obtain ⟨call, _, made, later, serves, ran, there, yours, lower⟩ := serves_falls cfg ok hit mine granted running
    obtain ⟨more, final, answers, last, run, all, got, still, done⟩ :=
      ih (later.rank adm) (bound ▸ lower) (sound_step ok ran) there yours (granted_kept ran granted) rfl
    refine ⟨call :: more, final, made :: answers, last, by simp [execute, ran, run], ?_, got, still, done⟩
    intro alt mem
    rcases List.mem_cons.mp mem with rfl | old
    · exact serves
    · exact all alt old

end Progress

-- What has become of a lease when the deferred block is done. It was published
-- once, each of its parts was settled once, and its tickets are in an accepted
-- job or consumed.
structure Settled (start : Lifecycle.System) (calls : List Lifecycle.Call) (scene : Scene) (admission : Nat) (lease : Resource.ResourceLease) :
    Prop where
  once : Transition.measure Lifecycle.step (Lifecycle.publishes admission) start calls = 1
  parts : Lifecycle.SettledOnce start calls scene.lifecycle admission lease
  tickets : ∃ outcome result, scene.lifecycle.lease admission = .finalized outcome result ∧
    (∀ ticket, result.tickets.token = some ticket → TokenSettled scene ticket) ∧ ∀ ticket, result.tickets.budget = some ticket →
      BudgetSettled scene ticket

-- A handler that settles is never blocked, and from anywhere its own steps and
-- those of its lease lead to its return.
structure Returning (config : Config) (system : System) (index admission : Nat) (stage : Stage) : Prop where
  unblocked : stage.settling = true → ∀ clock reading, (step config system (.handle index (.run clock))).isSome = true ∨
    (step config system (.settle admission reading)).isSome = true
  returns : ∃ more final answers later, Transition.execute (step config) system more = some (final, answers) ∧
    (∀ call ∈ more, Serves index admission call) ∧ final.scene index = some later ∧ later.handler.admission = some admission ∧
    later.handler.stage = .returned

section Requests

variable {cfg : Config} {sys : System} {i adm : Nat} {scene : Scene}

theorem unwound_carried (ok : Sound sys) (hit : sys.scene i = some scene) (unwound : scene.handler.stage.unwound = true) :
    Carried scene.exchange.completion (Accepted scene.worker UsageObservationJob.completion i) := by
  have had := (ok.standing i scene hit).completion
  unfold carrier at had
  cases stage : scene.handler.stage with
  | completing | closing | returned =>
    rw [stage] at had
    exact had
  | _ => simp [stage, Stage.unwound] at unwound

theorem unwound_disposed (ok : Sound sys) (hit : sys.scene i = some scene) (unwound : scene.handler.stage.unwound = true) :
    Disposed scene.lifecycle scene.handler.admission (TokenSettled scene) (BudgetSettled scene) := by
  have lease := (ok.standing i scene hit).lease
  unfold LeaseStanding at lease
  cases stage : scene.handler.stage with
  | completing | closing | returned =>
    rw [stage] at lease
    exact lease
  | _ => simp [stage, Stage.unwound] at unwound

variable {tokens budgets : Bool} {slots : Option Nat}

theorem unwound_settled {cs : List Lifecycle.Call} {outs : List Lifecycle.Reply} {lease : Resource.ResourceLease} (ok : Sound sys)
    (hit : sys.scene i = some scene) (unwound : scene.handler.stage.unwound = true) (mine : scene.handler.admission = some adm)
    (took : Lifecycle.admittedLease scene.lifecycle adm = some lease)
    (run : execute Lifecycle.step (Lifecycle.freshSystem slots tokens budgets) cs = some (scene.lifecycle, outs)) :
    Settled (Lifecycle.freshSystem slots tokens budgets) cs scene adm lease := by
  have reg := Lifecycle.regular_fresh slots tokens budgets
  obtain ⟨_, out, res, final, token, budget⟩ := unwound_disposed ok hit unwound adm mine
  have pub := Lifecycle.regular_measured (Lifecycle.publishes adm) (fun w sys => w = (sys.lease adm).published.toNat)
    (fun _ _ _ _ _ _ transition counted => Lifecycle.published_step transition counted) reg rfl run
  rw [final] at pub
  exact ⟨pub, Lifecycle.settled_once reg rfl run took, out, res, final, token, budget⟩

theorem handler_returning (ok : Sound sys) (hit : sys.scene i = some scene) (mine : scene.handler.admission = some adm)
    (granted : Granted sys.lifecycle adm) : Returning cfg sys i adm scene.handler.stage := by
  refine ⟨?_, serves_return ok hit mine granted⟩
  intro settling clock read
  rcases settling_falls ok hit mine granted settling clock with ⟨after, made, did, _⟩ | ⟨out, prog, busy⟩
  · have moving : scene.advance cfg i (.run clock) = some (after, made) := did
    exact .inl (by rw [handle_step hit moving]; rfl)
  · obtain ⟨_, _, _, ran⟩ := settle_step ok busy read
    exact .inr (by rw [ran]; rfl)

theorem begun_owner {worker : Option (Int × Int)} {cs : List Call} {outs : List Made}
    (run : execute (step cfg) (newSystem slots tokens budgets worker) cs = some (sys, outs)) (begun : Begun cs outs i adm)
    (granted : Granted sys.lifecycle adm) : ∃ scene, sys.scene i = some scene ∧ scene.handler.admission = some adm := by
  obtain ⟨handler, has, mine⟩ := owned_run run i adm begun
  have inside := (List.getElem?_eq_some_iff.mp has).1
  rw [(sound_run run).paired] at inside
  refine ⟨⟨sys.lifecycle, sys.worker, handler, sys.exchanges[i]⟩, scene_iff.mpr ⟨has, List.getElem?_eq_getElem inside, rfl, rfl⟩, ?_⟩
  rcases mine with mine | ⟨entry, err, there, barred⟩
  · exact mine
  obtain ⟨_, took⟩ := granted
  obtain ⟨_, hit, phase⟩ := Lifecycle.admitted_lease_iff.mp took
  rw [there] at hit
  cases hit
  rw [barred] at phase
  cases phase

end Requests

theorem admitted_requests_settle (config : Config) (slots : Option Nat) (tokens budgets : Bool) (worker : Option (Int × Int)) {system : System}
    {calls : List Call} {replies : List Made}
    (run : Transition.execute (step config) (newSystem slots tokens budgets worker) calls = some (system, replies)) :
    (∀ index scene, system.scene index = some scene → scene.handler.stage.unwound = true →
      Carried scene.exchange.completion (Accepted scene.worker UsageObservationJob.completion index)) ∧
    ∀ index admission lease, Begun calls replies index admission → Lifecycle.admittedLease system.lifecycle admission = some lease →
      ∃ scene, system.scene index = some scene ∧ scene.handler.admission = some admission ∧ (scene.handler.stage.unwound = true →
          Settled (Lifecycle.freshSystem slots tokens budgets) (replies.filterMap (fun made => made.map Prod.fst)) scene admission lease) ∧
        Returning config system index admission scene.handler.stage := by
  have ok := sound_run run
  refine ⟨fun index scene hit unwound => unwound_carried ok hit unwound, ?_⟩
  intro index admission lease begun took
  obtain ⟨scene, hit, mine⟩ := begun_owner run begun ⟨lease, took⟩
  have life := (scene_iff.mp hit).2.2.1
  refine ⟨scene, hit, mine, ?_, handler_returning ok hit mine ⟨lease, took⟩⟩
  intro unwound
  have below := lifecycle_run run
  rw [← life] at below took
  exact unwound_settled ok hit unwound mine took below

def instant : ClockReading := ⟨0, 0, by decide⟩

def plain : Config :=
  { baseURL := true, strings := { mediaType := some, trimSpace := id }, responseDispatch := false, maxObservedResponseBytes := 16 }

def chat : Request :=
  { method := methodPost, path := chatCompletionsPath, escapedPath := chatCompletionsPath, principal := some ("key".toUTF8, "name".toUTF8) }

def observedChat : List Call :=
  [.arrive chat (some ("0123456789abcdef0123456789abcdef".toUTF8, instant, true)), .handle 0 (.inspect "key" 2),
    .handle 0 (.describe (some ⟨"model".toUTF8, some false⟩)),
    .handle 0 (.acquire ⟨"key", 2, [⟨10, 60⟩], 4, Budget.unlimitedBudgetPolicy, .unknown⟩ true false),
    .resources (.advance 0 0), .resources (.advance 0 0), .handle 0 .proceed, .handle 0 (.start instant),
    .handle 0 (.respond ⟨200, [jsonType], []⟩ instant),
    .handle 0 (.record [123, 125]), .handle 0 (.dispatch none), .handle 0 (.conclude false false), .handle 0 (.run instant), .handle 0 (.run instant),
    .settle 0 0, .settle 0 0, .settle 0 0, .settle 0 0, .settle 0 0, .handle 0 (.run instant), .handle 0 (.run instant), .handle 0 (.run instant),
    .handle 0 (.run instant), .handle 0 (.run instant), .handle 0 (.run instant), .handle 0 (.run instant), .handle 0 (.run instant),
    .handle 0 (.run instant)]

theorem observed_chat_runs : (execute (step plain) (newSystem (some 7) true false (some (1, 1024))) observedChat).isSome = true := by
  decide +kernel

theorem admitted_requests_settle_observed : ∃ system replies scene lease,
    Transition.execute (step plain) (newSystem (some 7) true false (some (1, 1024))) observedChat = some (system, replies) ∧
      Lifecycle.admittedLease system.lifecycle 0 = some lease ∧ system.scene 0 = some scene ∧ scene.handler.stage = .returned ∧
      Settled (Lifecycle.freshSystem (some 7) true false) (replies.filterMap (fun made => made.map Prod.fst)) scene 0 lease := by
  have run := execute_get observed_chat_runs
  have begun : Begun observedChat ((execute (step plain) (newSystem (some 7) true false (some (1, 1024))) observedChat).get observed_chat_runs).2
      0 0 :=
    ⟨3, _, .resources (.acquireWithProvisional 0 ⟨"key", 2, [⟨10, 60⟩], 4, Budget.unlimitedBudgetPolicy, .unknown⟩), rfl, by decide +kernel⟩
  have took : Lifecycle.admittedLease
      ((execute (step plain) (newSystem (some 7) true false (some (1, 1024))) observedChat).get observed_chat_runs).1.lifecycle 0 =
        some ⟨0, some 0, none⟩ := by decide +kernel
  have back : (((execute (step plain) (newSystem (some 7) true false (some (1, 1024))) observedChat).get observed_chat_runs).1.handlers[0]?).map
      Handler.stage = some .returned := by decide +kernel
  obtain ⟨scene, hit, _, paid, _⟩ := (admitted_requests_settle plain (some 7) true false (some (1, 1024)) run).2 0 0 _ begun took
  have stage : scene.handler.stage = .returned := by
    rw [(scene_iff.mp hit).1] at back
    exact Option.some.inj back
  exact ⟨_, _, scene, _, run, took, hit, stage, paid (by rw [stage]; rfl)⟩

end NineGateway.Proxy
