import NineGateway.Proxy.Standing

set_option autoImplicit false

namespace NineGateway.Proxy

open Trace (ClockReading)
open Completion (CompletionOwnership)
open Lifecycle (Granted Later LeaseAdjustmentTickets Issued tokenMarks budgetMarks)
open Observation (UsageObservationWorker UsageObservationJob)
open Scene Roster

def Stage.holds : Stage → Bool
  | submitting _ submission => submission.holds
  | _ => false

inductive Own (handler : Handler) : Lifecycle.Call → Prop where
  | resources (call) : Own handler (.resources call)
  | terminate (adm out) (mine : handler.admission = some adm) : Own handler (.terminate adm out)
  | answer (caller) (mine : handler.stage.caller = some caller) : Own handler (.answer caller)

inductive Touched (scene next : Scene) : Made → Prop where
  | alone (same : next.lifecycle = scene.lifecycle) : Touched scene next none
  | asked (call rep) (own : Own scene.handler call)
      (ran : Lifecycle.step scene.lifecycle call = some (next.lifecycle, rep)) : Touched scene next (some (call, rep))

inductive Worked (scene next : Scene) : Prop where
  | idle (same : next.worker = scene.worker) (held : scene.worker.isSome = true → next.handler.stage.holds = scene.handler.stage.holds) :
      Worked scene next
  | submitting (job sub worker after out) (stage : scene.handler.stage = .submitting job sub) (has : scene.worker = some worker)
      (later : next.worker = some after) (got : next.handler.stage = Scene.submittedStage job out)
      (sent : Observation.SubmitOutcome worker job sub after out) : Worked scene next

inductive Admitted (scene next : Scene) : Made → Prop where
  | kept (made) (same : next.handler.admission = scene.handler.admission)
      (free : scene.handler.stage ≠ .inspecting → scene.handler.inspection = none → next.handler.inspection = none) : Admitted scene next made
  | dropped (made) (gone : next.handler.admission = none)
      (cause : scene.handler.stage = .planning ∨ ∃ adm entry err, scene.handler.admission = some adm ∧
        scene.lifecycle.resources.admissions[adm]? = some entry ∧ entry.phase = .rejected err) : Admitted scene next made
  | begun (call adm) (stage : scene.handler.stage = .planning) (mine : next.handler.admission = some adm)
      (free : next.handler.inspection = none) : Admitted scene next (some (.resources call, .resources (.started adm)))

-- What a step of one handler means to the others.
structure Footprint (scene next : Scene) (made : Made) : Prop where
  touched : Touched scene next made
  worked : Worked scene next
  admitted : Admitted scene next made

section Footprints

variable {cfg : Config} {i : Nat} {scene next : Scene} {event : Event} {made : Made}

structure Inner (scene next : Scene) : Prop where
  lifecycle : next.lifecycle = scene.lifecycle
  worker : next.worker = scene.worker
  admission : next.handler.admission = scene.handler.admission
  inspection : next.handler.inspection = scene.handler.inspection

theorem inner_footprint (inner : Inner scene next) (held : next.handler.stage.holds = scene.handler.stage.holds) : Footprint scene next none :=
  ⟨.alone inner.lifecycle, .idle inner.worker (fun _ => held), .kept none inner.admission (fun _ free => by rw [inner.inspection, free])⟩

theorem entered_inner (inner : Inner scene next) (stage : Stage) : Inner scene (next.enter stage) :=
  ⟨inner.lifecycle, inner.worker, inner.admission, inner.inspection⟩

theorem either_stage (property : Stage → Prop) {condition : Prop} [Decidable condition] {first second : Stage} (one : property first)
    (two : property second) : property (if condition then first else second) := by
  split
  · exact one
  · exact two

theorem settle_lease_stage (property : Stage → Prop) {out : Lifecycle.LeaseOutcome} {back : Return} {without : Stage}
    (leased : property (.calling out back)) (leaseless : property without) : property (scene.settleLease out back without).handler.stage :=
  either_stage property leased leaseless

theorem told_inner (told : Told scene next) : Inner scene next := by
  refine ⟨told.lifecycle, told.worker, ?_, ?_⟩ <;> rw [told.handler]

theorem classified_inner (cfg : Config) (scene : Scene) (resp : UpstreamResponse) (clock : ClockReading) :
    Inner scene (scene.classified cfg resp clock) := by
  have told := classified_told cfg scene resp clock
  refine ⟨told.lifecycle, told.worker, ?_, ?_⟩ <;> rw [told.handler]

theorem transfer_inner (did : scene.transfer = some next) : Inner scene next := by
  have told := transfer_taken did
  refine ⟨told.lifecycle, told.worker, ?_, ?_⟩ <;> rw [told.handler]

theorem settle_inner (clock : ClockReading) : Inner scene (scene.settle i clock) := by
  unfold settle settleObserved
  repeat' split
  any_goals exact ⟨rfl, rfl, rfl, rfl⟩
  rename_i taken
  exact entered_inner (transfer_inner taken) _

variable (tickets : LeaseAdjustmentTickets)

theorem hand_inner : Inner scene (scene.hand i tickets) := by
  unfold hand
  repeat' split
  any_goals exact ⟨rfl, rfl, rfl, rfl⟩
  rename_i taken
  exact entered_inner (transfer_inner taken) _

theorem settle_stage (property : Stage → Prop) (clock : ClockReading)
    (calling : ∀ out back, back = .handing ∨ back = .enriching ∨ back = .concluding → property (.calling out back))
    (enriching : property .enriching) (concluding : property .concluding)
    (submitting : ∀ obs, property (.submitting (completionJob i obs) .checking)) : property (scene.settle i clock).handler.stage := by
  unfold settle
  split
  · exact settle_lease_stage property (calling _ _ (by simp)) concluding
  · exact settle_lease_stage property (calling _ _ (by simp)) concluding
  unfold settleObserved
  split
  · split
    · exact concluding
    split
    · exact either_stage property (calling _ _ (by simp)) (calling _ _ (by simp))
    split
    · exact concluding
    split
    · exact enriching
    · split
      · exact enriching
      · exact submitting _
  · exact settle_lease_stage property (calling _ _ (by simp)) enriching

theorem hand_stage (property : Stage → Prop) {tickets : LeaseAdjustmentTickets} (concluding : property .concluding)
    (invalidating : property (.invalidating (handedJob i scene.handler.observation tickets false)))
    (submitting : ∀ ended, property (.submitting (handedJob i scene.handler.observation tickets ended) .checking)) :
    property (scene.hand i tickets).handler.stage := by
  unfold hand
  split
  · split
    · exact concluding
    · exact submitting false
  · split
    · exact invalidating
    · exact submitting true

theorem settle_unheld (clock : ClockReading) : (scene.settle i clock).handler.stage.holds = false :=
  settle_stage (fun stage => stage.holds = false) clock (fun _ _ _ => rfl) rfl rfl (fun _ => rfl)

theorem hand_unheld : (scene.hand i tickets).handler.stage.holds = false :=
  hand_stage (fun stage => stage.holds = false) rfl rfl (fun _ => rfl)

theorem asked_footprint {call : Lifecycle.Call} {rep : Lifecycle.Reply} (own : Own scene.handler call)
    (ran : Lifecycle.step scene.lifecycle call = some (next.lifecycle, rep)) (worker : next.worker = scene.worker)
    (held : next.handler.stage.holds = scene.handler.stage.holds) (took : Admitted scene next (some (call, rep))) :
    Footprint scene next (some (call, rep)) := ⟨.asked call rep own ran, .idle worker (fun _ => held), took⟩

theorem move_footprint (move : Move cfg i scene event next made) : Footprint scene next made := by
  cases move with
  | misconfigured stage | described _ stage | bypassed stage | admitted _ _ stage | started _ stage | failed _ stage | calledBack stage
  | drained stage | undrained _ stage | enriched _ stage | completed _ stage | closed _ stage =>
    exact inner_footprint ⟨rfl, rfl, rfl, rfl⟩ (by rw [stage]; rfl)
  | refused _ stage => exact inner_footprint ⟨rfl, rfl, rfl, rfl⟩ (by rcases stage with stage | stage | stage <;> (rw [stage]; rfl))
  | inspected _ _ _ _ stage ran =>
    unfold inspecting
    split
    · exact asked_footprint (.resources _) ran rfl rfl (.kept _ rfl (fun alt => absurd stage alt))
    · exact asked_footprint (.resources _) ran rfl (by rw [stage]; rfl) (.kept _ rfl (fun _ => id))
  | acquiring _ _ _ _ adm stage ran =>
    exact asked_footprint (.resources _) ran rfl (by rw [stage]; rfl) (.begun _ adm stage rfl rfl)
  | unacquired _ _ _ _ _ stage ran =>
    exact asked_footprint (.resources _) ran rfl (by rw [stage]; rfl) (.dropped _ rfl (.inl stage))
  | rejected adm entry err stage mine has phase =>
    exact ⟨.alone rfl, .idle rfl (fun _ => by rw [stage]; rfl), .dropped _ rfl (.inr ⟨adm, entry, err, mine, has, phase⟩)⟩
  | customized resp clock stage =>
    have inner := classified_inner cfg scene resp clock
    exact inner_footprint ⟨inner.lifecycle, inner.worker, inner.admission, inner.inspection⟩ (by rw [stage]; rfl)
  | selected resp clock stage =>
    have inner := classified_inner cfg scene resp clock
    refine inner_footprint ⟨inner.lifecycle, inner.worker, inner.admission, inner.inspection⟩ ?_
    rw [stage]
    exact either_stage (fun stage => stage.holds = false) rfl rfl
  | recorded | wrote => exact inner_footprint ⟨rfl, rfl, rfl, rfl⟩ rfl
  | unconverted _ stage | overflowed stage =>
    exact inner_footprint ⟨rfl, rfl, rfl, rfl⟩ (by rw [stage]; exact settle_lease_stage (fun stage => stage.holds = false) rfl rfl)
  | aggregated _ _ _ _ _ stage =>
    refine inner_footprint ?_ (by rw [stage]; exact settle_lease_stage (fun stage => stage.holds = false) rfl rfl)
    unfold settleLease canonical
    split <;> exact ⟨rfl, rfl, rfl, rfl⟩
  | dispatched _ stage => exact inner_footprint ⟨rfl, rfl, rfl, rfl⟩ (by rcases stage with stage | stage <;> (rw [stage]; rfl))
  | concluded err requestDone deadline stage =>
    have inner := told_inner (judge_told (scene.observed (fun obs => obs.finish err.isSome)) err requestDone deadline)
    exact inner_footprint ⟨inner.lifecycle, inner.worker, inner.admission, inner.inspection⟩ (by rw [stage]; rfl)
  | crashed body =>
    refine inner_footprint ⟨rfl, rfl, rfl, rfl⟩ ?_
    cases stage : scene.handler.stage with
    | submitting => simp [stage, exposed] at body
    | _ => rfl
  | entered _ out _ adm _ _ stage mine ran =>
    exact asked_footprint (.terminate adm out mine) ran rfl (by rw [stage]; rfl) (.kept _ rfl (fun _ => id))
  | answered _ caller back _ _ stage ran =>
    refine asked_footprint (.answer caller (by rw [stage]; rfl)) ran rfl ?_ (.kept _ rfl (fun _ => id))
    rw [stage]
    cases back <;> rfl
  | released _ _ _ _ _ ran =>
    exact asked_footprint (.resources _) ran rfl rfl (.kept _ rfl (fun _ _ => rfl))
  | settled clock stage => exact inner_footprint (settle_inner clock) (by rw [settle_unheld, stage]; rfl)
  | handed _ tickets stage => exact inner_footprint (hand_inner tickets) (by rw [hand_unheld, stage]; rfl)
  | unsubmitted _ _ _ _ gone =>
    exact ⟨.alone rfl, .idle rfl (fun has => by simp [gone] at has), .kept _ rfl (fun _ => id)⟩
  | submitted _ job sub worker after out stage has sent =>
    exact ⟨.alone rfl, .submitting job sub worker after out stage has rfl rfl sent, .kept _ rfl (fun _ => id)⟩
  | tokenInvalidated _ _ _ _ _ stage _ ran | budgetInvalidated _ _ _ _ _ stage _ _ ran =>
    exact asked_footprint (.resources _) ran rfl (by rw [stage]; rfl) (.kept _ rfl (fun _ => id))
  | invalidated _ _ stage =>
    refine inner_footprint (entered_inner ?_ _) ?_
    · split <;> exact ⟨rfl, rfl, rfl, rfl⟩
    · rw [stage]
      exact either_stage (fun stage => stage.holds = false) rfl rfl
  | blockFinished _ stage =>
    refine inner_footprint (entered_inner ?_ _) ?_
    · split <;> exact ⟨rfl, rfl, rfl, rfl⟩
    · rw [stage]
      exact either_stage (fun stage => stage.holds = false) rfl rfl

end Footprints

def Stage.tickets : Stage → LeaseAdjustmentTickets
  | handing tickets => tickets
  | submitting job _ => ⟨job.ticket, job.budgetTicket⟩
  | invalidating job => ⟨job.ticket, job.budgetTicket⟩
  | _ => Lifecycle.noTickets

structure Held (life : Lifecycle.System) (tickets : LeaseAdjustmentTickets) : Prop where
  token : ∀ ticket, tickets.token = some ticket → Issued (tokenMarks life.resources.tokens) ticket
  budget : ∀ ticket, tickets.budget = some ticket → Issued (budgetMarks life.resources.budgets) ticket

section Tickets

variable {cfg : Config} {i : Nat} {scene next : Scene} {event : Event} {made : Made} {pre after : Lifecycle.System}
  {tickets fewer : LeaseAdjustmentTickets}

theorem held_none : Held after Lifecycle.noTickets := ⟨by simp [Lifecycle.noTickets], by simp [Lifecycle.noTickets]⟩

theorem held_later {adm caller : Option Nat} (later : Later adm caller pre after) (held : Held pre tickets) : Held after tickets :=
  ⟨fun ticket given => Lifecycle.issued_kept later.tokens (held.token ticket given),
    fun ticket given => Lifecycle.issued_kept later.budget (held.budget ticket given)⟩

theorem held_answered {caller : Nat} {res : Lifecycle.LeaseResult} (held : ∀ own, Lifecycle.Ticketed own pre)
    (ran : Lifecycle.step pre (.answer caller) = some (after, .answered res)) : Held after res.tickets := by
  generalize ans : Lifecycle.Reply.answered res = reply at ran
  cases Lifecycle.step_outcome ran with
  | answered _ own _ _ _ closed =>
    obtain rfl := Lifecycle.Reply.answered.inj ans
    have issued := held own
    exact ⟨fun ticket hit => issued.tokens ticket (by rw [closed]; exact hit), fun ticket hit => issued.budget ticket (by rw [closed]; exact hit)⟩

theorem move_held (reg : Lifecycle.Regular scene.lifecycle) (ticketed : ∀ own, Lifecycle.Ticketed own scene.lifecycle)
    (move : Move cfg i scene event next made) (held : Held scene.lifecycle scene.handler.stage.tickets) :
    Held next.lifecycle next.handler.stage.tickets := by
  have asked : ∀ {call : Resource.Call} {life : Lifecycle.System} {rep : Lifecycle.Reply},
      Lifecycle.step scene.lifecycle (.resources call) = some (life, rep) → Later none none scene.lifecycle life :=
    fun ran => Lifecycle.later_step reg ran (by simp) (by simp)
  cases move with
  | inspected _ _ _ _ _ ran =>
    unfold inspecting
    split
    · exact held_later (asked ran) held
    · exact held_none
  | recorded | wrote => exact held
  | unconverted | aggregated | overflowed =>
    exact settle_lease_stage (fun stage => Held _ stage.tickets) held_none held_none
  | answered _ _ back _ _ _ ran =>
    cases back with
    | handing => exact held_answered ticketed ran
    | _ => exact held_none
  | released _ _ _ _ _ ran => exact held_later (asked ran) held
  | settled clock stage =>
    exact settle_stage (fun stage => Held _ stage.tickets) clock (fun _ _ _ => held_none) held_none held_none (fun _ => held_none)
  | handed _ tickets stage =>
    rw [stage] at held
    rw [(hand_inner tickets).lifecycle]
    exact hand_stage (fun stage => Held _ stage.tickets) held_none held (fun _ => held)
  | unsubmitted _ _ _ stage =>
    rw [stage] at held
    exact held
  | submitted _ _ _ _ _ out stage =>
    rw [stage] at held
    cases out with
    | pending | dropped => exact held
    | accepted => exact held_none
  | tokenInvalidated _ _ _ _ _ stage _ ran =>
    rw [stage] at held
    have later := held_later (asked ran) held
    exact ⟨by simp [enter, Stage.tickets], later.budget⟩
  | budgetInvalidated _ _ _ _ _ stage _ _ ran =>
    rw [stage] at held
    have later := held_later (asked ran) held
    exact ⟨later.token, by simp [enter, Stage.tickets]⟩
  | selected | invalidated | blockFinished => exact either_stage (fun stage => Held _ stage.tickets) held_none held_none
  | _ => exact held_none

end Tickets

structure Sound (sys : System) : Prop where
  regular : Lifecycle.Regular sys.lifecycle
  ticketed : ∀ own, Lifecycle.Ticketed own sys.lifecycle
  standing : ∀ i scene, sys.scene i = some scene → Standing i scene
  held : ∀ handler ∈ sys.handlers, Held sys.lifecycle handler.stage.tickets
  paired : sys.handlers.length = sys.exchanges.length
  inside : ∀ handler ∈ sys.handlers, ∀ adm, handler.admission = some adm → adm < sys.lifecycle.resources.admissions.length
  apart : ∀ (one two : Nat) (adm), sys.handlers[one]?.bind Handler.admission = some adm → sys.handlers[two]?.bind Handler.admission = some adm →
    one = two
  free : ∀ handler ∈ sys.handlers, handler.admission.isSome = true → handler.inspection = none
  balanced : ∀ worker, sys.worker = some worker → worker.Balanced (Roster.total (fun handler : Handler => handler.stage.holds.toNat) sys.handlers)

section Scenes

variable {sys : System} {i : Nat} {scene next : Scene}

theorem scene_iff : sys.scene i = some scene ↔ sys.handlers[i]? = some scene.handler ∧ sys.exchanges[i]? = some scene.exchange ∧
    scene.lifecycle = sys.lifecycle ∧ scene.worker = sys.worker := by
  unfold System.scene
  constructor
  · intro hit
    split at hit <;> cases hit
    rename_i handler exch dealt exchanged
    exact ⟨dealt, exchanged, rfl, rfl⟩
  · rintro ⟨dealt, exchanged, life, worker⟩
    rw [dealt, exchanged, ← life, ← worker]

theorem restored_scene (next : Scene) (hit : sys.scene i = some scene) : (sys.restore i next).scene i = some next := by
  obtain ⟨dealt, exchanged, _, _⟩ := scene_iff.mp hit
  refine scene_iff.mpr ⟨?_, ?_, rfl, rfl⟩
  · exact List.getElem?_set_self (List.getElem?_eq_some_iff.mp dealt).1
  · exact List.getElem?_set_self (List.getElem?_eq_some_iff.mp exchanged).1

theorem bystander_scene {alt : Nat} {after : Scene} (apart : i ≠ alt) (hit : (sys.restore i next).scene alt = some after) :
    ∃ pre, sys.scene alt = some pre ∧ after.handler = pre.handler ∧ after.exchange = pre.exchange ∧
      after.lifecycle = next.lifecycle ∧ after.worker = next.worker := by
  obtain ⟨dealt, exchanged, life, worker⟩ := scene_iff.mp hit
  simp only [System.restore, List.getElem?_set_ne apart] at dealt exchanged
  exact ⟨⟨sys.lifecycle, sys.worker, after.handler, after.exchange⟩, scene_iff.mpr ⟨dealt, exchanged, rfl, rfl⟩, rfl, rfl, life, worker⟩

theorem standing_pending {caller : Nat} (stand : Standing i scene) (mine : scene.handler.stage.caller = some caller) :
    ∃ adm, scene.handler.admission = some adm ∧ scene.lifecycle.callers[caller]? = some ⟨adm, none⟩ := by
  have lease := stand.lease
  unfold LeaseStanding at lease
  cases stage : scene.handler.stage with
  | waiting alt =>
    rw [stage] at lease mine
    obtain rfl : alt = caller := Option.some.inj mine
    obtain ⟨adm, _, owned, _, due, _⟩ := lease
    exact ⟨adm, owned, due⟩
  | _ =>
    rw [stage] at mine
    cases mine

end Scenes

section Steps

variable {cfg : Config} {sys next : System} {call : Call} {made : Made}

variable {context : Option (Trace.Text × ClockReading × Bool)} {scene after : Scene} {exch : Exchange} {i : Nat}
variable {outs : List Made} {req : Request} {cs : List Call}

theorem worked_accepted (worked : Worked scene after) (part : UsageObservationJob → Option Nat) (name : Nat)
    (fine : Accepted scene.worker part name) : Accepted after.worker part name := by
  cases worked with
  | idle same => rwa [same]
  | submitting _ _ _ later _ _ has got _ sent =>
    obtain ⟨_, held, here, mem, named⟩ := fine
    rw [has] at here
    cases here
    exact ⟨later, held, got, Observation.submit_kept sent held mem, named⟩

theorem worked_balanced {handlers : List Handler} (worked : Worked scene after) (has : handlers[i]? = some scene.handler)
    (even : ∀ worker, scene.worker = some worker → worker.Balanced (total (fun handler : Handler => handler.stage.holds.toNat) handlers)) :
    ∀ worker, after.worker = some worker →
      worker.Balanced (total (fun handler : Handler => handler.stage.holds.toNat) (handlers.set i after.handler)) := by
  intro worker running
  have did := total_set (fun handler : Handler => handler.stage.holds.toNat) handlers i scene.handler after.handler has
  cases worked with
  | idle same held =>
    rw [same] at running
    have kept := held (by simp [running])
    simp only [kept] at did
    rw [Nat.add_right_cancel did]
    exact even worker running
  | submitting _ sub pre later out stage there got passed sent =>
    obtain rfl : later = worker := Option.some.inj (got.symm.trans running)
    have own := weight_le_total (fun handler : Handler => handler.stage.holds.toNat) handlers i scene.handler has (by simp)
    have holding : after.handler.stage.holds = out.holds := by
      rw [passed]
      cases out <;> rfl
    have claimed : scene.handler.stage.holds = sub.holds := by rw [stage]; rfl
    simp only [holding, claimed] at did own
    have past := even pre there
    rw [← Nat.sub_add_cancel own] at past
    have paid := Observation.submit_balanced sent past
    have total : total (fun handler : Handler => handler.stage.holds.toNat) (handlers.set i after.handler) =
        total (fun handler : Handler => handler.stage.holds.toNat) handlers - sub.holds.toNat + out.holds.toNat := by omega
    rwa [total]

variable (ok : Sound sys)
include ok

theorem bystander_later {i alt : Nat} {scene after bystander : Scene} (apart : i ≠ alt) (hit : sys.scene i = some scene)
    (there : sys.scene alt = some bystander) (touched : Touched scene after made) :
    Later bystander.handler.admission bystander.handler.stage.caller sys.lifecycle after.lifecycle := by
  obtain ⟨dealt, _, life, _⟩ := scene_iff.mp hit
  obtain ⟨otherHandled, _, otherLifecycle, _⟩ := scene_iff.mp there
  have diff : ∀ adm, scene.handler.admission = some adm → bystander.handler.admission = some adm → False :=
    fun adm mine yours => apart (ok.apart i alt adm (by rw [dealt]; exact mine) (by rw [otherHandled]; exact yours))
  cases touched with
  | alone same =>
    rw [same, life]
    exact Lifecycle.later_refl _ _ _
  | asked _ _ own ran =>
    rw [life] at ran
    refine Lifecycle.later_step ok.regular ran ?_ ?_
    · rintro adm out yours rfl
      cases own with
      | terminate _ _ mine => exact diff adm mine yours
    rintro caller yours rfl
    cases own with
    | answer _ mine =>
      obtain ⟨adm, owned, due⟩ := standing_pending (ok.standing i scene hit) mine
      obtain ⟨elsewhere, otherOwned, otherPending⟩ := standing_pending (ok.standing alt bystander there) yours
      rw [life] at due
      rw [otherLifecycle, due] at otherPending
      obtain rfl : adm = elsewhere := congrArg Lifecycle.Caller.admission (Option.some.inj otherPending)
      exact diff adm owned otherOwned

theorem handled_sound {event : Event} (hit : sys.scene i = some scene)
    (move : Move cfg i scene event after made) : Sound (sys.restore i after) := by
  obtain ⟨dealt, exchanged, life, worker⟩ := scene_iff.mp hit
  have reg : Lifecycle.Regular scene.lifecycle := life ▸ ok.regular
  have held : ∀ own, Lifecycle.Ticketed own scene.lifecycle := life ▸ ok.ticketed
  have stand := ok.standing i scene hit
  have mem := List.mem_of_getElem? dealt
  obtain ⟨touched, worked, took⟩ := move_footprint move
  have passed : Lifecycle.Regular after.lifecycle ∧ (∀ own, Lifecycle.Ticketed own after.lifecycle) ∧
      scene.lifecycle.resources.admissions.length ≤ after.lifecycle.resources.admissions.length := by
    cases touched with
    | alone same =>
      rw [same]
      exact ⟨reg, held, Nat.le_refl _⟩
    | asked _ _ _ ran => exact ⟨Lifecycle.regular_step reg ran, fun own => Lifecycle.ticketed_step reg (held own) ran, Lifecycle.admissions_grow ran⟩
  have grown : sys.lifecycle.resources.admissions.length ≤ after.lifecycle.resources.admissions.length := life ▸ passed.2.2
  have others : ∀ alt handler, i ≠ alt → sys.handlers[alt]? = some handler →
      ∃ bystander, sys.scene alt = some bystander ∧ bystander.handler = handler := by
    intro alt handler _ there
    have inside := (List.getElem?_eq_some_iff.mp there).1
    rw [ok.paired] at inside
    exact ⟨⟨sys.lifecycle, sys.worker, handler, sys.exchanges[alt]⟩, scene_iff.mpr ⟨there, List.getElem?_eq_getElem inside, rfl, rfl⟩, rfl⟩
  -- A fresh admission is nobody's yet.
  have owned : ∀ adm, after.handler.admission = some adm → scene.handler.admission = some adm ∨
        sys.lifecycle.resources.admissions.length = adm ∧ adm < after.lifecycle.resources.admissions.length := by
    intro adm mine
    cases took with
    | kept _ same => exact .inl (same ▸ mine)
    | dropped _ gone => simp [gone] at mine
    | begun asked new _ given =>
      obtain rfl : new = adm := Option.some.inj (given.symm.trans mine)
      cases touched with
      | asked _ _ _ ran =>
        obtain ⟨first, length, _⟩ := Lifecycle.started_fresh reg ran
        rw [life] at first
        exact .inr ⟨first.symm, by omega⟩
  refine ⟨passed.1, passed.2.1, ?_, ?_, ?_, ?_, ?_, ?_, ?_⟩
  · intro alt got there
    by_cases here : i = alt
    · subst here
      rw [restored_scene after hit] at there
      cases there
      exact standing_move reg held move stand
    · obtain ⟨pre, past, sameHandler, sameExchange, sameLifecycle, sameWorker⟩ := bystander_scene here there
      obtain ⟨_, _, beforeLifecycle, beforeWorker⟩ := scene_iff.mp past
      refine standing_around ⟨sameHandler, ?_, ?_, ?_⟩ (ok.standing alt pre past)
      · rw [sameLifecycle, beforeLifecycle]
        exact bystander_later ok here hit past touched
      · rw [sameWorker, beforeWorker, ← worker]
        exact worked_accepted worked
      · rw [sameExchange]
        exact nourished_refl _
  · intro handler shown
    obtain ⟨alt, there⟩ := List.mem_iff_getElem?.mp shown
    by_cases here : i = alt
    · subst here
      rw [(scene_iff.mp (restored_scene after hit)).1] at there
      cases there
      exact move_held reg held move (by rw [life]; exact ok.held _ mem)
    · simp only [System.restore, List.getElem?_set_ne here] at there
      obtain ⟨_, past, rfl⟩ := others alt handler here there
      exact held_later (bystander_later ok here hit past touched) (ok.held _ (List.mem_of_getElem? there))
  · simp [System.restore, ok.paired]
  · intro handler shown adm mine
    rcases List.mem_or_eq_of_mem_set shown with old | rfl
    · exact Nat.lt_of_lt_of_le (ok.inside handler old adm mine) grown
    · rcases owned adm mine with pre | ⟨_, inside⟩
      · exact Nat.lt_of_lt_of_le (ok.inside _ mem adm pre) grown
      · exact inside
  · have mixed : ∀ (alt : Nat) (adm), i ≠ alt → sys.handlers[alt]?.bind Handler.admission = some adm →
      after.handler.admission = some adm → False := by
      intro alt adm apart yours mine
      rcases owned adm mine with pre | ⟨new, _⟩
      · exact apart (ok.apart i alt adm (by rw [dealt]; exact pre) yours)
      · obtain ⟨handler, there, yours⟩ := Option.bind_eq_some_iff.mp yours
        exact absurd (ok.inside handler (List.mem_of_getElem? there) adm yours) (by omega)
    intro one two adm mine yours
    simp only [System.restore, lookup_set dealt] at mine yours
    split at mine <;> split at yours
    · omega
    · exact (mixed two adm ‹_› yours mine).elim
    · exact (mixed one adm ‹_› mine yours).elim
    · exact ok.apart one two adm mine yours
  · intro handler shown leased
    rcases List.mem_or_eq_of_mem_set shown with old | rfl
    · exact ok.free handler old leased
    cases took with
    | kept _ same free =>
      rw [same] at leased
      refine free ?_ (ok.free _ mem leased)
      intro stage
      have unleased := stand.lease
      unfold LeaseStanding at unleased
      rw [stage] at unleased
      simp [unleased.1] at leased
    | dropped _ gone => simp [gone] at leased
    | begun _ _ _ _ free => exact free
  · exact worked_balanced worked dealt (by rw [worker]; exact ok.balanced)

theorem undisturbed_standing (handlers : next.handlers = sys.handlers) (later : ∀ adm caller, Later adm caller sys.lifecycle next.lifecycle)
    (worker : ∀ part name, Accepted sys.worker part name → Accepted next.worker part name)
    (exchanges : ∀ (i : Nat) (exch : Exchange), next.exchanges[i]? = some exch →
      ∃ pre : Exchange, sys.exchanges[i]? = some pre ∧ Nourished pre.completion exch.completion) :
    ∀ i scene, next.scene i = some scene → Standing i scene := by
  intro i scene hit
  obtain ⟨dealt, exchanged, sameLifecycle, sameWorker⟩ := scene_iff.mp hit
  obtain ⟨exch, has, nourished⟩ := exchanges i _ exchanged
  have past := ok.standing i ⟨sys.lifecycle, sys.worker, scene.handler, exch⟩ (scene_iff.mpr ⟨handlers ▸ dealt, has, rfl, rfl⟩)
  refine standing_around ?_ past
  exact ⟨rfl, by rw [sameLifecycle]; exact later _ _, by rw [sameWorker]; exact worker, nourished⟩

theorem asked_sound {asked : Lifecycle.Call} {life : Lifecycle.System} {rep : Lifecycle.Reply}
    (ran : Lifecycle.step sys.lifecycle asked = some (life, rep)) (unterminating : ∀ adm out, asked ≠ .terminate adm out)
    (unanswering : ∀ caller, asked ≠ .answer caller) : Sound { sys with lifecycle := life } := by
  have later : ∀ adm caller, Later adm caller sys.lifecycle life := fun adm caller =>
    Lifecycle.later_step ok.regular ran (fun i out _ => unterminating i out) (fun i _ => unanswering i)
  exact ⟨Lifecycle.regular_step ok.regular ran, fun own => Lifecycle.ticketed_step ok.regular (ok.ticketed own) ran,
    undisturbed_standing ok rfl later (fun _ _ => id) (fun _ exch has => ⟨exch, has, nourished_refl _⟩),
    fun handler shown => held_later (later none none) (ok.held handler shown), ok.paired,
    fun handler shown adm mine => Nat.lt_of_lt_of_le (ok.inside handler shown adm mine) (later none none).length, ok.apart,
    ok.free, ok.balanced⟩

theorem acted_sound {action : Observation.Act} {worker after : UsageObservationWorker} (has : sys.worker = some worker)
    (acted : Observation.act worker action = some after) : Sound { sys with worker := some after } := by
  refine ⟨ok.regular, ok.ticketed, ?_, ok.held, ok.paired, ok.inside, ok.apart, ok.free, ?_⟩
  · refine undisturbed_standing ok rfl (fun _ _ => Lifecycle.later_refl _ _ _) ?_ (fun _ exch has => ⟨exch, has, nourished_refl _⟩)
    rintro part name ⟨pre, job, there, mem, named⟩
    rw [has] at there
    cases there
    exact ⟨after, job, rfl, by rwa [Observation.act_submitted acted], named⟩
  · rintro _ ⟨⟩
    exact Observation.act_balanced acted (ok.balanced worker has)

theorem nourished_sound {exch new : Exchange} (has : sys.exchanges[i]? = some exch)
    (nourished : Nourished exch.completion new.completion) : Sound { sys with exchanges := sys.exchanges.set i new } := by
  refine ⟨ok.regular, ok.ticketed, ?_, ok.held, by simp [ok.paired], ok.inside, ok.apart, ok.free, ok.balanced⟩
  refine undisturbed_standing ok rfl (fun _ _ => Lifecycle.later_refl _ _ _) (fun _ _ => id) ?_
  intro alt entry exchanged
  by_cases here : i = alt
  · subst here
    simp only [List.getElem?_set_self (List.getElem?_eq_some_iff.mp has).1] at exchanged
    exact ⟨exch, has, Option.some.inj exchanged ▸ nourished⟩
  · simp only [List.getElem?_set_ne here] at exchanged
    exact ⟨entry, exchanged, nourished_refl _⟩

omit ok in
theorem opened_untransferred (begun : newExchange cfg req context = some exch) : Carried exch.completion False := by
  intro own hit transferred
  unfold newExchange at begun
  split at begun
  · cases begun
    cases hit
  · obtain ⟨_, _, rfl⟩ := Option.map_eq_some_iff.mp begun
    simp only at hit
    split at hit <;> cases hit
    cases transferred

theorem arrived_sound (begun : newExchange cfg req context = some exch) :
    Sound { sys with handlers := sys.handlers ++ [newHandler req], exchanges := sys.exchanges ++ [exch] } := by
  have unleased : ∀ adm, (newHandler req).admission ≠ some adm := fun _ mine => by cases mine
  refine ⟨ok.regular, ok.ticketed, ?_, forall_append _ _ ok.held held_none, by simp [ok.paired],
    forall_append _ _ ok.inside (fun adm mine => absurd mine (unleased adm)), ?_,
    forall_append _ _ ok.free (fun _ => rfl), ?_⟩
  · intro i scene hit
    obtain ⟨dealt, exchanged, life, worker⟩ := scene_iff.mp hit
    rcases entry_append dealt with old | ⟨last, new⟩
    · rcases entry_append exchanged with oldExchange | ⟨end_, _⟩
      · exact ok.standing i scene (scene_iff.mpr ⟨old, oldExchange, life, worker⟩)
      · have inside := (List.getElem?_eq_some_iff.mp old).1
        rw [ok.paired] at inside
        omega
    · rcases entry_append exchanged with oldExchange | ⟨_, fresh⟩
      · have inside := (List.getElem?_eq_some_iff.mp oldExchange).1
        rw [← ok.paired] at inside
        omega
      refine ⟨?_, ?_⟩
      · unfold LeaseStanding
        rw [new]
        refine ⟨rfl, ?_⟩
        rintro ⟨obs, pair, ⟨⟩, _⟩
      · unfold carrier
        rw [new, fresh]
        exact opened_untransferred begun
  · have old : ∀ (alt : Nat) (adm), (sys.handlers ++ [newHandler req])[alt]?.bind Handler.admission = some adm →
        sys.handlers[alt]?.bind Handler.admission = some adm := by
      intro alt adm hit
      rw [lookup_append] at hit
      split at hit
      · exact absurd hit (unleased adm)
      · exact hit
    exact fun one two adm mine yours => ok.apart one two adm (old one adm mine) (old two adm yours)
  · intro worker has
    rw [total_append]
    exact ok.balanced worker has

theorem sound_step (ran : step cfg sys call = some (next, made)) : Sound next := by
  cases step_outcome ran with
  | arrived _ _ _ begun => exact arrived_sound ok begun
  | handled _ _ _ _ _ hit move => exact handled_sound ok hit move
  | used _ _ _ did | settled _ _ _ _ did => exact asked_sound ok did (by simp) (by simp)
  | worked _ _ _ has acted => exact acted_sound ok has acted
  | finished _ usage cost lastSeen clock _ _ has =>
    exact nourished_sound ok has (finish_nourishes usage cost lastSeen clock)
  | completed _ clock _ has => exact nourished_sound ok has (complete_nourishes clock)

omit ok

theorem new_sound (slots : Option Nat) (tokens budgets : Bool) (worker : Option (Int × Int)) : Sound (newSystem slots tokens budgets worker) := by
  refine ⟨Lifecycle.regular_fresh slots tokens budgets, ?_, ?_, by simp [newSystem], rfl, by simp [newSystem], by simp [newSystem],
    by simp [newSystem], ?_⟩
  · intro own
    have new : (newSystem slots tokens budgets worker).lifecycle.lease own = .open := by
      simp [newSystem, Lifecycle.freshSystem, Lifecycle.newSystem, Lifecycle.System.lease]
    refine ⟨?_, ?_, ?_⟩ <;> simp [new, Lifecycle.LeaseState.outcome, Lifecycle.LeaseState.tickets, Lifecycle.noTickets]
  · intro i scene hit
    have dealt := (scene_iff.mp hit).1
    simp [newSystem] at dealt
  · intro running has
    obtain ⟨opts, _, rfl⟩ := Option.map_eq_some_iff.mp has
    exact Observation.new_balanced opts.1 opts.2

theorem sound_run {slots : Option Nat} {tokens budgets : Bool} {worker : Option (Int × Int)}
    (run : Transition.execute (step cfg) (newSystem slots tokens budgets worker) cs = some (sys, outs)) : Sound sys :=
  Transition.run_invariant Sound (fun _ _ _ _ sound _ transition => sound_step sound transition) (new_sound slots tokens budgets worker)
    Transition.along_always run

theorem lifecycle_run {start : System} (run : Transition.execute (step cfg) start cs = some (sys, outs)) :
    Transition.execute Lifecycle.step start.lifecycle (outs.filterMap (fun made => made.map Prod.fst)) =
      some (sys.lifecycle, outs.filterMap (fun made => made.map Prod.snd)) := by
  refine Transition.run_refines System.lifecycle id ?_ ?_ run
  · rintro pre call after made ran rfl
    generalize quiet : (none : Made) = made at ran
    cases step_outcome ran with
    | handled _ _ _ _ _ hit move =>
      cases (move_footprint move).touched with
      | alone same => exact same.trans (scene_iff.mp hit).2.2.1
      | asked => cases quiet
    | used | settled => cases quiet
    | _ => rfl
  · rintro pre call after made below ans ran rfl
    generalize seen : some (below, ans) = made at ran
    cases step_outcome ran with
    | handled _ _ _ _ _ hit move =>
      cases (move_footprint move).touched with
      | alone => cases seen
      | asked _ _ _ did =>
        cases seen
        rw [← (scene_iff.mp hit).2.2.1]
        exact did
    | used _ _ _ did | settled _ _ _ _ did =>
      cases seen
      exact did
    | _ => cases seen

end Steps

end NineGateway.Proxy
