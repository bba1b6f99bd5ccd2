import NineGateway.Proxy.System

set_option autoImplicit false

namespace NineGateway.Proxy

open Trace (ClockReading)
open Completion (CompletionOwnership)
open Lifecycle (Granted Later LeaseAdjustmentTickets Consumed tokenMarks budgetMarks)
open Observation (UsageObservationWorker UsageObservationJob)
open Scene Lifecycle.LeaseOutcome

section Leases

variable (lifecycle : Lifecycle.System) (admission : Option Nat)

def Opened : Prop := ∀ i, admission = some i → Granted lifecycle i ∧ lifecycle.lease i = .open

def Closed : Prop :=
  ∀ i, admission = some i → Granted lifecycle i ∧ ∃ out res, lifecycle.lease i = .finalized out res ∧ out.defers = false

def Quiet : Prop := Opened lifecycle admission ∨ Closed lifecycle admission

def Disposed (token budget : Nat → Prop) : Prop :=
  ∀ i, admission = some i → Granted lifecycle i ∧ ∃ out res, lifecycle.lease i = .finalized out res ∧
    (∀ ticket, res.tickets.token = some ticket → token ticket) ∧ ∀ ticket, res.tickets.budget = some ticket → budget ticket

end Leases

-- A transferred completion is with its carrier or has been enriched.
def Carried (completion : Option CompletionOwnership) (carrier : Prop) : Prop :=
  ∀ ownership, completion = some ownership → ownership.transferred = true → carrier ∨ ownership.enriched = true

def TokenSettled (scene : Scene) (ticket : Nat) : Prop :=
  Accepted scene.worker UsageObservationJob.ticket ticket ∨ Consumed (tokenMarks scene.lifecycle.resources.tokens) ticket

def BudgetSettled (scene : Scene) (ticket : Nat) : Prop :=
  Accepted scene.worker UsageObservationJob.budgetTicket ticket ∨ Consumed (budgetMarks scene.lifecycle.resources.budgets) ticket

def Handler.known (handler : Handler) : Prop := ∃ obs pair, handler.observation = some obs ∧ obs.canonical = some pair

def LeaseStanding (scene : Scene) : Prop :=
  let admission := scene.handler.admission
  match scene.handler.stage with
  | .inspecting | .planning => admission = none ∧ ¬ scene.handler.known
  | .acquiring => ¬ scene.handler.known ∧
      ∃ i, admission = some i ∧ i < scene.lifecycle.resources.admissions.length ∧ scene.lifecycle.lease i = .open
  | .building | .awaiting | .dispatching | .forwarding | .converting => Opened scene.lifecycle admission ∧ ¬ scene.handler.known
  | .draining | .delivering => Closed scene.lifecycle admission
  | .dispatched _ | .unwinding => Quiet scene.lifecycle admission ∧ (scene.handler.known → Closed scene.lifecycle admission)
  | .calling out back => admission.isSome = true ∧ Quiet scene.lifecycle admission ∧ (out.defers = true → back = .handing)
  | .waiting caller back => ∃ i out, admission = some i ∧ Granted scene.lifecycle i ∧
      scene.lifecycle.callers[caller]? = some ⟨i, none⟩ ∧ (scene.lifecycle.lease i).outcome = some out ∧ (out.defers = true → back = .handing)
  | .handing tickets => Disposed scene.lifecycle admission (fun ticket => tickets.token = some ticket) (fun ticket => tickets.budget = some ticket)
  | .submitting job _ => Disposed scene.lifecycle admission (fun ticket => job.ticket = some ticket) (fun ticket => job.budgetTicket = some ticket)
  | .invalidating job => Disposed scene.lifecycle admission (fun ticket => job.ticket = some ticket ∨ TokenSettled scene ticket)
      (fun ticket => job.budgetTicket = some ticket ∨ BudgetSettled scene ticket)
  | .enriching | .concluding | .completing | .closing | .returned => Disposed scene.lifecycle admission (TokenSettled scene) (BudgetSettled scene)

def carrier (i : Nat) (scene : Scene) : Prop :=
  match scene.handler.stage with
  | .submitting job _ | .invalidating job => job.completion = some i
  | .enriching | .concluding | .completing | .closing | .returned => Accepted scene.worker UsageObservationJob.completion i
  | _ => False

structure Standing (i : Nat) (scene : Scene) : Prop where
  lease : LeaseStanding scene
  completion : Carried scene.exchange.completion (carrier i scene)

def Nourished (pre after : Option CompletionOwnership) : Prop :=
  ∀ later, after = some later → ∃ past, pre = some past ∧ later.transferred = past.transferred ∧
    (past.enriched = true → later.enriched = true)

section Completions

variable {pre after : Option CompletionOwnership} {exch : Exchange}

theorem nourished_refl (comp : Option CompletionOwnership) : Nourished comp comp := fun later same => ⟨later, same, rfl, id⟩

theorem carried_later {past later : Prop} (nourished : Nourished pre after) (had : Carried pre past) (grown : past → later) :
    Carried after later := by
  intro own hit transferred
  obtain ⟨old, there, same, enriched⟩ := nourished own hit
  rcases had old there (by rw [← same, transferred]) with with_ | done
  · exact .inl (grown with_)
  · exact .inr (enriched done)

theorem emit_completion (own : CompletionOwnership) (emission : Completion.Emission) (clock : ClockReading) :
    (exch.emit own emission clock).completion = exch.completion := by
  unfold Exchange.emit
  split <;> rfl

theorem resolve_completion (out : CompletionOwnership × Option Completion.Emission) (clock : ClockReading) :
    (exch.resolve out clock).completion = some out.1 := by
  unfold Exchange.resolve
  split
  · rfl
  · exact emit_completion _ _ _

theorem finish_nourishes (usage : Usage) (cost : Money) (lastSeen : Option Int) (clock : ClockReading) :
    Nourished exch.completion (exch.finishWithTiming usage cost lastSeen clock).completion := by
  unfold Exchange.finishWithTiming
  split
  · exact nourished_refl _
  · rename_i own has
    rw [resolve_completion]
    rintro later ⟨⟩
    exact ⟨own, has, own.finish_transferred usage cost lastSeen, own.finish_keeps usage cost lastSeen⟩

theorem complete_nourishes (clock : ClockReading) : Nourished exch.completion (exch.complete clock).completion := by
  unfold Exchange.complete
  split
  · exact nourished_refl _
  · rename_i own has
    rw [resolve_completion]
    rintro later ⟨⟩
    exact ⟨own, has, own.complete_transferred, fun enriched => by rw [own.complete_enriched, enriched]⟩

theorem finish_carries (usage : Usage) (cost : Money) (clock : ClockReading) (carrier : Prop) :
    Carried (exch.finish usage cost clock).completion carrier := by
  unfold Exchange.finish Exchange.finishWithTiming
  split
  · rename_i gone
    intro own hit
    rw [gone] at hit
    cases hit
  · rename_i own has
    rw [resolve_completion]
    rintro later ⟨⟩ transferred
    exact .inr (own.finish_enriched usage cost none transferred)

end Completions

section Bystanders

variable {pre after : Lifecycle.System} {adm caller : Option Nat}

theorem opened_later (later : Later adm caller pre after) (begun : Opened pre adm) : Opened after adm := by
  intro i mine
  obtain ⟨granted, new⟩ := begun i mine
  exact ⟨later.granted i granted, later.fresh i mine new⟩

theorem closed_later (later : Later adm caller pre after) (closed : Closed pre adm) : Closed after adm := by
  intro i mine
  obtain ⟨granted, out, res, final, kind⟩ := closed i mine
  exact ⟨later.granted i granted, out, res, later.closed i out res final, kind⟩

theorem quiet_later (later : Later adm caller pre after) (quiet : Quiet pre adm) : Quiet after adm := by
  rcases quiet with begun | closed
  · exact .inl (opened_later later begun)
  · exact .inr (closed_later later closed)

theorem disposed_later {token budget token' budget' : Nat → Prop} (later : Later adm caller pre after)
    (tokens : ∀ ticket, token ticket → token' ticket) (budgets : ∀ ticket, budget ticket → budget' ticket)
    (disposed : Disposed pre adm token budget) : Disposed after adm token' budget' := by
  intro i mine
  obtain ⟨granted, out, res, final, first, second⟩ := disposed i mine
  exact ⟨later.granted i granted, out, res, later.closed i out res final, fun ticket given => tokens ticket (first ticket given),
    fun ticket given => budgets ticket (second ticket given)⟩

structure Around (scene next : Scene) : Prop where
  handler : next.handler = scene.handler
  lifecycle : Later scene.handler.admission scene.handler.stage.caller scene.lifecycle next.lifecycle
  worker : ∀ part name, Accepted scene.worker part name → Accepted next.worker part name
  completion : Nourished scene.exchange.completion next.exchange.completion

variable {scene next : Scene} {i : Nat}

theorem settled_later {marks marks' : List (Option Bool)} {worker after : Option UsageObservationWorker}
    (kept : Lifecycle.MarksKept marks marks') (grown : ∀ part name, Accepted worker part name → Accepted after part name)
    (part : UsageObservationJob → Option Nat) (ticket : Nat) (paid : Accepted worker part ticket ∨ Consumed marks ticket) :
    Accepted after part ticket ∨ Consumed marks' ticket := by
  rcases paid with fine | consumed
  · exact .inl (grown part ticket fine)
  · exact .inr (Lifecycle.consumed_kept kept consumed)

theorem lease_standing_around (around : Around scene next) (stand : LeaseStanding scene) : LeaseStanding next := by
  have later := around.lifecycle
  have tokens := settled_later later.tokens around.worker UsageObservationJob.ticket
  have budgets := settled_later later.budget around.worker UsageObservationJob.budgetTicket
  revert stand
  unfold LeaseStanding
  rw [around.handler]
  cases stage : scene.handler.stage with
  | inspecting | planning => exact id
  | acquiring =>
    rintro ⟨unknown, i, mine, inside, new⟩
    exact ⟨unknown, i, mine, Nat.lt_of_lt_of_le inside later.length, later.fresh i mine new⟩
  | building | awaiting | dispatching | forwarding | converting => exact And.imp (opened_later later) id
  | draining | delivering => exact closed_later later
  | dispatched _ | unwinding =>
    rintro ⟨quiet, known⟩
    exact ⟨quiet_later later quiet, fun hit => closed_later later (known hit)⟩
  | calling => exact And.imp id (And.imp (quiet_later later) id)
  | waiting caller =>
    rintro ⟨i, out, mine, granted, due, decided, kind⟩
    have taken : scene.lifecycle.lease i ≠ .open := by
      intro new
      simp [new, Lifecycle.LeaseState.outcome] at decided
    refine ⟨i, out, mine, later.granted i granted, later.pending caller _ (by rw [stage]; rfl) due, ?_, kind⟩
    rw [(later.entered i taken).2, decided]
  | handing | submitting => exact disposed_later later (fun _ => id) (fun _ => id)
  | invalidating => exact disposed_later later (fun ticket => Or.imp id (tokens ticket)) (fun ticket => Or.imp id (budgets ticket))
  | enriching | concluding | completing | closing | returned => exact disposed_later later tokens budgets

theorem standing_around (around : Around scene next) (stand : Standing i scene) : Standing i next := by
  refine ⟨lease_standing_around around stand.lease, carried_later around.completion stand.completion ?_⟩
  unfold carrier
  rw [around.handler]
  cases scene.handler.stage with
  | enriching | concluding | completing | closing | returned => exact around.worker _ _
  | _ => exact id

end Bystanders

section Own

variable {cfg : Config} {i : Nat} {scene next : Scene} {event : Event} {made : Made} {life : Lifecycle.System}

variable {adm : Option Nat} {job : UsageObservationJob} {out : Lifecycle.LeaseOutcome} {back : Return} {rep : Lifecycle.Reply}
variable {ticket : Nat}

theorem absent_any {claim : Nat → Prop} (gone : adm = none) : ∀ i, adm = some i → claim i := by
  subst gone
  nofun

theorem standing_at {stage : Stage} (here : scene.handler.stage = stage) (stand : Standing i (scene.enter stage)) : Standing i scene := by
  subst here
  exact stand

theorem closed_disposed (held : ∀ own, Lifecycle.Ticketed own life) (closed : Closed life adm)
    (token budget : Nat → Prop) : Disposed life adm token budget := by
  intro i mine
  obtain ⟨granted, out, res, final, undeferred⟩ := closed i mine
  have none_ := (held i).deferred out (by rw [final]; rfl) undeferred
  rw [final] at none_
  have unissued : res.tickets = Lifecycle.noTickets := none_
  exact ⟨granted, out, res, final, by simp [unissued, Lifecycle.noTickets], by simp [unissued, Lifecycle.noTickets]⟩

structure Told (scene next : Scene) : Prop where
  lifecycle : next.lifecycle = scene.lifecycle
  worker : next.worker = scene.worker
  handler : next.handler = scene.handler
  completion : next.exchange.completion = scene.exchange.completion

theorem judge_told (scene : Scene) (err : Option DispatchError) (requestDone deadline : Bool) :
    Told scene (scene.judge err requestDone deadline) := by
  unfold judge
  repeat' split
  all_goals exact ⟨rfl, rfl, rfl, rfl⟩

theorem classified_told (cfg : Config) (scene : Scene) (resp : UpstreamResponse) (clock : ClockReading) :
    Told { scene with handler := { scene.handler with response := some resp } } (scene.classified cfg resp clock) := by
  unfold classified
  simp only
  split <;> exact ⟨rfl, rfl, rfl, rfl⟩

theorem observe_unknown (handler : Handler) (comp : Option CompletionOwnership) (resp : UpstreamResponse) :
    ∀ obs, observe cfg handler comp resp = some obs → obs.canonical = none := by
  intro obs hit
  unfold observe at hit
  simp only at hit
  split at hit
  · obtain ⟨_, _, rfl⟩ := Option.map_eq_some_iff.mp hit
    rfl
  · cases hit

theorem observed_known (scene : Scene) {change : ResponseObservation → ResponseObservation} (kept : ∀ obs, (change obs).canonical = obs.canonical) :
    (scene.observed change).handler.known ↔ scene.handler.known := by
  unfold Handler.known observed
  cases scene.handler.observation with
  | none => simp
  | some => simp [kept]

theorem record_canonical (obs : ResponseObservation) (written : List UInt8) : (obs.record written).canonical = obs.canonical := by
  unfold ResponseObservation.record
  split <;> rfl

theorem transfer_taken (did : scene.transfer = some next) : Told { scene with exchange := next.exchange } next := by
  unfold transfer at did
  split at did
  · cases did
  · obtain ⟨_, _, rfl⟩ := Option.map_eq_some_iff.mp did
    exact ⟨rfl, rfl, rfl, rfl⟩

theorem carried_weaken {comp : Option CompletionOwnership} {past later : Prop} (had : Carried comp past) (grown : past → later) :
    Carried comp later := carried_later (nourished_refl comp) had grown

theorem entered_either {condition : Prop} [Decidable condition] {first second : Stage} (one : Standing i (next.enter first))
    (two : Standing i (next.enter second)) : Standing i (next.enter (if condition then first else second)) := by
  split
  · exact one
  · exact two

theorem settle_lease_standing {without : Stage} (quiet : Quiet scene.lifecycle scene.handler.admission)
    (had : Carried scene.exchange.completion False) (kind : out.defers = true → back = .handing)
    (gone : scene.handler.admission = none → Standing i (scene.enter without)) : Standing i (scene.settleLease out back without) := by
  unfold settleLease
  cases mine : scene.handler.admission with
  | none => exact gone mine
  | some => exact ⟨⟨by simp [enter, mine], quiet, kind⟩, had⟩

theorem none_concluding {stage : Stage} (gone : scene.handler.admission = none) (had : Carried scene.exchange.completion False)
    (ending : stage = .concluding ∨ stage = .enriching) : Standing i (scene.enter stage) := by
  rcases ending with rfl | rfl <;> exact ⟨absent_any gone, carried_weaken had False.elim⟩

theorem settle_standing (clock : ClockReading) (held : ∀ own, Lifecycle.Ticketed own scene.lifecycle)
    (stand : Standing i (scene.enter .unwinding)) : Standing i (scene.settle i clock) := by
  obtain ⟨⟨quiet, known⟩, had⟩ := stand
  unfold settle
  split
  · exact settle_lease_standing quiet had (by simp [defers]) (fun gone => none_concluding gone had (.inl rfl))
  · exact settle_lease_standing quiet had (by simp [defers]) (fun gone => none_concluding gone had (.inl rfl))
  rename_i obs _ has
  unfold settleObserved
  split
  · split
    · rename_i comp usage cost owned canonical
      have closed := known ⟨obs, _, has, canonical⟩
      refine ⟨?_, finish_carries usage cost clock _⟩
      exact closed_disposed held closed _ _
    · split
      · rename_i adm mine
        exact entered_either ⟨⟨by simp [enter, mine], quiet, fun _ => rfl⟩, had⟩
          ⟨⟨by simp [enter, mine], quiet, by simp [defers]⟩, had⟩
      rename_i gone
      split
      · exact none_concluding gone had (.inl rfl)
      split
      · exact none_concluding gone had (.inr rfl)
      split
      · exact none_concluding gone had (.inr rfl)
      rename_i did taken
      have told := transfer_taken taken
      refine ⟨absent_any ?_, fun _ _ _ => .inl rfl⟩
      show did.handler.admission = none
      rw [told.handler, gone]
  · exact settle_lease_standing quiet had (by simp [defers]) (fun gone => none_concluding gone had (.inr rfl))

theorem hand_standing {tickets : LeaseAdjustmentTickets} (stand : Standing i (scene.enter (.handing tickets))) :
    Standing i (scene.hand i tickets) := by
  obtain ⟨disposed, had⟩ := stand
  unfold hand
  split
  · split
    · rename_i unissued
      refine ⟨?_, carried_weaken had False.elim⟩
      intro adm mine
      obtain ⟨granted, out, res, final, tokens, budgets⟩ := disposed adm mine
      refine ⟨granted, out, res, final, ?_, ?_⟩
      · intro ticket given
        have held := tokens ticket given
        simp [unissued.1] at held
      · intro ticket given
        have held := budgets ticket given
        simp [unissued.2] at held
    · exact ⟨disposed, carried_weaken had False.elim⟩
  · split
    · refine ⟨?_, carried_weaken had False.elim⟩
      exact disposed_later (Lifecycle.later_refl _ none _) (fun _ => .inl) (fun _ => .inl) disposed
    rename_i did taken
    have told := transfer_taken taken
    refine ⟨?_, fun _ _ _ => .inl rfl⟩
    show Disposed did.lifecycle did.handler.admission _ _
    rw [told.handler, told.lifecycle]
    exact disposed

theorem entered_standing {adm caller : Nat} (ran : Lifecycle.step scene.lifecycle (.terminate adm out) = some (life, .entered caller))
    (mine : scene.handler.admission = some adm) (stand : Standing i (scene.enter (.calling out back))) :
    Standing i ((scene.moved life).enter (.waiting caller back)) := by
  obtain ⟨⟨_, quiet, kind⟩, had⟩ := stand
  refine ⟨?_, had⟩
  have granted : Lifecycle.Granted scene.lifecycle adm := by
    rcases quiet with begun | closed
    · exact (begun adm mine).1
    · exact (closed adm mine).1
  obtain ⟨lease, there⟩ := granted
  have kept := (Lifecycle.admitted_kept ran there).2
  cases Lifecycle.step_outcome ran with
  | opened => exact ⟨adm, out, mine, ⟨lease, kept⟩, by simp [enter, moved, Lifecycle.System.setLease],
      by simp [enter, moved, Lifecycle.LeaseState.outcome], kind⟩
  | joined _ _ _ _ taken =>
    rcases quiet with begun | closed
    · exact absurd (begun adm mine).2 taken
    · obtain ⟨_, alt, _, final, undeferred⟩ := closed adm mine
      refine ⟨adm, alt, mine, ⟨lease, kept⟩, by simp [enter, moved], ?_, by simp [undeferred]⟩
      exact congrArg Lifecycle.LeaseState.outcome final

theorem answered_standing {caller : Nat} {res : Lifecycle.LeaseResult} (held : ∀ own, Lifecycle.Ticketed own scene.lifecycle)
    (ran : Lifecycle.step scene.lifecycle (.answer caller) = some (life, .answered res))
    (stand : Standing i (scene.enter (.waiting caller back))) : Standing i ((scene.moved life).enter (back.stage res)) := by
  obtain ⟨⟨adm, out, mine, ⟨lease, there⟩, due, decided, kind⟩, had⟩ := stand
  have kept := (Lifecycle.admitted_kept ran there).2
  generalize ans : Lifecycle.Reply.answered res = rep at ran
  cases Lifecycle.step_outcome ran with
  | answered _ alt final _ waiting closed =>
    obtain rfl := Lifecycle.Reply.answered.inj ans
    obtain rfl : adm = alt := congrArg Lifecycle.Caller.admission (Option.some.inj (due.symm.trans waiting))
    obtain rfl : final = out := Option.some.inj ((congrArg Lifecycle.LeaseState.outcome closed).symm.trans decided)
    have closing : back ≠ .handing →
        Closed { scene.lifecycle with callers := scene.lifecycle.callers.set caller ⟨adm, some res⟩ } scene.handler.admission := by
      intro plain own owned
      obtain rfl : adm = own := Option.some.inj (mine.symm.trans owned)
      refine ⟨⟨lease, kept⟩, final, res, closed, ?_⟩
      cases deferred : final.defers with
      | false => rfl
      | true => exact absurd (kind deferred) plain
    cases back with
    | dispatched => exact ⟨⟨.inr (closing (by simp)), fun _ => closing (by simp)⟩, had⟩
    | draining => exact ⟨closing (by simp), had⟩
    | handing =>
      refine ⟨?_, had⟩
      intro own owned
      obtain rfl : adm = own := Option.some.inj (mine.symm.trans owned)
      exact ⟨⟨lease, kept⟩, final, res, closed, fun _ => id, fun _ => id⟩
    | enriching | concluding =>
      have paid := fun own => Lifecycle.Ticketed.mk (held own).deferred (held own).tokens (held own).budget
      exact ⟨closed_disposed paid (closing (by simp)) _ _, carried_weaken had False.elim⟩

theorem submitted_standing {sub : Observation.Submission} {worker after : UsageObservationWorker} {out : Observation.Submitted}
    (sent : Observation.SubmitOutcome worker job sub after out) (stand : Standing i (scene.enter (.submitting job sub))) :
    Standing i (enter { scene with worker := some after } (submittedStage job out)) := by
  obtain ⟨disposed, had⟩ := stand
  have same := Lifecycle.later_refl scene.handler.admission none scene.lifecycle
  cases sent with
  | checked | claimed | admitted => exact ⟨disposed, had⟩
  | refused | freed => exact ⟨disposed_later same (fun _ => .inl) (fun _ => .inl) disposed, had⟩
  | queued =>
    have fine : ∀ (part : UsageObservationJob → Option Nat) (name : Nat), part job = some name →
        Accepted (some { worker with queue := worker.queue ++ [job], submitted := worker.submitted ++ [job] }) part name :=
      fun part name named => ⟨_, job, rfl, by simp, named⟩
    exact ⟨disposed_later same (fun ticket held => .inl (fine _ ticket held)) (fun ticket held => .inl (fine _ ticket held)) disposed,
      carried_weaken had (fine _ i)⟩

theorem disposed_issued {token budget token' budget' : Nat → Prop} (held : ∀ own, Lifecycle.Ticketed own scene.lifecycle)
    (later : Later adm none scene.lifecycle life)
    (tokens : ∀ ticket, Lifecycle.Issued (tokenMarks scene.lifecycle.resources.tokens) ticket → token ticket → token' ticket)
    (budgets : ∀ ticket, Lifecycle.Issued (budgetMarks scene.lifecycle.resources.budgets) ticket → budget ticket → budget' ticket)
    (disposed : Disposed scene.lifecycle adm token budget) : Disposed life adm token' budget' := by
  intro i mine
  obtain ⟨granted, out, res, final, first, second⟩ := disposed i mine
  have issued := held i
  refine ⟨later.granted i granted, out, res, later.closed i out res final, ?_, ?_⟩
  · exact fun ticket given => tokens ticket (issued.tokens ticket (by rw [final]; exact given)) (first ticket given)
  · exact fun ticket given => budgets ticket (issued.budget ticket (by rw [final]; exact given)) (second ticket given)

theorem token_invalidated_standing (reg : Lifecycle.Regular scene.lifecycle) (ticketed : ∀ own, Lifecycle.Ticketed own scene.lifecycle)
    (ran : Lifecycle.step scene.lifecycle (.resources (.tokenCall (.invalidate ticket))) = some (life, rep)) (held : job.ticket = some ticket)
    (stand : Standing i (scene.enter (.invalidating job))) :
    Standing i ((scene.moved life).enter (.invalidating { job with ticket := none })) := by
  obtain ⟨disposed, had⟩ := stand
  have later : Later scene.handler.admission none scene.lifecycle life := Lifecycle.later_step reg ran (by simp) (by simp)
  refine ⟨disposed_issued ticketed later ?_ (fun alt _ => Or.imp id (settled_later later.budget (fun _ _ => id) _ alt)) disposed, had⟩
  rintro alt issued (here | paid)
  · obtain rfl : ticket = alt := Option.some.inj (held.symm.trans here)
    exact .inr (.inr (Lifecycle.token_ticket_invalidated ran issued))
  · exact .inr (settled_later later.tokens (fun _ _ => id) _ alt paid)

theorem budget_invalidated_standing (reg : Lifecycle.Regular scene.lifecycle) (ticketed : ∀ own, Lifecycle.Ticketed own scene.lifecycle)
    (ran : Lifecycle.step scene.lifecycle (.resources (.budgetCall (.invalidate ticket))) = some (life, rep))
    (held : job.budgetTicket = some ticket) (stand : Standing i (scene.enter (.invalidating job))) :
    Standing i ((scene.moved life).enter (.invalidating { job with budgetTicket := none })) := by
  obtain ⟨disposed, had⟩ := stand
  have later : Later scene.handler.admission none scene.lifecycle life := Lifecycle.later_step reg ran (by simp) (by simp)
  refine ⟨disposed_issued ticketed later (fun alt _ => Or.imp id (settled_later later.tokens (fun _ _ => id) _ alt)) ?_ disposed, had⟩
  rintro alt issued (here | paid)
  · obtain rfl : ticket = alt := Option.some.inj (held.symm.trans here)
    exact .inr (.inr (Lifecycle.budget_ticket_invalidated ran issued))
  · exact .inr (settled_later later.budget (fun _ _ => id) _ alt paid)

theorem invalidated_standing (clock : ClockReading) (spent : job.ticket = none ∧ job.budgetTicket = none)
    (stand : Standing i (scene.enter (.invalidating job))) : Standing i ((if job.completion.isSome then scene.unenriched clock else scene).enter
      (if scene.handler.admission.isSome then .concluding else .enriching)) := by
  obtain ⟨disposed, had⟩ := stand
  have paid : Disposed scene.lifecycle scene.handler.admission (TokenSettled scene) (BudgetSettled scene) := by
    refine disposed_later (Lifecycle.later_refl _ none _) ?_ ?_ disposed
    · rintro ticket (held | paid)
      · simp [spent.1] at held
      · exact paid
    · rintro ticket (held | paid)
      · simp [spent.2] at held
      · exact paid
  cases held : job.completion with
  | none =>
    have carriedLater : Carried scene.exchange.completion (Accepted scene.worker UsageObservationJob.completion i) :=
      carried_weaken had (fun mine : job.completion = some i => absurd mine (by simp [held]))
    simp only [Option.isSome_none, Bool.false_eq_true, if_false]
    split <;> exact ⟨paid, carriedLater⟩
  | some =>
    simp only [Option.isSome_some, if_true]
    split <;> exact ⟨paid, finish_carries unknownUsage .unknown clock _⟩

theorem selected_standing (resp : UpstreamResponse) (begun : Opened scene.lifecycle scene.handler.admission)
    (had : Carried scene.exchange.completion False) : Standing i (scene.selected cfg resp) := by
  have unknown : ¬ Handler.known { scene.handler with observation := observe cfg scene.handler scene.exchange.completion resp } := by
    rintro ⟨obs, pair, has, canonical⟩
    rw [observe_unknown _ _ _ obs has] at canonical
    cases canonical
  exact entered_either ⟨⟨begun, unknown⟩, had⟩ ⟨⟨begun, unknown⟩, had⟩

theorem canonical_frame (scene : Scene) (usage : Usage) (cost : Money) (lastSeen : Option Int) (clock : ClockReading) :
    (scene.canonical usage cost lastSeen clock).lifecycle = scene.lifecycle ∧
      (scene.canonical usage cost lastSeen clock).handler.admission = scene.handler.admission ∧
      Nourished scene.exchange.completion (scene.canonical usage cost lastSeen clock).exchange.completion := by
  unfold canonical
  split
  · exact ⟨rfl, rfl, nourished_refl _⟩
  · exact ⟨rfl, rfl, finish_nourishes usage cost lastSeen clock⟩

theorem opened_quiet {known : Prop} (begun : Opened life adm) (unknown : ¬ known) : Quiet life adm ∧ (known → Closed life adm) :=
  ⟨.inl begun, fun hit => absurd hit unknown⟩

theorem closed_quiet {known : Prop} (closed : Closed life adm) : Quiet life adm ∧ (known → Closed life adm) := ⟨.inr closed, fun _ => closed⟩

theorem exposed_standing (body : exposed scene.handler.stage = true) (stand : Standing i scene) : Standing i (scene.enter .unwinding) := by
  obtain ⟨lease, had⟩ := stand
  revert lease had
  unfold LeaseStanding carrier
  cases stage : scene.handler.stage with
  | inspecting | planning =>
    rintro ⟨gone, unknown⟩ had
    exact ⟨opened_quiet (absent_any gone) unknown, had⟩
  | building | awaiting | dispatching | forwarding | converting =>
    rintro ⟨begun, unknown⟩ had
    exact ⟨opened_quiet begun unknown, had⟩
  | draining | delivering =>
    intro closed had
    exact ⟨closed_quiet closed, had⟩
  | _ => simp [stage, exposed] at body

theorem told_around (told : Told scene next) : Around scene next := by
  refine ⟨told.handler, ?_, ?_, ?_⟩
  · rw [told.lifecycle]
    exact Lifecycle.later_refl _ _ _
  · rw [told.worker]
    exact fun _ _ => id
  · rw [told.completion]
    exact nourished_refl _

theorem inspected_standing (stage : scene.handler.stage = .inspecting) (stand : Standing i (scene.enter .inspecting)) (rep : Lifecycle.Reply) :
    Standing i ((scene.moved life).inspecting rep) := by
  obtain ⟨⟨gone, unknown⟩, had⟩ := stand
  unfold inspecting
  split
  · exact standing_at stage ⟨⟨gone, unknown⟩, had⟩
  · exact ⟨opened_quiet (absent_any gone) unknown, had⟩

theorem acquiring_standing {opts : Resource.ResourceLeaseOptions} {tokenAdmission budgetAdmission : Bool} {own : Nat}
    (reg : Lifecycle.Regular scene.lifecycle)
    (ran : Lifecycle.step scene.lifecycle (.resources (Scene.acquiring scene.handler.inspection opts)) = some (life, .resources (.started own)))
    (stand : Standing i (scene.enter .planning)) :
    Standing i (((scene.moved life).planned tokenAdmission budgetAdmission (some own)).enter .acquiring) := by
  obtain ⟨⟨_, unknown⟩, had⟩ := stand
  obtain ⟨_, grown, new⟩ := Lifecycle.started_fresh reg ran
  refine ⟨⟨unknown, own, rfl, ?_, new⟩, had⟩
  show own < life.resources.admissions.length
  omega

theorem admitted_standing {own : Nat} {lease : Resource.ResourceLease} (mine : scene.handler.admission = some own)
    (granted : Lifecycle.admittedLease scene.lifecycle own = some lease) (stand : Standing i (scene.enter .acquiring)) :
    Standing i (scene.enter .building) := by
  obtain ⟨⟨unknown, alt, owned, _, new⟩, had⟩ := stand
  refine ⟨⟨?_, unknown⟩, had⟩
  intro pos held
  obtain rfl : alt = pos := Option.some.inj (owned.symm.trans held)
  obtain rfl : alt = own := Option.some.inj (owned.symm.trans mine)
  exact ⟨⟨lease, granted⟩, new⟩

theorem customized_standing (resp : UpstreamResponse) (clock : ClockReading) (stand : Standing i (scene.enter .awaiting)) :
    Standing i (((scene.classified cfg resp clock).setTerminal .customDispatch).enter .dispatching) := by
  obtain ⟨⟨begun, unknown⟩, had⟩ := stand
  have told := classified_told cfg scene resp clock
  refine ⟨⟨?_, ?_⟩, told.completion ▸ had⟩ <;> simp only [enter, setTerminal, told.lifecycle, told.handler]
  · exact begun
  · exact unknown

theorem responded_standing (resp : UpstreamResponse) (clock : ClockReading) (stand : Standing i (scene.enter .awaiting)) :
    Standing i ((scene.classified cfg resp clock).selected cfg resp) := by
  obtain ⟨⟨begun, _⟩, had⟩ := stand
  have told := classified_told cfg scene resp clock
  apply selected_standing
  · rw [told.lifecycle, told.handler]
    exact begun
  · rw [told.completion]
    exact had

theorem aggregated_standing (usage : Usage) (cost : Money) (known : Bool) (lastSeen : Option Int) (clock : ClockReading)
    (stand : Standing i (scene.enter .converting)) :
    Standing i ((scene.canonical usage cost lastSeen clock).settleLease (convertedOutcome usage cost known) .draining .draining) := by
  obtain ⟨⟨begun, _⟩, had⟩ := stand
  obtain ⟨same, mine, nourished⟩ := canonical_frame scene usage cost lastSeen clock
  have later := carried_later nourished had id
  refine settle_lease_standing ?_ later ?_ (fun gone => ⟨absent_any gone, later⟩)
  · rw [same, mine]
    exact .inl begun
  · unfold convertedOutcome
    split <;> simp [defers]

theorem concluded_standing (err : Option DispatchError) (requestDone deadline : Bool) (stand : Standing i (scene.enter (.dispatched err))) :
    Standing i (((scene.observed (fun obs => obs.finish err.isSome)).judge err requestDone deadline).enter .unwinding) := by
  obtain ⟨⟨quiet, closes⟩, had⟩ := stand
  have same : ∀ obs : ResponseObservation, (obs.finish err.isSome).canonical = obs.canonical := fun _ => rfl
  have known := observed_known scene same
  have told := judge_told (scene.observed (fun obs => obs.finish err.isSome)) err requestDone deadline
  refine ⟨⟨?_, ?_⟩, told.completion ▸ had⟩ <;> simp only [enter, told.lifecycle, told.handler]
  · exact quiet
  · exact fun hit => closes (known.mp hit)

theorem standing_move (reg : Lifecycle.Regular scene.lifecycle) (ticketed : ∀ own, Lifecycle.Ticketed own scene.lifecycle)
    (move : Move cfg i scene event next made) (stand : Standing i scene) : Standing i next := by
  have ⟨lease, had⟩ := stand
  have entered : ∀ {stage : Stage}, scene.handler.stage = stage → Standing i (scene.enter stage) := by
    rintro _ rfl
    exact stand
  have exposes : exposed scene.handler.stage = true → Standing i (scene.enter .unwinding) := fun body => exposed_standing body stand
  unfold LeaseStanding at lease
  unfold carrier at had
  cases move with
  | misconfigured stage =>
    rw [stage] at lease had
    exact none_concluding lease.1 had (.inl rfl)
  | refused _ stage =>
    have ready := exposes (by rcases stage with stage | stage | stage <;> (rw [stage]; rfl))
    exact ⟨ready.lease, ready.completion⟩
  | inspected _ _ _ _ stage => exact inspected_standing stage (entered stage) _
  | described _ stage | started _ stage | drained stage | closed _ stage =>
    rw [stage] at lease had
    exact ⟨lease, had⟩
  | bypassed stage =>
    rw [stage] at lease had
    exact ⟨⟨absent_any lease.1, lease.2⟩, had⟩
  | acquiring _ _ _ _ _ stage ran => exact acquiring_standing reg ran (entered stage)
  | unacquired _ _ _ _ _ stage =>
    rw [stage] at lease had
    exact ⟨opened_quiet (absent_any rfl) lease.2, had⟩
  | admitted _ _ stage mine granted => exact admitted_standing mine granted (entered stage)
  | rejected _ _ _ stage =>
    rw [stage] at lease had
    exact ⟨opened_quiet (absent_any rfl) lease.1, had⟩
  | failed _ stage | calledBack stage =>
    have ready := exposes (by rw [stage]; rfl)
    exact ⟨ready.lease, ready.completion⟩
  | customized resp clock stage => exact customized_standing resp clock (entered stage)
  | selected resp clock stage => exact responded_standing resp clock (entered stage)
  | recorded written stage =>
    rw [stage] at lease had
    have known := observed_known scene (fun obs => record_canonical obs written)
    exact standing_at stage ⟨⟨lease.1, fun hit => lease.2 (known.mp hit)⟩, had⟩
  | unconverted _ stage =>
    rw [stage] at lease had
    exact settle_lease_standing (.inl lease.1) had (by simp [defers]) (fun _ => ⟨opened_quiet lease.1 lease.2, had⟩)
  | aggregated usage cost known lastSeen clock stage => exact aggregated_standing usage cost known lastSeen clock (entered stage)
  | overflowed stage =>
    rw [stage] at lease had
    exact settle_lease_standing (.inr lease) had (by simp [defers]) (fun _ => ⟨closed_quiet lease, had⟩)
  | undrained _ stage =>
    rw [stage] at lease had
    exact ⟨closed_quiet lease, had⟩
  | dispatched _ stage =>
    rcases stage with stage | stage <;> rw [stage] at lease had
    · exact ⟨opened_quiet lease.1 lease.2, had⟩
    · exact ⟨closed_quiet lease, had⟩
  | concluded err requestDone deadline stage => exact concluded_standing err requestDone deadline (entered stage)
  | wrote => exact standing_around (told_around ⟨rfl, rfl, rfl, rfl⟩) ⟨stand.lease, stand.completion⟩
  | crashed body =>
    have ready := exposes body
    exact ⟨ready.lease, ready.completion⟩
  | entered _ _ _ _ _ _ stage mine ran => exact entered_standing ran mine (entered stage)
  | answered _ _ _ _ _ stage ran => exact answered_standing ticketed ran (entered stage)
  | released _ _ after _ stage ran =>
    rw [stage] at lease had
    have later : Later scene.handler.admission none scene.lifecycle after := Lifecycle.later_step reg ran (by simp) (by simp)
    exact standing_at stage ⟨⟨quiet_later later lease.1, fun known => closed_later later (lease.2 known)⟩, had⟩
  | settled clock stage => exact settle_standing clock ticketed (entered stage)
  | handed _ _ stage => exact hand_standing (entered stage)
  | unsubmitted _ _ _ stage =>
    rw [stage] at lease had
    exact ⟨disposed_later (Lifecycle.later_refl _ none _) (fun _ => .inl) (fun _ => .inl) lease, had⟩
  | submitted _ _ _ _ _ _ stage _ sent => exact submitted_standing sent (entered stage)
  | tokenInvalidated _ _ _ _ _ stage held ran => exact token_invalidated_standing reg ticketed ran held (entered stage)
  | budgetInvalidated _ _ _ _ _ stage _ held ran => exact budget_invalidated_standing reg ticketed ran held (entered stage)
  | invalidated clock _ stage spent => exact invalidated_standing clock spent (entered stage)
  | enriched clock stage =>
    rw [stage] at lease had
    exact ⟨lease, finish_carries unknownUsage .unknown clock _⟩
  | blockFinished _ stage =>
    rw [stage] at lease had
    unfold finishBlock
    split <;> exact entered_either ⟨lease, had⟩ ⟨lease, had⟩
  | completed clock stage =>
    rw [stage] at lease had
    exact ⟨lease, carried_later (complete_nourishes clock) had id⟩

end Own

end NineGateway.Proxy
