import NineGateway.Observation.System

set_option autoImplicit false

namespace NineGateway.Observation

open Roster (total total_append total_set weight_le_total)
open Transition

def Routine.taken : Routine → List UsageObservationJob
  | .releasing job => [job]
  | .wiping hand => hand.toList
  | .waiting | .looping | .draining | .processing _ _ _ | .done => []

def Closing.taken : Closing → List UsageObservationJob
  | .emptying hand => hand.toList
  | .flagging | .bounding | .stopping | .waiting | .expiring | .between | .discarding | .returned _ => []

def Routine.unsettled : Routine → List Ticket
  | .processing job .parsing _ | .processing job (.gating _) _ | .processing job (.token _) _ => job.tickets
  | .processing job (.budget _) _ => job.budgets
  | .processing _ .finishing _ | .releasing _ | .wiping _ | .waiting | .looping | .draining | .done => []

def Submitted.isPending : Submitted → Bool
  | .pending _ => true
  | .accepted | .dropped => false

namespace ObservationSystem

def held (system : ObservationSystem) : Nat := Roster.total (fun call => call.2.holds.toNat) system.submissions

def handed (sys : ObservationSystem) (w : UsageObservationJob → Nat) : Nat := Roster.total (fun call => w call.1) sys.submissions

-- The jobs that were received and whose slot is still to be given back.
def inHand (sys : ObservationSystem) (w : UsageObservationJob → Nat) : Nat :=
  Roster.total w sys.routine.taken + Roster.total (fun closer => Roster.total w closer.stage.taken) sys.closers

def outstanding (sys : ObservationSystem) (w : UsageObservationJob → Nat) : Nat :=
  Roster.total (fun call => if call.2.isPending then w call.1 else 0) sys.submissions + Roster.total w sys.worker.queue + sys.inHand w

end ObservationSystem

structure Conserved (sys : ObservationSystem) : Prop where
  balanced : sys.worker.Balanced sys.held
  returning : sys.worker.returning = sys.inHand fun _ => 1
  jobs : ∀ w, sys.handed w = sys.outstanding w + Roster.total w sys.processed + Roster.total w sys.dropped
  tickets : ∀ ticket, sys.adjusted.count ticket + sys.invalidated.count ticket + sys.routine.unsettled.count ticket =
    Roster.total (fun job => job.tickets.count ticket) sys.processed + Roster.total (fun job => job.tickets.count ticket) sys.dropped

open ObservationSystem (held handed inHand outstanding drop received freed settle submitted back finishAdjust bounded discardQueuedLocked wind claim
  move submitMove)

open Routine

section Conservation

variable {sys next : ObservationSystem} {move : Move}

theorem total_join {α : Type} (w : α → Nat) (first second : List α) : total w (first ++ second) = total w first + total w second := by
  simp [total]

theorem count_tickets (ticket : Ticket) (jobs : List UsageObservationJob) :
    (jobs.flatMap UsageObservationJob.tickets).count ticket = total (fun job => job.tickets.count ticket) jobs := by
  simp [total, List.count_flatMap, Function.comp_def]

variable {routine : Routine} {job : UsageObservationJob} {worker : UsageObservationWorker} {call : Nat} {closer : Closer}

theorem in_hand_advance (w : UsageObservationJob → Nat) (has : sys.closers[call]? = some closer) (stage : Closing) :
    (sys.advanceTo call closer stage).inHand w + total w closer.stage.taken = sys.inHand w + total w stage.taken := by
  have moves := total_set (fun closer : Closer => total w closer.stage.taken) _ _ _ { closer with stage := stage } has
  simp only [inHand, ObservationSystem.advanceTo] at moves ⊢
  omega

theorem total_hand_none (w : UsageObservationJob → Nat) : total w (Closing.emptying none).taken = 0 := rfl

theorem total_hand_some (w : UsageObservationJob → Nat) (job : UsageObservationJob) : total w (Closing.emptying (some job)).taken = w job :=
  Nat.add_zero _

variable (kept : Conserved sys)
include kept

theorem settled_conserved (tickets : List Ticket) (adjusts : Bool) (taken : routine.taken = sys.routine.taken)
    (unsettled : sys.routine.unsettled = tickets ++ routine.unsettled) : Conserved { sys.settle tickets adjusts with routine := routine } := by
  have jobs := kept.jobs
  have returning := kept.returning
  have tally := kept.tickets
  simp only [handed, outstanding, inHand, ← taken] at jobs returning
  simp only [unsettled, List.count_append] at tally
  refine ⟨kept.balanced, returning, jobs, fun ticket => ?_⟩
  refine Eq.trans ?_ (tally ticket)
  cases adjusts <;> simp [settle, List.count_append] <;> omega

theorem routine_conserved (taken : routine.taken = sys.routine.taken)
    (unsettled : routine.unsettled = sys.routine.unsettled) : Conserved { sys with routine := routine } := by
  have paid := settled_conserved kept [] true taken (by rw [unsettled]; rfl)
  simpa [settle] using paid

theorem marked_conserved {wake drain stopped : Bool} {phase : Phase} {begun : List UsageObservationJob} :
    Conserved { sys with wake := wake, drain := drain, stopped := stopped, phase := phase, begun := begun } :=
  ⟨kept.balanced, kept.returning, kept.jobs, kept.tickets⟩

theorem advance_conserved {stage : Closing} (has : sys.closers[call]? = some closer) (taken : stage.taken = closer.stage.taken) :
    Conserved (sys.advanceTo call closer stage) := by
  have same : ∀ w, (sys.advanceTo call closer stage).inHand w = sys.inHand w := by
    intro w
    have moves := in_hand_advance w has stage
    rw [taken] at moves
    omega
  refine ⟨kept.balanced, kept.returning.trans (same _).symm, fun w => (kept.jobs w).trans ?_, kept.tickets⟩
  simp only [outstanding, same]
  rfl

theorem received_conserved {rest : List UsageObservationJob} {closers : List Closer} (queued : sys.worker.queue = job :: rest)
    (grown : ∀ w, inHand { sys with routine := routine, closers := closers } w = sys.inHand w + w job)
    (unsettled : routine.unsettled = sys.routine.unsettled) :
    Conserved { sys.received rest with routine := routine, closers := closers } := by
  refine ⟨?_, ?_, fun w => ?_, fun ticket => ?_⟩
  · have even := kept.balanced
    simp only [UsageObservationWorker.Balanced, received, held, queued, List.length_cons] at even ⊢
    omega
  · exact (congrArg (· + 1) kept.returning).trans (grown _).symm
  · have jobs := kept.jobs w
    have more := grown w
    simp only [handed, outstanding, queued, inHand, received, total, List.map_cons, List.sum_cons] at jobs more ⊢
    omega
  · have tickets := kept.tickets ticket
    rwa [← unsettled] at tickets

theorem dropped_conserved {closers : List Closer} (shrunk : ∀ w, sys.inHand w = inHand { sys with routine := routine, closers := closers } w + w job)
    (unsettled : routine.unsettled = sys.routine.unsettled) :
    Conserved { sys.freed.drop [job] with routine := routine, closers := closers } := by
  have least := kept.returning.trans (shrunk fun _ => 1)
  refine ⟨?_, ?_, fun w => ?_, fun ticket => ?_⟩
  · have even := kept.balanced
    simp only [UsageObservationWorker.Balanced, freed, drop, held] at even ⊢
    omega
  · exact (congrArg (· - 1) least).trans (Nat.add_sub_cancel ..)
  · have jobs := kept.jobs w
    have fewer := shrunk w
    simp only [handed, outstanding, inHand, freed, drop, total_append] at jobs fewer ⊢
    omega
  · have tickets := kept.tickets ticket
    rw [← unsettled] at tickets
    simp only [freed, drop, total_join, List.count_append, count_tickets] at tickets ⊢
    omega

theorem submit_conserved {sub : Submission} {out : Submitted} (has : sys.submissions[call]? = some (job, .pending sub))
    (outs : SubmitOutcome sys.worker job sub worker out) : Conserved (sys.submitted call job worker out) := by
  have slots : total (fun call : UsageObservationJob × Submitted => call.2.holds.toNat) (sys.submissions.set call (job, out)) +
      sub.holds.toNat = sys.held + out.holds.toNat := total_set _ _ _ _ _ has
  have handed : ∀ w : UsageObservationJob → Nat, total (fun call => w call.1) (sys.submissions.set call (job, out)) = sys.handed w := by
    intro w
    have set := total_set (fun call : UsageObservationJob × Submitted => w call.1) _ _ _ (job, out) has
    simp only [ObservationSystem.handed] at set ⊢
    omega
  have holds : sub.holds.toNat ≤ sys.held :=
    weight_le_total (fun call : UsageObservationJob × Submitted => call.2.holds.toNat) _ _ _ has fun _ _ => Nat.zero_le _
  have even := submit_balanced outs (show sys.worker.Balanced (sys.held - sub.holds.toNat + sub.holds.toNat) by
    rw [Nat.sub_add_cancel holds]; exact kept.balanced)
  rw [show sys.held - sub.holds.toNat + out.holds.toNat =
    total (fun call : UsageObservationJob × Submitted => call.2.holds.toNat) (sys.submissions.set call (job, out)) by omega] at even
  have returning : worker.returning = sys.inHand fun _ => 1 := by
    rw [← kept.returning]
    cases outs <;> rfl
  have queue : worker.queue = if out = .accepted then sys.worker.queue ++ [job] else sys.worker.queue := by cases outs <;> rfl
  have jobs : ∀ w : UsageObservationJob → Nat, sys.handed w =
      total (fun call => if call.2.isPending then w call.1 else 0) (sys.submissions.set call (job, out)) +
        total w worker.queue + sys.inHand w + total w sys.processed +
        (total w sys.dropped + if out = .dropped then w job else 0) := by
    intro w
    have moves := total_set (fun call : UsageObservationJob × Submitted => if call.2.isPending then w call.1 else 0) _ _ _ (job, out) has
    have pre := kept.jobs w
    simp only [outstanding, Submitted.isPending, if_true] at pre moves
    rw [queue]
    cases out <;> simp [total, Submitted.isPending] at moves pre ⊢ <;> omega
  unfold submitted
  by_cases denied : out = .dropped
  · simp only [if_pos denied] at jobs ⊢
    refine ⟨even, returning, fun w => ?_, fun ticket => ?_⟩
    · refine (handed w).trans ((jobs w).trans ?_)
      simp only [outstanding, inHand, drop, total_append]
    · have tickets := kept.tickets ticket
      simp only [drop, total_join, List.count_append, count_tickets] at tickets ⊢
      omega
  · simp only [if_neg denied, Nat.add_zero] at jobs ⊢
    exact ⟨even, returning, fun w => (handed w).trans (jobs w), kept.tickets⟩

theorem claimed_conserved {drains : Bool} (even : worker.Balanced sys.held)
    (returning : worker.returning = inHand { sys with routine := .processing job .parsing drains } fun _ => 1)
    (did : ∀ w : UsageObservationJob → Nat, total w sys.worker.queue + total w sys.routine.taken = total w worker.queue + w job)
    (paid : sys.routine.unsettled = []) :
    Conserved { sys with worker := worker, routine := .processing job .parsing drains, processed := sys.processed ++ [job] } := by
  refine ⟨even, returning, fun w => ?_, fun ticket => ?_⟩
  · have jobs := kept.jobs w
    have leaves := did w
    have idle : total w (processing job .parsing drains).taken = 0 := rfl
    simp only [handed, outstanding, inHand, total_append, idle] at jobs ⊢
    omega
  · have tickets := kept.tickets ticket
    rw [paid] at tickets
    simp only [List.count_nil, unsettled, total_append] at tickets ⊢
    omega

theorem claim_conserved {rest : List UsageObservationJob} (looping : sys.routine = .looping) (queued : sys.worker.queue = job :: rest) :
    Conserved { sys with
      worker := { sys.worker with queue := rest, slots := sys.worker.slots + 1 }, routine := .processing job .parsing false
      processed := sys.processed ++ [job] } := by
  have even := kept.balanced
  have returning := kept.returning
  simp only [inHand, looping] at returning
  refine claimed_conserved kept ?_ returning (fun w => ?_) (by rw [looping]; rfl)
  · simp only [UsageObservationWorker.Balanced, queued, List.length_cons] at even ⊢
    omega
  · rw [looping, queued]
    simp [total, taken, Nat.add_comm]

theorem release_conserved (releasing : sys.routine = .releasing job) :
    Conserved { sys.freed with routine := .processing job .parsing true, processed := sys.processed ++ [job] } := by
  have even := kept.balanced
  have returning := kept.returning
  simp only [inHand, releasing, taken, total, List.map_cons, List.map_nil, List.sum_cons, List.sum_nil] at returning
  refine claimed_conserved kept ?_ ?_ (fun w => ?_) (by rw [releasing]; rfl)
  · simp only [UsageObservationWorker.Balanced, freed] at even ⊢
    omega
  · simp only [inHand, freed, taken, total, List.map_nil, List.sum_nil]
    omega
  · rw [releasing]
    simp [total, taken, freed]

omit kept

theorem winds_taken (winds : sys.Winds) : sys.routine.taken = [] ∧ sys.routine.unsettled = [] := by
  rcases winds with waiting | looping
  · rw [waiting.1]
    exact ⟨rfl, rfl⟩
  · rw [looping.1]
    exact ⟨rfl, rfl⟩

theorem wind_taken (sys : ObservationSystem) : sys.wind.routine.taken = [] ∧ sys.wind.routine.unsettled = [] := by
  unfold wind
  split <;> exact ⟨rfl, rfl⟩

theorem back_taken (drains : Bool) : (back drains).taken = [] ∧ (back drains).unsettled = [] := by
  cases drains <;> exact ⟨rfl, rfl⟩

theorem moved_conserved (kept : Conserved sys) (did : Moved sys move next) : Conserved next := by
  cases did with
  | handed =>
    refine ⟨?_, kept.returning, fun w => ?_, kept.tickets⟩
    · have even := kept.balanced
      simpa [held, Submitted.holds, Submission.holds] using even
    · have jobs := kept.jobs w
      simp only [ObservationSystem.handed, outstanding, inHand, total_append, Submitted.isPending, if_true] at jobs ⊢
      omega
  | submitted has outs => exact submit_conserved kept has outs
  | wound winds =>
    exact routine_conserved kept ((wind_taken sys).1.trans (winds_taken winds).1.symm) ((wind_taken sys).2.trans (winds_taken winds).2.symm)
  | woken waiting wake =>
    have cleared : Conserved { sys with wake := false } := marked_conserved kept
    exact routine_conserved cleared (by rw [waiting]; rfl) (by rw [waiting]; rfl)
  | paused looping | exhausted looping | parsed _ _ looping | wiped looping =>
    exact routine_conserved kept (by rw [looping]; rfl) (by rw [looping]; rfl)
  | claimed looping _ queued => exact claim_conserved kept looping queued
  | taken draining queued | wiping draining queued =>
    refine received_conserved kept queued (fun w => ?_) (by rw [draining]; rfl)
    simp [inHand, draining, taken, total, received, Nat.add_comm]
  | wipedOff wiping =>
    refine dropped_conserved kept (fun w => ?_) (by rw [wiping]; rfl)
    simp [inHand, wiping, taken, total, freed, drop, Nat.add_comm]
  | released releasing => exact release_conserved kept releasing
  | failed processing unbegun =>
    rename_i job prog drains
    refine settled_conserved kept _ false ?_ ?_
    · rw [processing, (back_taken drains).1]
      rfl
    rw [processing, (back_taken drains).2, List.append_nil]
    cases prog with
    | parsing => rfl
    | gating => rfl
    | token => cases unbegun
    | budget => cases unbegun
    | finishing => cases unbegun
  | began gating idle =>
    rename_i job verdict drains
    have begun : Conserved { sys with phase := .adjusting, begun := sys.begun ++ [job] } := marked_conserved kept
    exact routine_conserved begun (by rw [gating]; rfl) (by rw [gating]; rfl)
  | settledToken settling => exact settled_conserved kept _ _ (by rw [settling]; rfl) (by rw [settling]; rfl)
  | settledBudget settling => exact settled_conserved kept _ _ (by rw [settling]; rfl) (by rw [settling]; exact (List.append_nil _).symm)
  | finished finishing =>
    rename_i job drains
    have idled : Conserved sys.finishAdjust := marked_conserved kept
    refine routine_conserved idled ?_ ?_
    · rw [(back_taken drains).1]
      exact (congrArg taken finishing).symm
    · rw [(back_taken drains).2]
      exact (congrArg unsettled finishing).symm
  | closing drains =>
    have same : ∀ w, inHand { sys with closers := sys.closers ++ [⟨drains, if drains then .flagging else .bounding⟩] } w = sys.inHand w := by
      intro w
      cases drains <;> simp [inHand, Closing.taken]
    refine ⟨kept.balanced, kept.returning.trans (same _).symm, fun w => (kept.jobs w).trans ?_, kept.tickets⟩
    simp only [outstanding, same]
  | flagged _ has stage =>
    have drained : Conserved { sys with drain := true } := marked_conserved kept
    exact advance_conserved drained has (by rw [stage]; rfl)
  | bounded _ has stage =>
    have denied : Conserved { sys with worker := { sys.worker with accepting := false } } :=
      ⟨kept.balanced, kept.returning, kept.jobs, kept.tickets⟩
    exact advance_conserved denied has (by rw [stage]; split <;> rfl)
  | stopped _ has stage =>
    have told : Conserved { sys with stopped := true } := marked_conserved kept
    exact advance_conserved told has (by rw [stage]; rfl)
  | expired _ has stage =>
    have tried : Conserved (sys.expire .idle) := marked_conserved kept
    exact advance_conserved tried has (by rw [stage]; rfl)
  | tried _ has stage =>
    have tried : Conserved (sys.expire .adjusting) := marked_conserved kept
    exact advance_conserved tried has (by rw [stage]; split <;> rfl)
  | waited _ has stage either => exact advance_conserved kept has (by rw [stage]; rcases either with rfl | rfl <;> rfl)
  | discarded _ has stage => exact advance_conserved kept has (by rw [stage]; rfl)
  | emptied _ has stage =>
    refine advance_conserved kept has ?_
    rw [stage, Closer.emptied]
    split <;> rfl
  | emptying _ has stage queued =>
    rename_i call closer job rest expired
    refine received_conserved kept queued (fun w => ?_) rfl
    have moves := in_hand_advance w has (.emptying (some job))
    rwa [stage, total_hand_none, total_hand_some] at moves
  | emptiedOff _ has stage =>
    refine dropped_conserved kept (fun w => ?_) rfl
    have moves := in_hand_advance w has (.emptying none)
    rw [stage, total_hand_none, total_hand_some] at moves
    exact moves.symm

theorem start_conserved (cap maxBytes : Int) : Conserved (newObservationSystem cap maxBytes) :=
  ⟨new_balanced cap maxBytes, rfl, fun _ => rfl, fun _ => rfl⟩

theorem moved_capacity (did : Moved sys move next) : next.worker.capacity = sys.worker.capacity := by
  cases did with
  | submitted _ outs =>
    cases outs <;> rfl
  | _ => rfl

end Conservation

def Routine.winding : Routine → Bool
  | .draining | .wiping _ | .releasing _ | .processing _ _ true | .done => true
  | .waiting | .looping | .processing _ _ false => false

-- A call that has stopped admission and has not told the worker yet.
def Closer.announces : Closer → Bool
  | ⟨_, .stopping⟩ | ⟨false, .emptying _⟩ => true
  | _ => false

def Closing.isPast : Closing → Bool
  | .flagging | .bounding => false
  | .stopping | .waiting | .expiring | .between | .discarding | .emptying _ | .returned _ => true

structure Flagged (sys : ObservationSystem) : Prop where
  served : sys.worker.accepting = true → sys.worker.queue = [] ∨ sys.wake = true ∨ sys.routine ≠ .waiting
  stopping : sys.stopped = true → sys.worker.accepting = false
  announced : sys.worker.accepting = false →
    sys.stopped = true ∨ ∃ (call : Nat) (closer : Closer), sys.closers[call]? = some closer ∧ closer.announces = true
  bounded : ∀ closer ∈ sys.closers, closer.stage.isPast = true → sys.worker.accepting = false
  winding : sys.routine.winding = true → sys.worker.accepting = false
  done : sys.routine = .done → sys.worker.queue = []

section Flags

variable {sys next : ObservationSystem} {move : Move}

theorem back_winding (drains : Bool) : (back drains).winding = drains ∧ back drains ≠ .waiting ∧ back drains ≠ .done := by
  cases drains <;> exact ⟨rfl, by decide, by decide⟩

theorem processing_winding (job : UsageObservationJob) (prog : Progress) (drains : Bool) : (processing job prog drains).winding = drains := by
  cases drains <;> rfl

variable {routine : Routine} {job : UsageObservationJob} {call : Nat} {closer : Closer}

theorem silent {old stage : Closing} (at_stage : closer.stage = old) (other : Closer.announces ⟨true, old⟩ = false)
    (kind : Closer.announces ⟨false, old⟩ = false) (announces : closer.announces = true) :
    Closer.announces { closer with stage := stage } = true := by
  obtain ⟨drains, _⟩ := closer
  cases at_stage
  cases drains with
  | true => exact Bool.noConfusion (other.symm.trans announces)
  | false => exact Bool.noConfusion (kind.symm.trans announces)

theorem emptied_announces {hand : Option UsageObservationJob} (stage : closer.stage = .emptying hand) (announces : closer.announces = true) :
    Closer.announces { closer with stage := closer.emptied } = true := by
  obtain ⟨drains, _⟩ := closer
  cases stage
  cases drains with
  | true => cases announces
  | false => rfl

theorem emptying_announces {hand : Option UsageObservationJob} (stage : closer.stage = .emptying hand) (later : Option UsageObservationJob)
    (announces : closer.announces = true) : Closer.announces { closer with stage := .emptying later } = true := by
  obtain ⟨drains, _⟩ := closer
  cases stage
  cases drains with
  | true => cases announces
  | false => rfl

variable (flag : Flagged sys)
include flag

theorem winds_refuses (winds : sys.Winds) : sys.worker.accepting = false := by
  rcases winds with waiting | looping
  · exact flag.stopping waiting.2
  · exact looping.2

theorem routine_flagged (busy : routine ≠ .waiting) (winding : routine.winding = true → sys.worker.accepting = false)
    (done : routine = .done → sys.worker.queue = []) : Flagged { sys with routine := routine } :=
  ⟨fun _ => .inr (.inr busy), flag.stopping, flag.announced, flag.bounded, winding, done⟩

theorem processing_flagged {prog : Progress} {drains : Bool} (processing : sys.routine = .processing job prog drains)
    (busy : routine ≠ .waiting ∧ routine ≠ .done) (same : routine.winding = drains) : Flagged { sys with routine := routine } := by
  refine routine_flagged flag busy.1 (fun winding => flag.winding ?_) (fun done => absurd done busy.2)
  rw [processing]
  cases drains with
  | true => rfl
  | false => rw [same] at winding; cases winding

theorem received_flagged {rest : List UsageObservationJob} {job : UsageObservationJob} (queued : sys.worker.queue = job :: rest) :
    Flagged (sys.received rest) := by
  refine ⟨fun accepting => ?_, flag.stopping, flag.announced, flag.bounded, flag.winding, fun done => ?_⟩
  · rcases flag.served accepting with empty | other
    · rw [queued] at empty
      cases empty
    · exact .inr other
  · have empty := flag.done done
    rw [queued] at empty
    cases empty

theorem dropped_flagged (job : UsageObservationJob) : Flagged (sys.freed.drop [job]) :=
  ⟨flag.served, flag.stopping, flag.announced, flag.bounded, flag.winding, flag.done⟩

theorem advance_flagged {stage : Closing} (has : sys.closers[call]? = some closer)
    (announces : closer.announces = true → Closer.announces { closer with stage := stage } = true)
    (past : stage.isPast = true → closer.stage.isPast = true) : Flagged (sys.advanceTo call closer stage) := by
  refine ⟨flag.served, flag.stopping, fun denied => ?_, ?_, flag.winding, flag.done⟩
  · refine (flag.announced denied).imp_right ?_
    rintro ⟨alt, announcing, shown, here⟩
    by_cases same : call = alt
    · subst same
      cases has.symm.trans shown
      exact ⟨call, _, List.getElem?_set_self (List.getElem?_eq_some_iff.mp has).1, announces here⟩
    · exact ⟨alt, announcing, (List.getElem?_set_ne same).trans shown, here⟩
  · exact Roster.forall_set _ _ _ flag.bounded fun later => flag.bounded _ (List.mem_of_getElem? has) (past later)

theorem bounded_flagged (has : sys.closers[call]? = some closer) : Flagged (sys.bounded call closer) := by
  refine ⟨(nomatch ·), fun _ => rfl, fun _ => .inr ⟨call, _, List.getElem?_set_self (List.getElem?_eq_some_iff.mp has).1, ?_⟩,
    fun _ _ _ => rfl, fun _ => rfl, flag.done⟩
  cases closer.drains <;> rfl

theorem submit_flagged {sub : Submission} {worker : UsageObservationWorker} {out : Submitted}
    (outs : SubmitOutcome sys.worker job sub worker out) : Flagged (sys.submitted call job worker out) := by
  unfold submitted
  cases outs with
  | queued accepting =>
    have running : sys.routine ≠ .done := by
      intro done
      have denied := flag.winding (by rw [done]; rfl)
      exact Bool.noConfusion (accepting.symm.trans denied)
    exact ⟨fun _ => .inr (.inl (Bool.or_true _)), flag.stopping, flag.announced, flag.bounded, flag.winding, fun done => absurd done running⟩
  | refused | checked | claimed | admitted | freed =>
    refine ⟨fun accepting => ?_, flag.stopping, flag.announced, flag.bounded, flag.winding, flag.done⟩
    simpa [drop] using flag.served accepting

theorem settle_flagged (tickets : List Ticket) (adjusts : Bool) : Flagged (sys.settle tickets adjusts) :=
  ⟨flag.served, flag.stopping, flag.announced, flag.bounded, flag.winding, flag.done⟩

theorem marked_flagged {drain : Bool} {phase : Phase} {begun : List UsageObservationJob} :
    Flagged { sys with drain := drain, phase := phase, begun := begun } :=
  ⟨flag.served, flag.stopping, flag.announced, flag.bounded, flag.winding, flag.done⟩

theorem moved_flagged (did : Moved sys move next) : Flagged next := by
  cases did with
  | submitted _ outs => exact submit_flagged flag outs
  | wound winds =>
    have denied := winds_refuses flag winds
    unfold wind
    split <;> exact routine_flagged flag (by simp) (fun _ => denied) (by simp)
  | woken | claimed =>
    exact ⟨fun _ => .inr (.inr (by simp)), flag.stopping, flag.announced, flag.bounded, by simp [winding], by simp⟩
  | paused _ empty => exact ⟨fun _ => .inl empty, flag.stopping, flag.announced, flag.bounded, by simp [winding], by simp⟩
  | exhausted draining empty | wiped draining empty =>
    exact routine_flagged flag (by simp) (fun _ => flag.winding (by rw [draining]; rfl)) (fun _ => empty)
  | taken draining | released draining | wiping draining | wipedOff draining =>
    exact ⟨fun _ => .inr (.inr (by simp)), flag.stopping, flag.announced, flag.bounded, fun _ => flag.winding (by rw [draining]; rfl), by simp⟩
  | parsed _ _ parsing => exact processing_flagged flag parsing (by simp) (processing_winding _ _ _)
  | failed processing =>
    exact processing_flagged (settle_flagged flag _ _) processing (back_winding _).2 (back_winding _).1
  | began gating idle =>
    rename_i job verdict drains
    have begun : Flagged { sys with phase := .adjusting, begun := sys.begun ++ [job] } := marked_flagged flag
    exact processing_flagged begun gating (by simp) (processing_winding _ _ _)
  | settledToken settling | settledBudget settling =>
    exact processing_flagged (settle_flagged flag _ _) settling (by simp) (processing_winding _ _ _)
  | finished finishing =>
    have idled : Flagged sys.finishAdjust := marked_flagged flag
    exact processing_flagged idled finishing (back_winding _).2 (back_winding _).1
  | closing drains =>
    refine ⟨flag.served, flag.stopping, fun denied => ?_, ?_, flag.winding, flag.done⟩
    · rcases flag.announced denied with stopped | ⟨call, closer, shown, announces⟩
      · exact .inl stopped
      · exact .inr ⟨call, closer, Roster.entry_kept shown _, announces⟩
    · exact Roster.forall_append _ _ flag.bounded (by cases drains <;> simp [Closing.isPast])
  | flagged _ has stage =>
    have drained : Flagged { sys with drain := true } := marked_flagged flag
    exact advance_flagged drained has (silent stage rfl rfl) (nomatch ·)
  | bounded _ has => exact bounded_flagged flag has
  | stopped _ has stage =>
    have denied := flag.bounded _ (List.mem_of_getElem? has) (by rw [stage]; rfl)
    exact ⟨flag.served, fun _ => denied, fun _ => .inl rfl, fun _ _ _ => denied, flag.winding, flag.done⟩
  | waited _ has stage => exact advance_flagged flag has (silent stage rfl rfl) fun _ => by rw [stage]; rfl
  | expired _ has stage =>
    have tried : Flagged (sys.expire .idle) := marked_flagged flag
    exact advance_flagged tried has (silent stage rfl rfl) fun _ => by rw [stage]; rfl
  | tried _ has stage =>
    have tried : Flagged (sys.expire .adjusting) := marked_flagged flag
    exact advance_flagged tried has (silent stage rfl rfl) fun _ => by rw [stage]; rfl
  | discarded _ has stage => exact advance_flagged flag has (silent stage rfl rfl) fun _ => by rw [stage]; rfl
  | emptied _ has stage => exact advance_flagged flag has (emptied_announces stage) fun _ => by rw [stage]; rfl
  | emptying _ has stage queued =>
    exact advance_flagged (received_flagged flag queued) has (emptying_announces stage _) fun _ => by rw [stage]; rfl
  | emptiedOff _ has stage =>
    exact advance_flagged (dropped_flagged flag _) has (emptying_announces stage _) fun _ => by rw [stage]; rfl
  | handed => exact ⟨flag.served, flag.stopping, flag.announced, flag.bounded, flag.winding, flag.done⟩

omit flag

theorem start_flagged (cap maxBytes : Int) : Flagged (newObservationSystem cap maxBytes) :=
  ⟨fun _ => .inl rfl, (nomatch ·), (nomatch ·), fun _ member => (nomatch member), (nomatch ·), (nomatch ·)⟩

end Flags

def Move.isOutside : Move → Bool
  | .hand _ | .close _ => true
  | _ => false

section Rest

variable {sys next : ObservationSystem} {move : Move}

def ObservationSystem.AtRest (system : ObservationSystem) : Prop := ∀ move : Move, move.isOutside = false → system.move move = none

variable {job : UsageObservationJob}

variable (kept : Conserved sys)
include kept

theorem hand_room (holding : 0 < sys.inHand fun _ => 1) : sys.worker.slots < sys.worker.capacity := by
  have even := kept.balanced
  have returning := kept.returning
  simp only [UsageObservationWorker.Balanced] at even
  omega

theorem taken_room (taken : job ∈ sys.routine.taken) : sys.worker.slots < sys.worker.capacity := by
  refine hand_room kept (Nat.lt_of_lt_of_le ?_ (Nat.le_add_right _ _))
  simpa [total] using List.length_pos_of_mem taken

theorem emptying_room {call : Nat} {closer : Closer} (has : sys.closers[call]? = some closer) (taken : job ∈ closer.stage.taken) :
    sys.worker.slots < sys.worker.capacity := by
  have least := weight_le_total (fun closer : Closer => total (fun _ => 1) closer.stage.taken) _ _ _ has fun _ _ => Nat.zero_le _
  have some_taken : 0 < total (fun _ => 1) closer.stage.taken := by simpa [total] using List.length_pos_of_mem taken
  exact hand_room kept (Nat.lt_of_lt_of_le some_taken (least.trans (Nat.le_add_left _ _)))

omit kept in
theorem discard_enabled {hand : Option UsageObservationJob} (room : ∀ job ∈ hand, sys.worker.slots < sys.worker.capacity) :
    sys.discardQueuedLocked hand ≠ none := by
  cases hand with
  | none =>
    simp only [discardQueuedLocked]
    split <;> simp
  | some job => simp [discardQueuedLocked, ObservationSystem.releaseSlot, UsageObservationWorker.releaseSlot, room job rfl]

-- Whoever holds the mutex can go on.
theorem unlocked_at_rest (rest : sys.AtRest) : sys.locked = false := by
  by_contra locked
  rw [ObservationSystem.locked, Bool.not_eq_false, Bool.or_eq_true] at locked
  rcases locked with routine | closer
  · cases here : sys.routine with
    | wiping hand =>
      have stuck := rest .discard rfl
      simp only [move, here, ObservationSystem.discard, Option.map_eq_none_iff] at stuck
      exact discard_enabled (fun job mem => taken_room kept (by rw [here]; exact Option.mem_toList.mpr mem)) stuck
    | waiting | looping | draining | releasing | processing | done => simp [here, Routine.locks] at routine
  · obtain ⟨closer, mem, locks⟩ := List.any_eq_true.mp closer
    obtain ⟨call, has⟩ := List.mem_iff_getElem?.mp mem
    cases here : closer.stage with
    | emptying hand =>
      have stuck := rest (.advance call false) rfl
      simp only [move, has, Option.bind_some, ObservationSystem.advance, here, Option.map_eq_none_iff] at stuck
      exact discard_enabled (fun job mem => emptying_room kept has (by rw [here]; exact Option.mem_toList.mpr mem)) stuck
    | flagging | bounding | stopping | waiting | expiring | between | discarding | returned => simp [here, Closing.locks] at locks

theorem submitted_at_rest {call : Nat} {sub : Submission} (rest : sys.AtRest) : sys.submissions[call]? ≠ some (job, .pending sub) := by
  intro has
  have holds : sub.holds.toNat ≤ sys.held :=
    weight_le_total (fun call : UsageObservationJob × Submitted => call.2.holds.toNat) _ _ _ has fun _ _ => Nat.zero_le _
  have even : sys.worker.Balanced (sys.held - sub.holds.toNat + sub.holds.toNat) := by
    rw [Nat.sub_add_cancel holds]
    exact kept.balanced
  obtain ⟨_, sent⟩ := Option.isSome_iff_exists.mp (submit_enabled job even)
  have stuck := rest (.submit call) rfl
  simp [move, submitMove, has, sent, unlocked_at_rest kept rest] at stuck

theorem claim_enabled : sys.claim ≠ none := by
  unfold claim
  split
  · simp
  split
  · simp
  rename_i job rest queued
  have even := kept.balanced
  simp only [UsageObservationWorker.Balanced, queued, List.length_cons] at even
  simp only [UsageObservationWorker.releaseSlot]
  rw [if_pos (by omega)]
  simp

theorem announced_at_rest (flag : Flagged sys) (rest : sys.AtRest) (denied : sys.worker.accepting = false) : sys.stopped = true := by
  rcases flag.announced denied with stopped | ⟨call, ⟨drains, stage⟩, has, announces⟩
  · exact stopped
  have unlocked := unlocked_at_rest kept rest
  cases stage with
  | stopping =>
    have announcing := rest (.advance call false) rfl
    simp [move, has, ObservationSystem.advance] at announcing
  | emptying =>
    simp only [ObservationSystem.locked, Bool.or_eq_false_iff, List.any_eq_false] at unlocked
    exact absurd rfl (unlocked.2 _ (List.mem_of_getElem? has))
  | flagging | bounding | waiting | expiring | between | discarding | returned => cases drains <;> cases announces

theorem routine_at_rest (flag : Flagged sys) (rest : sys.AtRest) : (sys.routine = .waiting ∨ sys.routine = .done) ∧ sys.worker.queue = [] := by
  have unlocked := unlocked_at_rest kept rest
  cases routine : sys.routine with
  | waiting =>
    have stuck := rest .stop rfl
    have asleep := rest .wake rfl
    simp only [move, routine, true_and] at stuck asleep
    have accepting : sys.worker.accepting = true := by
      by_contra refused
      simp [announced_at_rest kept flag rest (by simpa using refused), unlocked] at stuck
    rcases flag.served accepting with empty | woken | busy
    · exact ⟨.inl rfl, empty⟩
    · simp [woken] at asleep
    · exact absurd routine busy
  | looping =>
    have stuck := rest .claim rfl
    simp only [move, routine, unlocked, and_self, if_true] at stuck
    exact absurd stuck (claim_enabled kept)
  | wiping hand => simp [ObservationSystem.locked, routine, Routine.locks] at unlocked
  | draining =>
    have stuck := rest .take rfl
    simp [move, routine] at stuck
  | releasing =>
    have stuck := rest .release rfl
    have room := taken_room kept (by rw [routine]; exact List.mem_singleton_self _)
    simp [move, routine, ObservationSystem.releaseSlot, UsageObservationWorker.releaseSlot, room] at stuck
  | processing _ prog =>
    have parsing := rest (.parse none) rfl
    have beginning := rest .begin rfl
    have token := rest .settleToken rfl
    have budget := rest .settleBudget rfl
    have finishing := rest .finish rfl
    simp only [move, routine] at parsing beginning token budget finishing
    cases prog <;> contradiction
  | done => exact ⟨.inr rfl, flag.done routine⟩

end Rest

namespace ObservationSystem

def unhandled (system : ObservationSystem) : List UsageObservationJob :=
  (system.submissions.filter fun call => call.2.isPending).map Prod.fst ++ system.worker.queue ++ system.routine.taken ++
    system.closers.flatMap fun closer => closer.stage.taken

structure RoomForReleases (system : ObservationSystem) : Prop where
  submit : ∀ (call : Nat) (job : UsageObservationJob) (submission : Submission), system.submissions[call]? = some (job, .pending submission) →
    submission.holds = true → system.worker.slots < system.worker.capacity
  queued : system.worker.slots + system.worker.queue.length ≤ system.worker.capacity
  routine : ∀ job ∈ system.routine.taken, system.worker.slots < system.worker.capacity
  closing : ∀ (call : Nat) (closer : Closer), system.closers[call]? = some closer →
    ∀ job ∈ closer.stage.taken, system.worker.slots < system.worker.capacity

end ObservationSystem

section Settled

variable {reached : ObservationSystem}

theorem reached_sound {cap maxBytes : Int} {moves : List Move} {outs : List Unit}
    (run : execute step (newObservationSystem cap maxBytes) moves = some (reached, outs)) :
    Conserved reached ∧ Flagged reached ∧ reached.worker.capacity = (newUsageObservationWorker cap maxBytes).capacity := by
  refine run_invariant (fun st => Conserved st ∧ Flagged st ∧ st.worker.capacity = (newUsageObservationWorker cap maxBytes).capacity) ?_
    ⟨start_conserved _ _, start_flagged _ _, rfl⟩ along_always run
  intro st move later rep holds _ stepped
  obtain ⟨_, did, ⟨⟩⟩ := Option.map_eq_some_iff.mp stepped
  have did := move_moved did
  exact ⟨moved_conserved holds.1 did, moved_flagged holds.2.1 did, (moved_capacity did).trans holds.2.2⟩

variable (kept : Conserved reached)
include kept

theorem room_for_releases : reached.RoomForReleases := by
  have even := kept.balanced
  simp only [UsageObservationWorker.Balanced] at even
  refine ⟨fun call job sub has holding => ?_, by omega, fun job taken => taken_room kept taken, fun call closer has job => emptying_room kept has⟩
  have held : sub.holds.toNat ≤ reached.held :=
    weight_le_total (fun call : UsageObservationJob × Submitted => call.2.holds.toNat) _ _ _ has fun _ _ => Nat.zero_le _
  rw [holding] at held
  simp only [Bool.toNat_true] at held
  omega

omit kept in
theorem total_count (job : UsageObservationJob) (jobs : List UsageObservationJob) :
    total (fun alt => if alt = job then 1 else 0) jobs = jobs.count job := by
  induction jobs with
  | nil => rfl
  | cons _ _ ih =>
    simp only [total, List.map_cons, List.sum_cons, List.count_cons, beq_iff_eq] at ih ⊢
    omega

theorem handed_perm : (reached.submissions.map Prod.fst).Perm (reached.processed ++ reached.dropped ++ reached.unhandled) := by
  rw [List.perm_iff_count]
  intro job
  have jobs := kept.jobs fun alt => if alt = job then 1 else 0
  have due : ∀ cs : List (UsageObservationJob × Submitted),
      total (fun call => if call.2.isPending then (if call.1 = job then 1 else 0) else 0) cs =
        ((cs.filter fun call => call.2.isPending).map Prod.fst).count job := by
    intro cs
    rw [← total_count]
    induction cs with
    | nil => rfl
    | cons call _ ih =>
      simp only [total] at ih
      cases due : call.2.isPending <;> simp [total, due, ih]
  have handed : reached.handed (fun alt => if alt = job then 1 else 0) = (reached.submissions.map Prod.fst).count job := by
    rw [← total_count]
    simp [ObservationSystem.handed, total, Function.comp_def]
  have hands : total (fun closer : Closer => closer.stage.taken.count job) reached.closers =
      (reached.closers.flatMap fun closer => closer.stage.taken).count job := by
    simp [List.count_flatMap, total, Function.comp_def]
  simp only [outstanding, inHand, due, total_count, hands] at jobs
  simp only [ObservationSystem.unhandled, List.count_append]
  omega

theorem ticket_perm : ((reached.processed ++ reached.dropped).flatMap UsageObservationJob.tickets).Perm
    (reached.adjusted ++ reached.invalidated ++ reached.routine.unsettled) := by
  rw [List.perm_iff_count]
  intro ticket
  have tickets := kept.tickets ticket
  simp only [List.flatMap_append, List.count_append, count_tickets]
  omega

theorem settled_at_rest (flag : Flagged reached) (rest : reached.AtRest) : reached.unhandled = [] ∧ reached.routine.unsettled = [] := by
  obtain ⟨idle, empty⟩ := routine_at_rest kept flag rest
  have none_pending : reached.submissions.filter (fun call => call.2.isPending) = [] := by
    rw [List.filter_eq_nil_iff]
    rintro ⟨job, out⟩ member due
    obtain ⟨_, has⟩ := List.mem_iff_getElem?.mp member
    cases out with
    | pending => exact submitted_at_rest kept rest has
    | accepted | dropped => cases due
  have hands : (reached.closers.flatMap fun closer => closer.stage.taken) = [] := by
    rw [List.flatMap_eq_nil_iff]
    intro closer mem
    have unlocked := unlocked_at_rest kept rest
    simp only [ObservationSystem.locked, Bool.or_eq_false_iff, List.any_eq_false] at unlocked
    cases stage : closer.stage with
    | emptying => exact absurd (by rw [stage]; rfl) (unlocked.2 closer mem)
    | flagging | bounding | stopping | waiting | expiring | between | discarding | returned => rfl
  rcases idle with idle | idle <;> simp [ObservationSystem.unhandled, none_pending, empty, hands, idle, taken, unsettled]

omit kept

theorem observations_settle_once (capacity maxBytes : Int) (moves : List Move) (reached : ObservationSystem) (replies : List Unit)
    (run : Transition.execute step (newObservationSystem capacity maxBytes) moves = some (reached, replies)) :
    (reached.submissions.map Prod.fst).Perm (reached.processed ++ reached.dropped ++ reached.unhandled) ∧
      ((reached.processed ++ reached.dropped).flatMap UsageObservationJob.tickets).Perm
        (reached.adjusted ++ reached.invalidated ++ reached.routine.unsettled) ∧
      reached.worker.queue.length + reached.held + reached.worker.returning ≤ (newUsageObservationWorker capacity maxBytes).capacity ∧
      reached.RoomForReleases ∧ (reached.AtRest → reached.unhandled = [] ∧ reached.routine.unsettled = []) := by
  obtain ⟨kept, flag, same⟩ := reached_sound run
  refine ⟨handed_perm kept, ticket_perm kept, ?_, room_for_releases kept, settled_at_rest kept flag⟩
  have even := kept.balanced
  simp only [UsageObservationWorker.Balanced, same] at even
  omega

def observationOf (reservation : Nat) : UsageObservationJob :=
  { bytes := [], contentCoding := contentCodingIdentity, ticket := some reservation, budgetTicket := none, completion := none }

def handedOver (call reservation : Nat) : List Move := .hand (observationOf reservation) :: List.replicate 4 (.submit call)

def observed : List Move := [.parse (some ⟨true, false⟩), .begin, .settleToken, .settleBudget, .finish]

-- A Drain is under way when Shutdown discards the queue. It receives the first
-- job and the third, the draining worker the one between them.
def discardedAround : List Move :=
  handedOver 0 0 ++ handedOver 1 1 ++ handedOver 2 2 ++ [.close true] ++ List.replicate 3 (.advance 0 false) ++ [.stop, .close false] ++
    List.replicate 2 (.advance 1 false) ++ [.take] ++ List.replicate 2 (.advance 1 false) ++ [.release] ++
    List.replicate 3 (.advance 1 false) ++ observed ++ [.take, .advance 0 false, .advance 1 false]

theorem observations_settle_once_around : ∃ reached replies,
    Transition.execute step (newObservationSystem 3 0) discardedAround = some (reached, replies) ∧
      [observationOf 0, observationOf 1, observationOf 2].Perm (reached.processed ++ reached.dropped ++ reached.unhandled) ∧
      reached.processed = [observationOf 1] ∧ reached.dropped = [observationOf 0, observationOf 2] ∧ reached.unhandled = [] ∧
      reached.adjusted = [.token 1] ∧ reached.invalidated = [.token 0, .token 2] ∧
        reached.closers = [⟨true, .returned false⟩, ⟨false, .returned false⟩] :=
  ⟨_, _, Transition.execute_get (by decide +kernel),
    (observations_settle_once 3 0 discardedAround _ _ (Transition.execute_get (by decide +kernel))).1, by decide +kernel, by decide +kernel,
    by decide +kernel, by decide +kernel, by decide +kernel, by decide +kernel⟩

end Settled

end NineGateway.Observation
