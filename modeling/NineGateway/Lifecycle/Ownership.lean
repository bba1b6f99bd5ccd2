import NineGateway.Lifecycle.Custody
import NineGateway.Lifecycle.System

set_option autoImplicit false

namespace NineGateway.Lifecycle

open Resource (LeaseSystem ResourceLease ConcurrencyLimiter Lease Slot Admission AdmissionError Phase AdvanceOutcome)

def LeaseState.hold : LeaseState → Hold
  | .finalizing _ (.returningSlot _) => .returning
  | .finalizing _ (.publishing _) => .given
  | .finalized _ _ => .given
  | _ => .kept

def holdOf (phase : Phase) (state : LeaseState) : Hold :=
  match phase with
  | .returningSlot _ => .returning
  | .timingRetry _ => .given
  | .rejected _ => .given
  | .admitted _ => state.hold
  | _ => .kept

def System.view {α : Type} (read : Admission → LeaseState → α) (system : System) : List α :=
  system.resources.admissions.mapIdx (fun index admission => read admission (system.lease index))

def System.owners (system : System) : List (Nat × Hold) := system.view (fun admission state => (admission.slot, holdOf admission.phase state))

def System.custody (system : System) : Custody :=
  { limiter := system.resources.concurrency, slots := system.resources.slots, owners := system.owners }

def returnedSlot (system : System) : Call → Option Nat
  | .resources (.releaseSlot slot) => some slot
  | .resources (.advance index _) =>
    match system.resources.admissions[index]? with
    | some ⟨_, slot, .returningSlot _⟩ => some slot
    | _ => none
  | .settle index _ =>
    match admittedLease system index, system.lease index with
    | some lease, .finalizing _ (.returningSlot _) => some lease.concurrency
    | _, _ => none
  | _ => none

-- The steps of one Acquire or AcquireWithProvisional that got past its first
-- check.
def belongs (admission : Nat) : Call → Reply → Bool
  | .resources (.advance index _), _ => decide (index = admission)
  | .resources _, .resources (.started index) => decide (index = admission)
  | _, _ => false

structure Wellformed (sys : System) : Prop where
  named : ∀ (i : Nat) (adm : Admission) (lease : ResourceLease), sys.resources.admissions[i]? = some adm →
    adm.phase = .admitted lease → lease.concurrency = adm.slot
  unopened : ∀ i, admittedLease sys i = none → sys.lease i = .open

open Lifecycle.System

@[simp] theorem lease_set (sys : System) (adm q : Nat) (st : LeaseState) :
    (sys.setLease adm st).lease q = if q = adm then st else sys.lease q := by
  by_cases same : q = adm <;> simp [lease, setLease, same]

@[simp] theorem hand_resources (sys : System) (rep : Resource.Reply) : (sys.hand rep).resources = sys.resources := by
  unfold hand
  split <;> rfl

@[simp] theorem hand_lease (sys : System) (rep : Resource.Reply) (i : Nat) : (sys.hand rep).lease i = sys.lease i := by
  unfold hand
  split <;> rfl

variable {sys : System} {adm : Admission} {i : Nat}

theorem admitted_lease_iff {lease : ResourceLease} : admittedLease sys i = some lease ↔
      ∃ adm, sys.resources.admissions[i]? = some adm ∧ adm.phase = .admitted lease := by
  unfold admittedLease
  constructor
  · intro hit
    split at hit <;> cases hit
    rename_i opts slot lease' has
    exact ⟨_, has, rfl⟩
  · rintro ⟨⟨opts, slot, phase⟩, has, took⟩
    simp only at took
    simp [has, took]

theorem pending_unadmitted (has : sys.resources.admissions[i]? = some adm)
    (due : ∀ lease, adm.phase ≠ .admitted lease) : admittedLease sys i = none := by
  rw [Option.eq_none_iff_forall_ne_some]
  intro lease took
  obtain ⟨_, hit, was⟩ := admitted_lease_iff.mp took
  rw [has] at hit
  cases hit
  exact due lease was

theorem pending_open (wf : Wellformed sys) (has : sys.resources.admissions[i]? = some adm) (due : ∀ lease, adm.phase ≠ .admitted lease) :
    sys.lease i = .open := wf.unopened i (pending_unadmitted has due)

section Views

variable {α : Type} {read : Admission → LeaseState → α} {sys next : System}

variable {adm : Admission} {i : Nat}

variable (has : sys.resources.admissions[i]? = some adm)
include has

theorem view_at : (sys.view read)[i]? = some (read adm (sys.lease i)) := by
  simp [view, has]

omit has in
theorem view_some {entry : α} (hit : (sys.view read)[i]? = some entry) :
    ∃ adm, sys.resources.admissions[i]? = some adm ∧ entry = read adm (sys.lease i) := by
  simp only [view, List.getElem?_mapIdx] at hit
  obtain ⟨adm, has, same⟩ := Option.map_eq_some_iff.mp hit
  exact ⟨adm, has, same.symm⟩

omit has in
theorem view_same (adms : next.resources.admissions = sys.resources.admissions) (leases : ∀ i, next.lease i = sys.lease i) :
    next.view read = sys.view read := by
  simp [view, adms, leases]

omit has in
theorem view_appended (read : Admission → LeaseState → α) (adm : Admission) (adms : next.resources.admissions = sys.resources.admissions ++ [adm])
    (leases : ∀ i, next.lease i = sys.lease i) : next.view read = sys.view read ++ [read adm (sys.lease sys.resources.admissions.length)] := by
  simp [view, adms, leases, List.mapIdx_append]

theorem view_set {got : Phase} (adms : next.resources.admissions = sys.resources.admissions.set i { adm with phase := got })
    (others : ∀ q, q ≠ i → next.lease q = sys.lease q) :
    next.view read = (sys.view read).set i (read { adm with phase := got } (next.lease i)) := by
  have inside := (List.getElem?_eq_some_iff.mp has).1
  apply List.ext_getElem?
  intro q
  by_cases here : i = q
  · subst here
    simp [view, adms, inside]
  · simp [view, adms, here, others q (Ne.symm here)]

theorem view_settled {st : LeaseState} (adms : next.resources.admissions = sys.resources.admissions)
    (leases : ∀ q, next.lease q = if q = i then st else sys.lease q) : next.view read = (sys.view read).set i (read adm st) := by
  have same : next.resources.admissions = sys.resources.admissions.set i { adm with phase := adm.phase } := by
    rw [adms]
    exact (Roster.set_same _ _ _ has).symm
  rw [view_set has same (fun q apart => by rw [leases, if_neg apart]), leases, if_pos rfl]

end Views

theorem custody_of {next : System} {owners : List (Nat × Hold)} (same : next.owners = owners) :
    next.custody = ⟨next.resources.concurrency, next.resources.slots, owners⟩ := by
  rw [custody, same]

theorem owner_at (has : sys.resources.admissions[i]? = some adm) :
    sys.owners[i]? = some (adm.slot, holdOf adm.phase (sys.lease i)) := view_at has

section Moves

variable {sys next : System} {call : Call} {rep : Reply}

inductive LeaseMove (sys : System) (own : Nat) : Call → System → Prop where
  | kept (call : Call) (next : System) (same : next.lease own = sys.lease own) (idle : ∀ read, call ≠ .settle own read)
      (late : ∀ out, call = .terminate own out → sys.lease own ≠ .open) : LeaseMove sys own call next
  | opened (next out lease) (took : admittedLease sys own = some lease)
      (new : sys.lease own = .open) (st : next.lease own = .finalizing out .settlingTokens)
      (unchanged : next.resources = sys.resources) : LeaseMove sys own (.terminate own out) next
  | settled (next read lease out prog) (took : admittedLease sys own = some lease) (busy : sys.lease own = .finalizing out prog)
      (fin : FinishOutcome sys.resources read lease out prog next.resources (next.lease own)) : LeaseMove sys own (.settle own read) next

theorem lease_move (ran : step sys call = some (next, rep)) (owner : Nat) : LeaseMove sys owner call next := by
  cases step_outcome ran with
  | resources => exact .kept _ _ (by simp; rfl) (by simp) (by simp)
  | opened i out lease took new =>
    by_cases here : owner = i
    · subst here
      exact .opened _ out lease took new (by simp) rfl
    · refine .kept _ _ (by simp [here]; rfl) (by simp) ?_
      rintro alt ⟨⟩
      exact absurd rfl here
  | joined _ _ _ _ taken =>
    refine .kept _ _ rfl (by simp) ?_
    rintro alt ⟨⟩
    exact taken
  | settled i read lease out prog _ _ took busy fin =>
    by_cases here : owner = i
    · subst here
      exact .settled _ read lease out prog took busy (by rw [lease_set, if_pos rfl]; exact fin)
    · refine .kept _ _ (by simp [here]; rfl) ?_ (by simp)
      rintro alt ⟨⟩
      exact here rfl
  | answered => exact .kept _ _ rfl (by simp) (by simp)

theorem admitted_open (wf : Wellformed sys) (ran : step sys call = some (next, rep))
    {owner : Nat} (new : admittedLease sys owner = none) : next.lease owner = .open := by
  cases lease_move ran owner with
  | kept _ _ same => rw [same, wf.unopened owner new]
  | opened _ _ _ took | settled _ _ _ _ _ took => simp [new] at took

theorem advance_admitted {res after : LeaseSystem} {read : Int} {opts : Resource.ResourceLeaseOptions} {slot : Nat} {phase got : Phase}
    (out : AdvanceOutcome res read opts slot phase after got) :
    after.admissions = res.admissions ∧ (∀ lease, phase ≠ .admitted lease) ∧ ∀ lease, got = .admitted lease → lease.concurrency = slot := by
  cases out with
  | budgetUnasked | budgetReserved =>
    refine ⟨rfl, by simp, ?_⟩
    rintro lease ⟨⟩
    rfl
  | budgetUnknown tokens | budgetRejected tokens =>
    refine ⟨rfl, by simp, ?_⟩
    cases tokens <;> simp [Resource.rollBack]
  | slotSpent | slotReturned =>
    refine ⟨rfl, by simp, ?_⟩
    intro lease got
    unfold Resource.afterSlot at got
    split at got <;> cases got
  | _ => simp

-- One step, seen from one admission.
inductive Turn (sys : System) : Nat → Call → Reply → System → Prop where
  | foreign (own call rep next) (apart : belongs own call rep = false)
      (same : next.resources.admissions[own]? = sys.resources.admissions[own]?) : Turn sys own call rep next
  | entered (call next opts slot) (asked : call = .acquire opts ∨ ∃ slot, call = .acquireWithProvisional slot opts)
      (mine : belongs sys.resources.admissions.length (.resources call) (.resources (.started sys.resources.admissions.length)) = true)
      (tokens : next.resources.tokens = sys.resources.tokens) (budgets : next.resources.budgets = sys.resources.budgets)
      (adms : next.resources.admissions = sys.resources.admissions ++ [⟨opts, slot, .reservingTokens⟩]) :
      Turn sys sys.resources.admissions.length (.resources call) (.resources (.started sys.resources.admissions.length)) next
  | advanced (own read next adm after got) (has : sys.resources.admissions[own]? = some adm)
      (out : AdvanceOutcome sys.resources read adm.options adm.slot adm.phase after got)
      (res : next.resources = { after with admissions := after.admissions.set own { adm with phase := got } })
      (leases : ∀ i, next.lease i = sys.lease i) (due : ∀ lease, adm.phase ≠ .admitted lease)
      (placed : next.resources.admissions[own]? = some { adm with phase := got }) :
      Turn sys own (.resources (.advance own read)) (.resources (.reached got)) next

theorem step_turn (ran : step sys call = some (next, rep)) (own : Nat) : Turn sys own call rep next := by
  cases step_outcome ran with
  | resources _ _ _ _ move =>
    cases move with
    | unlimited | started | adopted =>
      by_cases first : sys.resources.admissions.length = own
      · subst first
        exact .entered _ _ _ _ (by simp) (by simp [belongs]) rfl rfl rfl
      · exact .foreign _ _ _ _ (by simpa [belongs] using first) (by simp [Roster.lookup_append, first])
    | advanced i _ _ has _ _ out =>
      obtain ⟨same, due, _⟩ := advance_admitted out
      by_cases here : i = own
      · subst here
        have inside := (List.getElem?_eq_some_iff.mp has).1
        exact .advanced _ _ _ _ _ _ has out (by simp) (fun i => by simp; rfl) due (by simp [same, inside])
      · exact .foreign _ _ _ _ (by simpa [belongs] using here) (by simp [same, here])
    | _ => exact .foreign _ _ _ _ rfl (by simp [LeaseSystem.addSlot])
  | settled _ _ _ _ _ _ _ _ _ fin => exact .foreign _ _ _ _ rfl (by cases fin <;> rfl)
  | _ => exact .foreign _ _ _ _ rfl rfl

variable {α : Type} {i : Nat} {adm : Admission} {after : LeaseSystem} {got : Phase}

theorem advance_view (read : Admission → LeaseState → α) {reading : Int} (wf : Wellformed sys) (has : sys.resources.admissions[i]? = some adm)
    (out : AdvanceOutcome sys.resources reading adm.options adm.slot adm.phase after got)
    (res : next.resources = { after with admissions := after.admissions.set i { adm with phase := got } })
    (leases : ∀ i, next.lease i = sys.lease i) :
    (sys.view read)[i]? = some (read adm .open) ∧ next.view read = (sys.view read).set i (read { adm with phase := got } .open) := by
  obtain ⟨same, due, _⟩ := advance_admitted out
  have new := pending_open wf has due
  have adms : next.resources.admissions = sys.resources.admissions.set i { adm with phase := got } := by
    rw [res, same]
  have owned : (sys.view read)[i]? = some (read adm (sys.lease i)) := view_at has
  have placed : next.view read = (sys.view read).set i (read { adm with phase := got } (next.lease i)) :=
    view_set has adms (fun query _ => leases query)
  rw [new] at owned
  rw [leases, new] at placed
  exact ⟨owned, placed⟩

theorem opened_view {read : Admission → LeaseState → α} {lease : ResourceLease} {out : LeaseOutcome}
    (took : admittedLease sys i = some lease) (new : sys.lease i = .open)
    (res : next.resources = sys.resources) (leases : ∀ q, next.lease q = if q = i then .finalizing out .settlingTokens else sys.lease q)
    (alike : ∀ adm, read adm (.finalizing out .settlingTokens) = read adm .open) : next.view read = sys.view read := by
  obtain ⟨adm, has, _⟩ := admitted_lease_iff.mp took
  have owned : (sys.view read)[i]? = some (read adm (sys.lease i)) := view_at has
  have set : next.view read = (sys.view read).set i (read adm (.finalizing out .settlingTokens)) :=
    view_settled has (by rw [res]) leases
  rw [set, alike]
  rw [new] at owned
  exact Roster.set_same _ _ _ owned

end Moves

section Steps

variable {sys next : System}

theorem hold_after (err : AdmissionError) (st : LeaseState) : holdOf (Resource.afterSlot err) st = .given := by
  unfold Resource.afterSlot
  split <;> rfl

theorem hold_roll_back (tokens : Option Nat) (err : AdmissionError) (st : LeaseState) : holdOf (Resource.rollBack tokens err) st = .kept := by
  cases tokens <;> rfl

theorem custody_same (concurrency : next.resources.concurrency = sys.resources.concurrency) (slots : next.resources.slots = sys.resources.slots)
    (owners : next.owners = sys.owners) : next.custody = sys.custody := by
  rw [custody, concurrency, slots, owners]
  rfl

variable {after : LeaseSystem} {i : Nat} {adm : Admission} {lease : ResourceLease} {read : Int} {rep : Resource.Reply}
variable {out : LeaseOutcome} {call : Resource.Call} {st : LeaseState} {got : Phase}

variable (wf : Wellformed sys)
include wf

theorem advance_custody (has : sys.resources.admissions[i]? = some adm)
    (out : AdvanceOutcome sys.resources read adm.options adm.slot adm.phase after got)
    (res : next.resources = { after with admissions := after.admissions.set i { adm with phase := got } })
    (leases : ∀ i, next.lease i = sys.lease i) :
    Custody.Move sys.custody (returnedSlot sys (.resources (.advance i read))) next.custody := by
  obtain ⟨owned, placed⟩ : sys.owners[i]? = some (adm.slot, holdOf adm.phase .open) ∧
      next.owners = sys.owners.set i (adm.slot, holdOf got .open) := advance_view _ wf has out res leases
  have quiet : holdOf got .open = holdOf adm.phase .open → next.owners = sys.owners := by
    intro unchanged
    rw [placed, unchanged]
    exact Roster.set_same _ _ _ owned
  generalize phase : adm.phase = cur at out
  have label : (∀ err, cur ≠ .returningSlot err) → returnedSlot sys (.resources (.advance i read)) = none := by
    intro kept
    obtain ⟨opts, slot, start⟩ := adm
    simp only at phase
    subst phase
    cases start <;> simp_all [returnedSlot]
  cases out with
  | budgetUnknown tokens unknown | budgetRejected tokens budgets next err =>
    rw [label (by simp), custody_same (by rw [res]) (by rw [res]) (quiet (by rw [phase, hold_roll_back]; rfl))]
    exact .idle
  | slotSpent _ held there spent =>
    rw [label (by simp), custody_of placed, hold_after, res]
    exact .ownerSpent i adm.slot held (by rw [phase] at owned; exact owned) there spent
  | slotReleased _ held there unspent =>
    rw [label (by simp), custody_of placed, res]
    exact .ownerReleased i adm.slot held (by rw [phase] at owned; exact owned) there unspent
  | slotReturned _ held there =>
    have back : returnedSlot sys (.resources (.advance i read)) = some adm.slot := by
      obtain ⟨_, _, _⟩ := adm
      simp only at phase
      simp [returnedSlot, has, phase]
    rw [back, custody_of placed, hold_after, res]
    exact .ownerReturned i adm.slot held (by rw [phase] at owned; exact owned) there
  | _ =>
    rw [label (by simp), custody_same (by rw [res]) (by rw [res]) (quiet (by rw [phase]; rfl))]
    exact .idle

theorem resource_custody (move : Resource.Move sys.resources call after rep) (res : next.resources = after)
    (leases : ∀ i, next.lease i = sys.lease i) : Custody.Move sys.custody (returnedSlot sys (.resources call)) next.custody := by
  have kept : after.admissions = sys.resources.admissions → next.custody = ⟨after.concurrency, after.slots, sys.owners⟩ := by
    intro same
    rw [custody_of (view_same (by rw [res, same]) leases), res]
    rfl
  have inside : ∀ (opts : Resource.ResourceLeaseOptions) (slot : Nat),
      after.admissions = sys.resources.admissions ++ [⟨opts, slot, .reservingTokens⟩] →
      next.custody = ⟨after.concurrency, after.slots, sys.owners ++ [(slot, .kept)]⟩ := by
    intro opts slot same
    rw [custody_of (view_appended _ ⟨opts, slot, .reservingTokens⟩ (by rw [res, same]) leases), res]
    rfl
  cases move with
  | full key most lim next has acquired =>
    rw [kept rfl]
    exact .crowded key most lim next has acquired
  | crowded _ lim next has acquired =>
    rw [kept rfl]
    exact .crowded _ _ lim next has acquired
  | taken key most lim next lease has acquired =>
    rw [kept rfl]
    exact .taken key most lim next lease has acquired
  | offered lease apart =>
    rw [kept rfl]
    refine .offered lease ?_
    intro lim has own
    change sys.resources.concurrency = some lim at has
    simp [Resource.issuedElsewhere, has, own] at apart
  | released slot held has exposed unspent =>
    rw [kept rfl]
    exact .released slot held has exposed unspent
  | returned slot held has returning =>
    rw [kept rfl]
    exact .returned slot held has returning
  | unlimited opts gone =>
    rw [inside opts sys.resources.slots.length rfl]
    exact .unlimited opts.keyID gone
  | started opts lim next lease has acquired =>
    rw [inside opts sys.resources.slots.length rfl]
    exact .started _ _ lim next lease has acquired
  | adopted slot opts held has exposed unspent =>
    rw [inside opts slot rfl]
    exact .adopted slot held has exposed unspent
  | advanced _ _ _ has _ _ out =>
    exact advance_custody wf has out res leases
  | _ =>
    rw [kept rfl]
    exact .idle

variable (took : admittedLease sys i = some lease)
include took

theorem finish_custody {prog : Progress} (busy : sys.lease i = .finalizing out prog)
    (fin : FinishOutcome sys.resources read lease out prog after st) (res : next.resources = after)
    (leases : ∀ q, next.lease q = if q = i then st else sys.lease q) :
    Custody.Move sys.custody (returnedSlot sys (.settle i read)) next.custody := by
  obtain ⟨adm, has, phase⟩ := admitted_lease_iff.mp took
  have named := wf.named i adm lease has phase
  have owned := owner_at has
  rw [phase, busy] at owned
  have placed : after.admissions = sys.resources.admissions → next.owners = sys.owners.set i (adm.slot, st.hold) := by
    intro same
    have set : next.owners = sys.owners.set i (adm.slot, holdOf adm.phase st) :=
      view_settled has (by rw [res, same]) leases
    rw [set, phase]
    rfl
  have quiet : after.admissions = sys.resources.admissions → st.hold = (LeaseState.finalizing out prog).hold → next.owners = sys.owners := by
    intro same unchanged
    rw [placed same, unchanged]
    exact Roster.set_same _ _ _ owned
  cases fin with
  | tokensAbsent | tokensSettled | budgetAbsent | budgetSettled | published =>
    have label : returnedSlot sys (.settle i read) = none := by simp [returnedSlot, took, busy]
    rw [label, custody_same (by rw [res]) (by rw [res]) (quiet rfl rfl)]
    exact .idle
  | slotSpent _ held there spent =>
    have label : returnedSlot sys (.settle i read) = none := by simp [returnedSlot, took, busy]
    rw [label, custody_of (placed rfl), res]
    rw [named] at there
    exact .ownerSpent i adm.slot held owned there spent
  | slotReleased _ held there unspent =>
    have label : returnedSlot sys (.settle i read) = none := by simp [returnedSlot, took, busy]
    rw [label, custody_of (placed rfl), res]
    rw [named] at there ⊢
    exact .ownerReleased i adm.slot held owned there unspent
  | slotReturned _ held there =>
    have label : returnedSlot sys (.settle i read) = some adm.slot := by simp [returnedSlot, took, busy, named]
    rw [label, custody_of (placed rfl), res]
    rw [named] at there
    exact .ownerReturned i adm.slot held owned there

omit wf in
theorem opened_custody (new : sys.lease i = .open) (res : next.resources = sys.resources)
    (leases : ∀ q, next.lease q = if q = i then .finalizing out .settlingTokens else sys.lease q) : next.custody = sys.custody := by
  refine custody_same (by rw [res]) (by rw [res]) (opened_view took new res leases (fun adm => ?_))
  cases adm.phase <;> rfl

omit took in
theorem step_custody {call : Call} {rep : Reply} (ran : step sys call = some (next, rep)) :
    Custody.Move sys.custody (returnedSlot sys call) next.custody := by
  cases step_outcome ran with
  | resources _ _ _ _ move =>
    exact resource_custody wf move (by simp) (fun i => by simp; rfl)
  | opened i out _ took new =>
    have same : (setLease { sys with callers := sys.callers ++ [⟨i, none⟩] } i
        (.finalizing out .settlingTokens)).custody = sys.custody := opened_custody took new rfl (lease_set _ i · _)
    rw [same]
    exact .idle
  | joined | answered => exact .idle
  | settled i _ _ _ _ _ st took busy fin =>
    exact finish_custody wf took busy fin rfl (lease_set _ i · st)

omit took in
theorem wellformed_step {call : Call} {rep : Reply} (ran : step sys call = some (next, rep)) : Wellformed next := by
  refine ⟨?_, ?_⟩
  · intro i adm lease hit phase
    cases step_turn ran i with
    | foreign _ _ _ _ _ same => exact wf.named i adm lease (same ▸ hit) phase
    | entered _ _ _ _ _ _ _ _ adms =>
      obtain rfl : _ = adm := by simpa [adms] using hit
      cases phase
    | advanced _ _ _ _ _ _ _ out _ _ _ placed =>
      cases placed.symm.trans hit
      exact (advance_admitted out).2.2 lease phase
  · intro i gone
    refine admitted_open wf ran ?_
    cases step_turn ran i with
    | foreign _ _ _ _ _ same => simpa only [admittedLease, same] using gone
    | entered => simp [admittedLease]
    | advanced _ _ _ _ _ _ has _ _ _ due => exact pending_unadmitted has due

end Steps

end NineGateway.Lifecycle
