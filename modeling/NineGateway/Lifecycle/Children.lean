import NineGateway.Budget.Conservation
import NineGateway.Lifecycle.Slots
import NineGateway.Lifecycle.Wards
import NineGateway.Token.Conservation

set_option autoImplicit false

namespace NineGateway.Lifecycle

open Resource (LeaseSystem ResourceLease Admission Phase AdvanceOutcome)
open Token (TokenSystem)
open Budget (BudgetSystem)
open Wards Token.TokenReservation

def tokenChild : Phase → Option Nat
  | .reservingBudget tokens => tokens
  | .releasingTokens index _ => some index
  | .admitted lease => lease.tokens
  | _ => none

def budgetChild : Phase → Option Nat
  | .admitted lease => lease.budget
  | _ => none

def LeaseState.tokensSettled : LeaseState → Bool
  | .open => false
  | .finalizing _ .settlingTokens => false
  | _ => true

def LeaseState.budgetSettled : LeaseState → Bool
  | .open => false
  | .finalizing _ .settlingTokens => false
  | .finalizing _ (.settlingBudget _ _) => false
  | _ => true

def wardOf (child : Option Nat) (paid : Bool) : Option Nat × Bool := (child, child.isSome && paid)

def tokenFlags (tokens : Option TokenSystem) : List Bool := (tokens.map (fun system =>
    system.reservations.map Token.TokenReservation.finalized)).getD []

def budgetFlags (budgets : Option BudgetSystem) : List Bool :=
  (budgets.map (fun system => system.reservations.map Budget.BudgetReservation.finalized)).getD []

def tokenWard (adm : Admission) (st : LeaseState) : Option Nat × Bool := wardOf (tokenChild adm.phase) st.tokensSettled

def budgetWard (adm : Admission) (st : LeaseState) : Option Nat × Bool := wardOf (budgetChild adm.phase) st.budgetSettled

def System.tokenWards (sys : System) : Wards :=
  { settled := tokenFlags sys.resources.tokens, handles := sys.tokenHandles, owners := sys.view tokenWard }

def System.budgetWards (sys : System) : Wards :=
  { settled := budgetFlags sys.resources.budgets, handles := sys.budgetHandles, owners := sys.view budgetWard }

inductive Event where
  | quiet
  | reserved (i : Nat)
  | settled (i : Nat)
deriving DecidableEq, Repr

def tokenEvent : Token.Call → Token.Reply → Event
  | .finalize index _ _, _ => .settled index
  | _, ⟨.reserved index, _⟩ => .reserved index
  | _, _ => .quiet

def budgetEvent : Budget.Call → Budget.Reply → Event
  | .finalize index _, _ => .settled index
  | _, ⟨.reserved index, _⟩ => .reserved index
  | _, _ => .quiet

inductive Flagged (flags : List Bool) : Event → List Bool → Prop where
  | quiet : Flagged flags .quiet flags
  | reserved : Flagged flags (.reserved flags.length) (flags ++ [false])
  | settled (i) (inside : i < flags.length) : Flagged flags (.settled i) (flags.set i true)

open Lifecycle.System

variable {flags later : List Bool} {rep : Budget.Reply} {call : Budget.Call} {sys : System} {i : Nat}

theorem flagged_quiet (flag : Flagged flags .quiet later) : later = flags := by
  cases flag
  rfl

-- What the reservations of the two limiters have in common: whether one is
-- settled, whether its ticket is used up, and what an adjustment may change.
structure Book (α : Type) where
  done : α → Bool
  mark : α → Option Bool
  edit : α → α → Prop

inductive Booked {α : Type} (book : Book α) (pre : List α) : Event → List α → Prop where
  | quiet : Booked book pre .quiet pre
  | reserved (new) (undone : book.done new = false) : Booked book pre (.reserved pre.length) (pre ++ [new])
  | settled (i old new) (has : pre[i]? = some old) (closed : book.done new = true) (unmarked : new = old ∨ book.mark old = none) :
      Booked book pre (.settled i) (pre.set i new)
  | edited (i old new) (has : pre[i]? = some old) (edits : book.edit old new) (same : book.done new = book.done old)
      (marked : ∃ later, book.mark new = some later ∧ (book.mark old = some true → later = true)) : Booked book pre .quiet (pre.set i new)

section Booking

variable {α : Type} {book : Book α} {pre after : List α} {event : Event}

theorem booked_flagged (booked : Booked book pre event after) : Flagged (pre.map book.done) event (after.map book.done) := by
  cases booked with
  | quiet => exact .quiet
  | reserved new undone =>
    rw [List.map_append, List.map_singleton, undone, ← List.length_map (f := book.done)]
    exact .reserved
  | settled i _ _ has closed =>
    rw [List.map_set, closed]
    exact .settled i (by simpa using (List.getElem?_eq_some_iff.mp has).1)
  | edited _ _ _ has _ same =>
    rw [List.map_set, Roster.set_same _ _ _ (by simp [has, same])]
    exact .quiet

theorem booked_entry {i : Nat} {old : α} (booked : Booked book pre event after) (has : pre[i]? = some old) (spared : event ≠ .settled i) :
    ∃ later, after[i]? = some later ∧ (later = old ∨ book.edit old later) := by
  cases booked with
  | quiet => exact ⟨old, has, .inl rfl⟩
  | reserved => exact ⟨old, Roster.entry_kept has _, .inl rfl⟩
  | settled alt =>
    have apart : alt ≠ i := fun same => spared (by rw [same])
    exact ⟨old, by rw [List.getElem?_set_ne apart, has], .inl rfl⟩
  | edited _ _ new there edits => exact Roster.entry_set (fun old new => new = old ∨ book.edit old new) has there new (.inl rfl) (.inr edits)

theorem booked_reserved {i : Nat} (booked : Booked book pre (.reserved i) after) : ∃ new, after = pre ++ [new] ∧ i = pre.length := by
  cases booked with
  | reserved new => exact ⟨new, rfl, rfl⟩

end Booking

section Tokens

variable {tokens next : TokenSystem} {call : Token.Call} {rep : Token.Reply}

def tokenBook : Book Token.TokenReservation :=
  ⟨finalized, fun hold => hold.ticket.map Token.TokenAdjustmentTicket.consumed, fun old new => ∃ ticket, new = old.withTicket ticket⟩

def tokenHolds (tokens : Option TokenSystem) : List Token.TokenReservation := (tokens.map TokenSystem.reservations).getD []

theorem token_event_quiet (alt : ∀ i read term, call ≠ .finalize i read term)
    (ans : ∀ i, rep.answer ≠ .reserved i) : tokenEvent call rep = .quiet := by
  obtain ⟨told, ds⟩ := rep
  cases call <;> cases told <;> simp_all [tokenEvent]

theorem token_booked (ok : tokens.Sound) (ran : Token.step tokens call = some (next, rep)) :
    Booked tokenBook tokens.reservations (tokenEvent call rep) next.reservations := by
  by_cases term : ∃ i read term, call = .finalize i read term
  · obtain ⟨i, read, way, rfl⟩ := term
    cases has : tokens.reservations[i]? with
    | none => simp [Token.step, has] at ran
    | some hold =>
      simp only [Token.step, has] at ran
      cases ran
      cases fin : hold.finalized with
      | true => exact .settled i hold _ has (by simp [Token.finalizeOnce, fin, tokenBook]) (.inl (by simp [Token.finalizeOnce, fin]))
      | false =>
        have unissued := (ok hold (List.mem_of_getElem? has)).untouched fin
        exact .settled i hold _ has (by simp [Token.finalizeOnce, fin, tokenBook, close]) (.inr (by simp [tokenBook, unissued]))
  have alt : ∀ i read term, call ≠ .finalize i read term := fun i read way same => term ⟨i, read, way, same⟩
  cases Token.step_outcome ok ran with
  | quiet _ _ _ out new =>
    rw [token_event_quiet alt new]
    cases out <;> exact .quiet
  | loaded _ _ _ err =>
    rw [token_event_quiet alt (by cases err <;> simp [Token.quietly, Token.answerFor])]
    exact .quiet
  | reserved _ _ _ _ _ hold out => exact .reserved hold (by cases out <;> rfl)
  | finalized | finalizedAgain => exact absurd rfl (alt _ _ _)
  | ticketed _ i hold ticket _ used _ has issued use =>
    have spent := (Token.use_consumes use ((ok hold (List.mem_of_getElem? has)).ticketDistinct ticket issued)).1
    cases use <;> exact .edited i hold _ has ⟨_, rfl⟩ rfl ⟨_, rfl, fun _ => spent⟩

theorem token_flags (tokens : Option TokenSystem) : tokenFlags tokens = (tokenHolds tokens).map finalized := by
  cases tokens <;> rfl

theorem token_holds_at (tokens : Option TokenSystem) (i : Nat) :
    tokens.bind (fun system => system.reservations[i]?) = (tokenHolds tokens)[i]? := by
  cases tokens <;> rfl

theorem token_flagged {held : Option TokenSystem} (ok : tokens.Sound) (there : held = some tokens)
    (ran : Token.step tokens call = some (next, rep)) : Flagged (tokenFlags held) (tokenEvent call rep) (tokenFlags (some next)) := by
  subst there
  exact booked_flagged (token_booked ok ran)

end Tokens

section Budgets

variable {budgets next : BudgetSystem} {call : Budget.Call} {rep : Budget.Reply}

def budgetBook : Book Budget.BudgetReservation :=
  ⟨Budget.BudgetReservation.finalized, fun hold => hold.ticket.map Budget.BudgetAdjustmentTicket.consumed,
    fun old new => ∃ ticket, new = old.withTicket ticket⟩

def budgetHolds (budgets : Option BudgetSystem) : List Budget.BudgetReservation := (budgets.map BudgetSystem.reservations).getD []

theorem budget_booked (ok : budgets.Sound) (ran : Budget.step budgets call = some (next, rep)) :
    Booked budgetBook budgets.reservations (budgetEvent call rep) next.reservations := by
  cases Budget.step_outcome ok ran with
  | loaded _ _ _ err => cases err <;> exact .quiet
  | registered | replaceRefused | replaceOpened | replaceAborted | replaceCommitted | reserveFailed | adjustIdle | invalidateIdle | ticked =>
    exact .quiet
  | reserved _ _ _ _ _ _ hold out => exact .reserved hold (by cases out <;> rfl)
  | finalizedAgain i _ hold has fin =>
    have settled : Booked budgetBook budgets.reservations (.settled i) (budgets.reservations.set i hold) := .settled i hold hold has fin (.inl rfl)
    rwa [Roster.set_same _ _ _ has] at settled
  | finalized i _ hold has new =>
    have unissued := (ok hold (List.mem_of_getElem? has)).untouched new
    exact .settled i hold _ has rfl (.inr (by simp [budgetBook, unissued]))
  | adjusted i actual hold _ has _ _ adj out =>
    have quiet : budgetEvent (.adjust i actual) ⟨Budget.answerFor adj.ticket.resultErr, adj.deltas⟩ = .quiet := by
      cases adj.ticket.resultErr <;> rfl
    rw [quiet]
    exact .edited i hold _ has ⟨adj.ticket, rfl⟩ rfl ⟨adj.ticket.consumed, rfl, fun _ => Budget.adjust_consumed out⟩
  | invalidated i hold ticket has => exact .edited i hold _ has ⟨Budget.invalidate ticket, rfl⟩ rfl ⟨true, rfl, fun _ => rfl⟩

theorem budget_flags (budgets : Option BudgetSystem) : budgetFlags budgets = (budgetHolds budgets).map Budget.BudgetReservation.finalized := by
  cases budgets <;> rfl

theorem budget_holds_at (budgets : Option BudgetSystem) (i : Nat) :
    budgets.bind (fun system => system.reservations[i]?) = (budgetHolds budgets)[i]? := by
  cases budgets <;> rfl

theorem budget_flagged {held : Option BudgetSystem} (ok : budgets.Sound) (there : held = some budgets)
    (ran : Budget.step budgets call = some (next, rep)) : Flagged (budgetFlags held) (budgetEvent call rep) (budgetFlags (some next)) := by
  subst there
  exact booked_flagged (budget_booked ok ran)

end Budgets

def settledTokens (system : System) : Call → Option Nat
  | .settle index _ =>
    match admittedLease system index, system.lease index with
    | some lease, .finalizing _ .settlingTokens => lease.tokens.map (fun _ => index)
    | _, _ => none
  | _ => none

def settledBudget (system : System) : Call → Option Nat
  | .settle index _ =>
    match admittedLease system index, system.lease index with
    | some lease, .finalizing _ (.settlingBudget _ _) => lease.budget.map (fun _ => index)
    | _, _ => none
  | _ => none

def handedTokens : Resource.Reply → List Nat
  | .tokens ⟨.reserved index, _⟩ => [index]
  | _ => []

def handedBudget : Resource.Reply → List Nat
  | .budget ⟨.reserved index, _⟩ => [index]
  | _ => []

-- The two kinds of reservation a lease owns.
inductive Kind where
  | tokens
  | budget
deriving DecidableEq, Repr

def Kind.marks : Kind → LeaseSystem → List Bool
  | tokens, res => tokenFlags res.tokens
  | budget, res => budgetFlags res.budgets

def Kind.child : Kind → Phase → Option Nat
  | tokens => tokenChild
  | budget => budgetChild

def Kind.paid : Kind → LeaseState → Bool
  | tokens => LeaseState.tokensSettled
  | budget => LeaseState.budgetSettled

def Kind.ward (kind : Kind) (adm : Admission) (st : LeaseState) : Option Nat × Bool := wardOf (kind.child adm.phase) (kind.paid st)

def Kind.handles : Kind → System → List Nat
  | tokens => System.tokenHandles
  | budget => System.budgetHandles

def Kind.handed : Kind → Resource.Reply → List Nat
  | tokens => handedTokens
  | budget => handedBudget

def Kind.settled : Kind → System → Call → Option Nat
  | tokens => settledTokens
  | budget => settledBudget

def Kind.wards (kind : Kind) (sys : System) : Wards := ⟨kind.marks sys.resources, kind.handles sys, sys.view kind.ward⟩

-- What a step of an admission does to the reservation it owns.
inductive Change (flags : List Bool) : Option Nat → List Bool → Option Nat → Prop where
  | same (child : Option Nat) : Change flags child flags child
  | taken : Change flags none (flags ++ [false]) (some flags.length)
  | left (i : Nat) : Change flags (some i) (flags.set i true) none

def Event.handed : Event → List Nat
  | .reserved index => [index]
  | _ => []

theorem flagged_outside {event : Event} {handles : List Nat} (owners : List (Option Nat × Bool)) (flag : Flagged flags event later)
    (named : ∀ i, event = .settled i → i ∈ handles) : Move ⟨flags, handles, owners⟩ none ⟨later, handles ++ event.handed, owners⟩ := by
  cases flag with
  | quiet =>
    simp only [Event.handed, List.append_nil]
    exact .idle
  | reserved => exact .reserved
  | settled i =>
    simp only [Event.handed, List.append_nil]
    exact .settledOutside i (named i rfl)

theorem handed_tokens_event {tokens next : TokenSystem} {call : Token.Call} {rep : Token.Reply}
    (ran : Token.step tokens call = some (next, rep)) : handedTokens (.tokens rep) = (tokenEvent call rep).handed := by
  obtain ⟨ans, _⟩ := rep
  cases call with
  | finalize =>
    simp only [Token.step] at ran
    split at ran
    · cases ran
    · simp only [Option.some.injEq, Prod.mk.injEq, Token.Reply.mk.injEq] at ran
      rw [← ran.2.1]
      rfl
  | _ => cases ans <;> rfl

theorem handed_budget_event {budgets next : BudgetSystem}
    (ran : Budget.step budgets call = some (next, rep)) : handedBudget (.budget rep) = (budgetEvent call rep).handed := by
  obtain ⟨ans, _⟩ := rep
  cases call with
  | finalize =>
    simp only [Budget.step] at ran
    split at ran
    · cases ran
    · simp only [Option.some.injEq, Prod.mk.injEq, Budget.Reply.mk.injEq] at ran
      rw [← ran.2.1]
      rfl
  | _ => cases ans <;> rfl

theorem permitted_tokens {call : Token.Call} {rep : Token.Reply} (may : sys.permits (.tokenCall call) = true)
    (settles : tokenEvent call rep = .settled i) : i ∈ sys.tokenHandles := by
  obtain ⟨ans, _⟩ := rep
  cases call with
  | finalize =>
    cases settles
    exact of_decide_eq_true may
  | _ => cases ans <;> cases settles

theorem permitted_budget (may : sys.permits (.budgetCall call) = true)
    (settles : budgetEvent call rep = .settled i) : i ∈ sys.budgetHandles := by
  obtain ⟨ans, _⟩ := rep
  cases call with
  | finalize =>
    cases settles
    exact of_decide_eq_true may
  | _ => cases ans <;> cases settles

theorem hand_handles (sys : System) (rep : Resource.Reply) (kind : Kind) : kind.handles (sys.hand rep) = kind.handles sys ++ kind.handed rep := by
  unfold hand
  cases kind <;> split <;> simp_all [Kind.handles, Kind.handed, handedTokens, handedBudget]

section Refinement

variable {sys next : System}

theorem roll_back_child (tokens : Option Nat) (err : Resource.AdmissionError) :
    tokenChild (Resource.rollBack tokens err) = tokens ∧ budgetChild (Resource.rollBack tokens err) = none := by
  cases tokens <;> exact ⟨rfl, rfl⟩

theorem after_slot_child (err : Resource.AdmissionError) :
    tokenChild (Resource.afterSlot err) = none ∧ budgetChild (Resource.afterSlot err) = none := by
  unfold Resource.afterSlot
  split <;> exact ⟨rfl, rfl⟩

variable {after : LeaseSystem} {i : Nat} {reading : Int} {out : LeaseOutcome} {adm : Admission} {lease : ResourceLease}
variable {got : Phase} {rep : Resource.Reply} {call : Resource.Call} {prog : Progress} {st : LeaseState} {α : Type}

variable {kind : Kind} (tokensOk : ∀ tokens, sys.resources.tokens = some tokens → tokens.Sound)
  (budgetsOk : ∀ budgets, sys.resources.budgets = some budgets → budgets.Sound)

include tokensOk in
theorem token_change {opts : Resource.ResourceLeaseOptions} {slot : Nat} {phase : Phase}
    (out : AdvanceOutcome sys.resources reading opts slot phase after got) :
    Change (tokenFlags sys.resources.tokens) (tokenChild phase) (tokenFlags after.tokens) (tokenChild got) := by
  cases out with
  | tokensReserved tokens after _ _ there ran =>
    have flag := token_flagged (tokensOk tokens there) there ran
    generalize tokenFlags (some after) = flags at flag ⊢
    cases flag with
    | reserved => exact .taken
  | tokensRejected tokens _ _ _ there ran =>
    have flag := token_flagged (tokensOk tokens there) there ran
    simp only [flagged_quiet flag]
    exact .same _
  | budgetUnknown tokens | budgetRejected tokens =>
    rw [(roll_back_child tokens _).1]
    exact .same _
  | tokensReleased _ after child _ _ there ran =>
    have flag := token_flagged (tokensOk _ there) there ran
    generalize tokenFlags (some after) = flags at flag ⊢
    cases flag with
    | settled => exact .left child
  | slotSpent | slotReturned =>
    rw [(after_slot_child _).1]
    exact .same _
  | _ => exact .same _

include budgetsOk in
theorem budget_change {opts : Resource.ResourceLeaseOptions} {slot : Nat} {phase : Phase}
    (out : AdvanceOutcome sys.resources reading opts slot phase after got) :
    Change (budgetFlags sys.resources.budgets) (budgetChild phase) (budgetFlags after.budgets) (budgetChild got) := by
  cases out with
  | budgetUnknown tokens =>
    rw [(roll_back_child tokens _).2]
    exact .same _
  | budgetReserved _ budgets after _ _ there _ ran =>
    have flag := budget_flagged (budgetsOk budgets there) there ran
    generalize budgetFlags (some after) = flags at flag ⊢
    cases flag with
    | reserved => exact .taken
  | budgetRejected tokens budgets _ _ _ there ran =>
    have flag := budget_flagged (budgetsOk budgets there) there ran
    rw [(roll_back_child tokens _).2]
    simp only [flagged_quiet flag]
    exact .same _
  | slotSpent | slotReturned =>
    rw [(after_slot_child _).2]
    exact .same _
  | retryTimed _ budgets _ _ there ran =>
    have flag := budget_flagged (budgetsOk budgets there) there ran
    cases ran
    simp only [flagged_quiet flag]
    exact .same _
  | _ => exact .same _

include tokensOk budgetsOk

theorem advance_wards (wf : Wellformed sys) (has : sys.resources.admissions[i]? = some adm)
    (out : AdvanceOutcome sys.resources reading adm.options adm.slot adm.phase after got)
    (res : next.resources = { after with admissions := after.admissions.set i { adm with phase := got } })
    (leases : ∀ i, next.lease i = sys.lease i) (handles : kind.handles next = kind.handles sys) :
    Move (kind.wards sys) none (kind.wards next) := by
  obtain ⟨owned, view⟩ := advance_view kind.ward wf has out res leases
  have change : Change (kind.marks sys.resources) (kind.child adm.phase) (kind.marks after) (kind.child got) := by
    cases kind with
    | tokens => exact token_change tokensOk out
    | budget => exact budget_change budgetsOk out
  have marks : kind.marks next.resources = kind.marks after := by cases kind <;> rw [res] <;> rfl
  have unpaid : kind.paid .open = false := by cases kind <;> rfl
  simp only [Kind.ward, unpaid] at owned view
  rw [Kind.wards, Kind.wards, handles, view, marks]
  generalize kind.marks after = later at change ⊢
  generalize kind.child adm.phase = child at change owned
  generalize kind.child got = now at change ⊢
  cases change with
  | same =>
    rw [Roster.set_same _ _ _ owned]
    exact .idle
  | taken => exact .taken i owned
  | left child => exact .abandoned i child owned

theorem resource_wards (wf : Wellformed sys) (may : sys.permits call = true) (move : Resource.Move sys.resources call after rep)
    (res : next.resources = after) (leases : ∀ i, next.lease i = sys.lease i)
    (handles : kind.handles next = kind.handles sys ++ kind.handed rep) : Move (kind.wards sys) none (kind.wards next) := by
  have kept : kind.handed rep = [] → kind.marks after = kind.marks sys.resources → after.admissions = sys.resources.admissions →
      Move (kind.wards sys) none (kind.wards next) := by
    intro handed flags adms
    have view : next.view kind.ward = sys.view kind.ward := view_same (by rw [res, adms]) leases
    rw [Kind.wards, Kind.wards, view, res, flags, handles, handed, List.append_nil]
    exact .idle
  have inside : ∀ (opts : Resource.ResourceLeaseOptions) (slot : Nat), kind.handed rep = [] → kind.marks after = kind.marks sys.resources →
      after.admissions = sys.resources.admissions ++ [⟨opts, slot, .reservingTokens⟩] → Move (kind.wards sys) none (kind.wards next) := by
    intro opts slot handed flags adms
    have vacant : kind.ward ⟨opts, slot, .reservingTokens⟩ (sys.lease sys.resources.admissions.length) = (none, false) := by cases kind <;> rfl
    have view := view_appended kind.ward ⟨opts, slot, .reservingTokens⟩ (by rw [res, adms]) leases
    rw [Kind.wards, Kind.wards, view, vacant, res, flags, handles, handed, List.append_nil]
    exact .entered
  have flagged : ∀ {event : Event}, Flagged (kind.marks sys.resources) event (kind.marks after) → kind.handed rep = event.handed →
      (∀ i, event = .settled i → i ∈ kind.handles sys) → after.admissions = sys.resources.admissions →
      Move (kind.wards sys) none (kind.wards next) := by
    intro event flag handed named adms
    have view : next.view kind.ward = sys.view kind.ward := view_same (by rw [res, adms]) leases
    rw [Kind.wards, Kind.wards, view, res, handles, handed]
    exact flagged_outside _ flag named
  cases move with
  | unlimited | started | adopted => exact inside _ _ (by cases kind <;> rfl) (by cases kind <;> rfl) rfl
  | advanced _ _ _ has _ _ out =>
    refine advance_wards tokensOk budgetsOk wf has out res leases (handles.trans ?_)
    cases kind <;> exact List.append_nil _
  | tokens _ tokens after _ there ran =>
    cases kind with
    | tokens =>
      have flag := token_flagged (tokensOk tokens there) there ran
      exact flagged flag (handed_tokens_event ran) (fun _ => permitted_tokens may) rfl
    | budget => exact kept rfl rfl rfl
  | budgets _ budgets after _ there ran =>
    cases kind with
    | tokens => exact kept rfl rfl rfl
    | budget =>
      have flag := budget_flagged (budgetsOk budgets there) there ran
      exact flagged flag (handed_budget_event ran) (fun _ => permitted_budget may) rfl
  | _ => exact kept (by cases kind <;> rfl) (by cases kind <;> rfl) rfl

theorem finish_wards (took : admittedLease sys i = some lease) (busy : sys.lease i = .finalizing out prog)
    (fin : FinishOutcome sys.resources reading lease out prog after st) (res : next.resources = after)
    (leases : ∀ q, next.lease q = if q = i then st else sys.lease q) (handles : kind.handles next = kind.handles sys) :
    Move (kind.wards sys) (kind.settled sys (.settle i reading)) (kind.wards next) := by
  obtain ⟨adm, has, phase⟩ := admitted_lease_iff.mp took
  have owned : (sys.view kind.ward)[i]? = some (kind.ward adm (sys.lease i)) := view_at has
  rw [Kind.ward, phase, busy] at owned
  have placed : after.admissions = sys.resources.admissions → kind.wards next =
      ⟨kind.marks after, kind.handles sys, (sys.view kind.ward).set i (wardOf (kind.child (.admitted lease)) (kind.paid st))⟩ := by
    intro same
    have view : next.view kind.ward = (sys.view kind.ward).set i (kind.ward adm st) := view_settled has (by rw [res, same]) leases
    rw [Kind.wards, view, res, handles, Kind.ward, phase]
  have quiet : after.admissions = sys.resources.admissions → kind.marks after = kind.marks sys.resources →
      wardOf (kind.child (.admitted lease)) (kind.paid st) = wardOf (kind.child (.admitted lease)) (kind.paid (.finalizing out prog)) →
      kind.settled sys (.settle i reading) = none → Move (kind.wards sys) (kind.settled sys (.settle i reading)) (kind.wards next) := by
    intro same flags ward label
    rw [label, placed same, flags, ward, Roster.set_same _ _ _ owned]
    exact .idle
  have settles : ∀ child, kind.child (.admitted lease) = some child → kind.paid (.finalizing out prog) = false → kind.paid st = true →
      after.admissions = sys.resources.admissions → Flagged (kind.marks sys.resources) (.settled child) (kind.marks after) →
      kind.settled sys (.settle i reading) = some i → Move (kind.wards sys) (kind.settled sys (.settle i reading)) (kind.wards next) := by
    intro child mine unpaid paid same flag label
    rw [label, placed same, mine, paid]
    rw [mine, unpaid] at owned
    generalize kind.marks after = flags at flag ⊢
    cases flag with
    | settled => exact .settledBy i child owned
  cases fin with
  | tokensAbsent gone =>
    refine quiet rfl rfl ?_ ?_ <;> cases kind <;> simp [Kind.child, Kind.paid, Kind.settled, tokenChild, settledTokens,
      settledBudget, wardOf, took, busy, gone]
    rfl
  | tokensSettled child _ after _ _ mine there ran =>
    cases kind with
    | tokens =>
      have flag := token_flagged (tokensOk _ there) there ran
      exact settles child mine rfl rfl rfl flag (by simp [Kind.settled, settledTokens, took, busy, mine])
    | budget => exact quiet rfl rfl rfl (by simp [Kind.settled, settledBudget, took, busy])
  | budgetAbsent _ _ gone =>
    refine quiet rfl rfl ?_ ?_ <;> cases kind <;> simp [Kind.child, Kind.paid, Kind.settled, budgetChild, settledTokens,
      settledBudget, wardOf, took, busy, gone]
    rfl
  | budgetSettled _ _ child budgets after _ _ mine there ran =>
    cases kind with
    | tokens => exact quiet rfl rfl rfl (by simp [Kind.settled, settledTokens, took, busy])
    | budget =>
      have flag := budget_flagged (budgetsOk budgets there) there ran
      exact settles child mine rfl rfl rfl flag (by simp [Kind.settled, settledBudget, took, busy, mine])
  | _ => refine quiet rfl ?_ ?_ ?_ <;> cases kind <;> first | rfl | simp [Kind.settled, settledTokens, settledBudget, took, busy]

theorem step_wards {call : Call} {rep : Reply} (wf : Wellformed sys) (ran : step sys call = some (next, rep)) (kind : Kind) :
    Move (kind.wards sys) (kind.settled sys call) (kind.wards next) := by
  have quiet : ∀ {next : System}, kind.settled sys call = none → kind.wards next = kind.wards sys →
      Move (kind.wards sys) (kind.settled sys call) (kind.wards next) := by
    intro next label same
    rw [label, same]
    exact .idle
  cases step_outcome ran with
  | resources _ _ _ may move =>
    rw [show kind.settled sys _ = none by cases kind <;> rfl]
    refine resource_wards tokensOk budgetsOk wf may move (by simp) (fun i => by simp; rfl) ((hand_handles _ _ kind).trans ?_)
    cases kind <;> rfl
  | opened i out _ took new =>
    have same : (setLease { sys with callers := sys.callers ++ [⟨i, none⟩] } i (.finalizing out .settlingTokens)).view kind.ward =
        sys.view kind.ward := opened_view took new rfl (lease_set _ i · _) (fun _ => by cases kind <;> rfl)
    refine quiet (by cases kind <;> rfl) ?_
    rw [Kind.wards, same]
    cases kind <;> rfl
  | joined | answered => exact quiet (by cases kind <;> rfl) (by cases kind <;> rfl)
  | settled i _ _ _ _ _ st took busy fin =>
    exact finish_wards tokensOk budgetsOk took busy fin rfl (lease_set _ i · st) (by cases kind <;> rfl)

end Refinement

inductive TokenMade (sys : System) : Call → Token.Call → Prop where
  | outside (call : Token.Call) (may : sys.permits (.tokenCall call) = true) : TokenMade sys (.resources (.tokenCall call)) call
  | reserving (i read adm) (there : sys.resources.admissions[i]? = some adm) :
      TokenMade sys (.resources (.advance i read)) (.reserve read adm.options.keyID adm.options.tokenWindows adm.options.tokenAmount)
  | releasing (i read adm child) (there : sys.resources.admissions[i]? = some adm) (mine : tokenChild adm.phase = some child) :
      TokenMade sys (.resources (.advance i read)) (.finalize child read .releaseBeforeUpstream)
  | settling (i read adm child term) (there : sys.resources.admissions[i]? = some adm) (mine : tokenChild adm.phase = some child) :
      TokenMade sys (.settle i read) (.finalize child read term)

inductive BudgetMade (sys : System) : Call → Budget.Call → Prop where
  | outside (call : Budget.Call) (may : sys.permits (.budgetCall call) = true) : BudgetMade sys (.resources (.budgetCall call)) call
  | reserving (i read adm) (there : sys.resources.admissions[i]? = some adm) :
      BudgetMade sys (.resources (.advance i read)) (.reserve read adm.options.keyID adm.options.budgetPolicy adm.options.budgetCandidate)
  | timing (i read) : BudgetMade sys (.resources (.advance i read)) (.retryAfter read)
  | settling (i read adm child term) (there : sys.resources.admissions[i]? = some adm) (mine : budgetChild adm.phase = some child) :
      BudgetMade sys (.settle i read) (.finalize child term)

section Acts

variable {sys next : System} {call : Call} {rep : Reply}

theorem step_token_act (ran : step sys call = some (next, rep)) :
    Transition.Within Token.step (TokenMade sys call) sys.resources.tokens next.resources.tokens := by
  cases step_outcome ran with
  | resources call after ans may move =>
    rw [hand_resources]
    cases move with
    | tokens _ _ _ _ has did => exact .acted _ _ _ _ has (.outside _ may) did
    | advanced i read adm there after _ out =>
      generalize phase : adm.phase = current at out
      cases out with
      | tokensReserved _ _ _ _ has did | tokensRejected _ _ _ _ has did => exact .acted _ _ _ _ has (.reserving i read adm there) did
      | tokensReleased _ _ child _ _ has did => exact .acted _ _ _ _ has (.releasing i read adm child there (by rw [phase]; rfl)) did
      | _ => exact .idle
    | _ => exact .idle
  | settled i read _ _ _ _ _ took _ fin =>
    obtain ⟨adm, there, phase⟩ := admitted_lease_iff.mp took
    cases fin with
    | tokensSettled child _ _ _ _ mine has did =>
      exact .acted _ _ _ _ has (.settling i read adm child _ there (by rw [phase]; exact mine)) did
    | _ => exact .idle
  | _ => exact .idle

theorem step_budget_act (ran : step sys call = some (next, rep)) :
    Transition.Within Budget.step (BudgetMade sys call) sys.resources.budgets next.resources.budgets := by
  cases step_outcome ran with
  | resources call after ans may move =>
    rw [hand_resources]
    cases move with
    | budgets _ _ _ _ has did => exact .acted _ _ _ _ has (.outside _ may) did
    | advanced i read adm there after _ out =>
      generalize adm.phase = current at out
      cases out with
      | budgetReserved _ _ _ _ _ has _ did | budgetRejected _ _ _ _ _ has did => exact .acted _ _ _ _ has (.reserving i read adm there) did
      | retryTimed _ _ _ _ has did => exact .acted _ _ _ _ has (.timing i read) did
      | _ => exact .idle
    | _ => exact .idle
  | settled i read _ _ _ _ _ took _ fin =>
    obtain ⟨adm, there, phase⟩ := admitted_lease_iff.mp took
    cases fin with
    | budgetSettled _ _ child _ _ _ _ mine has did =>
      exact .acted _ _ _ _ has (.settling i read adm child _ there (by rw [phase]; exact mine)) did
    | _ => exact .idle
  | _ => exact .idle

end Acts

-- Everything the lifecycle rests on: the slots and the reservations have one
-- owner each and the limiters are in order.
structure Regular (sys : System) : Prop where
  wellformed : Wellformed sys
  custody : sys.custody.Sound
  slots : ∀ lim, sys.resources.concurrency = some lim → Conserved lim sys.custody.tenures
  tokens : ∀ tokens, sys.resources.tokens = some tokens → Token.Balanced tokens
  budgets : ∀ budgets, sys.resources.budgets = some budgets → budgets.Sound
  tokenWards : sys.tokenWards.Sound
  budgetWards : sys.budgetWards.Sound

variable {next : System} {call : Call} {rep : Reply} (reg : Regular sys) (ran : step sys call = some (next, rep))
include reg ran

theorem regular_wards : ∀ kind : Kind, Move (kind.wards sys) (kind.settled sys call) (kind.wards next) :=
  step_wards (fun lim has => (reg.tokens lim has).sound) reg.budgets reg.wellformed ran

-- Who may settle a reservation: the caller that was handed it, or the admission
-- that owns it.
def Kind.Settles (kind : Kind) (sys : System) (call : Call) (i : Nat) : Prop :=
  i ∈ kind.handles sys ∨ ∃ own read adm, sys.resources.admissions[own]? = some adm ∧ kind.child adm.phase = some i ∧
    (call = .resources (.advance own read) ∨ call = .settle own read)

omit ran in
theorem ward_spared (kind : Kind) {own i : Nat} {spent : Bool} (owned : (sys.view kind.ward)[own]? = some (some i, spent))
    (others : ∀ read, call ≠ .resources (.advance own read) ∧ call ≠ .settle own read) : ¬ kind.Settles sys call i := by
  have sound : (kind.wards sys).Sound := by
    cases kind with
    | tokens => exact reg.tokenWards
    | budget => exact reg.budgetWards
  rintro (handed | ⟨alt, read, adm, there, mine, called⟩)
  · exact (sound.guarded own i spent owned).2 handed
  · have placed : (sys.view kind.ward)[alt]? = some (kind.ward adm (sys.lease alt)) := view_at there
    rw [Kind.ward, mine] at placed
    obtain rfl := sound.apart alt own i _ spent placed owned
    exact called.elim (others read).1 (others read).2

section Owned

omit ran

variable {own i : Nat} {spent : Bool}

theorem tokens_owned (owned : (sys.view tokenWard)[own]? = some (some i, spent)) :
    ∃ hold, (tokenHolds sys.resources.tokens)[i]? = some hold ∧ hold.finalized = spent := by
  simpa [tokenWards, token_flags] using (reg.tokenWards.guarded own i spent owned).1

theorem budget_owned (owned : (sys.view budgetWard)[own]? = some (some i, spent)) :
    ∃ hold, (budgetHolds sys.resources.budgets)[i]? = some hold ∧ hold.finalized = spent := by
  simpa [budgetWards, budget_flags] using (reg.budgetWards.guarded own i spent owned).1

end Owned

theorem token_acted : ∃ event, Booked tokenBook (tokenHolds sys.resources.tokens) event (tokenHolds next.resources.tokens) ∧
    ∀ i, event = .settled i → Kind.Settles .tokens sys call i := by
  have act := step_token_act ran
  generalize next.resources.tokens = after at act ⊢
  cases act with
  | idle => exact ⟨.quiet, .quiet, nofun⟩
  | acted pre _ _ ans there why did =>
    have booked := token_booked (reg.tokens pre there).sound did
    rw [there]
    refine ⟨_, booked, fun _ settles => ?_⟩
    cases why with
    | outside _ may => exact .inl (permitted_tokens may settles)
    | reserving =>
      obtain ⟨told, _⟩ := ans
      cases told <;> cases settles
    | releasing own read adm _ placed mine =>
      cases settles
      exact .inr ⟨own, read, adm, placed, mine, .inl rfl⟩
    | settling own read adm _ _ placed mine =>
      cases settles
      exact .inr ⟨own, read, adm, placed, mine, .inr rfl⟩

theorem budget_acted : ∃ event, Booked budgetBook (budgetHolds sys.resources.budgets) event (budgetHolds next.resources.budgets) ∧
    ∀ i, event = .settled i → Kind.Settles .budget sys call i := by
  have act := step_budget_act ran
  generalize next.resources.budgets = after at act ⊢
  cases act with
  | idle => exact ⟨.quiet, .quiet, nofun⟩
  | acted pre _ _ ans there why did =>
    have booked := budget_booked (reg.budgets pre there) did
    rw [there]
    refine ⟨_, booked, fun _ settles => ?_⟩
    cases why with
    | outside _ may => exact .inl (permitted_budget may settles)
    | reserving | timing =>
      obtain ⟨told, _⟩ := ans
      cases told <;> cases settles
    | settling own read adm _ _ placed mine =>
      cases settles
      exact .inr ⟨own, read, adm, placed, mine, .inr rfl⟩

theorem regular_step : Regular next := by
  have wards := regular_wards reg ran
  obtain ⟨wf, care, slots, tokens, budgets, tokenWards, budgetWards⟩ := reg
  have move := step_custody wf ran
  exact ⟨wellformed_step wf ran, Custody.move_sound move care, conserved_exchange (Custody.move_exchange move care) slots,
    Transition.within_kept (fun _ ok _ did => Token.step_balanced ok did) (step_token_act ran) tokens,
    Transition.within_kept (fun _ ok _ did => Budget.sound_step ok did) (step_budget_act ran) budgets,
    move_sound (wards .tokens) tokenWards, move_sound (wards .budget) budgetWards⟩

omit reg ran

def freshSystem (slots : Option Nat) (tokens budgets : Bool) : System :=
  newSystem (slots.map Resource.newConcurrencyLimiter) (if tokens then some Token.newTokenSystem else none)
    (if budgets then some Budget.newBudgetSystem else none)

theorem regular_fresh (slots : Option Nat) (tokens budgets : Bool) : Regular (freshSystem slots tokens budgets) := by
  refine ⟨⟨?_, ?_⟩, ⟨?_, ?_, ?_⟩, ?_, ?_, ?_, ⟨?_, ?_, ?_⟩, ⟨?_, ?_, ?_⟩⟩
  · rintro i adm lease ⟨⟩
  · intro i _
    rfl
  · nofun
  · nofun
  · nofun
  · intro lim has
    cases slots with
    | none => cases has
    | some id =>
      cases has
      obtain ⟨_, ⟨⟩, _, kept⟩ := (custodial_start id none none).limiter
      exact kept
  · intro lim has
    cases tokens with
    | false => cases has
    | true =>
      cases has
      exact Token.new_token_system_balanced
  · intro lim has
    cases budgets with
    | false => cases has
    | true =>
      cases has
      exact Budget.new_system_sound
  · nofun
  · nofun
  · nofun
  · nofun
  · nofun
  · nofun

end NineGateway.Lifecycle
