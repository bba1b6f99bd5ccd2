import NineGateway.Lifecycle.Terminals

set_option autoImplicit false

namespace NineGateway.Lifecycle

open Resource (LeaseSystem ResourceLease)
open Token (TokenSystem)
open Budget (BudgetSystem)
open Token.TokenAdjustmentTicket LeaseState

def tokenMarks (tokens : Option TokenSystem) : List (Option Bool) :=
  (tokens.map (fun system => system.reservations.map (fun reservation => reservation.ticket.map Token.TokenAdjustmentTicket.consumed))).getD []

def budgetMarks (budgets : Option BudgetSystem) : List (Option Bool) :=
  (budgets.map (fun system => system.reservations.map (fun reservation => reservation.ticket.map Budget.BudgetAdjustmentTicket.consumed))).getD []

def Issued (marks : List (Option Bool)) (ticket : Nat) : Prop := ∃ spent, marks[ticket]? = some (some spent)

def Consumed (marks : List (Option Bool)) (ticket : Nat) : Prop := marks[ticket]? = some (some true)

def MarksKept (pre after : List (Option Bool)) : Prop :=
  ∀ (ticket : Nat) (spent : Bool), pre[ticket]? = some (some spent) → ∃ later, after[ticket]? = some (some later) ∧ (spent = true → later = true)

section Marks

variable {pre after : List (Option Bool)} {ticket : Nat}

theorem marks_refl (marks : List (Option Bool)) : MarksKept marks marks := fun _ spent hit => ⟨spent, hit, id⟩

theorem marks_append (marks : List (Option Bool)) (new : Option Bool) : MarksKept marks (marks ++ [new]) :=
  fun _ spent found => ⟨spent, Roster.entry_kept found new, id⟩

theorem marks_set {i : Nat} {old new : Option Bool} (has : pre[i]? = some old)
    (grown : ∀ spent, old = some spent → ∃ later, new = some later ∧ (spent = true → later = true)) : MarksKept pre (pre.set i new) := by
  intro ticket spent hit
  by_cases here : i = ticket
  · subst here
    rw [has] at hit
    obtain ⟨later, rfl, kept⟩ := grown spent (Option.some.inj hit)
    exact ⟨later, List.getElem?_set_self (List.getElem?_eq_some_iff.mp has).1, kept⟩
  · exact ⟨spent, by rw [List.getElem?_set_ne here, hit], id⟩

theorem issued_kept (kept : MarksKept pre after) (issued : Issued pre ticket) : Issued after ticket := by
  obtain ⟨spent, hit⟩ := issued
  obtain ⟨later, there, _⟩ := kept ticket spent hit
  exact ⟨later, there⟩

theorem consumed_kept (kept : MarksKept pre after) (used : Consumed pre ticket) : Consumed after ticket := by
  obtain ⟨_, there, spent⟩ := kept ticket true used
  rw [spent rfl] at there
  exact there

end Marks

section Children

theorem booked_marks {α : Type} {book : Book α} {pre after : List α} {event : Event} (booked : Booked book pre event after) :
    MarksKept (pre.map book.mark) (after.map book.mark) := by
  cases booked with
  | quiet => exact marks_refl _
  | reserved =>
    rw [List.map_append]
    exact marks_append _ _
  | settled i old new has _ unmarked =>
    have there : (pre.map book.mark)[i]? = some (book.mark old) := by simp [has]
    rw [List.map_set]
    refine marks_set there ?_
    intro spent hit
    rcases unmarked with rfl | unissued
    · exact ⟨spent, hit, id⟩
    · simp [unissued] at hit
  | edited i old _ has _ _ marked =>
    have there : (pre.map book.mark)[i]? = some (book.mark old) := by simp [has]
    obtain ⟨later, now, used⟩ := marked
    rw [List.map_set]
    exact marks_set there (fun _ hit => ⟨later, now, fun same => used (by rw [hit, same])⟩)

theorem token_marks (tokens : Option TokenSystem) : tokenMarks tokens = (tokenHolds tokens).map tokenBook.mark := by
  cases tokens <;> rfl

theorem budget_marks (budgets : Option BudgetSystem) : budgetMarks budgets = (budgetHolds budgets).map budgetBook.mark := by
  cases budgets <;> rfl

variable {budgets next : BudgetSystem} {rep : Budget.Reply} {ticket : Nat}

theorem token_invalidated {tokens next : TokenSystem} {rep : Token.Reply} (issued : Issued (tokenMarks (some tokens)) ticket)
    (ran : Token.step tokens (.invalidate ticket) = some (next, rep)) : Consumed (tokenMarks (some next)) ticket := by
  obtain ⟨spent, hit⟩ := issued
  simp only [tokenMarks, Option.map_some, Option.getD_some, List.getElem?_map, Option.map_eq_some_iff] at hit
  obtain ⟨hold, has, _, held, _⟩ := hit
  simp only [Token.step, has, held, Option.some.injEq, Prod.mk.injEq] at ran
  have inside := (List.getElem?_eq_some_iff.mp has).1
  simp only [Consumed, tokenMarks, Option.map_some, Option.getD_some, ← ran.1, List.getElem?_map, List.getElem?_set_self inside,
    Token.TokenReservation.withTicket, Option.some.injEq]
  unfold Token.invalidate
  split <;> simp_all [spend]

theorem budget_invalidated (issued : Issued (budgetMarks (some budgets)) ticket)
    (ran : Budget.step budgets (.invalidate ticket) = some (next, rep)) : Consumed (budgetMarks (some next)) ticket := by
  obtain ⟨_, hit⟩ := issued
  simp only [budgetMarks, Option.map_some, Option.getD_some, List.getElem?_map, Option.map_eq_some_iff] at hit
  obtain ⟨_, has, _, held, _⟩ := hit
  simp only [Budget.step, has, held, Option.some.injEq, Prod.mk.injEq] at ran
  have inside := (List.getElem?_eq_some_iff.mp has).1
  simp [Consumed, budgetMarks, ← ran.1, inside, Budget.BudgetReservation.withTicket, Budget.invalidate]

end Children

def LeaseOutcome.defers : LeaseOutcome → Bool
  | known _ _ _ => false
  | conservative => false
  | release => false
  | deferred => true
  | deferredBudgetConservative => true

def noTickets : LeaseAdjustmentTickets := ⟨none, none⟩

def Progress.tickets : Progress → LeaseAdjustmentTickets
  | .settlingTokens => noTickets
  | .settlingBudget _ ticket => ⟨ticket, none⟩
  | .releasingSlot result => result.tickets
  | .returningSlot result => result.tickets
  | .publishing result => result.tickets

def LeaseState.tickets : LeaseState → LeaseAdjustmentTickets
  | .open => noTickets
  | .finalizing _ progress => progress.tickets
  | .finalized _ result => result.tickets

structure Ticketed (own : Nat) (sys : System) : Prop where
  deferred : ∀ out, (sys.lease own).outcome = some out → out.defers = false → (sys.lease own).tickets = noTickets
  tokens : ∀ ticket, (sys.lease own).tickets.token = some ticket → Issued (tokenMarks sys.resources.tokens) ticket
  budget : ∀ ticket, (sys.lease own).tickets.budget = some ticket → Issued (budgetMarks sys.resources.budgets) ticket

section Leases

variable {sys next : System} {call : Call} {rep : Reply} {own : Nat}

theorem token_marks_kept (reg : Regular sys) (ran : step sys call = some (next, rep)) :
    MarksKept (tokenMarks sys.resources.tokens) (tokenMarks next.resources.tokens) := by
  obtain ⟨_, booked, _⟩ := token_acted reg ran
  rw [token_marks, token_marks]
  exact booked_marks booked

theorem budget_marks_kept (reg : Regular sys) (ran : step sys call = some (next, rep)) :
    MarksKept (budgetMarks sys.resources.budgets) (budgetMarks next.resources.budgets) := by
  obtain ⟨_, booked, _⟩ := budget_acted reg ran
  rw [budget_marks, budget_marks]
  exact booked_marks booked

variable {res after : LeaseSystem} {out : LeaseOutcome} {lease : ResourceLease} {prog : Progress} {st : LeaseState}
variable {read : Int}

theorem finish_ticketed (fin : FinishOutcome res read lease out prog after st) (deferred : out.defers = false → prog.tickets = noTickets)
    (tokens : ∀ ticket, prog.tickets.token = some ticket → Issued (tokenMarks after.tokens) ticket)
    (budget : ∀ ticket, prog.tickets.budget = some ticket → Issued (budgetMarks after.budgets) ticket) :
    (out.defers = false → st.tickets = noTickets) ∧ (∀ ticket, st.tickets.token = some ticket → Issued (tokenMarks after.tokens) ticket) ∧
      ∀ ticket, st.tickets.budget = some ticket → Issued (budgetMarks after.budgets) ticket := by
  cases fin with
  | tokensAbsent => simp [tickets, Progress.tickets, noTickets]
  | tokensSettled _ _ _ _ _ _ _ _ paid =>
    refine ⟨?_, ?_, by simp [tickets, Progress.tickets]⟩
    · cases out <;> simp_all [tickets, Progress.tickets, noTickets, LeaseOutcome.defers, LeaseOutcome.tokens]
      split <;> simp
    intro ticket given
    split at given
    · obtain ⟨issued, hit, rfl⟩ := Option.map_eq_some_iff.mp given
      exact ⟨issued.consumed, by simp [tokenMarks, paid, hit]⟩
    · cases given
  | budgetAbsent =>
    refine ⟨?_, tokens, by simp [tickets, Progress.tickets]⟩
    intro undeferred
    have none_ := deferred undeferred
    simpa [tickets, Progress.tickets, noTickets] using none_
  | budgetSettled _ _ _ _ _ _ _ _ _ _ paid =>
    refine ⟨?_, tokens, ?_⟩
    · intro undeferred
      cases out <;> simp_all [tickets, Progress.tickets, noTickets, LeaseOutcome.defers, LeaseOutcome.budget]
    intro given hit
    split at hit
    · obtain ⟨issued, held, rfl⟩ := Option.map_eq_some_iff.mp hit
      exact ⟨issued.consumed, by simp [budgetMarks, paid, held]⟩
    · cases hit
  | slotSpent | slotReleased | slotReturned | published => exact ⟨deferred, tokens, budget⟩

theorem settled_outcome (fin : FinishOutcome res read lease out prog after st) : st ≠ .open ∧ st.outcome = some out := by
  cases fin <;> exact ⟨by simp, rfl⟩

theorem ticketed_step (reg : Regular sys) (held : Ticketed own sys) (ran : step sys call = some (next, rep)) : Ticketed own next := by
  have tokensKept := token_marks_kept reg ran
  have budgetKept := budget_marks_kept reg ran
  cases lease_move ran own with
  | kept _ _ same =>
    refine ⟨?_, ?_, ?_⟩
    · rw [same]
      exact held.deferred
    · rw [same]
      exact fun ticket hit => issued_kept tokensKept (held.tokens ticket hit)
    · rw [same]
      exact fun ticket hit => issued_kept budgetKept (held.budget ticket hit)
  | opened _ _ _ _ _ st =>
    refine ⟨?_, ?_, ?_⟩ <;> simp [st, tickets, Progress.tickets, noTickets]
  | settled _ _ _ out _ _ busy fin =>
    have deferred := held.deferred out
    have tokens := held.tokens
    have budget := held.budget
    rw [busy] at deferred tokens budget
    obtain ⟨none_, tokensLater, budgetLater⟩ := finish_ticketed fin (deferred rfl)
      (fun ticket hit => issued_kept tokensKept (tokens ticket hit)) (fun ticket hit => issued_kept budgetKept (budget ticket hit))
    refine ⟨?_, tokensLater, budgetLater⟩
    intro alt decided undeferred
    apply none_
    rw [(settled_outcome fin).2] at decided
    rwa [Option.some.inj decided]

end Leases

def Granted (sys : System) (adm : Nat) : Prop := ∃ lease, admittedLease sys adm = some lease

-- What a caller can rely on while others take their steps: the admission and the
-- pending call that are its own are left alone.
structure Later (adm caller : Option Nat) (pre after : System) : Prop where
  length : pre.resources.admissions.length ≤ after.resources.admissions.length
  granted : ∀ i, Granted pre i → Granted after i
  fresh : ∀ i, adm = some i → pre.lease i = .open → after.lease i = .open
  entered : ∀ i, pre.lease i ≠ .open → after.lease i ≠ .open ∧ (after.lease i).outcome = (pre.lease i).outcome
  closed : ∀ i out res, pre.lease i = .finalized out res → after.lease i = .finalized out res
  pending : ∀ (i : Nat) entry, caller = some i → pre.callers[i]? = some entry → after.callers[i]? = some entry
  tokens : MarksKept (tokenMarks pre.resources.tokens) (tokenMarks after.resources.tokens)
  budget : MarksKept (budgetMarks pre.resources.budgets) (budgetMarks after.resources.budgets)

section Bystanders

variable {sys next : System} {call : Call} {rep : Reply}

theorem later_refl (adm caller : Option Nat) (sys : System) : Later adm caller sys sys :=
  ⟨Nat.le_refl _, fun _ hit => hit, fun _ _ hit => hit, fun _ hit => ⟨hit, rfl⟩, fun _ _ _ hit => hit, fun _ _ _ hit => hit,
    marks_refl _, marks_refl _⟩

theorem admissions_grow (ran : step sys call = some (next, rep)) : sys.resources.admissions.length ≤ next.resources.admissions.length := by
  cases step_outcome ran with
  | resources _ after _ _ move =>
    rw [hand_resources]
    cases move with
    | advanced _ _ _ _ _ _ out =>
      simp [(advance_admitted out).1]
    | unlimited | started | adopted => simp
    | _ => exact Nat.le_refl _
  | opened | joined | answered => exact Nat.le_refl _
  | settled _ _ _ _ _ after _ _ _ fin =>
    cases fin <;> exact Nat.le_refl _

theorem pending_kept {i : Nat} {entry : Caller} (ran : step sys call = some (next, rep)) (unanswered : call ≠ .answer i)
    (waiting : sys.callers[i]? = some entry) : next.callers[i]? = some entry := by
  cases step_outcome ran with
  | resources =>
    unfold System.hand
    split <;> exact waiting
  | opened | joined => exact Roster.entry_kept waiting _
  | settled => exact waiting
  | answered alt =>
    have apart : alt ≠ i := by
      rintro rfl
      exact unanswered rfl
    simpa only [List.getElem?_set_ne apart] using waiting

theorem later_step {adm caller : Option Nat} (reg : Regular sys) (ran : step sys call = some (next, rep))
    (uncalled : ∀ i out, adm = some i → call ≠ .terminate i out)
    (unanswered : ∀ i, caller = some i → call ≠ .answer i) : Later adm caller sys next := by
  refine ⟨admissions_grow ran, fun i ⟨lease, hit⟩ => ⟨lease, (admitted_kept ran hit).2⟩, ?_, ?_,
    fun i out res hit => finalized_kept ran hit, ?_, token_marks_kept reg ran, budget_marks_kept reg ran⟩
  · intro i mine new
    cases lease_move ran i with
    | kept _ _ same => rw [same, new]
    | opened _ out => exact absurd rfl (uncalled i out mine)
    | settled _ _ _ _ _ _ busy => simp [new] at busy
  · intro i taken
    cases lease_move ran i with
    | kept _ _ same => exact ⟨by rwa [same], by rw [same]⟩
    | opened _ _ _ _ new => exact absurd new taken
    | settled _ _ _ _ _ _ busy fin =>
      have paid := settled_outcome fin
      rw [busy]
      exact paid
  · intro i entry mine waiting
    exact pending_kept ran (unanswered i mine) waiting

theorem started_fresh {adm : Nat} {resourceCall : Resource.Call} (reg : Regular sys)
    (ran : step sys (.resources resourceCall) = some (next, .resources (.started adm))) :
    adm = sys.resources.admissions.length ∧ next.resources.admissions.length = adm + 1 ∧ next.lease adm = .open := by
  have unknown : adm = sys.resources.admissions.length → admittedLease sys adm = none := by
    rintro rfl
    simp [admittedLease]
  cases step_outcome ran with
  | resources _ _ _ _ move =>
    cases move with
    | unlimited | started | adopted => exact ⟨rfl, by simp, admitted_open reg.wellformed ran (unknown rfl)⟩

variable {ticket : Nat}

theorem token_ticket_invalidated (ran : step sys (.resources (.tokenCall (.invalidate ticket))) = some (next, rep))
    (issued : Issued (tokenMarks sys.resources.tokens) ticket) : Consumed (tokenMarks next.resources.tokens) ticket := by
  cases step_outcome ran with
  | resources _ _ ans _ move =>
    rw [hand_resources]
    cases move with
    | tokens _ _ _ _ has did =>
      rw [has] at issued
      exact token_invalidated issued did

theorem budget_ticket_invalidated (ran : step sys (.resources (.budgetCall (.invalidate ticket))) = some (next, rep))
    (issued : Issued (budgetMarks sys.resources.budgets) ticket) : Consumed (budgetMarks next.resources.budgets) ticket := by
  cases step_outcome ran with
  | resources _ _ ans _ move =>
    rw [hand_resources]
    cases move with
    | budgets _ _ _ _ has did =>
      rw [has] at issued
      exact budget_invalidated issued did

theorem token_invalidate_enabled (issued : Issued (tokenMarks sys.resources.tokens) ticket) :
    (step sys (.resources (.tokenCall (.invalidate ticket)))).isSome = true := by
  obtain ⟨_, hit⟩ := issued
  cases limited : sys.resources.tokens with
  | none => simp [tokenMarks, limited] at hit
  | some =>
    simp only [tokenMarks, limited, Option.map_some, Option.getD_some, List.getElem?_map, Option.map_eq_some_iff] at hit
    obtain ⟨_, has, _, held, _⟩ := hit
    simp [step, System.permits, Resource.step, limited, Token.step, has, held]

theorem budget_invalidate_enabled (issued : Issued (budgetMarks sys.resources.budgets) ticket) :
    (step sys (.resources (.budgetCall (.invalidate ticket)))).isSome = true := by
  obtain ⟨_, hit⟩ := issued
  cases limited : sys.resources.budgets with
  | none => simp [budgetMarks, limited] at hit
  | some =>
    simp only [budgetMarks, limited, Option.map_some, Option.getD_some, List.getElem?_map, Option.map_eq_some_iff] at hit
    obtain ⟨_, has, _, held, _⟩ := hit
    simp [step, System.permits, Resource.step, limited, Budget.step, has, held]

end Bystanders

end NineGateway.Lifecycle
