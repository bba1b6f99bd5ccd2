import NineGateway.Resource.Coordinator

set_option autoImplicit false

namespace NineGateway.Lifecycle

open Resource (LeaseSystem ResourceLease ResourceLeaseOptions ConcurrencyLimiter Lease Slot Admission AdmissionError Phase AdvanceOutcome)
open Token (TokenSystem)
open Budget (BudgetSystem)

inductive LeaseOutcome where
  | known (actual : Int) (actualKnown : Bool) (cost : Money)
  | conservative
  | release
  | deferred
  | deferredBudgetConservative
deriving DecidableEq, Repr

namespace LeaseOutcome

def tokens : LeaseOutcome → Token.Terminal
  | known actual actualKnown _ => if actualKnown then .commit actual else .abortConservative
  | conservative => .abortConservative
  | release => .releaseBeforeUpstream
  | deferred => .commitDeferred
  | deferredBudgetConservative => .commitDeferred

def budget : LeaseOutcome → Budget.Terminal
  | known _ _ cost => .commit cost
  | conservative => .completeConservative
  | release => .releaseBeforeUpstream
  | deferred => .commitDeferred
  | deferredBudgetConservative => .completeConservative

end LeaseOutcome

-- A ticket is named by the reservation that issued it.
structure LeaseAdjustmentTickets where
  token : Option Nat
  budget : Option Nat
deriving DecidableEq, Repr

-- The error that finish returns is errors.Join of the two.
structure LeaseResult where
  tokenErr : Option Token.TokenError
  budgetErr : Option Budget.BudgetError
  tickets : LeaseAdjustmentTickets
deriving DecidableEq, Repr

-- How far the one call that settles a lease has come. Between two steps it holds
-- no lock.
inductive Progress where
  | settlingTokens
  | settlingBudget (tokenErr : Option Token.TokenError) (ticket : Option Nat)
  | releasingSlot (result : LeaseResult)
  | returningSlot (result : LeaseResult)
  | publishing (result : LeaseResult)
deriving DecidableEq, Repr

-- The finalizing and finalized flags of a ResourceLease, with what the call that
-- set the first one is doing. The done channel is closed exactly when the lease
-- is finalized.
inductive LeaseState where
  | open
  | finalizing (outcome : LeaseOutcome) (progress : Progress)
  | finalized (outcome : LeaseOutcome) (result : LeaseResult)
deriving DecidableEq, Repr

-- A call of a terminal method that has passed the lease's lock, and what it
-- returned.
structure Caller where
  admission : Nat
  answer : Option LeaseResult
deriving DecidableEq, Repr

-- The handles are the reservations that callers made themselves. Those inside a
-- lease are in no caller's hands.
structure System where
  resources : LeaseSystem
  leases : FiniteMap Nat LeaseState
  callers : List Caller
  tokenHandles : List Nat
  budgetHandles : List Nat

def newSystem (concurrency : Option ConcurrencyLimiter) (tokens : Option TokenSystem) (budgets : Option BudgetSystem) : System :=
  { resources := Resource.newResourceLeaseCoordinator concurrency tokens budgets
    leases := ∅, callers := [], tokenHandles := [], budgetHandles := [] }

def System.lease (system : System) (admission : Nat) : LeaseState := (system.leases.lookup admission).getD .open

def System.setLease (system : System) (admission : Nat) (state : LeaseState) : System :=
  { system with leases := Finmap.insert admission state system.leases }

-- settle is a step of the call that settles the lease, answer the return of a
-- call to its caller.
inductive Call where
  | resources (call : Resource.Call)
  | terminate (admission : Nat) (outcome : LeaseOutcome)
  | settle (admission : Nat) (reading : Int)
  | answer (caller : Nat)
deriving DecidableEq, Repr

inductive Reply where
  | resources (reply : Resource.Reply)
  | entered (caller : Nat)
  | settled (state : LeaseState)
  | answered (result : LeaseResult)
deriving DecidableEq, Repr

def System.permits (system : System) : Resource.Call → Bool
  | .tokenCall (.finalize index _ _) => decide (index ∈ system.tokenHandles)
  | .budgetCall (.finalize index _) => decide (index ∈ system.budgetHandles)
  | _ => true

def System.hand (system : System) : Resource.Reply → System
  | .tokens ⟨.reserved index, _⟩ => { system with tokenHandles := system.tokenHandles ++ [index] }
  | .budget ⟨.reserved index, _⟩ => { system with budgetHandles := system.budgetHandles ++ [index] }
  | _ => system

def admittedLease (system : System) (admission : Nat) : Option ResourceLease :=
  match system.resources.admissions[admission]? with
  | some ⟨_, _, .admitted lease⟩ => some lease
  | _ => none

def settleTokens (resources : LeaseSystem) (reading : Int) (lease : ResourceLease) (outcome : LeaseOutcome) :
    Option (LeaseSystem × Progress) :=
  match lease.tokens, resources.tokens with
  | none, _ => some (resources, .settlingBudget none none)
  | some _, none => none
  | some index, some tokens =>
    match Token.step tokens (.finalize index reading outcome.tokens) with
    | none => none
    | some (next, _) =>
      (next.reservations[index]?).map (fun reservation =>
        ({ resources with tokens := some next },
          .settlingBudget reservation.finalErr (if outcome.tokens = .commitDeferred then reservation.ticket.map (fun _ => index) else none)))

def settleBudget (resources : LeaseSystem) (lease : ResourceLease) (outcome : LeaseOutcome) (tokenErr : Option Token.TokenError)
    (ticket : Option Nat) : Option (LeaseSystem × Progress) :=
  match lease.budget, resources.budgets with
  | none, _ => some (resources, .releasingSlot ⟨tokenErr, none, ⟨ticket, none⟩⟩)
  | some _, none => none
  | some index, some budgets =>
    match Budget.step budgets (.finalize index outcome.budget) with
    | none => none
    | some (next, _) =>
      (next.reservations[index]?).map (fun reservation =>
        ({ resources with budgets := some next }, .releasingSlot ⟨tokenErr, reservation.finalErr,
            ⟨ticket, if outcome.budget = .commitDeferred then reservation.ticket.map (fun _ => index) else none⟩⟩))

def releaseOwned (resources : LeaseSystem) (slot : Nat) (result : LeaseResult) : Option (LeaseSystem × Progress) :=
  match resources.slots[slot]? with
  | none => none
  | some held =>
    match held.lease.releaseOwned with
    | none => some (resources, .publishing result)
    | some lease => some ({ resources with slots := resources.slots.set slot { held with lease := lease } }, .returningSlot result)

def finish (resources : LeaseSystem) (reading : Int) (lease : ResourceLease) (outcome : LeaseOutcome) :
    Progress → Option (LeaseSystem × LeaseState)
  | .settlingTokens => (settleTokens resources reading lease outcome).map (fun moved => (moved.1, .finalizing outcome moved.2))
  | .settlingBudget tokenErr ticket =>
    (settleBudget resources lease outcome tokenErr ticket).map (fun moved => (moved.1, .finalizing outcome moved.2))
  | .releasingSlot result => (releaseOwned resources lease.concurrency result).map (fun moved => (moved.1, .finalizing outcome moved.2))
  | .returningSlot result =>
    (Resource.giveBack resources lease.concurrency).map (fun next => (next, .finalizing outcome (.publishing result)))
  | .publishing result => some (resources, .finalized outcome result)

def step (system : System) : Call → Option (System × Reply)
  | .resources call =>
    if system.permits call then
      (Resource.step system.resources call).map (fun moved =>
        (System.hand { system with resources := moved.1 } moved.2, .resources moved.2))
    else none
  | .terminate admission outcome =>
    match admittedLease system admission with
    | none => none
    | some _ =>
      let entered := { system with callers := system.callers ++ [⟨admission, none⟩] }
      match system.lease admission with
      | .open => some (entered.setLease admission (.finalizing outcome .settlingTokens), .entered system.callers.length)
      | _ => some (entered, .entered system.callers.length)
  | .settle admission reading =>
    match admittedLease system admission, system.lease admission with
    | some lease, .finalizing outcome progress =>
      (finish system.resources reading lease outcome progress).map (fun moved =>
        (System.setLease { system with resources := moved.1 } admission moved.2, .settled moved.2))
    | _, _ => none
  | .answer index =>
    match system.callers[index]? with
    | some ⟨admission, none⟩ =>
      match system.lease admission with
      | .finalized _ result =>
        some ({ system with callers := system.callers.set index ⟨admission, some result⟩ }, .answered result)
      | _ => none
    | _ => none

inductive FinishOutcome (res : LeaseSystem) (read : Int) (lease : ResourceLease) (out : LeaseOutcome) :
    Progress → LeaseSystem → LeaseState → Prop where
  | tokensAbsent (gone : lease.tokens = none) : FinishOutcome res read lease out .settlingTokens res (.finalizing out (.settlingBudget none none))
  | tokensSettled (i tokens next rep hold) (child : lease.tokens = some i) (has : res.tokens = some tokens)
      (ran : Token.step tokens (.finalize i read out.tokens) = some (next, rep)) (paid : next.reservations[i]? = some hold) :
      FinishOutcome res read lease out .settlingTokens { res with tokens := some next } (.finalizing out (.settlingBudget hold.finalErr
          (if out.tokens = .commitDeferred then hold.ticket.map (fun _ => i) else none)))
  | budgetAbsent (tokenErr ticket) (gone : lease.budget = none) : FinishOutcome res read lease out (.settlingBudget tokenErr ticket) res
        (.finalizing out (.releasingSlot ⟨tokenErr, none, ⟨ticket, none⟩⟩))
  | budgetSettled (tokenErr ticket i budgets next rep hold) (child : lease.budget = some i) (has : res.budgets = some budgets)
      (ran : Budget.step budgets (.finalize i out.budget) = some (next, rep)) (paid : next.reservations[i]? = some hold) :
      FinishOutcome res read lease out (.settlingBudget tokenErr ticket) { res with budgets := some next }
        (.finalizing out (.releasingSlot ⟨tokenErr, hold.finalErr,
          ⟨ticket, if out.budget = .commitDeferred then hold.ticket.map (fun _ => i) else none⟩⟩))
  | slotSpent (result held) (has : res.slots[lease.concurrency]? = some held) (spent : held.lease.released = true) :
      FinishOutcome res read lease out (.releasingSlot result) res (.finalizing out (.publishing result))
  | slotReleased (result held) (has : res.slots[lease.concurrency]? = some held) (unspent : held.lease.released = false) :
      FinishOutcome res read lease out (.releasingSlot result)
        { res with slots := res.slots.set lease.concurrency { held with lease := { held.lease with released := true } } }
        (.finalizing out (.returningSlot result))
  | slotReturned (result held) (has : res.slots[lease.concurrency]? = some held) : FinishOutcome res read lease out (.returningSlot result)
        { res with concurrency := res.concurrency.map held.lease.releaseSlot } (.finalizing out (.publishing result))
  | published (result) : FinishOutcome res read lease out (.publishing result) res (.finalized out result)

inductive Outcome (sys : System) : Call → System → Reply → Prop where
  | resources (call next rep) (may : sys.permits call = true) (move : Resource.Move sys.resources call next rep) :
      Outcome sys (.resources call) (System.hand { sys with resources := next } rep) (.resources rep)
  | opened (adm out lease) (took : admittedLease sys adm = some lease) (new : sys.lease adm = .open) : Outcome sys (.terminate adm out)
        (System.setLease { sys with callers := sys.callers ++ [⟨adm, none⟩] } adm (.finalizing out .settlingTokens)) (.entered sys.callers.length)
  | joined (adm out lease) (took : admittedLease sys adm = some lease) (taken : sys.lease adm ≠ .open) :
      Outcome sys (.terminate adm out) { sys with callers := sys.callers ++ [⟨adm, none⟩] } (.entered sys.callers.length)
  | settled (adm read lease out prog next st) (took : admittedLease sys adm = some lease) (busy : sys.lease adm = .finalizing out prog)
      (fin : FinishOutcome sys.resources read lease out prog next st) :
      Outcome sys (.settle adm read) (System.setLease { sys with resources := next } adm st) (.settled st)
  | answered (i adm out res) (waiting : sys.callers[i]? = some ⟨adm, none⟩) (closed : sys.lease adm = .finalized out res) :
      Outcome sys (.answer i) { sys with callers := sys.callers.set i ⟨adm, some res⟩ } (.answered res)

section Steps

variable {res next : LeaseSystem} {read : Int} {lease : ResourceLease} {out : LeaseOutcome}

theorem settle_tokens_outcome {prog : Progress} (did : settleTokens res read lease out = some (next, prog)) :
    FinishOutcome res read lease out .settlingTokens next (.finalizing out prog) := by
  unfold settleTokens at did
  cases child : lease.tokens with
  | none =>
    simp only [child] at did
    cases did
    exact .tokensAbsent child
  | some i =>
    cases has : res.tokens with
    | none => simp [child, has] at did
    | some tokens =>
      simp only [child, has] at did
      split at did
      · cases did
      rename_i after rep ran
      obtain ⟨hold, paid, ⟨⟩⟩ := Option.map_eq_some_iff.mp did
      exact .tokensSettled i tokens after rep hold child has ran paid

theorem settle_budget_outcome {tokenErr : Option Token.TokenError} {ticket : Option Nat} {prog : Progress}
    (did : settleBudget res lease out tokenErr ticket = some (next, prog)) :
    FinishOutcome res read lease out (.settlingBudget tokenErr ticket) next (.finalizing out prog) := by
  unfold settleBudget at did
  cases child : lease.budget with
  | none =>
    simp only [child] at did
    cases did
    exact .budgetAbsent tokenErr ticket child
  | some i =>
    cases has : res.budgets with
    | none => simp [child, has] at did
    | some budgets =>
      simp only [child, has] at did
      split at did
      · cases did
      rename_i after rep ran
      obtain ⟨hold, paid, ⟨⟩⟩ := Option.map_eq_some_iff.mp did
      exact .budgetSettled tokenErr ticket i budgets after rep hold child has ran paid

theorem finish_outcome {prog : Progress} {st : LeaseState} (fin : finish res read lease out prog = some (next, st)) :
    FinishOutcome res read lease out prog next st := by
  cases prog with
  | settlingTokens =>
    obtain ⟨_, paid, ⟨⟩⟩ := Option.map_eq_some_iff.mp fin
    exact settle_tokens_outcome paid
  | settlingBudget =>
    obtain ⟨_, paid, ⟨⟩⟩ := Option.map_eq_some_iff.mp fin
    exact settle_budget_outcome paid
  | releasingSlot result =>
    obtain ⟨_, paid, ⟨⟩⟩ := Option.map_eq_some_iff.mp fin
    unfold releaseOwned at paid
    cases has : res.slots[lease.concurrency]? with
    | none => simp [has] at paid
    | some held =>
      cases spent : held.lease.released with
      | true =>
        simp only [has, Lease.releaseOwned, spent, if_true, Option.some.injEq] at paid
        rw [← paid]
        exact .slotSpent result held has spent
      | false =>
        simp only [has, Lease.releaseOwned, spent, Bool.false_eq_true, if_false, Option.some.injEq] at paid
        rw [← paid]
        exact .slotReleased result held has spent
  | returningSlot result =>
    obtain ⟨_, back, ⟨⟩⟩ := Option.map_eq_some_iff.mp fin
    unfold Resource.giveBack at back
    cases has : res.slots[lease.concurrency]? with
    | none => simp [has] at back
    | some held =>
      simp only [has, Option.some.injEq] at back
      rw [← back]
      exact .slotReturned result held has
  | publishing result =>
    cases fin
    exact .published result

theorem step_outcome {sys after : System} {call : Call} {rep : Reply} (ran : step sys call = some (after, rep)) :
    Outcome sys call after rep := by
  cases call with
  | resources call =>
    simp only [step, Option.ite_none_right_eq_some] at ran
    obtain ⟨may, did⟩ := ran
    obtain ⟨⟨res, ans⟩, inner, ⟨⟩⟩ := Option.map_eq_some_iff.mp did
    exact .resources call res ans may (Resource.step_move inner)
  | terminate adm out =>
    simp only [step] at ran
    cases took : admittedLease sys adm with
    | none => simp [took] at ran
    | some lease =>
      simp only [took] at ran
      split at ran
      · rename_i new
        cases ran
        exact .opened adm out lease took new
      · rename_i taken
        cases ran
        exact .joined adm out lease took taken
  | settle adm read =>
    simp only [step] at ran
    split at ran
    · rename_i lease out prog took busy
      obtain ⟨⟨res, st⟩, fin, ⟨⟩⟩ := Option.map_eq_some_iff.mp ran
      exact .settled adm read lease out prog res st took busy (finish_outcome fin)
    · cases ran
  | answer i =>
    simp only [step] at ran
    split at ran
    · rename_i adm waiting
      split at ran <;> cases ran
      rename_i out result closed
      exact .answered i adm out result waiting closed
    · cases ran

end Steps

end NineGateway.Lifecycle
