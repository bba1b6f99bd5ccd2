import NineGateway.Budget.Conservation
import NineGateway.Lifecycle.Tickets
import NineGateway.Storage.BudgetAccumulator
import NineGateway.Storage.Shelter

set_option autoImplicit false

namespace NineGateway.Persistence

open Budget (BudgetSystem BudgetReservation BudgetAdjustmentTicket BudgetIdentity CommittedBudgetDelta captureDeltas)
open Lifecycle (System LeaseState Progress admittedLease)
open Storage (BudgetTable BudgetBucketIdentity BudgetBucketError BudgetAccumulation AccumulatorCall AccumulatorReply budgetStep budgetSink
  bucketPeriod newAccumulation)
open Coalesce (batchAmount share)

def periodText : BudgetIdentity → String
  | .total => "total"
  | .day _ => "day"
  | .month _ => "month"

def periodStart : BudgetIdentity → Int
  | .total => zeroTime
  | .day start => start
  | .month start => start

def deltaSink (delta : CommittedBudgetDelta) : AccumulatorCall BudgetBucketIdentity :=
  budgetSink delta.keyID (periodText delta.identity) (periodStart delta.identity) delta.delta

-- The budget limiter behind composite leases, with the accumulator as its sink.
-- finalizeInternal and Adjust call the sink for one delta after the other when
-- they hold no lock any more; what is left of that, by reservation, is in hands.
structure BudgetFlow where
  leases : System
  hands : FiniteMap Nat (List CommittedBudgetDelta)
  accumulator : BudgetAccumulation

def newFlow (slots : Option Nat) (tokens : Bool) (table : BudgetTable) : BudgetFlow :=
  { leases := Lifecycle.freshSystem slots tokens true, hands := ∅, accumulator := newAccumulation table }

def BudgetFlow.hand (flow : BudgetFlow) (index : Nat) : List CommittedBudgetDelta := (flow.hands.lookup index).getD []

def BudgetFlow.hold (flow : BudgetFlow) (index : Nat) (deltas : List CommittedBudgetDelta) : BudgetFlow :=
  { flow with hands := Finmap.insert index (flow.hand index ++ deltas) flow.hands }

-- adjust uses the ticket that the finalized lease of the admission returned,
-- deliver is the next call of the sink for a reservation, and store is a step of
-- the accumulator's worker.
inductive FlowCall where
  | lease (call : Lifecycle.Call)
  | adjust (admission : Nat) (actual : Money)
  | deliver (reservation : Nat)
  | store (call : AccumulatorCall BudgetBucketIdentity)
deriving DecidableEq

inductive FlowReply where
  | lease (reply : Lifecycle.Reply)
  | adjusted (answer : Budget.Answer)
  | stored (reply : AccumulatorReply BudgetBucketError)
deriving DecidableEq

def leaseBudget (system : System) (admission : Nat) : Option Nat := (admittedLease system admission).bind Resource.ResourceLease.budget

def settledDeltas (system : System) (admission : Nat) : List CommittedBudgetDelta :=
  match leaseBudget system admission, system.lease admission, system.resources.budgets with
  | some index, .finalizing outcome (.settlingBudget _ _), some budgets =>
    ((Budget.step budgets (.finalize index outcome.budget)).map (fun moved => moved.2.deltas)).getD []
  | _, _, _ => []

-- Reservations are finalized by their leases and adjusted with the tickets of
-- these. The call that settles a lease goes on once its deltas are delivered.
def BudgetFlow.permits (flow : BudgetFlow) : Lifecycle.Call → Bool
  | .resources (.budgetCall (.finalize _ _)) => false
  | .resources (.budgetCall (.adjust _ _)) => false
  | .settle admission _ => (leaseBudget flow.leases admission).all (fun index => (flow.hand index).isEmpty)
  | _ => true

def BudgetFlow.follow (flow : BudgetFlow) (next : System) : Lifecycle.Call → BudgetFlow
  | .settle admission _ =>
    match leaseBudget flow.leases admission with
    | none => { flow with leases := next }
    | some index => BudgetFlow.hold { flow with leases := next } index (settledDeltas flow.leases admission)
  | _ => { flow with leases := next }

def BudgetFlow.stores (flow : BudgetFlow) : AccumulatorCall BudgetBucketIdentity → Bool
  | .sink _ _ => false
  | .take _ => flow.accumulator.grounded
  | _ => true

def flowStep (flow : BudgetFlow) : FlowCall → Option (BudgetFlow × FlowReply)
  | .lease call =>
    if flow.permits call then (Lifecycle.step flow.leases call).map (fun moved => (flow.follow moved.1 call, .lease moved.2)) else none
  | .adjust admission actual =>
    match flow.leases.lease admission with
    | .finalized _ ⟨_, _, ⟨_, some index⟩⟩ =>
      match Lifecycle.step flow.leases (.resources (.budgetCall (.adjust index actual))) with
      | some (next, .resources (.budget reply)) =>
        some (BudgetFlow.hold { flow with leases := next } index reply.deltas, .adjusted reply.answer)
      | _ => none
    | _ => none
  | .deliver index =>
    match flow.hand index with
    | [] => none
    | delta :: rest =>
      (budgetStep flow.accumulator (deltaSink delta)).map (fun moved =>
        ({ flow with hands := Finmap.insert index rest flow.hands, accumulator := moved.1 }, .stored moved.2))
  | .store call =>
    if flow.stores call then
      (budgetStep flow.accumulator call).map (fun moved => ({ flow with accumulator := moved.1 }, .stored moved.2))
    else none

def bucketOf (delta : CommittedBudgetDelta) : BudgetBucketIdentity :=
  ⟨delta.keyID, bucketPeriod (periodText delta.identity), periodStart delta.identity⟩

def entryOf (delta : CommittedBudgetDelta) : BudgetBucketIdentity × Int := (bucketOf delta, delta.delta)

def amountOf (ds : List CommittedBudgetDelta) (bin : BudgetBucketIdentity) : Int := batchAmount (ds.map entryOf) bin

def credit (bin : BudgetBucketIdentity) : Option BudgetAdjustmentTicket → Int
  | none => 0
  | some ticket => if ticket.consumed then 0 else amountOf (captureDeltas ticket.keyID ticket.toBudgetCapture ticket.reserved.amount) bin

def ticketsOf (budgets : Option BudgetSystem) : List (Option BudgetAdjustmentTicket) :=
  (budgets.map (fun sys => sys.reservations.map BudgetReservation.ticket)).getD []

inductive TicketMove (tickets : List (Option BudgetAdjustmentTicket)) :
    Option Nat → List CommittedBudgetDelta → List (Option BudgetAdjustmentTicket) → Prop where
  | still : TicketMove tickets none [] tickets
  | reserved : TicketMove tickets none [] (tickets ++ [none])
  | settled (i new ds) (unissued : tickets[i]? = some none) (charges : ∀ d ∈ ds, 0 ≤ d.delta) (cov : ∀ bin, credit bin new ≤ amountOf ds bin) :
      TicketMove tickets (some i) ds (tickets.set i new)
  | adjusted (i ticket new ds) (issued : tickets[i]? = some (some ticket)) (unused : ticket.consumed = false) (used : new.consumed = true)
      (signed : (∀ d ∈ ds, 0 ≤ d.delta) ∨ ∀ d ∈ ds, d.delta ≤ 0) (backed : ∀ bin, 0 ≤ credit bin (some ticket) + amountOf ds bin) :
      TicketMove tickets (some i) ds (tickets.set i (some new))
  | dropped (i ticket new) (issued : tickets[i]? = some (some ticket)) (used : new.consumed = true) :
      TicketMove tickets none [] (tickets.set i (some new))

section Amounts

variable (bin : BudgetBucketIdentity)

@[simp] theorem amount_of_nil : amountOf [] bin = 0 := rfl

@[simp] theorem amount_of_cons (d : CommittedBudgetDelta) (rest : List CommittedBudgetDelta) :
    amountOf (d :: rest) bin = share bin (entryOf d) + amountOf rest bin := by
  simp [amountOf]

variable {ds : List CommittedBudgetDelta}

theorem amount_of_nonneg (charges : ∀ d ∈ ds, 0 ≤ d.delta) : 0 ≤ amountOf ds bin := by
  induction ds with
  | nil => simp
  | cons _ _ ih =>
    rw [List.forall_mem_cons] at charges
    rw [amount_of_cons, share, entryOf]
    split <;> simp_all
    omega

theorem amount_of_nonpos (refunds : ∀ d ∈ ds, d.delta ≤ 0) : amountOf ds bin ≤ 0 := by
  induction ds with
  | nil => simp
  | cons _ _ ih =>
    rw [List.forall_mem_cons] at refunds
    rw [amount_of_cons, share, entryOf]
    split <;> simp_all
    omega

end Amounts

section Captures

variable (keyID : String) (capture : Budget.BudgetCapture) (bucket : BudgetBucketIdentity)

def captured : List BudgetIdentity :=
  (if capture.totalCaptured then [.total] else []) ++ (if capture.dayCaptured then [.day capture.dayStart] else []) ++
    if capture.monthCaptured then [.month capture.monthStart] else []

theorem capture_deltas_map (d : Int) : captureDeltas keyID capture d = (captured capture).map (fun id => ⟨keyID, d, id⟩) := by
  simp only [captureDeltas, captured, List.map_append]
  split_ifs <;> rfl

def hits (identities : List BudgetIdentity) : Int := amountOf (identities.map (fun id => ⟨keyID, 1, id⟩)) bucket

variable (identities : List BudgetIdentity)

theorem amount_of_same (d : Int) : amountOf (identities.map (fun id => ⟨keyID, d, id⟩)) bucket = d * hits keyID bucket identities := by
  induction identities with
  | nil => simp [hits]
  | cons id _ ih =>
    simp only [hits, List.map_cons, amount_of_cons] at ih ⊢
    rw [ih, Int.mul_add]
    congr 1
    by_cases here : bucketOf ⟨keyID, d, id⟩ = bucket
    · have unit : bucketOf ⟨keyID, 1, id⟩ = bucket := here
      simp [share, entryOf, here, unit]
    · have unit : bucketOf ⟨keyID, 1, id⟩ ≠ bucket := here
      simp [share, entryOf, here, unit]

theorem hits_nonneg : 0 ≤ hits keyID bucket identities :=
  amount_of_nonneg bucket (by simp)

theorem hits_filter (keep : BudgetIdentity → Bool) (identities : List BudgetIdentity) :
    hits keyID bucket (identities.filter keep) ≤ hits keyID bucket identities := by
  induction identities with
  | nil => exact Int.le_refl _
  | cons id _ ih =>
    have unit : 0 ≤ share bucket (entryOf ⟨keyID, 1, id⟩) := by
      by_cases here : bucketOf ⟨keyID, 1, id⟩ = bucket <;> simp [share, entryOf, here]
    simp only [hits, List.filter_cons, List.map_cons, amount_of_cons] at ih ⊢
    split
    · simp only [List.map_cons, amount_of_cons]
      omega
    · omega

end Captures

section Moves

theorem credit_nonneg (bin : BudgetBucketIdentity) (ticket : Option BudgetAdjustmentTicket) : 0 ≤ credit bin ticket := by
  cases ticket with
  | none => exact Int.le_refl _
  | some =>
    simp only [credit]
    split
    · exact Int.le_refl _
    · refine amount_of_nonneg bin (fun d mem => ?_)
      rw [capture_deltas_map] at mem
      obtain ⟨_, _, rfl⟩ := List.mem_map.mp mem
      exact Int.natCast_nonneg _

variable {lim : Budget.BudgetLimiter} {ticket : BudgetAdjustmentTicket} {settlement : Budget.Settlement} {budgets next : BudgetSystem}
variable {term : Budget.Terminal} {rep : Budget.Reply} {actual : Money} {i : Nat}

theorem credit_used (bin : BudgetBucketIdentity) (used : ticket.consumed = true) : credit bin (some ticket) = 0 := by
  simp [credit, used]

variable {sys : BudgetSystem} {hold : BudgetReservation}

theorem settle_charges {kind : Budget.BudgetSettlementKind} {deferred : Bool}
    (out : Budget.SettleOutcome sys.limiter hold kind actual deferred lim settlement) :
    ∀ d ∈ settlement.deltas, 0 ≤ d.delta := by
  intro d mem
  cases out with
  | idle _ _ _ silent | refused _ _ _ _ _ silent => simp [silent] at mem
  | settled _ _ _ _ _ _ _ _ _ _ ds =>
    rw [ds] at mem
    split at mem
    · cases mem
    · rw [capture_deltas_map] at mem
      obtain ⟨_, _, rfl⟩ := List.mem_map.mp mem
      exact Int.natCast_nonneg _

theorem settle_covered (out : Budget.SettleOutcome sys.limiter hold term.kind term.actual term.deferred lim settlement)
    (bin : BudgetBucketIdentity) : credit bin settlement.ticket ≤ amountOf settlement.deltas bin := by
  have charges := amount_of_nonneg bin (settle_charges out)
  cases out with
  | idle _ _ _ _ ticket =>
    rw [ticket]
    split
    · exact charges
    · exact charges
  | refused _ _ _ _ _ _ ticket =>
    rw [ticket]
    exact charges
  | settled live nz st next cur charge did chargeKnown settlement billed ds ticket =>
    rw [ticket]
    split
    · rename_i issued
      obtain rfl := Budget.deferred_charge billed (Bool.and_eq_true _ _ ▸ issued).1
      rw [ds, if_neg (by simp [nz])]
      simp [credit, Budget.newTicket]
    · exact charges

theorem adjust_backed {adj : Budget.Adjustment} (out : Budget.AdjustOutcome sys.limiter ticket actual lim adj)
    (unused : ticket.consumed = false) : ((∀ d ∈ adj.deltas, 0 ≤ d.delta) ∨ ∀ d ∈ adj.deltas, d.delta ≤ 0) ∧
      ∀ bin, 0 ≤ credit bin (some ticket) + amountOf adj.deltas bin := by
  have silent : ∀ bin, 0 ≤ credit bin (some ticket) + amountOf [] bin := by
    intro bin
    simpa using credit_nonneg bin (some ticket)
  -- Some of the identities of the ticket, all moved by one difference.
  have did : ∀ keep : BudgetIdentity → Bool, ((∀ d ∈ ((captured ticket.toBudgetCapture).filter keep).map
          (fun id => (⟨ticket.keyID, actual.amount - ticket.reserved.amount, id⟩ : CommittedBudgetDelta)), 0 ≤ d.delta) ∨
        ∀ d ∈ ((captured ticket.toBudgetCapture).filter keep).map
          (fun id => (⟨ticket.keyID, actual.amount - ticket.reserved.amount, id⟩ : CommittedBudgetDelta)), d.delta ≤ 0) ∧
      ∀ bin, 0 ≤ credit bin (some ticket) + amountOf (((captured ticket.toBudgetCapture).filter keep).map
        (fun id => ⟨ticket.keyID, actual.amount - ticket.reserved.amount, id⟩)) bin := by
    intro keep
    refine ⟨?_, fun bin => ?_⟩
    · rcases Int.le_total 0 ((actual.amount : Int) - ticket.reserved.amount) with increase | refund
      · refine .inl (fun d mem => ?_)
        obtain ⟨_, _, rfl⟩ := List.mem_map.mp mem
        exact increase
      · refine .inr (fun d mem => ?_)
        obtain ⟨_, _, rfl⟩ := List.mem_map.mp mem
        exact refund
    · have kept := hits_filter ticket.keyID bin keep (captured ticket.toBudgetCapture)
      have some_ := hits_nonneg ticket.keyID bin ((captured ticket.toBudgetCapture).filter keep)
      simp only [credit, unused, Bool.false_eq_true, if_false, capture_deltas_map, amount_of_same]
      generalize hits ticket.keyID bin ((captured ticket.toBudgetCapture).filter keep) = part at *
      generalize hits ticket.keyID bin (captured ticket.toBudgetCapture) = whole at *
      have spent : 0 ≤ (actual.amount : Int) * part := Int.mul_nonneg (Int.natCast_nonneg _) some_
      have left : 0 ≤ (ticket.reserved.amount : Int) * (whole - part) := Int.mul_nonneg (Int.natCast_nonneg _) (by omega)
      rw [Int.mul_sub] at left
      rw [Int.sub_mul]
      omega
  cases out with
  | repeated used => simp [used] at unused
  | refused | equal => exact ⟨.inl (by simp), silent⟩
  | shifted =>
    have all := did (fun _ => true)
    simp only [List.filter_true, ← capture_deltas_map] at all
    exact all
  | torn _ st =>
    have some_ := did (fun id => Budget.takes actual ticket.reserved (Budget.held (some st) id))
    simp only [capture_deltas_map, List.filter_map]
    exact some_

def owner : Budget.Call → Option Nat
  | .finalize index _ => some index
  | .adjust index _ => some index
  | _ => none

theorem tickets_set (budgets : BudgetSystem) (lim : Budget.BudgetLimiter) (i : Nat) (new : BudgetReservation) :
    ticketsOf (some { budgets with limiter := lim, reservations := budgets.reservations.set i new }) =
      (ticketsOf (some budgets)).set i new.ticket := by
  simp [ticketsOf, List.map_set]

theorem ticket_at {budgets : BudgetSystem} (has : budgets.reservations[i]? = some hold) :
    (ticketsOf (some budgets))[i]? = some hold.ticket := by
  simp [ticketsOf, has]

theorem budget_ticket_move {call : Budget.Call} (ok : budgets.Sound) (ran : Budget.step budgets call = some (next, rep)) :
    ∃ label, TicketMove (ticketsOf (some budgets)) label rep.deltas (ticketsOf (some next)) ∧ ∀ i, label = some i → owner call = some i := by
  have quiet : ∀ {after : List (Option BudgetAdjustmentTicket)}, TicketMove (ticketsOf (some budgets)) none [] after →
      ∃ label, TicketMove (ticketsOf (some budgets)) label [] after ∧ ∀ i, label = some i → owner call = some i :=
    fun move => ⟨none, move, fun _ absurd => by cases absurd⟩
  cases Budget.step_outcome ok ran with
  | reserved _ _ _ _ _ lim hold out =>
    have unissued : hold.ticket = none := by
      cases out <;> rfl
    refine quiet ?_
    have grown : ticketsOf (some { budgets with limiter := lim, reservations := budgets.reservations ++ [hold] }) =
        ticketsOf (some budgets) ++ [none] := by
      simp [ticketsOf, unissued]
    rw [grown]
    exact .reserved
  | finalized i _ hold has new _ _ out =>
    have unissued := (ok hold (List.mem_of_getElem? has)).untouched new
    refine ⟨some i, ?_, fun _ same => same⟩
    rw [tickets_set]
    exact .settled i _ _ (unissued ▸ ticket_at has) (settle_charges out) (settle_covered out)
  | adjusted i _ _ ticket has issued _ _ out =>
    rw [tickets_set]
    cases unused : ticket.consumed with
    | false =>
      obtain ⟨signed, backed⟩ := adjust_backed out unused
      exact ⟨some i, .adjusted i ticket _ _ (issued ▸ ticket_at has) unused (Budget.adjust_consumed out) signed backed, fun _ same => same⟩
    | true =>
      cases out with
      | repeated used =>
        refine quiet ?_
        exact .dropped i ticket ticket (issued ▸ ticket_at has) used
      | refused new | equal new | shifted new | torn new => simp [new] at unused
  | invalidated i _ ticket has issued =>
    refine quiet ?_
    rw [show budgets = { budgets with limiter := budgets.limiter } from rfl, tickets_set]
    exact .dropped i ticket _ (issued ▸ ticket_at has) rfl
  | _ => exact quiet .still

theorem finalize_unissued (ok : budgets.Sound) (ran : Budget.step budgets (.finalize i term) = some (next, rep)) (loud : rep.deltas ≠ []) :
    (ticketsOf (some budgets))[i]? = some none := by
  cases Budget.step_outcome ok ran with
  | finalizedAgain => exact absurd rfl loud
  | finalized _ _ hold has new =>
    rw [ticket_at has, (ok hold (List.mem_of_getElem? has)).untouched new]

theorem silent_move {tickets after : List (Option BudgetAdjustmentTicket)} {ds : List CommittedBudgetDelta}
    (move : TicketMove tickets none ds after) : ds = [] := by
  cases move <;> rfl

end Moves

section Leases

variable {sys next : System} {rep : Lifecycle.Reply}

theorem lease_ticket_move {flow : BudgetFlow} {call : Lifecycle.Call} (reg : Lifecycle.Regular flow.leases) (may : flow.permits call = true)
    (unsettled : ∀ adm read, call ≠ .settle adm read) (ran : Lifecycle.step flow.leases call = some (next, rep)) :
    TicketMove (ticketsOf flow.leases.resources.budgets) none [] (ticketsOf next.resources.budgets) := by
  have act := Lifecycle.step_budget_act ran
  generalize next.resources.budgets = after at act ⊢
  cases act with
  | idle => exact .still
  | acted pre budgetCall _ _ has why did =>
    have unowned : owner budgetCall = none := by
      cases why with
      | outside => cases budgetCall <;> first | rfl | simp [BudgetFlow.permits] at may
      | reserving | timing => rfl
      | settling i read => exact absurd rfl (unsettled i read)
    rw [has]
    obtain ⟨label, move, own⟩ := budget_ticket_move (reg.budgets pre has) did
    cases label with
    | some => simp [unowned] at own
    | none => exact silent_move move ▸ move

variable {read : Int}

theorem settle_ticket_move {adm : Nat} (reg : Lifecycle.Regular sys) (ran : Lifecycle.step sys (.settle adm read) = some (next, rep)) :
    ∃ label, TicketMove (ticketsOf sys.resources.budgets) label (settledDeltas sys adm) (ticketsOf next.resources.budgets) ∧
      ∀ target, label = some target → leaseBudget sys adm = some target := by
  cases Lifecycle.step_outcome ran with
  | settled _ _ lease _ _ after _ took busy fin =>
    have child : leaseBudget sys adm = lease.budget := by simp [leaseBudget, took]
    have idle : after.budgets = sys.resources.budgets → settledDeltas sys adm = [] →
        ∃ label, TicketMove (ticketsOf sys.resources.budgets) label (settledDeltas sys adm) (ticketsOf after.budgets) ∧
          ∀ target, label = some target → leaseBudget sys adm = some target := by
      intro same silent
      rw [same, silent]
      exact ⟨none, .still, fun _ absurd => by cases absurd⟩
    cases fin with
    | budgetSettled _ _ _ budgets _ ans _ mine has did =>
      have ds : settledDeltas sys adm = ans.deltas := by simp [settledDeltas, child, mine, busy, has, did]
      obtain ⟨label, move, own⟩ := budget_ticket_move (reg.budgets budgets has) did
      refine ⟨label, ?_, fun target same => ?_⟩
      · rw [ds, has]
        exact move
      · rw [child, mine, ← own target same]
        rfl
    | budgetAbsent _ _ gone => exact idle rfl (by simp [settledDeltas, child, gone])
    | _ => exact idle rfl (by simp [settledDeltas, child, busy])

theorem settled_unissued {adm ticket : Nat} (reg : Lifecycle.Regular sys) (ran : Lifecycle.step sys (.settle adm read) = some (next, rep))
    (child : leaseBudget sys adm = some ticket)
    (issued : Lifecycle.Issued (Lifecycle.budgetMarks sys.resources.budgets) ticket) : settledDeltas sys adm = [] := by
  by_contra loud
  cases Lifecycle.step_outcome ran with
  | settled _ _ lease _ _ _ _ took busy fin =>
    have mine : leaseBudget sys adm = lease.budget := by simp [leaseBudget, took]
    cases fin with
    | budgetSettled _ _ i budgets _ ans _ budget has did =>
      have ds : settledDeltas sys adm = ans.deltas := by simp [settledDeltas, mine, budget, busy, has, did]
      obtain rfl : i = ticket := by rw [mine, budget] at child; exact Option.some.inj child
      have unissued := finalize_unissued (reg.budgets budgets has) did (ds ▸ loud)
      obtain ⟨_, marked⟩ := issued
      simp only [has, Lifecycle.budgetMarks, ticketsOf, Option.map_some, Option.getD_some, List.getElem?_map,
        Option.map_eq_some_iff] at marked unissued
      obtain ⟨_, there, mark⟩ := marked
      obtain ⟨_, here, none_⟩ := unissued
      rw [there] at here
      cases here
      simp [none_] at mark
    | budgetAbsent _ _ gone => simp [settledDeltas, mine, gone] at loud
    | _ => simp [settledDeltas, mine, busy] at loud

end Leases

end NineGateway.Persistence
