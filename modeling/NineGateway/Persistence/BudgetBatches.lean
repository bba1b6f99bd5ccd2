import NineGateway.Persistence.BudgetBacking

set_option autoImplicit false

namespace NineGateway.Persistence

open Budget (BudgetSystem BudgetReservation CommittedBudgetDelta)
open Lifecycle (System LeaseState Regular Ticketed Issued budgetMarks)
open Storage (BudgetTable BudgetBucketIdentity BudgetBucketError BudgetAccumulation AccumulatorCall AccumulatorReply Sheltered budgetStep)
open Coalesce (share batchAmount)
open Word64 (maxInt64 minInt64)
open Transition

def BudgetFlow.purse (flow : BudgetFlow) : Purse := ⟨ticketsOf flow.leases.resources.budgets, flow.hand⟩

open BudgetFlow

@[simp] theorem hand_hold (flow : BudgetFlow) (i q : Nat) (ds : List CommittedBudgetDelta) :
    (flow.hold i ds).hand q = if q = i then flow.hand q ++ ds else flow.hand q := by
  simp only [hand, hold, FiniteMap.lookup_put]
  split
  · rename_i here
    rw [here]
    rfl
  · rfl

def delivered : LeaseState → Bool
  | .finalizing _ (.returningSlot _) => true
  | .finalizing _ (.publishing _) => true
  | .finalized _ _ => true
  | _ => false

def Open (marks : List (Option Bool)) (ticket : Nat) : Prop := marks[ticket]? = some (some false)

structure Released (adm : Nat) (flow : BudgetFlow) : Prop where
  own : ∀ ticket, (flow.leases.lease adm).tickets.budget = some ticket → leaseBudget flow.leases adm = some ticket
  clear : delivered (flow.leases.lease adm) = true → ∀ ticket, (flow.leases.lease adm).tickets.budget = some ticket →
    Open (budgetMarks flow.leases.resources.budgets) ticket → flow.hand ticket = []

section Released

variable {flow after : BudgetFlow} {call : Lifecycle.Call} {rep : Lifecycle.Reply} {adm : Nat}

variable {ticket : Nat}

theorem open_before {pre later : List (Option Bool)} (kept : Lifecycle.MarksKept pre later) (issued : Issued pre ticket)
    (open_ : Open later ticket) : Open pre ticket := by
  obtain ⟨spent, marked⟩ := issued
  cases spent with
  | false => exact marked
  | true =>
    have used := Lifecycle.consumed_kept kept marked
    simp [Lifecycle.Consumed, Open] at used open_
    simp [used] at open_

theorem lease_budget_kept {sys next : System} (ran : Lifecycle.step sys call = some (next, rep))
    (child : leaseBudget sys adm = some ticket) : leaseBudget next adm = some ticket := by
  obtain ⟨_, took, budget⟩ := Option.bind_eq_some_iff.mp child
  have kept := (Lifecycle.admitted_kept ran took).2
  simp [leaseBudget, kept, budget]

theorem finish_tickets {res later : Resource.LeaseSystem} {read : Int} {lease : Resource.ResourceLease} {out : Lifecycle.LeaseOutcome}
    {prog : Lifecycle.Progress} {st : LeaseState} (fin : Lifecycle.FinishOutcome res read lease out prog later st)
    (held : st.tickets.budget = some ticket) :
    prog.tickets.budget = some ticket ∨ lease.budget = some ticket ∧ delivered st = false := by
  cases fin with
  | budgetSettled _ _ _ _ _ _ _ child =>
    split at held
    · obtain ⟨_, _, rfl⟩ := Option.map_eq_some_iff.mp held
      exact .inr ⟨child, rfl⟩
    · cases held
  | tokensAbsent | tokensSettled | budgetAbsent => simp [LeaseState.tickets, Lifecycle.Progress.tickets] at held
  | slotSpent | slotReleased | slotReturned | published => exact .inl held

theorem released_step (reg : Regular flow.leases) (ticketed : Ticketed adm flow.leases) (freed : Released adm flow)
    (ran : Lifecycle.step flow.leases call = some (after.leases, rep))
    (hands : ∀ ticket, Issued (budgetMarks flow.leases.resources.budgets) ticket → Open (budgetMarks after.leases.resources.budgets) ticket →
      flow.hand ticket = [] → after.hand ticket = [])
    (waited : ∀ read, call = .settle adm read → ∀ ticket, leaseBudget flow.leases adm = some ticket → flow.hand ticket = []) :
    Released adm after := by
  have marks := Lifecycle.budget_marks_kept reg ran
  have onward : ∀ ticket, (flow.leases.lease adm).tickets.budget = some ticket → (Open (budgetMarks flow.leases.resources.budgets) ticket →
      flow.hand ticket = []) → Open (budgetMarks after.leases.resources.budgets) ticket → after.hand ticket = [] := by
    intro ticket held clear open_
    have issued := ticketed.budget ticket held
    exact hands ticket issued open_ (clear (open_before marks issued open_))
  cases Lifecycle.lease_move ran adm with
  | kept _ _ same =>
    refine ⟨fun ticket held => lease_budget_kept ran (freed.own ticket (same ▸ held)), ?_⟩
    rw [same]
    exact fun past ticket held => onward ticket held (freed.clear past ticket held)
  | opened _ _ _ _ _ st => exact ⟨by simp [st, LeaseState.tickets, Lifecycle.Progress.tickets, Lifecycle.noTickets], by simp [st, delivered]⟩
  | settled _ read lease _ _ took busy fin =>
    have child : leaseBudget flow.leases adm = lease.budget := by simp [leaseBudget, took]
    have own := freed.own
    rw [busy] at own onward
    refine ⟨fun ticket held => ?_, fun past ticket held => ?_⟩
    · rcases finish_tickets fin held with pre | ⟨mine, _⟩
      · exact lease_budget_kept ran (own ticket pre)
      · exact lease_budget_kept ran (child.trans mine)
    · rcases finish_tickets fin held with pre | ⟨_, early⟩
      · exact onward ticket pre (fun _ => waited read rfl ticket (own ticket pre))
      · simp [early] at past

end Released

structure Keyed (keys : List String) (sys : System) : Prop where
  admissions : ∀ adm ∈ sys.resources.admissions, adm.options.keyID ∈ keys
  reservations : ∀ budgets, sys.resources.budgets = some budgets → ∀ hold ∈ budgets.reservations, hold.keyID ∈ keys

def asksKnown (keys : List String) : Lifecycle.Call → Bool
  | .resources (.acquire options) => decide (options.keyID ∈ keys)
  | .resources (.acquireWithProvisional _ options) => decide (options.keyID ∈ keys)
  | .resources (.budgetCall (.reserve _ keyID _ _)) => decide (keyID ∈ keys)
  | _ => true

section Keys

variable {keys : List String}

theorem capture_key {key : String} {cap : Budget.BudgetCapture} {amt : Int} {d : CommittedBudgetDelta}
    (mem : d ∈ Budget.captureDeltas key cap amt) : d.keyID = key := by
  rw [capture_deltas_map] at mem
  obtain ⟨_, _, rfl⟩ := List.mem_map.mp mem
  rfl

theorem budget_step_keyed {budgets next : BudgetSystem} {call : Budget.Call} {rep : Budget.Reply} (ok : budgets.Sound)
    (keyed : ∀ hold ∈ budgets.reservations, hold.keyID ∈ keys) (known : ∀ read key pol cand, call = .reserve read key pol cand → key ∈ keys)
    (ran : Budget.step budgets call = some (next, rep)) :
    (∀ hold ∈ next.reservations, hold.keyID ∈ keys) ∧ ∀ d ∈ rep.deltas, d.keyID ∈ keys := by
  cases Budget.step_outcome ok ran with
  | reserved read key pol cand _ _ _ out =>
    refine ⟨Roster.forall_append _ _ keyed ?_, by simp⟩
    have named := known read key pol cand rfl
    cases out <;> exact named
  | finalized _ _ hold has _ _ _ out =>
    have mine := keyed hold (List.mem_of_getElem? has)
    refine ⟨Roster.forall_set _ _ _ keyed mine, fun d mem => ?_⟩
    cases out with
    | idle _ _ _ silent | refused _ _ _ _ _ silent => simp [silent] at mem
    | settled _ _ _ _ _ _ _ _ _ _ ds =>
      rw [ds] at mem
      split at mem
      · cases mem
      · exact capture_key mem ▸ mine
  | adjusted _ _ hold ticket has issued _ _ out =>
    have mine := keyed hold (List.mem_of_getElem? has)
    refine ⟨Roster.forall_set _ _ _ keyed mine, fun d mem => ?_⟩
    have issuedFor : ticket.consumed = false → ∀ amt, ∀ alt ∈ Budget.captureDeltas ticket.keyID ticket.toBudgetCapture amt, alt.keyID ∈ keys := by
      intro unused amt alt there
      rcases (ok hold (List.mem_of_getElem? has)).ticketIssued ticket issued unused with rfl | rfl
      · exact capture_key there ▸ mine
      · simp [Budget.captureDeltas, Budget.idleTicket] at there
    cases out with
    | repeated | refused | equal => cases mem
    | shifted unused => exact issuedFor unused _ d mem
    | torn unused => exact issuedFor unused _ d (List.mem_of_mem_filter mem)
  | invalidated _ hold _ has =>
    exact ⟨Roster.forall_set _ _ _ keyed (keyed hold (List.mem_of_getElem? has)), by simp⟩
  | _ => exact ⟨keyed, by simp⟩

theorem keyed_step {sys next : System} {call : Lifecycle.Call} {rep : Lifecycle.Reply} (reg : Regular sys) (keyed : Keyed keys sys)
    (known : asksKnown keys call = true) (ran : Lifecycle.step sys call = some (next, rep)) : Keyed keys next := by
  constructor
  · intro adm mem
    obtain ⟨i, hit⟩ := List.mem_iff_getElem?.mp mem
    cases Lifecycle.step_turn ran i with
    | foreign _ _ _ _ _ same => exact keyed.admissions adm (List.mem_of_getElem? (same ▸ hit))
    | entered _ _ _ _ asked _ _ _ adms =>
      obtain rfl : _ = adm := by simpa [adms] using hit
      rcases asked with rfl | ⟨_, rfl⟩ <;> simpa [asksKnown] using known
    | advanced _ _ _ old _ _ has _ _ _ _ placed =>
      cases placed.symm.trans hit
      exact keyed.admissions old (List.mem_of_getElem? has)
  · refine Transition.within_kept ?_ (Lifecycle.step_budget_act ran) keyed.reservations
    intro pre _ _ _ has held why did
    refine (budget_step_keyed (reg.budgets pre has) held ?_ did).1
    rintro _ _ _ _ rfl
    cases why with
    | outside => simpa [asksKnown] using known
    | reserving _ _ adm there => exact keyed.admissions adm (List.mem_of_getElem? there)

end Keys

def charge (flow : BudgetFlow) (call : FlowCall) (_ : FlowReply) (_ : BudgetFlow) (bucket : BudgetBucketIdentity) : Int :=
  match call with
  | .deliver index =>
    match flow.hand index with
    | [] => 0
    | delta :: _ => max 0 (share bucket (entryOf delta))
  | _ => 0

def FlowCall.asksKnown (keys : List String) : FlowCall → Bool
  | .lease call => Persistence.asksKnown keys call
  | _ => true

structure Backed (initial : BudgetTable) (billed : BudgetBucketIdentity → Int) (flow : BudgetFlow) : Prop where
  regular : Regular flow.leases
  ticketed : ∀ adm, Ticketed adm flow.leases
  released : ∀ adm, Released adm flow
  keyed : Keyed initial.keys flow.leases
  hands : ∀ i, ∀ d ∈ flow.hand i, d.keyID ∈ initial.keys
  table : flow.accumulator.table.keys = initial.keys
  purse : flow.purse.Sound
  sheltered : Sheltered BudgetTable.persisted initial billed flow.accumulator
  backed : flow.accumulator.accepting = true → ∀ bin,
    flow.purse.owed bin ≤ flow.accumulator.held BudgetTable.persisted bin - initial.persisted bin
  unknown : ∀ bin, bin.apiKeyID ∉ initial.keys → billed bin = 0

section Steps

variable {initial : BudgetTable} {billed : BudgetBucketIdentity → Int} {flow next : BudgetFlow} {rep : FlowReply}

variable {err : BudgetBucketError} {acc after : BudgetAccumulation} {ans : Lifecycle.Reply} {call : Lifecycle.Call}
variable {i : Nat}

variable (backed : Backed initial billed flow)
include backed

theorem lease_backed {label : Option Nat} {ds : List CommittedBudgetDelta} (known : asksKnown initial.keys call = true)
    (ran : Lifecycle.step flow.leases call = some (next.leases, ans)) (store : next.accumulator = flow.accumulator)
    (had : ∀ q, next.hand q = if q = i then flow.hand q ++ ds else flow.hand q)
    (move : TicketMove (ticketsOf flow.leases.resources.budgets) label ds (ticketsOf next.leases.resources.budgets))
    (own : ∀ target, label = some target → target = i) (empty : label ≠ none → flow.hand i = []) (keys : ∀ d ∈ ds, d.keyID ∈ initial.keys)
    (paid : ds ≠ [] → Issued (budgetMarks flow.leases.resources.budgets) i → ¬ Open (budgetMarks next.leases.resources.budgets) i)
    (waited : ∀ adm read, call = .settle adm read → ∀ ticket, leaseBudget flow.leases adm = some ticket → flow.hand ticket = []) :
    Backed initial billed next := by
  have purse : next.purse = flow.purse.carry i ds (ticketsOf next.leases.resources.budgets) := by
    simp only [purse, Purse.carry, Purse.mk.injEq]
    exact ⟨trivial, funext had⟩
  obtain ⟨ok, less⟩ := Purse.carried backed.purse move own empty
  refine ⟨Lifecycle.regular_step backed.regular ran, fun adm => Lifecycle.ticketed_step backed.regular (backed.ticketed adm) ran,
    fun adm => ?_, keyed_step backed.regular backed.keyed known ran, fun q d mem => ?_, by rw [store]; exact backed.table,
    purse ▸ ok, by rw [store]; exact backed.sheltered, ?_, backed.unknown⟩
  · refine released_step backed.regular (backed.ticketed adm) (backed.released adm) ran (fun ticket issued open_ clear => ?_) (waited adm)
    rw [had]
    split
    · rename_i here
      subst here
      by_cases silent : ds = []
      · simp [clear, silent]
      · exact absurd open_ (paid silent issued)
    · exact clear
  · rw [had] at mem
    split at mem
    · rcases List.mem_append.mp mem with old | new
      · exact backed.hands q d old
      · exact keys d new
    · exact backed.hands q d mem
  · rw [store, purse]
    exact fun accepting bin => (less bin).trans (backed.backed accepting bin)

omit backed in
theorem marks_tickets (budgets : Option BudgetSystem) :
    budgetMarks budgets = (ticketsOf budgets).map (Option.map Budget.BudgetAdjustmentTicket.consumed) := by
  cases budgets <;> simp [budgetMarks, ticketsOf, Function.comp_def]

omit backed in
theorem settled_deltas_keyed {sys : System} {keys : List String} (reg : Regular sys) (keyed : Keyed keys sys) (adm : Nat) :
    ∀ d ∈ settledDeltas sys adm, d.keyID ∈ keys := by
  intro d mem
  unfold settledDeltas at mem
  split at mem
  · rename_i i out _ _ budgets _ _ present
    cases did : Budget.step budgets (.finalize i out.budget) with
    | none => simp [did] at mem
    | some =>
      simp only [did, Option.map_some, Option.getD_some] at mem
      exact (budget_step_keyed (reg.budgets budgets present) (keyed.reservations budgets present) (by simp) did).2 d mem
  · cases mem

theorem quiet_backed {after : System} (known : asksKnown initial.keys call = true) (ran : Lifecycle.step flow.leases call = some (after, ans))
    (move : TicketMove (ticketsOf flow.leases.resources.budgets) none [] (ticketsOf after.resources.budgets))
    (waited : ∀ adm read, call = .settle adm read → ∀ ticket, leaseBudget flow.leases adm = some ticket → flow.hand ticket = []) :
    Backed initial billed { flow with leases := after } := by
  have same : ∀ q, hand { flow with leases := after } q = if q = 0 then flow.hand q ++ [] else flow.hand q := by
    intro q
    rw [List.append_nil, ite_self]
    rfl
  exact lease_backed backed known ran rfl same move (by simp) (by simp) (by simp) (by simp) waited

theorem moved_backed {after : System} (known : asksKnown initial.keys call = true) (may : flow.permits call = true)
    (ran : Lifecycle.step flow.leases call = some (after, ans)) : Backed initial billed (flow.follow after call) := by
  by_cases settling : ∃ adm read, call = .settle adm read
  · obtain ⟨adm, read, rfl⟩ := settling
    have waited : ∀ ticket, leaseBudget flow.leases adm = some ticket → flow.hand ticket = [] := by
      intro ticket child
      simpa [permits, child] using may
    obtain ⟨label, move, own⟩ := settle_ticket_move backed.regular ran
    cases child : leaseBudget flow.leases adm with
    | none =>
      have followed : flow.follow after (.settle adm read) = { flow with leases := after } := by simp [follow, child]
      have unlabelled : label = none := by
        by_contra labelled
        obtain ⟨target, same⟩ := Option.ne_none_iff_exists'.mp labelled
        simp [child] at own
        exact own target same
      rw [show settledDeltas flow.leases adm = [] from by simp [settledDeltas, child], unlabelled] at move
      rw [followed]
      refine quiet_backed backed known ran move ?_
      rintro alt later ⟨⟩
      exact waited
    | some i =>
      have followed : flow.follow after (.settle adm read) =
          hold { flow with leases := after } i (settledDeltas flow.leases adm) := by simp [follow, child]
      rw [followed]
      refine lease_backed backed known ran rfl (hand_hold _ i · _) move (fun target same => ?_) (fun _ => waited i child)
        (settled_deltas_keyed backed.regular backed.keyed adm) (fun loud issued => ?_) ?_
      · rw [own target same] at child
        exact Option.some.inj child
      · exact absurd (settled_unissued backed.regular ran child issued) loud
      · rintro alt later ⟨⟩
        exact waited
  · have unsettled : ∀ adm read, call ≠ .settle adm read := fun adm read same => settling ⟨adm, read, same⟩
    have followed : flow.follow after call = { flow with leases := after } := by
      unfold follow
      split
      · exact absurd rfl (unsettled _ _)
      · rfl
    rw [followed]
    exact quiet_backed backed known ran (lease_ticket_move backed.regular may unsettled ran)
      (fun adm read same => absurd same (unsettled adm read))

theorem adjusted_backed {adm i : Nat} {actual : Money} {after : System} {ans : Budget.Reply} {out : Lifecycle.LeaseOutcome}
    {res : Lifecycle.LeaseResult} (closed : flow.leases.lease adm = .finalized out res) (handed : res.tickets.budget = some i)
    (ran : Lifecycle.step flow.leases (.resources (.budgetCall (.adjust i actual))) = some (after, .resources (.budget ans))) :
    Backed initial billed (hold { flow with leases := after } i ans.deltas) := by
  obtain ⟨budgets, later, has, did, same⟩ : ∃ budgets later, flow.leases.resources.budgets = some budgets ∧
      Budget.step budgets (.adjust i actual) = some (later, ans) ∧ after.resources.budgets = some later := by
    cases Lifecycle.step_outcome ran with
    | resources _ _ _ _ move =>
      cases move with
      | budgets _ budgets later _ has inner => exact ⟨budgets, later, has, inner, by simp⟩
  have held : (flow.leases.lease adm).tickets.budget = some i := by rw [closed]; exact handed
  have issued := (backed.ticketed adm).budget i held
  have clear := (backed.released adm).clear (by rw [closed]; rfl) i held
  have ok := backed.regular.budgets budgets has
  obtain ⟨label, move, own⟩ := budget_ticket_move ok did
  rw [marks_tickets, has] at issued clear
  obtain ⟨_, marked⟩ := issued
  have unsettled : (ticketsOf (some budgets))[i]? ≠ some none := by
    intro unissued
    simp [unissued] at marked
  have labelled : ∀ target, label = some target → target = i := by
    intro target there
    have mine := own target there
    simp only [owner, Option.some.injEq] at mine
    exact mine.symm
  have empty : label ≠ none → flow.hand i = [] := by
    intro loud
    obtain ⟨target, there⟩ := Option.ne_none_iff_exists'.mp loud
    obtain rfl := labelled target there
    subst there
    generalize ticketsOf (some later) = tickets at move
    cases move with
    | settled _ _ _ unissued => exact absurd unissued unsettled
    | adjusted _ _ _ _ hit unused => exact clear (by simp [Open, hit, unused])
  have used : ans.deltas ≠ [] → ¬ Open (budgetMarks (some later)) i := by
    intro loud open_
    rw [marks_tickets] at open_
    cases label with
    | none => exact loud (silent_move move)
    | some target =>
      obtain rfl := labelled target rfl
      generalize ticketsOf (some later) = tickets at move open_
      cases move with
      | settled _ _ _ unissued => exact unsettled unissued
      | adjusted _ _ _ _ hit _ used =>
        have inside := (List.getElem?_eq_some_iff.mp hit).1
        simp [Open, inside, used] at open_
  have keys := (budget_step_keyed ok (backed.keyed.reservations budgets has) (by simp) did).2
  refine lease_backed backed rfl ran rfl (hand_hold _ i · _) (has ▸ same ▸ move) labelled empty keys (fun loud _ => ?_) (by simp)
  rw [show (hold { flow with leases := after } i ans.deltas).leases.resources.budgets = some later from same]
  exact used loud

omit backed in
theorem store_keys {call : AccumulatorCall BudgetBucketIdentity} {ans : AccumulatorReply BudgetBucketError}
    (ran : budgetStep acc call = some (after, ans)) : after.table.keys = acc.table.keys := by
  have applied : ∀ (table later : BudgetTable) (batch : List (BudgetBucketIdentity × Int)), Storage.applyDeltas table batch = .ok later →
      later.keys = table.keys := by
    intro table later batch made
    obtain ⟨_, _, rfl⟩ := Storage.map_ok made
    rfl
  cases Storage.accumulated ran with
  | written _ _ _ _ made => exact applied _ _ _ made
  | _ => rfl

theorem delivered_backed {d : CommittedBudgetDelta} {rest : List CommittedBudgetDelta} {after : BudgetAccumulation}
    {ans : AccumulatorReply BudgetBucketError} (hand : flow.hand i = d :: rest)
    (bound : ∀ bin, billed bin + max 0 (share bin (entryOf d)) ≤ maxInt64)
    (ran : budgetStep flow.accumulator (deltaSink d) = some (after, ans)) :
    Backed initial (fun bin => billed bin + max 0 (share bin (entryOf d)))
      { flow with hands := Finmap.insert i rest flow.hands, accumulator := after } := by
  have hands : ∀ q, BudgetFlow.hand { flow with hands := Finmap.insert i rest flow.hands, accumulator := after } q =
      if q = i then rest else flow.hand q := by
    intro q
    simp only [BudgetFlow.hand, FiniteMap.lookup_put]
    split <;> rfl
  have purse : BudgetFlow.purse { flow with hands := Finmap.insert i rest flow.hands, accumulator := after } = flow.purse.deliver i rest := by
    simp only [BudgetFlow.purse, Purse.deliver, Purse.mk.injEq]
    exact ⟨trivial, funext hands⟩
  obtain ⟨ok, less⟩ := Purse.delivered backed.purse (show flow.purse.hand i = d :: rest from hand)
  have mine := backed.hands i d (by simp [hand])
  have own : share (bucketOf d) (entryOf d) = d.delta := by simp [share, entryOf]
  have grows : ∀ bin, billed bin ≤ billed bin + max 0 (share bin (entryOf d)) := by simp
  have inside : flow.accumulator.accepting = true →
      0 ≤ flow.accumulator.held BudgetTable.persisted (bucketOf d) - initial.persisted (bucketOf d) + d.delta ∧
        flow.accumulator.held BudgetTable.persisted (bucketOf d) - initial.persisted (bucketOf d) + d.delta ≤
          billed (bucketOf d) + max 0 (share (bucketOf d) (entryOf d)) := by
    intro accepting
    -- A refund takes back no more than its ticket holds to be delivered.
    have pos := (flow.purse.deliver i rest).owed_nonneg (bucketOf d)
    have smaller := less (bucketOf d)
    have cov := backed.backed accepting (bucketOf d)
    have upper := (backed.sheltered.held (bucketOf d)).2
    omega
  obtain ⟨safe, same, held⟩ := Storage.sheltered_sink backed.sheltered grows bound inside ran
  refine ⟨backed.regular, backed.ticketed, fun adm => ⟨(backed.released adm).own, fun closed ticket child open_ => ?_⟩, backed.keyed,
    fun q alt mem => ?_, (store_keys ran).trans backed.table, purse ▸ ok, safe, fun accepting bin => ?_,
    fun bin unknown => ?_⟩
  · have empty := (backed.released adm).clear closed ticket child open_
    have away : ticket ≠ i := by
      rintro rfl
      simp [hand] at empty
    rw [hands, if_neg away, empty]
  · rw [hands] at mem
    split at mem
    · rename_i here
      exact backed.hands q alt (by rw [here, hand]; exact List.mem_cons_of_mem _ mem)
    · exact backed.hands q alt mem
  · have pre : flow.accumulator.accepting = true := same ▸ accepting
    have cov := backed.backed pre bin
    have smaller := less bin
    have did := held pre bin
    rw [show (bucketOf d, d.delta) = entryOf d from rfl] at did
    rw [purse]
    simp only [did]
    omega
  · have apart : bucketOf d ≠ bin := by
      rintro rfl
      exact unknown mine
    simp [share, entryOf, apart, backed.unknown bin unknown]

theorem backed_step {call : FlowCall} (known : call.asksKnown initial.keys = true)
    (bound : ∀ bin, billed bin + charge flow call rep next bin ≤ maxInt64) (ran : flowStep flow call = some (next, rep)) :
    Backed initial (billed + charge flow call rep next) next := by
  have uncharged : ∀ {after : BudgetFlow}, (∀ bin, charge flow call rep next bin = 0) → Backed initial billed after →
      Backed initial (billed + charge flow call rep next) after := by
    intro after free there
    rwa [show charge flow call rep next = 0 from funext free, add_zero]
  cases call with
  | lease =>
    simp only [flowStep, Option.ite_none_right_eq_some] at ran
    obtain ⟨may, did⟩ := ran
    obtain ⟨⟨_, _⟩, inner, ⟨⟩⟩ := Option.map_eq_some_iff.mp did
    exact uncharged (fun _ => rfl) (moved_backed backed known may inner)
  | adjust adm actual =>
    simp only [flowStep] at ran
    split at ran
    · rename_i out tokenErr budgetErr token i closed
      split at ran <;> cases ran
      rename_i after ans inner
      exact uncharged (fun _ => rfl) (adjusted_backed backed closed rfl inner)
    · cases ran
  | deliver i =>
    simp only [flowStep] at ran
    split at ran
    · cases ran
    rename_i d rest hand
    obtain ⟨⟨after, ans⟩, inner, ⟨⟩⟩ := Option.map_eq_some_iff.mp ran
    have cost : charge flow (.deliver i) (.stored ans) { flow with hands := Finmap.insert i rest flow.hands, accumulator := after } =
        fun bin => max 0 (share bin (entryOf d)) := by
      funext bin
      simp [charge, hand]
    simp only [cost] at bound ⊢
    exact delivered_backed backed hand bound inner
  | store call =>
    simp only [flowStep, Option.ite_none_right_eq_some] at ran
    obtain ⟨allowed, did⟩ := ran
    obtain ⟨⟨_, _⟩, inner, ⟨⟩⟩ := Option.map_eq_some_iff.mp did
    refine uncharged (fun _ => rfl) ?_
    have limited : ∀ bin, billed bin ≤ maxInt64 := fun bin => by simpa [charge] using bound bin
    have quiet : ∀ target d, call ≠ .sink target d := by
      rintro target d rfl
      simp [stores] at allowed
    have serial : ∀ order, call = .take order → flow.accumulator.grounded = true := by
      rintro order rfl
      exact allowed
    obtain ⟨safe, begun, still⟩ := Storage.sheltered_flush Storage.apply_deltas_adds backed.sheltered limited quiet serial inner
    refine ⟨backed.regular, backed.ticketed, fun adm => ⟨(backed.released adm).own, (backed.released adm).clear⟩, backed.keyed,
      backed.hands, (store_keys inner).trans backed.table, backed.purse, safe, fun accepting bin => ?_, backed.unknown⟩
    rw [still bin]
    exact backed.backed (begun accepting) bin

omit backed in
theorem refused_batch {call : AccumulatorCall BudgetBucketIdentity} (ran : budgetStep acc call = some (after, .refused err)) :
    ∃ (i : Nat) (batch : List (BudgetBucketIdentity × Int)), acc.flights[i]? = some (.taken batch) ∧
      Storage.applyDeltas acc.table batch = .error err := by
  cases Storage.accumulated ran with
  | refused i batch _ has denied => exact ⟨i, batch, has, denied⟩

theorem backed_batch (stored : ∀ bin, 0 ≤ initial.persisted bin) (bounded : ∀ bin, billed bin ≤ maxInt64)
    {batch : List (BudgetBucketIdentity × Int)} (has : flow.accumulator.flights[i]? = some (.taken batch))
    (denied : Storage.applyDeltas flow.accumulator.table batch = .error err) : err = .invalid ∨ err = .overflow := by
  have diff : (batch.map Prod.fst).Nodup := backed.sheltered.tidy _ (List.mem_of_getElem? has)
  have out : ∀ bin, flow.accumulator.inFlight bin = batchAmount batch bin := by
    intro bin
    rw [Storage.serial_in_flight backed.sheltered.serial has rfl, Storage.taken_amount]
  have written := backed.sheltered.written
  have taken := backed.sheltered.taken
  simp only [out] at taken
  refine Storage.apply_deltas_error diff (fun entry mem moves => ?_) (fun entry mem => ?_) (fun bin => ?_) denied
  · by_contra foreign
    rw [backed.table] at foreign
    have uncharged := backed.unknown entry.1 foreign
    have none_ := written entry.1
    have still := taken entry.1
    rw [Coalesce.batch_entry diff mem, uncharged] at still
    omega
  · have bound := bounded entry.1
    have pre := written entry.1
    have after := taken entry.1
    rw [Coalesce.batch_entry diff mem] at after
    simp only [minInt64, maxInt64] at *
    omega
  · have start := stored bin
    have after := taken bin
    omega

theorem backed_unpoisoned (stored : ∀ bin, 0 ≤ initial.persisted bin) (bound : ∀ bin, billed bin ≤ maxInt64) {call : FlowCall}
    (ran : flowStep flow call = some (next, .stored (.refused err))) : err = .invalid ∨ err = .overflow := by
  cases call with
  | lease =>
    simp only [flowStep, Option.ite_none_right_eq_some] at ran
    obtain ⟨_, _, ⟨⟩⟩ := Option.map_eq_some_iff.mp ran.2
  | adjust =>
    simp only [flowStep] at ran
    split at ran
    · split at ran <;> cases ran
    · cases ran
  | deliver =>
    simp only [flowStep] at ran
    split at ran
    · cases ran
    · obtain ⟨⟨_, _⟩, inner, ⟨⟩⟩ := Option.map_eq_some_iff.mp ran
      cases Storage.accumulated inner
  | store =>
    simp only [flowStep, Option.ite_none_right_eq_some] at ran
    obtain ⟨⟨_, _⟩, inner, ⟨⟩⟩ := Option.map_eq_some_iff.mp ran.2
    obtain ⟨_, _, has, applied⟩ := refused_batch inner
    exact backed_batch backed stored bound has applied

end Steps

theorem charge_nonneg (flow next : BudgetFlow) (call : FlowCall) (rep : FlowReply) (bin : BudgetBucketIdentity) :
    0 ≤ charge flow call rep next bin := by
  cases call with
  | deliver =>
    simp only [charge]
    split
    · exact Int.le_refl 0
    · exact Int.le_max_left _ _
  | _ => exact Int.le_refl 0

theorem backed_start (slots : Option Nat) (tokens : Bool) (table : BudgetTable) : Backed table 0 (newFlow slots tokens table) := by
  have blank : ∀ i, (newFlow slots tokens table).hand i = [] := fun _ => rfl
  refine ⟨Lifecycle.regular_fresh slots tokens true, fun adm =>
    ⟨fun _ _ _ => rfl, fun _ absurd => (by cases absurd), fun _ absurd => (by cases absurd)⟩,
    fun adm => ⟨fun _ absurd => (by cases absurd), fun closed => (by cases closed)⟩, ⟨fun _ absurd => (by cases absurd), ?_⟩, ?_, rfl,
    ⟨fun i _ => blank i, fun i => .inl ?_⟩, Storage.sheltered_start table, fun _ bucket => ?_, fun _ _ => rfl⟩
  · rintro budgets ⟨⟩ hold ⟨⟩
  · intro i d mem
    simp [blank] at mem
  · nofun
  · have begun : Sheltered BudgetTable.persisted table 0 (Storage.newAccumulation table) := Storage.sheltered_start table
    exact (begun.held bucket).1

-- Every refund follows a charge of its own, so that no batch asks more of a row
-- than the row has.
theorem budget_batches_unpoisoned {slots : Option Nat} {tokens : Bool} {table : BudgetTable} {calls : List FlowCall} {flow next : BudgetFlow}
    {replies : List FlowReply} {call : FlowCall} {reply : FlowReply} (stored : ∀ bucket, 0 ≤ table.persisted bucket)
    (known : ∀ call ∈ calls, call.asksKnown table.keys = true)
    (bounded : ∀ bucket, Transition.tally flowStep charge (newFlow slots tokens table) calls bucket ≤ maxInt64)
    (run : Transition.execute flowStep (newFlow slots tokens table) calls = some (flow, replies))
    (transition : flowStep flow call = some (next, reply)) :
    reply ≠ .stored (.refused .underflow) ∧ reply ≠ .stored (.refused .unknownKey) := by
  have along : Along flowStep (fun _ call => call.asksKnown table.keys = true) (newFlow slots tokens table) calls :=
    along_of_forall (fun _ => known) _
  have backed := run_tallied charge (fun billed flow => (∀ bucket, billed bucket ≤ maxInt64) → Backed table billed flow)
    (fun billed flow call next reply backed asked did bound => ?_) (fun _ => backed_start slots tokens table) along run
  · rw [zero_add] at backed
    have backed := backed bounded
    have harmless : ∀ err, reply = .stored (.refused err) → err = .invalid ∨ err = .overflow := by
      rintro err rfl
      exact backed_unpoisoned backed stored bounded transition
    constructor
    · intro poisoned
      simpa using harmless _ poisoned
    · intro poisoned
      simpa using harmless _ poisoned
  · refine backed_step (backed fun bucket => ?_) asked bound did
    have cost := charge_nonneg flow next call reply bucket
    have total := bound bucket
    simp only [Pi.add_apply] at total
    omega

def outlay (flow : BudgetFlow) : FlowCall → FlowReply → Nat
  | .deliver index, _ =>
    match flow.hand index with
    | [] => 0
    | delta :: _ => delta.delta.toNat
  | _, _ => 0

theorem charge_le_outlay (flow next : BudgetFlow) (call : FlowCall) (rep : FlowReply) (bin : BudgetBucketIdentity) :
    charge flow call rep next bin ≤ outlay flow call rep := by
  cases call with
  | deliver i =>
    simp only [charge, outlay]
    split
    · exact Int.le_refl 0
    rename_i d rest _
    by_cases here : bucketOf d = bin
    · simp only [share, entryOf, here, if_true]
      omega
    · simp [share, entryOf, here]
  | _ => exact Int.le_refl 0

theorem tally_le_outlay (cs : List FlowCall) (flow : BudgetFlow) (bin : BudgetBucketIdentity) :
    Transition.tally flowStep charge flow cs bin ≤ Transition.measure flowStep outlay flow cs := by
  induction cs generalizing flow with
  | nil => exact Int.le_refl 0
  | cons call _ ih =>
    simp only [Transition.tally, Transition.measure]
    cases ran : flowStep flow call with
    | none => exact Int.le_refl 0
    | some did =>
      have here := charge_le_outlay flow did.1 call did.2 bin
      have later := ih did.1
      simp only [Pi.add_apply, Nat.cast_add]
      omega

def refundedCharge : List FlowCall :=
  [.lease (.resources (.acquire ⟨"key-1", 0, [], 0, Budget.limitedBudgetPolicy (.known 100), .known 5⟩)), .lease (.resources (.advance 0 0)),
    .lease (.resources (.advance 0 0)), .lease (.terminate 0 .deferred), .lease (.settle 0 0), .lease (.settle 0 0), .deliver 0,
    .store (.take [Storage.lifetime]), .store (.write 0 true), .lease (.settle 0 0), .lease (.settle 0 0), .lease (.settle 0 0), .adjust 0 (.known 2),
    .deliver 0, .store (.take [Storage.lifetime])]

theorem budget_batches_unpoisoned_refund : ∃ flow replies next reply,
    Transition.execute flowStep (newFlow none false Storage.oneKeyBudgets) refundedCharge = some (flow, replies) ∧
      flowStep flow (.store (.write 1 true)) = some (next, reply) ∧ next.accumulator.table.persisted Storage.lifetime = 2 ∧
      reply ≠ .stored (.refused .underflow) ∧ reply ≠ .stored (.refused .unknownKey) := by
  have ran : ((execute flowStep (newFlow none false Storage.oneKeyBudgets) refundedCharge).bind (fun out =>
      (flowStep out.1 (.store (.write 1 true))).map (fun did => did.1.accumulator.table.persisted Storage.lifetime))) = some 2 := by
    decide +kernel
  obtain ⟨⟨flow, replies⟩, run, wrote⟩ := Option.bind_eq_some_iff.mp ran
  obtain ⟨⟨next, reply⟩, transition, left⟩ := Option.map_eq_some_iff.mp wrote
  have spent : measure flowStep outlay (newFlow none false Storage.oneKeyBudgets) refundedCharge = 5 := by decide +kernel
  have bound : ∀ bin, tally flowStep charge (newFlow none false Storage.oneKeyBudgets) refundedCharge bin ≤ maxInt64 := by
    intro bin
    have total := tally_le_outlay refundedCharge (newFlow none false Storage.oneKeyBudgets) bin
    exact total.trans (by decide)
  have stored : ∀ bin, 0 ≤ Storage.oneKeyBudgets.persisted bin := by
    simp [BudgetTable.persisted, Storage.oneKeyBudgets]
  exact ⟨flow, replies, next, reply, run, transition, left, budget_batches_unpoisoned stored (by decide) bound run transition⟩

end NineGateway.Persistence
