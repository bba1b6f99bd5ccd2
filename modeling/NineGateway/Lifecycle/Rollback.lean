import NineGateway.Budget.Ledger
import NineGateway.Lifecycle.Children
import NineGateway.Token.Charges

set_option autoImplicit false

namespace NineGateway.Lifecycle

open Resource (LeaseSystem ResourceLease ResourceLeaseOptions ConcurrencyLimiter ConcurrencyState Lease Slot Admission AdmissionError Phase
  AdvanceOutcome)
open Token (TokenSystem TokenBucketKey)
open Budget (BudgetSystem BudgetIdentity)
open Transition

def System.tokenBucket (system : System) (key : TokenBucketKey) : Token.TokenBucket :=
  (system.resources.tokens.map (fun tokens => Token.bucketAt tokens.limiter.buckets key)).getD ⟨0, 0⟩

def System.budgetCell (system : System) (keyID : String) (identity : BudgetIdentity) : Option Budget.BudgetDayState :=
  system.resources.budgets.bind (fun budgets => budgets.cell keyID identity)

def System.slotCount (system : System) (keyID : String) : Nat :=
  (system.resources.concurrency.map (fun limiter => activeOf limiter keyID)).getD 0

def gained (admission : Nat) (amount : System → Int) (system : System) (call : Call) (reply : Reply) (next : System) : Int :=
  if belongs admission call reply then amount next - amount system else 0

-- A committed amount stays what it was, or its bucket was removed after it had
-- expired.
def TokensKept (system next : System) : Prop :=
  ∀ key, (next.tokenBucket key).committed = (system.tokenBucket key).committed ∨
    ∃ tokens, next.resources.tokens = some tokens ∧ tokens.limiter.buckets.lookup key = none ∧ Token.expired tokens.limiter.lastNow key = true

def BudgetKept (system next : System) : Prop :=
  ∀ keyID identity, Budget.spentIn (next.budgetCell keyID identity) = Budget.spentIn (system.budgetCell keyID identity) ∨
    ∃ budgets, next.resources.budgets = some budgets ∧ next.budgetCell keyID identity = none ∧
      Budget.pastIn budgets.limiter.lastNow identity = true

section Foreign

variable {sys next : System} {call : Call} {rep : Reply} {own : Nat}

theorem token_ward_kept {i : Nat} {spent : Bool} (reg : Regular sys) (ran : step sys call = some (next, rep))
    (owned : (sys.view tokenWard)[own]? = some (some i, spent))
    (others : ∀ read, call ≠ .resources (.advance own read) ∧ call ≠ .settle own read) :
    ∃ hold later, (tokenHolds sys.resources.tokens)[i]? = some hold ∧ (tokenHolds next.resources.tokens)[i]? = some later ∧
      later.finalErr = hold.finalErr ∧ ∀ key, later.holding key = hold.holding key := by
  obtain ⟨hold, has, _⟩ := tokens_owned reg owned
  obtain ⟨event, booked, settles⟩ := token_acted reg ran
  obtain ⟨later, kept, edits⟩ := booked_entry booked has (fun same => ward_spared reg .tokens owned others (settles i same))
  refine ⟨hold, later, has, kept, ?_⟩
  rcases edits with rfl | ⟨_, rfl⟩ <;> exact ⟨rfl, fun _ => rfl⟩

end Foreign

def heldBy (sys : System) (key : TokenBucketKey) : Option Nat → Int
  | none => 0
  | some index => ((sys.resources.tokens.bind (fun tokens => tokens.reservations[index]?)).map (fun hold => hold.holding key)).getD 0

def TokenShare (own : Nat) (key : TokenBucketKey) (w : Int) (sys : System) : Prop :=
  (sys.resources.admissions[own]? = none → w = 0) ∧
    ∀ adm, sys.resources.admissions[own]? = some adm → (∀ lease, adm.phase ≠ .admitted lease) →
      w = heldBy sys key (tokenChild adm.phase)

section Shares

variable {sys next : System} {call : Call} {rep : Reply} {owner : Nat}

theorem token_active_held (reg : Regular sys) (key : TokenBucketKey) :
    (sys.tokenBucket key).active = (sys.resources.tokens.map (fun tokens => tokens.held key)).getD 0 := by
  cases limited : sys.resources.tokens with
  | none => simp [System.tokenBucket, limited]
  | some tokens => simpa [System.tokenBucket, limited] using (reg.tokens tokens limited).active key

variable {keyID : String} {w : Int} {read : Int} {tokens after : TokenSystem} {key : TokenBucketKey}
variable {ds : List Token.CommittedTokenDelta} {entry : Slot} {i : Nat} {slot : Nat}

theorem token_rejected {read amt resetAt : Int} {wins : List Token.TokenWindow} (ok : tokens.Sound)
    (ran : Token.step tokens (.reserve read keyID wins amt) = some (after, ⟨.rejected resetAt, ds⟩)) :
    after.reservations = tokens.reservations := by
  have out := Token.step_outcome ok ran
  generalize ans : (⟨.rejected resetAt, ds⟩ : Token.Reply) = rep at out
  cases out with
  | quiet _ _ _ out => cases out <;> rfl
  | reserved => cases ans
  | ticketed _ _ _ _ _ _ _ _ _ use => cases use

theorem token_finalized {term : Token.Terminal} {rep : Token.Reply} {hold : Token.TokenReservation}
    (ran : Token.step tokens (.finalize i read term) = some (after, rep)) (has : tokens.reservations[i]? = some hold) (key : TokenBucketKey) :
    after.held key + hold.holding key = tokens.held key := by
  simp only [Token.step, has, Option.some.injEq, Prod.mk.injEq] at ran
  have closed : (Token.finalizeOnce tokens.limiter read hold term).2.1.holding key = 0 := by
    have fin : (Token.finalizeOnce tokens.limiter read hold term).2.1.finalized = true := by
      unfold Token.finalizeOnce
      split
      · assumption
      · rfl
    simp [Token.TokenReservation.holding, fin]
  have change := Token.held_set has (Token.finalizeOnce tokens.limiter read hold term).1
    (Token.finalizeOnce tokens.limiter read hold term).2.1 key
  rw [← ran.1, change, closed, Int.add_zero]

theorem token_share_foreign (reg : Regular sys) (ran : step sys call = some (next, rep)) (foreign : belongs owner call rep = false)
    (same : next.resources.admissions[owner]? = sys.resources.admissions[owner]?) (share : TokenShare owner key w sys) :
    TokenShare owner key w next := by
  refine ⟨fun gone => share.1 (same ▸ gone), ?_⟩
  intro adm hit due
  rw [same] at hit
  rw [share.2 adm hit due]
  cases child : tokenChild adm.phase with
  | none => rfl
  | some i =>
    have new := pending_open reg.wellformed hit due
    have owned : (sys.view tokenWard)[owner]? = some (tokenWard adm (sys.lease owner)) := view_at hit
    rw [tokenWard, child, new] at owned
    have others : ∀ read, call ≠ .resources (.advance owner read) ∧ call ≠ .settle owner read := by
      intro read
      refine ⟨?_, ?_⟩
      · rintro rfl
        simp [belongs] at foreign
      rintro rfl
      cases step_outcome ran with
      | settled _ _ lease _ _ _ _ took =>
        obtain ⟨_, there, phase⟩ := admitted_lease_iff.mp took
        rw [hit] at there
        cases there
        exact due lease phase
    obtain ⟨_, _, has, kept, _, holding⟩ := token_ward_kept reg ran owned others
    simp [heldBy, token_holds_at, has, kept, holding]

theorem token_share_advanced {adm : Admission} {after : LeaseSystem} {got : Phase} (reg : Regular sys) (later : Regular next)
    (has : sys.resources.admissions[owner]? = some adm) (out : AdvanceOutcome sys.resources read adm.options adm.slot adm.phase after got)
    (res : next.resources = { after with admissions := after.admissions.set owner { adm with phase := got } })
    (due : ∀ lease, adm.phase ≠ .admitted lease) (placed : next.resources.admissions[owner]? = some { adm with phase := got })
    (share : TokenShare owner key w sys) :
    TokenShare owner key (w + ((next.tokenBucket key).active - (sys.tokenBucket key).active)) next := by
  have pre := share.2 adm has due
  have lim : next.resources.tokens = after.tokens := by rw [res]
  rw [token_active_held reg, token_active_held later, lim]
  refine ⟨fun gone => absurd (placed.symm.trans gone) (by simp), ?_⟩
  intro did hit _
  rw [placed] at hit
  cases hit
  rw [pre]
  have quiet : after.tokens = sys.resources.tokens → tokenChild got = tokenChild adm.phase →
      heldBy sys key (tokenChild adm.phase) + ((after.tokens.map (fun tokens => tokens.held key)).getD 0 -
        (sys.resources.tokens.map (fun tokens => tokens.held key)).getD 0) = heldBy next key (tokenChild got) := by
    intro tokens child
    rw [child, tokens, Int.sub_self, Int.add_zero]
    cases tokenChild adm.phase with
    | none => rfl
    | some => simp [heldBy, lim, tokens]
  generalize phase : adm.phase = current at out
  rw [phase] at quiet
  cases out with
  | tokensReserved tokens _ _ _ limited did =>
    obtain ⟨_, appended, rfl⟩ := booked_reserved (token_booked (reg.tokens tokens limited).sound did)
    simp only [limited, Option.map_some, Option.getD_some, Token.TokenSystem.held, appended, Roster.total_append]
    simp [heldBy, tokenChild, lim, appended]
  | tokensRejected tokens _ _ _ limited did =>
    have unchanged := token_rejected (reg.tokens tokens limited).sound did
    simp only [limited, Option.map_some, Option.getD_some, Token.TokenSystem.held, unchanged]
    simp [heldBy, tokenChild]
  | budgetUnknown tokens | budgetRejected tokens => exact quiet rfl (roll_back_child tokens _).1
  | tokensReleased _ _ child _ _ limited did =>
    have owned : (sys.view tokenWard)[owner]? = some (tokenWard adm (sys.lease owner)) := view_at has
    rw [tokenWard, phase, pending_open reg.wellformed has due] at owned
    obtain ⟨_, has, _⟩ := tokens_owned reg owned
    obtain ⟨_, limited', there⟩ := Option.bind_eq_some_iff.mp ((token_holds_at _ child).trans has)
    cases limited.symm.trans limited'
    have freed := token_finalized did there key
    simp only [limited, Option.map_some, Option.getD_some, heldBy, tokenChild, Option.bind_some, there]
    rw [← freed]
    simp
  | slotSpent | slotReleased | slotReturned => exact quiet rfl (by first | rfl | exact (after_slot_child _).1)
  | _ => exact quiet rfl rfl

theorem token_share_step (reg : Regular sys) (ran : step sys call = some (next, rep)) (share : TokenShare owner key w sys) :
    TokenShare owner key (w + gained owner (fun sys => (sys.tokenBucket key).active) sys call rep next) next := by
  unfold gained
  cases step_turn ran owner with
  | foreign _ _ _ _ apart same =>
    rw [if_neg (by simp [apart]), Int.add_zero]
    exact token_share_foreign reg ran apart same share
  | advanced _ _ _ _ _ _ has out res _ due placed =>
    rw [if_pos (by simp [belongs])]
    exact token_share_advanced reg (regular_step reg ran) has out res due placed share
  | entered _ _ _ _ _ mine tokens _ adms =>
    rw [if_pos mine]
    have unchanged : (next.tokenBucket key).active - (sys.tokenBucket key).active = 0 := by simp [System.tokenBucket, tokens]
    rw [unchanged, share.1 (by simp)]
    refine ⟨fun _ => rfl, ?_⟩
    intro adm hit _
    simp only [adms, List.getElem?_concat_length, Option.some.injEq] at hit
    subst hit
    rfl

theorem budget_reserve_cell {budgets after : BudgetSystem} {pol : Budget.BudgetPolicy} {cand : Money} {ans : Budget.Reply} (ok : budgets.Sound)
    (ran : Budget.step budgets (.reserve read keyID pol cand) = some (after, ans)) (q : String) (id : BudgetIdentity) :
    (Budget.spentIn (after.cell q id) = Budget.spentIn (budgets.cell q id) ∨
        after.cell q id = none ∧ Budget.pastIn after.limiter.lastNow id = true) ∧
      ((∀ i, ans.answer ≠ .reserved i) → Budget.activeIn (after.cell q id) = Budget.activeIn (budgets.cell q id)) := by
  have did := Budget.step_cells ok ran q id
  generalize Budget.flow ans.deltas q id = flow at did
  generalize Budget.loadedSpend (Budget.loadedRows (.reserve read keyID pol cand) ans) q id = spend at did
  generalize budgets.cell q id = cell at did ⊢
  generalize after.cell q id = later at did ⊢
  generalize after.outstanding q id = holding' at did
  cases did with
  | kept _ _ _ alike => exact ⟨.inl (Budget.alike_spent alike), fun _ => Budget.alike_active alike⟩
  | dropped _ _ _ _ _ _ _ past =>
    refine ⟨.inr ⟨rfl, Budget.past_of_dropped past⟩, fun _ => ?_⟩
    cases id with
    | total => cases past
    | day start | month start =>
      simp only [Budget.dropped, Bool.and_eq_true] at past
      exact (Money.amount_of_zero past.2).symm
  | entered _ _ _ _ granted _ _ _ _ _ _ _ _ spent => exact ⟨.inl spent, fun new => absurd granted (new _)⟩
  | settled _ _ _ called | abandoned _ _ _ called | shifted _ _ _ _ called | torn _ _ _ _ called | blurred _ _ _ _ called | loaded _ _ _ called =>
    cases called

def BudgetShare (own : Nat) (w : Int) (sys : System) : Prop := admittedLease sys own = none → w = 0

theorem budget_share_step (keyID : String) (id : BudgetIdentity) (reg : Regular sys) (ran : step sys call = some (next, rep))
    (share : BudgetShare owner w sys) :
    BudgetShare owner (w + gained owner (fun sys => (Budget.activeIn (sys.budgetCell keyID id) : Int)) sys call rep next) next := by
  unfold gained
  cases step_turn ran owner with
  | foreign _ _ _ _ apart same =>
    rw [if_neg (by simp [apart]), Int.add_zero]
    intro gone
    exact share (by simpa only [admittedLease, same] using gone)
  | entered _ _ _ _ _ _ _ budgets =>
    intro _
    have alike : next.budgetCell keyID id = sys.budgetCell keyID id := by simp [System.budgetCell, budgets]
    simp [share (by simp [admittedLease]), alike]
  | advanced _ _ _ adm after got has out res _ due placed =>
    rw [if_pos (by simp [belongs])]
    have pre : w = 0 := share (pending_unadmitted has due)
    have unchanged : after.budgets = sys.resources.budgets → BudgetShare owner
        (w + ((Budget.activeIn (next.budgetCell keyID id) : Int) - Budget.activeIn (sys.budgetCell keyID id))) next := by
      intro budgets _
      have alike : next.budgetCell keyID id = sys.budgetCell keyID id := by simp [System.budgetCell, res, budgets]
      rw [alike, pre]
      omega
    have reserved : ∀ (budgets pre : BudgetSystem), after.budgets = some pre → sys.resources.budgets = some budgets →
        Budget.activeIn (pre.cell keyID id) = Budget.activeIn (budgets.cell keyID id) → BudgetShare owner
          (w + ((Budget.activeIn (next.budgetCell keyID id) : Int) - Budget.activeIn (sys.budgetCell keyID id))) next := by
      intro budgets later did limited active _
      simp only [System.budgetCell, res, did, limited, Option.bind_some, active]
      omega
    generalize phase : adm.phase = current at out
    cases out with
    | budgetReserved tokens _ _ child =>
      intro gone
      have took : admittedLease next owner = some ⟨adm.slot, tokens, some child⟩ :=
        admitted_lease_iff.mpr ⟨_, placed, rfl⟩
      rw [took] at gone
      cases gone
    | budgetRejected _ budgets after _ _ limited did =>
      exact reserved budgets after rfl limited ((budget_reserve_cell (reg.budgets budgets limited) did keyID id).2 (by simp))
    | retryTimed _ budgets _ _ limited did =>
      cases did
      exact reserved budgets _ rfl limited rfl
    | _ => exact unchanged rfl

def System.countsFor (system : System) (keyID : String) (entry : Slot) : Int :=
  (system.resources.concurrency.map (fun limiter => (((tenureOf entry.lease true).counts limiter.identity keyID).toNat : Int))).getD 0

def slotShare (tally : Int) (exposed : Bool) (hold : Hold) : Int :=
  (if exposed then 0 else tally) - if hold = .given then tally else 0

def SlotShare (own : Nat) (key : String) (w : Int) (sys : System) : Prop :=
  (sys.resources.admissions[own]? = none → w = 0) ∧
    ∀ adm entry, sys.resources.admissions[own]? = some adm → sys.resources.slots[adm.slot]? = some entry →
      (∀ lease, adm.phase ≠ .admitted lease) →
      w = slotShare (sys.countsFor key entry) entry.exposed (holdOf adm.phase .open)

theorem slot_kept {care later : Custody} {given : Option Nat} (move : Custody.Move care given later) (has : care.slots[slot]? = some entry) :
    ∃ kept, later.slots[slot]? = some kept ∧ kept.exposed = entry.exposed ∧ tenureOf kept.lease true = tenureOf entry.lease true := by
  cases move with
  | idle | crowded | ownerSpent | ownerReturned => exact ⟨entry, has, rfl, rfl⟩
  | taken | started | unlimited | offered => exact ⟨entry, Roster.entry_kept has _, rfl, rfl⟩
  | released alt old there | returned alt old there | adopted alt old there | ownerReleased _ alt old _ there =>
    exact Roster.entry_set (fun old new : Slot => new.exposed = old.exposed ∧ tenureOf new.lease true = tenureOf old.lease true)
      has there _ ⟨rfl, rfl⟩ ⟨rfl, rfl⟩

variable (reg : Regular sys)
include reg

theorem counts_kept {entry kept : Slot} (ran : step sys call = some (next, rep))
    (same : tenureOf kept.lease true = tenureOf entry.lease true) : next.countsFor keyID kept = sys.countsFor keyID entry := by
  have exch := Custody.move_exchange (step_custody reg.wellformed ran) reg.custody
  have id := exchange_identity exch
  change next.resources.concurrency.map ConcurrencyLimiter.identity = sys.resources.concurrency.map ConcurrencyLimiter.identity at id
  have read : ∀ (lim : Option ConcurrencyLimiter) (tenure : Tenure),
      (lim.map (fun lim => ((tenure.counts lim.identity keyID).toNat : Int))).getD 0 =
        ((lim.map ConcurrencyLimiter.identity).map (fun id => ((tenure.counts id keyID).toNat : Int))).getD 0 := by
    intro lim tenure
    cases lim <;> rfl
  rw [System.countsFor, System.countsFor, read, read, id, same]

theorem count_returned (ran : step sys call = some (next, rep)) (given : returnedSlot sys call = some slot)
    (has : sys.resources.slots[slot]? = some entry) : (next.slotCount keyID : Int) - sys.slotCount keyID = - sys.countsFor keyID entry := by
  have later := (regular_step reg ran).slots
  have exch := Custody.move_exchange (step_custody reg.wellformed ran) reg.custody
  have id := exchange_identity exch
  have tenure : sys.custody.tenures[slot]? = some (tenureOf entry.lease (sys.custody.held slot entry)) := Custody.tenure_at has
  rw [given] at exch
  change Exchange sys.resources.concurrency _ _ next.resources.concurrency _ at exch
  change next.resources.concurrency.map _ = sys.resources.concurrency.map _ at id
  unfold System.slotCount System.countsFor
  generalize next.resources.concurrency = limiter' at exch later id ⊢
  generalize next.custody.tenures = tenures' at exch later
  cases exch with
  | returned _ lease there =>
    rw [there] at tenure
    have same : tenureOf entry.lease true = tenureOf lease true := by
      simp only [Option.some.injEq, tenureOf, Tenure.mk.injEq] at tenure ⊢
      simp [tenure]
    cases limited : sys.resources.concurrency with
    | none => rfl
    | some lim =>
      rw [limited] at id later
      have pre := (reg.slots lim limited).counted keyID
      have after := (later _ rfl).counted keyID
      have change_ := Roster.total_set (fun tenure : Tenure => (tenure.counts lim.identity keyID).toNat) sys.custody.tenures slot
        _ (tenureOf lease false) there
      have own : (lease.releaseSlot lim).identity = lim.identity := Option.some.inj id
      rw [own] at after
      have silent : (tenureOf lease false).counts lim.identity keyID = false := rfl
      simp only [outstanding] at pre after
      simp only [silent, Bool.toNat_false, Nat.add_zero] at change_
      simp only [Option.map_some, Option.getD_some, pre, after, same]
      omega

omit reg in
theorem count_taken {keyID q : String} {most : Int} {lim after : ConcurrencyLimiter} {lease : Lease}
    (taken : lim.acquire keyID most = (after, some lease)) :
    (activeOf after q : Int) - activeOf lim q = ((tenureOf lease true).counts after.identity q).toNat := by
  have inside : ∀ st : ConcurrencyState, (tenureOf (Resource.slotLease lim keyID st) true).counts lim.identity q = decide (keyID = q) :=
    fun st => counts_own rfl q
  cases acquire_outcome taken with
  | unlimited => simp [Tenure.counts, tenureOf, Resource.unlimitedLease]
  | opened _ gone | joined _ _ gone =>
    rw [inside]
    by_cases here : keyID = q
    · subst here
      simp [activeOf, gone]
    · simp [activeOf, here, Ne.symm here]

theorem owned_slot {adm : Admission} (has : sys.resources.admissions[owner]? = some adm) :
    ∃ entry, sys.resources.slots[adm.slot]? = some entry := by
  obtain ⟨entry, hit, _⟩ := reg.custody.guarded owner adm.slot _ (owner_at has)
  exact ⟨entry, hit⟩

omit reg in
theorem slot_share_started (ran : step sys call = some (next, .resources (.started owner))) :
    SlotShare owner keyID ((next.slotCount keyID : Int) - sys.slotCount keyID) next := by
  cases step_outcome ran with
  | resources _ after _ _ move =>
    simp only [SlotShare, System.slotCount, System.countsFor, hand_resources]
    cases move with
    | unlimited _ gone =>
      simp [Resource.LeaseSystem.addSlot, gone, slotShare]
    | started _ _ _ _ has taken =>
      refine ⟨by simp, ?_⟩
      intro adm entry hit there _
      simp only [List.getElem?_concat_length, Option.some.injEq] at hit
      subst hit
      simp only [Resource.LeaseSystem.addSlot, List.getElem?_concat_length, Option.some.injEq] at there
      subst there
      simp [Resource.LeaseSystem.addSlot, slotShare, holdOf, has, count_taken taken]
    | adopted _ _ _ has exposed =>
      refine ⟨by simp, ?_⟩
      intro adm entry hit there _
      simp only [List.getElem?_concat_length, Option.some.injEq] at hit
      subst hit
      simp only [List.getElem?_set_self (List.getElem?_eq_some_iff.mp has).1, Option.some.injEq] at there
      subst there
      simp [slotShare, holdOf, exposed]

theorem slot_share_advanced {adm : Admission} {after : LeaseSystem} {got : Phase}
    (ran : step sys (.resources (.advance owner read)) = some (next, rep)) (has : sys.resources.admissions[owner]? = some adm)
    (out : AdvanceOutcome sys.resources read adm.options adm.slot adm.phase after got)
    (res : next.resources = { after with admissions := after.admissions.set owner { adm with phase := got } })
    (due : ∀ lease, adm.phase ≠ .admitted lease) (placed : next.resources.admissions[owner]? = some { adm with phase := got })
    (share : SlotShare owner keyID w sys) : SlotShare owner keyID (w + ((next.slotCount keyID : Int) - sys.slotCount keyID)) next := by
  obtain ⟨entry, there⟩ := owned_slot reg has
  obtain ⟨kept, placedSlot, exposed, alike⟩ := slot_kept (step_custody reg.wellformed ran) there
  refine ⟨fun gone => absurd (placed.symm.trans gone) (by simp), ?_⟩
  intro did later hit slot _
  rw [placed] at hit
  cases hit
  obtain rfl : kept = later := Option.some.inj (placedSlot.symm.trans slot)
  rw [share.2 adm entry has there due, counts_kept reg ran alike, exposed]
  have quiet : after.concurrency = sys.resources.concurrency → (holdOf got .open = .given ↔ holdOf adm.phase .open = .given) →
      slotShare (sys.countsFor keyID entry) entry.exposed (holdOf adm.phase .open) + ((next.slotCount keyID : Int) - sys.slotCount keyID) =
        slotShare (sys.countsFor keyID entry) entry.exposed (holdOf got .open) := by
    intro concurrency hold
    have unchanged : next.slotCount keyID = sys.slotCount keyID := by simp [System.slotCount, res, concurrency]
    simp [slotShare, hold, unchanged]
  have care := reg.custody.guarded owner adm.slot _ (owner_at has)
  generalize phase : adm.phase = current at out
  rw [phase] at quiet care
  cases out with
  | slotReturned =>
    have given : returnedSlot sys (.resources (.advance owner read)) = some adm.slot := by
      obtain ⟨_, _, _⟩ := adm
      simp only at phase
      simp [returnedSlot, has, phase]
    have taken : (next.slotCount keyID : Int) - sys.slotCount keyID = - sys.countsFor keyID entry :=
      count_returned reg ran given there
    rw [taken, hold_after]
    simp [slotShare, holdOf]
    omega
  | slotSpent _ held there' spent =>
    obtain ⟨owned, hit, _, _, freed⟩ := care
    obtain rfl : held = owned := Option.some.inj (there'.symm.trans hit)
    exact absurd rfl (freed.mp spent)
  | budgetUnknown tokens | budgetRejected tokens => exact quiet rfl (by rw [hold_roll_back]; simp [holdOf])
  | _ => exact quiet rfl (by simp [holdOf, LeaseState.hold])

theorem slot_share_step (ran : step sys call = some (next, rep)) (share : SlotShare owner keyID w sys) :
    SlotShare owner keyID (w + gained owner (fun sys => (sys.slotCount keyID : Int)) sys call rep next) next := by
  unfold gained
  cases step_turn ran owner with
  | foreign _ _ _ _ apart same =>
    rw [if_neg (by simp [apart]), Int.add_zero]
    refine ⟨fun gone => share.1 (same ▸ gone), ?_⟩
    intro adm later hit slot due
    rw [same] at hit
    obtain ⟨entry, there⟩ := owned_slot reg hit
    obtain ⟨kept, placedSlot, exposed, alike⟩ := slot_kept (step_custody reg.wellformed ran) there
    obtain rfl : kept = later := Option.some.inj (placedSlot.symm.trans slot)
    rw [share.2 adm entry hit there due, counts_kept reg ran alike, exposed]
  | entered _ _ _ _ _ mine =>
    rw [if_pos mine, share.1 (by simp), Int.zero_add]
    exact slot_share_started ran
  | advanced _ _ _ _ _ _ has out res _ due placed =>
    rw [if_pos (by simp [belongs])]
    exact slot_share_advanced reg ran has out res due placed share

end Shares

section Committed

variable {sys next : System} {call : Call} {rep : Reply} {owner : Nat}

theorem discard_committed (now : Int) (bins : Token.TokenBuckets) (key : TokenBucketKey) :
    (Token.bucketAt (Token.discardExpired now bins) key).committed = (Token.bucketAt bins key).committed ∨
      (Token.discardExpired now bins).lookup key = none ∧ Token.expired now key = true := by
  cases past : Token.expired now key with
  | false => exact .inl (by rw [Token.bucketAt, Token.bucketAt, Token.lookup_discard_live past])
  | true =>
    cases kept : (Token.discardExpired now bins).lookup key with
    | none => exact .inr ⟨rfl, rfl⟩
    | some => exact .inl (by rw [Token.bucketAt, Token.bucketAt, kept, Token.lookup_discard_some kept])

theorem reserve_committed (lim : Token.TokenLimiter) (read amt : Int) (keyID : String) (wins : List Token.TokenWindow) (key : TokenBucketKey) :
    (Token.bucketAt (Token.reserve lim read keyID wins amt).1.buckets key).committed = (Token.bucketAt lim.buckets key).committed ∨
      (Token.reserve lim read keyID wins amt).1.buckets.lookup key = none ∧
        Token.expired (Token.reserve lim read keyID wins amt).1.lastNow key = true := by
  have out := Token.reserve_outcome lim read keyID wins amt
  generalize (Token.reserve lim read keyID wins amt).1 = after at out ⊢
  generalize (Token.reserve lim read keyID wins amt).2 = verdict at out
  cases out with
  | refused | unlimited => exact .inl rfl
  | rejected => exact discard_committed _ _ key
  | admitted _ keys _ _ _ _ _ inside live =>
    rcases discard_committed (clampTime lim.lastNow read) lim.buckets key with same | ⟨gone, past⟩
    · left
      rw [← same, Token.bucketAt, inside]
      split <;> rfl
    by_cases mem : key ∈ keys
    · rw [live key mem] at past
      cases past
    · right
      exact ⟨by rw [inside, if_neg mem]; exact gone, past⟩

theorem release_committed (lim : Token.TokenLimiter) {hold : Token.TokenReservation} (read : Int) (ok : hold.Sound) (key : TokenBucketKey) :
    (Token.bucketAt (Token.finalize lim read hold 0 false).1.buckets key).committed = (Token.bucketAt lim.buckets key).committed ∨
      (Token.finalize lim read hold 0 false).1.buckets.lookup key = none ∧
        Token.expired (Token.finalize lim read hold 0 false).1.lastNow key = true := by
  unfold Token.finalize
  split
  · exact .inl rfl
  have same : (Token.bucketAt (hold.buckets.foldl (Token.settleBucket hold.amount 0) ⟨lim.buckets, none, []⟩).buckets key).committed =
      (Token.bucketAt lim.buckets key).committed := by
    rw [Token.bucketAt, Token.bucketAt, Token.lookup_settle _ _ _ ok.distinct]
    split
    · cases hit : lim.buckets.lookup key with
      | none => rfl
      | some bin =>
        rw [Option.bind_some, Token.retained_value]
        cases sum : Token.checkedNonNegativeAdd bin.committed 0 with
        | none => simp [Token.settledBucket, sum]
        | some =>
          have added := (Token.nonnegative_add_some sum).2.2.1
          simp [Token.settledBucket, sum]
          omega
    · rfl
  rw [← same]
  exact discard_committed _ _ key

theorem own_tokens_kept (reg : Regular sys) (ran : step sys call = some (next, rep)) (own : belongs owner call rep = true) :
    TokensKept sys next := by
  intro key
  unfold System.tokenBucket
  cases step_turn ran owner with
  | foreign _ _ _ _ apart => simp [own] at apart
  | entered _ _ _ _ _ _ tokens => exact .inl (by rw [tokens])
  | advanced _ read =>
    have act := step_token_act ran
    generalize next.resources.tokens = after at act ⊢
    cases act with
    | idle => exact .inl rfl
    | acted tokens _ after _ limited why did =>
      rw [limited]
      cases why with
      | reserving _ _ adm =>
        have lim : after.limiter = (Token.reserve tokens.limiter read adm.options.keyID adm.options.tokenWindows adm.options.tokenAmount).1 := by
          simp only [Token.step] at did
          split at did
          · cases did
          · generalize Token.reserve _ _ _ _ _ = result at did ⊢
            obtain ⟨_, verdict⟩ := result
            cases verdict <;> (obtain ⟨rfl, _⟩ := Prod.mk.inj (Option.some.inj did); rfl)
        rcases reserve_committed tokens.limiter read adm.options.tokenAmount adm.options.keyID adm.options.tokenWindows key with
          same | ⟨gone, past⟩
        · exact .inl (by rw [← lim] at same; exact same)
        · exact .inr ⟨after, rfl, by rw [lim]; exact gone, by rw [lim]; exact past⟩
      | releasing _ _ _ child =>
        simp only [Token.step] at did
        cases hit : tokens.reservations[child]? with
        | none => simp [hit] at did
        | some hold =>
          simp only [hit, Option.some.injEq, Prod.mk.injEq] at did
          have ok := (reg.tokens tokens limited).sound hold (List.mem_of_getElem? hit)
          rw [← did.1]
          unfold Token.finalizeOnce
          split
          · exact .inl rfl
          · rcases release_committed tokens.limiter read ok key with same | ⟨gone, past⟩
            · exact .inl same
            · exact .inr ⟨_, rfl, gone, past⟩

theorem own_budget_kept (reg : Regular sys) (ran : step sys call = some (next, rep)) (own : belongs owner call rep = true) :
    BudgetKept sys next := by
  intro key id
  unfold System.budgetCell
  cases step_turn ran owner with
  | foreign _ _ _ _ apart => simp [own] at apart
  | entered _ _ _ _ _ _ _ budgets => exact .inl (by rw [budgets])
  | advanced =>
    have act := step_budget_act ran
    generalize next.resources.budgets = after at act ⊢
    cases act with
    | idle => exact .inl rfl
    | acted budgets _ after _ limited why did =>
      rw [limited]
      cases why with
      | reserving =>
        rcases (budget_reserve_cell (reg.budgets budgets limited) did key id).1 with same | ⟨gone, past⟩
        · exact .inl same
        · exact .inr ⟨after, rfl, gone, past⟩
      | timing =>
        cases did
        exact .inl rfl

theorem refused_unchanged {err : AdmissionError} (reg : Regular sys)
    (ran : step sys call = some (next, .resources (.refused err))) : next = sys := by
  generalize ans : Reply.resources (.refused err) = rep at ran
  cases step_outcome ran with
  | resources _ after ans _ move =>
    cases ans
    cases move with
    | invalid | unadopted => rfl
    | crowded _ lim after has taken =>
      have same : after = lim := by
        cases acquire_outcome taken with
        | negative | full => rfl
        | emptied st hit =>
          have pos := (reg.slots lim has).positive _ st hit
          omega
      rw [same, ← has]
      rfl
  | _ => cases ans

end Committed

-- A rejected admission has taken back what it took, whatever else happened in
-- between.
structure RolledBack (start : System) (calls : List Call) (system : System) (owner : Nat) (admission : Admission) : Prop where
  tokens : ∀ key, Transition.tally step (gained owner (fun system => (system.tokenBucket key).active)) start calls = 0
  budget : ∀ keyID identity, Transition.tally step (gained owner
    (fun system => (Budget.activeIn (system.budgetCell keyID identity) : Int))) start calls = 0
  slot : ∃ entry, system.resources.slots[admission.slot]? = some entry ∧ system.custody.held admission.slot entry = false ∧
    ∀ keyID, Transition.tally step (gained owner (fun system => (system.slotCount keyID : Int))) start calls =
      if entry.exposed then - system.countsFor keyID entry else 0

variable {start sys : System} {outs : List Reply} {cs : List Call}

theorem regular_run (reg : Regular start) (run : execute step start cs = some (sys, outs)) : Regular sys := by
  exact run_invariant Regular (fun _ _ _ _ kept _ transition => regular_step kept transition) reg along_always run

theorem share_run {M : Type} [AddCommMonoid M] (weigh : System → Call → Reply → System → M) (share : M → System → Prop)
    (kept : ∀ w sys call next rep, Regular sys → step sys call = some (next, rep) → share w sys → share (w + weigh sys call rep next) next)
    (reg : Regular start) (zero : share 0 start) (run : execute step start cs = some (sys, outs)) : share (tally step weigh start cs) sys := by
  have gathered : Regular sys ∧ share (0 + tally step weigh start cs) sys := by
    refine run_tallied weigh (fun w sys => Regular sys ∧ share w sys) ?_ ⟨reg, zero⟩ along_always run
    rintro w sys call next rep ⟨reg, share⟩ _ transition
    exact ⟨regular_step reg transition, kept w sys call next rep reg transition share⟩
  simpa using gathered.2

theorem given_not_held {care : Custody} {own slot : Nat} {entry : Slot} (ok : care.Sound) (owned : care.owners[own]? = some (slot, .given))
    (has : care.slots[slot]? = some entry) : care.held slot entry = false := by
  obtain ⟨_, there, still, _, freed⟩ := ok.guarded own slot .given owned
  rw [has] at there
  cases there
  have spent : entry.lease.released = true := freed.mpr (by simp)
  have unowned : (slot, Hold.returning) ∉ care.owners := by
    intro mem
    obtain ⟨alt, placed⟩ := List.mem_iff_getElem?.mp mem
    have same := ok.apart alt own _ _ placed owned rfl
    rw [same, owned] at placed
    cases placed
  simp [Custody.held, spent, still, unowned]

theorem rolled_back {own : Nat} {adm : Admission} {err : AdmissionError} (reg : Regular start) (empty : start.resources.admissions = [])
    (run : execute step start cs = some (sys, outs)) (has : sys.resources.admissions[own]? = some adm) (barred : adm.phase = .rejected err) :
    RolledBack start cs sys own adm := by
  have got := regular_run reg run
  have due : ∀ lease, adm.phase ≠ .admitted lease := by simp [barred]
  have new : start.resources.admissions[own]? = none := by simp [empty]
  obtain ⟨entry, there⟩ := owned_slot got has
  refine ⟨?_, ?_, entry, there, ?_, ?_⟩
  · intro key
    have share := share_run _ (TokenShare own key) (fun _ _ _ _ _ reg transition share => token_share_step reg transition share) reg
      ⟨fun _ => rfl, fun adm hit _ => by rw [new] at hit; cases hit⟩ run
    rw [share.2 adm has due, barred]
    rfl
  · intro keyID id
    have share := share_run _ (BudgetShare own) (fun _ _ _ _ _ reg transition share =>
      budget_share_step keyID id reg transition share) reg
      (fun _ => rfl) run
    exact share (pending_unadmitted has due)
  · have owned := owner_at has
    rw [barred] at owned
    exact given_not_held got.custody owned there
  · intro keyID
    have share := share_run _ (SlotShare own keyID) (fun _ _ _ _ _ reg transition share => slot_share_step reg transition share) reg
      ⟨fun _ => rfl, fun adm _ hit _ _ => by rw [new] at hit; cases hit⟩ run
    rw [share.2 adm entry has there due, barred]
    cases entry.exposed <;> simp [slotShare, holdOf]

end NineGateway.Lifecycle
