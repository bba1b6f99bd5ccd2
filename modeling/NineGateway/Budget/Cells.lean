import NineGateway.Budget.System

set_option autoImplicit false

namespace NineGateway.Budget

-- The budget system seen through one counter: the cell of a key and an
-- identity, the reservations that still hold it, and the deltas sent for it.
def BudgetSystem.cell (system : BudgetSystem) (keyID : String) (identity : BudgetIdentity) : Option BudgetDayState :=
  held (system.limiter.states.lookup keyID) identity

def BudgetReservation.holding (keyID : String) (identity : BudgetIdentity) (reservation : BudgetReservation) : Nat :=
  if reservation.keyID = keyID ∧ reservation.finalized = false ∧ reservation.covers identity = true then reservation.amount.amount else 0

def BudgetSystem.outstanding (system : BudgetSystem) (keyID : String) (identity : BudgetIdentity) : Nat :=
  Roster.total (BudgetReservation.holding keyID identity) system.reservations

def flow (deltas : List CommittedBudgetDelta) (keyID : String) (identity : BudgetIdentity) : Int :=
  (deltas.map (fun entry => if entry.keyID = keyID ∧ entry.identity = identity then entry.delta else 0)).sum

def BudgetCapture.identities (capture : BudgetCapture) : List BudgetIdentity :=
  (if capture.totalCaptured then [.total] else []) ++ (if capture.dayCaptured then [.day capture.dayStart] else []) ++
    (if capture.monthCaptured then [.month capture.monthStart] else [])

theorem mem_identities (cap : BudgetCapture) (id : BudgetIdentity) : id ∈ cap.identities ↔ cap.covers id = true := by
  cases id with
  | total | day | month => simp [BudgetCapture.identities, BudgetCapture.covers]

def zeroCell : BudgetDayState := ⟨knownZeroMoney, knownZeroMoney⟩

-- A state that comes or goes with nothing in it shows only in the lifetime
-- counter, as a zero cell.
def Alike (id : BudgetIdentity) (cell next : Option BudgetDayState) : Prop :=
  next = cell ∨ id = .total ∧ (cell = none ∧ next = some zeroCell ∨ cell = some zeroCell ∧ next = none)

variable {sys : BudgetSystem} {id : BudgetIdentity} {hold : BudgetReservation} {lim : BudgetLimiter}
variable {cell next : Option BudgetDayState} {pol : BudgetPolicy} {cand : Money} {key : String} {i : Nat}
variable {err : Option BudgetError} {values : List BudgetSpent} {done : List PendingSpent} {read latest : Int} {row : PendingSpent}

theorem alike_spent (alike : Alike id cell next) : spentIn next = spentIn cell := by
  rcases alike with rfl | ⟨_, ⟨rfl, rfl⟩ | ⟨rfl, rfl⟩⟩ <;> rfl

theorem alike_active (alike : Alike id cell next) : activeIn next = activeIn cell := by
  rcases alike with rfl | ⟨_, ⟨rfl, rfl⟩ | ⟨rfl, rfl⟩⟩ <;> rfl

theorem alike_trans {first second third : Option BudgetDayState} (left : Alike id first second)
    (right : Alike id second third) : Alike id first third := by
  rcases left with rfl | ⟨total, ⟨rfl, rfl⟩ | ⟨rfl, rfl⟩⟩
  · exact right
  · rcases right with rfl | ⟨_, ⟨absurd, _⟩ | ⟨_, rfl⟩⟩
    · exact .inr ⟨total, .inl ⟨rfl, rfl⟩⟩
    · simp at absurd
    · exact .inl rfl
  · rcases right with rfl | ⟨_, ⟨_, rfl⟩ | ⟨absurd, _⟩⟩
    · exact .inr ⟨total, .inr ⟨rfl, rfl⟩⟩
    · exact .inl rfl
    · simp at absurd

inductive CellStep (sys : BudgetSystem) (call : Call) (ans : Answer) (latest : Int) (key : String) (id : BudgetIdentity) :
    Int → Nat → Option BudgetDayState → Option BudgetDayState → Nat → Nat → Prop where
  | kept (cell next holding) (alike : Alike id cell next) : CellStep sys call ans latest key id 0 0 cell next holding holding
  | dropped (read : Int) (pol : BudgetPolicy) (cand : Money) (called : call = .reserve read key pol cand)
      (clock : latest = clampTime sys.limiter.lastNow read) (bin : BudgetDayState) (holding : Nat)
      (past : dropped (currentDay latest) (currentMonth latest) id bin = true) :
      CellStep sys call ans latest key id 0 0 (some bin) none holding holding
  | entered (read : Int) (pol : BudgetPolicy) (cand : Money) (called : call = .reserve read key pol cand)
      (granted : ans = .reserved sys.reservations.length) (clock : latest = clampTime sys.limiter.lastNow read)
        (cov : (captureAt pol latest).covers id = true)
      (cell : Option BudgetDayState) (new : BudgetDayState) (holding : Nat)
      (room : spentIn cell + activeIn cell + cand.amount ≤ (limitFor pol id).amount)
      (sknown : new.spent.isKnown = true) (aknown : new.active.isKnown = true)
      (spent : new.spent.amount = spentIn cell) (active : new.active.amount = activeIn cell + cand.amount) :
      CellStep sys call ans latest key id 0 0 cell (some new) holding (holding + cand.amount)
  | settled (i term hold) (called : call = .finalize i term) (has : sys.reservations[i]? = some hold) (fresh : hold.finalized = false)
      (owned : hold.keyID = key) (cov : hold.covers id = true) (st) (cur : Current sys.limiter hold st) (charge err)
      (billed : Charged hold term.kind term.actual st charge err) (old new next holding holding')
      (sknown : new.spent.isKnown = true) (aknown : new.active.isKnown = true) (spent : new.spent.amount = old.spent.amount + charge.amount)
      (active : new.active.amount + hold.amount.amount = old.active.amount)
      (alike : Alike id (some new) next) (freed : holding' + hold.amount.amount = holding) :
      CellStep sys call ans latest key id charge.amount 0 (some old) next holding holding'
  | abandoned (i term hold) (called : call = .finalize i term) (has : sys.reservations[i]? = some hold) (fresh : hold.finalized = false)
      (owned : hold.keyID = key) (cov : hold.covers id = true)
      (live : hold.state ≠ none ∧ isZeroMoney hold.amount = false → ∃ err, Refusal sys.limiter hold err)
      (cell holding holding') (freed : holding' + hold.amount.amount = holding) :
      CellStep sys call ans latest key id 0 0 cell cell holding holding'
  | shifted (i actual hold ticket) (called : call = .adjust i actual) (has : sys.reservations[i]? = some hold)
      (issued : hold.ticket = some ticket) (fresh : ticket.consumed = false) (owned : ticket.keyID = key)
      (cov : ticket.covers id = true) (known : actual.isKnown = true) (old new next holding)
      (activeSame : new.active = old.active) (oldKnown : old.spent.isKnown = true) (sknown : new.spent.isKnown = true)
      (spent : new.spent.amount + ticket.reserved.amount = old.spent.amount + actual.amount) (alike : Alike id (some new) next) :
      CellStep sys call ans latest key id (actual.amount - ticket.reserved.amount) 0 (some old) next holding holding
  | torn (i actual hold ticket) (called : call = .adjust i actual) (has : sys.reservations[i]? = some hold)
      (issued : hold.ticket = some ticket) (fresh : ticket.consumed = false) (owned : ticket.keyID = key)
      (cov : ticket.covers id = true) (known : actual.isKnown = true) (st)
      (live : TicketLive sys.limiter ticket st) (diff : actual.amount ≠ ticket.reserved.amount)
      (total : ticket.totalCaptured = true → takes actual ticket.reserved (held (some st) .total) = true)
      (alt) (otherCovered : ticket.covers alt = true) (blocked : takes actual ticket.reserved (held (some st) alt) = false)
      (able : takes actual ticket.reserved (held (some st) id) = true) (cell holding) :
      CellStep sys call ans latest key id (actual.amount - ticket.reserved.amount) 0 cell cell holding holding
  | blurred (i actual hold ticket) (called : call = .adjust i actual) (has : sys.reservations[i]? = some hold)
      (issued : hold.ticket = some ticket) (fresh : ticket.consumed = false) (owned : ticket.keyID = key)
      (cov : ticket.covers id = true) (same : actual = ticket.reserved) (st)
      (live : TicketLive sys.limiter ticket st) (missing : held (some st) id = none) (holding) :
      CellStep sys call ans latest key id 0 0 none (some zeroBucket) holding holding
  | loaded (order values due) (called : call = .loadSpent order values) (parsed : parseSpent values [] = some due)
      (row) (mem : row ∈ due) (targeted : row.targets key id = true) (valid : RowValid row) (nz : isZeroMoney row.spent = false)
      (clear : ∀ alt ∈ due, loadedRow sys.limiter alt = false) (cell new holding) (vacant : id ≠ .total → cell = none)
      (unloaded : id = .total → ∀ st, sys.limiter.states.lookup key = some st → st.totalLoaded = false)
      (spent : new.spent = row.spent) (aknown : new.active.isKnown = true) (active : new.active.amount = activeIn cell) :
      CellStep sys call ans latest key id 0 row.spent.amount cell (some new) holding holding

@[simp] theorem lookup_store (lim : BudgetLimiter) (key alt : String) (st : BudgetState) :
    (lim.store key st).states.lookup alt = if alt = key then some st else lim.states.lookup alt := by
  simp [BudgetLimiter.store]

def keepState (st : BudgetState) : Option BudgetState := if emptied st then none else some st

@[simp] theorem lookup_store_or_delete (lim : BudgetLimiter) (key alt : String) (st : BudgetState) :
    (lim.storeOrDelete key st).states.lookup alt = if alt = key then keepState st else lim.states.lookup alt := by
  unfold BudgetLimiter.storeOrDelete keepState
  by_cases empty : emptied st = true
  · simp [empty]
  · simp [empty]

variable (st : BudgetState)

theorem emptied_iff : emptied st = true ↔
    st.spent = knownZeroMoney ∧ st.active = knownZeroMoney ∧ (∀ start, st.dayBuckets.lookup start = none) ∧
      ∀ start, st.monthBuckets.lookup start = none := by
  simp only [emptied, Bool.and_eq_true, Money.zero_iff, FiniteMap.vacant_iff, and_assoc]

theorem alike_keep (id : BudgetIdentity) : Alike id (held (some st) id) (held (keepState st) id) := by
  unfold keepState
  by_cases empty : emptied st = true
  · obtain ⟨spent, active, days, months⟩ := (emptied_iff st).mp empty
    simp only [empty, if_true]
    cases id with
    | total => exact .inr ⟨rfl, .inr ⟨by simp [spent, active, zeroCell], rfl⟩⟩
    | day start => exact .inl (by simp [days start])
    | month start => exact .inl (by simp [months start])
  · simp only [empty, Bool.false_eq_true, if_false]
    exact .inl rfl

theorem stored_cell {own : String} {st next : BudgetState} (has : lim.states.lookup own = some st)
    (kept : key = own → held (some next) id = held (some st) id) :
    Alike id (held (lim.states.lookup key) id) (held ((lim.storeOrDelete own next).states.lookup key) id) := by
  rw [lookup_store_or_delete]
  by_cases owned : key = own
  · rw [if_pos owned, owned, has, ← kept owned]
    exact alike_keep next id
  · rw [if_neg owned]
    exact .inl rfl

theorem written_cell (lim : BudgetLimiter) (own : String) (next : BudgetState) (id : BudgetIdentity) :
    Alike id (held (some next) id) (held ((lim.storeOrDelete own next).states.lookup own) id) := by
  rw [lookup_store_or_delete, if_pos rfl]
  exact alike_keep next id

theorem flow_append (first second : List CommittedBudgetDelta) (key : String) (id : BudgetIdentity) :
    flow (first ++ second) key id = flow first key id + flow second key id := by
  simp [flow]

@[simp] theorem flow_nil (key : String) (id : BudgetIdentity) : flow [] key id = 0 := rfl

theorem flow_capture (owner key : String) (cap : BudgetCapture) (d : Int) (keep : BudgetIdentity → Bool) (id : BudgetIdentity) :
    flow ((captureDeltas owner cap d).filter (fun entry => keep entry.identity)) key id =
      if owner = key ∧ cap.covers id = true ∧ keep id = true then d else 0 := by
  have single : ∀ (on : Bool) (target : BudgetIdentity),
      flow ((if on then [(⟨owner, d, target⟩ : CommittedBudgetDelta)] else []).filter (fun entry => keep entry.identity)) key id =
        if on = true ∧ keep target = true ∧ owner = key ∧ target = id then d else 0 := by
    intro on target
    cases on with
    | false => simp
    | true => cases kept : keep target <;> simp [flow, kept]
  simp only [captureDeltas, List.filter_append, flow_append, single]
  cases id with
  | total => by_cases own : owner = key <;> simp [BudgetCapture.covers, own]
  | day start =>
    by_cases own : owner = key
    · by_cases same : start = cap.dayStart
      · simp [BudgetCapture.covers, own, same]
      · simp [BudgetCapture.covers, own, same, Ne.symm same]
    · simp [own]
  | month start =>
    by_cases own : owner = key
    · by_cases same : start = cap.monthStart
      · simp [BudgetCapture.covers, own, same]
      · simp [BudgetCapture.covers, own, same, Ne.symm same]
    · simp [own]

theorem flow_settlement (own key : String) (cap : BudgetCapture) (charge : Money) (id : BudgetIdentity) :
    flow (if isZeroMoney charge then [] else captureDeltas own cap charge.amount) key id =
      if own = key ∧ cap.covers id = true then (charge.amount : Int) else 0 := by
  cases zero : isZeroMoney charge with
  | true => simp [Money.amount_of_zero zero]
  | false =>
    have whole := flow_capture own key cap charge.amount (fun _ => true) id
    simpa using whole

theorem outstanding_append (sys : BudgetSystem) (lim : BudgetLimiter) (hold : BudgetReservation) (key : String) (id : BudgetIdentity) :
    BudgetSystem.outstanding { sys with limiter := lim, reservations := sys.reservations ++ [hold] } key id =
      sys.outstanding key id + hold.holding key id :=
  Roster.total_append _ _ _

theorem outstanding_set (has : sys.reservations[i]? = some hold) (lim : BudgetLimiter) (new : BudgetReservation) (key : String)
    (id : BudgetIdentity) : BudgetSystem.outstanding { sys with limiter := lim, reservations := sys.reservations.set i new } key id +
        hold.holding key id =
      sys.outstanding key id + new.holding key id :=
  Roster.total_set _ _ _ _ _ has

theorem outstanding_ticket (has : sys.reservations[i]? = some hold) (lim : BudgetLimiter) (ticket : BudgetAdjustmentTicket) (key : String)
    (id : BudgetIdentity) : BudgetSystem.outstanding
        { sys with limiter := lim, reservations := sys.reservations.set i (hold.withTicket ticket) } key id =
      sys.outstanding key id := by
  have change := outstanding_set has lim (hold.withTicket ticket) key id
  have same : (hold.withTicket ticket).holding key id = hold.holding key id := rfl
  omega

theorem holding_new (own key : String) (st : Option Nat) (gen : Nat) (amt : Money) (cap : BudgetCapture) (id : BudgetIdentity) :
    (newBudgetReservation own st gen amt cap).holding key id = if own = key ∧ cap.covers id = true then amt.amount else 0 := by
  simp [BudgetReservation.holding, newBudgetReservation]

theorem holding_idle (own key : String) (amt : Money) (id : BudgetIdentity) :
    (newBudgetReservation own none 0 amt noCapture).holding key id = 0 := by
  simp [holding_new]

theorem pruned_cell (lim : BudgetLimiter) (now : Int) (key alt : String) (id : BudgetIdentity) :
    held ((prunedLimiter lim now key).states.lookup alt) id = if alt = key then
        (held (lim.states.lookup key) id).filter (fun bin => !dropped (currentDay now) (currentMonth now) id bin)
      else held (lim.states.lookup alt) id := by
  cases has : lim.states.lookup key with
  | none =>
    rw [pruned_limiter_none now has]
    by_cases same : alt = key
    · subst same
      simp [has]
    · simp [same]
  | some =>
    rw [pruned_limiter_some now has, lookup_store]
    by_cases same : alt = key <;> simp [same, held_prune]

theorem prune_step {alt : String} {ans : Answer} {next : Option BudgetDayState} (holding : Nat) (clock : latest = clampTime sys.limiter.lastNow read)
    (res : next = if alt = key then (sys.cell key id).filter (fun bin => !dropped (currentDay latest) (currentMonth latest) id bin)
      else sys.cell alt id) : CellStep sys (.reserve read key pol cand) ans latest alt id 0 0 (sys.cell alt id) next holding holding := by
  by_cases same : alt = key
  · subst same
    cases cell : sys.cell alt id with
    | none => exact .kept _ _ _ (.inl (by simp [res, cell]))
    | some bin =>
      cases past : dropped (currentDay latest) (currentMonth latest) id bin with
      | true =>
        have gone : next = none := by simp [res, cell, Option.filter, past]
        exact gone ▸ .dropped read pol cand rfl clock bin holding past
      | false => exact .kept _ _ _ (.inl (by simp [res, cell, Option.filter, past]))
  · rw [if_neg same] at res
    exact .kept _ _ _ (.inl res)

theorem admitted_cells {base st : BudgetState} {seq nextAddress : Nat} (clock : latest = clampTime sys.limiter.lastNow read)
    (room : Room sys.limiter latest key pol cand) (begun : Opened sys.limiter latest key base seq nextAddress)
    (inside : Entered pol cand (captureAt pol latest) base st) (id : BudgetIdentity) (holding : Nat) :
    CellStep sys (.reserve read key pol cand) (.reserved sys.reservations.length) latest key id 0 0 (sys.cell key id) (held (some st) id)
      holding (holding + if (captureAt pol latest).covers id = true then cand.amount else 0) := by
  cases cov : (captureAt pol latest).covers id with
  | true =>
    obtain ⟨new, has, sknown, aknown, spent, active⟩ := inside.counted id cov
    have source := opened_source begun cov
    rw [has]
    exact .entered read pol cand rfl rfl clock cov _ new holding (room id cov) sknown aknown
      (spent.trans source.1) (by rw [active, source.2, BudgetSystem.cell])
  | false =>
    rw [inside.kept id cov]
    cases begun with
    | existing _ hit =>
      apply prune_step holding clock
      rw [if_pos rfl, BudgetSystem.cell, hit, held_prune]
    | fresh gone =>
      refine .kept _ _ _ ?_
      rw [BudgetSystem.cell, gone, held_blank]
      by_cases total : id = .total
      · exact .inr ⟨total, .inl ⟨rfl, by simp [total, zeroCell]⟩⟩
      · exact .inl (by simp [total])

theorem reserve_cells (out : ReserveOutcome sys.limiter (clampTime sys.limiter.lastNow read) key pol cand lim (.ok hold)) (alt : String)
    (id : BudgetIdentity) (holding : Nat) : CellStep sys (.reserve read key pol cand) (.reserved sys.reservations.length) lim.lastNow alt id 0 0
      (sys.cell alt id) (held (lim.states.lookup alt) id) holding (holding + hold.holding alt id) := by
  cases out with
  | unlimited =>
    rw [holding_idle]
    exact .kept _ _ _ (.inl rfl)
  | free =>
    rw [holding_idle]
    exact prune_step holding rfl (pruned_cell _ _ _ _ _)
  | admitted _ _ room _ _ _ _ _ begun inside =>
    rw [holding_new, FiniteMap.lookup_put]
    by_cases same : alt = key
    · subst same
      simp only [if_true, true_and]
      exact admitted_cells rfl room begun inside id holding
    · simp only [same, Ne.symm same, if_false, false_and]
      exact .kept _ _ _ (.inl rfl)

theorem reserve_failed_cells {err : BudgetError}
    (out : ReserveOutcome sys.limiter (clampTime sys.limiter.lastNow read) key pol cand lim (.error err)) (alt : String) (id : BudgetIdentity)
    (holding : Nat) : CellStep sys (.reserve read key pol cand) (.failed err) lim.lastNow alt id 0 0
      (sys.cell alt id) (held (lim.states.lookup alt) id) holding holding := by
  cases out with
  | refused => exact .kept _ _ _ (.inl rfl)
  | rejected | exhausted => exact prune_step holding rfl (pruned_cell _ _ _ _ _)

theorem close_holding (hold : BudgetReservation) (settlement : Settlement) (key : String) (id : BudgetIdentity) :
    (hold.close settlement).holding key id = 0 := by
  simp [BudgetReservation.holding, BudgetReservation.close]

theorem finalize_cells {term : Terminal} (has : sys.reservations[i]? = some hold) (fresh : hold.finalized = false) {settlement : Settlement}
    (out : SettleOutcome sys.limiter hold term.kind term.actual term.deferred lim settlement) (key : String) (id : BudgetIdentity)
    {holding holding' : Nat} (freed : holding' + hold.holding key id = holding) :
    CellStep sys (.finalize i term) (.settled (some settlement.result)) lim.lastNow key id (flow settlement.deltas key id) 0 (sys.cell key id)
      (held (lim.states.lookup key) id) holding holding' := by
  by_cases involved : hold.keyID = key ∧ hold.covers id = true
  · obtain ⟨owned, cov⟩ := involved
    have amt : hold.holding key id = hold.amount.amount := by
      simp [BudgetReservation.holding, owned, fresh, cov]
    rw [amt] at freed
    cases out with
    | idle inactive _ _ silent =>
      rw [silent]
      refine .abandoned i term hold rfl has fresh owned cov ?_ _ _ _ freed
      rintro ⟨live, nz⟩
      rcases inactive with gone | zero
      · exact absurd gone live
      · simp [zero] at nz
    | refused _ _ _ err _ silent _ cause =>
      rw [silent]
      exact .abandoned i term hold rfl has fresh owned cov (fun _ => ⟨err, cause⟩) _ _ _ freed
    | settled _ _ st next cur charge did _ _ billed ds =>
      obtain ⟨old, new, pre, after, sknown, aknown, spent, active⟩ := did.moved id cov
      obtain rfl := owned
      rw [ds, flow_settlement, if_pos ⟨rfl, cov⟩, BudgetSystem.cell, cur.present, pre]
      exact .settled i term hold rfl has fresh rfl cov st cur charge _ billed old new _ _ _
        sknown aknown spent active (after ▸ written_cell sys.limiter hold.keyID next id) freed
  · have unheld : hold.holding key id = 0 := by
      simp only [BudgetReservation.holding]
      rw [if_neg]
      rintro ⟨owned, _, cov⟩
      exact involved ⟨owned, cov⟩
    obtain rfl : holding' = holding := by omega
    cases out with
    | idle _ _ _ silent | refused _ _ _ _ _ silent =>
      rw [silent]
      exact .kept _ _ _ (.inl rfl)
    | settled _ _ _ _ cur _ did _ _ _ ds =>
      rw [ds, flow_settlement, if_neg involved]
      exact .kept _ _ _ (stored_cell cur.present (fun owned => did.kept id (by simpa [owned] using involved)))

theorem alike_bucket (alike : Alike id cell next) (bin : id ≠ .total) : next = cell := by
  rcases alike with same | ⟨total, _⟩
  · exact same
  · exact absurd total bin

theorem adjust_cells {actual : Money} {ticket : BudgetAdjustmentTicket} (has : sys.reservations[i]? = some hold)
    (issued : hold.ticket = some ticket) {adj : Adjustment} (out : AdjustOutcome sys.limiter ticket actual lim adj) (key : String)
    (id : BudgetIdentity) (holding : Nat) :
    CellStep sys (.adjust i actual) (answerFor adj.ticket.resultErr) lim.lastNow key id (flow adj.deltas key id) 0 (sys.cell key id)
      (held (lim.states.lookup key) id) holding holding := by
  cases out with
  | repeated | refused => exact .kept _ _ _ (.inl rfl)
  | equal fresh st next live same touched =>
    by_cases involved : ticket.keyID = key ∧ ticket.covers id = true
    · obtain ⟨rfl, cov⟩ := involved
      have after := written_cell sys.limiter ticket.keyID next id
      rw [touched.written id cov] at after
      rw [BudgetSystem.cell, live.present]
      cases cell : held (some st) id with
      | some =>
        rw [cell] at after
        exact .kept _ _ _ after
      | none =>
        have bin : id ≠ .total := by
          rintro rfl
          simp at cell
        rw [cell] at after
        rw [alike_bucket after bin]
        exact .blurred i actual hold ticket rfl has issued fresh rfl cov same st live cell holding
    · exact .kept _ _ _ (stored_cell live.present (fun owned => touched.kept id (by simpa [owned] using involved)))
  | shifted fresh _ next live known _ shifted =>
    have whole := flow_capture ticket.keyID key ticket.toBudgetCapture (actual.amount - ticket.reserved.amount) (fun _ => true) id
    simp only [List.filter_true, and_true] at whole
    rw [whole]
    by_cases involved : ticket.keyID = key ∧ ticket.covers id = true
    · rw [if_pos involved]
      obtain ⟨rfl, cov⟩ := involved
      obtain ⟨old, new, pre, after, activeSame, oldKnown, sknown, spent⟩ := shifted.moved id cov
      rw [BudgetSystem.cell, live.present, pre]
      exact .shifted i actual hold ticket rfl has issued fresh rfl cov known old new _ _ activeSame oldKnown
        sknown spent (after ▸ written_cell sys.limiter ticket.keyID next id)
    · rw [if_neg involved]
      exact .kept _ _ _ (stored_cell live.present (fun owned => shifted.kept id (by simpa [owned] using involved)))
  | torn fresh st live known diff total alt cov blocked =>
    rw [flow_capture ticket.keyID key ticket.toBudgetCapture _ (fun target => takes actual ticket.reserved (held (some st) target))]
    by_cases involved : ticket.keyID = key ∧ ticket.covers id = true ∧ takes actual ticket.reserved (held (some st) id) = true
    · rw [if_pos involved]
      exact .torn i actual hold ticket rfl has issued fresh involved.1 involved.2.1 known st live diff total
        alt cov blocked involved.2.2 _ holding
    · rw [if_neg involved]
      exact .kept _ _ _ (.inl rfl)

structure Placed (start : BudgetLimiter) (done : List PendingSpent) (lim : BudgetLimiter) : Prop where
  activeKnown : ∀ key st, lim.states.lookup key = some st → st.active.isKnown = true
  active : ∀ key id, activeIn (held (lim.states.lookup key) id) = activeIn (held (start.states.lookup key) id)
  cells : ∀ key id,
    Alike id (held (start.states.lookup key) id) (held (lim.states.lookup key) id) ∧
        loadedSpend done key id = 0 ∨
    ∃ row ∈ done, row.targets key id = true ∧ RowValid row ∧ isZeroMoney row.spent = false ∧
      loadedSpend done key id = row.spent.amount ∧ ∃ new, held (lim.states.lookup key) id = some new ∧ new.spent = row.spent ∧
        new.active.isKnown = true

theorem set_spent_active (id : BudgetIdentity) (spent : Money) : (setSpent st id spent).active = st.active := by
  cases id <;> rfl

theorem placed_more (aside : row.targets key id = false ∨ row.spent.amount = 0) :
    loadedSpend (done ++ [row]) key id = loadedSpend done key id := by
  rw [loaded_spend_append, loaded_spend_single]
  rcases aside with missed | zero
  · simp [missed]
  · simp [zero]

variable {start : BudgetLimiter}

theorem placed_store {next : BudgetLimiter} (placed : Placed start done lim) (valid : RowValid row) (nz : isZeroMoney row.spent = false)
    (distinct : ∀ past ∈ done, past.targets row.keyID row.identity = false) (aknown : st.active.isKnown = true)
    (vacant : alreadyLoaded st row.identity = false) (pre : ∀ id, Alike id (held (lim.states.lookup row.keyID) id) (held (some st) id))
    (stored : ∀ key, next.states.lookup key = if key = row.keyID then some (setSpent st row.identity row.spent) else lim.states.lookup key) :
    Placed start (done ++ [row]) next := by
  obtain ⟨new, newCell, newSpent, newActive, newKnown⟩ := held_set_spent_same row.spent vacant
  refine ⟨?_, ?_, ?_⟩
  · intro key alt has
    rw [stored] at has
    split at has
    · simp only [Option.some.injEq] at has
      rw [← has, set_spent_active]
      exact aknown
    · exact placed.activeKnown key alt has
  · intro key id
    rw [stored, ← placed.active key id]
    by_cases owned : key = row.keyID
    · rw [if_pos owned, owned, ← alike_active (pre id)]
      by_cases same : id = row.identity
      · rw [same, newCell, ← newActive]
        rfl
      · rw [held_set_spent _ _ _ _ same]
    · rw [if_neg owned]
  · intro key id
    rw [stored]
    by_cases aimed : row.targets key id = true
    · obtain ⟨rfl, rfl⟩ : row.keyID = key ∧ row.identity = id := by simpa [PendingSpent.targets] using aimed
      rw [if_pos rfl]
      refine .inr ⟨row, by simp, aimed, valid, nz, ?_, new, newCell, newSpent, newKnown aknown⟩
      rw [loaded_spend_append, loaded_spend_missed distinct, loaded_spend_single, if_pos aimed, Nat.zero_add]
    · have missed : row.targets key id = false := by simpa using aimed
      rw [placed_more (.inl missed)]
      have step : Alike id (held (lim.states.lookup key) id)
          (held (if key = row.keyID then some (setSpent st row.identity row.spent) else lim.states.lookup key) id) := by
        by_cases owned : key = row.keyID
        · have diff : id ≠ row.identity := by
            rintro rfl
            simp [PendingSpent.targets, owned] at missed
          rw [if_pos owned, owned, held_set_spent _ _ _ _ diff]
          exact pre id
        · rw [if_neg owned]
          exact .inl rfl
      rcases placed.cells key id with ⟨alike, unloaded⟩ | ⟨past, mem, targeted, earlierValid, earlierNonzero, sum, cell, there, spent, known⟩
      · exact .inl ⟨alike_trans alike step, unloaded⟩
      rw [there] at step
      have same : held (if key = row.keyID then some (setSpent st row.identity row.spent) else lim.states.lookup key) id = some cell := by
        rcases step with same | ⟨rfl, ⟨absurd, _⟩ | ⟨_, absurd⟩⟩
        · exact same
        · simp at absurd
        · by_cases owned : key = row.keyID
          · simp [owned] at absurd
          · rw [if_neg owned, there] at absurd
            simp at absurd
      exact .inr ⟨past, by simp [mem], targeted, earlierValid, earlierNonzero, sum, cell, same, spent, known⟩

theorem placed_row {gens : String → Nat} (done : List PendingSpent) (lim : BudgetLimiter) (row : PendingSpent) (next : BudgetLimiter)
    (placed : Placed start done lim) (valid : RowValid row) (diff : ∀ past ∈ done, past.targets row.keyID row.identity = false)
    (out : PlaceOutcome gens lim row next) : Placed start (done ++ [row]) next := by
  cases out with
  | zero free =>
    refine ⟨placed.activeKnown, placed.active, ?_⟩
    intro key id
    rw [placed_more (.inr (Money.amount_of_zero free))]
    rcases placed.cells key id with untouched | ⟨past, mem, rest⟩
    · exact .inl untouched
    · exact .inr ⟨past, by simp [mem], rest⟩
  | existing nz st has vacant =>
    refine placed_store st placed valid nz diff (placed.activeKnown _ _ has) vacant ?_ (fun key => lookup_store _ _ _ _)
    intro id
    rw [has]
    exact .inl rfl
  | fresh nz gone =>
    refine placed_store (blankState lim.nextAddress (gens row.keyID)) placed valid nz diff rfl ?_ ?_ (fun key => lookup_store _ _ _ _)
    · cases row.identity <;> simp [alreadyLoaded, blankState, Finmap.lookup_empty]
    intro id
    rw [gone, held_blank]
    by_cases total : id = .total
    · exact .inr ⟨total, .inl ⟨rfl, by simp [total, zeroCell]⟩⟩
    · exact .inl (by simp [total])

inductive LoadedCell (lim : BudgetLimiter) (values : List BudgetSpent) (key : String) (id : BudgetIdentity) :
    Nat → Option BudgetDayState → Option BudgetDayState → Prop where
  | kept (cell next : Option BudgetDayState) (alike : Alike id cell next) : LoadedCell lim values key id 0 cell next
  | loaded (due) (parsed : parseSpent values [] = some due) (row) (mem : row ∈ due)
      (targeted : row.targets key id = true) (valid : RowValid row) (nz : isZeroMoney row.spent = false)
      (clear : ∀ alt ∈ due, loadedRow lim alt = false) (cell new) (vacant : id ≠ .total → cell = none)
      (unloaded : id = .total → ∀ st, lim.states.lookup key = some st → st.totalLoaded = false)
      (spent : new.spent = row.spent) (aknown : new.active.isKnown = true) (active : new.active.amount = activeIn cell) :
      LoadedCell lim values key id row.spent.amount cell (some new)

theorem loaded_cell {next : BudgetLimiter} (order : List String) (out : LoadOutcome lim values next err) (key : String) (id : BudgetIdentity) :
    LoadedCell lim values key id (loadedSpend (loadedRows (.loadSpent order values) ⟨answerFor err, []⟩) key id)
      (held (lim.states.lookup key) id) (held (next.states.lookup key) id) := by
  cases out with
  | refused => exact .kept _ _ (.inl rfl)
  | loaded due parsed loadable gens _ seq =>
    have start : Placed lim [] { lim with sequence := seq } := by
      refine ⟨?_, fun _ _ => rfl, fun _ _ => .inl ⟨.inl rfl, rfl⟩⟩
      intro alt st has
      exact (accepted_cell .total (loadable.accepted alt st has) rfl).2.1
    have placed := load_rows gens loadable placed_row start
    have rows : loadedRows (.loadSpent order values) ⟨answerFor none, []⟩ = due := by simp [loadedRows, answerFor, parsed]
    rw [rows]
    rcases placed.cells key id with ⟨alike, unloaded⟩ | ⟨row, mem, targeted, valid, nz, sum, new, there, spent, known⟩
    · rw [unloaded]
      exact .kept _ _ alike
    have aimed : row.keyID = key ∧ row.identity = id := by simpa [PendingSpent.targets] using targeted
    have active := placed.active key id
    rw [there] at active ⊢
    rw [sum]
    refine .loaded due parsed row mem targeted valid nz ?_ _ new ?_ ?_ spent known active
    · intro alt otherMember
      cases has : lim.states.lookup alt.keyID with
      | none => simp [loadedRow, has]
      | some st => simpa [loadedRow, has] using loadable.vacant alt otherMember st has
    · intro bin
      cases has : lim.states.lookup key with
      | none => simp
      | some st =>
        have vacant := loadable.vacant row mem st (aimed.1 ▸ has)
        rw [aimed.2] at vacant
        cases id with
        | total => exact absurd rfl bin
        | day | month => simpa [alreadyLoaded] using vacant
    · rintro rfl st has
      have vacant := loadable.vacant row mem st (aimed.1 ▸ has)
      rwa [aimed.2] at vacant

theorem load_cells {order : List String} (out : LoadOutcome sys.limiter values lim err) (key : String) (id : BudgetIdentity) (holding : Nat) :
    CellStep sys (.loadSpent order values) (answerFor err) lim.lastNow key id 0
      (loadedSpend (loadedRows (.loadSpent order values) ⟨answerFor err, []⟩) key id) (sys.cell key id)
      (held (lim.states.lookup key) id) holding holding := by
  have loaded := loaded_cell order out key id
  rw [← BudgetSystem.cell] at loaded
  generalize loadedSpend (loadedRows (.loadSpent order values) ⟨answerFor err, []⟩) key id = credit at loaded ⊢
  generalize held (lim.states.lookup key) id = next at loaded ⊢
  cases loaded with
  | kept _ _ alike => exact .kept _ _ _ alike
  | loaded due parsed row mem targeted valid nz clear _ new vacant unloaded spent aknown active =>
    exact .loaded order values due rfl parsed row mem targeted valid nz clear _ new holding vacant unloaded spent aknown active

theorem replace_commit_cell (lim : BudgetLimiter) (key alt : String) (pol : BudgetPolicy) (id : BudgetIdentity) :
    held ((replaceCommit lim key pol).states.lookup alt) id = held (lim.states.lookup alt) id := by
  unfold replaceCommit
  cases has : lim.states.lookup key with
  | none => rfl
  | some =>
    by_cases same : alt = key
    · subst same
      simp [has]
    · simp [same]

theorem register_states (lim : BudgetLimiter) (key : String) (pol : BudgetPolicy) : (registerPolicy lim key pol).states = lim.states := by
  unfold registerPolicy
  split <;> rfl

theorem step_cells {next : BudgetSystem} {call : Call} {rep : Reply} (ok : sys.Sound) (ran : step sys call = some (next, rep)) (key : String)
    (id : BudgetIdentity) : CellStep sys call rep.answer next.limiter.lastNow key id (flow rep.deltas key id)
      (loadedSpend (loadedRows call rep) key id) (sys.cell key id) (next.cell key id) (sys.outstanding key id) (next.outstanding key id) := by
  cases step_outcome ok ran with
  | loaded _ _ _ _ out => exact load_cells out key id _
  | registered => exact .kept _ _ _ (.inl (by simp only [BudgetSystem.cell, register_states]))
  | replaceCommitted => exact .kept _ _ _ (.inl (replace_commit_cell _ _ _ _ _))
  | reserved _ _ _ _ _ _ _ out =>
    rw [outstanding_append]
    exact reserve_cells out key id _
  | reserveFailed _ _ _ _ _ _ _ out => exact reserve_failed_cells out key id _
  | finalized _ _ hold has new lim settlement out =>
    have freed := outstanding_set has lim (hold.close settlement) key id
    rw [close_holding, Nat.add_zero] at freed
    exact finalize_cells has new out key id freed
  | adjusted _ _ _ _ has issued lim adj out =>
    rw [outstanding_ticket has lim adj.ticket]
    exact adjust_cells has issued out key id _
  | invalidated _ _ ticket has =>
    rw [outstanding_ticket has sys.limiter (invalidate ticket)]
    exact .kept _ _ _ (.inl rfl)
  | _ => exact .kept _ _ _ (.inl rfl)

end NineGateway.Budget
