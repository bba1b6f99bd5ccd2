import NineGateway.Budget.Cells

set_option autoImplicit false

namespace NineGateway.Budget

-- The budget system together with its sink. The deltas of a call are published
-- after the limiter's locks are released, so other calls and other deliveries
-- come in between; a call is in progress until its deltas are delivered.
structure LedgerSystem where
  system : BudgetSystem
  inFlight : List CommittedBudgetDelta
  delivered : List CommittedBudgetDelta
  loaded : List PendingSpent
deriving DecidableEq

def newLedgerSystem : LedgerSystem := { system := newBudgetSystem, inFlight := [], delivered := [], loaded := [] }

inductive LedgerCall where
  | call (call : Call)
  | deliver (index : Nat)
deriving DecidableEq, Repr

def ledgerStep (ledger : LedgerSystem) : LedgerCall → Option (LedgerSystem × Option Reply)
  | .call call =>
    match step ledger.system call with
    | none => none
    | some (next, reply) =>
      some ({ ledger with
        system := next, inFlight := ledger.inFlight ++ reply.deltas, loaded := ledger.loaded ++ loadedRows call reply }, some reply)
  | .deliver index =>
    match ledger.inFlight[index]? with
    | none => none
    | some delta =>
      some ({ ledger with inFlight := ledger.inFlight.eraseIdx index, delivered := ledger.delivered ++ [delta] }, none)

def LedgerSystem.recorded (ledger : LedgerSystem) (keyID : String) (identity : BudgetIdentity) : Int :=
  loadedSpend ledger.loaded keyID identity + flow ledger.delivered keyID identity

def LedgerSystem.booked (ledger : LedgerSystem) (keyID : String) (identity : BudgetIdentity) : Int :=
  ledger.recorded keyID identity + flow ledger.inFlight keyID identity

def LedgerLaw (ledger : LedgerSystem) (keyID : String) : Prop :=
  (spentIn (ledger.system.cell keyID .total) : Int) = ledger.recorded keyID .total ∧
    ∀ identity bucket, ledger.system.cell keyID identity = some bucket →
      bucket.spent.isKnown = true ∧ (bucket.spent.amount : Int) = ledger.recorded keyID identity

-- An adjustment is whole when the counters the ticket captured move together or
-- stay together: all can take the difference or none can, the lifetime counter
-- alone refuses it with an error, and an unchanged cost finds every bucket.
def adjustWhole (system : BudgetSystem) (index : Nat) (actual : Money) : Bool :=
  match system.reservations[index]?.bind BudgetReservation.ticket with
  | none => true
  | some ticket =>
    match system.limiter.states.lookup ticket.keyID with
    | none => true
    | some state =>
      let able := fun identity => takes actual ticket.reserved (held (some state) identity)
      ticket.consumed || !validKnownMoney actual || decide (state.generation ≠ ticket.generation) ||
        if actual = ticket.reserved then ticket.identities.all (fun identity => (held (some state) identity).isSome)
        else ticket.identities.all able || ticket.identities.all (fun identity => !able identity) || ticket.totalCaptured && !able .total

-- A load must not bring back spend the ledger already counts, unless it is
-- refused because one of its identities is still in memory.
def loadWhole (ledger : LedgerSystem) (values : List BudgetSpent) : Bool :=
  match parseSpent values [] with
  | none => true
  | some pending =>
    pending.any (loadedRow ledger.system.limiter) ||
      pending.all (fun row => isZeroMoney row.spent || decide (ledger.booked row.keyID row.identity = 0))

def ledgerSafe (ledger : LedgerSystem) : LedgerCall → Bool
  | .call (.adjust index actual) => adjustWhole ledger.system index actual
  | .call (.loadSpent _ values) => loadWhole ledger values
  | .call call => decide (call.reading ≠ some zeroTime)
  | .deliver _ => true

def pastIn (now : Int) : BudgetIdentity → Bool
  | .total => false
  | .day start => decide (start < currentDay now)
  | .month start => decide (start < currentMonth now)

structure LedgerInvariant (ledger : LedgerSystem) : Prop where
  sound : ledger.system.Sound
  law : ∀ key id bin, ledger.system.cell key id = some bin → bin.spent.isKnown = true ∧ (bin.spent.amount : Int) = ledger.booked key id
  absent : ∀ key id, ledger.system.cell key id = none → ledger.booked key id = 0 ∨
    ledger.system.limiter.lastNow ≠ zeroTime ∧ pastIn ledger.system.limiter.lastNow id = true

def Booked (amt : Int) (excused : Prop) (cell : Option BudgetDayState) : Prop :=
  (∀ bin, cell = some bin → bin.spent.isKnown = true ∧ (bin.spent.amount : Int) = amt) ∧ (cell = none → amt = 0 ∨ excused)

open LedgerSystem

variable {id : BudgetIdentity} {excused : Prop} {amt : Int} {new : BudgetDayState} {now : Int}

theorem booked_some (known : new.spent.isKnown = true) (v : (new.spent.amount : Int) = amt) : Booked amt excused (some new) := by
  refine ⟨?_, fun absurd => by simp at absurd⟩
  rintro bin ⟨⟩
  exact ⟨known, v⟩

theorem booked_alike {cell after : Option BudgetDayState} (books : Booked amt excused cell) (unexcused : id = .total → ¬ excused)
    (alike : Alike id cell after) : Booked amt excused after := by
  rcases alike with rfl | ⟨total, ⟨rfl, rfl⟩ | ⟨rfl, rfl⟩⟩
  · exact books
  · exact booked_some rfl ((books.2 rfl).resolve_right (unexcused total)).symm
  · exact ⟨fun _ absurd => by simp at absurd, fun _ => .inl (books.1 zeroCell rfl).2.symm⟩

theorem booked_written {after : Option BudgetDayState} (alike : Alike id (some new) after) (known : new.spent.isKnown = true)
    (v : (new.spent.amount : Int) = amt) : Booked amt excused after := by
  rcases alike with rfl | ⟨_, ⟨absurd, _⟩ | ⟨zero, rfl⟩⟩
  · exact booked_some known v
  · simp at absurd
  · refine ⟨fun _ absurd => by simp at absurd, fun _ => .inl ?_⟩
    rw [← v, Option.some.inj zero]
    rfl

theorem past_of_dropped {bin : BudgetDayState} (past : dropped (currentDay now) (currentMonth now) id bin = true) : pastIn now id = true := by
  cases id with
  | total => simp [dropped] at past
  | day | month =>
    simp only [dropped, Bool.and_eq_true] at past
    exact past.1

theorem past_mono {first second : Int} (order : first ≤ second) (past : pastIn first id = true) : pastIn second id = true := by
  have days := current_day_mono order
  have months := current_month_mono order
  cases id with
  | total => simp [pastIn] at past
  | day | month =>
    simp only [pastIn, decide_eq_true_eq] at past ⊢
    omega

theorem covered_not_past {pol : BudgetPolicy} (cov : (captureAt pol now).covers id = true) : pastIn now id = false := by
  cases id with
  | total => rfl
  | day =>
    simp only [captureAt, covers_day, Bool.and_eq_true, decide_eq_true_eq] at cov
    simp [pastIn, cov.2]
  | month =>
    simp only [captureAt, covers_month, Bool.and_eq_true, decide_eq_true_eq] at cov
    simp [pastIn, cov.2]

theorem clock_forward {sys next : BudgetSystem} {call : Call} {rep : Reply} (ok : sys.Sound) (ran : step sys call = some (next, rep))
    (honest : call.reading ≠ some zeroTime) (begun : sys.limiter.lastNow ≠ zeroTime) :
    next.limiter.lastNow ≠ zeroTime ∧ sys.limiter.lastNow ≤ next.limiter.lastNow := by
  rcases step_clock ok ran with same | ⟨reading, read, clock⟩
  · rw [same]
    exact ⟨begun, Int.le_refl _⟩
  rw [clock]
  refine ⟨?_, clamp_time_ge _ _ begun⟩
  rcases clamp_time_cases sys.limiter.lastNow reading with forward | ⟨_, still⟩
  · rw [forward]
    rintro rfl
    exact honest read
  · rwa [still]

theorem whole_not_torn {sys : BudgetSystem} {i : Nat} {actual : Money} {hold : BudgetReservation} {ticket : BudgetAdjustmentTicket}
    {st : BudgetState} (whole : adjustWhole sys i actual = true) (has : sys.reservations[i]? = some hold) (issued : hold.ticket = some ticket)
    (fresh : ticket.consumed = false) (known : actual.isKnown = true) (live : TicketLive sys.limiter ticket st) :
    if actual = ticket.reserved then ∀ id, ticket.covers id = true → held (some st) id ≠ none
    else (∀ id, ticket.covers id = true → takes actual ticket.reserved (held (some st) id) = true) ∨
      (∀ id, ticket.covers id = true → takes actual ticket.reserved (held (some st) id) = false) ∨
      ticket.totalCaptured = true ∧ takes actual ticket.reserved (held (some st) .total) = false := by
  simp only [adjustWhole, has, Option.bind_some, issued, live.present, fresh, validKnownMoney, known, live.generation] at whole
  by_cases same : actual = ticket.reserved
  · rw [if_pos same]
    simp only [if_pos same] at whole
    intro id cov missing
    have held_ := List.all_eq_true.mp (by simpa using whole) id ((mem_identities _ _).mpr cov)
    simp [missing] at held_
  · rw [if_neg same]
    simp only [if_neg same] at whole
    simp only [← mem_identities]
    simpa [or_assoc] using whole

section Step

variable {ledger : LedgerSystem} {call : Call} {next : BudgetSystem} {rep : Reply}

theorem safe_reading (safe : ledgerSafe ledger (.call call) = true) : call.reading ≠ some zeroTime := by
  cases call with
  | reserve | retryAfter => simpa [ledgerSafe] using safe
  | _ => simp [Call.reading]

theorem cell_ledger_law (inv : LedgerInvariant ledger) (safe : ledgerSafe ledger (.call call) = true)
    (ran : step ledger.system call = some (next, rep)) (key : String) (id : BudgetIdentity) :
    Booked (ledger.booked key id + loadedSpend (loadedRows call rep) key id + flow rep.deltas key id)
      (next.limiter.lastNow ≠ zeroTime ∧ pastIn next.limiter.lastNow id = true) (next.cell key id) := by
  have honest := safe_reading safe
  have forward := clock_forward inv.sound ran honest
  have books : Booked (ledger.booked key id) (next.limiter.lastNow ≠ zeroTime ∧ pastIn next.limiter.lastNow id = true)
      (ledger.system.cell key id) := by
    refine ⟨inv.law key id, fun missing => (inv.absent key id missing).imp_right ?_⟩
    rintro ⟨begun, past⟩
    exact ⟨(forward begun).1, past_mono (forward begun).2 past⟩
  have cellStep := step_cells inv.sound ran key id
  generalize ledger.system.cell key id = cell at cellStep books
  generalize next.cell key id = after at cellStep ⊢
  generalize flow rep.deltas key id = sent at cellStep ⊢
  generalize loadedSpend (loadedRows call rep) key id = credit at cellStep ⊢
  generalize next.outstanding key id = holding' at cellStep
  cases cellStep with
  | kept _ _ _ alike =>
    simp only [Int.natCast_zero, Int.add_zero]
    exact booked_alike books (fun total past => by simp [total, pastIn] at past) alike
  | dropped read _ _ called clock _ _ past =>
    refine ⟨fun _ absurd => by simp at absurd, fun _ => .inr ⟨?_, past_of_dropped past⟩⟩
    rw [clock]
    rcases clamp_time_cases ledger.system.limiter.lastNow read with moved | ⟨begun, still⟩
    · rw [moved]
      rintro rfl
      exact honest (by simp [called, Call.reading])
    · rwa [still]
  | entered _ _ _ _ _ _ cov _ _ _ _ sknown _ spent =>
    refine booked_some sknown ?_
    rw [spent]
    cases cell with
    | some old => simpa using (books.1 old rfl).2
    | none =>
      rcases books.2 rfl with zero | ⟨_, past⟩
      · simp [zero]
      · rw [covered_not_past cov] at past
        simp at past
  | settled index terminal hold called has fresh owned cov state current charge failure charged old new _ _ _
      sknown activeKnown spent active alike released =>
      have v := (books.1 old rfl).2
      refine booked_written alike sknown ?_
      omega
  | abandoned =>
    simpa only [Int.natCast_zero, Int.add_zero] using books
  | shifted index actual hold ticket called has issued fresh owned cov known old new _ _ activeSame oldKnown sknown spent alike =>
      have v := (books.1 old rfl).2
      refine booked_written alike sknown ?_
      omega
  | torn index actual hold ticket called has issued fresh owned cov known state live different total other otherCovered blocked able _ _ =>
      subst called
      have whole := whole_not_torn safe has issued fresh known live
      rw [if_neg (fun same => different (by rw [same]))] at whole
      rcases whole with all | none | ⟨caught, denied⟩
      · simp [all other otherCovered] at blocked
      · simp [none id cov] at able
      · rw [total caught] at denied
        simp at denied
  | blurred _ _ hold ticket called has issued fresh _ cov same _ live missing =>
    subst called
    have soundTicket := (inv.sound hold (List.mem_of_getElem? has)).ticketSound ticket issued fresh
    have whole := whole_not_torn safe has issued fresh (same ▸ soundTicket.reserved) live
    rw [if_pos same] at whole
    exact absurd missing (whole id cov)
  | loaded _ _ due called parsed row mem targeted valid nz clear _ _ _ _ _ spent =>
    subst called
    have aimed : row.keyID = key ∧ row.identity = id := by simpa [PendingSpent.targets] using targeted
    have free : ledger.booked key id = 0 := by
      have none : due.any (loadedRow ledger.system.limiter) = false := by simpa using clear
      simp only [ledgerSafe, loadWhole, parsed, none, Bool.false_or, List.all_eq_true] at safe
      simpa [nz, aimed.1, aimed.2] using safe row mem
    exact booked_some (spent ▸ valid.known) (by simp [spent, free])

end Step

theorem flow_erase (ds : List CommittedBudgetDelta) (i : Nat) (d : CommittedBudgetDelta) (has : ds[i]? = some d) (key : String)
    (id : BudgetIdentity) : flow [d] key id + flow (ds.eraseIdx i) key id = flow ds key id := by
  induction ds generalizing i with
  | nil => simp at has
  | cons head tail ih =>
    cases i with
    | zero =>
      have same : head = d := by simpa using has
      rw [← same, List.eraseIdx_cons_zero, ← flow_append]
      rfl
    | succ i =>
      have rest := ih i (by simpa using has)
      have split : ∀ list, flow (head :: list) key id = flow [head] key id + flow list key id := by
        intro list
        rw [← flow_append]
        rfl
      rw [List.eraseIdx_cons_succ, split, split tail]
      omega

theorem ledger_step_kept {ledger next : LedgerSystem} {call : LedgerCall} {rep : Option Reply} (inv : LedgerInvariant ledger)
    (safe : ledgerSafe ledger call = true) (ran : ledgerStep ledger call = some (next, rep)) : LedgerInvariant next := by
  cases call with
  | deliver i =>
    simp only [ledgerStep] at ran
    cases has : ledger.inFlight[i]? with
    | none => simp [has] at ran
    | some d =>
      simp only [has] at ran
      cases ran
      have booked : ∀ key id, booked { ledger with inFlight := ledger.inFlight.eraseIdx i, delivered := ledger.delivered ++ [d] } key id =
            ledger.booked key id := by
        intro key id
        have did := flow_erase ledger.inFlight i d has key id
        simp only [booked, recorded, flow_append]
        omega
      refine ⟨inv.sound, ?_, ?_⟩
      · intro key id bin there
        rw [booked]
        exact inv.law key id bin there
      · intro key id missing
        rw [booked]
        exact inv.absent key id missing
  | call call =>
    simp only [ledgerStep] at ran
    cases base : step ledger.system call with
    | none => simp [base] at ran
    | some pair =>
      obtain ⟨sys, ans⟩ := pair
      simp only [base] at ran
      cases ran
      have booked : ∀ key id, booked { ledger with
            system := sys, inFlight := ledger.inFlight ++ ans.deltas, loaded := ledger.loaded ++ loadedRows call ans }
          key id = ledger.booked key id + loadedSpend (loadedRows call ans) key id + flow ans.deltas key id := by
        simp only [booked, recorded, flow_append, loaded_spend_append]
        omega
      refine ⟨sound_step inv.sound base, ?_, ?_⟩
      · intro key id bin there
        rw [booked]
        exact (cell_ledger_law inv safe base key id).1 bin there
      · intro key id missing
        rw [booked]
        exact (cell_ledger_law inv safe base key id).2 missing

theorem new_ledger_invariant : LedgerInvariant newLedgerSystem := by
  refine ⟨new_system_sound, ?_, ?_⟩
  · intro key id bin there
    simp [newLedgerSystem, newBudgetSystem, newBudgetLimiter, BudgetSystem.cell, Finmap.lookup_empty] at there
  · intro key id _
    exact .inl rfl

-- In every state a run of whole steps reaches with no delta under way, memory
-- and the record agree.
theorem ledger_law_of_whole_steps (calls : List LedgerCall) (final : LedgerSystem) (replies : List (Option Reply))
    (run : Transition.execute ledgerStep newLedgerSystem calls = some (final, replies))
    (whole : Transition.Along ledgerStep (fun ledger call => ledgerSafe ledger call = true) newLedgerSystem calls) (quiet : final.inFlight = [])
    (keyID : String) : LedgerLaw final keyID := by
  have inv : LedgerInvariant final :=
    Transition.run_invariant LedgerInvariant (fun _ _ _ _ => ledger_step_kept) new_ledger_invariant whole run
  have booked : ∀ id, final.booked keyID id = final.recorded keyID id := by
    simp [booked, quiet]
  refine ⟨?_, ?_⟩
  · rw [← booked]
    cases there : final.system.cell keyID .total with
    | none =>
      have zero : final.booked keyID .total = 0 := by simpa [pastIn] using inv.absent keyID .total there
      exact zero.symm
    | some bin => exact (inv.law keyID .total bin there).2
  · intro id bin there
    rw [← booked]
    exact inv.law keyID id bin there

def wholeRun : List LedgerCall :=
  [.call (.loadSpent [] [⟨"key", .known 30, .total, zeroTime⟩, ⟨"key", .known 20, .day, 0⟩]),
    .call (.reserve 1 "key" (totalAndDailyBudgetPolicy (.known 100) (.known 50)) (.known 10)),
    .call (.finalize 0 .commitDeferred), .deliver 1, .call (.adjust 0 (.known 4)), .deliver 0, .deliver 0, .deliver 0]

theorem ledger_law_whole_run : ∃ final replies, Transition.execute ledgerStep newLedgerSystem wholeRun = some (final, replies) ∧
    final.inFlight = [] ∧ spentIn (final.system.cell "key" .total) = 34 ∧ LedgerLaw final "key" :=
  ⟨_, _, Transition.execute_get (by decide), by decide, by decide,
    ledger_law_of_whole_steps wholeRun _ _ (Transition.execute_get (by decide)) (by decide) (by decide) "key"⟩

-- The next day's admission drops the admitting day's bucket, so the adjustment
-- leaves memory as it is and still sends the lifetime delta.
def tornRun : List LedgerCall :=
  [.call (.reserve 0 "key" (totalAndDailyBudgetPolicy (.known 100) (.known 50)) (.known 10)),
    .call (.finalize 0 .commitDeferred), .deliver 0, .deliver 0,
    .call (.reserve dayNanos "key" (totalAndDailyBudgetPolicy (.known 100) (.known 50)) (.known 5)),
    .call (.adjust 0 (.known 4)), .deliver 0]

theorem ledger_law_torn_run : ¬ ∀ (calls : List LedgerCall) (final : LedgerSystem) (replies : List (Option Reply)),
    Transition.execute ledgerStep newLedgerSystem calls = some (final, replies) → final.inFlight = [] → ∀ keyID, LedgerLaw final keyID := by
  intro law
  have total := (law tornRun _ _ (Transition.execute_get (by decide)) (by decide) "key").1
  exact absurd total (by decide)

end NineGateway.Budget
