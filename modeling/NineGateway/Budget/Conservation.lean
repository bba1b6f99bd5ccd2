import NineGateway.Budget.Lockout

set_option autoImplicit false

namespace NineGateway.Budget

open Transition BudgetSystem BudgetReservation

structure Continues (st kept : BudgetState) : Prop where
  address : kept.address = st.address
  generation : kept.generation = st.generation
  loaded : st.totalLoaded = true → kept.totalLoaded = true

theorem continues_same (st : BudgetState) : Continues st st := ⟨rfl, rfl, fun on => on⟩

theorem continues_frame {st next : BudgetState} (frame : SameFrame st next) : Continues st next :=
  ⟨frame.address, frame.generation, fun on => frame.loaded.trans on⟩

def Persists (key : String) (lim next : BudgetLimiter) : Prop :=
  ∀ st, lim.states.lookup key = some st → next.states.lookup key = none ∨
    ∃ kept, next.states.lookup key = some kept ∧ Continues st kept

variable {key own : String} {lim : BudgetLimiter} {sys next final middle : BudgetSystem} {call : Call} {rep : Reply} {cs : List Call}
variable {outs : List Reply} {i : Nat} {term : Terminal} {hold : BudgetReservation}

theorem persists_same {next : BudgetLimiter} (same : next.states = lim.states) : Persists key lim next := by
  intro st has
  exact .inr ⟨st, by rw [same]; exact has, continues_same st⟩

theorem persists_put {next : BudgetLimiter} {written : Option BudgetState}
    (stored : ∀ alt, next.states.lookup alt = if alt = own then written else lim.states.lookup alt)
    (framed : ∀ st kept, lim.states.lookup own = some st → written = some kept → Continues st kept) : Persists key lim next := by
  intro st has
  rw [stored]
  by_cases owned : key = own
  · rw [if_pos owned]
    cases after : written with
    | none => exact .inl rfl
    | some kept => exact .inr ⟨kept, rfl, framed st kept (owned ▸ has) after⟩
  · rw [if_neg owned]
    exact .inr ⟨st, has, continues_same st⟩

theorem keep_state_some {st kept : BudgetState} (there : keepState st = some kept) : kept = st := by
  unfold keepState at there
  split at there
  · simp at there
  · simpa using there.symm

theorem persists_written {st next : BudgetState} (has : lim.states.lookup own = some st)
    (frame : SameFrame st next) : Persists key lim (lim.storeOrDelete own next) := by
  refine persists_put (fun alt => lookup_store_or_delete _ _ _ _) ?_
  intro old kept hit there
  obtain rfl : st = old := by simpa [has] using hit
  rw [keep_state_some there]
  exact continues_frame frame

theorem persists_pruned (lim : BudgetLimiter) (now : Int) : Persists key lim (prunedLimiter lim now own) := by
  cases has : lim.states.lookup own with
  | none =>
    rw [pruned_limiter_none now has]
    exact persists_same rfl
  | some st =>
    rw [pruned_limiter_some now has]
    refine persists_put (fun alt => lookup_store _ _ _ _) ?_
    intro old kept hit there
    obtain rfl : st = old := by simpa [has] using hit
    simp only [Option.some.injEq] at there
    subst there
    exact ⟨rfl, rfl, fun on => on⟩

theorem set_spent_continues (st : BudgetState) (id : BudgetIdentity) (spent : Money) : Continues st (setSpent st id spent) := by
  cases id with
  | total => exact ⟨rfl, rfl, fun _ => rfl⟩
  | day | month => exact ⟨rfl, rfl, fun on => on⟩

def Endures (key : String) (lim next : BudgetLimiter) : Prop :=
  ∀ st, lim.states.lookup key = some st → ∃ kept, next.states.lookup key = some kept ∧ Continues st kept

theorem endures_placed {gens : String → Nat} {start : BudgetLimiter} (done : List PendingSpent) (lim : BudgetLimiter)
    (row : PendingSpent) (next : BudgetLimiter) (endures : Endures key start lim) (_valid : RowValid row)
    (_distinct : ∀ past ∈ done, past.targets row.keyID row.identity = false)
    (out : PlaceOutcome gens lim row next) : Endures key start next := by
  intro st has
  obtain ⟨kept, there, continues⟩ := endures st has
  cases out with
  | zero => exact ⟨kept, there, continues⟩
  | existing _ old hit =>
    rw [lookup_store]
    by_cases owned : key = row.keyID
    · obtain rfl : kept = old := Option.some.inj (by rw [← there, owned, hit])
      have frame := set_spent_continues kept row.identity row.spent
      exact ⟨_, if_pos owned, frame.address.trans continues.address, frame.generation.trans continues.generation,
        fun on => frame.loaded (continues.loaded on)⟩
    · exact ⟨kept, by rwa [if_neg owned], continues⟩
  | fresh _ gone =>
    have alt : key ≠ row.keyID := by
      rintro rfl
      simp [gone] at there
    exact ⟨kept, by rw [lookup_store, if_neg alt]; exact there, continues⟩

theorem step_persists (ok : sys.Sound) (ran : step sys call = some (next, rep))
    (key : String) : Persists key sys.limiter next.limiter := by
  cases step_outcome ok ran with
  | loaded _ _ _ _ out =>
    cases out with
    | refused => exact persists_same rfl
    | loaded _ _ loadable gens _ seq =>
      have start : Endures key sys.limiter { sys.limiter with sequence := seq } :=
        fun st has => ⟨st, has, continues_same st⟩
      have endures := load_rows gens (motive := fun _ limiter => Endures key sys.limiter limiter) loadable (endures_placed) start
      exact fun st has => .inr (endures st has)
  | registered => exact persists_same (register_states _ _ _)
  | replaceCommitted due =>
    cases has : sys.limiter.states.lookup due.keyID with
    | none => exact persists_same (by simp [replaceCommit, has])
    | some st =>
      have stored : ∀ alt, (replaceCommit sys.limiter due.keyID due.newPolicy).states.lookup alt =
          if alt = due.keyID then some (applyBudgetPolicy st due.newPolicy) else sys.limiter.states.lookup alt := by
        simp [replaceCommit, has]
      refine persists_put stored ?_
      · intro old kept hit there
        obtain rfl : st = old := by simpa [has] using hit
        simp only [Option.some.injEq] at there
        subst there
        exact ⟨rfl, rfl, fun on => by simp [applyBudgetPolicy, on]⟩
  | reserved _ _ _ _ _ _ _ out =>
    cases out with
    | unlimited => exact persists_same rfl
    | free => exact persists_pruned _ _
    | admitted _ _ _ _ _ _ _ _ begun inside =>
      refine persists_put (fun alt => FiniteMap.lookup_put _ _ _ _) ?_
      intro old kept hit there
      simp only [Option.some.injEq] at there
      subst there
      cases begun with
      | existing origin has =>
        obtain rfl : origin = old := by simpa [has] using hit
        exact ⟨inside.address, inside.generation, fun on => by rw [inside.loaded]; simp [pruneState, on]⟩
      | fresh gone => simp [gone] at hit
  | reserveFailed _ _ _ _ _ _ _ out =>
    cases out with
    | refused => exact persists_same rfl
    | rejected | exhausted => exact persists_pruned _ _
  | finalized _ _ _ _ _ _ _ out =>
    cases out with
    | idle | refused => exact persists_same rfl
    | settled _ _ _ _ cur _ did => exact persists_written cur.present did.frame
  | adjusted _ _ _ _ _ _ _ _ out =>
    cases out with
    | repeated | refused | torn => exact persists_same rfl
    | equal _ _ _ live _ touched | shifted _ _ _ live _ _ touched => exact persists_written live.present touched.frame
  | _ => exact persists_same rfl

def PointsAt (lim : BudgetLimiter) (hold : BudgetReservation) : Prop :=
  ∃ st, lim.states.lookup hold.keyID = some st ∧ some st.address = hold.state ∧
    st.generation = hold.generation

theorem step_handles (ok : sys.Sound) (ran : step sys call = some (next, rep))
    {handle : BudgetReservation} (mem : handle ∈ next.reservations) (undone : handle.finalized = false) {id : BudgetIdentity}
    (cov : handle.covers id = true) :
    PointsAt next.limiter handle ∨ ∃ old ∈ sys.reservations, old.finalized = false ∧ old.keyID = handle.keyID ∧
      old.covers id = true ∧ old.state = handle.state ∧ old.generation = handle.generation := by
  have stayed : handle ∈ sys.reservations → PointsAt next.limiter handle ∨ ∃ old ∈ sys.reservations, old.finalized = false ∧
      old.keyID = handle.keyID ∧ old.covers id = true ∧ old.state = handle.state ∧ old.generation = handle.generation :=
    fun old => .inr ⟨handle, old, undone, rfl, cov, rfl, rfl⟩
  cases step_outcome ok ran with
  | reserved _ _ _ _ _ _ _ out =>
    rcases List.mem_append.mp mem with old | last
    · exact .inr ⟨handle, old, undone, rfl, cov, rfl, rfl⟩
    obtain rfl := List.mem_singleton.mp last
    cases out with
    | unlimited | free =>
      have absurd : noCapture.covers id = true := cov
      simp at absurd
    | admitted _ _ _ _ _ st =>
      exact .inl ⟨st, by simp [newBudgetReservation], rfl, rfl⟩
  | finalized =>
    rcases List.mem_or_eq_of_mem_set mem with old | rfl
    · exact .inr ⟨handle, old, undone, rfl, cov, rfl, rfl⟩
    · simp [close] at undone
  | adjusted _ _ hold _ has | invalidated _ hold _ has =>
    rcases List.mem_or_eq_of_mem_set mem with old | rfl
    · exact .inr ⟨handle, old, undone, rfl, cov, rfl, rfl⟩
    · exact .inr ⟨hold, List.mem_of_getElem? has, undone, rfl, cov, rfl, rfl⟩
  | _ => exact stayed mem

-- Conservation for one key: while its amounts stay representable, each counter
-- holds exactly the unfinalized reservations that captured it, and each of them
-- points at the key's state.
structure Conserved (key : String) (booked : Nat) (sys : BudgetSystem) : Prop where
  unlocked : Unlocked key booked sys
  active : booked ≤ maxMoneyMicros → ∀ id, activeIn (sys.cell key id) = sys.outstanding key id
  pointed : booked ≤ maxMoneyMicros → ∀ hold ∈ sys.reservations, hold.keyID = key → hold.finalized = false →
    ∀ id, hold.covers id = true → PointsAt sys.limiter hold

section Step

variable {key : String} {booked : Nat} {sys next : BudgetSystem} {call : Call} {rep : Reply}

variable (kept : Conserved key booked sys)
include kept

variable {i : Nat} {hold : BudgetReservation} {id : BudgetIdentity}

theorem holding_le_active (bound : booked ≤ maxMoneyMicros) (has : sys.reservations[i]? = some hold)
    (owned : hold.keyID = key) (new : hold.finalized = false) (cov : hold.covers id = true) :
    hold.amount.amount ≤ activeIn (sys.cell key id) := by
  have part := Roster.weight_le_total (holding key id) sys.reservations i hold has (fun _ _ => Nat.zero_le _)
  have whole : hold.holding key id = hold.amount.amount := by
    simp [holding, owned, new, cov]
  rw [kept.active bound id]
  rw [whole] at part
  exact part

theorem conserved_current (bound : booked ≤ maxMoneyMicros) (has : sys.reservations[i]? = some hold)
    (owned : hold.keyID = key) (new : hold.finalized = false) (cov : hold.covers id = true) :
    ∃ st, Current sys.limiter hold st := by
  obtain ⟨st, hit, address, gen⟩ :=
    kept.pointed bound hold (List.mem_of_getElem? has) owned new id cov
  exact ⟨st, hit, address, gen, unlocked_accepted kept.unlocked bound (owned ▸ hit)⟩

theorem conserved_not_refused (bound : booked ≤ maxMoneyMicros) (has : sys.reservations[i]? = some hold)
    (owned : hold.keyID = key) (new : hold.finalized = false) (cov : hold.covers id = true) {err : BudgetError}
    (refusal : Refusal sys.limiter hold err) : False := by
  have cellEq : ∀ st, Current sys.limiter hold st → ∀ alt, held (some st) alt = sys.cell key alt := by
    intro st cur alt
    rw [cell, ← owned, cur.present]
  cases refusal with
  | stale lost =>
    obtain ⟨st, cur⟩ := conserved_current kept bound has owned new cov
    exact lost st cur
  | short st cur _ otherCovered missing =>
    have enough := holding_le_active kept bound has owned new otherCovered
    rw [cellEq st cur] at missing
    omega
  | full st cur alt otherCovered overflow =>
    have enough := holding_le_active kept bound has owned new otherCovered
    have sum := within_sum (kept.unlocked.cells alt)
    rw [cellEq st cur] at overflow
    omega

omit kept

theorem conserved_active (conserved : Conserved key booked sys) (bound : booked ≤ maxMoneyMicros) (safe : lockSafe sys call = true)
    (ran : step sys call = some (next, rep)) (id : BudgetIdentity) : activeIn (next.cell key id) = next.outstanding key id := by
  have active := conserved.active bound id
  have ok := conserved.unlocked.sound
  have cellStep := step_cells ok ran key id
  generalize sys.cell key id = cell at cellStep active
  generalize next.cell key id = after at cellStep ⊢
  generalize flow rep.deltas key id = sent at cellStep
  generalize loadedSpend (loadedRows call rep) key id = credit at cellStep
  generalize next.outstanding key id = holding' at cellStep ⊢
  cases cellStep with
  | kept _ _ _ alike => rwa [alike_active alike]
  | dropped _ _ _ _ _ _ _ past =>
    rw [← active]
    cases id with
    | total => simp [dropped] at past
    | day | month =>
      simp only [dropped, Bool.and_eq_true] at past
      exact (Money.amount_of_zero past.2).symm
  | entered _ _ _ _ _ _ _ _ _ _ _ _ _ _ tally =>
    simp only [active_in_some, tally]
    omega
  | settled _ _ _ _ _ _ _ _ _ _ _ _ _ _ _ _ _ _ _ _ _ _ alike =>
    rw [alike_active alike]
    simp only [active_in_some] at active ⊢
    omega
  | abandoned _ _ hold _ has new owned cov denied =>
    have mem := ok hold (List.mem_of_getElem? has)
    obtain ⟨_, refusal⟩ := denied (mem.counted id cov)
    exact (conserved_not_refused conserved bound has owned new cov refusal).elim
  | shifted _ _ _ _ _ _ _ _ _ _ _ _ _ _ _ activeSame _ _ _ alike =>
    rw [alike_active alike]
    simpa [activeSame] using active
  | torn => exact active
  | blurred _ _ _ _ called has issued new _ cov same _ live missing =>
    subst called
    exact absurd missing (touch_not_blurred safe has issued new live same cov)
  | loaded _ _ _ _ _ _ _ _ _ _ _ _ _ _ _ _ _ _ tally => exact tally.trans active

theorem conserved_step (conserved : Conserved key booked sys) (safe : lockSafe sys call = true)
    (ran : step sys call = some (next, rep)) : Conserved key (booked + bookedBy key sys call rep) next := by
  have ok := conserved.unlocked.sound
  have active : booked + bookedBy key sys call rep ≤ maxMoneyMicros → ∀ id, activeIn (next.cell key id) = next.outstanding key id :=
    fun bound id => conserved_active conserved (by omega) safe ran id
  refine ⟨unlocked_step conserved.unlocked safe ran, active, ?_⟩
  intro bound handle mem owned undone id cov
  rcases step_handles ok ran mem undone cov with here | ⟨old, oldMember, oldFresh, sameKey, oldCovered, sameState, sameGeneration⟩
  · exact here
  obtain ⟨st, hit, address, gen⟩ :=
    conserved.pointed (by omega) old oldMember (sameKey.trans owned) oldFresh id oldCovered
  rcases step_persists ok ran old.keyID st hit with gone | ⟨kept, there, continues⟩
  · -- A deleted state leaves nothing outstanding, but the handle still is.
    have nothing := active bound id
    rw [cell, ← owned, ← sameKey, gone, held_none, active_in_none] at nothing
    have soundNext := sound_step ok ran handle mem
    have pos := Money.pos_of_nonzero soundNext.amountKnown (soundNext.counted id cov).2
    obtain ⟨i, has⟩ := List.mem_iff_getElem?.mp mem
    have part := Roster.weight_le_total (holding old.keyID id) next.reservations i handle has (fun _ _ => Nat.zero_le _)
    have whole : handle.holding old.keyID id = handle.amount.amount := by
      simp [holding, sameKey, undone, cov]
    have total : next.outstanding old.keyID id = Roster.total (holding old.keyID id) next.reservations := rfl
    omega
  · exact ⟨kept, sameKey ▸ there, by rw [continues.address, ← sameState]; exact address,
      by rw [continues.generation, ← sameGeneration]; exact gen⟩

end Step

theorem new_conserved (key : String) : Conserved key 0 newBudgetSystem := by
  refine ⟨new_unlocked key, ?_, ?_⟩
  · simp [newBudgetSystem, newBudgetLimiter, cell, outstanding, Finmap.lookup_empty]
  · intro _ reservation member
    simp [newBudgetSystem] at member

theorem conserved_run (run : execute step newBudgetSystem cs = some (final, outs))
    (hit : Along step (fun sys call => lockSafe sys call = true) newBudgetSystem cs) (key : String) :
    Conserved key (bookedAmounts cs key) final := by
  have got := run_measured (bookedBy key) (Conserved key) (fun _ _ _ _ _ => conserved_step) (new_conserved key) hit run
  rwa [Nat.zero_add] at got

def terminalError : Terminal → Option BudgetError
  | .commit actual => if actual.isKnown then none else some (.settlement .invalidActual true)
  | _ => none

theorem judged_error (hold : BudgetReservation) (term : Terminal) :
    (judgeActual (openResult hold term.kind term.actual) term.kind term.actual).error = terminalError term := by
  cases term with
  | commit actual =>
    by_cases known : actual.isKnown = true <;>
      simp [judgeActual, openResult, Terminal.kind, Terminal.actual, terminalError, validKnownMoney, known]
  | completeConservative | releaseBeforeUpstream | commitDeferred => rfl

theorem deferred_charge {hold : BudgetReservation} {term : Terminal} {st : BudgetState} {charge : Money} {err : Option BudgetError}
    (billed : Charged hold term.kind term.actual st charge err) (deferred : term.deferred = true) : charge = hold.amount := by
  cases term with
  | commitDeferred =>
    cases billed with
    | proper | fallback => rfl
  | commit | completeConservative | releaseBeforeUpstream => cases deferred

theorem charge_le_booked
    (has : sys.reservations[i]? = some hold) (owned : hold.keyID = key) :
    (chargeFor term.kind term.actual hold.amount).amount ≤ hold.amount.amount ∨
      (chargeFor term.kind term.actual hold.amount).amount ≤ bookedBy key sys (.finalize i term) rep := by
  cases term with
  | commit actual =>
    by_cases known : actual.isKnown = true
    · exact .inr (by simp [chargeFor, Terminal.kind, Terminal.actual, validKnownMoney, known, bookedBy, ownerOf, has, owned])
    · exact .inl (by simp [chargeFor, Terminal.kind, Terminal.actual, validKnownMoney, known])
  | completeConservative | commitDeferred => exact .inl (Nat.le_refl _)
  | releaseBeforeUpstream => exact .inl (Nat.zero_le _)

structure SettledInto (reservation : BudgetReservation) (charge : Nat) (system next : BudgetSystem) (deltas : List CommittedBudgetDelta) :
    Prop where
  captured : ∀ identity, reservation.covers identity = true →
    spentIn (next.cell reservation.keyID identity) = spentIn (system.cell reservation.keyID identity) + charge ∧
      activeIn (next.cell reservation.keyID identity) + reservation.amount.amount = activeIn (system.cell reservation.keyID identity) ∧
      flow deltas reservation.keyID identity = charge
  others : ∀ keyID identity, ¬ (reservation.keyID = keyID ∧ reservation.covers identity = true) →
    spentIn (next.cell keyID identity) = spentIn (system.cell keyID identity) ∧
      activeIn (next.cell keyID identity) = activeIn (system.cell keyID identity) ∧ flow deltas keyID identity = 0

theorem settled_into_idle (charge : Nat) (mem : hold.Sound)
    (inactive : hold.state = none ∨ isZeroMoney hold.amount = true)
    (same : next.limiter = sys.limiter) : SettledInto hold charge sys next [] := by
  refine ⟨?_, fun keyID id _ => by simp [cell, same]⟩
  intro id cov
  obtain ⟨live, nz⟩ := mem.counted id cov
  rcases inactive with gone | zero
  · exact absurd gone live
  · simp [zero] at nz

theorem settled_into_moved {st did : BudgetState} {charge : Money}
    (has : sys.limiter.states.lookup hold.keyID = some st) (movement : Moved hold.toBudgetCapture hold.amount charge st did)
    (stored : next.limiter = sys.limiter.storeOrDelete hold.keyID did) : SettledInto hold charge.amount sys next
      (if isZeroMoney charge then [] else captureDeltas hold.keyID hold.toBudgetCapture charge.amount) := by
  refine ⟨?_, ?_⟩
  · intro id cov
    obtain ⟨_, _, pre, after, _, _, spent, active⟩ := movement.moved id cov
    have alike := written_cell sys.limiter hold.keyID did id
    rw [after] at alike
    rw [cell, stored, cell, has, pre, alike_spent alike, alike_active alike, flow_settlement, if_pos ⟨rfl, cov⟩]
    exact ⟨spent, active, rfl⟩
  · intro key id outside
    have alike := stored_cell has (fun (owned : key = hold.keyID) => movement.kept id (by simpa [owned] using outside))
    rw [flow_settlement, if_neg outside, cell, stored, alike_spent alike, alike_active alike]
    exact ⟨rfl, rfl, rfl⟩

theorem conserved_settles {booked : Nat} (kept : Conserved key booked sys) (has : sys.reservations[i]? = some hold) (owned : hold.keyID = key)
    (new : hold.finalized = false) (ran : step sys (.finalize i term) = some (next, rep))
    (bound : booked + bookedBy key sys (.finalize i term) rep ≤ maxMoneyMicros) :
    ∃ res, rep.answer = .settled (some res) ∧ res.error = terminalError term ∧
      SettledInto hold (chargeFor term.kind term.actual hold.amount).amount sys next rep.deltas := by
  have small : booked ≤ maxMoneyMicros := by omega
  have mem := kept.unlocked.sound hold (List.mem_of_getElem? has)
  cases step_outcome kept.unlocked.sound ran with
  | finalizedAgain _ _ alt hit done =>
    obtain rfl : hold = alt := by simpa [has] using hit
    simp [new] at done
  | finalized _ _ alt hit _ _ settlement out =>
    obtain rfl : hold = alt := by simpa [has] using hit
    refine ⟨settlement.result, rfl, ?_⟩
    cases out with
    | idle inactive _ err silent =>
      rw [err, judged_error, silent]
      exact ⟨rfl, settled_into_idle _ mem inactive rfl⟩
    | refused live _ _ _ _ _ _ cause =>
      obtain ⟨_, _, cov⟩ := mem.covering live
      exact (conserved_not_refused kept small has owned new cov cause).elim
    | settled _ _ st _ cur charge did _ _ billed ds =>
      rw [ds]
      have proper : settlement.result.error = terminalError term ∧ charge = chargeFor term.kind term.actual hold.amount := by
        generalize settlement.result.error = err at billed ⊢
        cases billed with
        | proper => exact ⟨judged_error hold term, rfl⟩
        | fallback id cov overflow =>
          -- The counter holds at most what was booked, and the charge is booked too.
          have enough := holding_le_active kept small has owned new cov
          have sum := within_sum (kept.unlocked.cells id)
          have cellEq : held (some st) id = sys.cell key id := by
            rw [cell, ← owned, cur.present]
          rw [cellEq] at overflow
          rcases @charge_le_booked key sys ⟨.settled (some settlement.result), settlement.deltas⟩ i term hold has owned with atMost | counted
          · omega
          · omega
      exact ⟨proper.1, proper.2 ▸ settled_into_moved cur.present did rfl⟩

theorem settled_stays (ok : sys.Sound)
    (ran : step sys call = some (next, rep)) (has : sys.reservations[i]? = some hold) (fin : hold.finalized = true) :
    ∃ kept, next.reservations[i]? = some kept ∧ kept.finalized = true ∧ kept.result = hold.result := by
  have overwritten : ∀ (alt : Nat) (old new : BudgetReservation), sys.reservations[alt]? = some old →
      (old.finalized = true → new.finalized = true ∧ new.result = old.result) →
      ∃ kept, (sys.reservations.set alt new)[i]? = some kept ∧ kept.finalized = true ∧ kept.result = hold.result := by
    intro alt old new hit inherits
    obtain ⟨kept, there, done⟩ := Roster.entry_set (fun old new => old.finalized = true → new.finalized = true ∧ new.result = old.result)
      has hit new (fun done => ⟨done, rfl⟩) inherits
    exact ⟨kept, there, done fin⟩
  cases step_outcome ok ran with
  | reserved _ _ _ _ _ _ new => exact ⟨hold, Roster.entry_kept has new, fin, rfl⟩
  | finalized alt _ old hit undone =>
    exact overwritten alt old _ hit (fun done => by simp [undone] at done)
  | adjusted alt _ old _ hit | invalidated alt old _ hit => exact overwritten alt old _ hit (fun done => ⟨done, rfl⟩)
  | _ => exact ⟨hold, has, fin, rfl⟩

theorem repeated_finalization {more : List Call}
    (ok : sys.Sound) (ran : step sys (.finalize i term) = some (middle, rep)) (run : execute step middle more = some (final, outs))
    (again : Terminal) : step final (.finalize i again) = some (final, ⟨rep.answer, []⟩) := by
  have first : ∃ kept, middle.reservations[i]? = some kept ∧ kept.finalized = true ∧ rep.answer = .settled kept.result := by
    cases step_outcome ok ran with
    | finalizedAgain _ _ hold has done => exact ⟨hold, has, done, rfl⟩
    | finalized _ _ hold has _ _ settlement =>
      obtain ⟨bound, _⟩ := List.getElem?_eq_some_iff.mp has
      exact ⟨hold.close settlement, by simp [bound], rfl, rfl⟩
  obtain ⟨kept, has, done, ans⟩ := first
  have later : final.Sound ∧ ∃ last, final.reservations[i]? = some last ∧ last.finalized = true ∧ last.result = kept.result := by
    refine run_invariant (fun sys => sys.Sound ∧ ∃ last, sys.reservations[i]? = some last ∧ last.finalized = true ∧ last.result = kept.result)
      ?_ ⟨sound_step ok ran, kept, has, done, rfl⟩ along_always run
    rintro st call next ans ⟨soundHere, last, there, lastDone, same⟩ _ onward
    obtain ⟨new, hit, freshDone, freshSame⟩ := settled_stays soundHere onward there lastDone
    exact ⟨sound_step soundHere onward, new, hit, freshDone, freshSame.trans same⟩
  obtain ⟨_, _, there, lastDone, same⟩ := later
  simp [step, there, finalizeInternal, lastDone, Roster.set_same _ _ _ there, same, ans]

def unadjusted : Call → Bool
  | .adjust _ _ => false
  | _ => true

-- Conservation of reservations over every run of allowed calls. A repeated or a
-- concurrent finalization is one that comes any number of calls after the first.
structure ReservationsConserved (allowed : Call → Bool) : Prop where
  active : ∀ (calls : List Call) (final : BudgetSystem) (replies : List Reply) (keyID : String),
    Transition.execute step newBudgetSystem calls = some (final, replies) → calls.all allowed = true →
    bookedAmounts calls keyID ≤ maxMoneyMicros → ∀ identity, activeIn (final.cell keyID identity) = final.outstanding keyID identity
  unpruned : ∀ (calls : List Call) (final : BudgetSystem) (replies : List Reply) (keyID : String),
    Transition.execute step newBudgetSystem calls = some (final, replies) → calls.all allowed = true →
    bookedAmounts calls keyID ≤ maxMoneyMicros → ∀ reservation ∈ final.reservations, reservation.keyID = keyID →
    reservation.finalized = false → ∀ identity, reservation.covers identity = true → final.cell keyID identity ≠ none
  settles : ∀ (calls : List Call) (index : Nat) (terminal : Terminal) (middle next : BudgetSystem) (replies : List Reply) (reply : Reply)
    (reservation : BudgetReservation), Transition.execute step newBudgetSystem calls = some (middle, replies) →
    List.all (calls ++ [.finalize index terminal]) allowed = true → middle.reservations[index]? = some reservation →
    reservation.finalized = false → bookedAmounts (calls ++ [.finalize index terminal]) reservation.keyID ≤ maxMoneyMicros →
    step middle (.finalize index terminal) = some (next, reply) →
    ∃ result, reply.answer = .settled (some result) ∧ result.error = terminalError terminal
  repeats : ∀ (calls more : List Call) (index : Nat) (terminal again : Terminal) (middle next final : BudgetSystem)
    (replies later : List Reply) (reply : Reply), Transition.execute step newBudgetSystem calls = some (middle, replies) →
    step middle (.finalize index terminal) = some (next, reply) → Transition.execute step next more = some (final, later) →
    step final (.finalize index again) = some (final, ⟨reply.answer, []⟩)

theorem along_lock_safe (allowed : cs.all (fun call => unadjusted call && readable call) = true) :
    Along step (fun sys call => lockSafe sys call = true) newBudgetSystem cs := by
  refine along_of_forall (fun sys call mem => ?_) newBudgetSystem
  have both := List.all_eq_true.mp allowed call mem
  simp only [Bool.and_eq_true] at both
  cases call with
  | adjust => simp [unadjusted] at both
  | _ => exact both.2

theorem booked_amounts_snoc
    (run : Transition.execute step newBudgetSystem cs = some (middle, outs)) (ran : step middle call = some (next, rep))
    (key : String) : bookedAmounts (cs ++ [call]) key = bookedAmounts cs key + bookedBy key middle call rep := by
  simp [bookedAmounts, Transition.measure_append run, Transition.measure, ran]

theorem reservations_conserved : ReservationsConserved (fun call => unadjusted call && readable call) where
  active calls final replies keyID run allowed bounded identity :=
    (conserved_run run (along_lock_safe allowed) keyID).active bounded identity
  unpruned calls final replies keyID run allowed bounded reservation member owned fresh identity covered := by
    have kept := conserved_run run (along_lock_safe allowed) keyID
    obtain ⟨i, has⟩ := List.mem_iff_getElem?.mp member
    have ok := kept.unlocked.sound reservation member
    have pos := Money.pos_of_nonzero ok.amountKnown (ok.counted identity covered).2
    have enough := holding_le_active kept bounded has owned fresh covered
    intro gone
    rw [gone, active_in_none] at enough
    omega
  settles calls i terminal middle next replies reply reservation run allowed has fresh bounded transition := by
    have pre : calls.all (fun call => unadjusted call && readable call) = true := by
      rw [List.all_append, Bool.and_eq_true] at allowed
      exact allowed.1
    have kept := conserved_run run (along_lock_safe pre) reservation.keyID
    rw [booked_amounts_snoc run transition] at bounded
    obtain ⟨res, ans, err, _⟩ := conserved_settles kept has rfl fresh transition bounded
    exact ⟨res, ans, err⟩
  repeats calls more i terminal again middle next final replies later reply run transition rest :=
    repeated_finalization (sound_run new_system_sound run) transition rest again

def openRun : List Call :=
  [.reserve 0 "key" (totalAndDailyBudgetPolicy (.known 100) (.known 50)) (.known 10),
    .reserve dayNanos "key" (totalAndDailyBudgetPolicy (.known 100) (.known 50)) (.known 5),
    .reserve dayNanos "key" (totalAndDailyBudgetPolicy (.known 100) (.known 50)) (.known 7), .finalize 1 (.commit (.known 3))]

theorem reservations_conserved_open_run : ∃ final replies, Transition.execute step newBudgetSystem openRun = some (final, replies) ∧
    final.outstanding "key" .total = 17 ∧ activeIn (final.cell "key" .total) = final.outstanding "key" .total ∧
    activeIn (final.cell "key" (.day 0)) = final.outstanding "key" (.day 0) :=
  ⟨_, _, Transition.execute_get (by decide), by decide,
    reservations_conserved.active openRun _ _ "key" (Transition.execute_get (by decide)) (by decide) (by decide) .total,
    reservations_conserved.active openRun _ _ "key" (Transition.execute_get (by decide)) (by decide) (by decide) (.day 0)⟩

-- A clock that reads the zero time opens a day bucket that no validation
-- accepts, so the reservation in it cannot be settled.
theorem reservation_stranded_at_zero_time : ¬ ReservationsConserved unadjusted := by
  intro kept
  obtain ⟨res, ans, err⟩ := kept.settles [.reserve zeroTime "key" (dailyBudgetPolicy (.known 50)) (.known 10)] 0
    (.commit (.known 4)) _ _ _ _ _ (execute_get (by decide)) (by decide) (Option.some_get (by decide)).symm (by decide) (by decide)
    (outcome_get (by decide))
  have stranded : res.error = some .state := by
    have paid := congrArg (fun ans => ans.error) ans
    exact (paid.symm.trans (by decide))
  rw [stranded] at err
  exact absurd err (by decide)

end NineGateway.Budget
