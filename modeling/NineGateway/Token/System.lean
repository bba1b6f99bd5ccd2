import NineGateway.Token.Settlement
import NineGateway.Library.Transition
import NineGateway.Library.Roster

set_option autoImplicit false

namespace NineGateway.Token

inductive Terminal where
  | commit (actual : Int)
  | abortConservative
  | releaseBeforeUpstream
  | commitDeferred
deriving DecidableEq, Repr

def Terminal.usage (terminal : Terminal) (amount : Int) : Int :=
  match terminal with
  | commit actual => actual
  | releaseBeforeUpstream => 0
  | _ => amount

def Terminal.actual : Terminal → Bool
  | commit _ => true
  | _ => false

def newTicket (reservation : TokenReservation) : TokenAdjustmentTicket :=
  { bound := reservation.bound, buckets := reservation.buckets, reserved := reservation.amount
    consumed := false, notified := false, finalErr := none, deltas := [], sink := false }

def Terminal.ticket (terminal : Terminal) (reservation : TokenReservation) : Option TokenAdjustmentTicket :=
  match terminal with
  | commitDeferred => some (newTicket reservation)
  | _ => none

def TokenReservation.close (reservation : TokenReservation) (terminal : Terminal) (failure : Option TokenError) : TokenReservation :=
  { reservation with finalized := true, finalErr := failure, ticket := terminal.ticket reservation }

def TokenReservation.withTicket (reservation : TokenReservation) (ticket : TokenAdjustmentTicket) : TokenReservation :=
  { reservation with ticket := some ticket }

def finalizeOnce (limiter : TokenLimiter) (reading : Int) (reservation : TokenReservation) (terminal : Terminal) :
    TokenLimiter × TokenReservation × List CommittedTokenDelta :=
  if reservation.finalized then (limiter, reservation, [])
  else
    let settled := finalize limiter reading reservation (terminal.usage reservation.amount) terminal.actual
    (settled.1, reservation.close terminal settled.2.1, settled.2.2)

-- What Adjust does inside its notify guard, once the once guard has been passed.
def deliver (ticket : TokenAdjustmentTicket) : TokenAdjustmentTicket × List CommittedTokenDelta :=
  if ticket.notified || !ticket.sink then ({ ticket with notified := true }, []) else ({ ticket with notified := true }, ticket.deltas)

-- The critical sections of the limiter's methods. ReplacePolicy is two, with
-- only the policy lock held in between, and Adjust is two, since its
-- notifications go out after the limiter is unlocked. A ticket is named by the
-- reservation that issued it.
inductive Call where
  | loadCommitted (now : Int) (rows : List CommittedTokenBucket)
  | registerPolicy (keyID : String) (windows : List TokenWindow)
  | allowsPolicyReplacement (reading : Int) (keyID : String) (oldWindows newWindows : List TokenWindow)
  | replaceBegin (reading : Int) (keyID : String) (oldWindows newWindows : List TokenWindow) (callback : Bool)
  | replaceEnd (committed : Bool)
  | reserve (reading : Int) (keyID : String) (windows : List TokenWindow) (amount : Int)
  | finalize (index : Nat) (reading : Int) (terminal : Terminal)
  | adjust (index : Nat) (reading : Int) (actual : Int)
  | notify (index : Nat)
  | invalidate (index : Nat)
  | retryAfter (reading : Int) (resetAt : Int)
  | len (reading : Int)
deriving DecidableEq, Repr

structure PendingReplacement where
  keyID : String
  newWindows : List TokenWindow
deriving DecidableEq, Repr

structure TokenSystem where
  limiter : TokenLimiter
  reservations : List TokenReservation
  replacing : Option PendingReplacement

def newTokenSystem : TokenSystem := { limiter := newTokenLimiter, reservations := [], replacing := none }

inductive Answer where
  | done
  | reserved (index : Nat)
  | rejected (resetAt : Int)
  | settled (failure : Option TokenError)
  | failed (failure : TokenError)
  | callbackFailed
  | allowed (answer : Bool)
  | seconds (delay : Int)
  | counted (buckets : Nat)
deriving DecidableEq, Repr

def answerFor : Option TokenError → Answer
  | none => .done
  | some failure => .failed failure

structure Reply where
  answer : Answer
  deltas : List CommittedTokenDelta
deriving DecidableEq, Repr

def quietly (answer : Answer) : Reply := ⟨answer, []⟩

def TokenSystem.clean (system : TokenSystem) (reading : Int) : TokenSystem := { system with limiter := system.limiter.cleaned reading }

def reserveStep (system : TokenSystem) : TokenLimiter × Except Int TokenReservation → TokenSystem × Reply
  | (limiter, .ok reservation) =>
    ({ system with limiter := limiter, reservations := system.reservations ++ [reservation] },
      quietly (.reserved system.reservations.length))
  | (limiter, .error resetAt) => ({ system with limiter := limiter }, quietly (.rejected resetAt))

def replaceStep (system : TokenSystem) (keyID : String) (oldWindows newWindows : List TokenWindow) (callback : Bool) : TokenSystem × Reply :=
  if !allowsPolicyReplacement system.limiter keyID oldWindows newWindows then (system, quietly (.failed .policyReplacementConflict))
  else if !callback then (system, quietly .done)
  else ({ system with replacing := some ⟨keyID, newWindows⟩ }, quietly .done)

-- A call that waits for the policy lock, or names a reservation that does not
-- exist, cannot proceed.
def step (system : TokenSystem) : Call → Option (TokenSystem × Reply)
  | .loadCommitted now rows =>
    let loaded := loadCommitted system.limiter now rows
    some ({ system with limiter := loaded.1 }, quietly (answerFor loaded.2))
  | .registerPolicy keyID windows =>
    if system.replacing.isSome then none
    else some ({ system with limiter := registerPolicy system.limiter keyID windows }, quietly .done)
  | .allowsPolicyReplacement reading keyID oldWindows newWindows =>
    if system.replacing.isSome then none
    else some (system.clean reading, quietly (.allowed (allowsPolicyReplacement (system.limiter.cleaned reading) keyID oldWindows newWindows)))
  | .replaceBegin reading keyID oldWindows newWindows callback =>
    if system.replacing.isSome then none
    else some (replaceStep (system.clean reading) keyID oldWindows newWindows callback)
  | .replaceEnd committed =>
    match system.replacing with
    | none => none
    | some pending =>
      if committed then
        some ({ system with limiter := registerPolicy system.limiter pending.keyID pending.newWindows, replacing := none }, quietly .done)
      else some ({ system with replacing := none }, quietly .callbackFailed)
  | .reserve reading keyID windows amount =>
    if system.replacing.isSome && waitsForPolicy windows amount then none
    else some (reserveStep system (reserve system.limiter reading keyID windows amount))
  | .finalize index reading terminal =>
    match system.reservations[index]? with
    | none => none
    | some reservation =>
      let closed := finalizeOnce system.limiter reading reservation terminal
      some ({ system with limiter := closed.1, reservations := system.reservations.set index closed.2.1 },
        ⟨.settled closed.2.1.finalErr, closed.2.2⟩)
  | .adjust index reading actual =>
    match system.reservations[index]? with
    | none => none
    | some reservation =>
      match reservation.ticket with
      | none => some (system, quietly .done)
      | some ticket =>
        let adjusted := adjust system.limiter reading ticket actual
        some ({ system with
            limiter := adjusted.1
            reservations := system.reservations.set index (reservation.withTicket adjusted.2) },
          quietly .done)
  | .notify index =>
    match system.reservations[index]? with
    | none => none
    | some reservation =>
      match reservation.ticket with
      | none => some (system, quietly .done)
      | some ticket =>
        if ticket.consumed then
          some ({ system with reservations := system.reservations.set index (reservation.withTicket (deliver ticket).1) },
            ⟨.settled ticket.finalErr, (deliver ticket).2⟩)
        else none
  | .invalidate index =>
    match system.reservations[index]? with
    | none => none
    | some reservation =>
      match reservation.ticket with
      | none => some (system, quietly .done)
      | some ticket =>
        some ({ system with reservations := system.reservations.set index (reservation.withTicket (invalidate ticket)) },
          quietly .done)
  | .retryAfter reading resetAt =>
    if resetAt = zeroTime then some (system, quietly (.seconds 0))
    else
      some ({ system with limiter := { system.limiter with lastNow := clampTime system.limiter.lastNow reading } },
        quietly (.seconds (retryAfterSecondsAt (clampTime system.limiter.lastNow reading) resetAt)))
  | .len reading => some (system.clean reading, quietly (.counted (Multiset.card (system.limiter.cleaned reading).buckets.entries)))

structure TokenReservation.Sound (hold : TokenReservation) : Prop where
  distinct : hold.buckets.Nodup
  positive : 0 < hold.amount
  bound : hold.buckets ≠ [] → hold.bound = true
  untouched : hold.finalized = false → hold.ticket = none
  ticketDistinct : ∀ ticket, hold.ticket = some ticket → ticket.buckets.Nodup
  ticketIssued : ∀ ticket, hold.ticket = some ticket → ticket.consumed = false →
    ticket.buckets = hold.buckets ∧ ticket.reserved = hold.amount

def TokenSystem.Sound (sys : TokenSystem) : Prop := ∀ hold ∈ sys.reservations, hold.Sound

inductive QuietStep (sys : TokenSystem) : TokenSystem → Prop where
  | still (lim replacing) (same : lim.buckets = sys.limiter.buckets) : QuietStep sys { sys with limiter := lim, replacing := replacing }
  | swept (read replacing) : QuietStep sys { sys with limiter := sys.limiter.cleaned read, replacing := replacing }

-- The three calls that use up a ticket, or find it used up.
inductive TicketUse (lim : TokenLimiter) (i : Nat) (ticket : TokenAdjustmentTicket) : Call → TokenLimiter → TokenAdjustmentTicket → Reply → Prop where
  | adjusted (read actual next used) (out : Reconciled lim read ticket actual next used) :
      TicketUse lim i ticket (.adjust i read actual) next used (quietly .done)
  | notified (consumed : ticket.consumed = true) :
      TicketUse lim i ticket (.notify i) lim (deliver ticket).1 ⟨.settled ticket.finalErr, (deliver ticket).2⟩
  | invalidated : TicketUse lim i ticket (.invalidate i) lim (invalidate ticket) (quietly .done)

inductive StepOutcome (sys : TokenSystem) : Call → TokenSystem → Reply → Prop where
  | quiet (call next ans) (out : QuietStep sys next) (adm : ∀ i, ans ≠ .reserved i) : StepOutcome sys call next (quietly ans)
  | loaded (now rows lim err) (stored : lim.buckets = (loadRows now rows sys.limiter.buckets).1) :
      StepOutcome sys (.loadCommitted now rows) { sys with limiter := lim } (quietly (answerFor err))
  | reserved (read key wins amt lim hold) (out : ReserveOutcome sys.limiter read key wins amt lim (.ok hold))
      (free : (sys.replacing.isSome && waitsForPolicy wins amt) = false) :
      StepOutcome sys (.reserve read key wins amt) { sys with limiter := lim, reservations := sys.reservations ++ [hold] }
        (quietly (.reserved sys.reservations.length))
  | finalized (i read term hold) (has : sys.reservations[i]? = some hold) (new : hold.finalized = false) (lim err ds)
      (out : FinalizeOutcome sys.limiter read hold (term.usage hold.amount) term.actual lim err ds) : StepOutcome sys (.finalize i read term)
        { sys with limiter := lim, reservations := sys.reservations.set i (hold.close term err) } ⟨.settled err, ds⟩
  | finalizedAgain (i read term hold) (has : sys.reservations[i]? = some hold) (fin : hold.finalized = true) :
      StepOutcome sys (.finalize i read term) sys (quietly (.settled hold.finalErr))
  | ticketed (call i hold ticket lim used rep) (has : sys.reservations[i]? = some hold) (issued : hold.ticket = some ticket)
      (use : TicketUse sys.limiter i ticket call lim used rep) :
      StepOutcome sys call { sys with limiter := lim, reservations := sys.reservations.set i (hold.withTicket used) } rep

section Inversion

variable {sys next : TokenSystem} {rep : Reply}

theorem quiet_same (sys : TokenSystem) : QuietStep sys sys := .still sys.limiter sys.replacing rfl

variable {read : Int}

theorem replace_step_outcome {key : String} {oldWindows newWindows : List TokenWindow} {callback : Bool}
    (ran : replaceStep (sys.clean read) key oldWindows newWindows callback = (next, rep)) :
    ∃ ans, rep = quietly ans ∧ QuietStep sys next ∧ ∀ i, ans ≠ .reserved i := by
  unfold replaceStep at ran
  split at ran
  · cases ran
    exact ⟨_, rfl, .swept read sys.replacing, by simp⟩
  split at ran
  · cases ran
    exact ⟨_, rfl, .swept read sys.replacing, by simp⟩
  · cases ran
    exact ⟨_, rfl, .swept read _, by simp⟩

theorem load_committed_outcome (lim : TokenLimiter) (now : Int) (rows : List CommittedTokenBucket) :
    (loadCommitted lim now rows).1.buckets = lim.buckets ∨
      (loadCommitted lim now rows).1.buckets = (loadRows now rows lim.buckets).1 := by
  unfold loadCommitted
  split
  · exact .inl rfl
  · rcases loaded : loadRows now rows lim.buckets with ⟨bins, complete⟩
    cases complete <;> exact .inr rfl

theorem finalize_step_outcome {i : Nat} {term : Terminal} {hold : TokenReservation} (ok : sys.Sound)
    (has : sys.reservations[i]? = some hold) :
    StepOutcome sys (.finalize i read term)
      { sys with
        limiter := (finalizeOnce sys.limiter read hold term).1
        reservations := sys.reservations.set i (finalizeOnce sys.limiter read hold term).2.1 }
      ⟨.settled (finalizeOnce sys.limiter read hold term).2.1.finalErr,
        (finalizeOnce sys.limiter read hold term).2.2⟩ := by
  cases done : hold.finalized with
  | true =>
    simp only [finalizeOnce, done, if_true, Roster.set_same _ _ _ has]
    exact .finalizedAgain i read term hold has done
  | false =>
    simp only [finalizeOnce, done, Bool.false_eq_true, if_false]
    exact .finalized i read term hold has done _ _ _
      (finalize_outcome _ _ _ _ (ok hold (List.mem_of_getElem? has)).distinct)

theorem ticket_cases {i : Nat} {act : TokenReservation → TokenAdjustmentTicket → Option (TokenSystem × Reply)}
    (ran : (match sys.reservations[i]? with
      | none => none
      | some hold =>
        match hold.ticket with
        | none => some (sys, quietly .done)
        | some ticket => act hold ticket) = some (next, rep)) :
    next = sys ∧ rep = quietly .done ∨
      ∃ hold ticket, sys.reservations[i]? = some hold ∧ hold.ticket = some ticket ∧ act hold ticket = some (next, rep) := by
  split at ran
  · cases ran
  · rename_i hold has
    split at ran
    · cases ran
      exact .inl ⟨rfl, rfl⟩
    · rename_i ticket issued
      exact .inr ⟨hold, ticket, has, issued, ran⟩

theorem step_outcome {call : Call} (sound : sys.Sound) (ran : step sys call = some (next, rep)) :
    StepOutcome sys call next rep := by
  cases call with
  | loadCommitted now rows =>
    cases ran
    rcases load_committed_outcome sys.limiter now rows with same | stored
    · refine .quiet _ _ _ (.still _ sys.replacing same) ?_
      cases (loadCommitted sys.limiter now rows).2 <;> simp [answerFor]
    · exact .loaded now rows _ _ stored
  | registerPolicy =>
    simp only [step] at ran
    split at ran
    · simp at ran
    · cases ran
      exact .quiet _ _ _ (.still _ sys.replacing rfl) (by simp)
  | allowsPolicyReplacement read =>
    simp only [step] at ran
    split at ran
    · simp at ran
    · cases ran
      exact .quiet _ _ _ (.swept read sys.replacing) (by simp)
  | replaceBegin =>
    simp only [step] at ran
    split at ran
    · simp at ran
    · obtain ⟨_, rfl, out, alt⟩ := replace_step_outcome (Option.some.inj ran)
      exact .quiet _ _ _ out alt
  | replaceEnd =>
    simp only [step] at ran
    cases begun : sys.replacing with
    | none => simp [begun] at ran
    | some =>
      simp only [begun] at ran
      split at ran
      · cases ran
        exact .quiet _ _ _ (.still _ _ rfl) (by simp)
      · cases ran
        exact .quiet _ _ _ (.still _ _ rfl) (by simp)
  | reserve read key wins amt =>
    simp only [step] at ran
    split at ran
    · simp at ran
    rename_i free
    have out := reserve_outcome sys.limiter read key wins amt
    generalize reserve sys.limiter read key wins amt = result at ran out
    obtain ⟨lim, ans⟩ := result
    cases ans with
    | ok hold =>
      cases ran
      exact .reserved read key wins amt lim hold out (Bool.not_eq_true _ ▸ free)
    | error =>
      cases ran
      refine .quiet _ _ _ ?_ (by simp)
      cases out with
      | refused => exact quiet_same sys
      | rejected => exact .swept read sys.replacing
  | finalize i =>
    simp only [step] at ran
    cases has : sys.reservations[i]? with
    | none => simp [has] at ran
    | some =>
      simp only [has] at ran
      cases ran
      exact finalize_step_outcome sound has
  | adjust i read actual =>
    rcases ticket_cases ran with ⟨rfl, rfl⟩ | ⟨hold, ticket, has, issued, did⟩
    · exact .quiet _ _ _ (quiet_same _) (by simp)
    · cases did
      exact .ticketed _ i hold ticket _ _ _ has issued
        (.adjusted read actual _ _ (adjust_reconciled _ _ _ ((sound hold (List.mem_of_getElem? has)).ticketDistinct ticket issued)))
  | notify i =>
    rcases ticket_cases ran with ⟨rfl, rfl⟩ | ⟨hold, ticket, has, issued, did⟩
    · exact .quiet _ _ _ (quiet_same _) (by simp)
    · obtain ⟨used, did⟩ := Option.ite_none_right_eq_some.mp did
      cases did
      exact .ticketed _ i hold ticket _ _ _ has issued (.notified used)
  | invalidate i =>
    rcases ticket_cases ran with ⟨rfl, rfl⟩ | ⟨hold, ticket, has, issued, did⟩
    · exact .quiet _ _ _ (quiet_same _) (by simp)
    · cases did
      exact .ticketed _ i hold ticket _ _ _ has issued .invalidated
  | retryAfter =>
    simp only [step] at ran
    split at ran
    · cases ran
      exact .quiet _ _ _ (quiet_same sys) (by simp)
    · cases ran
      exact .quiet _ _ _ (.still _ sys.replacing rfl) (by simp)
  | len read =>
    cases ran
    exact .quiet _ _ _ (.swept read sys.replacing) (by simp)

end Inversion

section Soundness

variable {hold : TokenReservation} {lim next : TokenLimiter} {amt : Int}

theorem new_reservation_sound {bound : Bool} {keys : List TokenBucketKey} (diff : keys.Nodup) (pos : 0 < amt)
    (attached : keys ≠ [] → bound = true) : (newTokenReservation bound keys amt).Sound := by
  refine ⟨diff, pos, attached, fun _ => rfl, ?_, ?_⟩
  · nofun
  · nofun

theorem reserve_sound {read : Int} {key : String} {wins : List TokenWindow} (out : ReserveOutcome lim read key wins amt next (.ok hold)) :
    hold.Sound := by
  cases out with
  | unlimited pos => exact new_reservation_sound List.nodup_nil pos (fun busy => absurd rfl busy)
  | admitted pos _ _ _ diff => exact new_reservation_sound diff pos (fun _ => rfl)

theorem close_sound (ok : hold.Sound) (term : Terminal) (err : Option TokenError) :
    (hold.close term err).Sound := by
  have issues : ∀ ticket, term.ticket hold = some ticket → ticket = newTicket hold := by
    intro ticket issued
    cases term with
    | commitDeferred => exact (Option.some.inj issued).symm
    | commit | abortConservative | releaseBeforeUpstream => cases issued
  refine ⟨ok.distinct, ok.positive, ok.bound, ?_, ?_, ?_⟩
  · nofun
  · intro ticket issued
    rw [issues ticket issued]
    exact ok.distinct
  · intro ticket issued _
    rw [issues ticket issued]
    exact ⟨rfl, rfl⟩

theorem with_ticket_sound {ticket new : TokenAdjustmentTicket} (ok : hold.Sound)
    (issued : hold.ticket = some ticket) (diff : new.buckets.Nodup) (used : new.consumed = true) :
    (hold.withTicket new).Sound := by
  refine ⟨ok.distinct, ok.positive, ok.bound, ?_, ?_, ?_⟩
  · intro undone
    have none := ok.untouched undone
    rw [issued] at none
    cases none
  · rintro alt ⟨⟩
    exact diff
  · rintro alt ⟨⟩ unused
    rw [used] at unused
    cases unused

theorem adjust_consumes {read actual : Int} {ticket used : TokenAdjustmentTicket}
    (out : Reconciled lim read ticket actual next used) : used.consumed = true ∧ used.buckets = ticket.buckets := by
  cases out with
  | again consumed => exact ⟨consumed, rfl⟩
  | _ => exact ⟨rfl, rfl⟩

variable (ticket : TokenAdjustmentTicket)

theorem deliver_keeps :
    (deliver ticket).1.consumed = ticket.consumed ∧ (deliver ticket).1.buckets = ticket.buckets := by
  unfold deliver
  split <;> exact ⟨rfl, rfl⟩

theorem invalidate_consumes (diff : ticket.buckets.Nodup) :
    (invalidate ticket).consumed = true ∧ (invalidate ticket).buckets.Nodup := by
  unfold invalidate
  split
  · rename_i used
    exact ⟨used, diff⟩
  · exact ⟨rfl, List.nodup_nil⟩

theorem use_consumes {i : Nat} {call : Call} {used : TokenAdjustmentTicket} {rep : Reply} {ticket : TokenAdjustmentTicket}
    (use : TicketUse lim i ticket call next used rep) (diff : ticket.buckets.Nodup) : used.consumed = true ∧ used.buckets.Nodup := by
  cases use with
  | adjusted _ _ _ _ out =>
    obtain ⟨spent, same⟩ := adjust_consumes out
    exact ⟨spent, same ▸ diff⟩
  | notified consumed =>
    obtain ⟨kept, same⟩ := deliver_keeps ticket
    exact ⟨kept.trans consumed, same ▸ diff⟩
  | invalidated => exact invalidate_consumes ticket diff

theorem step_sound {sys next : TokenSystem} {call : Call} {rep : Reply} (ok : sys.Sound)
    (ran : step sys call = some (next, rep)) : next.Sound := by
  cases step_outcome ok ran with
  | quiet _ _ _ out => cases out <;> exact ok
  | loaded | finalizedAgain => exact ok
  | reserved _ _ _ _ _ _ out => exact Roster.forall_append _ _ ok (reserve_sound out)
  | finalized _ _ term _ has _ _ err =>
    exact Roster.forall_set _ _ _ ok (close_sound (ok _ (List.mem_of_getElem? has)) term err)
  | ticketed _ _ _ ticket _ _ _ has issued use =>
    have mem := ok _ (List.mem_of_getElem? has)
    obtain ⟨used, diff⟩ := use_consumes use (mem.ticketDistinct ticket issued)
    exact Roster.forall_set _ _ _ ok (with_ticket_sound mem issued diff used)

theorem new_token_system_sound : newTokenSystem.Sound := by
  rintro hold ⟨⟩

end Soundness

end NineGateway.Token
