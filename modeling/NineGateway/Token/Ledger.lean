import NineGateway.Token.Fence

set_option autoImplicit false

namespace NineGateway.Token

open Transition

-- Loads and registrations happen before serving.
def Call.opens : Call → Bool
  | .loadCommitted _ _ => true
  | .registerPolicy _ _ => true
  | _ => false

def overflowed (reply : Reply) : Bool := decide (reply.answer = .settled (some .accountingOverflow))

def TokenAdjustmentTicket.Blank (ticket : TokenAdjustmentTicket) : Prop :=
  ticket.consumed = false → ticket.sink = false ∧ ticket.notified = false ∧ ticket.deltas = []

def TokenSystem.Blank (sys : TokenSystem) : Prop :=
  ∀ hold ∈ sys.reservations, ∀ ticket, hold.ticket = some ticket → ticket.Blank

def TokenAdjustmentTicket.undelivered (ticket : TokenAdjustmentTicket) (key : TokenBucketKey) : Int :=
  if ticket.sink && !ticket.notified then flow ticket.deltas key else 0

def TokenReservation.undelivered (hold : TokenReservation) (key : TokenBucketKey) : Int :=
  match hold.ticket with
  | none => 0
  | some ticket => ticket.undelivered key

def TokenSystem.undelivered (sys : TokenSystem) (key : TokenBucketKey) : Int :=
  Roster.total (fun hold => hold.undelivered key) sys.reservations

def delivered (replies : List Reply) (key : TokenBucketKey) : Int := flow (replies.flatMap Reply.deltas) key

inductive ServeOutcome (sys : TokenSystem) : Call → TokenSystem → Reply → Prop where
  | quiet (call next ans) (out : QuietStep sys next) : ServeOutcome sys call next (quietly ans)
  | reserved (read keyID wins amt lim hold) (out : ReserveOutcome sys.limiter read keyID wins amt lim (.ok hold)) :
      ServeOutcome sys (.reserve read keyID wins amt)
        { sys with limiter := lim, reservations := sys.reservations ++ [hold] } (quietly (.reserved sys.reservations.length))
  | charged (i read term hold) (has : sys.reservations[i]? = some hold) (new : hold.finalized = false) (lim ds)
      (out : ChargeOutcome sys.limiter read hold (chargeFor hold.amount (term.usage hold.amount)) lim ds) :
      ServeOutcome sys (.finalize i read term) { sys with
          limiter := lim
          reservations := sys.reservations.set i (hold.close term (verdictOn (term.usage hold.amount))) }
        ⟨.settled (verdictOn (term.usage hold.amount)), ds⟩
  | ticketed (call i hold ticket lim used rep) (has : sys.reservations[i]? = some hold) (issued : hold.ticket = some ticket)
      (use : TicketUse sys.limiter i ticket call lim used rep) :
      ServeOutcome sys call { sys with limiter := lim, reservations := sys.reservations.set i (hold.withTicket used) } rep

section Serving

variable {sys next : TokenSystem} {call : Call} {rep : Reply}

theorem charged_step (even : Balanced sys) {i : Nat} {read : Int} {term : Terminal} {hold : TokenReservation}
    (has : sys.reservations[i]? = some hold) (new : hold.finalized = false) (fits : overflowed rep = false)
    (ran : step sys (.finalize i read term) = some (next, rep)) :
    ∃ lim ds,
      ChargeOutcome sys.limiter read hold (chargeFor hold.amount (term.usage hold.amount)) lim ds ∧
        next = { sys with
          limiter := lim
          reservations := sys.reservations.set i (hold.close term (verdictOn (term.usage hold.amount))) } ∧
        rep = ⟨.settled (verdictOn (term.usage hold.amount)), ds⟩ := by
  have mem := List.mem_of_getElem? has
  have ok := even.sound hold mem
  simp only [step, has, finalizeOnce, new, Bool.false_eq_true, if_false] at ran
  cases ran
  have clear : (finalize sys.limiter read hold (term.usage hold.amount) term.actual).2.1 ≠ some .accountingOverflow := by
    intro spoiled
    simp [overflowed, TokenReservation.close, spoiled] at fits
  obtain ⟨out, verdict⟩ := finalize_charges ok (fun key cov => held_bucket_present even mem new cov) (finalize_outcome _ _ _ _ ok.distinct) clear
  refine ⟨_, _, out, ?_, ?_⟩
  · rw [verdict]
  · rw [verdict]
    rfl

theorem serve_outcome (even : Balanced sys) (serving : call.loads = false) (fits : overflowed rep = false)
    (ran : step sys call = some (next, rep)) : ServeOutcome sys call next rep := by
  cases step_outcome even.sound ran with
  | quiet _ _ ans out => exact .quiet _ _ ans out
  | loaded => cases serving
  | reserved read key wins amt lim hold out => exact .reserved read key wins amt lim hold out
  | finalized i read term hold has new =>
    obtain ⟨lim, ds, out, got, told⟩ := charged_step even has new fits ran
    rw [got, told]
    exact .charged i read term hold has new lim ds out
  | finalizedAgain => exact .quiet _ _ _ (quiet_same sys)
  | ticketed call i hold ticket lim used rep has issued use => exact .ticketed call i hold ticket lim used rep has issued use

end Serving

inductive BucketChange (now : Int) (key : TokenBucketKey) (pre : Option TokenBucket) : Option TokenBucket → Int → Prop where
  | kept : BucketChange now key pre pre 0
  | entered (active) (live : expired now key = false) : BucketChange now key pre (some ⟨(pre.getD ⟨0, 0⟩).committed, active⟩) 0
  | shifted (bin active did) (has : pre = some bin) : BucketChange now key pre (retained ⟨bin.committed + did, active⟩) did
  | gone (did) (past : expired now key = true) : BucketChange now key pre none did

section Changes

variable {now : Int} {key : TokenBucketKey}

theorem discard_cases (now : Int) (bins : TokenBuckets) (key : TokenBucketKey) :
    (discardExpired now bins).lookup key = bins.lookup key ∨
      (discardExpired now bins).lookup key = none ∧ expired now key = true := by
  cases past : expired now key with
  | false => exact .inl (lookup_discard_live past bins)
  | true =>
    rw [lookup_discard]
    cases bins.lookup key with
    | none => exact .inl rfl
    | some =>
      rw [Option.filter_some]
      split
      · exact .inl rfl
      · exact .inr ⟨rfl, rfl⟩

variable {did : Int}
variable {bins : TokenBuckets}

theorem change_discard {pre : Option TokenBucket}
    (change : BucketChange now key pre (bins.lookup key) did) :
    BucketChange now key pre ((discardExpired now bins).lookup key) did := by
  rcases discard_cases now bins key with same | ⟨none, past⟩
  · rw [same]
    exact change
  · rw [none]
    exact .gone did past

theorem change_pass {new : TokenBuckets} {keys : List TokenBucketKey} (change : TokenBucket → TokenBucket)
    (shift : ∀ bin, (change bin).committed = bin.committed + did)
    (stored : new.lookup key = if key ∈ keys then (bins.lookup key).bind (fun bin => retained (change bin)) else bins.lookup key) :
    BucketChange now key (bins.lookup key) (new.lookup key) (if key ∈ keys ∧ (bins.lookup key).isSome then did else 0) := by
  rw [stored]
  by_cases mem : key ∈ keys
  · cases has : bins.lookup key with
    | none => simpa using BucketChange.kept
    | some bin =>
      have same : change bin = ⟨bin.committed + did, (change bin).active⟩ := by rw [← shift bin]
      simp only [mem, if_true, Option.bind_some, Option.isSome_some, and_self]
      rw [same]
      exact .shifted bin _ did rfl
  · simp only [mem, if_false, false_and]
    exact .kept

end Changes

section Undelivered

variable {sys : TokenSystem} {key : TokenBucketKey} {hold : TokenReservation}

variable {ticket : TokenAdjustmentTicket} {i : Nat}

theorem undelivered_set {old : TokenReservation} (has : sys.reservations[i]? = some old) (lim : TokenLimiter)
    (new : TokenReservation) (key : TokenBucketKey) :
    ({ sys with limiter := lim, reservations := sys.reservations.set i new } : TokenSystem).undelivered key +
      old.undelivered key = sys.undelivered key + new.undelivered key :=
  Roster.total_set _ _ _ _ _ has

theorem undelivered_close (term : Terminal) (err : Option TokenError) : (hold.close term err).undelivered key = 0 := by
  cases term <;> rfl

theorem undelivered_charge (ok : hold.Sound) (new : hold.finalized = false)
    (has : sys.reservations[i]? = some hold) (lim : TokenLimiter) (term : Terminal) (err : Option TokenError)
    (key : TokenBucketKey) :
    ({ sys with limiter := lim, reservations := sys.reservations.set i (hold.close term err) } :
      TokenSystem).undelivered key = sys.undelivered key := by
  have did := undelivered_set has lim (hold.close term err) key
  have pre : hold.undelivered key = 0 := by simp [TokenReservation.undelivered, ok.untouched new]
  rw [undelivered_close, pre] at did
  omega

theorem undelivered_issued (issued : hold.ticket = some ticket) :
    hold.undelivered key = ticket.undelivered key := by
  simp [TokenReservation.undelivered, issued]

variable (ticket : TokenAdjustmentTicket)

theorem undelivered_with_ticket :
    (hold.withTicket ticket).undelivered key = ticket.undelivered key := rfl

theorem undelivered_spend (err : Option TokenError) (key : TokenBucketKey) :
    (ticket.spend err).undelivered key = ticket.undelivered key := rfl

theorem undelivered_reserved {lim next : TokenLimiter} {read : Int} {keyID : String} {wins : List TokenWindow} {amt : Int}
    (out : ReserveOutcome lim read keyID wins amt next (.ok hold)) : hold.undelivered key = 0 := by
  cases out <;> rfl

theorem deliver_flow (key : TokenBucketKey) :
    flow (deliver ticket).2 key + (deliver ticket).1.undelivered key = ticket.undelivered key := by
  unfold deliver TokenAdjustmentTicket.undelivered
  cases ticket.notified <;> cases ticket.sink <;> simp

theorem invalidate_undelivered (key : TokenBucketKey) : (invalidate ticket).undelivered key = ticket.undelivered key := by
  unfold invalidate
  split
  · rfl
  · simp [TokenAdjustmentTicket.undelivered, TokenAdjustmentTicket.spend]

end Undelivered

section Steps

variable {sys next : TokenSystem} {call : Call} {rep : Reply}

theorem quiet_change (out : QuietStep sys next) (key : TokenBucketKey) :
    BucketChange next.limiter.lastNow key (sys.limiter.buckets.lookup key) (next.limiter.buckets.lookup key) 0 ∧
      next.undelivered key = sys.undelivered key := by
  cases out with
  | still _ _ same =>
    refine ⟨?_, rfl⟩
    rw [same]
    exact .kept
  | swept => exact ⟨change_discard .kept, rfl⟩

variable {hold : TokenReservation} {lim after : TokenLimiter}
variable {read : Int} {ticket : TokenAdjustmentTicket}

theorem reserve_change {keyID : String} {wins : List TokenWindow} {amt : Int} (out : ReserveOutcome lim read keyID wins amt after (.ok hold))
    (key : TokenBucketKey) :
    BucketChange after.lastNow key (lim.buckets.lookup key) (after.buckets.lookup key) 0 := by
  cases out with
  | unlimited => exact .kept
  | admitted _ keys _ _ _ _ _ inside live =>
    rw [inside key]
    by_cases mem : key ∈ keys
    · have stand := live key mem
      have same : (lim.cleaned read).buckets.lookup key = lim.buckets.lookup key := lookup_discard_live stand _
      simp only [mem, if_true, bucketAt, same]
      exact .entered _ stand
    · simp only [mem, if_false]
      exact change_discard .kept

theorem charge_change {charge : Int} {ds : List CommittedTokenDelta}
    (diff : hold.buckets.Nodup) (out : ChargeOutcome lim read hold charge after ds) (key : TokenBucketKey) :
    BucketChange after.lastNow key (lim.buckets.lookup key) (after.buckets.lookup key) (flow ds key) := by
  cases out with
  | idle => exact .kept
  | charged _ _ stored =>
    rw [flow_emissions diff]
    exact change_discard (change_pass (fun bin => ⟨bin.committed + charge, bin.active - hold.amount⟩) (fun _ => rfl)
      (stored key))

theorem reconciled_change {actual : Int} {used : TokenAdjustmentTicket}
    (diff : ticket.buckets.Nodup) (blank : ticket.Blank) (out : Reconciled lim read ticket actual after used)
    (key : TokenBucketKey) :
    BucketChange after.lastNow key (lim.buckets.lookup key) (after.buckets.lookup key) (used.undelivered key - ticket.undelivered key) := by
  cases out with
  | again =>
    rw [Int.sub_self]
    exact .kept
  | negative | idle | refused =>
    rw [undelivered_spend, Int.sub_self]
    exact .kept
  | moved unused _ _ _ _ _ stored =>
    obtain ⟨silent, unnotified, _⟩ := blank unused
    simp only [TokenAdjustmentTicket.undelivered, TokenAdjustmentTicket.spend, silent, unnotified, Bool.false_and, Bool.true_and,
      Bool.not_false, if_true, Bool.false_eq_true, if_false, Int.sub_zero, flow_emissions diff]
    exact change_discard (change_pass (adjustedBucket (actual - ticket.reserved)) (fun _ => rfl) (stored key))

theorem use_change {i : Nat} {used : TokenAdjustmentTicket} (diff : ticket.buckets.Nodup) (blank : ticket.Blank)
    (use : TicketUse lim i ticket call after used rep) (key : TokenBucketKey) :
    BucketChange after.lastNow key (lim.buckets.lookup key) (after.buckets.lookup key)
      (flow rep.deltas key + used.undelivered key - ticket.undelivered key) := by
  cases use with
  | adjusted _ _ _ _ out => simpa [quietly] using reconciled_change diff blank out key
  | notified =>
    rw [deliver_flow, Int.sub_self]
    exact .kept
  | invalidated =>
    rw [invalidate_undelivered, quietly, flow_nil, Int.zero_add, Int.sub_self]
    exact .kept

theorem serve_change (ok : sys.Sound) (blank : sys.Blank) (out : ServeOutcome sys call next rep) (key : TokenBucketKey) :
    BucketChange next.limiter.lastNow key (sys.limiter.buckets.lookup key) (next.limiter.buckets.lookup key)
      (flow rep.deltas key + next.undelivered key - sys.undelivered key) := by
  cases out with
  | quiet _ _ _ out =>
    obtain ⟨change, same⟩ := quiet_change out key
    simpa [quietly, same] using change
  | reserved _ _ _ _ lim hold out =>
    have same : ({ sys with limiter := lim, reservations := sys.reservations ++ [hold] } : TokenSystem).undelivered key =
        sys.undelivered key := by
      simp [TokenSystem.undelivered, undelivered_reserved out]
    rw [same]
    simpa [quietly] using reserve_change out key
  | charged _ _ _ hold has new _ _ out =>
    have mem := ok hold (List.mem_of_getElem? has)
    rw [undelivered_charge mem new has]
    simpa using charge_change mem.distinct out key
  | ticketed _ _ hold ticket lim used _ has issued use =>
    have mem := List.mem_of_getElem? has
    have did := undelivered_set has lim (hold.withTicket used) key
    rw [undelivered_with_ticket, undelivered_issued issued] at did
    have change := use_change ((ok hold mem).ticketDistinct ticket issued) (blank hold mem ticket issued) use key
    convert change using 1
    omega

theorem consumed_blank (used : ticket.consumed = true) : ticket.Blank := by
  intro unused
  rw [used] at unused
  cases unused

theorem blank_set {i : Nat} (blank : sys.Blank) (lim : TokenLimiter)
    (new : ∀ ticket, hold.ticket = some ticket → ticket.Blank) :
    ({ sys with limiter := lim, reservations := sys.reservations.set i hold } : TokenSystem).Blank :=
  Roster.forall_set _ _ _ blank new

theorem serve_blank (ok : sys.Sound) (blank : sys.Blank) (out : ServeOutcome sys call next rep) : next.Blank := by
  cases out with
  | quiet _ _ _ out => cases out <;> exact blank
  | reserved _ _ _ _ _ _ out =>
    refine Roster.forall_append _ _ blank ?_
    intro ticket issued
    cases out <;> cases issued
  | charged _ _ term _ _ _ lim =>
    refine blank_set blank lim ?_
    intro ticket issued unused
    cases term with
    | commitDeferred =>
      cases issued
      exact ⟨rfl, rfl, rfl⟩
    | commit | abortConservative | releaseBeforeUpstream => cases issued
  | ticketed _ _ hold ticket lim _ _ has issued use =>
    refine blank_set blank lim ?_
    rintro alt ⟨⟩
    exact consumed_blank (use_consumes use ((ok hold (List.mem_of_getElem? has)).ticketDistinct ticket issued)).1

theorem serve_expired (serving : call.loads = false) (ran : step sys call = some (next, rep)) {key : TokenBucketKey}
    (past : expired sys.limiter.lastNow key = true) : expired next.limiter.lastNow key = true := by
  rcases (step_stepped ran).clock serving with same | ⟨read, did⟩
  · rw [same]
    exact past
  · rw [did]
    exact expired_clamp read past

end Steps

def Accounts (balance : Int) (ended : Prop) (cell : Option TokenBucket) : Prop :=
  (∀ bin, cell = some bin → bin.committed = balance) ∧ (cell = none → balance = 0 ∨ ended)

theorem accounts_change {now balance did : Int} {ended : Prop} {key : TokenBucketKey} {pre after : Option TokenBucket}
    (accounts : Accounts balance ended pre) (onward : ended → expired now key = true) (change : BucketChange now key pre after did) :
    Accounts (balance + did) (expired now key = true) after := by
  cases change with
  | kept =>
    rw [Int.add_zero]
    exact ⟨accounts.1, fun missing => (accounts.2 missing).imp_right onward⟩
  | entered _ live =>
    refine ⟨?_, fun absurd => by simp at absurd⟩
    rintro bin ⟨⟩
    cases pre with
    | some old => simpa using accounts.1 old rfl
    | none =>
      rcases accounts.2 rfl with zero | past
      · simp [zero]
      · rw [onward past] at live
        cases live
  | shifted bin active did has =>
    have held := accounts.1 bin has
    refine ⟨?_, ?_⟩
    · intro alt kept
      rw [retained_some kept, held]
    intro dropped
    refine .inl ?_
    unfold retained at dropped
    split at dropped
    · rename_i blank
      rw [← held]
      exact blank.2
    · simp at dropped
  | gone _ past => exact ⟨fun _ absurd => by simp at absurd, fun _ => .inr past⟩

structure Accounted (begun : TokenSystem) (outs : List Reply) (sys : TokenSystem) : Prop where
  balanced : Balanced sys
  blank : sys.Blank
  law : ∀ key, Accounts ((bucketAt begun.limiter.buckets key).committed + delivered outs key + sys.undelivered key)
    (expired sys.limiter.lastNow key = true) (sys.limiter.buckets.lookup key)

theorem delivered_append (outs : List Reply) (rep : Reply) (key : TokenBucketKey) :
    delivered (outs ++ [rep]) key = delivered outs key + flow rep.deltas key := by
  simp [delivered]

variable {reply : Reply} {call : Call} {replies : List Reply} {system : TokenSystem} {opening : List Call} {loads : List Reply}
variable {begun next : TokenSystem} {past : List Call}

theorem accounted_step
    (accounted : Accounted begun replies system) (serving : call.loads = false) (fits : overflowed reply = false)
    (ran : step system call = some (next, reply)) : Accounted begun (replies ++ [reply]) next := by
  have out := serve_outcome accounted.balanced serving fits ran
  refine ⟨step_balanced accounted.balanced ran, serve_blank accounted.balanced.sound accounted.blank out, fun key => ?_⟩
  have did := accounts_change (accounted.law key) (serve_expired serving ran)
    (serve_change accounted.balanced.sound accounted.blank out key)
  rw [delivered_append]
  convert did using 1
  omega

structure Opened (opening : List Call) (sys : TokenSystem) : Prop where
  idle : sys.reservations = []
  loaded : ∀ key bin, sys.limiter.buckets.lookup key = some bin → ∃ now rows, .loadCommitted now rows ∈ opening ∧
    ∃ row ∈ rows, persistedKey row = key ∧ malformed row = false ∧ bin = ⟨row.committedTokens, 0⟩

theorem opened_step (begun : Opened past system)
    (opens : call.opens = true) (ran : step system call = some (next, reply)) : Opened (past ++ [call]) next := by
  have earlier : ∀ key bin, system.limiter.buckets.lookup key = some bin → ∃ now rows, .loadCommitted now rows ∈ past ++ [call] ∧
      ∃ row ∈ rows, persistedKey row = key ∧ malformed row = false ∧ bin = ⟨row.committedTokens, 0⟩ := by
    intro key bin has
    obtain ⟨now, rows, mem, row, inside⟩ := begun.loaded key bin has
    exact ⟨now, rows, by simp [mem], row, inside⟩
  cases call with
  | loadCommitted now rows =>
    cases ran
    refine ⟨begun.idle, ?_⟩
    intro key bin has
    rcases load_committed_outcome system.limiter now rows with same | stored
    · exact earlier key bin (same ▸ has)
    · rw [stored] at has
      rcases load_rows_lookup now rows system.limiter.buckets key with same | ⟨_, row, mem, named, sane, _, filled⟩
      · exact earlier key bin (same ▸ has)
      · exact ⟨now, rows, by simp, row, mem, named, sane, Option.some.inj (has.symm.trans filled)⟩
  | registerPolicy =>
    simp only [step, Option.ite_none_left_eq_some, Option.some.injEq, Prod.mk.injEq] at ran
    obtain ⟨_, rfl, _⟩ := ran
    exact ⟨begun.idle, earlier⟩
  | _ => cases opens

theorem opened_run (startup : ∀ call ∈ opening, call.opens = true)
    (loading : execute step newTokenSystem opening = some (system, loads)) : Opened opening system := by
  have along : Along step (fun _ call => call.opens = true) newTokenSystem opening :=
    along_of_forall (fun _ => startup) _
  have start : Opened [] newTokenSystem := ⟨rfl, fun key bin has => by cases has⟩
  exact run_traced (fun past _ state => Opened past state)
    (fun _ _ _ _ _ _ _ opened opens transition => opened_step opened opens transition) start along loading

theorem opened_accounted (startup : ∀ call ∈ opening, call.opens = true)
    (loading : execute step newTokenSystem opening = some (begun, loads)) : Accounted begun [] begun := by
  have idle := (opened_run startup loading).idle
  refine ⟨balanced_run loading, ?_, ?_⟩
  · intro hold mem
    rw [idle] at mem
    cases mem
  intro key
  have quiet : begun.undelivered key = 0 := by simp [TokenSystem.undelivered, idle]
  rw [quiet]
  simp only [delivered, List.flatMap_nil, flow_nil, Int.add_zero]
  refine ⟨?_, ?_⟩
  · intro bin has
    rw [bucketAt, has]
    rfl
  · intro missing
    rw [bucketAt, missing]
    exact .inl rfl

def TokenSystem.ticketAt (system : TokenSystem) (index : Nat) : Option TokenAdjustmentTicket :=
  (system.reservations[index]?).bind TokenReservation.ticket

-- The adjustment that used up the ticket found the bucket there.
def AdjustedPresent (opened : TokenSystem) (past : List Call) (index : Nat) (key : TokenBucketKey) : Prop :=
  ∃ before reading actual after state answered, past = before ++ .adjust index reading actual :: after ∧
    Transition.execute step opened before = some (state, answered) ∧
    (∃ ticket, state.ticketAt index = some ticket ∧ ticket.consumed = false) ∧ (state.limiter.buckets.lookup key).isSome = true

def Recorded (begun : TokenSystem) (past : List Call) (sys : TokenSystem) : Prop :=
  ∀ i ticket d, sys.ticketAt i = some ticket → d ∈ ticket.deltas → AdjustedPresent begun past i (deltaKey d)

section Recording

variable {begun system next : TokenSystem} {past : List Call} {told : List Reply} {call : Call} {reply : Reply}

variable {i : Nat}

theorem adjusted_present_later {key : TokenBucketKey} (hit : AdjustedPresent begun past i key) (call : Call) :
    AdjustedPresent begun (past ++ [call]) i key := by
  obtain ⟨pre, read, actual, after, st, replies, rfl, got, unused, has⟩ := hit
  exact ⟨pre, read, actual, after ++ [call], st, replies, by simp, got, unused, has⟩

variable {old : TokenReservation}

theorem ticket_at_set (has : system.reservations[i]? = some old) (lim : TokenLimiter)
    (new : TokenReservation) (alt : Nat) :
    ({ system with limiter := lim, reservations := system.reservations.set i new } : TokenSystem).ticketAt alt =
      if alt = i then new.ticket else system.ticketAt alt := by
  obtain ⟨bound, _⟩ := List.getElem?_eq_some_iff.mp has
  unfold TokenSystem.ticketAt
  by_cases same : alt = i
  · subst alt
    simp [bound]
  · rw [if_neg same, List.getElem?_set_ne (fun clash => same clash.symm)]

theorem recorded_set {fresh : TokenReservation} (noted : Recorded begun past system) (call : Call)
    (has : system.reservations[i]? = some old) (lim : TokenLimiter)
    (new : ∀ ticket d, fresh.ticket = some ticket → d ∈ ticket.deltas → AdjustedPresent begun (past ++ [call]) i (deltaKey d)) :
    Recorded begun (past ++ [call]) { system with limiter := lim, reservations := system.reservations.set i fresh } := by
  intro alt ticket d issued mem
  rw [ticket_at_set has] at issued
  split at issued
  · rename_i same
    exact same ▸ new ticket d issued mem
  · exact adjusted_present_later (noted alt ticket d issued mem) call

theorem recorded_step (got : execute step begun past = some (system, told)) (noted : Recorded begun past system)
    (out : ServeOutcome system call next reply) : Recorded begun (past ++ [call]) next := by
  have kept : ∀ i hold ticket d, system.reservations[i]? = some hold → hold.ticket = some ticket →
      d ∈ ticket.deltas → AdjustedPresent begun (past ++ [call]) i (deltaKey d) := by
    intro i hold ticket d has issued mem
    refine adjusted_present_later (noted i ticket d ?_ mem) call
    rw [TokenSystem.ticketAt, has]
    exact issued
  cases out with
  | quiet _ _ _ out =>
    have same : ∀ i, next.ticketAt i = system.ticketAt i := by
      intro i
      cases out <;> rfl
    intro i ticket d issued mem
    rw [same i] at issued
    exact adjusted_present_later (noted i ticket d issued mem) _
  | reserved _ _ _ _ _ _ out =>
    intro i ticket d issued mem
    simp only [TokenSystem.ticketAt, List.getElem?_append] at issued
    split at issued
    · exact adjusted_present_later (noted i ticket d issued mem) _
    · obtain ⟨_, hit, same⟩ := Option.bind_eq_some_iff.mp issued
      obtain rfl := List.mem_singleton.mp (List.mem_of_getElem? hit)
      cases out <;> cases same
  | charged _ _ term _ has _ lim =>
    refine recorded_set noted _ has lim ?_
    intro ticket d issued mem
    cases term with
    | commitDeferred =>
      cases issued
      cases mem
    | commit | abortConservative | releaseBeforeUpstream => cases issued
  | ticketed _ i hold ticket lim _ _ has issued use =>
    refine recorded_set noted _ has lim ?_
    rintro alt d ⟨⟩ mem
    cases use with
    | adjusted read actual _ _ out =>
      cases out with
      | moved unused =>
        refine ⟨past, read, actual, [], system, told, rfl, got, ⟨ticket, ?_, unused⟩, (mem_emissions mem).2⟩
        rw [TokenSystem.ticketAt, has]
        exact issued
      | _ => exact kept i hold ticket d has issued mem
    | notified =>
      refine kept i hold ticket d has issued ?_
      unfold deliver at mem
      split at mem <;> exact mem
    | invalidated =>
      refine kept i hold ticket d has issued ?_
      unfold invalidate at mem
      split at mem <;> exact mem

end Recording

-- No Adjust stands between its accounting and its notifications.
def Resting (system : TokenSystem) : Prop :=
  ∀ reservation ∈ system.reservations, ∀ ticket, reservation.ticket = some ticket → ticket.sink = true → ticket.notified = true

theorem resting_undelivered (resting : Resting system) (key : TokenBucketKey) : system.undelivered key = 0 := by
  refine List.sum_eq_zero ?_
  intro v shown
  obtain ⟨hold, mem, rfl⟩ := List.mem_map.mp shown
  unfold TokenReservation.undelivered
  cases issued : hold.ticket with
  | none => rfl
  | some ticket =>
    have done := resting hold mem ticket issued
    simp only [TokenAdjustmentTicket.undelivered]
    cases sink : ticket.sink with
    | false => rfl
    | true => simp [done sink]

-- The bucket a delta is for was there when it was settled or adjusted.
def DeliveredPresent (opened : TokenSystem) (earlier : List Call) (state : TokenSystem) (key : TokenBucketKey) : Call → Prop
  | .finalize _ _ _ => (state.limiter.buckets.lookup key).isSome = true
  | .notify index => AdjustedPresent opened earlier index key
  | _ => False

theorem delivered_present {st : TokenSystem}
    (noted : Recorded begun past st) (out : ServeOutcome st call next reply) {d : CommittedTokenDelta}
    (mem : d ∈ reply.deltas) : DeliveredPresent begun past st (deltaKey d) call := by
  cases out with
  | charged _ _ _ _ _ _ _ _ out =>
    cases out with
    | idle => cases mem
    | charged => exact (mem_emissions mem).2
  | ticketed _ i _ ticket _ _ _ has issued use =>
    cases use with
    | notified =>
      refine noted i ticket d (by rw [TokenSystem.ticketAt, has]; exact issued) ?_
      simp only [deliver] at mem
      split at mem
      · cases mem
      · exact mem
    | _ => cases mem
  | _ => cases mem

theorem serving_run {serving : List Call} (start : Accounted begun [] begun)
    (idle : begun.reservations = []) (serves : ∀ call ∈ serving, call.loads = false)
    (run : execute step begun serving = some (system, replies)) (fits : ∀ reply ∈ replies, overflowed reply = false) :
    Accounted begun replies system ∧ Recorded begun serving system := by
  have along : Along step (fun _ call => call.loads = false) begun serving := along_of_forall (fun _ => serves) _
  refine run_traced (fun past told st => (∀ reply ∈ told, overflowed reply = false) →
    Accounted begun told st ∧ Recorded begun past st) ?_ (fun _ => ⟨start, ?_⟩) along run fits
  · intro past told st call next reply got holds serving ran clear
    obtain ⟨accounted, noted⟩ := holds (fun alt mem => clear alt (by simp [mem]))
    have through := clear reply (by simp)
    exact ⟨accounted_step accounted serving through ran,
      recorded_step got noted (serve_outcome accounted.balanced serving through ran)⟩
  · intro i ticket d issued
    simp [TokenSystem.ticketAt, idle] at issued

theorem token_ledger_law {opening serving : List Call} {opened system : TokenSystem} {loads replies : List Reply}
    (startup : ∀ call ∈ opening, call.opens = true) (loading : Transition.execute step newTokenSystem opening = some (opened, loads))
    (serves : ∀ call ∈ serving, call.loads = false) (run : Transition.execute step opened serving = some (system, replies))
    (fits : ∀ reply ∈ replies, overflowed reply = false) :
    (∀ key bucket, opened.limiter.buckets.lookup key = some bucket → ∃ now rows, .loadCommitted now rows ∈ opening ∧
        ∃ row ∈ rows, persistedKey row = key ∧ malformed row = false ∧ bucket = ⟨row.committedTokens, 0⟩) ∧
      (Resting system → ∀ key bucket, system.limiter.buckets.lookup key = some bucket →
        bucket.committed = (bucketAt opened.limiter.buckets key).committed + delivered replies key) ∧
      ∀ earlier call later state answered next reply, serving = earlier ++ call :: later →
        Transition.execute step opened earlier = some (state, answered) → step state call = some (next, reply) →
          ∀ delta ∈ reply.deltas, DeliveredPresent opened earlier state (deltaKey delta) call := by
  have opens := opened_run startup loading
  have start := opened_accounted startup loading
  refine ⟨opens.loaded, ?_, ?_⟩
  · intro resting key bucket has
    have law := ((serving_run start opens.idle serves run fits).1.law key).1 bucket has
    rwa [resting_undelivered resting, Int.add_zero] at law
  rintro earlier call later state answered next reply rfl got ran delta mem
  obtain ⟨_, _, _, first, second, rfl⟩ := execute_split run
  obtain ⟨rfl, rfl⟩ := Prod.mk.inj (Option.some.inj (first.symm.trans got))
  obtain ⟨_, ans, _, did, _, rfl⟩ := execute_cons second
  obtain ⟨rfl, rfl⟩ := Prod.mk.inj (Option.some.inj (did.symm.trans ran))
  obtain ⟨accounted, noted⟩ := serving_run start opens.idle (fun alt inside => serves alt (by simp [inside])) first
    (fun alt inside => fits alt (by simp [inside]))
  exact delivered_present noted (serve_outcome accounted.balanced (serves call (by simp)) (fits ans (by simp)) ran) mem

def loadingCalls : List Call := [.loadCommitted 0 [⟨"key", 0, ⟨30, 1000000000⟩, 5⟩], .registerPolicy "key" [⟨30, 1000000000⟩]]

def servingCalls : List Call :=
  [.reserve 0 "key" [⟨30, 1000000000⟩] 10, .reserve 0 "key" [⟨30, 1000000000⟩] 5, .finalize 0 0 .commitDeferred,
    .finalize 1 0 .releaseBeforeUpstream, .adjust 0 0 4, .notify 0]

theorem token_ledger_law_adjusted_run : ∃ opened system : TokenSystem, ∃ loads replies,
    Transition.execute step newTokenSystem loadingCalls = some (opened, loads) ∧
      Transition.execute step opened servingCalls = some (system, replies) ∧
      (∀ key bucket, system.limiter.buckets.lookup key = some bucket →
        bucket.committed = (bucketAt opened.limiter.buckets key).committed + delivered replies key) ∧
      (bucketAt opened.limiter.buckets ⟨"key", ⟨30, 1000000000⟩, 0⟩).committed = 5 ∧
      delivered replies ⟨"key", ⟨30, 1000000000⟩, 0⟩ = 4 ∧
      system.limiter.buckets.lookup ⟨"key", ⟨30, 1000000000⟩, 0⟩ = some ⟨9, 0⟩ :=
  ⟨_, _, _, _, Transition.execute_get (by decide), Transition.execute_get (by decide),
    (token_ledger_law (by decide) (Transition.execute_get (by decide)) (by decide) (Transition.execute_get (by decide)) (by decide)).2.1
      (by unfold Resting; decide), by decide, by decide, by decide⟩

end NineGateway.Token
