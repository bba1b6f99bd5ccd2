import NineGateway.Token.Ledger

set_option autoImplicit false

namespace NineGateway.Token

def TokenAdjustmentTicket.owed (ticket : TokenAdjustmentTicket) (key : TokenBucketKey) : Int :=
  if ticket.consumed = false ∧ key ∈ ticket.buckets then ticket.reserved else 0

def TokenReservation.owed (hold : TokenReservation) (key : TokenBucketKey) : Int :=
  match hold.ticket with
  | none => 0
  | some ticket => ticket.owed key

def TokenSystem.owed (sys : TokenSystem) (key : TokenBucketKey) : Int :=
  Roster.total (fun hold => hold.owed key) sys.reservations

def Backs (owed : Int) (ended : Prop) (cell : Option TokenBucket) : Prop :=
  (∀ bin, cell = some bin → owed ≤ bin.committed) ∧ (cell = none → owed = 0 ∨ ended)

open TokenAdjustmentTicket

theorem backs_change {now owed left did : Int} {ended : Prop} {key : TokenBucketKey} {pre after : Option TokenBucket}
    (backs : Backs owed ended pre) (onward : ended → expired now key = true) (change : BucketChange now key pre after did) (nonneg : 0 ≤ left)
    (has : pre.isSome = true → left ≤ owed + did) (absent : pre = none → left ≤ owed) : Backs left (expired now key = true) after := by
  have missing : pre = none → left = 0 ∨ expired now key = true := by
    intro none
    have least := absent none
    exact (backs.2 none).imp (fun zero => by omega) onward
  cases change with
  | kept =>
    refine ⟨?_, missing⟩
    intro bin there
    have cov := backs.1 bin there
    have less := has (by simp [there])
    omega
  | entered _ live =>
    refine ⟨?_, fun absurd => by simp at absurd⟩
    rintro bin ⟨⟩
    cases pre with
    | some old =>
      have cov := backs.1 old rfl
      have less := has rfl
      simp only [Option.getD_some]
      omega
    | none =>
      rcases missing rfl with zero | past
      · simp [zero]
      · rw [past] at live
        cases live
  | shifted bin active did there =>
    have cov := backs.1 bin there
    have less := has (by simp [there])
    refine ⟨?_, ?_⟩
    · intro alt kept
      rw [retained_some kept]
      simp only
      omega
    · intro dropped
      unfold retained at dropped
      split at dropped
      · rename_i blank
        simp only at blank
        exact .inl (by omega)
      · simp at dropped
  | gone _ past => exact ⟨fun _ absurd => by simp at absurd, fun _ => .inr past⟩

section Owed

variable {sys : TokenSystem} {hold : TokenReservation} {key : TokenBucketKey}

theorem owed_nonnegative (ok : hold.Sound) (key : TokenBucketKey) : 0 ≤ hold.owed key := by
  have pos := ok.positive
  unfold TokenReservation.owed
  cases issued : hold.ticket with
  | none => exact Int.le_refl 0
  | some ticket =>
    simp only [owed]
    split
    · rename_i outstanding
      have reserved := (ok.ticketIssued ticket issued outstanding.1).2
      omega
    · exact Int.le_refl 0

theorem system_owed_nonnegative (ok : sys.Sound) (key : TokenBucketKey) : 0 ≤ sys.owed key := by
  refine List.sum_nonneg ?_
  intro v shown
  obtain ⟨hold, mem, rfl⟩ := List.mem_map.mp shown
  exact owed_nonnegative (ok hold mem) key

variable {ticket : TokenAdjustmentTicket} {i : Nat}

theorem owed_le_total (ok : sys.Sound) (has : sys.reservations[i]? = some hold) (key : TokenBucketKey) : hold.owed key ≤ sys.owed key :=
  Roster.weight_le_total (fun entry => entry.owed key) _ i hold has (fun entry mem => owed_nonnegative (ok entry mem) key)

theorem owed_set {old : TokenReservation} (has : sys.reservations[i]? = some old) (lim : TokenLimiter) (new : TokenReservation)
    (key : TokenBucketKey) : ({ sys with limiter := lim, reservations := sys.reservations.set i new } : TokenSystem).owed key + old.owed key =
      sys.owed key + new.owed key :=
  Roster.total_set _ _ _ _ _ has

theorem owed_issued (issued : hold.ticket = some ticket) : hold.owed key = ticket.owed key := by
  simp [TokenReservation.owed, issued]

theorem owed_consumed (used : ticket.consumed = true) : ticket.owed key = 0 := by
  simp [owed, used]

theorem owed_close (term : Terminal) (err : Option TokenError) : (hold.close term err).owed key =
      if term = .commitDeferred ∧ key ∈ hold.buckets then hold.amount else 0 := by
  cases term <;> simp [TokenReservation.owed, TokenReservation.close, Terminal.ticket, owed, newTicket]

end Owed

structure Served (sys : TokenSystem) : Prop where
  balanced : Balanced sys
  blank : sys.Blank
  backed : ∀ key, Backs (sys.owed key) (expired sys.limiter.lastNow key = true) (sys.limiter.buckets.lookup key)

section Steps

variable {sys next : TokenSystem} {call : Call} {rep : Reply}

variable {hold : TokenReservation} {ticket : TokenAdjustmentTicket} {i : Nat}

theorem charge_nonnegative (ok : hold.Sound) (usage : Int) : 0 ≤ chargeFor hold.amount usage := by
  have pos := ok.positive
  unfold chargeFor
  split <;> omega

variable (served : Served sys)
include served

theorem owed_change (out : ServeOutcome sys call next rep) (key : TokenBucketKey) : ((sys.limiter.buckets.lookup key).isSome = true →
        next.owed key ≤ sys.owed key + (flow rep.deltas key + next.undelivered key - sys.undelivered key)) ∧
      (sys.limiter.buckets.lookup key = none → next.owed key ≤ sys.owed key) := by
  have ok := served.balanced.sound
  cases out with
  | quiet _ _ _ out =>
    have owing : next.owed key = sys.owed key := by cases out <;> rfl
    have waiting := (quiet_change out key).2
    simp only [quietly, flow_nil]
    exact ⟨fun _ => by omega, fun _ => by omega⟩
  | reserved _ _ _ _ lim hold out =>
    have blank : hold.owed key = 0 ∧ hold.undelivered key = 0 := by cases out <;> exact ⟨rfl, rfl⟩
    have owing : ({ sys with limiter := lim, reservations := sys.reservations ++ [hold] } : TokenSystem).owed key = sys.owed key := by
      simp [TokenSystem.owed, blank.1]
    have waiting : ({ sys with limiter := lim, reservations := sys.reservations ++ [hold] } : TokenSystem).undelivered key =
        sys.undelivered key := by
      simp [TokenSystem.undelivered, blank.2]
    simp only [quietly, flow_nil]
    exact ⟨fun _ => by omega, fun _ => by omega⟩
  | charged _ _ term hold has new lim ds out =>
    have mem := List.mem_of_getElem? has
    have entry := ok hold mem
    have pos := entry.positive
    have same := entry.untouched new
    have charge := charge_nonnegative entry (term.usage hold.amount)
    have owing := owed_set has lim (hold.close term (verdictOn (term.usage hold.amount))) key
    have waiting := undelivered_charge entry new has lim term (verdictOn (term.usage hold.amount)) key
    have idle : hold.owed key = 0 := by simp [TokenReservation.owed, same]
    rw [owed_close, idle] at owing
    have emitted : flow ds key = if key ∈ hold.buckets ∧ (sys.limiter.buckets.lookup key).isSome then
        chargeFor hold.amount (term.usage hold.amount) else 0 := by
      cases out with
      | idle empty => simp [empty]
      | charged => exact flow_emissions entry.distinct key
    simp only
    refine ⟨fun there => ?_, fun missing => ?_⟩
    · simp only [there, and_true] at emitted
      by_cases cov : key ∈ hold.buckets
      · simp only [cov, and_true, if_true] at owing emitted
        by_cases deferred : term = .commitDeferred
        · subst deferred
          have whole : chargeFor hold.amount (Terminal.commitDeferred.usage hold.amount) = hold.amount := by
            simp [chargeFor, Terminal.usage, Int.not_lt.mpr (Int.le_of_lt pos)]
          omega
        · simp only [deferred, if_false] at owing
          omega
      · simp only [cov, and_false, if_false] at owing emitted
        omega
    · have outside : key ∉ hold.buckets := by
        intro cov
        obtain ⟨_, hit, _⟩ := held_bucket_present served.balanced mem new cov
        rw [missing] at hit
        cases hit
      simp only [outside, and_false, if_false] at owing
      omega
  | ticketed _ _ hold ticket lim used _ has issued use =>
    have mem := List.mem_of_getElem? has
    have entry := ok hold mem
    have diff := entry.ticketDistinct ticket issued
    have owing := owed_set has lim (hold.withTicket used) key
    have waiting := undelivered_set has lim (hold.withTicket used) key
    have pre := owed_nonnegative entry key
    rw [show (hold.withTicket used).owed key = 0 from owed_consumed (use_consumes use diff).1] at owing
    rw [undelivered_with_ticket, undelivered_issued issued] at waiting
    rw [owed_issued issued] at owing pre
    refine ⟨fun there => ?_, fun _ => by omega⟩
    have least : -ticket.owed key ≤ flow rep.deltas key + used.undelivered key - ticket.undelivered key := by
      cases use with
      | adjusted _ _ _ _ out =>
        rw [quietly, flow_nil]
        cases out with
        | again => omega
        | negative | idle | refused =>
          rw [undelivered_spend]
          omega
        | moved unused =>
          obtain ⟨silent, unnotified, _⟩ := served.blank hold mem ticket issued unused
          simp only [undelivered, spend, silent, unnotified, Bool.false_and, Bool.true_and, Bool.not_false, if_true, Bool.false_eq_true, if_false,
            Int.sub_zero, flow_emissions diff, there, and_true, owed, unused, true_and]
          split <;> omega
      | notified =>
        rw [deliver_flow]
        omega
      | invalidated =>
        rw [invalidate_undelivered, quietly, flow_nil]
        omega
    omega

theorem served_step (serving : call.loads = false) (fits : overflowed rep = false) (ran : step sys call = some (next, rep)) : Served next := by
  have out := serve_outcome served.balanced serving fits ran
  have even := step_balanced served.balanced ran
  refine ⟨even, serve_blank served.balanced.sound served.blank out, fun key => ?_⟩
  obtain ⟨has, gone⟩ := owed_change served out key
  exact backs_change (served.backed key) (serve_expired serving ran)
    (serve_change served.balanced.sound served.blank out key) (system_owed_nonnegative even.sound key) has gone

theorem refund_covered (has : sys.reservations[i]? = some hold) (issued : hold.ticket = some ticket) (unused : ticket.consumed = false)
    {key : TokenBucketKey} {bin : TokenBucket} (cov : key ∈ ticket.buckets) (there : sys.limiter.buckets.lookup key = some bin) :
    ticket.reserved ≤ bin.committed := by
  have part := owed_le_total served.balanced.sound has key
  have whole := (served.backed key).1 bin there
  rw [owed_issued issued] at part
  simp only [owed, unused, cov, and_self, if_true] at part
  omega

omit served in
theorem adjust_check_covered {bins : TokenBuckets} {reserved actual : Int} {keys : List TokenBucketKey} (nonneg : 0 ≤ actual)
    (cov : ∀ key ∈ keys, ∀ bin, bins.lookup key = some bin → reserved ≤ bin.committed) :
    adjustCheck bins (actual - reserved) keys = none ∨ adjustCheck bins (actual - reserved) keys = some .accountingOverflow := by
  induction keys with
  | nil => exact .inl rfl
  | cons key _ ih =>
    have others := ih (fun alt mem => cov alt (by simp [mem]))
    simp only [adjustCheck]
    cases there : bins.lookup key with
    | none => exact others
    | some bin =>
      have enough := cov key (by simp) bin there
      simp only
      split
      · exact .inr rfl
      · rw [if_neg (by omega)]
        exact others

theorem refused_overflow {actual : Int} {err : TokenError} (has : sys.reservations[i]? = some hold) (issued : hold.ticket = some ticket)
    (unused : ticket.consumed = false) (nonneg : 0 ≤ actual)
    (checked : adjustCheck sys.limiter.buckets (actual - ticket.reserved) ticket.buckets = some err) : err = .accountingOverflow := by
  rcases adjust_check_covered nonneg (fun key cov bin there => refund_covered served has issued unused cov there) with clear | spilled
  · simp [clear] at checked
  · exact Option.some.inj (checked.symm.trans spilled)

end Steps

theorem opened_served {opening : List Call} {begun : TokenSystem} {loads : List Reply} (startup : ∀ call ∈ opening, call.opens = true)
    (loading : Transition.execute step newTokenSystem opening = some (begun, loads)) : Served begun := by
  have opens := opened_run startup loading
  have accounted := opened_accounted startup loading
  refine ⟨accounted.balanced, accounted.blank, fun key => ?_⟩
  have nothing : begun.owed key = 0 := by simp [TokenSystem.owed, opens.idle]
  rw [nothing]
  refine ⟨?_, fun _ => .inl rfl⟩
  intro bin has
  obtain ⟨_, _, _, row, _, _, sane, rfl⟩ := opens.loaded key bin has
  simp only [malformed, Bool.or_eq_false_iff, decide_eq_false_iff_not] at sane
  simp only
  omega

end NineGateway.Token
