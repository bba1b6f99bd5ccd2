import NineGateway.Token.System

set_option autoImplicit false

namespace NineGateway.Token

open Transition

def TokenReservation.holding (reservation : TokenReservation) (key : TokenBucketKey) : Int :=
  if reservation.finalized = false ∧ key ∈ reservation.buckets then reservation.amount else 0

def TokenSystem.held (system : TokenSystem) (key : TokenBucketKey) : Int :=
  Roster.total (fun reservation => reservation.holding key) system.reservations

structure Balanced (sys : TokenSystem) : Prop where
  sound : sys.Sound
  active : ∀ key, (bucketAt sys.limiter.buckets key).active = sys.held key
  stateless : ∀ hold ∈ sys.reservations, hold.finalErr ≠ some .reservationState

open TokenReservation

section Holding

variable {hold : TokenReservation} {key : TokenBucketKey}

theorem holding_open (undone : hold.finalized = false) : hold.holding key = if key ∈ hold.buckets then hold.amount else 0 := by
  simp [holding, undone]

theorem holding_close (term : Terminal) (err : Option TokenError) : (hold.close term err).holding key = 0 := by
  simp [holding, close]

theorem holding_nonnegative (ok : hold.Sound) : 0 ≤ hold.holding key := by
  have pos := ok.positive
  unfold holding
  split <;> omega

theorem holding_with_ticket (ticket : TokenAdjustmentTicket) : (hold.withTicket ticket).holding key = hold.holding key := rfl

end Holding

section Held

variable {sys : TokenSystem} {key : TokenBucketKey}

theorem held_set {i : Nat} {old : TokenReservation} (has : sys.reservations[i]? = some old) (lim : TokenLimiter) (new : TokenReservation)
    (key : TokenBucketKey) :
    ({ sys with limiter := lim, reservations := sys.reservations.set i new } : TokenSystem).held key + old.holding key =
      sys.held key + new.holding key :=
  Roster.total_set _ _ _ _ _ has

theorem held_append (new : TokenReservation) (lim : TokenLimiter) :
    ({ sys with limiter := lim, reservations := sys.reservations ++ [new] } : TokenSystem).held key = sys.held key + new.holding key :=
  Roster.total_append _ _ _

theorem held_bucket_present {hold : TokenReservation} (even : Balanced sys) (mem : hold ∈ sys.reservations) (undone : hold.finalized = false)
    (cov : key ∈ hold.buckets) : ∃ bin, sys.limiter.buckets.lookup key = some bin ∧ hold.amount ≤ bin.active := by
  obtain ⟨i, has⟩ := List.mem_iff_getElem?.mp mem
  have part := Roster.weight_le_total (fun entry => entry.holding key) sys.reservations i hold has
    (fun entry shown => holding_nonnegative (even.sound entry shown))
  have total := even.active key
  have pos := (even.sound hold mem).positive
  simp only [holding_open undone, cov, if_true] at part
  cases hit : sys.limiter.buckets.lookup key with
  | none =>
    rw [bucketAt, hit] at total
    simp only [Option.getD_none, TokenSystem.held] at total
    omega
  | some bin =>
    rw [bucketAt, hit] at total
    simp only [Option.getD_some, TokenSystem.held] at total
    exact ⟨bin, rfl, by omega⟩

end Held

theorem settlement_check_cases {bins : TokenBuckets} {amt : Int} (usage : Int) {keys : List TokenBucketKey}
    (hit : ∀ key ∈ keys, ∃ bin, bins.lookup key = some bin ∧ amt ≤ bin.active) :
    settlementCheck bins amt usage keys = none ∧ keys.any (spoils bins usage) = false ∨
      settlementCheck bins amt usage keys = some .accountingOverflow := by
  induction keys with
  | nil => exact .inl ⟨rfl, rfl⟩
  | cons key _ ih =>
    obtain ⟨bin, has, enough⟩ := hit key (by simp)
    simp only [settlementCheck, has, if_neg (Int.not_lt.mpr enough), List.any_cons, spoils, Option.any_some]
    split
    · exact .inr rfl
    · rename_i fitted
      simpa [fitted] using ih (fun alt mem => hit alt (by simp [mem]))

def verdictOn (usage : Int) : Option TokenError := if usage < 0 then some .invalidUsage else none

section Actives

variable {lim next : TokenLimiter} {read : Int}

theorem reserve_active {keyID : String} {wins : List TokenWindow} {amt : Int} {hold : TokenReservation}
    (out : ReserveOutcome lim read keyID wins amt next (.ok hold)) (key : TokenBucketKey) :
    (bucketAt next.buckets key).active = (bucketAt lim.buckets key).active + hold.holding key ∧ hold.finalErr = none := by
  cases out with
  | unlimited => simp [holding, newTokenReservation]
  | admitted _ keys _ _ _ _ _ inside =>
    refine ⟨?_, rfl⟩
    have swept : (bucketAt (lim.cleaned read).buckets key).active = (bucketAt lim.buckets key).active := active_discard _ _ _
    rw [holding_open rfl, ← swept, bucketAt, inside key]
    by_cases mem : key ∈ keys
    · simp [mem, newTokenReservation]
    · simp [mem, newTokenReservation, bucketAt]

theorem settled_active {bins new : TokenBuckets} {amt settle : Int} {keys : List TokenBucketKey} {key : TokenBucketKey}
    (stored : ∀ q, new.lookup q = if q ∈ keys then (bins.lookup q).bind (fun bin => retained (settledBucket amt settle bin)) else bins.lookup q)
    (hit : key ∈ keys → ∃ bin, bins.lookup key = some bin ∧ amt ≤ bin.active) :
    (bucketAt new key).active = (bucketAt bins key).active - if key ∈ keys then amt else 0 := by
  unfold bucketAt
  rw [stored key]
  by_cases mem : key ∈ keys
  · obtain ⟨_, has, enough⟩ := hit mem
    simp [mem, has, retained_value, settledBucket, Int.not_lt.mpr enough]
  · simp [mem]

theorem unbound_empty {hold : TokenReservation} (ok : hold.Sound) (free : hold.bound = false ∨ hold.buckets = [] ∨ hold.amount ≤ 0) :
    hold.buckets = [] := by
  by_contra busy
  have pos := ok.positive
  rcases free with unbound | none | nothing
  · simp [ok.bound busy] at unbound
  · exact busy none
  · omega

theorem found_error_cases {hold : TokenReservation} (usage : Int) (actual : Bool)
    (hit : ∀ key ∈ hold.buckets, ∃ bin, lim.buckets.lookup key = some bin ∧ hold.amount ≤ bin.active) :
    foundError lim.buckets hold usage actual = verdictOn usage ∧
        (actual = true → 0 ≤ usage → hold.buckets.any (spoils lim.buckets usage) = false) ∨
      foundError lim.buckets hold usage actual = some .accountingOverflow := by
  unfold foundError verdictOn
  split
  · exact .inl ⟨rfl, fun _ nonneg => by omega⟩
  split
  · rcases settlement_check_cases usage hit with clear | overflow
    · exact .inl ⟨clear.1, fun _ _ => clear.2⟩
    · exact .inr overflow
  · exact .inl ⟨rfl, fun on => by contradiction⟩

theorem finalize_active {hold : TokenReservation} {usage : Int} {actual : Bool} {err : Option TokenError} {ds : List CommittedTokenDelta}
    (ok : hold.Sound) (undone : hold.finalized = false)
    (hit : ∀ key ∈ hold.buckets, ∃ bin, lim.buckets.lookup key = some bin ∧ hold.amount ≤ bin.active)
    (out : FinalizeOutcome lim read hold usage actual next err ds) (key : TokenBucketKey) :
    (bucketAt next.buckets key).active = (bucketAt lim.buckets key).active - hold.holding key ∧ err ≠ some .reservationState := by
  have stateless : ∀ actual, foundError lim.buckets hold usage actual ≠ some .reservationState := by
    intro actual
    rcases found_error_cases usage actual hit with clear | overflow
    · rw [clear.1, verdictOn]
      split <;> simp
    · simp [overflow]
  rw [holding_open undone]
  cases out with
  | idle free => exact ⟨by simp [unbound_empty ok free], stateless false⟩
  | settled _ _ _ _ stored =>
    refine ⟨(active_discard _ _ _).trans (settled_active stored (hit key)), ?_⟩
    split
    · simp
    · exact stateless actual

theorem adjust_active {ticket used : TokenAdjustmentTicket} {actual : Int} (out : Reconciled lim read ticket actual next used)
    (key : TokenBucketKey) : (bucketAt next.buckets key).active = (bucketAt lim.buckets key).active := by
  cases out with
  | moved _ _ _ _ _ _ stored =>
    refine (active_discard _ _ _).trans ?_
    unfold bucketAt
    rw [stored key]
    by_cases mem : key ∈ ticket.buckets
    · cases has : lim.buckets.lookup key with
      | none => simp
      | some => simp [mem, retained_value, adjustedBucket]
    · simp [mem]
  | _ => rfl

theorem load_active (now : Int) (rows : List CommittedTokenBucket) (bins : TokenBuckets) (key : TokenBucketKey) :
    (bucketAt (loadRows now rows bins).1 key).active = (bucketAt bins key).active := by
  unfold bucketAt
  rcases load_rows_lookup now rows bins key with same | ⟨gone, _, _, _, _, _, filled⟩
  · rw [same]
  · simp [gone, filled]

end Actives

section Steps

variable {sys : TokenSystem}

theorem balanced_ticket {i : Nat} {hold : TokenReservation} {new : TokenAdjustmentTicket} (even : Balanced sys)
    (has : sys.reservations[i]? = some hold) (lim : TokenLimiter)
    (same : ∀ key, (bucketAt lim.buckets key).active = (bucketAt sys.limiter.buckets key).active)
    (ok : ({ sys with limiter := lim, reservations := sys.reservations.set i (hold.withTicket new) } : TokenSystem).Sound) :
    Balanced { sys with limiter := lim, reservations := sys.reservations.set i (hold.withTicket new) } where
  sound := ok
  active key := by
    have change := held_set has lim (hold.withTicket new) key
    rw [holding_with_ticket] at change
    rw [same key, even.active key]
    omega
  stateless := Roster.forall_set _ _ _ even.stateless (even.stateless hold (List.mem_of_getElem? has))

theorem step_balanced {next : TokenSystem} {call : Call} {rep : Reply} (even : Balanced sys)
    (ran : step sys call = some (next, rep)) : Balanced next := by
  have ok := step_sound even.sound ran
  cases step_outcome even.sound ran with
  | quiet _ _ _ out =>
    refine ⟨ok, ?_, ?_⟩
    · intro key
      cases out with
      | still _ _ same => exact same ▸ even.active key
      | swept => exact (active_discard _ _ _).trans (even.active key)
    · cases out <;> exact even.stateless
  | loaded _ _ _ _ stored =>
    refine ⟨ok, ?_, even.stateless⟩
    intro key
    rw [stored, load_active]
    exact even.active key
  | reserved _ _ _ _ _ _ out =>
    refine ⟨ok, ?_, Roster.forall_append _ _ even.stateless ?_⟩
    · intro key
      rw [held_append, (reserve_active out key).1, even.active key]
    · have blank := (reserve_active out ⟨"", ⟨0, 0⟩, 0⟩).2
      simp [blank]
  | finalized _ _ term hold has undone lim err _ out =>
    have mem := List.mem_of_getElem? has
    have paid := finalize_active (even.sound hold mem) undone (fun key cov => held_bucket_present even mem undone cov) out
    refine ⟨ok, ?_, Roster.forall_set _ _ _ even.stateless (paid ⟨"", ⟨0, 0⟩, 0⟩).2⟩
    intro key
    have change := held_set has lim (hold.close term err) key
    rw [holding_close] at change
    rw [(paid key).1, even.active key]
    omega
  | finalizedAgain => exact even
  | ticketed _ _ _ _ lim _ _ has _ use =>
    refine balanced_ticket even has lim ?_ ok
    cases use with
    | adjusted _ _ _ _ out => exact adjust_active out
    | notified | invalidated => exact fun _ => rfl

theorem new_token_system_balanced : Balanced newTokenSystem :=
  ⟨new_token_system_sound, fun _ => rfl, fun _ mem => by cases mem⟩

theorem balanced_run {cs : List Call} {outs : List Reply} (run : execute step newTokenSystem cs = some (sys, outs)) : Balanced sys := by
  exact run_invariant Balanced (fun _ _ _ _ balanced _ transition => step_balanced balanced transition) new_token_system_balanced along_always run

end Steps

-- Every reachable state accounts for its open reservations exactly, so the
-- validation pass of finalize never reports the reservation state.
theorem token_reservations_conserved {system : TokenSystem} {calls : List Call} {replies : List Reply}
    (run : Transition.execute step newTokenSystem calls = some (system, replies)) :
    (∀ key bucket, system.limiter.buckets.lookup key = some bucket → bucket.active = system.held key) ∧
      (∀ reservation ∈ system.reservations, reservation.finalized = false → ∀ key ∈ reservation.buckets,
        ∃ bucket, system.limiter.buckets.lookup key = some bucket) ∧
      (∀ reservation ∈ system.reservations, reservation.finalized = false → ∀ usage,
        settlementCheck system.limiter.buckets reservation.amount usage reservation.buckets ≠ some .reservationState) ∧
      ∀ reservation ∈ system.reservations, reservation.finalErr ≠ some .reservationState := by
  have even := balanced_run run
  refine ⟨?_, ?_, ?_, even.stateless⟩
  · intro key bucket has
    have total := even.active key
    rwa [bucketAt, has] at total
  · intro reservation mem undone key cov
    obtain ⟨bucket, has, _⟩ := held_bucket_present even mem undone cov
    exact ⟨bucket, has⟩
  · intro reservation mem undone usage
    rcases settlement_check_cases usage (fun key cov => held_bucket_present even mem undone cov) with clear | overflow
    · simp [clear.1]
    · simp [overflow]

def crossingRun : List Call :=
  [.reserve 0 "key" [⟨100, 60000000000⟩, ⟨50, 1000000000⟩] 10, .reserve 0 "key" [⟨100, 60000000000⟩, ⟨50, 1000000000⟩] 20,
    .reserve 2000000000 "key" [⟨100, 60000000000⟩, ⟨50, 1000000000⟩] 5, .finalize 0 1000000000 (.commit 12), .len 1000000000]

theorem token_reservations_conserved_crossing : ∃ system replies, Transition.execute step newTokenSystem crossingRun = some (system, replies) ∧
      (∀ key bucket, system.limiter.buckets.lookup key = some bucket → bucket.active = system.held key) ∧
      system.held ⟨"key", ⟨50, 1000000000⟩, 0⟩ = 20 ∧ system.held ⟨"key", ⟨100, 60000000000⟩, 0⟩ = 25 :=
  ⟨_, _, Transition.execute_get (by decide), (token_reservations_conserved (Transition.execute_get (by decide))).1, by decide, by decide⟩

end NineGateway.Token
