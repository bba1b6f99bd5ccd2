import NineGateway.Token.Conservation

set_option autoImplicit false

namespace NineGateway.Token

open Word64

def deltaKey (delta : CommittedTokenDelta) : TokenBucketKey := ⟨delta.keyID, delta.window, delta.bucketStart⟩

def flow (deltas : List CommittedTokenDelta) (key : TokenBucketKey) : Int :=
  Roster.total (fun delta => if deltaKey delta = key then delta.committedDelta else 0) deltas

section Flow

variable {bins : TokenBuckets} {keys : List TokenBucketKey} {amt : Int}

@[simp] theorem flow_nil (key : TokenBucketKey) : flow [] key = 0 := rfl

@[simp] theorem flow_append (left right : List CommittedTokenDelta) (key : TokenBucketKey) :
    flow (left ++ right) key = flow left key + flow right key := by
  simp [flow, Roster.total]

theorem flow_emit (key q : TokenBucketKey) (amt : Int) : flow (emitDelta key amt) q = if q = key then amt else 0 := by
  unfold emitDelta
  split
  · rename_i zero
    simp [zero]
  have named : deltaKey (committedTokenDelta key amt) = key := rfl
  simp only [flow, Roster.total, List.map_cons, List.map_nil, List.sum_cons, List.sum_nil, Int.add_zero, named]
  by_cases same : q = key
  · simp [same, committedTokenDelta]
  · rw [if_neg (fun alt => same alt.symm), if_neg same]

variable {d : CommittedTokenDelta}

theorem mem_emit {key : TokenBucketKey} (mem : d ∈ emitDelta key amt) : deltaKey d = key := by
  unfold emitDelta at mem
  split at mem
  · cases mem
  · rw [List.mem_singleton.mp mem]
    rfl

theorem mem_emissions (mem : d ∈ emissions bins keys amt) : deltaKey d ∈ keys ∧ (bins.lookup (deltaKey d)).isSome = true := by
  obtain ⟨key, shown, emitted⟩ := List.mem_flatMap.mp mem
  split at emitted
  · rename_i has
    rw [mem_emit emitted]
    exact ⟨shown, has⟩
  · cases emitted

theorem flow_emissions (diff : keys.Nodup) (q : TokenBucketKey) :
    flow (emissions bins keys amt) q = if q ∈ keys ∧ (bins.lookup q).isSome then amt else 0 := by
  induction keys with
  | nil => simp [emissions]
  | cons key rest ih =>
    obtain ⟨apart, others⟩ := List.nodup_cons.mp diff
    have split : emissions bins (key :: rest) amt =
        (if (bins.lookup key).isSome then emitDelta key amt else []) ++ emissions bins rest amt := rfl
    rw [split, flow_append, ih others]
    by_cases same : q = key
    · subst q
      by_cases has : (bins.lookup key).isSome
      · simp [has, flow_emit, apart]
      · simp [has]
    · by_cases has : (bins.lookup key).isSome
      · simp [has, flow_emit, same]
      · simp [has, same]

theorem emissions_congr {alt : TokenBuckets} (same : ∀ key ∈ keys, (bins.lookup key).isSome = (alt.lookup key).isSome) :
    emissions bins keys amt = emissions alt keys amt := by
  exact List.flatMap_congr (fun key mem => by rw [same key mem])

end Flow

variable {keys : List TokenBucketKey}

def chargeFor (amt usage : Int) : Int := if usage < 0 then amt else usage

inductive ChargeOutcome (lim : TokenLimiter) (read : Int) (hold : TokenReservation) (charge : Int) :
    TokenLimiter → List CommittedTokenDelta → Prop where
  | idle (empty : hold.buckets = []) : ChargeOutcome lim read hold charge lim []
  | charged (busy : hold.buckets ≠ []) (new) (stored : ∀ q, new.lookup q = if q ∈ hold.buckets then
          (lim.buckets.lookup q).bind (fun bin => retained ⟨bin.committed + charge, bin.active - hold.amount⟩) else lim.buckets.lookup q) :
      ChargeOutcome lim read hold charge (TokenLimiter.cleaned { lim with buckets := new } read) (emissions lim.buckets hold.buckets charge)

section Settling

variable {lim next : TokenLimiter} {read usage : Int} {hold : TokenReservation} {actual : Bool} {err : Option TokenError}
variable {ds : List CommittedTokenDelta}

theorem finalize_charges (ok : hold.Sound) (hit : ∀ key ∈ hold.buckets, ∃ bin, lim.buckets.lookup key = some bin ∧ hold.amount ≤ bin.active)
    (out : FinalizeOutcome lim read hold usage actual next err ds) (fits : err ≠ some .accountingOverflow) :
    ChargeOutcome lim read hold (chargeFor hold.amount usage) next ds ∧ err = verdictOn usage := by
  cases out with
  | idle free => exact ⟨.idle (unbound_empty ok free), rfl⟩
  | settled busy new settle charge stored =>
    split at fits
    · contradiction
    rename_i fitted
    rcases found_error_cases usage actual hit with ⟨clear, _⟩ | overflow
    · rw [if_neg fitted]
      refine ⟨?_, clear⟩
      have due : settle = chargeFor hold.amount usage := by
        rw [charge, clear, verdictOn, chargeFor]
        split <;> rfl
      rw [← due]
      refine .charged busy new (fun q => ?_)
      rw [stored q]
      by_cases mem : q ∈ hold.buckets
      · obtain ⟨bin, has, enough⟩ := hit q mem
        have held : spoils lim.buckets settle q = false := by simp_all
        obtain ⟨sum, added⟩ := Option.isSome_iff_exists.mp (by simpa [spoils, has] using held)
        simp [mem, has, settledBucket, added, Int.not_lt.mpr enough, (nonnegative_add_some added).2.2.1]
      · simp [mem]
    · exact absurd overflow fits

theorem overflow_charges (ok : hold.Sound) (hit : ∀ key ∈ hold.buckets, ∃ bin, lim.buckets.lookup key = some bin ∧ hold.amount ≤ bin.active)
    (out : FinalizeOutcome lim read hold usage true next err ds) (spoiled : err = some .accountingOverflow) {key : TokenBucketKey}
    (cov : key ∈ hold.buckets) {bin : TokenBucket} (has : lim.buckets.lookup key = some bin) :
    (∀ later, next.buckets.lookup key = some later → later.committed = (checkedNonNegativeAdd bin.committed hold.amount).getD bin.committed) ∧
      flow ds key = hold.amount := by
  cases out with
  | idle =>
    simp only [foundError] at spoiled
    split at spoiled <;> simp at spoiled
  | settled _ new settle charge stored =>
    have due : settle = hold.amount := by
      rw [charge, if_neg]
      intro clear
      rcases found_error_cases usage true hit with ⟨_, fitted⟩ | overflow
      · rw [if_pos clear] at charge
        have nonneg : 0 ≤ usage := by
          by_contra negative
          simp [foundError, Int.not_le.mp negative] at clear
        simp [charge, fitted rfl nonneg, clear] at spoiled
      · simp [overflow] at clear
    subst due
    refine ⟨fun later present => ?_, by simp [flow_emissions ok.distinct, cov, has]⟩
    have kept := lookup_discard_some present
    rw [stored key, if_pos cov, has] at kept
    rw [retained_some kept, settledBucket]

end Settling

-- A settlement that overflows charges the reserved amount where it fits. Where it
-- does not, the bucket keeps its charge and the reserved amount is emitted all the same.
theorem token_overflow_settlement {system next : TokenSystem} {calls : List Call} {replies : List Reply} {index : Nat} {reading actual : Int}
    {reservation : TokenReservation} {reply : Reply} (run : Transition.execute step newTokenSystem calls = some (system, replies))
    (held : system.reservations[index]? = some reservation) (new : reservation.finalized = false)
    (ran : step system (.finalize index reading (.commit actual)) = some (next, reply))
    (overflow : reply.answer = .settled (some .accountingOverflow)) :
    ∀ key ∈ reservation.buckets, ∃ bucket, system.limiter.buckets.lookup key = some bucket ∧
      (bucketAt next.limiter.buckets key).active = bucket.active - reservation.amount ∧
      (∀ after, next.limiter.buckets.lookup key = some after →
        after.committed = (checkedNonNegativeAdd bucket.committed reservation.amount).getD bucket.committed) ∧
      (flow reply.deltas key = (checkedNonNegativeAdd bucket.committed reservation.amount).getD bucket.committed - bucket.committed ↔
        (checkedNonNegativeAdd bucket.committed reservation.amount).isSome = true) := by
  intro key cov
  have even := balanced_run run
  have mem := List.mem_of_getElem? held
  have ok := even.sound reservation mem
  have hit := fun key (cov : key ∈ reservation.buckets) => held_bucket_present even mem new cov
  simp only [step, held, finalizeOnce, new, Bool.false_eq_true, if_false] at ran
  cases ran
  have out := finalize_outcome system.limiter reading actual true ok.distinct
  obtain ⟨bucket, has, _⟩ := hit key cov
  obtain ⟨charged, emitted⟩ := overflow_charges ok hit out (Answer.settled.inj overflow) cov has
  have freed := (finalize_active ok new hit out key).1
  rw [holding_open new, if_pos cov, bucketAt, bucketAt, has] at freed
  refine ⟨bucket, has, freed, charged, ?_⟩
  change flow (finalize system.limiter reading reservation actual true).2.2 key = _ ↔ _
  have pos := ok.positive
  rw [emitted]
  cases added : checkedNonNegativeAdd bucket.committed reservation.amount with
  | none =>
    simp only [Option.getD_none, Option.isSome_none, Bool.false_eq_true, iff_false]
    omega
  | some sum =>
    have spec := (nonnegative_add_some added).2.2.1
    simp only [Option.getD_some, Option.isSome_some, iff_true]
    omega

def heavyRun (usage : Int) : List Call :=
  [.reserve 0 "key" [⟨100, 60000000000⟩] 10, .reserve 0 "key" [⟨100, 60000000000⟩] 5, .finalize 0 0 (.commit usage)]

def heavyBucket : TokenBucketKey := ⟨"key", ⟨100, 60000000000⟩, 0⟩

theorem token_overflow_settlement_fitting : ∃ system replies next reply,
    Transition.execute step newTokenSystem (heavyRun 9223372036854775790) = some (system, replies) ∧
      step system (.finalize 1 0 (.commit 100)) = some (next, reply) ∧
      ∃ bucket, system.limiter.buckets.lookup heavyBucket = some bucket ∧ (bucketAt next.limiter.buckets heavyBucket).active = bucket.active - 5 := by
  refine ⟨_, _, _, _, Transition.execute_get (by decide), Transition.outcome_get (by decide), ?_⟩
  have run := Transition.execute_get (show (Transition.execute step newTokenSystem (heavyRun 9223372036854775790)).isSome = true by decide)
  obtain ⟨bucket, has, freed, _⟩ := token_overflow_settlement run rfl rfl
    (show step _ (.finalize 1 0 (.commit 100)) = some _ from Transition.outcome_get (by decide)) (by decide) heavyBucket (by decide)
  exact ⟨bucket, has, freed⟩

theorem token_overflow_uncharged_delta : ∃ system replies next reply,
    Transition.execute step newTokenSystem (heavyRun Word64.maxInt64) = some (system, replies) ∧
      step system (.finalize 1 0 (.commit 5)) = some (next, reply) ∧ reply.answer = .settled (some .accountingOverflow) ∧
      system.limiter.buckets.lookup heavyBucket = some ⟨Word64.maxInt64, 5⟩ ∧
      next.limiter.buckets.lookup heavyBucket = some ⟨Word64.maxInt64, 0⟩ ∧ flow reply.deltas heavyBucket = 5 :=
  ⟨_, _, _, _, Transition.execute_get (by decide), Transition.outcome_get (by decide), by decide, by decide, by decide, by decide⟩

section Expiry

variable {now later : Int} {key : TokenBucketKey}

variable {dur start : Int}

theorem reset_lower {reset : Int} (good : checkedWindowReset start dur = some reset) : minInt64 ≤ reset :=
  signed_add_lower (wrap_lower start) good

theorem expired_started (past : expired now key = true) : now ≠ zeroTime := by
  unfold expired at past
  cases ended : checkedWindowReset key.start key.window.duration with
  | none => simp [ended] at past
  | some =>
    have lower := reset_lower ended
    simp only [ended, decide_eq_true_eq] at past
    unfold minInt64 at lower
    unfold zeroTime
    omega

theorem expired_mono (past : expired now key = true) (order : now ≤ later) : expired later key = true := by
  unfold expired at past ⊢
  cases ended : checkedWindowReset key.start key.window.duration with
  | none => simp [ended] at past
  | some =>
    simp only [ended, decide_eq_true_eq] at past ⊢
    omega

theorem expired_clamp (read : Int) (past : expired now key = true) : expired (clampTime now read) key = true :=
  expired_mono past (clamp_time_ge now read (expired_started past))

end Expiry

end NineGateway.Token
