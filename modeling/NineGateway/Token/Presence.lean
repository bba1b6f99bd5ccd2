import NineGateway.Token.Ledger

set_option autoImplicit false

namespace NineGateway.Token

def TokenBucket.Busy (bin : TokenBucket) : Prop := 0 < bin.committed ∨ 0 < bin.active

def TokenSystem.Busy (sys : TokenSystem) (key : TokenBucketKey) : Prop :=
  ∃ bin, sys.limiter.buckets.lookup key = some bin ∧ bin.Busy

def TokenSystem.Captured (sys : TokenSystem) (key : TokenBucketKey) : Prop :=
  ∃ hold ∈ sys.reservations, key ∈ hold.buckets

def TokenBucket.Nonnegative (bin : TokenBucket) : Prop := 0 ≤ bin.committed ∧ 0 ≤ bin.active

structure Attended (sys : TokenSystem) : Prop where
  sound : sys.Sound
  nonnegative : ∀ key bin, sys.limiter.buckets.lookup key = some bin → bin.Nonnegative
  untouched : ∀ key bin, sys.limiter.buckets.lookup key = some bin → sys.Captured key → bin.Busy

def TokenReservation.owing (reservation : TokenReservation) : List CommittedTokenDelta :=
  (reservation.ticket.map (fun ticket => (deliver ticket).2)).getD []

def TokenSystem.owing (system : TokenSystem) : List CommittedTokenDelta := system.reservations.flatMap TokenReservation.owing

open TokenReservation

section Buckets

variable {sys : TokenSystem} {key : TokenBucketKey} {bin alt : TokenBucket}

theorem retained_busy (nonneg : bin.Nonnegative) (kept : retained bin = some alt) : alt.Nonnegative ∧ alt.Busy := by
  obtain rfl := retained_some kept
  refine ⟨nonneg, ?_⟩
  obtain ⟨committed, active⟩ := nonneg
  unfold retained at kept
  split at kept
  · cases kept
  · unfold TokenBucket.Busy
    omega

theorem settled_nonnegative {amt settle : Int} (nonneg : bin.Nonnegative) : (settledBucket amt settle bin).Nonnegative := by
  obtain ⟨committed, active⟩ := nonneg
  constructor
  · unfold settledBucket
    cases added : checkedNonNegativeAdd bin.committed settle with
    | none => exact committed
    | some =>
      obtain ⟨_, charge, rfl, _⟩ := nonnegative_add_some added
      simp only [Option.getD_some]
      omega
  · simp only [settledBucket]
    split <;> omega

theorem captured_busy (attended : Attended sys) (caught : sys.Captured key)
    (has : (sys.limiter.buckets.lookup key).isSome = true) : sys.Busy key := by
  obtain ⟨bin, hit⟩ := Option.isSome_iff_exists.mp has
  exact ⟨bin, hit, attended.untouched key bin hit caught⟩

end Buckets

-- Where a bucket that is there after a step without loads comes from: it was
-- there already, a reservation that had captured it has changed it, or one under
-- the policy of its key has entered it.
inductive BucketOrigin (sys next : TokenSystem) (key : TokenBucketKey) (bin : TokenBucket) : Prop where
  | kept (pre : sys.limiter.buckets.lookup key = some bin) (caught : next.Captured key → sys.Captured key)
  | used (pre : sys.Busy key) (nonneg : bin.Nonnegative) (busy : bin.Busy)
  | entered (free : sys.replacing = none) (nonneg : bin.Nonnegative) (busy : bin.Busy)
      (shown : ∀ configured, sys.limiter.policyWindows.lookup key.keyID = some configured → key.window ∈ configured)

variable {hold : TokenReservation} {lim : TokenLimiter}

theorem reserve_listed {read amt : Int} {keyID : String} {wins : List TokenWindow} {next : TokenLimiter}
    (out : ReserveOutcome lim read keyID wins amt next (.ok hold)) (key : TokenBucketKey) (mem : key ∈ hold.buckets) :
    waitsForPolicy wins amt = true ∧ ∀ configured, lim.policyWindows.lookup key.keyID = some configured → key.window ∈ configured := by
  cases out with
  | unlimited => cases mem
  | admitted _ _ _ _ _ _ _ _ _ checks norm normal shape =>
    subst shape
    obtain ⟨win, inside, rfl⟩ := List.mem_map.mp mem
    simp only [TokenLimiter.considers, normal, Option.any_some, Bool.and_eq_true, Bool.not_eq_true'] at checks
    obtain ⟨waits, cur⟩ := checks
    refine ⟨waits, fun configured noted => ?_⟩
    simp only [stalePolicy, show lim.policyWindows.lookup keyID = some configured from noted, Bool.not_eq_false', sameTokenWindowSet,
      Bool.and_eq_true, List.all_eq_true, decide_eq_true_eq] at cur
    exact cur.2 win inside

section Steps

variable {sys next : TokenSystem} {call : Call} {rep : Reply} {key : TokenBucketKey} {bin : TokenBucket}

variable {hold : TokenReservation} {d : CommittedTokenDelta} {lim : TokenLimiter} {ticket : TokenAdjustmentTicket}
variable {i : Nat}

theorem captured_set (has : sys.reservations[i]? = some hold) (lim : TokenLimiter) (new : TokenReservation) (same : new.buckets = hold.buckets)
    (caught : ({ sys with limiter := lim, reservations := sys.reservations.set i new } : TokenSystem).Captured key) :
    sys.Captured key := by
  obtain ⟨entry, mem, cov⟩ := caught
  rcases List.mem_or_eq_of_mem_set mem with old | rfl
  · exact ⟨entry, old, cov⟩
  · exact ⟨hold, List.mem_of_getElem? has, same ▸ cov⟩

theorem changed_origin (attended : Attended sys) {change : TokenBucket → TokenBucket} {keys : List TokenBucketKey} {new : TokenBuckets}
    (stored : ∀ q, new.lookup q =
      if q ∈ keys then (sys.limiter.buckets.lookup q).bind (fun bin => retained (change bin)) else sys.limiter.buckets.lookup q)
    (cov : ∀ q ∈ keys, sys.Captured q) (nonneg : ∀ q ∈ keys, ∀ bin, sys.limiter.buckets.lookup q = some bin → (change bin).Nonnegative)
    (caught : next.Captured key → sys.Captured key) (there : new.lookup key = some bin) : BucketOrigin sys next key bin := by
  rw [stored key] at there
  split at there
  · rename_i mem
    obtain ⟨pre, hit, kept⟩ := Option.bind_eq_some_iff.mp there
    obtain ⟨sign, busy⟩ := retained_busy (nonneg key mem pre hit) kept
    exact .used (captured_busy attended (cov key mem) (by simp [hit])) sign busy
  · exact .kept there caught

theorem reserve_origin {read amt : Int} {keyID : String} {wins : List TokenWindow}
    (waited : (sys.replacing.isSome && waitsForPolicy wins amt) = false) (out : ReserveOutcome sys.limiter read keyID wins amt lim (.ok hold))
    (there : lim.buckets.lookup key = some bin) :
    BucketOrigin sys { sys with limiter := lim, reservations := sys.reservations ++ [hold] } key bin := by
  have shown := reserve_listed out
  have past : key ∉ hold.buckets → ({ sys with limiter := lim, reservations := sys.reservations ++ [hold] } :
      TokenSystem).Captured key → sys.Captured key := by
    rintro foreign ⟨entry, mem, cov⟩
    rcases List.mem_append.mp mem with old | new
    · exact ⟨entry, old, cov⟩
    · rw [List.mem_singleton.mp new] at cov
      exact absurd cov foreign
  cases out with
  | unlimited => exact .kept there (past (by simp [newTokenReservation]))
  | admitted pos keys new order diff busy fits entered =>
    rw [entered key] at there
    split at there
    · rename_i mem
      obtain ⟨win, inside, rfl⟩ := List.mem_map.mp (order.mem_iff.mp mem)
      obtain ⟨waits, configured⟩ := shown _ mem
      have free : sys.replacing = none := by simpa [waits] using waited
      have room := fits win inside
      cases there
      have committed := room.committed
      have active := room.active
      refine .entered free ⟨committed, ?_⟩ (.inr ?_) configured
      · simp only
        omega
      · simp only
        omega
    · rename_i foreign
      exact .kept (lookup_discard_some there) (past foreign)

theorem bucket_origin (attended : Attended sys) (serving : call.loads = false) (ran : step sys call = some (next, rep))
    (there : next.limiter.buckets.lookup key = some bin) : BucketOrigin sys next key bin := by
  cases step_outcome attended.sound ran with
  | quiet _ _ _ out =>
    cases out with
    | still _ _ same => exact .kept (same ▸ there) id
    | swept => exact .kept (lookup_discard_some there) id
  | loaded => cases serving
  | reserved _ _ _ _ _ _ out free => exact reserve_origin free out there
  | finalized i _ term hold has new lim err _ out =>
    have caught : ∀ lim, ({ sys with limiter := lim, reservations := sys.reservations.set i (hold.close term err) } :
        TokenSystem).Captured key → sys.Captured key := fun lim => captured_set has lim _ rfl
    cases out with
    | idle => exact .kept there (caught _)
    | settled _ _ _ _ stored =>
      refine changed_origin attended stored (fun q mem => ⟨hold, List.mem_of_getElem? has, mem⟩) (fun q mem pre hit => ?_)
        (caught _) (lookup_discard_some there)
      exact settled_nonnegative (attended.nonnegative q pre hit)
  | finalizedAgain => exact .kept there id
  | ticketed _ i hold ticket _ used _ has issued use =>
    have caught : ∀ lim, ({ sys with limiter := lim, reservations := sys.reservations.set i (hold.withTicket used) } :
        TokenSystem).Captured key → sys.Captured key := fun lim => captured_set has lim _ rfl
    cases use with
    | notified | invalidated => exact .kept there (caught _)
    | adjusted _ _ _ _ out =>
      cases out with
      | again | negative | idle | refused => exact .kept there (caught _)
      | moved unused _ _ _ _ checked stored =>
        have issuedFor := ((attended.sound hold (List.mem_of_getElem? has)).ticketIssued ticket issued unused).1
        refine changed_origin attended stored (fun q mem => ⟨hold, List.mem_of_getElem? has, issuedFor ▸ mem⟩)
          (fun q mem pre hit => ?_) (caught _) (lookup_discard_some there)
        obtain ⟨committed, active⟩ := attended.nonnegative q pre hit
        obtain ⟨growing, shrinking⟩ := adjust_check_none checked mem hit
        refine ⟨?_, active⟩
        simp only [adjustedBucket]
        omega

theorem attended_step (attended : Attended sys) (serving : call.loads = false) (ran : step sys call = some (next, rep)) : Attended next := by
  refine ⟨step_sound attended.sound ran, fun key bin there => ?_, fun key bin there caught => ?_⟩
  · cases bucket_origin attended serving ran there with
    | kept pre => exact attended.nonnegative key bin pre
    | used _ nonneg | entered _ nonneg => exact nonneg
  · cases bucket_origin attended serving ran there with
    | kept pre past => exact attended.untouched key bin pre (past caught)
    | used _ _ busy | entered _ _ busy => exact busy

theorem busy_step (attended : Attended sys) (serving : call.loads = false) (ran : step sys call = some (next, rep))
    (busy : next.Busy key) : sys.Busy key ∨
      sys.replacing = none ∧ ∀ configured, sys.limiter.policyWindows.lookup key.keyID = some configured → key.window ∈ configured := by
  obtain ⟨bin, there, full⟩ := busy
  cases bucket_origin attended serving ran there with
  | kept pre => exact .inl ⟨bin, pre, full⟩
  | used pre => exact .inl pre
  | entered free _ _ shown => exact .inr ⟨free, shown⟩

theorem owing_set {new : TokenReservation}
    (mem : d ∈ ({ sys with limiter := lim, reservations := sys.reservations.set i new } : TokenSystem).owing) :
    d ∈ sys.owing ∨ d ∈ new.owing := by
  obtain ⟨entry, there, waiting⟩ := List.mem_flatMap.mp mem
  rcases List.mem_or_eq_of_mem_set there with old | rfl
  · exact .inl (List.mem_flatMap.mpr ⟨entry, old, waiting⟩)
  · exact .inr waiting

theorem owing_of_ticket (mem : hold ∈ sys.reservations) (issued : hold.ticket = some ticket) (waiting : d ∈ (deliver ticket).2) :
    d ∈ sys.owing :=
  List.mem_flatMap.mpr ⟨hold, mem, by simpa [owing, issued] using waiting⟩

theorem deliver_congr {left right : TokenAdjustmentTicket} (notified : left.notified = right.notified) (sink : left.sink = right.sink)
    (ds : left.deltas = right.deltas) : (deliver left).2 = (deliver right).2 := by
  unfold deliver
  rw [notified, sink, ds]
  split <;> rfl

theorem deliver_spend (ticket : TokenAdjustmentTicket) (err : Option TokenError) : (deliver (ticket.spend err)).2 = (deliver ticket).2 :=
  deliver_congr rfl rfl rfl

theorem deliver_invalidate (ticket : TokenAdjustmentTicket) : (deliver (invalidate ticket)).2 = (deliver ticket).2 := by
  unfold invalidate
  split
  · rfl
  · exact deliver_congr rfl rfl rfl

theorem adjust_owing {read actual : Int} {after : TokenLimiter} {used : TokenAdjustmentTicket}
    (out : Reconciled lim read ticket actual after used) (waiting : d ∈ (deliver used).2) :
    d ∈ (deliver ticket).2 ∨ ticket.consumed = false ∧ deltaKey d ∈ ticket.buckets ∧ (lim.buckets.lookup (deltaKey d)).isSome = true := by
  cases out with
  | again => exact .inl waiting
  | negative | idle | refused => exact .inl (deliver_spend ticket _ ▸ waiting)
  | moved unused =>
    unfold deliver at waiting
    split at waiting
    · cases waiting
    · exact .inr ⟨unused, mem_emissions waiting⟩

theorem deltas_step (attended : Attended sys) (ran : step sys call = some (next, rep)) (d : CommittedTokenDelta)
    (mem : d ∈ rep.deltas ++ next.owing) : d ∈ sys.owing ∨ sys.Busy (deltaKey d) := by
  cases step_outcome attended.sound ran with
  | quiet _ _ _ out => cases out <;> exact .inl mem
  | loaded | finalizedAgain => exact .inl mem
  | reserved _ _ _ _ _ hold out =>
    have silent : hold.owing = [] := by cases out <;> rfl
    simp only [quietly, List.nil_append, TokenSystem.owing, List.flatMap_append, List.flatMap_cons, silent, List.flatMap_nil, List.append_nil] at mem
    exact .inl mem
  | finalized _ _ term hold has _ _ err _ out =>
    have silent : (hold.close term err).owing = [] := by cases term <;> rfl
    rcases List.mem_append.mp mem with emitted | waiting
    · cases out with
      | idle => cases emitted
      | settled =>
        obtain ⟨cov, hit⟩ := mem_emissions emitted
        exact .inr (captured_busy attended ⟨hold, List.mem_of_getElem? has, cov⟩ hit)
    · exact (owing_set waiting).imp_right (fun absurd => by simp [silent] at absurd)
  | ticketed _ _ hold ticket _ used _ has issued use =>
    have there := List.mem_of_getElem? has
    have waits : d ∈ rep.deltas ++ (deliver used).2 → d ∈ sys.owing ∨ sys.Busy (deltaKey d) := by
      intro new
      cases use with
      | adjusted _ _ _ _ out =>
        rcases adjust_owing out new with before | ⟨unused, cov, hit⟩
        · exact .inl (owing_of_ticket there issued before)
        · rw [((attended.sound hold there).ticketIssued ticket issued unused).1] at cov
          exact .inr (captured_busy attended ⟨hold, there, cov⟩ hit)
      | notified =>
        refine .inl (owing_of_ticket there issued ?_)
        unfold deliver at new ⊢
        split at new <;> simp_all
      | invalidated => exact .inl (owing_of_ticket there issued (deliver_invalidate ticket ▸ new))
    rcases List.mem_append.mp mem with emitted | waiting
    · exact waits (List.mem_append_left _ emitted)
    · rcases owing_set waiting with old | new
      · exact .inl old
      · exact waits (List.mem_append_right _ new)

end Steps

end NineGateway.Token
