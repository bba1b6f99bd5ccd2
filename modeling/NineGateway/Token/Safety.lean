import NineGateway.Token.Conservation
import Mathlib.Order.Bounds.Basic

set_option autoImplicit false

namespace NineGateway.Token

open Word64 Transition

-- Calls that settle or adjust no more than was reserved and load no row above
-- its window.
def temperate (system : TokenSystem) : Call → Bool
  | .loadCommitted now rows =>
    rows.all (fun row => malformed row || outlived now row || decide (row.committedTokens ≤ row.window.amount))
  | .finalize index _ (.commit actual) =>
    (system.reservations[index]?).all (fun reservation => reservation.finalized || decide (actual ≤ reservation.amount))
  | .adjust index _ actual =>
    (system.reservations[index]?).all (fun reservation =>
      reservation.ticket.all TokenAdjustmentTicket.consumed || decide (actual ≤ reservation.amount))
  | _ => true

def Bounded (bins : TokenBuckets) : Prop :=
  ∀ key bin, bins.lookup key = some bin → bin.committed + bin.active ≤ key.window.amount

theorem bounded_discard {bins : TokenBuckets} (bound : Bounded bins) (now : Int) : Bounded (discardExpired now bins) :=
  fun key bin kept => bound key bin (lookup_discard_some kept)

theorem retained_bounded {hit : Option TokenBucket} {change : TokenBucket → TokenBucket} {limit : Int}
    (bound : ∀ bin, hit = some bin → (change bin).committed + (change bin).active ≤ limit) {bin : TokenBucket}
    (kept : (hit.bind (fun bin => retained (change bin))) = some bin) : bin.committed + bin.active ≤ limit := by
  obtain ⟨old, has, same⟩ := Option.bind_eq_some_iff.mp kept
  rw [retained_some same]
  exact bound old has

section Limiter

variable {lim next : TokenLimiter} {read : Int}

variable {hold : TokenReservation} {wins : List TokenWindow} {keyID : String} {amt : Int}

theorem admitted_within (out : ReserveOutcome lim read keyID wins amt next (.ok hold)) {win : TokenWindow} (mem : win ∈ wins) :
    ∃ bin, next.buckets.lookup (currentKey keyID (clampTime lim.lastNow read) win) = some bin ∧ bin.committed + bin.active ≤ win.amount := by
  cases out with
  | unlimited _ empty =>
    rw [empty] at mem
    cases mem
  | admitted _ _ _ order _ _ fits inside =>
    have shown := order.mem_iff.mpr (List.mem_map_of_mem mem)
    have room := (fits win mem).room
    exact ⟨_, (inside _).trans (if_pos shown), by simp only; omega⟩

theorem reserve_bounded (bound : Bounded lim.buckets) (out : ReserveOutcome lim read keyID wins amt next (.ok hold)) :
    Bounded next.buckets := by
  cases out with
  | unlimited => exact bound
  | admitted _ keys new order _ _ fits inside =>
    intro key bin has
    rw [inside key] at has
    split at has
    · rename_i shown
      obtain ⟨win, mem, rfl⟩ := List.mem_map.mp (order.mem_iff.mp shown)
      have room := (fits win mem).room
      cases has
      simp only [currentKey] at room ⊢
      omega
    · exact bounded_discard bound _ key bin has

theorem finalize_bounded {usage : Int} {actual : Bool} {err : Option TokenError} {ds : List CommittedTokenDelta} (bound : Bounded lim.buckets)
    (pos : 0 < hold.amount) (hit : ∀ key ∈ hold.buckets, ∃ bin, lim.buckets.lookup key = some bin ∧ hold.amount ≤ bin.active)
    (modest : usage ≤ hold.amount) (out : FinalizeOutcome lim read hold usage actual next err ds) : Bounded next.buckets := by
  cases out with
  | idle => exact bound
  | settled _ new settle charge stored =>
    have least : settle ≤ hold.amount := by
      rw [charge]
      split
      · exact modest
      · exact Int.le_refl _
    refine bounded_discard ?_ _
    intro key bin has
    rw [stored key] at has
    split at has
    · rename_i mem
      refine retained_bounded ?_ has
      intro old there
      obtain ⟨same, hit, enough⟩ := hit key mem
      obtain rfl := Option.some.inj (there.symm.trans hit)
      have within := bound key old there
      simp only [settledBucket, if_neg (Int.not_lt.mpr enough)]
      cases added : checkedNonNegativeAdd old.committed settle with
      | none =>
        simp only [Option.getD_none]
        omega
      | some =>
        have spec := (nonnegative_add_some added).2.2.1
        simp only [Option.getD_some]
        omega
    · exact bound key bin has

theorem adjust_bounded {ticket used : TokenAdjustmentTicket} {actual : Int} (bound : Bounded lim.buckets)
    (modest : ticket.consumed = false → actual ≤ ticket.reserved)
    (out : Reconciled lim read ticket actual next used) : Bounded next.buckets := by
  cases out with
  | again | negative | idle | refused => exact bound
  | moved unused _ _ _ _ _ stored =>
    refine bounded_discard ?_ _
    intro key bin has
    rw [stored key] at has
    split at has
    · refine retained_bounded ?_ has
      intro old there
      have within := bound key old there
      have lower := modest unused
      simp only [adjustedBucket]
      omega
    · exact bound key bin has

theorem load_bounded {bins : TokenBuckets} {now : Int} {rows : List CommittedTokenBucket} (bound : Bounded bins)
    (within : ∀ row ∈ rows, malformed row = false → outlived now row = false → row.committedTokens ≤ row.window.amount) :
    Bounded (loadRows now rows bins).1 := by
  intro key bin has
  rcases load_rows_lookup now rows bins key with same | ⟨_, row, mem, rfl, sane, running, filled⟩
  · exact bound key bin (same ▸ has)
  · have loaded := within row mem sane running
    rw [filled] at has
    cases has
    simpa [persistedKey] using loaded

end Limiter

section Runs

variable {sys next : TokenSystem} {call : Call} {rep : Reply}

variable {wins : List TokenWindow} {read : Int} {keyID : String} {amt : Int} {i : Nat}

theorem temperate_usage {term : Terminal} {hold : TokenReservation} (allowed : temperate sys (.finalize i read term) = true)
    (has : sys.reservations[i]? = some hold) (undone : hold.finalized = false) (pos : 0 < hold.amount) :
    term.usage hold.amount ≤ hold.amount := by
  cases term with
  | commit => simpa [temperate, has, undone, Terminal.usage] using allowed
  | abortConservative | commitDeferred => exact Int.le_refl _
  | releaseBeforeUpstream => exact Int.le_of_lt pos

theorem step_bounded (even : Balanced sys) (bound : Bounded sys.limiter.buckets) (allowed : temperate sys call = true)
    (ran : step sys call = some (next, rep)) : Bounded next.limiter.buckets := by
  cases step_outcome even.sound ran with
  | quiet _ _ _ out =>
    cases out with
    | still _ _ same => exact same ▸ bound
    | swept => exact bounded_discard bound _
  | loaded _ _ _ _ stored =>
    refine stored ▸ load_bounded bound ?_
    intro row mem sane running
    simpa [sane, running] using (List.all_eq_true.mp allowed) row mem
  | reserved _ _ _ _ _ _ out => exact reserve_bounded bound out
  | finalized _ _ _ hold has undone _ _ _ out =>
    have mem := List.mem_of_getElem? has
    have pos := (even.sound hold mem).positive
    exact finalize_bounded bound pos (fun key cov => held_bucket_present even mem undone cov) (temperate_usage allowed has undone pos) out
  | finalizedAgain => exact bound
  | ticketed _ _ hold ticket _ _ _ has issued use =>
    cases use with
    | notified | invalidated => exact bound
    | adjusted _ _ _ _ out =>
      refine adjust_bounded bound ?_ out
      intro unused
      rw [((even.sound hold (List.mem_of_getElem? has)).ticketIssued ticket issued unused).2]
      simpa [temperate, has, issued, unused] using allowed

theorem bounded_run {cs : List Call} {outs : List Reply} (run : execute step newTokenSystem cs = some (sys, outs))
    (along : Along step (fun sys call => temperate sys call = true) newTokenSystem cs) : Bounded sys.limiter.buckets := by
  have start : Balanced newTokenSystem ∧ Bounded newTokenSystem.limiter.buckets := by
    refine ⟨new_token_system_balanced, ?_⟩
    nofun
  refine (run_invariant (fun sys => Balanced sys ∧ Bounded sys.limiter.buckets) ?_ start along run).2
  intro st call after ans kept allowed ran
  exact ⟨step_balanced kept.1 ran, step_bounded kept.1 kept.2 allowed ran⟩

theorem reserve_step (ran : step sys (.reserve read keyID wins amt) = some (next, rep)) :
    ∃ lim res, ReserveOutcome sys.limiter read keyID wins amt lim res ∧ reserveStep sys (lim, res) = (next, rep) := by
  simp only [step] at ran
  split at ran
  · simp at ran
  · exact ⟨_, _, reserve_outcome sys.limiter read keyID wins amt, Option.some.inj ran⟩

theorem reserved_within (ran : step sys (.reserve read keyID wins amt) = some (next, rep)) (took : rep.answer = .reserved i) {win : TokenWindow}
    (mem : win ∈ wins) : ∃ bin, next.limiter.buckets.lookup (currentKey keyID (clampTime sys.limiter.lastNow read) win) = some bin ∧
      bin.committed + bin.active ≤ win.amount := by
  obtain ⟨_, res, out, stepped⟩ := reserve_step ran
  cases res with
  | error =>
    cases stepped
    cases took
  | ok =>
    cases stepped
    exact admitted_within out mem

theorem rejected_unchanged {amt resetAt : Int} (ran : step sys (.reserve read keyID wins amt) = some (next, rep))
    (denied : rep.answer = .rejected resetAt) {key : TokenBucketKey} (live : expired (clampTime sys.limiter.lastNow read) key = false) :
    next.limiter.buckets.lookup key = sys.limiter.buckets.lookup key := by
  obtain ⟨_, res, out, stepped⟩ := reserve_step ran
  cases res with
  | ok =>
    cases stepped
    cases denied
  | error =>
    cases stepped
    cases out with
    | refused => rfl
    | rejected => exact lookup_discard_live live _

end Runs

theorem token_admission_safety {system : TokenSystem} {calls : List Call} {replies : List Reply}
    (run : Transition.execute step newTokenSystem calls = some (system, replies)) :
    (∀ reading keyID windows amount next reply index, step system (.reserve reading keyID windows amount) = some (next, reply) →
      reply.answer = .reserved index → ∀ window ∈ windows,
        ∃ bucket, next.limiter.buckets.lookup (currentKey keyID (clampTime system.limiter.lastNow reading) window) = some bucket ∧
          bucket.committed + bucket.active ≤ window.amount) ∧
      (Transition.Along step (fun system call => temperate system call = true) newTokenSystem calls →
        ∀ key bucket, system.limiter.buckets.lookup key = some bucket → bucket.committed + bucket.active ≤ key.window.amount) ∧
      ∀ reading keyID windows amount next reply resetAt, step system (.reserve reading keyID windows amount) = some (next, reply) →
        reply.answer = .rejected resetAt → ∀ key, expired (clampTime system.limiter.lastNow reading) key = false →
          next.limiter.buckets.lookup key = system.limiter.buckets.lookup key := by
  refine ⟨?_, bounded_run run, ?_⟩
  · intro reading keyID windows amount next reply index ran took window mem
    exact reserved_within ran took mem
  · intro reading keyID windows amount next reply resetAt ran denied key live
    exact rejected_unchanged ran denied live

def settledRun : List Call :=
  [.loadCommitted 0 [⟨"key", 0, ⟨30, 1000000000⟩, 5⟩], .reserve 0 "key" [⟨30, 1000000000⟩] 20, .finalize 0 0 (.commit 15)]

theorem token_admission_safety_settled_run : ∃ system refused admitted : TokenSystem, ∃ replies refusal admission,
    Transition.execute step newTokenSystem settledRun = some (system, replies) ∧
      step system (.reserve 0 "key" [⟨30, 1000000000⟩] 20) = some (refused, refusal) ∧
      step system (.reserve 0 "key" [⟨30, 1000000000⟩] 10) = some (admitted, admission) ∧
      (∃ bucket, admitted.limiter.buckets.lookup ⟨"key", ⟨30, 1000000000⟩, 0⟩ = some bucket ∧ bucket.committed + bucket.active ≤ 30) ∧
      (∀ key bucket, system.limiter.buckets.lookup key = some bucket → bucket.committed + bucket.active ≤ key.window.amount) ∧
      refused.limiter.buckets.lookup ⟨"key", ⟨30, 1000000000⟩, 0⟩ = system.limiter.buckets.lookup ⟨"key", ⟨30, 1000000000⟩, 0⟩ :=
  ⟨_, _, _, _, _, _, Transition.execute_get (by decide), Transition.outcome_get (by decide), Transition.outcome_get (by decide),
    (token_admission_safety (Transition.execute_get (by decide))).1 0 "key" _ 10 _ _ 1 (Transition.outcome_get (by decide)) (by decide)
      ⟨30, 1000000000⟩ (by decide),
    (token_admission_safety (Transition.execute_get (by decide))).2.1 (by decide),
    (token_admission_safety (Transition.execute_get (by decide))).2.2 0 "key" _ 20 _ _ 1000000000 (Transition.outcome_get (by decide))
      (by decide) _ (by decide)⟩

end NineGateway.Token
