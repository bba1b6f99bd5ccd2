import NineGateway.Token.Link

set_option autoImplicit false

namespace NineGateway.Token

open Transition (along_and along_of_forall execute)
open Terminal

variable {hold : TokenReservation} {lim next : TokenLimiter} {ones twos : List Reply} {read : Int}

section Stepping

variable {i : Nat} {hold : TokenReservation} {actual : Int} {left right left' right' : TokenSystem} {one two : Reply}

variable {alt : Nat} {entry : TokenReservation} {read : Int} {sys : TokenSystem} {term : Terminal} {key : String}
variable {call : Call}

theorem spills_overflowed {next : TokenSystem} {rep : Reply} (fits : spills sys call = false)
    (ran : step sys call = some (next, rep)) : overflowed rep = false := by
  simp only [spills, ran, Bool.or_eq_false_iff] at fits
  exact fits.1

theorem finalize_again (has : sys.reservations[alt]? = some entry) (done : entry.finalized = true) :
    step sys (.finalize alt read term) = some (sys, quietly (.settled entry.finalErr)) := by
  simp [step, has, finalizeOnce, done, Roster.set_same _ _ _ has, quietly]

variable (link : Linked i hold actual left right)
include link

theorem linked_step_reserve {wins : List TokenWindow} {amt : Int} (agree : one.accepted = two.accepted) (lans : Served left')
    (rans : Served right') (lstep : step left (.reserve read key wins amt) = some (left', one))
    (rstep : step right (.reserve read key wins amt) = some (right', two)) : Linked i hold actual left' right' ∧ one.deltas = two.deltas := by
  simp only [step, Option.ite_none_left_eq_some, Option.some.injEq] at lstep rstep
  obtain ⟨_, lstep⟩ := lstep
  obtain ⟨_, rstep⟩ := rstep
  have same : left.limiter.considers key wins amt = right.limiter.considers key wins amt := by
    unfold TokenLimiter.considers stalePolicy
    rw [link.policies]
  have lout := reserve_outcome left.limiter read key wins amt
  have rout := reserve_outcome right.limiter read key wins amt
  generalize reserve left.limiter read key wins amt = first at lstep lout
  generalize reserve right.limiter read key wins amt = second at rstep rout
  obtain ⟨_, leftAnswer⟩ := first
  obtain ⟨_, rightAnswer⟩ := second
  cases leftAnswer with
  | ok leftEntry =>
    cases rightAnswer with
    | ok rightEntry =>
      obtain ⟨norm, normal, leftForm⟩ := reserve_keys lout
      obtain ⟨normalized', normal', rightForm⟩ := reserve_keys rout
      obtain rfl : norm = normalized' := Option.some.inj (normal.symm.trans normal')
      obtain rfl : leftEntry = rightEntry := by rw [leftForm, rightForm, link.clock]
      cases lstep
      cases rstep
      exact ⟨linked_reserve link lout rout lans rans, rfl⟩
    | error =>
      cases lstep
      cases rstep
      cases agree
  | error =>
    cases lstep
    cases rightAnswer with
    | ok =>
      cases rstep
      cases agree
    | error =>
      cases rstep
      refine ⟨?_, rfl⟩
      cases lout with
      | refused idle =>
        cases rout with
        | refused => exact link
        | rejected _ checks =>
          rw [same, checks] at idle
          cases idle
      | rejected _ checks =>
        cases rout with
        | refused idle =>
          rw [same, idle] at checks
          cases checks
        | rejected => exact linked_swept link lans rans rfl rfl rfl rfl link.replacing

theorem linked_step_replace {oldWindows newWindows : List TokenWindow} {callback : Bool} (agree : one.accepted = two.accepted)
    (lans : Served left') (rans : Served right') (lstep : replaceStep (left.clean read) key oldWindows newWindows callback = (left', one))
    (rstep : replaceStep (right.clean read) key oldWindows newWindows callback = (right', two)) :
    Linked i hold actual left' right' ∧ one.deltas = two.deltas := by
  unfold replaceStep at lstep rstep
  cases leftAllows : allowsPolicyReplacement (left.clean read).limiter key oldWindows newWindows with
  | false =>
    cases rightAllows : allowsPolicyReplacement (right.clean read).limiter key oldWindows newWindows with
    | false =>
      simp only [leftAllows, rightAllows, Bool.not_false, if_true, Prod.mk.injEq] at lstep rstep
      obtain ⟨rfl, rfl⟩ := lstep
      obtain ⟨rfl, rfl⟩ := rstep
      exact ⟨linked_swept link lans rans rfl rfl rfl rfl link.replacing, rfl⟩
    | true =>
      simp only [leftAllows, rightAllows, Bool.not_false, Bool.not_true, Bool.false_eq_true, if_true, if_false] at lstep rstep
      rw [← (Prod.mk.inj lstep).2] at agree
      cases callback <;> rw [← (Prod.mk.inj rstep).2] at agree <;> cases agree
  | true =>
    cases rightAllows : allowsPolicyReplacement (right.clean read).limiter key oldWindows newWindows with
    | false =>
      simp only [leftAllows, rightAllows, Bool.not_false, Bool.not_true, Bool.false_eq_true, if_true, if_false] at lstep rstep
      rw [← (Prod.mk.inj rstep).2] at agree
      cases callback <;> rw [← (Prod.mk.inj lstep).2] at agree <;> cases agree
    | true =>
      simp only [leftAllows, rightAllows, Bool.not_true, Bool.false_eq_true, if_false] at lstep rstep
      cases callback with
      | false =>
        cases lstep
        cases rstep
        exact ⟨linked_swept link lans rans rfl rfl rfl rfl link.replacing, rfl⟩
      | true =>
        cases lstep
        cases rstep
        exact ⟨linked_swept link lans rans rfl rfl rfl rfl rfl, rfl⟩

theorem linked_step_finalize (lfits : overflowed one = false) (rfits : overflowed two = false) (lans : Served left') (rans : Served right')
    (lstep : step left (.finalize alt read term) = some (left', one)) (rstep : step right (.finalize alt read term) = some (right', two)) :
    Linked i hold actual left' right' ∧ one.deltas = two.deltas := by
  by_cases same : alt = i
  · subst alt
    obtain ⟨bound, _⟩ := List.getElem?_eq_some_iff.mp link.handled
    have rightHandled : right.reservations[i]? = some (hold.close (.commit actual) none) := by
      rw [link.twin, List.getElem?_set_self bound]
    rw [finalize_again link.handled rfl] at lstep
    rw [finalize_again rightHandled rfl] at rstep
    cases lstep
    cases rstep
    exact ⟨link, rfl⟩
  · have twin := linked_other link same
    cases has : left.reservations[alt]? with
    | none => simp [step, has] at lstep
    | some entry =>
      have rhas := twin.trans has
      cases done : entry.finalized with
      | true =>
        rw [finalize_again has done] at lstep
        rw [finalize_again rhas done] at rstep
        cases lstep
        cases rstep
        exact ⟨link, rfl⟩
      | false =>
        obtain ⟨_, _, lout, rfl, rfl⟩ := charged_step link.leftServed.balanced has done lfits lstep
        obtain ⟨_, _, rout, rfl, rfl⟩ := charged_step link.rightServed.balanced rhas done rfits rstep
        exact linked_charge link same has done rfl lout rout lans rans

variable {usage : Int}

omit link in
theorem adjust_fits {ticket : TokenAdjustmentTicket} (has : sys.reservations[alt]? = some entry) (issued : entry.ticket = some ticket)
    (fits : spills sys (.adjust alt read usage) = false) : (adjust sys.limiter read ticket usage).2.finalErr ≠ some .accountingOverflow := by
  simp only [spills, step, has, issued, Bool.or_eq_false_iff, ticket_at_set has, if_true, TokenReservation.withTicket,
    Option.any_some, decide_eq_false_iff_not] at fits
  exact fits.2

theorem linked_spent {new : TokenAdjustmentTicket} (apart : alt ≠ i) (has : left.reservations[alt]? = some entry) (used : new.consumed = true)
    (lans : Served ⟨left.limiter, left.reservations.set alt (entry.withTicket new), left.replacing⟩)
    (rans : Served ⟨right.limiter, right.reservations.set alt (entry.withTicket new), right.replacing⟩) :
    Linked i hold actual ⟨left.limiter, left.reservations.set alt (entry.withTicket new), left.replacing⟩
      ⟨right.limiter, right.reservations.set alt (entry.withTicket new), right.replacing⟩ := by
  refine linked_ticket link apart lans rans ?_
  intro key
  have rhas := (linked_other link apart).trans has
  have owing := owed_set rhas right.limiter (entry.withTicket new) key
  have pre := owed_nonnegative (link.rightServed.balanced.sound entry (List.mem_of_getElem? rhas)) key
  rw [show (entry.withTicket new).owed key = 0 from owed_consumed used] at owing
  omega

-- A call on a reservation without a ticket does nothing.
theorem linked_issued (apart : alt ≠ i) (on : call = .notify alt ∨ call = .invalidate alt ∨ ∃ read usage, call = .adjust alt read usage)
    (lstep : step left call = some (left', one)) (rstep : step right call = some (right', two)) :
    (Linked i hold actual left' right' ∧ one.deltas = two.deltas) ∨ ∃ entry ticket, left.reservations[alt]? = some entry ∧
      right.reservations[alt]? = some entry ∧ entry.ticket = some ticket := by
  have twin := linked_other link apart
  cases has : left.reservations[alt]? with
  | none => rcases on with rfl | rfl | ⟨_, _, rfl⟩ <;> simp [step, has] at lstep
  | some entry =>
    cases issued : entry.ticket with
    | none =>
      rcases on with rfl | rfl | ⟨_, _, rfl⟩ <;> simp only [step, twin, has, issued, Option.some.injEq, Prod.mk.injEq] at lstep rstep <;>
        obtain ⟨⟨rfl, rfl⟩, rfl, rfl⟩ := And.intro lstep rstep <;> exact .inl ⟨link, rfl⟩
    | some ticket => exact .inr ⟨entry, ticket, rfl, twin.trans has, issued⟩

theorem linked_step_notify (lans : Served left') (rans : Served right') (lstep : step left (.notify alt) = some (left', one))
    (rstep : step right (.notify alt) = some (right', two)) : Linked i hold actual left' right' ∧ one.deltas = two.deltas := by
  -- The deferred ticket is still unused, so nothing of it can be delivered.
  have apart : alt ≠ i := by
    rintro rfl
    simp [step, link.handled, TokenReservation.close, ticket, newTicket] at lstep
  rcases linked_issued link apart (.inl rfl) lstep rstep with done | ⟨entry, ticket, has, rhas, issued⟩
  · exact done
  simp only [step, has, rhas, issued, Option.ite_none_right_eq_some, Option.some.injEq, Prod.mk.injEq] at lstep rstep
  obtain ⟨used, rfl, rfl⟩ := lstep
  obtain ⟨_, rfl, rfl⟩ := rstep
  exact ⟨linked_spent link apart has ((deliver_keeps ticket).1.trans used) lans rans, rfl⟩

theorem linked_step_invalidate (apart : alt ≠ i) (lans : Served left') (rans : Served right')
    (lstep : step left (.invalidate alt) = some (left', one)) (rstep : step right (.invalidate alt) = some (right', two)) :
    Linked i hold actual left' right' ∧ one.deltas = two.deltas := by
  rcases linked_issued link apart (.inr (.inl rfl)) lstep rstep with done | ⟨entry, ticket, has, rhas, issued⟩
  · exact done
  have diff := (link.leftServed.balanced.sound entry (List.mem_of_getElem? has)).ticketDistinct ticket issued
  simp only [step, has, rhas, issued, Option.some.injEq, Prod.mk.injEq] at lstep rstep
  obtain ⟨rfl, rfl⟩ := lstep
  obtain ⟨rfl, rfl⟩ := rstep
  exact ⟨linked_spent link apart has (invalidate_consumes ticket diff).1 lans rans, rfl⟩

theorem linked_step_adjust (apart : alt ≠ i) (lfits : spills left (.adjust alt read usage) = false)
    (rfits : spills right (.adjust alt read usage) = false) (lans : Served left') (rans : Served right')
    (lstep : step left (.adjust alt read usage) = some (left', one)) (rstep : step right (.adjust alt read usage) = some (right', two)) :
    Linked i hold actual left' right' ∧ one.deltas = two.deltas := by
  rcases linked_issued link apart (.inr (.inr ⟨read, usage, rfl⟩)) lstep rstep with done | ⟨entry, ticket, has, rhas, issued⟩
  · exact done
  have diff := (link.leftServed.balanced.sound entry (List.mem_of_getElem? has)).ticketDistinct ticket issued
  have leftClear := adjust_fits has issued lfits
  have rightClear := adjust_fits rhas issued rfits
  simp only [step, has, rhas, issued, Option.some.injEq, Prod.mk.injEq] at lstep rstep
  obtain ⟨rfl, rfl⟩ := lstep
  obtain ⟨rfl, rfl⟩ := rstep
  exact ⟨linked_adjust link apart has issued (adjust_reconciled left.limiter read usage diff)
    (adjust_reconciled right.limiter read usage diff) leftClear rightClear lans rans, rfl⟩

theorem linked_step (serving : call.loads = false) (unused : call.consumes i = false) (lfits : spills left call = false)
    (rfits : spills right call = false) (agree : one.accepted = two.accepted) (lstep : step left call = some (left', one))
    (rstep : step right call = some (right', two)) : Linked i hold actual left' right' ∧ one.deltas = two.deltas := by
  have leftClear := spills_overflowed lfits lstep
  have rightClear := spills_overflowed rfits rstep
  have lans := served_step link.leftServed serving leftClear lstep
  have rans := served_step link.rightServed serving rightClear rstep
  cases call with
  | loadCommitted => cases serving
  | registerPolicy =>
    simp only [step, Option.ite_none_left_eq_some, Option.some.injEq, Prod.mk.injEq] at lstep rstep
    obtain ⟨_, rfl, rfl⟩ := lstep
    obtain ⟨_, rfl, rfl⟩ := rstep
    refine ⟨linked_still link lans rans ⟨link.handled, link.twin⟩ link.replacing rfl rfl link.clock ?_ (fun _ => id) (fun _ => Int.le_refl _), rfl⟩
    simp only [registerPolicy, link.policies]
  | allowsPolicyReplacement read =>
    simp only [step, Option.ite_none_left_eq_some, Option.some.injEq, Prod.mk.injEq] at lstep rstep
    obtain ⟨_, rfl, rfl⟩ := lstep
    obtain ⟨_, rfl, rfl⟩ := rstep
    exact ⟨linked_swept link lans rans rfl rfl rfl rfl link.replacing, rfl⟩
  | replaceBegin =>
    simp only [step, Option.ite_none_left_eq_some, Option.some.injEq] at lstep rstep
    exact linked_step_replace link agree lans rans lstep.2 rstep.2
  | replaceEnd committed =>
    simp only [step, ← link.replacing] at lstep rstep
    cases due : left.replacing with
    | none => simp [due] at lstep
    | some =>
      simp only [due] at lstep rstep
      cases committed with
      | true =>
        obtain ⟨rfl, rfl⟩ := lstep
        obtain ⟨rfl, rfl⟩ := rstep
        refine ⟨linked_still link lans rans ⟨link.handled, link.twin⟩ rfl rfl rfl link.clock ?_ (fun _ => id) (fun _ => Int.le_refl _), rfl⟩
        simp only [registerPolicy, link.policies]
      | false =>
        obtain ⟨rfl, rfl⟩ := lstep
        obtain ⟨rfl, rfl⟩ := rstep
        exact ⟨linked_still link lans rans ⟨link.handled, link.twin⟩ rfl rfl rfl link.clock link.policies (fun _ => id) (fun _ => Int.le_refl _), rfl⟩
  | reserve => exact linked_step_reserve link agree lans rans lstep rstep
  | finalize =>
    exact linked_step_finalize link leftClear rightClear lans rans lstep rstep
  | adjust =>
    exact linked_step_adjust link (by simpa [Call.consumes] using unused) lfits rfits lans rans lstep rstep
  | notify => exact linked_step_notify link lans rans lstep rstep
  | invalidate =>
    exact linked_step_invalidate link (by simpa [Call.consumes] using unused) lans rans lstep rstep
  | retryAfter read resetAt =>
    simp only [step] at lstep rstep
    split at lstep
    · rename_i zero
      simp only [zero, if_true, Option.some.injEq, Prod.mk.injEq] at lstep rstep
      obtain ⟨rfl, rfl⟩ := lstep
      obtain ⟨rfl, rfl⟩ := rstep
      exact ⟨link, rfl⟩
    · rename_i set
      simp only [set, if_false, Option.some.injEq, Prod.mk.injEq] at lstep rstep
      obtain ⟨rfl, rfl⟩ := lstep
      obtain ⟨rfl, rfl⟩ := rstep
      refine ⟨linked_still link lans rans ⟨link.handled, link.twin⟩ link.replacing rfl rfl ?_ link.policies
        (fun _ => expired_clamp read) (fun _ => Int.le_refl _), rfl⟩
      simp only [link.clock]
  | len read =>
    obtain ⟨rfl, rfl⟩ := lstep
    obtain ⟨rfl, rfl⟩ := rstep
    exact ⟨linked_swept link lans rans rfl rfl rfl rfl link.replacing, rfl⟩

end Stepping

-- Two ways to settle one reservation at an actual usage, deferring and adjusting
-- later or committing at once, with the same other calls in between and no
-- overflow on either.
structure DeferredPaths where
  calls : List Call
  others : List Call
  index : Nat
  reading : Int
  adjustReading : Int
  actual : Int
  reservation : TokenReservation
  start : TokenSystem
  deferred : TokenSystem
  between : TokenSystem
  adjusted : TokenSystem
  notified : TokenSystem
  committed : TokenSystem
  final : TokenSystem
  before : List Reply
  leftAnswers : List Reply
  rightAnswers : List Reply
  deferral : Reply
  adjustment : Reply
  notification : Reply
  commitment : Reply
  reaching : Transition.execute step newTokenSystem calls = some (start, before)
  present : start.reservations[index]? = some reservation
  fresh : reservation.finalized = false
  nonnegative : 0 ≤ actual
  unused : ∀ call ∈ others, call.consumes index = false
  deferring : step start (.finalize index reading .commitDeferred) = some (deferred, deferral)
  meanwhile : Transition.execute step deferred others = some (between, leftAnswers)
  adjusting : step between (.adjust index adjustReading actual) = some (adjusted, adjustment)
  notifying : step adjusted (.notify index) = some (notified, notification)
  committing : step start (.finalize index reading (.commit actual)) = some (committed, commitment)
  afterwards : Transition.execute step committed others = some (final, rightAnswers)
  beforeFits : ∀ reply ∈ before, overflowed reply = false
  deferralFits : overflowed deferral = false
  meanwhileFits : Transition.Along step (fun system call => spills system call = false) deferred others
  adjustmentFits : spills between (.adjust index adjustReading actual) = false
  commitmentFits : overflowed commitment = false
  afterwardsFits : Transition.Along step (fun system call => spills system call = false) committed others

namespace DeferredPaths

def LoadsFirst (paths : DeferredPaths) : Prop :=
  ∃ opening serving, paths.calls = opening ++ serving ∧ (∀ call ∈ opening, call.opens = true) ∧
    ∀ call ∈ serving ++ paths.others, call.loads = false

def AcceptedAlike (paths : DeferredPaths) : Prop :=
  List.Forall₂ (fun one two => one.accepted = two.accepted) paths.leftAnswers paths.rightAnswers

def deferredFlow (paths : DeferredPaths) (key : TokenBucketKey) : Int :=
  delivered (paths.deferral :: paths.leftAnswers ++ [paths.adjustment, paths.notification]) key

def immediateFlow (paths : DeferredPaths) (key : TokenBucketKey) : Int := delivered (paths.commitment :: paths.rightAnswers) key

-- A captured bucket that is still there for the adjustment ends as if the actual
-- usage had been committed at once. The adjustment cleans up, so the other run
-- is looked at after a cleanup at the same time.
def SameSettlement (paths : DeferredPaths) : Prop :=
  ∀ key ∈ paths.reservation.buckets, (paths.between.limiter.buckets.lookup key).isSome = true →
    (bucketAt paths.adjusted.limiter.buckets key).committed =
        (bucketAt (paths.final.limiter.cleaned paths.adjustReading).buckets key).committed ∧
      paths.deferredFlow key = paths.immediateFlow key

def CoveredRefund (paths : DeferredPaths) : Prop :=
  ∀ key ∈ paths.reservation.buckets, ∀ bucket, paths.between.limiter.buckets.lookup key = some bucket →
    paths.reservation.amount - paths.actual ≤ bucket.committed

end DeferredPaths

-- A step creates no bucket, and changes one outside the keys only by dropping
-- it when its window has ended.
def Confined (keys : List TokenBucketKey) (before after : TokenLimiter) : Prop :=
  ∀ key, (before.buckets.lookup key = none → after.buckets.lookup key = none) ∧
    (key ∉ keys → after.buckets.lookup key = before.buckets.lookup key ∨ after.buckets.lookup key = none ∧ expired after.lastNow key = true)

theorem confined_pass {keys : List TokenBucketKey} {new : TokenBuckets} {did : TokenBucket → Option TokenBucket}
    (stored : ∀ q, new.lookup q = if q ∈ keys then (lim.buckets.lookup q).bind did else lim.buckets.lookup q) :
    Confined keys lim (TokenLimiter.cleaned { lim with buckets := new } read) := by
  intro key
  refine ⟨?_, ?_⟩
  · intro missing
    simp [TokenLimiter.cleaned, lookup_discard, stored key, missing]
  intro outside
  have kept : new.lookup key = lim.buckets.lookup key := by rw [stored key, if_neg outside]
  rw [← kept]
  exact discard_cases _ _ _

theorem confined_same (keys : List TokenBucketKey) (lim : TokenLimiter) : Confined keys lim lim :=
  fun _ => ⟨id, fun _ => .inl rfl⟩

theorem charge_confined {charge : Int} {ds : List CommittedTokenDelta} (out : ChargeOutcome lim read hold charge next ds) :
    Confined hold.buckets lim next := by
  cases out with
  | idle => exact confined_same _ _
  | charged _ _ stored => exact confined_pass stored

variable {actual : Int}

theorem reconciled_confined {ticket used : TokenAdjustmentTicket}
    (out : Reconciled lim read ticket actual next used) : Confined ticket.buckets lim next := by
  cases out with
  | moved _ _ _ _ _ _ stored => exact confined_pass stored
  | _ => exact confined_same _ _

section Launching

variable {i : Nat} {hold : TokenReservation} {start : TokenSystem} {read : Int}

theorem discard_value (now : Int) (bins : TokenBuckets) (key : TokenBucketKey) : bucketAt (discardExpired now bins) key =
      if expired now key && decide ((bucketAt bins key).active = 0) then ⟨0, 0⟩ else bucketAt bins key := by
  unfold bucketAt
  rw [lookup_discard]
  cases bins.lookup key with
  | none => simp
  | some bin => cases past : expired now key <;> by_cases idle : bin.active = 0 <;> simp [Option.filter_some, idle]

theorem launch_carried {amt actual owed : Int} {ended : Prop} {bin : TokenBucket} (pos : 0 < amt) (nonneg : 0 ≤ actual) (least : 0 ≤ owed)
    (backed : owed ≤ bin.committed) : Carried (actual - amt) ended owed (retained ⟨bin.committed + amt, bin.active - amt⟩)
      (retained ⟨bin.committed + actual, bin.active - amt⟩) := by
  have kept : retained ⟨bin.committed + amt, bin.active - amt⟩ = some ⟨bin.committed + amt, bin.active - amt⟩ := by
    rw [retained, if_neg]
    simp only
    omega
  have shifted : bin.committed + actual = bin.committed + amt + (actual - amt) := by omega
  rw [kept]
  by_cases blank : bin.active - amt = 0 ∧ bin.committed + actual = 0
  · rw [retained, if_pos blank]
    exact .emptied _ blank.1 (by simp only; omega) (by omega)
  · rw [retained, if_neg blank, shifted]
    exact .standing ⟨bin.committed + amt, bin.active - amt⟩

variable {actual : Int}

theorem launch {deferred committed : TokenSystem} {deferral commitment : Reply} (served : Served start)
    (has : start.reservations[i]? = some hold) (new : hold.finalized = false) (nonneg : 0 ≤ actual)
    (deferring : step start (.finalize i read .commitDeferred) = some (deferred, deferral))
    (committing : step start (.finalize i read (.commit actual)) = some (committed, commitment)) (deferralFits : overflowed deferral = false)
    (commitmentFits : overflowed commitment = false) : Linked i hold actual deferred committed ∧
      ∀ key ∈ hold.buckets, flow deferral.deltas key = hold.amount ∧ flow commitment.deltas key = actual := by
  have lans := served_step served rfl deferralFits deferring
  have rans := served_step served rfl commitmentFits committing
  have ok := served.balanced.sound hold (List.mem_of_getElem? has)
  have hit := fun key (cov : key ∈ hold.buckets) =>
    held_bucket_present served.balanced (List.mem_of_getElem? has) new cov
  have pos := ok.positive
  obtain ⟨bound, _⟩ := List.getElem?_eq_some_iff.mp has
  obtain ⟨one, leftDeltas, lout, rfl, rfl⟩ := charged_step served.balanced has new deferralFits deferring
  obtain ⟨two, rightDeltas, rout, rfl, rfl⟩ := charged_step served.balanced has new commitmentFits committing
  have leftVerdict : verdictOn (commitDeferred.usage hold.amount) = none := if_neg (by simp only [usage]; omega)
  have rightVerdict : verdictOn ((commit actual).usage hold.amount) = none := if_neg (by simp only [usage]; omega)
  have leftCharge : chargeFor hold.amount (commitDeferred.usage hold.amount) = hold.amount :=
    if_neg (by simp only [usage]; omega)
  have rightCharge : chargeFor hold.amount ((commit actual).usage hold.amount) = actual :=
    if_neg (by simp only [usage]; omega)
  rw [leftVerdict] at lans ⊢
  rw [rightVerdict] at rans ⊢
  rw [leftCharge] at lout
  rw [rightCharge] at rout
  have owing : ∀ key, ({ start with
      limiter := two, reservations := start.reservations.set i (hold.close (.commit actual) none) } : TokenSystem).owed key ≤
      start.owed key := by
    intro key
    have did := owed_set has two (hold.close (.commit actual) none) key
    have pre := owed_nonnegative ok key
    rw [owed_close, if_neg (by simp)] at did
    omega
  have dealt := List.getElem?_set_self (a := hold.close .commitDeferred none) bound
  have twin : start.reservations.set i (hold.close (.commit actual) none) =
      (start.reservations.set i (hold.close .commitDeferred none)).set i (hold.close (.commit actual) none) := by
    rw [List.set_set]
  cases lout with
  | idle empty =>
    cases rout with
    | charged busy => exact absurd empty busy
    | idle =>
      have vacuous : ∀ key, key ∉ hold.buckets := by simp [empty]
      exact ⟨⟨lans, rans, rfl, rfl, rfl, dealt, twin, fun key cov => absurd cov (vacuous key), fun _ _ => rfl⟩,
        fun key cov => absurd cov (vacuous key)⟩
  | charged busy _ lstored =>
    cases rout with
    | idle empty => exact absurd empty busy
    | charged _ _ rstored =>
      refine ⟨⟨lans, rans, rfl, rfl, rfl, dealt, twin, ?_, ?_⟩, ?_⟩
      · intro key cov
        obtain ⟨bin, there, _⟩ := hit key cov
        have backed := (served.backed key).1 bin there
        refine carried_discard ?_
        rw [lstored key, rstored key, if_pos cov, if_pos cov, there]
        exact launch_carried pos nonneg (system_owed_nonnegative rans.balanced.sound key) (Int.le_trans (owing key) backed)
      · intro key outside
        simp only [TokenLimiter.cleaned, lookup_discard, lstored key, rstored key, if_neg outside]
      · intro key cov
        obtain ⟨_, there, _⟩ := hit key cov
        simp [flow_emissions ok.distinct, cov, there]

variable {between : TokenSystem}

theorem adjust_moves (served : Served between) (nonneg : 0 ≤ actual) (dealt : between.reservations[i]? = some (hold.close .commitDeferred none))
    (busy : hold.buckets ≠ []) (fits : spills between (.adjust i read actual) = false) : ∃ new : TokenBuckets,
      (∀ q, new.lookup q = if q ∈ hold.buckets then
        (between.limiter.buckets.lookup q).bind (fun bin => retained (adjustedBucket (actual - hold.amount) bin))
        else between.limiter.buckets.lookup q) ∧ adjust between.limiter read (newTicket hold) actual =
        (TokenLimiter.cleaned { between.limiter with buckets := new } read, { (newTicket hold).spend none with
            deltas := emissions between.limiter.buckets hold.buckets (actual - hold.amount), sink := true }) := by
  have ok := served.balanced.sound _ (List.mem_of_getElem? dealt)
  have issued : (hold.close .commitDeferred none).ticket = some (newTicket hold) := rfl
  have clear := adjust_fits dealt issued fits
  have out := adjust_reconciled between.limiter read actual (ok.ticketDistinct _ issued)
  rw [← Prod.mk.eta (p := adjust between.limiter read (newTicket hold) actual)]
  generalize (adjust between.limiter read (newTicket hold) actual).1 = next at out ⊢
  generalize (adjust between.limiter read (newTicket hold) actual).2 = used at out clear ⊢
  cases out with
  | again consumed => cases consumed
  | negative => omega
  | idle _ _ free =>
    rcases free with loose | empty
    · have attached : hold.bound = true := ok.bound busy
      simp [newTicket, attached] at loose
    · exact absurd empty busy
  | refused unused _ _ _ checked =>
    exact absurd (refused_overflow served dealt issued unused nonneg checked) (fun spilled => clear (congrArg some spilled))
  | moved _ _ _ _ new _ stored => exact ⟨new, stored, rfl⟩

theorem adjust_matches {final tuned notified : TokenSystem} {adj notification : Reply} (link : Linked i hold actual between final)
    (nonneg : 0 ≤ actual) (adjusting : step between (.adjust i read actual) = some (tuned, adj))
    (notifying : step tuned (.notify i) = some (notified, notification)) (fits : spills between (.adjust i read actual) = false)
    {key : TokenBucketKey} (cov : key ∈ hold.buckets) (there : (between.limiter.buckets.lookup key).isSome = true) :
    bucketAt tuned.limiter.buckets key = bucketAt (final.limiter.cleaned read).buckets key ∧ adj.deltas = [] ∧
      flow notification.deltas key = actual - hold.amount := by
  have ok := link.leftServed.balanced.sound _ (List.mem_of_getElem? link.handled)
  have issued : (hold.close .commitDeferred none).ticket = some (newTicket hold) := rfl
  obtain ⟨bound, _⟩ := List.getElem?_eq_some_iff.mp link.handled
  obtain ⟨new, stored, did⟩ := adjust_moves link.leftServed nonneg link.handled (List.ne_nil_of_mem cov) fits
  simp only [step, link.handled, issued, did] at adjusting
  cases adjusting
  simp only [step, List.getElem?_set_self bound, TokenReservation.withTicket, Option.ite_none_right_eq_some, Option.some.injEq,
    Prod.mk.injEq] at notifying
  obtain ⟨_, _, rfl⟩ := notifying
  refine ⟨?_, rfl, ?_⟩
  · have v := carried_value (link.captured key cov) there
    obtain ⟨_, hit⟩ := Option.isSome_iff_exists.mp there
    have shifted : bucketAt new key = bucketAt final.limiter.buckets key := by
      unfold bucketAt
      rw [v, stored key, if_pos cov, hit, Option.bind_some]
      exact retained_value _
    simp only [TokenLimiter.cleaned, discard_value, shifted, link.clock]
  · have diff : hold.buckets.Nodup := ok.distinct
    simp [deliver, newTicket, TokenAdjustmentTicket.spend, flow_emissions diff, cov, there]

end Launching

theorem calls_served {cs : List Call} {start : TokenSystem} {pre : List Reply} {opening serving : List Call} (split : cs = opening ++ serving)
    (startup : ∀ call ∈ opening, call.opens = true) (serves : ∀ call ∈ serving, call.loads = false)
    (reaching : execute step newTokenSystem cs = some (start, pre)) (fits : ∀ rep ∈ pre, overflowed rep = false) : Served start := by
  subst cs
  obtain ⟨begun, _, _, loading, run, rfl⟩ := Transition.execute_split reaching
  have along : Transition.Along step (fun _ call => call.loads = false) begun serving := along_of_forall (fun _ => serves) _
  refine Transition.run_traced (fun _ answered state => (∀ rep ∈ answered, overflowed rep = false) → Served state) ?_
    (fun _ => opened_served startup loading) along run (fun rep mem => fits rep (by simp [mem]))
  intro _ answered state call next rep _ holds serving transition clear
  exact served_step (holds (fun alt mem => clear alt (by simp [mem]))) serving (clear rep (by simp)) transition

theorem linked_run {i : Nat} {left right leftFinal rightFinal : TokenSystem} {others : List Call} (link : Linked i hold actual left right)
    (may : ∀ call ∈ others, call.loads = false ∧ call.consumes i = false)
    (lfits : Transition.Along step (fun sys call => spills sys call = false) left others)
    (rfits : Transition.Along step (fun sys call => spills sys call = false) right others)
    (leftRun : execute step left others = some (leftFinal, ones)) (rightRun : execute step right others = some (rightFinal, twos))
    (alike : List.Forall₂ (fun one two : Reply => one.accepted = two.accepted) ones twos) :
    Linked i hold actual leftFinal rightFinal ∧ List.Forall₂ (fun one two : Reply => one.deltas = two.deltas) ones twos := by
  have leftAlong := along_and (along_of_forall (fun _ => may) left) lfits
  refine Transition.run_paired _ _ (Linked i hold actual) ?_ link leftAlong rfits leftRun rightRun alike
  intro _ _ _ _ _ _ _ related leftAllowed rightAllowed agree leftStep rightStep
  exact linked_step related leftAllowed.1.1 leftAllowed.1.2 leftAllowed.2 rightAllowed agree leftStep rightStep

theorem deltas_alike (alike : List.Forall₂ (fun one two : Reply => one.deltas = two.deltas) ones twos)
    (key : TokenBucketKey) : delivered ones key = delivered twos key := by
  induction alike with
  | nil => rfl
  | cons same _ ih =>
    unfold delivered at ih ⊢
    simp [same, ih]

theorem deferred_settlement_matches (paths : DeferredPaths) (loadsFirst : paths.LoadsFirst) (acceptedAlike : paths.AcceptedAlike) :
    paths.SameSettlement ∧ paths.CoveredRefund ∧ Confined paths.reservation.buckets paths.start.limiter paths.deferred.limiter ∧
      Confined paths.reservation.buckets paths.between.limiter paths.adjusted.limiter := by
  obtain ⟨opening, serving, split, startup, serves⟩ := loadsFirst
  have served := calls_served split startup (fun call mem => serves call (by simp [mem])) paths.reaching paths.beforeFits
  obtain ⟨launched, emitted⟩ := launch served paths.present paths.fresh paths.nonnegative paths.deferring paths.committing
    paths.deferralFits paths.commitmentFits
  obtain ⟨link, alike⟩ := linked_run launched (fun call mem => ⟨serves call (by simp [mem]), paths.unused call mem⟩)
    paths.meanwhileFits paths.afterwardsFits paths.meanwhile paths.afterwards acceptedAlike
  have issued : (paths.reservation.close .commitDeferred none).ticket = some (newTicket paths.reservation) := rfl
  refine ⟨?_, ?_, ?_, ?_⟩
  · intro key cov there
    obtain ⟨v, quiet, adjustedFlow⟩ := adjust_matches link paths.nonnegative paths.adjusting paths.notifying paths.adjustmentFits cov there
    obtain ⟨deferredFlow, committedFlow⟩ := emitted key cov
    refine ⟨congrArg TokenBucket.committed v, ?_⟩
    have middle := deltas_alike alike key
    unfold DeferredPaths.deferredFlow DeferredPaths.immediateFlow
    unfold delivered at middle ⊢
    simp only [List.cons_append, List.flatMap_cons, List.flatMap_append, List.flatMap_nil, quiet, List.append_nil, List.nil_append,
      flow_append, deferredFlow, committedFlow, adjustedFlow, middle]
    omega
  · intro key cov bin there
    have whole : paths.reservation.amount ≤ bin.committed :=
      refund_covered link.leftServed link.handled issued rfl cov there
    have nonneg := paths.nonnegative
    omega
  · obtain ⟨_, _, out, got, _⟩ := charged_step served.balanced paths.present paths.fresh paths.deferralFits paths.deferring
    rw [got]
    exact charge_confined out
  · have diff := (link.leftServed.balanced.sound _ (List.mem_of_getElem? link.handled)).ticketDistinct _ issued
    have out := adjust_reconciled paths.between.limiter paths.adjustReading paths.actual diff
    have adjusting := paths.adjusting
    simp only [step, link.handled, issued, Option.some.injEq, Prod.mk.injEq] at adjusting
    rw [← adjusting.1]
    exact reconciled_confined out

def sharedPaths : DeferredPaths :=
  ⟨[.reserve 0 "key" [⟨100, 60000000000⟩] 60], [.reserve 1000000000 "key" [⟨100, 60000000000⟩] 20, .finalize 1 2000000000 (.commit 15)],
    0, 0, 3000000000, 10,
    _, _, _, _, _, _, _, _, _, _, _, _, _, _, _,
    Transition.execute_get (by decide), (Option.some_get (by decide)).symm, by decide, by decide, by decide,
    Transition.outcome_get (by decide), Transition.execute_get (by decide), Transition.outcome_get (by decide),
    Transition.outcome_get (by decide), Transition.outcome_get (by decide), Transition.execute_get (by decide),
    by decide, by decide, by decide, by decide, by decide, by decide⟩

theorem deferred_settlement_matches_shared : sharedPaths.SameSettlement ∧
    (bucketAt sharedPaths.adjusted.limiter.buckets ⟨"key", ⟨100, 60000000000⟩, 0⟩).committed = 25 ∧
    sharedPaths.deferredFlow ⟨"key", ⟨100, 60000000000⟩, 0⟩ = 25 :=
  ⟨(deferred_settlement_matches sharedPaths ⟨[], sharedPaths.calls, rfl, by decide, by decide⟩ (by unfold DeferredPaths.AcceptedAlike; decide)).1,
    by decide, by decide⟩

def crowdedPaths : DeferredPaths :=
  ⟨[.reserve 0 "key" [⟨100, 60000000000⟩] 60],
    [.reserve 1000000000 "key" [⟨100, 60000000000⟩] 50, .reserve 1000000000 "other" [⟨100, 60000000000⟩] 50, .finalize 1 2000000000 (.commit 50)],
      0, 0, 3000000000, 10,
    _, _, _, _, _, _, _, _, _, _, _, _, _, _, _,
    Transition.execute_get (by decide), (Option.some_get (by decide)).symm, by decide, by decide, by decide,
    Transition.outcome_get (by decide), Transition.execute_get (by decide), Transition.outcome_get (by decide),
    Transition.outcome_get (by decide), Transition.outcome_get (by decide), Transition.execute_get (by decide),
    by decide, by decide, by decide, by decide, by decide, by decide⟩

-- The captured bucket expires, and a load with an earlier clock brings it back
-- with less in it.
def reloadedPaths : DeferredPaths :=
  ⟨[.reserve 0 "key" [⟨100, 60000000000⟩] 60], [.len 60000000000, .loadCommitted 1000000000 [⟨"key", 0, ⟨100, 60000000000⟩, 5⟩]],
    0, 0, 3000000000, 10,
    _, _, _, _, _, _, _, _, _, _, _, _, _, _, _,
    Transition.execute_get (by decide), (Option.some_get (by decide)).symm, by decide, by decide, by decide,
    Transition.outcome_get (by decide), Transition.execute_get (by decide), Transition.outcome_get (by decide),
    Transition.outcome_get (by decide), Transition.outcome_get (by decide), Transition.execute_get (by decide),
    by decide, by decide, by decide, by decide, by decide, by decide⟩

theorem deferred_settlement_crowded_and_reloaded : (¬ ∀ paths : DeferredPaths, paths.LoadsFirst → paths.SameSettlement) ∧
      ¬ ∀ paths : DeferredPaths, paths.AcceptedAlike → paths.CoveredRefund := by
  refine ⟨?_, ?_⟩
  · intro every
    have same := every crowdedPaths ⟨[], crowdedPaths.calls, rfl, by decide, by decide⟩
    exact absurd (same ⟨"key", ⟨100, 60000000000⟩, 0⟩ (by decide) (by decide)).1 (by decide)
  · intro every
    have cov := every reloadedPaths (by unfold DeferredPaths.AcceptedAlike; decide)
    exact absurd (cov ⟨"key", ⟨100, 60000000000⟩, 0⟩ (by decide) ⟨5, 0⟩ (by decide)) (by decide)

end NineGateway.Token
