import NineGateway.Budget.Conservation

set_option autoImplicit false

namespace NineGateway.Budget

open Transition (along_always along_of_forall execute execute_get run_invariant)

variable {sys next : BudgetSystem} {reply : Reply} {call : Call} {key : String} {replies : List Reply} {calls : List Call}
variable {pending : PendingReplacement} {pol : BudgetPolicy}

structure PolicyView where
  pending : Option PendingReplacement
  policies : FiniteMap String BudgetPolicy

def BudgetSystem.policyView (sys : BudgetSystem) : PolicyView := ⟨sys.replacing, sys.limiter.policies⟩

def PolicyView.note (view : PolicyView) (call : Call) (rep : Reply) : PolicyView :=
  match call with
  | .registerPolicy keyID policy =>
    if !validKeyID keyID || !validPolicy policy then view else { view with policies := Finmap.insert keyID policy view.policies }
  | .replaceBegin keyID _ newPolicy => if rep.answer = .done then { view with pending := some ⟨keyID, newPolicy⟩ } else view
  | .replaceEnd committed =>
    match view.pending with
    | none => view
    | some pending =>
      if committed then { pending := none, policies := Finmap.insert pending.keyID pending.newPolicy view.policies }
      else { view with pending := none }
  | _ => view

theorem policy_view_step (ok : sys.Sound) (ran : step sys call = some (next, reply)) : next.policyView = sys.policyView.note call reply := by
  have frame := step_frame ok ran
  cases step_outcome ok ran with
  | registered =>
    simp only [PolicyView.note, registerPolicy, BudgetSystem.policyView]
    split <;> rfl
  | replaceRefused | replaceOpened => rfl
  | replaceAborted _ begun => simp [PolicyView.note, BudgetSystem.policyView, begun]
  | replaceCommitted _ begun => simp [PolicyView.note, BudgetSystem.policyView, begun, replaceCommit]
  | _ =>
    cases frame with
    | kept _ same | read _ _ _ same => exact congrArg (PolicyView.mk sys.replacing) same
    | installed _ _ called => rcases called with called | ⟨called, _⟩ <;> cases called

structure Published (sys : BudgetSystem) : Prop where
  sound : sys.Sound
  policies : ∀ key pol, sys.limiter.policies.lookup key = some pol → validPolicy pol = true
  pending : ∀ pending, sys.replacing = some pending → validPolicy pending.newPolicy = true

theorem replace_check_valid {lim : BudgetLimiter} {oldPolicy newPolicy : BudgetPolicy}
    (checked : replaceCheck lim key oldPolicy newPolicy = none) : validPolicy newPolicy = true := by
  unfold replaceCheck at checked
  split at checked
  · simp at checked
  · rename_i fine
    simp only [Bool.or_eq_true, Bool.not_eq_true', not_or, Bool.not_eq_false] at fine
    exact fine.2

theorem step_replacing (ok : sys.Sound) (ran : step sys call = some (next, reply)) (begun : next.replacing = some pending) :
    sys.replacing = some pending ∨
      ∃ oldPolicy, call = .replaceBegin pending.keyID oldPolicy pending.newPolicy ∧ validPolicy pending.newPolicy = true := by
  cases step_outcome ok ran with
  | replaceOpened _ oldPolicy _ _ checked =>
    simp only [Option.some.injEq] at begun
    subst begun
    exact .inr ⟨oldPolicy, rfl, replace_check_valid checked⟩
  | replaceAborted | replaceCommitted => simp at begun
  | _ => exact .inl begun

theorem published_step (pub : Published sys) (ran : step sys call = some (next, reply)) : Published next := by
  refine ⟨sound_step pub.sound ran, ?_, ?_⟩
  · intro key pol hit
    cases step_frame pub.sound ran with
    | kept _ same | read _ _ _ same => exact pub.policies key pol (same ▸ hit)
    | installed _ _ called valid _ insertion =>
      rw [insertion, FiniteMap.lookup_put] at hit
      split at hit
      · simp only [Option.some.injEq] at hit
        subst hit
        rcases called with filed | ⟨_, replacing⟩
        · exact valid filed
        · exact pub.pending _ replacing
      · exact pub.policies key pol hit
  · intro pending begun
    rcases step_replacing pub.sound ran begun with before | ⟨_, _, valid⟩
    · exact pub.pending pending before
    · exact valid

theorem new_published : Published newBudgetSystem := by
  refine ⟨new_system_sound, ?_, ?_⟩
  · intro key pol hit
    simp [newBudgetSystem, newBudgetLimiter, Finmap.lookup_empty] at hit
  · intro pending begun
    simp [newBudgetSystem] at begun

variable {final : BudgetSystem}

theorem published_run (start : Published sys) (run : execute step sys calls = some (final, replies)) : Published final :=
  run_invariant Published (fun _ _ _ _ published _ transition => published_step published transition) start
    along_always run

def repolicies (keyID : String) : Call → Bool
  | .registerPolicy owner _ => owner == keyID
  | .replaceBegin owner _ _ => owner == keyID
  | _ => false

-- The fence over a key: some policy is published for it, and it is the given
-- one as long as nobody registers or replaces the key's policy again.
structure Fenced (key : String) (pol : BudgetPolicy) (same : Prop) (sys : BudgetSystem) : Prop where
  published : Published sys
  current : ∃ current, sys.limiter.policies.lookup key = some current ∧ (same → current = pol)
  closed : same → ∀ due, sys.replacing = some due → due.keyID ≠ key

theorem fenced_step {untouched : Prop} (fenced : Fenced key pol untouched sys) (quiet : untouched → repolicies key call = false)
    (ran : step sys call = some (next, reply)) : Fenced key pol untouched next := by
  have ok := fenced.published.sound
  refine ⟨published_step fenced.published ran, ?_, ?_⟩
  · obtain ⟨cur, hit, same⟩ := fenced.current
    cases step_frame ok ran with
    | kept _ unchanged | read _ _ _ unchanged => exact ⟨cur, unchanged ▸ hit, same⟩
    | installed own new called _ _ insertion =>
      rw [insertion, FiniteMap.lookup_put]
      by_cases owned : key = own
      · refine ⟨new, if_pos owned, fun calm => ?_⟩
        rcases called with filed | ⟨_, replacing⟩
        · have silent := quiet calm
          simp [filed, repolicies, owned] at silent
        · exact absurd owned.symm (fenced.closed calm _ replacing)
      · exact ⟨cur, by rw [if_neg owned]; exact hit, same⟩
  · intro calm pending begun
    rcases step_replacing ok ran begun with pre | ⟨oldPolicy, called, _⟩
    · exact fenced.closed calm pending pre
    · have silent := quiet calm
      simpa [called, repolicies] using silent

theorem fenced_run (start : ∀ same, Fenced key pol same sys) (run : execute step sys calls = some (final, replies)) :
    Fenced key pol (calls.all (fun call => !repolicies key call) = true) final := by
  refine run_invariant (Fenced key pol _) (fun _ _ _ _ fenced quiet transition => fenced_step fenced quiet transition)
    (start _) (along_of_forall ?_ sys) run
  intro _ call member calm
  simpa using List.all_eq_true.mp calm call member

theorem committed_fenced (pub : Published sys) (begun : sys.replacing = some pending) (ran : step sys (.replaceEnd true) = some (next, reply))
    (same : Prop) : Fenced pending.keyID pending.newPolicy same next := by
  have after := published_step pub ran
  simp only [step, begun, if_true] at ran
  cases ran
  refine ⟨after, ⟨pending.newPolicy, by simp [replaceCommit], fun _ => rfl⟩, ?_⟩
  intro _ other absurd
  simp at absurd

theorem admitted_under_current {read : Int} {cur : BudgetPolicy} {cand : Money} {i : Nat} {ds : List CommittedBudgetDelta} (pub : Published sys)
    (hit : sys.limiter.policies.lookup key = some cur)
    (ran : step sys (.reserve read key pol cand) = some (next, ⟨.reserved i, ds⟩)) : pol = cur := by
  have took : ∀ {lim : BudgetLimiter} {now : Int} {hold : BudgetReservation}, ReserveOutcome sys.limiter now key pol cand lim (.ok hold) →
        ReservePassed sys.limiter key pol cand := by
    intro lim now hold out
    cases out with
    | unlimited passed | free passed | admitted passed => exact passed
  cases step_outcome pub.sound ran with
  | reserved _ _ _ _ _ _ _ out =>
    have passed := took out
    exact (same_policy_eq (pub.policies key cur hit) passed.policyValid (passed.fence cur hit)).symm

def replacement : Call → Bool
  | .replaceBegin _ _ _ => true
  | .replaceEnd _ => true
  | _ => false

theorem replacement_keeps (ok : sys.Sound) (replaces : replacement call = true) (ran : step sys call = some (next, reply)) (key : String)
    (id : BudgetIdentity) : next.cell key id = sys.cell key id := by
  cases step_outcome ok ran with
  | replaceRefused | replaceOpened | replaceAborted => rfl
  | replaceCommitted => exact replace_commit_cell _ _ _ _ _
  | _ => simp [replacement] at replaces

theorem replacements_keep (ok : sys.Sound) (replaces : calls.all replacement = true) (run : execute step sys calls = some (final, replies))
    (key : String) (id : BudgetIdentity) : final.cell key id = sys.cell key id := by
  have got : final.Sound ∧ final.cell key id = sys.cell key id := by
    refine run_invariant (fun st => st.Sound ∧ st.cell key id = sys.cell key id) (fun _ _ _ _ kept allowed transition => ?_) ⟨ok, rfl⟩
      (along_of_forall (fun _ => List.all_eq_true.mp replaces) sys) run
    exact ⟨sound_step kept.1 transition, (replacement_keeps kept.1 allowed transition key id).trans kept.2⟩
  exact got.2

-- The policy fence. A reservation admitted before a replacement of its key's
-- policy settles into what it captured, in the runs the condition allows.
structure PolicyFence (settleable : List Call → String → Prop) : Prop where
  fenced : ∀ (calls more : List Call) (middle next final : BudgetSystem) (replies later : List Reply) (reply : Reply)
    (pending : PendingReplacement), Transition.execute step newBudgetSystem calls = some (middle, replies) →
    middle.replacing = some pending → step middle (.replaceEnd true) = some (next, reply) →
    Transition.execute step next more = some (final, later) →
    ∃ current, final.limiter.policies.lookup pending.keyID = some current ∧
      (more.all (fun call => !repolicies pending.keyID call) = true → current = pending.newPolicy) ∧
      ∀ reading policy candidate after index deltas,
        step final (.reserve reading pending.keyID policy candidate) = some (after, ⟨.reserved index, deltas⟩) → policy = current
  spend : ∀ (calls replacements : List Call) (middle final : BudgetSystem) (replies later : List Reply),
    Transition.execute step newBudgetSystem calls = some (middle, replies) → replacements.all replacement = true →
    Transition.execute step middle replacements = some (final, later) →
    ∀ keyID identity, final.cell keyID identity = middle.cell keyID identity
  settles : ∀ (before after : List Call) (early middle next : BudgetSystem) (replies later : List Reply) (reply : Reply)
    (pending : PendingReplacement) (index : Nat) (terminal : Terminal) (reservation : BudgetReservation),
    Transition.execute step newBudgetSystem before = some (early, replies) → index < early.reservations.length →
    early.replacing = some pending → Transition.execute step early (.replaceEnd true :: after) = some (middle, later) →
    middle.reservations[index]? = some reservation → reservation.keyID = pending.keyID → reservation.finalized = false →
    settleable (before ++ .replaceEnd true :: after ++ [.finalize index terminal]) pending.keyID →
    step middle (.finalize index terminal) = some (next, reply) →
    SettledInto reservation (chargeFor terminal.kind terminal.actual reservation.amount).amount middle next reply.deltas
  once : ∀ (calls more : List Call) (index : Nat) (terminal again : Terminal) (middle next final : BudgetSystem)
    (replies later : List Reply) (reply : Reply), Transition.execute step newBudgetSystem calls = some (middle, replies) →
    step middle (.finalize index terminal) = some (next, reply) → Transition.execute step next more = some (final, later) →
    step final (.finalize index again) = some (final, ⟨reply.answer, []⟩)
  aborted : ∀ (calls : List Call) (middle next : BudgetSystem) (replies : List Reply) (reply : Reply) (call : Call),
    Transition.execute step newBudgetSystem calls = some (middle, replies) → replacement call = true → call ≠ .replaceEnd true →
    step middle call = some (next, reply) → next.limiter = middle.limiter ∧ next.reservations = middle.reservations

-- The clock and the adjustments keep the key's states valid, and its amounts
-- together fit a counter.
def accountable (calls : List Call) (keyID : String) : Prop :=
  Transition.Along step (fun system call => lockSafe system call = true) newBudgetSystem calls ∧ bookedAmounts calls keyID ≤ maxMoneyMicros

theorem policy_fence {settleable : List Call → String → Prop} (counted : ∀ calls keyID, settleable calls keyID → accountable calls keyID) :
    PolicyFence settleable where
  fenced calls more middle next final replies later reply pending run opened transition rest := by
    have pub := published_run new_published run
    have fenced := fenced_run (committed_fenced pub opened transition) rest
    obtain ⟨cur, hit, same⟩ := fenced.current
    exact ⟨cur, hit, same, fun read pol cand after i ds took =>
      admitted_under_current fenced.published hit took⟩
  spend calls replacements middle final replies later run replaces rest key identity :=
    replacements_keep (sound_run new_system_sound run) replaces rest key identity
  settles before after early middle next replies later reply pending i terminal reservation first _ _ second present owned fresh
      allowed transition := by
    have account := counted _ _ allowed
    have run := Transition.execute_append first second
    have kept := conserved_run run (Transition.along_left account.1) pending.keyID
    have bound := account.2
    rw [booked_amounts_snoc run transition] at bound
    obtain ⟨_, _, _, paid⟩ := conserved_settles kept present owned fresh transition bound
    exact paid
  once calls more i terminal again middle next final replies later reply run transition rest :=
    repeated_finalization (sound_run new_system_sound run) transition rest again
  aborted calls middle next replies reply call run replaces unfinished transition := by
    cases step_outcome (sound_run new_system_sound run) transition with
    | replaceRefused | replaceOpened | replaceAborted => exact ⟨rfl, rfl⟩
    | replaceCommitted => exact absurd rfl unfinished
    | _ => simp [replacement] at replaces

-- A reservation under a total limit settles after the limit is taken away.
theorem policy_fence_removed_limit : ∃ middle next : BudgetSystem, ∃ reservation reply,
    SettledInto reservation 4 middle next reply.deltas ∧ step middle (.finalize 0 (.commit (.known 4))) = some (next, reply) ∧
    middle.limiter.policies.lookup "key" = some unlimitedBudgetPolicy :=
  ⟨_, _, _, _, (policy_fence (fun _ _ => id)).settles [.reserve 0 "key" (limitedBudgetPolicy (.known 100)) (.known 10),
        .replaceBegin "key" (limitedBudgetPolicy (.known 100)) unlimitedBudgetPolicy]
      [] _ _ _ _ _ _ ⟨"key", unlimitedBudgetPolicy⟩ 0 (.commit (.known 4)) _
      (Transition.execute_get (by decide)) (by decide) (by decide) (Transition.execute_get (by decide)) (Option.some_get (by decide)).symm
      (by decide) (by decide) ⟨by decide, by decide⟩ (Transition.outcome_get (by decide)),
    Transition.outcome_get (by decide), by decide⟩

-- An adjustment to the reserved cost itself, after the next day's admission has
-- dropped the admitting day, makes the state invalid for the reservation that is
-- still open. And where the lifetime counter has ten micros left, the first of two
-- reservations can settle for all of them.
theorem policy_fence_provisos_needed : ¬ PolicyFence (fun calls keyID => bookedAmounts calls keyID ≤ maxMoneyMicros) ∧
    ¬ PolicyFence (fun calls _ => Transition.Along step (fun system call => lockSafe system call = true) newBudgetSystem calls) := by
  constructor
  · intro fence
    have paid := fence.settles [.reserve 0 "key" (totalAndDailyBudgetPolicy (.known 100) (.known 50)) (.known 10), .finalize 0 .commitDeferred,
        .reserve dayNanos "key" (totalAndDailyBudgetPolicy (.known 100) (.known 50)) (.known 5),
        .replaceBegin "key" (totalAndDailyBudgetPolicy (.known 100) (.known 50)) unlimitedBudgetPolicy]
      [.adjust 0 (.known 10)] _ _ _ _ _ _ ⟨"key", unlimitedBudgetPolicy⟩ 1 (.commit (.known 5)) _
      (execute_get (by decide)) (by decide) (by decide) (execute_get (by decide)) (Option.some_get (by decide)).symm
      (by decide) (by decide) (by decide) (Transition.outcome_get (by decide))
    exact absurd (paid.captured .total (by decide)).1 (by decide)
  · intro fence
    have paid := fence.settles [.loadSpent ["key"] [⟨"key", .known 9223372036854775797, .total, zeroTime⟩],
        .reserve 0 "key" (limitedBudgetPolicy (.known 9223372036854775807)) (.known 5),
        .reserve 0 "key" (limitedBudgetPolicy (.known 9223372036854775807)) (.known 5),
        .replaceBegin "key" (limitedBudgetPolicy (.known 9223372036854775807)) unlimitedBudgetPolicy]
      [.finalize 0 (.commit (.known 10))] _ _ _ _ _ _ ⟨"key", unlimitedBudgetPolicy⟩ 1 (.commit (.known 5)) _
      (execute_get (by decide)) (by decide) (by decide) (execute_get (by decide)) (Option.some_get (by decide)).symm
      (by decide) (by decide) (by decide) (Transition.outcome_get (by decide))
    exact absurd (paid.captured .total (by decide)).1 (by decide)

end NineGateway.Budget
