import NineGateway.Resource.Coordinator

set_option autoImplicit false

namespace NineGateway.Resource

open Budget (BudgetPolicy BudgetSystem)
open Token (TokenSystem)
open Transition

def limitsPeriod (policy : BudgetPolicy) : Bool := policy.limited || policy.dayLimited || policy.monthLimited

-- The lease owns the reservation that Reserve made for these options on the
-- budget limiter as it stood.
def Owns (before after : LeaseSystem) (reading : Int) (options : ResourceLeaseOptions) (lease : ResourceLease) : Prop :=
  ∃ budgets next index reservation, before.budgets = some budgets ∧ after.budgets = some next ∧ lease.budget = some index ∧
    next.reservations[index]? = some reservation ∧
    (Budget.reserve budgets.limiter reading options.keyID options.budgetPolicy options.budgetCandidate).2 = .ok reservation

-- Whatever other calls a run interleaves, an admission with this policy and
-- candidate comes with its budget reservation.
def BudgetCoverage (policy : BudgetPolicy) (candidate : Money) : Prop :=
  ∀ concurrency tokens budgets calls system replies,
    Transition.execute step (newResourceLeaseCoordinator concurrency tokens (some budgets)) calls = some (system, replies) →
      ∀ index reading admission next lease, system.admissions[index]? = some admission → admission.options.budgetPolicy = policy →
        admission.options.budgetCandidate = candidate → step system (.advance index reading) = some (next, .reached (.admitted lease)) →
          candidate.isKnown = true ∧ Owns system next reading admission.options lease

variable {sys next : LeaseSystem} {policy : BudgetPolicy} {candidate : Money} {opts : ResourceLeaseOptions} {read : Int}
variable {slot : Nat}

theorem budget_step_reserved {sys next : BudgetSystem} {key : String} {i : Nat} {ds : List Budget.CommittedBudgetDelta}
    (ran : Budget.step sys (.reserve read key policy candidate) = some (next, ⟨.reserved i, ds⟩)) : ∃ hold, next.reservations[i]? = some hold ∧
      (Budget.reserve sys.limiter read key policy candidate).2 = .ok hold := by
  simp only [Budget.step] at ran
  split at ran
  · simp at ran
  generalize Budget.reserve sys.limiter read key policy candidate = result at ran ⊢
  obtain ⟨_, ans⟩ := result
  cases ans with
  | error => simp [Budget.reserveStep] at ran
  | ok hold =>
    cases ran
    exact ⟨hold, by simp, rfl⟩

theorem admitted_owns {phase : Phase} {lease : ResourceLease} (limited : sys.budgets.isSome = true) (asked : budgetRequested opts = true)
    (out : AdvanceOutcome sys read opts slot phase next (.admitted lease)) :
    opts.budgetCandidate.isKnown = true ∧ Owns sys next read opts lease := by
  generalize target : Phase.admitted lease = reached at out
  cases out with
  | budgetUnasked _ free =>
    rcases free with gone | unrequested
    · simp [gone] at limited
    · rw [asked] at unrequested
      cases unrequested
  | budgetReserved _ budgets after i _ has known ran =>
    cases target
    obtain ⟨hold, stored, made⟩ := budget_step_reserved ran
    exact ⟨known, budgets, after, i, hold, has, rfl, rfl, stored, made⟩
  | budgetUnknown tokens | budgetRejected tokens => cases tokens <;> cases target
  | slotSpent | slotReturned =>
    unfold afterSlot at target
    split at target <;> cases target
  | _ => cases target

theorem advance_budgets {phase got : Phase} (out : AdvanceOutcome sys read opts slot phase next got) (limited : sys.budgets.isSome = true) :
    next.budgets.isSome = true := by
  cases out <;> first | exact limited | rfl

theorem step_budgets {call : Call} {rep : Reply} (limited : sys.budgets.isSome = true)
    (ran : step sys call = some (next, rep)) : next.budgets.isSome = true := by
  cases step_move ran with
  | advanced _ _ _ _ _ _ out =>
    have kept := advance_budgets out limited
    exact kept
  | budgets => rfl
  | _ => exact limited

theorem budgets_run {sys final : LeaseSystem} {cs : List Call} {outs : List Reply} (limited : sys.budgets.isSome = true)
    (run : execute step sys cs = some (final, outs)) : final.budgets.isSome = true := by
  exact run_invariant (fun sys => sys.budgets.isSome = true) (fun _ _ _ _ kept _ transition => step_budgets kept transition) limited along_always run

def plainOptions (policy : BudgetPolicy) (candidate : Money) : ResourceLeaseOptions :=
  { keyID := "key", maxConcurrency := 0, tokenWindows := [], tokenAmount := 0, budgetPolicy := policy, budgetCandidate := candidate }

def budgetPhase (options : ResourceLeaseOptions) : LeaseSystem :=
  { newResourceLeaseCoordinator none none (some Budget.newBudgetSystem) with
    slots := [⟨unlimitedLease options.keyID, false, false⟩], admissions := [⟨options, 0, .reservingBudget none⟩] }

theorem plain_reaches_budget (policy : BudgetPolicy) (candidate : Money) :
    execute step (newResourceLeaseCoordinator none none (some Budget.newBudgetSystem))
      [.acquire (plainOptions policy candidate), .advance 0 0] =
        some (budgetPhase (plainOptions policy candidate), [.started 0, .reached (.reservingBudget none)]) := rfl

theorem plain_unasked (unlimited : policy.limited = false) (unknown : candidate.isKnown = false) :
    ∃ next, step (budgetPhase (plainOptions policy candidate)) (.advance 0 0) = some (next, .reached (.admitted ⟨0, none, none⟩)) := by
  have unrequested : budgetRequested (plainOptions policy candidate) = false := by simp [budgetRequested, plainOptions, unlimited, unknown]
  simp [step, budgetPhase, advance, reserveBudget, newResourceLeaseCoordinator, unrequested]

theorem budget_not_covered (unlimited : policy.limited = false) (unknown : candidate.isKnown = false) : ¬ BudgetCoverage policy candidate := by
  intro coverage
  obtain ⟨next, took⟩ := plain_unasked unlimited unknown
  have known := (coverage none none Budget.newBudgetSystem _ _ _ (plain_reaches_budget policy candidate) 0 0 _ next _ rfl rfl rfl took).1
  rw [unknown] at known
  cases known

theorem budget_coverage_iff (policy : BudgetPolicy) (candidate : Money) :
    BudgetCoverage policy candidate ↔ (policy.limited || candidate.isKnown) = true := by
  constructor
  · intro coverage
    by_contra uncovered
    simp only [Bool.or_eq_true, not_or, Bool.not_eq_true] at uncovered
    exact budget_not_covered uncovered.1 uncovered.2 coverage
  · intro requested concurrency tokens budgets cs sys outs run i read adm next lease has samePolicy sameCandidate ran
    have limited := budgets_run rfl run
    simp only [step, has] at ran
    obtain ⟨⟨_, _⟩, ahead, ⟨⟩⟩ := Option.map_eq_some_iff.mp ran
    have asked : budgetRequested adm.options = true := by rw [budgetRequested, samePolicy, sameCandidate, requested]
    obtain ⟨known, owned⟩ := admitted_owns limited asked (advance_outcome ahead)
    exact ⟨sameCandidate ▸ known, owned⟩

theorem budget_coverage_daily_known : ∃ next,
    step (budgetPhase (plainOptions (Budget.dailyBudgetPolicy (.known 50)) (.known 10))) (.advance 0 0) =
      some (next, .reached (.admitted ⟨0, none, some 0⟩)) ∧
    Owns (budgetPhase (plainOptions (Budget.dailyBudgetPolicy (.known 50)) (.known 10))) next 0
      (plainOptions (Budget.dailyBudgetPolicy (.known 50)) (.known 10)) ⟨0, none, some 0⟩ :=
  ⟨_, Transition.outcome_reply (by decide) (by decide),
    ((budget_coverage_iff (Budget.dailyBudgetPolicy (.known 50)) (.known 10)).mpr (by decide) none none Budget.newBudgetSystem _ _ _
      (plain_reaches_budget _ _) 0 0 _ _ _ rfl rfl rfl (Transition.outcome_reply (by decide) (by decide))).2⟩

-- A daily limit alone, with a price nobody knows.
theorem budget_uncovered_daily_limit : ¬ ∀ policy candidate, limitsPeriod policy = true → BudgetCoverage policy candidate :=
  fun coverage => budget_not_covered rfl rfl (coverage (Budget.dailyBudgetPolicy (.known 50)) .unknown rfl)

end NineGateway.Resource
