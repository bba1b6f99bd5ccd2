import NineGateway.Clock
import NineGateway.Money
import NineGateway.Library.FiniteMap

set_option autoImplicit false

namespace NineGateway.Budget

inductive SettlementCause where
  | invalidActual
  | arithmetic
  | state
deriving DecidableEq, Repr

inductive BudgetError where
  | invalid
  | state
  | capacity (resetAt : Int) (totalRejected : Bool)
  | policyReplacementConflict
  | settlement (cause : SettlementCause) (conservative : Bool)
deriving DecidableEq, Repr

structure BudgetPolicy where
  total : Money
  limited : Bool
  day : Money
  dayLimited : Bool
  month : Money
  monthLimited : Bool
deriving DecidableEq, Repr

def unlimitedBudgetPolicy : BudgetPolicy :=
  { total := .unknown, limited := false, day := .unknown, dayLimited := false, month := .unknown, monthLimited := false }

def limitedBudgetPolicy (total : Money) : BudgetPolicy := { unlimitedBudgetPolicy with total := total, limited := true }

def dailyBudgetPolicy (day : Money) : BudgetPolicy := { unlimitedBudgetPolicy with day := day, dayLimited := true }

def totalAndDailyBudgetPolicy (total day : Money) : BudgetPolicy := { limitedBudgetPolicy total with day := day, dayLimited := true }

-- What a budget counter is kept for: the lifetime of the key, one UTC day or
-- one UTC month. A delta's Period and PeriodStart name the same thing.
inductive BudgetIdentity where
  | total
  | day (start : Int)
  | month (start : Int)
deriving DecidableEq, Repr

structure BudgetDayState where
  spent : Money
  active : Money
deriving DecidableEq, Repr

-- The address stands for the *budgetState pointer, which a reservation keeps
-- and compares; it is given out once and never reused.
structure BudgetState where
  address : Nat
  spent : Money
  active : Money
  dayBuckets : FiniteMap Int BudgetDayState
  monthBuckets : FiniteMap Int BudgetDayState
  total : Money
  hasLimit : Bool
  dayLimit : Money
  hasDayLimit : Bool
  monthLimit : Money
  hasMonthLimit : Bool
  totalLoaded : Bool
  generation : Nat
deriving DecidableEq

-- The shards only spread the locks: a key always hashes to the same shard, so
-- together they are one map. The sequence counter is a uint64.
structure BudgetLimiter where
  states : FiniteMap String BudgetState
  policies : FiniteMap String BudgetPolicy
  sequence : Nat
  lastNow : Int
  nextAddress : Nat
deriving DecidableEq

def newBudgetLimiter : BudgetLimiter :=
  { states := ∅, policies := ∅, sequence := 0, lastNow := zeroTime, nextAddress := 0 }

def validKeyID (keyID : String) : Bool := decide (keyID ≠ "")

def validPolicy (policy : BudgetPolicy) : Bool :=
  policy.limited == validKnownMoney policy.total && policy.dayLimited == validKnownMoney policy.day &&
    policy.monthLimited == validKnownMoney policy.month

def sameBudgetPolicy (first second : BudgetPolicy) : Bool :=
  first.limited == second.limited && first.dayLimited == second.dayLimited && first.monthLimited == second.monthLimited &&
    (!first.limited || sameMoney first.total second.total) && (!first.dayLimited || sameMoney first.day second.day) &&
    (!first.monthLimited || sameMoney first.month second.month)

def applyBudgetPolicy (state : BudgetState) (policy : BudgetPolicy) : BudgetState :=
  { state with
    total := policy.total, hasLimit := policy.limited
    dayLimit := policy.day, hasDayLimit := policy.dayLimited
    monthLimit := policy.month, hasMonthLimit := policy.monthLimited
    totalLoaded := state.totalLoaded || policy.limited }

def sumFits (bucket : BudgetDayState) : Bool :=
  match bucket.spent.add bucket.active with
  | .ok _ => true
  | .error _ => false

def validCell (bucket : BudgetDayState) : Bool :=
  validKnownMoney bucket.spent && validKnownMoney bucket.active && sumFits bucket

-- Every failed check answers ErrBudgetState, so acceptance is a Boolean.
def validateBudgetState (state : BudgetState) : Bool :=
  decide (state.generation ≠ 0) && validCell ⟨state.spent, state.active⟩ &&
    (!state.hasLimit || validKnownMoney state.total) && (!state.hasDayLimit || validKnownMoney state.dayLimit) &&
    (!state.hasMonthLimit || validKnownMoney state.monthLimit) &&
    state.dayBuckets.every (fun start bucket => validDayStart start && validCell bucket) &&
    state.monthBuckets.every (fun start bucket => validMonthStart start && validCell bucket)

def held : Option BudgetState → BudgetIdentity → Option BudgetDayState
  | none, _ => none
  | some state, .total => some ⟨state.spent, state.active⟩
  | some state, .day start => state.dayBuckets.lookup start
  | some state, .month start => state.monthBuckets.lookup start

def spentIn : Option BudgetDayState → Nat
  | none => 0
  | some bucket => bucket.spent.amount

def activeIn : Option BudgetDayState → Nat
  | none => 0
  | some bucket => bucket.active.amount

def validStart : BudgetIdentity → Bool
  | .total => true
  | .day start => validDayStart start
  | .month start => validMonthStart start

@[simp] theorem held_none (id : BudgetIdentity) : held none id = none := rfl

variable (st : BudgetState)

@[simp] theorem held_total : held (some st) .total = some ⟨st.spent, st.active⟩ := rfl

@[simp] theorem held_day (start : Int) : held (some st) (.day start) = st.dayBuckets.lookup start := rfl

@[simp] theorem held_month (start : Int) : held (some st) (.month start) = st.monthBuckets.lookup start := rfl

@[simp] theorem spent_in_none : spentIn none = 0 := rfl

@[simp] theorem active_in_none : activeIn none = 0 := rfl

variable (bin : BudgetDayState)

@[simp] theorem spent_in_some : spentIn (some bin) = bin.spent.amount := rfl

@[simp] theorem active_in_some : activeIn (some bin) = bin.active.amount := rfl

@[simp] theorem held_apply_policy (pol : BudgetPolicy) (id : BudgetIdentity) :
    held (some (applyBudgetPolicy st pol)) id = held (some st) id := by
  cases id <;> rfl

theorem valid_cell_iff : validCell bin = true ↔
    bin.spent.isKnown = true ∧ bin.active.isKnown = true ∧ bin.spent.amount + bin.active.amount ≤ maxMoneyMicros := by
  simp only [validCell, validKnownMoney, Bool.and_eq_true, and_assoc]
  refine and_congr_right (fun sknown => and_congr_right (fun aknown => ?_))
  by_cases fits : bin.spent.amount + bin.active.amount ≤ maxMoneyMicros
  · simp [sumFits, Money.add_known sknown aknown fits, fits]
  · have excess := (Money.add_overflow sknown aknown).mpr (Nat.lt_of_not_le fits)
    simp [sumFits, excess, fits]

theorem valid_policy_iff (pol : BudgetPolicy) : validPolicy pol = true ↔
    pol.limited = pol.total.isKnown ∧ pol.dayLimited = pol.day.isKnown ∧ pol.monthLimited = pol.month.isKnown := by
  simp [validPolicy, validKnownMoney, and_assoc]

theorem same_policy_eq {first second : BudgetPolicy} (left : validPolicy first = true) (right : validPolicy second = true)
    (same : sameBudgetPolicy first second = true) : first = second := by
  have unknown_eq : ∀ {money alt : Money}, money.isKnown = false → alt.isKnown = false → money = alt := by
    intro money alt
    cases money <;> cases alt <;> simp [Money.isKnown]
  obtain ⟨leftTotal, leftDay, leftMonth⟩ := (valid_policy_iff first).mp left
  obtain ⟨rightTotal, rightDay, rightMonth⟩ := (valid_policy_iff second).mp right
  simp only [sameBudgetPolicy, Bool.and_eq_true, beq_iff_eq, Bool.or_eq_true, Bool.not_eq_true', Money.same_iff] at same
  obtain ⟨⟨⟨⟨⟨limited, dayLimited⟩, monthLimited⟩, total⟩, day⟩, m⟩ := same
  have period : ∀ {flag : Bool} {money alt : Money}, flag = money.isKnown → flag = alt.isKnown →
      (flag = false ∨ money.isKnown = true ∧ money = alt) → money = alt := by
    intro flag money alt own others alternative
    rcases alternative with off | ⟨_, equal⟩
    · exact unknown_eq (own ▸ off) (others ▸ off)
    · exact equal
  have totals := period leftTotal (limited.trans rightTotal) total
  have days := period leftDay (dayLimited.trans rightDay) day
  have months := period leftMonth (monthLimited.trans rightMonth) m
  cases first
  cases second
  simp_all

structure StateAccepted (st : BudgetState) : Prop where
  generation : st.generation ≠ 0
  total : st.hasLimit = true → st.total.isKnown = true
  day : st.hasDayLimit = true → st.dayLimit.isKnown = true
  month : st.hasMonthLimit = true → st.monthLimit.isKnown = true
  cells : ∀ id bin, held (some st) id = some bin → validStart id = true ∧ validCell bin = true

theorem validate_iff : validateBudgetState st = true ↔ StateAccepted st := by
  simp only [validateBudgetState, Bool.and_eq_true, decide_eq_true_eq, FiniteMap.every_iff, validKnownMoney]
  constructor
  · rintro ⟨⟨⟨⟨⟨⟨gen, totalCell⟩, total⟩, day⟩, m⟩, days⟩, months⟩
    refine ⟨gen, ?_, ?_, ?_, ?_⟩
    · intro limited
      simpa [limited] using total
    · intro limited
      simpa [limited] using day
    · intro limited
      simpa [limited] using m
    intro id bin has
    cases id with
    | total =>
      simp only [held_total, Option.some.injEq] at has
      exact ⟨rfl, has ▸ totalCell⟩
    | day start => exact days start bin has
    | month start => exact months start bin has
  · intro fine
    have flag : ∀ {limited : Bool} {money : Money}, (limited = true → money.isKnown = true) → (!limited || money.isKnown) = true := by
      rintro ⟨⟩ money implied
      · rfl
      · simpa using implied
    exact ⟨⟨⟨⟨⟨⟨fine.generation, (fine.cells .total _ rfl).2⟩, flag fine.total⟩, flag fine.day⟩,
      flag fine.month⟩, fun start bin has => fine.cells (.day start) bin has⟩,
      fun start bin has => fine.cells (.month start) bin has⟩

end NineGateway.Budget
