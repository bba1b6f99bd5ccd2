import Mathlib.Algebra.Ring.Nat
import Mathlib.Data.Fin.Basic

set_option autoImplicit false

namespace NineGateway

def maxMoneyMicros : Nat := 9223372036854775807

instance (priority := 2000) maxMoneyNeZero : NeZero (maxMoneyMicros + 1) := ⟨Nat.succ_ne_zero maxMoneyMicros⟩

inductive MoneyError where
  | overflow
  | underflow
  | unknown
deriving DecidableEq, Repr

-- The constructors of the accounting package accept a known value only in
-- 0..MaxMoneyMicros, which the index carries; the zero Money{} is unknown.
inductive Money where
  | unknown
  | known (micros : Fin (maxMoneyMicros + 1))
deriving DecidableEq, Repr

namespace Money

def isKnown : Money → Bool
  | unknown => false
  | known _ => true

-- The numeric half of Micros(), zero for an unknown value.
def amount : Money → Nat
  | unknown => 0
  | known micros => micros.val

def ofMicros (micros : Nat) (bound : micros ≤ maxMoneyMicros) : Money := known ⟨micros, Nat.lt_succ_of_le bound⟩

def add : Money → Money → Except MoneyError Money
  | known left, known right =>
    if bound : left.val + right.val ≤ maxMoneyMicros then .ok (ofMicros (left.val + right.val) bound) else .error .overflow
  | _, _ => .ok unknown

def subtract : Money → Money → Except MoneyError Money
  | known left, known right =>
    if left.val < right.val then .error .underflow
    else .ok (ofMicros (left.val - right.val) (by have bound := left.isLt; omega))
  | _, _ => .ok unknown

def compare : Money → Money → Except MoneyError Ordering
  | known left, known right =>
    if left.val < right.val then .ok .lt else if right.val < left.val then .ok .gt else .ok .eq
  | _, _ => .error .unknown

def lessOrEqual (money other : Money) : Except MoneyError Bool := do
  let comparison ← money.compare other
  return comparison != .gt

def equal (money other : Money) : Except MoneyError Bool := do
  let comparison ← money.compare other
  return comparison == .eq

end Money

def knownZeroMoney : Money := .known 0

def validKnownMoney (value : Money) : Bool := value.isKnown

def isZeroMoney (value : Money) : Bool := value.isKnown && decide (value.amount = 0)

def sameMoney (first second : Money) : Bool :=
  match first.equal second with
  | .ok equal => equal
  | .error _ => false

-- The source tests a checked result with err != nil || !result.Known().
def knownResult : Except MoneyError Money → Option Money
  | .ok (.known micros) => some (.known micros)
  | _ => none

namespace Money

@[simp] theorem amount_unknown : unknown.amount = 0 := rfl

@[simp] theorem known_unknown : unknown.isKnown = false := rfl

@[simp] theorem amount_zero : knownZeroMoney.amount = 0 := rfl

@[simp] theorem known_zero : knownZeroMoney.isKnown = true := rfl

@[simp] theorem amount_of_micros (micros : Nat) (bound : micros ≤ maxMoneyMicros) : (ofMicros micros bound).amount = micros := rfl

@[simp] theorem known_of_micros (micros : Nat) (bound : micros ≤ maxMoneyMicros) : (ofMicros micros bound).isKnown = true := rfl

theorem amount_le (money : Money) : money.amount ≤ maxMoneyMicros := by
  cases money with
  | unknown => exact Nat.zero_le _
  | known micros => exact Nat.le_of_lt_succ micros.isLt

variable {first second : Money} {money : Money}

theorem amount_ext (known : first.isKnown = second.isKnown) (same : first.amount = second.amount) : first = second := by
  cases first with
  | unknown =>
    cases second with
    | unknown => rfl
    | known => cases known
  | known =>
    cases second with
    | unknown => cases known
    | known => exact congrArg Money.known (Fin.ext same)

theorem known_ext (left : first.isKnown = true) (right : second.isKnown = true)
    (same : first.amount = second.amount) : first = second := amount_ext (left.trans right.symm) same

theorem zero_iff (money : Money) : isZeroMoney money = true ↔ money = knownZeroMoney := by
  constructor
  · intro zero
    simp only [isZeroMoney, Bool.and_eq_true, decide_eq_true_eq] at zero
    exact known_ext zero.1 rfl zero.2
  · rintro rfl
    rfl

theorem amount_of_zero (zero : isZeroMoney money = true) : money.amount = 0 := by
  rw [(zero_iff money).mp zero]
  rfl

theorem pos_of_nonzero (known : money.isKnown = true) (nz : isZeroMoney money = false) : 0 < money.amount := by
  simp only [isZeroMoney, known, Bool.true_and, decide_eq_false_iff_not] at nz
  omega

theorem add_result (first second sum : Money) : knownResult (first.add second) = some sum ↔
      first.isKnown = true ∧ second.isKnown = true ∧ sum.isKnown = true ∧ sum.amount = first.amount + second.amount := by
  cases first with
  | unknown => simp [add, knownResult]
  | known first =>
    cases second with
    | unknown => simp [add, knownResult]
    | known second =>
      by_cases bound : first.val + second.val ≤ maxMoneyMicros
      · simp only [add, dif_pos bound, ofMicros, knownResult, Option.some.injEq]
        constructor
        · rintro rfl
          exact ⟨rfl, rfl, rfl, rfl⟩
        · rintro ⟨_, _, known, same⟩
          exact known_ext rfl known same.symm
      · simp only [add, dif_neg bound, knownResult]
        refine ⟨fun absurd => by simp at absurd, ?_⟩
        rintro ⟨_, _, _, same⟩
        have upper := amount_le sum
        simp only [amount] at same upper
        omega

theorem subtract_result (first second difference : Money) : knownResult (first.subtract second) = some difference ↔
      first.isKnown = true ∧ second.isKnown = true ∧ difference.isKnown = true ∧ second.amount ≤ first.amount ∧
        difference.amount = first.amount - second.amount := by
  cases first with
  | unknown => simp [subtract, knownResult]
  | known first =>
    cases second with
    | unknown => simp [subtract, knownResult]
    | known second =>
      by_cases short : first.val < second.val
      · simp only [subtract, if_pos short, knownResult, amount]
        refine ⟨fun absurd => by simp at absurd, ?_⟩
        rintro ⟨_, _, _, order, _⟩
        omega
      · simp only [subtract, if_neg short, ofMicros, knownResult, Option.some.injEq]
        constructor
        · rintro rfl
          exact ⟨rfl, rfl, rfl, by simp only [amount]; omega, rfl⟩
        · rintro ⟨_, _, known, _, same⟩
          exact known_ext rfl known same.symm

variable (left : first.isKnown = true)
include left

theorem add_known (right : second.isKnown = true) (fits : first.amount + second.amount ≤ maxMoneyMicros) :
    first.add second = .ok (ofMicros (first.amount + second.amount) fits) := by
  cases first with
  | unknown => simp at left
  | known =>
    cases second with
    | unknown => simp at right
    | known =>
      simp only [amount] at fits
      simp only [add, dif_pos fits, amount]

theorem add_overflow (right : second.isKnown = true) : first.add second = .error .overflow ↔ maxMoneyMicros < first.amount + second.amount := by
  cases first with
  | unknown => simp at left
  | known first =>
    cases second with
    | unknown => simp at right
    | known second =>
      by_cases bound : first.val + second.val ≤ maxMoneyMicros
      · simp only [add, dif_pos bound, amount]
        simpa using bound
      · simp only [add, dif_neg bound, amount]
        simpa using bound

theorem subtract_known (right : second.isKnown = true) (order : second.amount ≤ first.amount) :
    first.subtract second = .ok (ofMicros (first.amount - second.amount) (by have bound := amount_le first; omega)) := by
  cases first with
  | unknown => simp at left
  | known first =>
    cases second with
    | unknown => simp at right
    | known second =>
      have enough : ¬ first.val < second.val := Nat.not_lt.mpr order
      simp only [subtract, if_neg enough, amount]

theorem subtract_exists (right : second.isKnown = true) (order : second.amount ≤ first.amount) :
    ∃ difference, first.subtract second = .ok difference ∧ difference.isKnown = true ∧ second.amount + difference.amount = first.amount :=
  ⟨_, subtract_known left right order, rfl, by rw [amount_of_micros]; omega⟩

theorem subtract_underflow (right : second.isKnown = true)
    (short : first.amount < second.amount) : first.subtract second = .error .underflow := by
  cases first with
  | unknown => simp at left
  | known first =>
    cases second with
    | unknown => simp at right
    | known second =>
      have less : first.val < second.val := short
      simp only [subtract, if_pos less]

theorem compare_less (right : second.isKnown = true) (less : first.amount < second.amount) : first.compare second = .ok .lt := by
  cases first with
  | unknown => simp at left
  | known first =>
    cases second with
    | unknown => simp at right
    | known second =>
      have order : first.val < second.val := less
      simp only [compare, if_pos order]

theorem compare_greater (right : second.isKnown = true) (greater : second.amount < first.amount) : first.compare second = .ok .gt := by
  cases first with
  | unknown => simp at left
  | known first =>
    cases second with
    | unknown => simp at right
    | known second =>
      have order : second.val < first.val := greater
      have reverse : ¬ first.val < second.val := by omega
      simp only [compare, if_neg reverse, if_pos order]

omit left in
theorem compare_same (known : money.isKnown = true) : money.compare money = .ok .eq := by
  cases money with
  | unknown => simp at known
  | known => simp [compare]

theorem less_or_equal_known (right : second.isKnown = true) : first.lessOrEqual second = .ok (decide (first.amount ≤ second.amount)) := by
  cases first with
  | unknown => simp at left
  | known first =>
    cases second with
    | unknown => simp at right
    | known second =>
      simp only [lessOrEqual, compare, amount]
      by_cases less : first.val < second.val
      · simp [less, Nat.le_of_lt less, bind, Except.bind, pure, Except.pure]
      · by_cases greater : second.val < first.val
        · simp [less, greater, Nat.not_le.mpr greater, bind, Except.bind, pure, Except.pure]
        · have same : first.val ≤ second.val := Nat.not_lt.mp greater
          simp [less, greater, same, bind, Except.bind, pure, Except.pure]

omit left

theorem same_iff : sameMoney first second = true ↔ first.isKnown = true ∧ first = second := by
  cases first with
  | unknown => simp [sameMoney, equal, compare, bind, Except.bind]
  | known first =>
    cases second with
    | unknown => simp [sameMoney, equal, compare, bind, Except.bind]
    | known second =>
      by_cases less : first.val < second.val
      · have diff : first ≠ second := fun same => by simp [same] at less
        simp [sameMoney, equal, compare, less, bind, Except.bind, pure, Except.pure, isKnown, diff]
      by_cases greater : second.val < first.val
      · have diff : first ≠ second := fun same => by simp [same] at greater
        simp [sameMoney, equal, compare, less, greater, bind, Except.bind, pure, Except.pure, isKnown, diff]
      · have same : first = second := Fin.ext (by omega)
        simp [sameMoney, equal, compare, bind, Except.bind, pure, Except.pure, isKnown, same]

end Money

end NineGateway
