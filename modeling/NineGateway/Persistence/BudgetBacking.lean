import NineGateway.Persistence.BudgetFlow
import Mathlib.Algebra.BigOperators.Group.Finset.Basic
import Mathlib.Algebra.Order.BigOperators.Group.Finset

set_option autoImplicit false

namespace NineGateway.Persistence

open Budget (BudgetSystem BudgetReservation BudgetAdjustmentTicket CommittedBudgetDelta)
open Storage (BudgetBucketIdentity)
open Coalesce (share)

structure Purse where
  tickets : List (Option BudgetAdjustmentTicket)
  hand : Nat → List CommittedBudgetDelta

namespace Purse

def credited (purse : Purse) (bin : BudgetBucketIdentity) (i : Nat) : Int := credit bin purse.tickets[i]?.join

-- What has to stay delivered for a reservation: a refund under way, and the
-- charge behind an open ticket as far as it is delivered.
def due (purse : Purse) (bin : BudgetBucketIdentity) (i : Nat) : Int :=
  max 0 (purse.credited bin i - amountOf (purse.hand i) bin)

def owed (purse : Purse) (bin : BudgetBucketIdentity) : Int := (Finset.range purse.tickets.length).sum (purse.due bin)

def Signed (purse : Purse) (i : Nat) : Prop :=
  (∀ d ∈ purse.hand i, 0 ≤ d.delta) ∨
    (∀ bin, purse.credited bin i = 0) ∧ ∀ d ∈ purse.hand i, d.delta ≤ 0

structure Sound (purse : Purse) : Prop where
  beyond : ∀ i, purse.tickets.length ≤ i → purse.hand i = []
  signed : ∀ i, purse.Signed i

def carry (purse : Purse) (i : Nat) (ds : List CommittedBudgetDelta) (tickets : List (Option BudgetAdjustmentTicket)) : Purse :=
  { tickets := tickets, hand := fun q => if q = i then purse.hand q ++ ds else purse.hand q }

def deliver (purse : Purse) (i : Nat) (rest : List CommittedBudgetDelta) : Purse :=
  { purse with hand := fun q => if q = i then rest else purse.hand q }

theorem sum_shift {length i : Nat} {pre after : Nat → Int} {change : Int} (inside : i < length) (here : after i ≤ pre i + change)
    (others : ∀ q, q ≠ i → after q = pre q) : (Finset.range length).sum after ≤ (Finset.range length).sum pre + change := by
  have mem := Finset.mem_range.mpr inside
  rw [← Finset.add_sum_erase _ after mem, ← Finset.add_sum_erase _ pre mem]
  have same : ∑ q ∈ (Finset.range length).erase i, after q = ∑ q ∈ (Finset.range length).erase i, pre q :=
    Finset.sum_congr rfl (fun q away => others q (Finset.ne_of_mem_erase away))
  omega

theorem owed_nonneg (purse : Purse) (bin : BudgetBucketIdentity) : 0 ≤ purse.owed bin :=
  Finset.sum_nonneg (fun _ _ => Int.le_max_left _ _)

variable {purse : Purse} {i : Nat} {ds rest : List CommittedBudgetDelta} {tickets : List (Option BudgetAdjustmentTicket)}

theorem delivered (ok : purse.Sound) {d : CommittedBudgetDelta} (next : purse.hand i = d :: rest) :
    (purse.deliver i rest).Sound ∧ ∀ bin, (purse.deliver i rest).owed bin ≤ purse.owed bin + share bin (entryOf d) := by
  have inside : i < purse.tickets.length := by
    by_contra beyond
    simp [ok.beyond i (Nat.not_lt.mp beyond)] at next
  have signed := ok.signed i
  simp only [Signed, next, List.forall_mem_cons] at signed
  refine ⟨⟨fun q beyond => ?_, fun q => ?_⟩, fun bin => ?_⟩
  · have away : q ≠ i := by
      rintro rfl
      exact absurd inside (Nat.not_lt.mpr beyond)
    simpa [deliver, away] using ok.beyond q beyond
  · by_cases here : q = i
    · subst q
      simp only [Signed, deliver, if_true, credited] at signed ⊢
      rcases signed with charges | ⟨spent, refunds⟩
      · exact .inl charges.2
      · exact .inr ⟨spent, refunds.2⟩
    · simpa [Signed, deliver, here, credited] using ok.signed q
  · refine sum_shift inside ?_ (fun q away => by simp [due, deliver, away, credited])
    have split : amountOf (purse.hand i) bin = share bin (entryOf d) + amountOf rest bin := by rw [next, amount_of_cons]
    simp only [due, deliver, if_true, split]
    rcases signed with charges | ⟨spent, refunds⟩
    · have here : 0 ≤ share bin (entryOf d) := by
        have unit := amount_of_nonneg bin (show ∀ alt ∈ [d], 0 ≤ alt.delta from by simpa using charges.1)
        simpa using unit
      simp only [credited]
      omega
    · have later := amount_of_nonpos bin refunds.2
      have none_ := spent bin
      simp only [credited] at none_ ⊢
      omega

theorem carry_nothing (purse : Purse) (i : Nat) (tickets : List (Option BudgetAdjustmentTicket)) :
    purse.carry i [] tickets = { purse with tickets := tickets } := by
  simp [carry]

theorem replaced {new : Option BudgetAdjustmentTicket} (ok : purse.Sound) (inside : i < purse.tickets.length)
    (signed : (purse.carry i ds (purse.tickets.set i new)).Signed i)
    (less : ∀ bin, (purse.carry i ds (purse.tickets.set i new)).due bin i ≤ purse.due bin i) :
    (purse.carry i ds (purse.tickets.set i new)).Sound ∧ ∀ bin, (purse.carry i ds (purse.tickets.set i new)).owed bin ≤ purse.owed bin := by
  refine ⟨⟨fun q beyond => ?_, fun q => ?_⟩, fun bin => ?_⟩
  · have outside : purse.tickets.length ≤ q := by simpa [carry] using beyond
    have away : q ≠ i := by
      rintro rfl
      exact absurd inside (Nat.not_lt.mpr outside)
    simpa [carry, away] using ok.beyond q outside
  · by_cases here : q = i
    · exact here ▸ signed
    · simpa [Signed, carry, here, credited, List.getElem?_set_ne (Ne.symm here)] using ok.signed q
  · have others : ∀ q, q ≠ i → (purse.carry i ds (purse.tickets.set i new)).due bin q = purse.due bin q := by
      intro q away
      simp [due, credited, carry, away, List.getElem?_set_ne (Ne.symm away)]
    have shifted := sum_shift inside (show _ ≤ purse.due bin i + 0 from by simpa using less bin) others
    simpa [owed, carry] using shifted

theorem carried {label : Option Nat} (ok : purse.Sound) (move : TicketMove purse.tickets label ds tickets)
    (own : ∀ target, label = some target → target = i) (empty : label ≠ none → purse.hand i = []) :
    (purse.carry i ds tickets).Sound ∧ ∀ bin, (purse.carry i ds tickets).owed bin ≤ purse.owed bin := by
  cases move with
  | still =>
    rw [carry_nothing]
    exact ⟨ok, fun _ => Int.le_refl _⟩
  | reserved =>
    rw [carry_nothing]
    have new := ok.beyond purse.tickets.length (Nat.le_refl _)
    have credits : ∀ bin q, credit bin (purse.tickets ++ [none])[q]?.join = purse.credited bin q := by
      intro bin q
      rcases Nat.lt_trichotomy q purse.tickets.length with inside | rfl | beyond
      · rw [List.getElem?_append_left inside, credited]
      · simp [credited, credit]
      · rw [List.getElem?_eq_none (by simp; omega), credited, List.getElem?_eq_none (Nat.le_of_lt beyond)]
    refine ⟨⟨fun q beyond => ok.beyond q ?_, fun q => ?_⟩, fun bin => ?_⟩
    · simp only [List.length_append, List.length_singleton] at beyond
      omega
    · simpa [Signed, credited, credits] using ok.signed q
    have dues : ∀ q, Purse.due { purse with tickets := purse.tickets ++ [none] } bin q = purse.due bin q := by
      intro q
      simp only [due, credited, credits]
    have nothing : purse.due bin purse.tickets.length = 0 := by simp [due, credited, credit, new]
    simp only [owed, dues, List.length_append, List.length_singleton, Finset.sum_range_succ, nothing, Int.add_zero]
    exact Int.le_refl _
  | settled _ _ _ unissued charges cov =>
    obtain rfl := own _ rfl
    have inside := (List.getElem?_eq_some_iff.mp unissued).1
    have hand := empty (by simp)
    refine replaced ok inside (.inl (by simpa [carry, hand] using charges)) (fun bin => ?_)
    have backed := cov bin
    simp only [due, credited, carry, if_true, hand, List.nil_append, List.getElem?_set_self inside, Option.join_some]
    omega
  | adjusted target ticket new ds issued _ used signed backed =>
    obtain rfl := own _ rfl
    have inside := (List.getElem?_eq_some_iff.mp issued).1
    have hand := empty (by simp)
    have spent : ∀ bin, (purse.carry target ds (purse.tickets.set target (some new))).credited bin target = 0 := by
      intro bin
      simp [credited, carry, inside, credit_used bin used]
    refine replaced ok inside ?_ (fun bin => ?_)
    · rcases signed with charges | refunds
      · exact .inl (by simpa [carry, hand] using charges)
      · exact .inr ⟨spent, by simpa [carry, hand] using refunds⟩
    have cov := backed bin
    rw [due, spent]
    simp only [due, credited, carry, if_true, hand, List.nil_append, issued, Option.join_some, amount_of_nil]
    omega
  | dropped target _ new issued used =>
    have inside := (List.getElem?_eq_some_iff.mp issued).1
    have spent : ∀ bin, (purse.carry target [] (purse.tickets.set target (some new))).credited bin target = 0 := by
      intro bin
      simp [credited, carry, inside, credit_used bin used]
    rw [carry_nothing, ← carry_nothing purse target]
    refine replaced ok inside ?_ (fun bin => ?_)
    · rcases ok.signed target with charges | ⟨_, refunds⟩
      · exact .inl (by simpa [carry] using charges)
      · exact .inr ⟨spent, by simpa [carry] using refunds⟩
    · have open_ := credit_nonneg bin purse.tickets[target]?.join
      rw [due, spent]
      simp only [due, credited, carry, if_true, List.append_nil]
      omega

end Purse

end NineGateway.Persistence
