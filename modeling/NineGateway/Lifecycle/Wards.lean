import NineGateway.Library.Roster

set_option autoImplicit false

namespace NineGateway.Lifecycle

-- Who may settle which reservation of a limiter: whether each is settled, the
-- ones in callers' hands, and for each admission the one it owns with whether it
-- has settled it.
structure Wards where
  settled : List Bool
  handles : List Nat
  owners : List (Option Nat × Bool)

namespace Wards

-- The label is the owner that settles its reservation for good. An owner that
-- gives up settles it too, and then owns nothing.
inductive Move (wards : Wards) : Option Nat → Wards → Prop where
  | idle : Move wards none wards
  | reserved : Move wards none { wards with settled := wards.settled ++ [false], handles := wards.handles ++ [wards.settled.length] }
  | settledOutside (i) (handed : i ∈ wards.handles) : Move wards none { wards with settled := wards.settled.set i true }
  | entered : Move wards none { wards with owners := wards.owners ++ [(none, false)] }
  | taken (own) (vacant : wards.owners[own]? = some (none, false)) :
      Move wards none { wards with settled := wards.settled ++ [false], owners := wards.owners.set own (some wards.settled.length, false) }
  | settledBy (own i) (owned : wards.owners[own]? = some (some i, false)) :
      Move wards (some own) { wards with settled := wards.settled.set i true, owners := wards.owners.set own (some i, true) }
  | abandoned (own i) (owned : wards.owners[own]? = some (some i, false)) :
      Move wards none { wards with settled := wards.settled.set i true, owners := wards.owners.set own (none, false) }

structure Sound (wards : Wards) : Prop where
  bounded : ∀ i ∈ wards.handles, i < wards.settled.length
  guarded : ∀ (own i : Nat) (spent : Bool), wards.owners[own]? = some (some i, spent) → wards.settled[i]? = some spent ∧ i ∉ wards.handles
  apart : ∀ (first second i : Nat) (one two : Bool), wards.owners[first]? = some (some i, one) →
    wards.owners[second]? = some (some i, two) → first = second

def Counted (own w : Nat) (wards : Wards) : Prop :=
  match wards.owners[own]? with
  | some (some _, spent) => w = spent.toNat
  | _ => w = 0

def Covered (wards : Wards) : Prop :=
  ∀ i, wards.settled[i]? = some false → i ∈ wards.handles ∨ ∃ own : Nat, wards.owners[own]? = some (some i, false)

variable {wards next : Wards} {label : Option Nat}

theorem move_sound (move : Move wards label next) (ok : Sound wards) : Sound next := by
  obtain ⟨bound, guarded, apart⟩ := id ok
  cases move with
  | idle => exact ok
  | reserved | settledOutside => refine ⟨?_, ?_, apart⟩ <;> grind
  | entered => refine ⟨bound, ?_, ?_⟩ <;> grind
  | taken | settledBy | abandoned => refine ⟨?_, ?_, ?_⟩ <;> grind

theorem move_counted {own w : Nat} (move : Move wards label next) (tally : Counted own w wards) :
    Counted own (w + if label = some own then 1 else 0) next := by
  unfold Counted at tally ⊢
  cases move with
  | idle | reserved | settledOutside => exact tally
  | _ => grind

theorem move_covered (move : Move wards label next) (covered : Covered wards) : Covered next := by
  intro i unsettled
  cases move with
  | taken own =>
    by_cases new : i = wards.settled.length
    · exact .inr ⟨own, by grind⟩
    · exact (covered i (by grind)).imp_right fun ⟨alt, held⟩ => ⟨alt, by grind⟩
  | reserved => grind [Covered]
  | _ => exact (covered i (by grind)).imp_right fun ⟨alt, held⟩ => ⟨alt, by grind⟩

end Wards

end NineGateway.Lifecycle
