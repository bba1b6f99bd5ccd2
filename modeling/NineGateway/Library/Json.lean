import Mathlib.Data.List.Nodup
import NineGateway.Library.Word64

set_option autoImplicit false

-- A JSON text as a tree. An object keeps its members in order, with the duplicates.
-- Of a number only an integer is ever read, so that a literal with a fraction or an
-- exponent is none.
inductive Json where
  | null
  | bool (value : Bool)
  | number (value : Option Int)
  | string (value : String)
  | array (items : List Json)
  | object (members : List (String × Json))

namespace Json

abbrev Members := List (String × Json)

-- Letter case is ignored over the names of the fields, which are ASCII: beyond the
-- capitals only the long s and the Kelvin sign fold to one of their letters.
def foldRune (rune : Char) : Char :=
  if 'A' ≤ rune ∧ rune ≤ 'Z' then Char.ofNat (rune.toNat + 32)
  else if rune = Char.ofNat 0x17f then 's'
  else if rune = Char.ofNat 0x212a then 'k'
  else rune

def folds (name spelling : String) : Bool := decide (name.toList.map foldRune = spelling.toList.map foldRune)

def spells (name spelling : String) : Bool := decide (name = spelling)

def values (members : Members) (named : String → Bool) : List Json := (members.filter (fun member => named member.1)).map Prod.snd

def lastMember (members : Members) (named : String → Bool) : Option Json := (values members named).getLast?

def lastNamed (members : Members) (named : String → Bool) : Option (String × Json) := (members.filter fun member => named member.1).getLast?

-- The last member that matches a name in some letter case is spelled exactly so, or it
-- repeats the value of the last one that is.
def SpelledLast (members : Members) (name : String) : Prop :=
  ∀ member ∈ lastNamed members (folds name), member.1 = name ∨ lastMember members (spells name) = some member.2

def duplicated (members : Members) (name : String) : Bool := decide (2 ≤ (values members (spells name)).length)

def int64 : Json → Option Int
  | .number (some value) => if Word64.minInt64 ≤ value ∧ value ≤ Word64.maxInt64 then some value else none
  | _ => none

def text : Json → Option String
  | .string value => some value
  | _ => none

def flag : Json → Option Bool
  | .bool value => some value
  | _ => none

def isNull : Json → Bool
  | .null => true
  | _ => false

-- The members that decoding into a struct reads.
def fields : Json → Option Members
  | .null => some []
  | .object members => some members
  | _ => none

-- Decoding works on a value that is there already: zero, or what an earlier member of
-- the same name left. None is a type mismatch, which refuses the whole text.
abbrev Into (α : Type) := α → Json → Option α

def scalar {α : Type} (decode : Json → Option α) : Into α := fun current value => if value.isNull then some current else decode value

def pointer {α : Type} (decode : Json → Option α) : Into (Option α) := fun _ value => if value.isNull then some none else (decode value).map some

def rawMessage : Into (Option Json) := fun _ value => some (some value)

-- A slice shows the first elements of its array. A shorter text leaves the elements
-- behind it, and a longer one decodes into them again.
structure Slice (α : Type) where
  backing : List α
  length : Nat

def Slice.empty {α : Type} : Slice α := ⟨[], 0⟩

def Slice.elements {α : Type} (slice : Slice α) : List α := slice.backing.take slice.length

def decodeElements {α : Type} (zero : α) (into : Into α) : List α → List Json → Option (List α)
  | backing, [] => some backing
  | backing, value :: rest => do
    let element ← into (backing.head?.getD zero) value
    let later ← decodeElements zero into backing.tail rest
    return element :: later

def slice {α : Type} (zero : α) (into : Into α) : Into (Slice α)
  | _, .null | _, .array [] => some .empty
  | current, .array values => (decodeElements zero into current.backing values).map fun backing => ⟨backing, values.length⟩
  | _, _ => none

-- Each member that matches a field of a struct is decoded into it, in their order.
def field {α : Type} (zero : α) (into : Into α) (members : Members) (named : String → Bool) : Option α := (values members named).foldlM into zero

def ascii (text : String) : List UInt8 := text.toList.map (fun rune => UInt8.ofNat rune.toNat)

def knowing (text : List UInt8) (members : Members) : List UInt8 → Option Json := fun data => if data = text then some (.object members) else none

theorem folds_self (name : String) : folds name name = true := by simp [folds]

section Fields

variable {α : Type} {mems : Members} {named others : String → Bool}

theorem values_congr (same : ∀ mem ∈ mems, named mem.1 = others mem.1) : values mems named = values mems others := by
  rw [values, values, List.filter_congr same]

theorem mem_values {name : String} {v : Json} (hit : (name, v) ∈ mems) (matches_ : named name = true) : v ∈ values mems named :=
  List.mem_map.mpr ⟨(name, v), List.mem_filter.mpr ⟨hit, matches_⟩, rfl⟩

theorem last_member_unique {name : String} {v : Json} (once : (mems.map Prod.fst).Nodup) (hit : (name, v) ∈ mems) :
    lastMember mems (spells name) = some v := by
  have inside : v ∈ values mems (spells name) := mem_values hit (by simp [spells])
  obtain ⟨_, ends⟩ := Option.isSome_iff_exists.mp (List.getLast?_isSome.mpr (List.ne_nil_of_mem inside))
  obtain ⟨mem, kept, rfl⟩ := List.mem_map.mp (List.mem_of_getLast? ends)
  obtain ⟨shown, spelled⟩ := List.mem_filter.mp kept
  have same : (name, v) = mem := List.inj_on_of_nodup_map once hit shown (by simpa [spells] using spelled)
  rw [lastMember, ends, ← same]

theorem field_congr (zero : α) (into : Into α) (same : ∀ mem ∈ mems, named mem.1 = others mem.1) :
    field zero into mems named = field zero into mems others := by
  rw [field, field, values_congr same]

theorem last_member_named (mems : Members) (named : String → Bool) : lastMember mems named = (lastNamed mems named).map Prod.snd := by
  rw [lastMember, values, List.getLast?_map, lastNamed]

theorem spells_folds {name spelling : String} (spelled : spells name spelling = true) : folds name spelling = true := by
  rw [← of_decide_eq_true spelled]
  exact folds_self name

-- The exactly spelled members are among those that match in any letter case.
theorem spelled_among_folded (mems : Members) (name : String) : (mems.filter fun mem => folds name mem.1).filter (fun mem => spells name mem.1) =
      mems.filter fun mem => spells name mem.1 := by
  rw [List.filter_filter]
  refine List.filter_congr fun mem _ => ?_
  cases spelled : spells name mem.1 with
  | false => rfl
  | true => simp [spells_folds spelled]

theorem none_spelled {name : String} (none : lastNamed mems (folds name) = none) : lastMember mems (spells name) = .none := by
  have empty := List.getLast?_eq_none_iff.mp none
  rw [lastMember, values, ← spelled_among_folded, empty]
  rfl

theorem last_spelled {name : String} {v : Json} (last : lastNamed mems (folds name) = some (name, v)) : lastMember mems (spells name) = some v := by
  obtain ⟨earlier, split⟩ := List.getLast?_eq_some_iff.mp last
  rw [lastMember, values, ← spelled_among_folded, split]
  simp [spells]

theorem same_last_iff (mems : Members) (name : String) : lastMember mems (folds name) = lastMember mems (spells name) ↔ SpelledLast mems name := by
  rw [SpelledLast, last_member_named mems (folds name)]
  cases last : lastNamed mems (folds name) with
  | none => simp [none_spelled last]
  | some mem =>
    obtain ⟨spelling, v⟩ := mem
    simp only [Option.map_some, Option.mem_some_iff, forall_eq']
    constructor
    · exact fun same => .inr same.symm
    · rintro (rfl | repeated)
      · exact (last_spelled last).symm
      · exact repeated.symm

end Fields

end Json
