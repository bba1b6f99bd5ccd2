import Mathlib.Data.List.Basic

set_option autoImplicit false

namespace NineGateway.Security

instance (priority := 2000) byteStringDecidableEq : DecidableEq ByteArray := ByteArray.instDecidableEq

def maxIdentifierBytes : Nat := 256

def identifierCharacter (character : Char) : Bool := character.isAlphanum || character = '-' || character = '_'

-- The grammar is ASCII, so that reading characters for bytes changes nothing.
def validateIdentifier (value : String) : Bool :=
  match value.toList with
  | [] => false
  | first :: rest => decide (value.utf8ByteSize ≤ maxIdentifierBytes) && first.isAlphanum && rest.all identifierCharacter

-- An identifier is ASCII, so that bytes which are no text are none.
def validateRequestID (value : ByteArray) : Bool :=
  decide (32 ≤ value.size) && (String.fromUTF8? value).any validateIdentifier

def asciiCharacter (byte : UInt8) : Char := Char.ofNat byte.toNat

section Ascii

theorem ascii_value (byte : UInt8) : (asciiCharacter byte).val = byte.toUInt32 := by
  have bound := byte.toNat_lt
  have valid : byte.toNat.isValidChar := Or.inl (by omega)
  apply UInt32.toNat_inj.mp
  rw [asciiCharacter, Char.ofNat, dif_pos valid, UInt8.toNat_toUInt32]
  rfl

theorem ascii_encode (byte : UInt8) (ascii : byte.toNat < 128) : String.utf8EncodeChar (asciiCharacter byte) = [byte] := by
  have size : (asciiCharacter byte).utf8Size = 1 := by
    have small : byte.toUInt32 ≤ 127 := by
      rw [UInt32.le_iff_toNat_le]
      simp only [UInt8.toNat_toUInt32, UInt32.reduceToNat]
      omega
    rw [Char.utf8Size, ascii_value]
    simp [small]
  rw [String.utf8EncodeChar_eq_singleton size, ascii_value]
  simp

theorem ascii_encode_all (bytes : List UInt8) (ascii : ∀ byte ∈ bytes, byte.toNat < 128) :
    (bytes.map asciiCharacter).flatMap String.utf8EncodeChar = bytes := by
  induction bytes with
  | nil => rfl
  | cons byte _ ih =>
    rw [List.forall_mem_cons] at ascii
    simp [List.flatMap_cons, ascii_encode byte ascii.1, ih ascii.2]

theorem ascii_text (v : ByteArray) (ascii : ∀ byte ∈ v.data.toList, byte.toNat < 128) :
    String.fromUTF8? v = some (String.ofList (v.data.toList.map asciiCharacter)) := by
  have encoded : (v.data.toList.map asciiCharacter).utf8Encode = v := by
    rw [List.utf8Encode, ascii_encode_all _ ascii]
    ext1
    simp
  have valid : v.IsValidUTF8 := ⟨_, encoded.symm⟩
  rw [String.fromUTF8?, dif_pos valid]
  congr 1
  apply String.toByteArray_inj.mp
  rw [String.toByteArray_ofList, encoded]
  rfl

end Ascii

-- unicode.IsSpace.
def isSpace (rune : Char) : Bool :=
  (9 ≤ rune.val && rune.val ≤ 13) || rune.val = 0x20 || rune.val = 0x85 || rune.val = 0xa0 || rune.val = 0x1680 ||
    (0x2000 ≤ rune.val && rune.val ≤ 0x200a) || rune.val = 0x2028 || rune.val = 0x2029 || rune.val = 0x202f || rune.val = 0x205f ||
    rune.val = 0x3000

-- What strings.TrimSpace leaves nothing of.
def blank (value : String) : Bool := value.toList.all isSpace

-- The encodings of the code points that isSpace holds of.
def whiteSpaces : List (List UInt8) :=
  ([9, 10, 11, 12, 13, 0x20, 0x85, 0xa0, 0x1680] ++ (List.range 11).map (0x2000 + ·) ++ [0x2028, 0x2029, 0x202f, 0x205f, 0x3000]).map
    (fun code => String.utf8EncodeChar (Char.ofNat code))

def trimLeft (spaces : List (List UInt8)) : Nat → List UInt8 → List UInt8
  | 0, data => data
  | fuel + 1, data =>
    match spaces.find? (fun space => space.isPrefixOf data) with
    | none => data
    | some space => trimLeft spaces fuel (data.drop space.length)

-- bytes.TrimSpace.
def trimSpace (data : List UInt8) : List UInt8 :=
  let left := trimLeft whiteSpaces data.length data
  (trimLeft (whiteSpaces.map List.reverse) left.length left.reverse).reverse

section Trim

variable {spaces : List (List UInt8)} {byte : UInt8}

def Visible (spaces : List (List UInt8)) (byte : UInt8) : Prop := ∀ space ∈ spaces, space ≠ [] ∧ byte ∉ space

instance (spaces : List (List UInt8)) (byte : UInt8) : Decidable (Visible spaces byte) := by unfold Visible; infer_instance

theorem visible_reversed (visible : Visible spaces byte) : Visible (spaces.map List.reverse) byte := by
  intro space mem
  obtain ⟨original, hit, rfl⟩ := List.mem_map.mp mem
  simpa using visible original hit

theorem trim_left_visible (visible : Visible spaces byte) (fuel : Nat) (rest : List UInt8) : trimLeft spaces fuel (byte :: rest) = byte :: rest := by
  cases fuel with
  | zero => rfl
  | succ =>
    have none : spaces.find? (fun space => space.isPrefixOf (byte :: rest)) = none := by
      rw [List.find?_eq_none]
      intro space mem
      obtain ⟨filled, gone⟩ := visible space mem
      cases space with
      | nil => exact absurd rfl filled
      | cons head =>
        have alt : head ≠ byte := fun same => gone (same ▸ List.mem_cons_self)
        simp [List.isPrefixOf, alt]
    simp [trimLeft, none]

theorem trim_left_keeps_end (visible : Visible spaces byte) (fuel : Nat) (rest : List UInt8) :
    ∃ kept, trimLeft spaces fuel (rest ++ [byte]) = kept ++ [byte] := by
  induction fuel generalizing rest with
  | zero => exact ⟨rest, rfl⟩
  | succ fuel ih =>
    rw [trimLeft]
    split
    · exact ⟨rest, rfl⟩
    rename_i space hit
    have starts : space <+: rest ++ [byte] := by simpa using List.find?_some hit
    obtain ⟨tail, whole⟩ := starts
    have gone := (visible space (List.mem_of_find?_eq_some hit)).2
    have short : space.length ≤ rest.length := by
      by_contra longer
      have last : byte ∈ space := by
        have whole_length := congrArg List.length whole
        have empty : tail = [] := by
          simp only [List.length_append, List.length_singleton] at whole_length
          exact List.eq_nil_of_length_eq_zero (by omega)
        rw [empty, List.append_nil] at whole
        simp [whole]
      exact gone last
    rw [List.drop_append_of_le_length short]
    exact ih _

theorem trim_space_head (visible : Visible whiteSpaces byte) (rest : List UInt8) : (trimSpace (byte :: rest)).head? = some byte := by
  obtain ⟨_, ended⟩ := trim_left_keeps_end (visible_reversed visible) (byte :: rest).length rest.reverse
  simp only [trimSpace, trim_left_visible visible, List.reverse_cons, ended, List.reverse_append, List.reverse_nil,
    List.nil_append, List.singleton_append,
    List.head?_cons]

theorem trim_space_between {last : UInt8} (visible : Visible whiteSpaces byte) (ending : Visible whiteSpaces last) (middle : List UInt8) :
    trimSpace (byte :: middle ++ [last]) = byte :: middle ++ [last] := by
  simp only [trimSpace, List.cons_append, trim_left_visible visible, List.reverse_cons, List.reverse_append, List.reverse_nil, List.nil_append,
    trim_left_visible (visible_reversed ending)]
  simp

end Trim

end NineGateway.Security
