import Mathlib.Algebra.Ring.Int.Defs
import NineGateway.Library.Word64
import NineGateway.Security.Input

set_option autoImplicit false

namespace NineGateway.Storage

open Security (identifierCharacter maxIdentifierBytes validateIdentifier validateRequestID)

abbrev Bytes := List UInt8

def maxCursorBytes : Nat := 1024

-- The AEAD of a repository and the raw URL encoding.
structure CursorCipher where
  nonceSize : Nat
  sealPayload : Bytes → Bytes → Bytes
  openPayload : Bytes → Bytes → Option Bytes
  encodeToString : Bytes → String
  decodeString : String → Option Bytes
  decodeEncoded : ∀ bytes, decodeString (encodeToString bytes) = some bytes
  decodeEmpty : decodeString "" = some []
  nonceFilled : 0 < nonceSize

inductive CursorError where
  | invalidCursor
deriving DecidableEq, Repr

structure APIKeyListCursor where
  snapshotSequence : Int
  createdAt : Int
  id : Bytes
deriving DecidableEq, Repr

structure RequestListCursor where
  snapshotSequence : Int
  finishedAt : Int
  finishedKnown : Bool
  requestID : Bytes
  filterDigest : Vector UInt8 32
  deletionSequence : Int
deriving DecidableEq, Repr

-- The low bytes of a two's complement number, the highest first.
def bigEndian : Nat → Int → Bytes
  | 0, _ => []
  | width + 1, value => bigEndian width (value / 256) ++ [UInt8.ofNat (value % 256).toNat]

def bigEndianValue (bytes : Bytes) : Int := bytes.foldl (fun value byte => value * 256 + byte.toNat) 0

def slice (bytes : Bytes) (start stop : Nat) : Bytes := (bytes.take stop).drop start

def validateCursorSyntax (cipher : CursorCipher) (value : String) : Bool :=
  if value = "" ∨ maxCursorBytes < value.utf8ByteSize then value = ""
  else decide (value.utf8ByteSize % 4 ≠ 1) && value.toList.all identifierCharacter &&
    (cipher.decodeString value).any (fun decoded => cipher.encodeToString decoded = value)

-- The nonce is none where the random source fails.
def sealCursor (signer : Option CursorCipher) (nonce : Option Bytes) (payload : Bytes) : Except CursorError String :=
  match signer, nonce with
  | some cipher, some nonce => .ok (cipher.encodeToString (nonce ++ cipher.sealPayload nonce payload))
  | _, _ => .error .invalidCursor

def openCursor (signer : Option CursorCipher) (value : String) : Option Bytes := do
  let cipher ← signer
  if maxCursorBytes < value.utf8ByteSize ∨ validateCursorSyntax cipher value = false then none
  else
    let text ← cipher.decodeString value
    if text.length ≤ cipher.nonceSize then none else cipher.openPayload (text.take cipher.nonceSize) (text.drop cipher.nonceSize)

def decodeCursor {α : Type} (parse : Bytes → Option α) (signer : Option CursorCipher) (value : String) : Except CursorError (Option α) :=
  if value = "" then .ok none
  else
    match (openCursor signer value).bind parse with
    | none => .error .invalidCursor
    | some cursor => .ok (some cursor)

def listPayload (cursor : APIKeyListCursor) : Bytes :=
  bigEndian 8 cursor.snapshotSequence ++ bigEndian 8 cursor.createdAt ++ bigEndian 2 cursor.id.length ++ cursor.id

def encodeListCursor (signer : Option CursorCipher) (nonce : Option Bytes) (cursor : APIKeyListCursor) : Except CursorError String :=
  if cursor.snapshotSequence ≤ 0 ∨ cursor.createdAt ≤ 0 ∨ cursor.id = [] then .error .invalidCursor
  else sealCursor signer nonce (listPayload cursor)

def parseListPayload (payload : Bytes) : Option APIKeyListCursor :=
  let idLength := bigEndianValue (slice payload 16 18)
  let id := payload.drop 18
  let snapshotSequence := Word64.wrap (bigEndianValue (slice payload 0 8))
  let created := Word64.wrap (bigEndianValue (slice payload 8 16))
  if payload.length < 18 then none
  else if idLength = 0 ∨ idLength ≠ payload.length - 18 ∨ maxIdentifierBytes < idLength ∨
      (String.fromUTF8? ⟨id.toArray⟩).any validateIdentifier = false then none
  else if snapshotSequence ≤ 0 ∨ created ≤ 0 then none
  else some ⟨snapshotSequence, created, id⟩

def decodeListCursor : Option CursorCipher → String → Except CursorError (Option APIKeyListCursor) := decodeCursor parseListPayload

def requestCursorMagic : Bytes := [114, 113, 3]

def requestPayload (cursor : RequestListCursor) : Bytes :=
  requestCursorMagic ++ [if cursor.finishedKnown then 1 else 0] ++ bigEndian 8 cursor.snapshotSequence ++ bigEndian 8 cursor.finishedAt ++
    bigEndian 8 cursor.deletionSequence ++ bigEndian 2 cursor.requestID.length ++ cursor.requestID ++ cursor.filterDigest.toList

def encodeRequestCursor (signer : Option CursorCipher) (nonce : Option Bytes) (cursor : RequestListCursor) : Except CursorError String :=
  if cursor.snapshotSequence ≤ 0 ∨ cursor.requestID = [] ∨ 256 < cursor.requestID.length then .error .invalidCursor
  else if validateRequestID ⟨cursor.requestID.toArray⟩ = false then .error .invalidCursor
  else if cursor.filterDigest.toList = List.replicate 32 0 then .error .invalidCursor
  else sealCursor signer nonce (requestPayload cursor)

def parseRequestPayload (payload : Bytes) : Option RequestListCursor :=
  let snapshotSequence := Word64.wrap (bigEndianValue (slice payload 4 12))
  let deletionSequence := Word64.wrap (bigEndianValue (slice payload 20 28))
  let idLength := (bigEndianValue (slice payload 28 30)).toNat
  let requestID := slice payload 30 (30 + idLength)
  if payload.length < 62 ∨ payload.take 3 ≠ requestCursorMagic ∨ ¬ (payload[3]? = some 0 ∨ payload[3]? = some 1) then none
  else if snapshotSequence ≤ 0 ∨ deletionSequence < 0 ∨ idLength = 0 ∨ idLength ≠ payload.length - 62 ∨ maxIdentifierBytes < idLength ∨
      validateRequestID ⟨requestID.toArray⟩ = false then none
  else some ⟨snapshotSequence, Word64.wrap (bigEndianValue (slice payload 12 20)), payload[3]? = some 1, requestID,
    Vector.ofFn (fun index => payload.getD (30 + idLength + index) 0), deletionSequence⟩

def decodeRequestCursor : Option CursorCipher → String → Except CursorError (Option RequestListCursor) := decodeCursor parseRequestPayload

section Layout

theorem big_endian_length (width : Nat) (value : Int) : (bigEndian width value).length = width := by
  induction width generalizing value with
  | zero => rfl
  | succ width ih => simp [bigEndian, ih]

theorem big_endian_head (width : Nat) {value : Int} (least : 0 ≤ value) (bound : value < 2 * 256 ^ width) :
    ∃ first rest, bigEndian (width + 1) value = first :: rest ∧ first ≤ 1 ∧ (value < 256 ^ width → first = 0) := by
  induction width generalizing value with
  | zero =>
    refine ⟨_, [], rfl, ?_, ?_⟩
    · have cases : value = 0 ∨ value = 1 := by omega
      rcases cases with rfl | rfl <;> decide
    · intro small
      obtain rfl : value = 0 := by omega
      rfl
  | succ width ih =>
    rw [pow_succ] at *
    obtain ⟨first, rest, split, most, zero⟩ := @ih (value / 256) (by omega) (by omega)
    exact ⟨first, rest ++ [_], by rw [bigEndian, split]; rfl, most, fun small => zero (by omega)⟩

theorem identifier_byte {rune : Char} (valid : identifierCharacter rune = true) : ∀ byte ∈ String.utf8EncodeChar rune, 1 < byte := by
  have range : 45 ≤ rune.toNat ∧ rune.toNat < 128 := by
    delta identifierCharacter Char.isAlphanum Char.isAlpha Char.isUpper Char.isLower at valid
    simp [Char.isDigit, UInt32.le_iff_toNat_le] at valid
    rcases valid with (((_ | _) | _) | rfl) | rfl
    all_goals first | omega | decide
  have size : rune.utf8Size = 1 := by
    rw [Char.utf8Size, if_pos]
    exact UInt32.le_iff_toNat_le.mpr (Nat.le_of_lt_succ range.2)
  intro byte mem
  rw [String.utf8EncodeChar_eq_singleton size, List.mem_singleton] at mem
  rw [mem, UInt8.lt_iff_toNat_lt, UInt32.toNat_toUInt8, Char.toNat_val, Nat.mod_eq_of_lt (by omega)]
  exact Nat.lt_of_lt_of_le (by decide) range.1

theorem identifier_bytes {bytes : Bytes} (valid : (String.fromUTF8? ⟨bytes.toArray⟩).any validateIdentifier = true) : ∀ byte ∈ bytes, 1 < byte := by
  obtain ⟨text, read, valid⟩ := Option.any_eq_true _ _ |>.mp valid
  have encoded : text.toByteArray = ⟨bytes.toArray⟩ := by
    unfold String.fromUTF8? at read
    split at read <;> cases read
    rfl
  rw [← String.utf8Encode_toList, List.utf8Encode] at encoded
  have same : text.toList.flatMap String.utf8EncodeChar = bytes := by simpa using congrArg (·.data.toList) encoded
  have runes : ∀ rune ∈ text.toList, identifierCharacter rune = true := by
    unfold validateIdentifier at valid
    split at valid
    · cases valid
    · simp_all [identifierCharacter]
  intro byte mem
  rw [← same] at mem
  obtain ⟨rune, there, mem⟩ := List.mem_flatMap.mp mem
  exact identifier_byte (runes rune there) byte mem

theorem list_payload_untagged (cursor : APIKeyListCursor) (least : 0 < cursor.snapshotSequence) (small : cursor.snapshotSequence < 2 ^ 56) :
    parseRequestPayload (listPayload cursor) = none := by
  obtain ⟨first, rest, split, _, zero⟩ := big_endian_head 7 (Int.le_of_lt least) (by omega)
  have untagged : (listPayload cursor).take 3 ≠ requestCursorMagic := by
    simp [listPayload, split, zero (by omega), requestCursorMagic]
  rw [parseRequestPayload]
  simp [untagged]

theorem request_payload_unnamed (cursor : RequestListCursor) (short : cursor.requestID.length ≤ 256) :
    parseListPayload (requestPayload cursor) = none := by
  obtain ⟨first, rest, split, low, _⟩ := big_endian_head 1 (Int.natCast_nonneg cursor.requestID.length) (by omega)
  have inside : first ∈ (requestPayload cursor).drop 18 := by
    refine List.mem_of_getElem? (i := 10) ?_
    simp [requestPayload, requestCursorMagic, split, List.getElem?_append, big_endian_length]
  have unnamed : (String.fromUTF8? ⟨((requestPayload cursor).drop 18).toArray⟩).any validateIdentifier = false := by
    by_contra valid
    have above := identifier_bytes (by simpa using valid) first inside
    exact absurd low (UInt8.not_le.mpr above)
  simp [parseListPayload, unnamed]

end Layout

section Separation

variable {writer reader : CursorCipher} {nonce payload : Bytes} {value : String}

-- A reader under the same key opens what was sealed, and one under another key
-- opens nothing else.
structure CursorCipher.Reads (writer reader : CursorCipher) : Prop where
  honest : ∀ nonce payload text, reader.openPayload nonce (writer.sealPayload nonce payload) = some text → text = payload
  size : reader.nonceSize = writer.nonceSize
  encoding : reader.encodeToString = writer.encodeToString

theorem decode_rejects {α : Type} {parse : Bytes → Option α} (reads : writer.Reads reader) (sized : nonce.length = writer.nonceSize)
    (foreign : parse payload = none) (made : sealCursor (some writer) (some nonce) payload = .ok value) :
    decodeCursor parse (some reader) value = .error .invalidCursor := by
  cases made
  rw [← reads.encoding]
  generalize joined : nonce ++ writer.sealPayload nonce payload = text
  have filled : reader.encodeToString text ≠ "" := by
    intro empty
    have decoded := reader.decodeEncoded text
    rw [empty, reader.decodeEmpty, ← joined] at decoded
    have short := congrArg List.length (Option.some.inj decoded)
    have least := writer.nonceFilled
    simp only [List.length_nil, List.length_append] at short
    omega
  have opened : (openCursor (some reader) (reader.encodeToString text)).bind parse = none := by
    simp only [openCursor, Option.bind_eq_bind, Option.bind_some, reader.decodeEncoded]
    split
    · rfl
    split
    · rfl
    · rw [reads.size, ← sized, ← joined, List.take_left, List.drop_left]
      cases read : reader.openPayload nonce (writer.sealPayload nonce payload) with
      | none => rfl
      | some => rw [reads.honest _ _ _ read, Option.bind_some, foreign]
  rw [decodeCursor, if_neg filled, opened]

theorem cursor_domains_separate (writer reader : CursorCipher) (reads : writer.Reads reader) (nonce : Bytes)
    (sized : nonce.length = writer.nonceSize) (value : String) :
    (∀ cursor : APIKeyListCursor, cursor.snapshotSequence < 2 ^ 56 → encodeListCursor (some writer) (some nonce) cursor = .ok value →
      decodeRequestCursor (some reader) value = .error .invalidCursor) ∧
      ∀ cursor : RequestListCursor, cursor.snapshotSequence < 2 ^ 56 → encodeRequestCursor (some writer) (some nonce) cursor = .ok value →
        decodeListCursor (some reader) value = .error .invalidCursor := by
  constructor
  · intro cursor small made
    unfold encodeListCursor at made
    split at made
    · cases made
    · exact decode_rejects reads sized (list_payload_untagged cursor (by omega) small) made
  · intro cursor _ made
    unfold encodeRequestCursor at made
    split at made
    · cases made
    · split at made
      · cases made
      · split at made
        · cases made
        · exact decode_rejects reads sized (request_payload_unnamed cursor (by omega)) made

end Separation

section Letters

def letter (half : Nat) : Char := Char.ofNat (97 + half)

def letterValue (rune : Char) : Option Nat := if 97 ≤ rune.toNat ∧ rune.toNat < 113 then some (rune.toNat - 97) else none

def encodeLetters (bytes : Bytes) : List Char := bytes.flatMap fun byte => [letter (byte.toNat / 16), letter (byte.toNat % 16)]

def decodeLetters : List Char → Option Bytes
  | [] => some []
  | [_] => none
  | high :: low :: rest => do
    let upper ← letterValue high
    let lower ← letterValue low
    let later ← decodeLetters rest
    return UInt8.ofNat (upper * 16 + lower) :: later

theorem letter_value : ∀ half < 16, letterValue (letter half) = some half := by decide

theorem letters_joined (byte : UInt8) : UInt8.ofNat (byte.toNat / 16 * 16 + byte.toNat % 16) = byte := by
  rw [Nat.div_add_mod', UInt8.ofNat_toNat]

theorem decode_encoded (bytes : Bytes) : decodeLetters (encodeLetters bytes) = some bytes := by
  induction bytes with
  | nil => rfl
  | cons byte rest ih =>
    have upper := letter_value (byte.toNat / 16) (Nat.div_lt_of_lt_mul byte.toNat_lt)
    have lower := letter_value (byte.toNat % 16) (Nat.mod_lt _ (by decide))
    rw [encodeLetters, List.flatMap_cons, ← encodeLetters]
    simp only [List.cons_append, List.nil_append, decodeLetters, upper, lower, ih, Option.bind_eq_bind, Option.bind_some, letters_joined,
      Option.pure_def]

-- Two letters for each byte are in the alphabet of a cursor.
def letterCipher : CursorCipher :=
  ⟨1, fun _ payload => payload, fun _ payload => some payload, fun bytes => String.ofList (encodeLetters bytes),
    fun text => decodeLetters text.toList, by simp [decode_encoded], rfl, by decide⟩

def listCursor : APIKeyListCursor := ⟨1, 1, [97]⟩

def requestCursor : RequestListCursor := ⟨1, 1, true, List.replicate 32 97, Vector.ofFn fun _ => 1, 0⟩

def sealedList : String := letterCipher.encodeToString ([7] ++ listPayload listCursor)

def sealedRequest : String := letterCipher.encodeToString ([7] ++ requestPayload requestCursor)

-- Each list accepts its own cursor and refuses that of the other.
theorem cursor_domains_separate_letters :
    decodeListCursor (some letterCipher) sealedList = .ok (some listCursor) ∧
      decodeRequestCursor (some letterCipher) sealedList = .error .invalidCursor ∧
      decodeRequestCursor (some letterCipher) sealedRequest = .ok (some requestCursor) ∧
      decodeListCursor (some letterCipher) sealedRequest = .error .invalidCursor := by
  have reads : letterCipher.Reads letterCipher := ⟨fun _ _ _ same => (Option.some.inj same).symm, rfl, rfl⟩
  have madeList : encodeListCursor (some letterCipher) (some [7]) listCursor = .ok sealedList := rfl
  have madeRequest : encodeRequestCursor (some letterCipher) (some [7]) requestCursor = .ok sealedRequest := by decide +kernel
  exact ⟨by decide +kernel, (cursor_domains_separate letterCipher letterCipher reads [7] rfl _).1 listCursor (by decide) madeList,
    by decide +kernel, (cursor_domains_separate letterCipher letterCipher reads [7] rfl _).2 requestCursor (by decide) madeRequest⟩

end Letters

end NineGateway.Storage
