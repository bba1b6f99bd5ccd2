import Mathlib.Data.List.Basic

set_option autoImplicit false

namespace NineGateway.Streaming

abbrev Bytes := List UInt8

def lineFeed : UInt8 := 10
def carriageReturn : UInt8 := 13
def space : UInt8 := 32
def colon : UInt8 := 58

structure SSEEvent where
  event : Bytes
  data : Bytes
deriving DecidableEq, Repr

inductive ReaderError where
  | eventTooLarge
  | eventIncomplete
  | eof
deriving DecidableEq, Repr

structure Reader where
  maxEventSize : Nat
  eventSize : Nat
  eventName : Bytes
  dataLines : List Bytes
  hasContent : Bool
  hasField : Bool
  line : Bytes
  offset : Nat
  lastEventEnd : Nat
deriving DecidableEq, Repr

def newReader (maxEventSize : Nat) : Reader :=
  { maxEventSize := maxEventSize, eventSize := 0, eventName := [], dataLines := [], hasContent := false, hasField := false, line := []
    offset := 0, lastEventEnd := 0 }

def dataField : Bytes := [100, 97, 116, 97]
def eventField : Bytes := [101, 118, 101, 110, 116]

-- A line comes without its terminator, so there is no line ending to trim.
def parseField (line : Bytes) : Bytes × Bytes :=
  match line.dropWhile (· ≠ colon) with
  | [] => (line, [])
  | _ :: value => (line.takeWhile (· ≠ colon), if value.head? = some space then value.tail else value)

def isCommentLine (line : Bytes) : Bool := line.head? = some colon

namespace Reader

def countByte (reader : Reader) : Reader := { reader with eventSize := reader.eventSize + 1, offset := reader.offset + 1 }

def resetEvent (reader : Reader) : Reader :=
  { reader with eventSize := 0, hasContent := false, hasField := false, eventName := [], dataLines := [], line := [] }

def endLine (reader : Reader) : Reader × Option SSEEvent :=
  if reader.line = [] then
    if reader.hasContent then
      (resetEvent { reader with lastEventEnd := reader.offset }, some ⟨reader.eventName, List.intercalate [lineFeed] reader.dataLines⟩)
    else (reader.resetEvent, none)
  else if isCommentLine reader.line then ({ reader with line := [] }, none)
  else
    let field := parseField reader.line
    if field.1 = dataField then ({ reader with line := [], hasField := true, hasContent := true, dataLines := reader.dataLines ++ [field.2] }, none)
    else if field.1 = eventField then ({ reader with line := [], hasField := true, eventName := field.2 }, none)
    else ({ reader with line := [], hasField := true }, none)

def endInput (reader : Reader) : ReaderError :=
  if reader.hasField || reader.hasContent || decide (reader.eventName ≠ []) || decide (reader.line ≠ []) && !isCommentLine reader.line ||
      decide ((parseField reader.line).1 = dataField) then .eventIncomplete
  else .eof

end Reader

-- What the calls of Next return until one fails: the events, each with the offset
-- at its end, the error and the offset it was found at.
structure Reading where
  events : List (SSEEvent × Nat)
  error : ReaderError
  offset : Nat
deriving DecidableEq, Repr

def Reading.after (reading : Reading) (event : Option SSEEvent) (offset : Nat) : Reading :=
  match event with
  | none => reading
  | some event => { reading with events := (event, offset) :: reading.events }

-- The buffered input shows the reads of the source as one sequence of bytes, so
-- that a line feed after a carriage return is found across them.
def Reader.readAll (reader : Reader) : Bytes → Reading
  | [] => ⟨[], reader.endInput, reader.offset⟩
  | byte :: rest =>
    let counted := reader.countByte
    if counted.maxEventSize < counted.eventSize then ⟨[], .eventTooLarge, counted.offset⟩
    else if byte = lineFeed then (counted.endLine.1.readAll rest).after counted.endLine.2 counted.offset
    else if byte = carriageReturn then
      match rest with
      | [] => (counted.endLine.1.readAll []).after counted.endLine.2 counted.offset
      | next :: tail =>
        if next = lineFeed then
          let both := counted.countByte
          if both.maxEventSize < both.eventSize then ⟨[], .eventTooLarge, both.offset⟩
          else (both.endLine.1.readAll tail).after both.endLine.2 both.offset
        else (counted.endLine.1.readAll (next :: tail)).after counted.endLine.2 counted.offset
    else Reader.readAll { counted with line := counted.line ++ [byte] } rest

def readAll (maxEventSize : Nat) (input : Bytes) : Reading := (newReader maxEventSize).readAll input

open Reader

section Steps

variable {reader : Reader} {byte : UInt8} {rest : Bytes}

theorem read_large (large : reader.maxEventSize < reader.eventSize + 1) :
    reader.readAll (byte :: rest) = ⟨[], .eventTooLarge, reader.offset + 1⟩ := by
  cases rest <;> simp [Reader.readAll, Reader.countByte, large]

theorem read_byte (alt : byte ≠ lineFeed) (inside : byte ≠ carriageReturn) (fits : reader.eventSize + 1 ≤ reader.maxEventSize) :
    reader.readAll (byte :: rest) = Reader.readAll { reader.countByte with line := reader.line ++ [byte] } rest := by
  cases rest <;> simp [Reader.readAll, Reader.countByte, Nat.not_lt.mpr fits, alt, inside]

theorem read_line_feed (fits : reader.eventSize + 1 ≤ reader.maxEventSize) :
    reader.readAll (lineFeed :: rest) = (reader.countByte.endLine.1.readAll rest).after reader.countByte.endLine.2 (reader.offset + 1) := by
  cases rest <;> simp [Reader.readAll, Reader.countByte, Nat.not_lt.mpr fits]

theorem read_return (alone : rest.head? ≠ some lineFeed) (fits : reader.eventSize + 1 ≤ reader.maxEventSize) :
    reader.readAll (carriageReturn :: rest) = (reader.countByte.endLine.1.readAll rest).after reader.countByte.endLine.2 (reader.offset + 1) := by
  cases rest with
  | nil => simp [Reader.readAll, Reader.countByte, Nat.not_lt.mpr fits, lineFeed, carriageReturn]
  | cons next =>
    have apart : next ≠ lineFeed := by simpa using alone
    simp [Reader.readAll, Reader.countByte, Nat.not_lt.mpr fits, apart, show carriageReturn ≠ lineFeed by decide]

theorem read_pair (fits : reader.eventSize + 2 ≤ reader.maxEventSize) : reader.readAll (carriageReturn :: lineFeed :: rest) =
      (reader.countByte.countByte.endLine.1.readAll rest).after reader.countByte.countByte.endLine.2 (reader.offset + 2) := by
  have first : ¬ reader.maxEventSize < reader.eventSize + 1 := by omega
  have second : ¬ reader.maxEventSize < reader.eventSize + 1 + 1 := by omega
  simp [Reader.readAll, Reader.countByte, first, second, show carriageReturn ≠ lineFeed by decide]

theorem end_data_line {v : Bytes} (shown : reader.line ≠ [] ∧ isCommentLine reader.line = false)
    (field : parseField reader.line = (dataField, v)) :
    reader.endLine = ({ reader with line := [], hasField := true, hasContent := true, dataLines := reader.dataLines ++ [v] }, none) := by
  simp [endLine, shown, field]

end Steps

section Limits

variable {reader : Reader} {limit : Nat}

theorem read_plain (bytes rest : Bytes) (plain : ∀ byte ∈ bytes, byte ≠ lineFeed ∧ byte ≠ carriageReturn)
    (fits : reader.eventSize + bytes.length ≤ reader.maxEventSize) : reader.readAll (bytes ++ rest) =
      Reader.readAll { reader with
        eventSize := reader.eventSize + bytes.length, offset := reader.offset + bytes.length, line := reader.line ++ bytes } rest := by
  induction bytes generalizing reader with
  | nil => simp
  | cons _ _ ih =>
    obtain ⟨⟨alt, inside⟩, later⟩ := List.forall_mem_cons.mp plain
    rw [List.length_cons] at fits
    rw [List.cons_append, read_byte alt inside (by omega), ih later (by simp only [Reader.countByte]; omega)]
    simp [Reader.countByte, Nat.add_comm, Nat.add_left_comm]

theorem read_plain_large (bytes rest : Bytes) (plain : ∀ byte ∈ bytes, byte ≠ lineFeed ∧ byte ≠ carriageReturn)
    (small : reader.eventSize ≤ reader.maxEventSize) (large : reader.maxEventSize < reader.eventSize + bytes.length) :
    (reader.readAll (bytes ++ rest)).error = .eventTooLarge := by
  induction bytes generalizing reader with
  | nil => simp only [List.length_nil] at large; omega
  | cons _ _ ih =>
    obtain ⟨⟨alt, inside⟩, later⟩ := List.forall_mem_cons.mp plain
    rw [List.length_cons] at large
    rw [List.cons_append]
    by_cases excess : reader.maxEventSize < reader.eventSize + 1
    · rw [read_large excess]
    · rw [read_byte alt inside (by omega)]
      exact ih later (by simp only [countByte]; omega) (by simp only [countByte]; omega)

theorem after_error (read : Reading) (event : Option SSEEvent) (offset : Nat) : (read.after event offset).error = read.error := by
  cases event <;> rfl

theorem end_line_limit (reader : Reader) (limit : Nat) :
    endLine { reader with maxEventSize := limit } = ({ reader.endLine.1 with maxEventSize := limit }, reader.endLine.2) := by
  unfold endLine
  dsimp only
  split
  · split <;> rfl
  split
  · rfl
  · split
    · rfl
    · split <;> rfl

theorem read_all_larger (input : Bytes) (larger : reader.maxEventSize ≤ limit) (fits : (reader.readAll input).error ≠ .eventTooLarge) :
    Reader.readAll { reader with maxEventSize := limit } input = reader.readAll input := by
  have ended : ∀ (tally : Reader) {rest : Bytes} {offset : Nat}, tally.maxEventSize ≤ limit →
      (tally.endLine.1.maxEventSize ≤ limit → (tally.endLine.1.readAll rest).error ≠ .eventTooLarge →
        Reader.readAll { tally.endLine.1 with maxEventSize := limit } rest = tally.endLine.1.readAll rest) →
      ((tally.endLine.1.readAll rest).after tally.endLine.2 offset).error ≠ .eventTooLarge →
      (Reader.readAll (Reader.endLine { tally with maxEventSize := limit }).1 rest).after
        (Reader.endLine { tally with maxEventSize := limit }).2 offset =
        (tally.endLine.1.readAll rest).after tally.endLine.2 offset := by
    intro tally rest offset bound ih fits
    have kept : tally.endLine.1.maxEventSize = tally.maxEventSize := congrArg (·.1.maxEventSize) (end_line_limit tally tally.maxEventSize)
    rw [after_error] at fits
    rw [end_line_limit, ih (by rwa [kept]) fits]
  have room : ∀ {tally : Reader}, ¬ tally.maxEventSize < tally.eventSize → tally.maxEventSize ≤ limit → tally.eventSize ≤ limit := by
    omega
  fun_induction Reader.readAll reader input with
  | case1 => rfl
  | case2 | case5 => exact absurd rfl fits
  | case3 =>
    rename_i reader rest tally small ih
    refine (read_line_feed ?_).trans (ended tally larger ih fits)
    exact room small larger
  | case4 =>
    rename_i reader tally small _ ih
    refine (read_return (by simp) ?_).trans (ended tally larger ih fits)
    exact room small larger
  | case6 =>
    rename_i reader tally _ tail both small _ ih
    refine (read_pair ?_).trans (ended both larger ih fits)
    exact room small larger
  | case7 =>
    rename_i reader tally small next tail alt _ ih
    refine (read_return (by simpa using alt) ?_).trans (ended tally larger ih fits)
    exact room small larger
  | case8 =>
    rename_i reader byte rest tally small alt inside ih
    refine (read_byte alt inside ?_).trans (ih larger fits)
    exact room small larger

theorem read_all_fitting {first second : Nat} {input : Bytes} (fits : (readAll first input).error ≠ .eventTooLarge)
    (large : (readAll second input).error ≠ .eventTooLarge) : readAll first input = readAll second input := by
  rcases Nat.le_total first second with less | less
  · exact (read_all_larger input less fits).symm
  · exact read_all_larger input less large

end Limits

end NineGateway.Streaming
