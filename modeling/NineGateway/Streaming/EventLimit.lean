import NineGateway.Streaming.Reader

set_option autoImplicit false

namespace NineGateway.Streaming

open Reader

structure SSEEventLimitReader where
  limit : Nat
  size : Nat
  bad : Bool
  lineBreaks : Nat
  pendingCR : Bool
deriving DecidableEq, Repr

def newSSEEventLimitReader (limit : Nat) : SSEEventLimitReader := ⟨limit, 0, false, 0, false⟩

namespace SSEEventLimitReader

def finishLineBreak (reader : SSEEventLimitReader) : SSEEventLimitReader :=
  if 2 ≤ reader.lineBreaks + 1 then { reader with size := 0, lineBreaks := 0 } else { reader with lineBreaks := reader.lineBreaks + 1 }

def observeByte (reader : SSEEventLimitReader) (value : UInt8) : SSEEventLimitReader :=
  if value = carriageReturn then { reader.finishLineBreak with pendingCR := true }
  else if value = lineFeed then { (if reader.pendingCR then reader else reader.finishLineBreak) with pendingCR := false }
  else { reader with pendingCR := false, lineBreaks := 0 }

def scan (reader : SSEEventLimitReader) : Bytes → SSEEventLimitReader × Nat
  | [] => (reader, 0)
  | byte :: rest =>
    let counted := { reader with size := reader.size + 1 }
    if counted.limit < counted.size then ({ counted with bad := true }, 0)
    else ((counted.observeByte byte).scan rest).map id (· + 1)

def read (reader : SSEEventLimitReader) (chunk : Bytes) : SSEEventLimitReader × Nat := if reader.bad then (reader, 0) else reader.scan chunk

end SSEEventLimitReader

def forward (reader : SSEEventLimitReader) : List Bytes → SSEEventLimitReader × Nat
  | [] => (reader, 0)
  | chunk :: rest => (forward (reader.read chunk).1 rest).map id ((reader.read chunk).2 + ·)

def limitReport (limit : Nat) (reads : List Bytes) : Option Nat :=
  let forwarded := forward (newSSEEventLimitReader limit) reads
  if forwarded.1.bad then some (forwarded.2 + 1) else none

def Reading.report (reading : Reading) : Option Nat := if reading.error = .eventTooLarge then some reading.offset else none

def readerReport (limit : Nat) (reads : List Bytes) : Option Nat := (readAll limit reads.flatten).report

-- How a line ends. A line feed that follows a carriage return belongs to its line.
inductive Ending where
  | unended
  | feed
  | ret
  | pair
deriving DecidableEq, Repr

def Ending.width : Ending → Nat
  | .unended => 0
  | .feed | .ret => 1
  | .pair => 2

-- A line, or several up to a blank one: the bytes before the ending of the last.
structure Piece where
  text : Nat
  ending : Ending
deriving DecidableEq, Repr

def Piece.size (piece : Piece) : Nat := piece.text + piece.ending.width

def Piece.blank (piece : Piece) : Bool := decide (piece.text = 0 ∧ piece.ending ≠ .unended)

-- The lines of a stream, of which the last one has no ending.
def cutLines (text : Nat) : Bytes → List Piece
  | [] => [⟨text, .unended⟩]
  | byte :: rest =>
    if byte = lineFeed then ⟨text, .feed⟩ :: cutLines 0 rest
    else if byte = carriageReturn then
      match rest with
      | [] => ⟨text, .ret⟩ :: cutLines 0 []
      | next :: tail => if next = lineFeed then ⟨text, .pair⟩ :: cutLines 0 tail else ⟨text, .ret⟩ :: cutLines 0 (next :: tail)
    else cutLines (text + 1) rest

-- The stretches of a stream end with a blank line each: an event that is closed is one,
-- and so is each further blank line.
def cutStretches (size : Nat) : List Piece → List Piece
  | [] => [⟨size, .unended⟩]
  | line :: rest => if line.blank then ⟨size, line.ending⟩ :: cutStretches 0 rest else cutStretches (size + line.size) rest

-- Of the blank lines that lie before, the last one first, sseEventLimitReader takes each
-- second one for the end of an event. One is left when their number is odd.
def unpaired (past : List Piece) : Bool := decide ((past.takeWhile (·.blank)).length % 2 = 1)

-- The line feed of a CRLF that closed a stretch.
def carried (past : List Piece) : Nat := if past.head?.any (fun last => decide (last.ending = .pair)) then 1 else 0

-- The bytes before a stretch that sseEventLimitReader counts to it.
def leading (past : List Piece) : Nat := if unpaired past then (past.head?.map (·.size)).getD 0 + carried past.tail else carried past

structure Frame where
  before : Nat
  counted : Nat
  size : Nat
deriving DecidableEq, Repr

-- The line feed of a CRLF is not counted to the stretch that it closes.
def frame (past : List Piece) (stretch : Piece) : Frame :=
  { before := leading past
    counted := if stretch.ending = .pair ∧ (stretch.blank = false ∨ unpaired past) then stretch.text + 1 else stretch.size
    size := stretch.size }

def cutFrames (past : List Piece) : List Piece → List Frame
  | [] => []
  | stretch :: rest => frame past stretch :: cutFrames (stretch :: past) rest

def frames (bytes : Bytes) : List Frame := cutFrames [] (cutStretches 0 (cutLines 0 bytes))

def Frame.exceeds (limit : Nat) (frame : Frame) : Bool := decide (limit < frame.before + frame.counted) || decide (limit < frame.size)

def SSEEventLimitReader.sizes (reader : SSEEventLimitReader) : Bytes → List Nat
  | [] => []
  | byte :: rest => (reader.size + 1) :: (SSEEventLimitReader.observeByte { reader with size := reader.size + 1 } byte).sizes rest

def firstOver (limit : Nat) (sizes : List Nat) : Option Nat := sizes.findIdx? (fun size => decide (limit < size))

-- Where in the stream the first report is, when each frame says at which of its bytes.
def firstReport (report : Frame → Option Nat) : List Frame → Option Nat
  | [] => none
  | frame :: rest => (report frame).or ((firstReport report rest).map (frame.size + ·))

def Frame.limitReport (limit : Nat) (frame : Frame) : Option Nat :=
  if limit < frame.before + frame.counted then some (limit - frame.before + 1) else none

def Frame.readerReport (limit : Nat) (frame : Frame) : Option Nat := if limit < frame.size then some (limit + 1) else none

open SSEEventLimitReader

@[simp] theorem first_over_cons (limit size : Nat) (sizes : List Nat) :
    firstOver limit (size :: sizes) = if limit < size then some 0 else (firstOver limit sizes).map (· + 1) := by
  simp [firstOver, List.findIdx?_cons]

section Limit

variable {reader : SSEEventLimitReader}

theorem finish_line_break_fields (reader : SSEEventLimitReader) :
    reader.finishLineBreak.limit = reader.limit ∧ reader.finishLineBreak.bad = reader.bad := by
  unfold finishLineBreak
  split <;> exact ⟨rfl, rfl⟩

theorem observe_byte_fields (reader : SSEEventLimitReader) (byte : UInt8) :
    (reader.observeByte byte).limit = reader.limit ∧ (reader.observeByte byte).bad = reader.bad := by
  have broken := finish_line_break_fields reader
  unfold observeByte
  split
  · exact broken
  split
  · split
    · exact ⟨rfl, rfl⟩
    · exact broken
  · exact ⟨rfl, rfl⟩

theorem scan_report (bytes rest : Bytes) (fine : reader.bad = false) : (firstOver reader.limit (reader.sizes (bytes ++ rest)) =
        if (reader.scan bytes).1.bad then some (reader.scan bytes).2
        else (firstOver reader.limit ((reader.scan bytes).1.sizes rest)).map ((reader.scan bytes).2 + ·)) ∧
      (reader.scan bytes).1.limit = reader.limit := by
  induction bytes generalizing reader with
  | nil => simp [scan, fine]
  | cons byte _ ih =>
    obtain ⟨limit, bad⟩ := observe_byte_fields { reader with size := reader.size + 1 } byte
    obtain ⟨report, kept⟩ := ih (bad.trans fine)
    rw [limit] at report kept
    by_cases excess : reader.limit < reader.size + 1
    · simp [scan, sizes, firstOver, excess, List.findIdx?_cons]
    simp only [scan, sizes, List.cons_append, firstOver, if_neg excess, List.findIdx?_cons, decide_eq_true_eq, Prod.map_fst, Prod.map_snd, id]
    refine ⟨?_, kept⟩
    rw [show ∀ sizes, List.findIdx? (fun size => decide (reader.limit < size)) sizes = firstOver reader.limit sizes from fun _ => rfl, report]
    split
    · rfl
    · simp [Function.comp_def, firstOver, Nat.add_right_comm]

theorem forward_bad (reads : List Bytes) (bad : reader.bad = true) : forward reader reads = (reader, 0) := by
  induction reads with
  | nil => rfl
  | cons _ _ ih => simp [forward, SSEEventLimitReader.read, bad, ih]

theorem forward_report (reads : List Bytes) (fine : reader.bad = false) :
    (if (forward reader reads).1.bad then some (forward reader reads).2 else none) = firstOver reader.limit (reader.sizes reads.flatten) := by
  induction reads generalizing reader with
  | nil => simp [forward, fine, SSEEventLimitReader.sizes, firstOver]
  | cons chunk rest ih =>
    obtain ⟨report, limit⟩ := scan_report chunk rest.flatten fine
    simp only [forward, SSEEventLimitReader.read, fine, Bool.false_eq_true, if_false, Prod.map_fst, Prod.map_snd, id, List.flatten_cons, report]
    cases bad : (reader.scan chunk).1.bad with
    | true => simp [forward_bad rest bad, bad]
    | false =>
      rw [← limit, ← ih bad]
      split <;> simp_all

end Limit

section Frames

variable {past : List Piece} {limit : Nat}

@[simp] theorem size_mk (text : Nat) (ending : Ending) : Piece.size ⟨text, ending⟩ = text + ending.width := rfl

@[simp] theorem blank_mk (text : Nat) (ending : Ending) : Piece.blank ⟨text, ending⟩ = decide (text = 0 ∧ ending ≠ .unended) := rfl

theorem ended_width {ending : Ending} (ended : ending ≠ .unended) : ending.width = 1 + if ending = .pair then 1 else 0 := by
  cases ending <;> simp_all [Ending.width]

@[simp] theorem unpaired_cons (stretch : Piece) (past : List Piece) : unpaired (stretch :: past) = (stretch.blank && !unpaired past) := by
  cases blank : stretch.blank with
  | false => simp [unpaired, blank]
  | true =>
    simp only [unpaired, List.takeWhile_cons_of_pos blank, List.length_cons, Bool.true_and]
    grind

theorem leading_paired (paired : unpaired past = false) : leading past = carried past := by simp [leading, paired]

@[simp] theorem leading_cons (stretch : Piece) (past : List Piece) : leading (stretch :: past) =
      if stretch.blank && !unpaired past then stretch.size + leading past else if stretch.ending = .pair then 1 else 0 := by
  rw [leading, unpaired_cons]
  cases both : stretch.blank && !unpaired past with
  | false => simp [carried]
  | true =>
    have paired : unpaired past = false := by simp_all
    simp [leading_paired paired]

theorem counted_le (past : List Piece) (stretch : Piece) : (frame past stretch).counted ≤ stretch.size := by
  simp only [frame, Piece.size]
  split
  · rename_i pair
    simp [pair.1, Ending.width]
  · exact Nat.le_refl _

-- The first of the stretches counts at least so many bytes.
def Reaches (past : List Piece) (stretches : List Piece) (size : Nat) : Prop :=
  ∃ first rest, stretches = first :: rest ∧ size ≤ (frame past first).counted

theorem stretches_reach (past : List Piece) (lines : List Piece) {size reached : Nat} (bound : reached ≤ size) :
    Reaches past (cutStretches size lines) reached := by
  induction lines generalizing size with
  | nil => exact ⟨_, _, rfl, by simpa [frame, Ending.width] using bound⟩
  | cons line rest ih =>
    unfold cutStretches
    split
    · refine ⟨_, _, rfl, ?_⟩
      simp only [frame, size_mk]
      split <;> omega
    · exact ih (by omega)

theorem limit_report_reached {stretches : List Piece} {size : Nat} (reaches : Reaches past stretches size)
    (sum : limit + 1 = leading past + size) (pos : 0 < size) :
    firstReport (Frame.limitReport limit) (cutFrames past stretches) = some size := by
  obtain ⟨first, rest, rfl, bound⟩ := reaches
  have exceeded : limit < (frame past first).before + (frame past first).counted := by simp only [frame] at bound ⊢; omega
  have place : limit - (frame past first).before + 1 = size := by simp only [frame]; omega
  simp [cutFrames, firstReport, Frame.limitReport, exceeded, place]

end Frames

section Counting

variable {limit size text : Nat} {reader after : SSEEventLimitReader} {past : List Piece} {ending : Ending}

structure Counting (limit : Nat) (reader : SSEEventLimitReader) (past : List Piece) (stretch text : Nat) : Prop where
  size : reader.size = leading past + stretch + text
  breaks : reader.lineBreaks = if text = 0 ∧ (0 < stretch ∨ unpaired past) then 1 else 0
  fits : reader.size ≤ limit

-- A line break is taken with one byte or two, and the second one is never part of what
-- the first one closes.
structure Broken (limit : Nat) (reader after : SSEEventLimitReader) (ending : Ending) : Prop where
  ended : ending ≠ .unended
  size : after.size = if reader.lineBreaks = 1 then ending.width - 1 else reader.size + ending.width
  breaks : after.lineBreaks = if reader.lineBreaks = 1 then 0 else 1
  first : reader.size + 1 ≤ limit
  fits : after.size ≤ limit

theorem counting_text {byte : UInt8} (counting : Counting limit reader past size text) (alt : byte ≠ lineFeed) (inside : byte ≠ carriageReturn)
    (fits : reader.size + 1 ≤ limit) : Counting limit (observeByte { reader with size := reader.size + 1 } byte) past size (text + 1) := by
  have sized := counting.size
  simp only [observeByte, if_neg alt, if_neg inside]
  exact ⟨by simp only; omega, by simp, fits⟩

theorem counting_line (counting : Counting limit reader past size text) (broken : Broken limit reader after ending) (shown : text ≠ 0) :
    Counting limit after past (size + text + ending.width) 0 := by
  have none : reader.lineBreaks = 0 := by simpa [shown] using counting.breaks
  have sized := counting.size
  have grown := broken.size
  have breaks := broken.breaks
  simp only [none, Nat.zero_ne_one, if_false] at grown breaks
  exact ⟨by omega, by rw [breaks, if_pos ⟨rfl, .inl (by omega)⟩], broken.fits⟩

-- A blank line closes what was before, or it is the first of two.
theorem blank_cases (counting : Counting limit reader past size 0) : reader.lineBreaks = 1 ∧ (decide (size = 0) && !unpaired past) = false ∨
    reader.lineBreaks = 0 ∧ size = 0 ∧ unpaired past = false := by
  have breaks := counting.breaks
  by_cases closes : 0 < size ∨ unpaired past = true
  · refine .inl ⟨by simpa [closes] using breaks, ?_⟩
    rcases closes with some | odd
    · simp [Nat.ne_of_gt some]
    · simp [odd]
  · simp only [not_or, Nat.not_lt, Nat.le_zero, Bool.not_eq_true] at closes
    exact .inr ⟨by simpa [closes.1, closes.2] using breaks, closes⟩

theorem counting_blank (counting : Counting limit reader past size 0) (broken : Broken limit reader after ending) :
    Counting limit after (⟨size, ending⟩ :: past) 0 0 := by
  have sized := counting.size
  have ended := broken.ended
  have width := ended_width ended
  have grown := broken.size
  have breaks := broken.breaks
  rcases blank_cases counting with ⟨second, closed⟩ | ⟨first, rfl, paired⟩
  · rw [second, if_pos rfl] at grown breaks
    have shut : (Piece.blank ⟨size, ending⟩ && !unpaired past) = false := by simpa [ended] using closed
    exact ⟨by rw [leading_cons, shut]; simp; omega, by rw [breaks, unpaired_cons, shut]; simp, broken.fits⟩
  · simp only [first, Nat.zero_ne_one, if_false] at grown breaks
    exact ⟨by simp [paired, ended]; omega, by simp [breaks, paired, ended], broken.fits⟩

theorem blank_fits (counting : Counting limit reader past size 0) (broken : Broken limit reader after ending) :
    Frame.limitReport limit (frame past ⟨size, ending⟩) = none := by
  have sized := counting.size
  have ended := broken.ended
  have width := ended_width ended
  have first := broken.first
  have fits := broken.fits
  have grown := broken.size
  rw [Frame.limitReport, if_neg]
  simp only [frame, size_mk, blank_mk, ended, ne_eq, not_false_eq_true, and_true]
  rcases blank_cases counting with ⟨second, closed⟩ | ⟨single, rfl, paired⟩
  · have shut : decide (size = 0) = false ∨ unpaired past = true := by grind
    simp only [shut, and_true]
    split at width <;> simp_all <;> omega
  · simp only [single, Nat.zero_ne_one, if_false] at grown
    simp [paired]
    omega

theorem break_limit_report {rest : Bytes} {later : List Piece} (counting : Counting limit reader past size text)
    (broken : Broken limit reader after ending) (ih : ∀ past size, Counting limit after past size 0 →
      (firstOver limit (after.sizes rest)).map (size + 1 + ·) = firstReport (Frame.limitReport limit) (cutFrames past (cutStretches size later))) :
    (firstOver limit (after.sizes rest)).map (size + text + ending.width + 1 + ·) =
      firstReport (Frame.limitReport limit) (cutFrames past (cutStretches size (⟨text, ending⟩ :: later))) := by
  unfold cutStretches
  by_cases blank : text = 0
  · subst blank
    rw [if_pos (by simp [broken.ended]), cutFrames, firstReport, blank_fits counting broken, ← ih _ _ (counting_blank counting broken)]
    simp [frame, Function.comp_def, Nat.add_assoc]
  · rw [if_neg (by simp [blank]), size_mk, ← Nat.add_assoc, ← ih _ _ (counting_line counting broken blank)]

theorem line_reaches (past : List Piece) (later : List Piece) (ended : ending ≠ .unended) :
    Reaches past (cutStretches size (⟨text, ending⟩ :: later)) (size + text + 1) := by
  have width := ended_width ended
  unfold cutStretches
  split
  · rename_i blank
    have none : text = 0 := by simp_all
    refine ⟨_, _, rfl, ?_⟩
    simp only [frame, size_mk]
    split <;> omega
  · exact stretches_reach _ _ (by simp only [size_mk]; omega)

theorem first_line (text : Nat) (bytes : Bytes) : ∃ line rest, cutLines text bytes = line :: rest ∧ text ≤ line.text := by
  fun_induction cutLines text bytes with
  | case6 _ _ _ _ _ ih =>
    obtain ⟨line, rest, cut, more⟩ := ih
    exact ⟨line, rest, cut, by omega⟩
  | _ => exact ⟨_, _, rfl, Nat.le_refl _⟩

theorem text_reaches (past : List Piece) (bytes : Bytes) : Reaches past (cutStretches size (cutLines (text + 1) bytes)) (size + text + 1) := by
  obtain ⟨line, rest, cut, more⟩ := first_line (text + 1) bytes
  rw [cut, cutStretches, if_neg (by simp [Piece.blank]; omega)]
  exact stretches_reach _ _ (by simp only [Piece.size]; omega)

theorem line_breaks (counting : Counting limit reader past size text) : reader.lineBreaks = 1 ∨ reader.lineBreaks = 0 := by
  rw [counting.breaks]
  split <;> simp

theorem single_report {byte : UInt8} {rest : Bytes} {later : List Piece} (single : ending = .feed ∨ ending = .ret)
    (counting : Counting limit reader past size text)
    (broke : after = { finishLineBreak { reader with size := reader.size + 1 } with pendingCR := after.pendingCR })
    (observed : observeByte { reader with size := reader.size + 1 } byte = after) (ih : ∀ past size, Counting limit after past size 0 →
      (firstOver limit (after.sizes rest)).map (size + 1 + ·) = firstReport (Frame.limitReport limit) (cutFrames past (cutStretches size later))) :
    (firstOver limit (reader.sizes (byte :: rest))).map (size + text + 1 + ·) =
      firstReport (Frame.limitReport limit) (cutFrames past (cutStretches size (⟨text, ending⟩ :: later))) := by
  have sized := counting.size
  have fits := counting.fits
  have ended : ending ≠ .unended := by rcases single with rfl | rfl <;> simp
  have width : ending.width = 1 := by rcases single with rfl | rfl <;> rfl
  simp only [SSEEventLimitReader.sizes, first_over_cons]
  split
  · rw [limit_report_reached (line_reaches past later ended) (by omega) (Nat.succ_pos _)]
    rfl
  · rename_i inside
    have broken : Broken limit reader after ending := by
      rw [broke]
      rcases line_breaks counting with breaks | breaks
      · exact ⟨ended, by simp [finishLineBreak, breaks, width], by simp [finishLineBreak, breaks], by omega, by simp [finishLineBreak, breaks]⟩
      · exact ⟨ended, by simp [finishLineBreak, breaks, width], by simp [finishLineBreak, breaks], by omega, by simp [finishLineBreak, breaks]; omega⟩
    rw [observed, ← break_limit_report counting broken ih, width]
    simp [Function.comp_def, Nat.add_assoc, Nat.add_comm, Nat.add_left_comm]

theorem pair_reaches (later : List Piece) (counting : Counting limit reader past size text) (first : reader.lineBreaks = 0) :
    Reaches past (cutStretches size (⟨text, .pair⟩ :: later)) (size + text + 2) := by
  by_cases blank : text = 0
  · subst blank
    rcases blank_cases counting with ⟨second, _⟩ | ⟨_, rfl, paired⟩
    · omega
    · exact ⟨_, _, rfl, by simp [frame, paired, Ending.width]⟩
  · rw [cutStretches, if_neg (by simp [blank])]
    exact stretches_reach _ _ (Nat.le_refl _)

theorem pair_report {rest : Bytes} {later : List Piece} (counting : Counting limit reader past size text)
    (ih : ∀ after past size, after.pendingCR = false → Counting limit after past size 0 →
      (firstOver limit (after.sizes rest)).map (size + 1 + ·) = firstReport (Frame.limitReport limit) (cutFrames past (cutStretches size later))) :
    (firstOver limit (reader.sizes (carriageReturn :: lineFeed :: rest))).map (size + text + 1 + ·) =
      firstReport (Frame.limitReport limit) (cutFrames past (cutStretches size (⟨text, .pair⟩ :: later))) := by
  have sized := counting.size
  have fits := counting.fits
  have breaks := line_breaks counting
  simp only [SSEEventLimitReader.sizes, first_over_cons]
  split
  · rw [limit_report_reached (line_reaches past later (by simp)) (by omega) (Nat.succ_pos _)]
    rfl
  rename_i inside
  simp only [observeByte, if_true, show lineFeed ≠ carriageReturn by decide, if_false]
  split
  · rename_i large
    rcases breaks with second | first
    · simp [finishLineBreak, second] at large
      omega
    · simp [finishLineBreak, first] at large
      rw [limit_report_reached (pair_reaches later counting first) (by omega) (Nat.succ_pos _)]
      rfl
  · rename_i small
    have broken : Broken limit reader { finishLineBreak { reader with size := reader.size + 1 } with
        size := (finishLineBreak { reader with size := reader.size + 1 }).size + 1, pendingCR := false } .pair := by
      refine ⟨by simp, ?_, ?_, by omega, Nat.not_lt.mp small⟩ <;> rcases breaks with breaks | breaks <;> simp [finishLineBreak, breaks, Ending.width]
    rw [← break_limit_report counting broken (fun past size => ih _ past size rfl)]
    simp [Function.comp_def, Nat.add_assoc, Nat.add_comm, Nat.add_left_comm, Ending.width]

theorem limit_sizes_report (bytes : Bytes) (alone : reader.pendingCR = true → bytes.head? ≠ some lineFeed)
    (counting : Counting limit reader past size text) : (firstOver limit (reader.sizes bytes)).map (size + text + 1 + ·) =
      firstReport (Frame.limitReport limit) (cutFrames past (cutStretches size (cutLines text bytes))) := by
  fun_induction cutLines text bytes generalizing reader past size with
  | case1 text =>
    have sized := counting.size
    have fits := counting.fits
    have inside : ¬ limit < leading past + (size + text) := by rw [← Nat.add_assoc, ← sized]; omega
    simp [SSEEventLimitReader.sizes, firstOver, cutStretches, cutFrames, firstReport, Frame.limitReport, frame, Ending.width, inside]
  | case2 text rest ih =>
    have apart : reader.pendingCR = false := by simpa using alone
    refine single_report (.inl rfl) counting (by simp [observeByte, apart, lineFeed, carriageReturn]) rfl fun past size => ih ?_
    simp [observeByte, lineFeed, carriageReturn]
  | case3 text _ ih => exact single_report (.inr rfl) counting (by simp [observeByte]) rfl fun past size => ih (by simp)
  | case4 text tail _ ih => exact pair_report counting fun after past size apart => ih (by simp [apart])
  | case5 text next tail alt _ ih =>
    exact single_report (.inr rfl) counting (by simp [observeByte]) rfl fun past size => ih (by simpa using fun _ => alt)
  | case6 text byte rest alt inside ih =>
    have sized := counting.size
    have fits := counting.fits
    simp only [SSEEventLimitReader.sizes, first_over_cons]
    split
    · rw [limit_report_reached (text_reaches past rest) (by omega) (Nat.succ_pos _)]
      rfl
    · rename_i small
      rw [← ih (by simp [observeByte, alt, inside]) (counting_text counting alt inside (by omega))]
      simp [Function.comp_def, Nat.add_assoc, Nat.add_comm, Nat.add_left_comm]

end Counting

section Reading

variable {reader : Reader} {past : List Piece} {base size text : Nat}

structure Standing (reader : Reader) (base stretch text : Nat) : Prop where
  size : reader.eventSize = stretch + text
  line : reader.line = [] ↔ text = 0
  offset : reader.offset = base + stretch + text
  fits : reader.eventSize ≤ reader.maxEventSize

theorem end_input_fits (reader : Reader) : reader.endInput ≠ .eventTooLarge := by
  unfold endInput
  split <;> simp

@[simp] theorem after_report (read : Reading) (event : Option SSEEvent) (offset : Nat) : (read.after event offset).report = read.report := by
  cases event <;> rfl

theorem end_line_fields (reader : Reader) : reader.endLine.1.eventSize = (if reader.line = [] then 0 else reader.eventSize) ∧
    reader.endLine.1.line = [] ∧ reader.endLine.1.maxEventSize = reader.maxEventSize ∧ reader.endLine.1.offset = reader.offset := by
  unfold endLine
  split
  · split <;> simp_all [resetEvent]
  split
  · simp_all
  · dsimp only
    split
    · simp_all
    · split <;> simp_all

theorem byte_reaches (past : List Piece) {bytes : Bytes} (busy : bytes ≠ []) :
    Reaches past (cutStretches size (cutLines text bytes)) (size + text + 1) := by
  fun_cases cutLines text bytes with
  | case1 => exact absurd rfl busy
  | case6 => exact text_reaches past _
  | _ => exact line_reaches past _ (by simp)

theorem reader_report_reached {stretches : List Piece} (longer : ∃ first rest, stretches = first :: rest ∧ size ≤ first.size)
    (large : reader.maxEventSize + 1 = size) :
    firstReport (Frame.readerReport reader.maxEventSize) (cutFrames past stretches) = some size := by
  obtain ⟨first, rest, rfl, bound⟩ := longer
  have excess : reader.maxEventSize < (frame past first).size := by simp only [frame]; omega
  simp [cutFrames, firstReport, Frame.readerReport, excess, large]

theorem reaches_longer {stretches : List Piece} (reaches : Reaches past stretches size) :
    ∃ first rest, stretches = first :: rest ∧ size ≤ first.size := by
  obtain ⟨first, rest, same, bound⟩ := reaches
  exact ⟨first, rest, same, Nat.le_trans bound (counted_le past first)⟩

theorem pair_longer (later : List Piece) :
    ∃ first rest, cutStretches size (⟨text, .pair⟩ :: later) = first :: rest ∧ size + text + 2 ≤ first.size := by
  unfold cutStretches
  split
  · rename_i blank
    have none : text = 0 := by simp_all
    exact ⟨_, _, rfl, by rw [none]; exact Nat.le_refl _⟩
  · exact reaches_longer (stretches_reach [] later (Nat.le_refl _))

theorem break_reader_report (ending : Ending) {rest : Bytes} {later : List Piece} {offset : Nat}
    (standing : Standing reader base (size + ending.width) text)
    (ended : ending ≠ .unended)
    (ih : ∀ past base size, Standing reader.endLine.1 base size 0 → (reader.endLine.1.readAll rest).report =
      (firstReport (Frame.readerReport reader.endLine.1.maxEventSize) (cutFrames past (cutStretches size later))).map (base + ·)) :
    ((reader.endLine.1.readAll rest).after reader.endLine.2 offset).report =
      (firstReport (Frame.readerReport reader.maxEventSize) (cutFrames past (cutStretches size (⟨text, ending⟩ :: later)))).map (base + ·) := by
  obtain ⟨eventSize, line, limit, offset⟩ := end_line_fields reader
  have sized := standing.size
  have placed := standing.offset
  have fits := standing.fits
  rw [after_report]
  unfold cutStretches
  by_cases blank : text = 0
  · subst blank
    have empty := standing.line.mpr rfl
    rw [if_pos (by simp [ended]), cutFrames, firstReport,
      ih (⟨size, ending⟩ :: past) (base + (size + ending.width)) 0
        ⟨by rw [eventSize, if_pos empty], by simp [line], by rw [offset, placed], by rw [eventSize, if_pos empty]; omega⟩, limit]
    have inside : ¬ reader.maxEventSize < size + ending.width := by omega
    simp [Frame.readerReport, frame, inside, Function.comp_def, Nat.add_assoc]
  · have shown : reader.line ≠ [] := by simpa [standing.line] using blank
    rw [if_neg (by simp [blank]), size_mk, ← Nat.add_assoc,
      ih past base (size + text + ending.width)
        ⟨by rw [eventSize, if_neg shown]; omega, by simp [line], by rw [offset, placed]; omega, by rw [eventSize, if_neg shown]; omega⟩, limit]

theorem cut_feed (text : Nat) (rest : Bytes) : cutLines text (lineFeed :: rest) = ⟨text, .feed⟩ :: cutLines 0 rest := by
  cases rest <;> simp [cutLines]

theorem cut_pair (text : Nat) (rest : Bytes) : cutLines text (carriageReturn :: lineFeed :: rest) = ⟨text, .pair⟩ :: cutLines 0 rest := by
  simp [cutLines, show carriageReturn ≠ lineFeed by decide]

theorem cut_return {rest : Bytes} (alone : rest.head? ≠ some lineFeed) :
    cutLines text (carriageReturn :: rest) = ⟨text, .ret⟩ :: cutLines 0 rest := by
  cases rest with
  | nil => simp [cutLines, show carriageReturn ≠ lineFeed by decide]
  | cons next tail => simp_all [cutLines, show carriageReturn ≠ lineFeed by decide]

theorem cut_text {byte : UInt8} {rest : Bytes} (alt : byte ≠ lineFeed) (inside : byte ≠ carriageReturn) :
    cutLines text (byte :: rest) = cutLines (text + 1) rest := by
  cases rest <;> simp [cutLines, alt, inside]

theorem count_standing (standing : Standing reader base size text) (fits : ¬ reader.countByte.maxEventSize < reader.countByte.eventSize) :
    Standing reader.countByte base (size + 1) text := by
  have sized := standing.size
  have placed := standing.offset
  refine ⟨?_, standing.line, ?_, Nat.not_lt.mp fits⟩ <;> simp only [countByte] <;> omega

theorem read_all_report (input : Bytes) (standing : Standing reader base size text) : (reader.readAll input).report =
      (firstReport (Frame.readerReport reader.maxEventSize) (cutFrames past (cutStretches size (cutLines text input)))).map (base + ·) := by
  -- Along the reader's own recursion, which takes the bytes as the lines do.
  fun_induction Reader.readAll reader input generalizing past base size text with
  | case1 reader =>
    have sized := standing.size
    have fits := standing.fits
    have inside : ¬ reader.maxEventSize < size + text := by omega
    simp [Reading.report, end_input_fits, cutLines, cutStretches, cutFrames, firstReport, Frame.readerReport, frame, Ending.width, inside]
  | case2 =>
    rename_i reader byte rest tally large
    have sized := standing.size
    have placed := standing.offset
    have fits := standing.fits
    simp only [tally, countByte] at large
    rw [reader_report_reached (reaches_longer (byte_reaches past (List.cons_ne_nil byte rest))) (by omega)]
    simp [Reading.report, tally, countByte, placed, Nat.add_assoc]
  | case3 =>
    rename_i small ih
    rw [cut_feed]
    exact break_reader_report .feed (count_standing standing small) (by simp) fun past base size => ih
  | case4 =>
    rename_i small _ ih
    exact break_reader_report .ret (count_standing standing small) (by simp) fun past base size => ih
  | case5 =>
    rename_i tally small tail both large _
    have sized := standing.size
    have placed := standing.offset
    simp only [both, tally, countByte] at small large
    rw [cut_pair, reader_report_reached (pair_longer _) (by omega)]
    simp [Reading.report, both, tally, countByte, placed, Nat.add_assoc]
  | case6 =>
    rename_i small _ _ inside _ ih
    exact break_reader_report .pair (count_standing (count_standing standing small) inside) (by simp) fun past base size => ih
  | case7 =>
    rename_i small next _ alt _ ih
    rw [cut_return (by simpa using alt)]
    exact break_reader_report .ret (count_standing standing small) (by simp) fun past base size => ih
  | case8 =>
    rename_i tally small alt inside ih
    have sized := standing.size
    have placed := standing.offset
    rw [cut_text alt inside]
    refine ih ⟨?_, by simp, ?_, Nat.not_lt.mp small⟩ <;> simp only [tally, countByte] <;> omega

end Reading

theorem limit_report_first (limit : Nat) (reads : List Bytes) :
    limitReport limit reads = (firstOver limit ((newSSEEventLimitReader limit).sizes reads.flatten)).map (1 + ·) := by
  have report : (if (forward (newSSEEventLimitReader limit) reads).1.bad then some (forward (newSSEEventLimitReader limit) reads).2 else none) =
      firstOver limit ((newSSEEventLimitReader limit).sizes reads.flatten) := forward_report reads rfl
  rw [← report, limitReport]
  split <;> simp [Nat.add_comm]

theorem limit_report_frames (limit : Nat) (reads : List Bytes) :
    limitReport limit reads = firstReport (Frame.limitReport limit) (frames reads.flatten) := by
  have counting : Counting limit (newSSEEventLimitReader limit) [] 0 0 := ⟨rfl, rfl, Nat.zero_le _⟩
  have alone : (newSSEEventLimitReader limit).pendingCR = true → reads.flatten.head? ≠ some lineFeed := by simp [newSSEEventLimitReader]
  rw [limit_report_first, frames, ← limit_sizes_report reads.flatten alone counting]

theorem reader_report_frames (limit : Nat) (reads : List Bytes) :
    readerReport limit reads = firstReport (Frame.readerReport limit) (frames reads.flatten) := by
  have standing : Standing (newReader limit) 0 0 0 := ⟨rfl, by simp [newReader], rfl, Nat.zero_le _⟩
  have report : (readAll limit reads.flatten).report = (firstReport (Frame.readerReport limit) (frames reads.flatten)).map (0 + ·) :=
    read_all_report reads.flatten standing
  simpa [readerReport] using report

theorem first_report_none {report : Frame → Option Nat} {frames : List Frame} :
    firstReport report frames = none ↔ ∀ frame ∈ frames, report frame = none := by
  induction frames with
  | nil => simp [firstReport]
  | cons _ _ ih => simp [firstReport, ih]

theorem read_all_fits_iff (limit : Nat) (input : Bytes) :
    (readAll limit input).error ≠ .eventTooLarge ↔ ∀ frame ∈ frames input, frame.size ≤ limit := by
  have report := reader_report_frames limit [input]
  rw [List.flatten_singleton] at report
  have none : firstReport (Frame.readerReport limit) (frames input) = none ↔ ∀ frame ∈ frames input, frame.size ≤ limit := by
    simp [first_report_none, Frame.readerReport]
  rw [← none, ← report, readerReport, List.flatten_singleton, Reading.report]
  simp

theorem sizes_bounded (reader : SSEEventLimitReader) (bytes : Bytes) : ∀ size ∈ reader.sizes bytes, size ≤ reader.size + bytes.length := by
  induction bytes generalizing reader with
  | nil => simp [sizes]
  | cons byte _ ih =>
    have smaller : (observeByte { reader with size := reader.size + 1 } byte).size ≤ reader.size + 1 := by
      simp only [observeByte, finishLineBreak]
      grind
    simp only [sizes, List.forall_mem_cons, List.length_cons]
    refine ⟨by omega, fun size hit => ?_⟩
    have bound := ih _ size hit
    omega

theorem short_stream_forwarded {limit : Nat} {reads : List Bytes} (short : reads.flatten.length ≤ limit) : limitReport limit reads = none := by
  rw [limit_report_first, Option.map_eq_none_iff, firstOver, List.findIdx?_eq_none_iff]
  intro size hit
  have bound := sizes_bounded _ _ size hit
  simp only [newSSEEventLimitReader] at bound
  exact decide_eq_false (by omega)

section Agreement

variable {past : List Piece} {limit : Nat}

theorem exceeds_false {frame : Frame} : Frame.exceeds limit frame = false ↔ frame.before + frame.counted ≤ limit ∧ frame.size ≤ limit := by
  simp [Frame.exceeds]

-- A stretch that keeps within the limit leaves no more than that to the next one.
theorem leading_bounded {stretch : Piece} (fits : Frame.exceeds limit (frame past stretch) = false) : leading (stretch :: past) ≤ limit := by
  obtain ⟨fits, small⟩ := exceeds_false.mp fits
  simp only [frame] at fits small
  rw [leading_cons]
  split
  · rename_i both
    have single : stretch.blank = true ∧ unpaired past = false := by simpa using both
    simp only [single, Bool.true_eq_false, Bool.false_eq_true, or_false, and_false, if_false] at fits
    omega
  split
  · rename_i pair
    simp only [Piece.size, pair, Ending.width] at small
    omega
  · exact Nat.zero_le _

theorem first_report_positive {report : Frame → Option Nat} (pos : ∀ frame place, report frame = some place → 0 < place) (frames : List Frame)
    {place : Nat} (reports : firstReport report frames = some place) : 0 < place := by
  induction frames generalizing place with
  | nil => simp [firstReport] at reports
  | cons frame rest ih =>
    rw [firstReport, Option.or_eq_some_iff] at reports
    rcases reports with here | ⟨_, later⟩
    · exact pos _ _ here
    · obtain ⟨place, past, rfl⟩ := Option.map_eq_some_iff.mp later
      exact Nat.add_pos_right _ (ih past)

theorem frames_agree_iff (stretches : List Piece) (within : leading past ≤ limit) :
    firstReport (Frame.limitReport limit) (cutFrames past stretches) = firstReport (Frame.readerReport limit) (cutFrames past stretches) ↔
      ∀ frame ∈ (cutFrames past stretches).find? (Frame.exceeds limit), frame.before = 0 ∧ limit < frame.counted := by
  induction stretches generalizing past with
  | nil => simp [cutFrames, firstReport]
  | cons stretch rest ih =>
    rw [cutFrames, firstReport, firstReport, List.find?_cons]
    have before : (frame past stretch).before = leading past := rfl
    have counted : (frame past stretch).counted ≤ (frame past stretch).size := counted_le past stretch
    cases exceeds : Frame.exceeds limit (frame past stretch) with
    | false =>
      rw [← ih (leading_bounded exceeds)]
      obtain ⟨fits, small⟩ := exceeds_false.mp exceeds
      simp only [Frame.limitReport, Frame.readerReport, Nat.not_lt.mpr fits, Nat.not_lt.mpr small, if_false, Option.none_or]
      exact (Option.map_injective fun _ _ same => Nat.add_left_cancel same).eq_iff
    | true =>
      have limited : ∀ place, firstReport (Frame.limitReport limit) (cutFrames (stretch :: past) rest) = some place → 0 < place := fun place =>
        first_report_positive (by simp only [Frame.limitReport]; grind) _
      have read : ∀ place, firstReport (Frame.readerReport limit) (cutFrames (stretch :: past) rest) = some place → 0 < place := fun place =>
        first_report_positive (by simp only [Frame.readerReport]; grind) _
      have either : limit < (frame past stretch).before + (frame past stretch).counted ∨ limit < (frame past stretch).size := by
        simpa [Frame.exceeds] using exceeds
      simp only [Option.mem_some_iff, forall_eq', Frame.limitReport, Frame.readerReport]
      constructor
      · intro same
        by_cases large : limit < (frame past stretch).before + (frame past stretch).counted
        · rw [if_pos large, Option.some_or] at same
          by_cases long : limit < (frame past stretch).size
          · rw [if_pos long, Option.some_or, Option.some.injEq] at same
            omega
          · rw [if_neg long, Option.none_or] at same
            obtain ⟨place, later, same⟩ := Option.map_eq_some_iff.mp same.symm
            have pos := read place later
            omega
        · have long : limit < (frame past stretch).size := either.resolve_left large
          rw [if_neg large, if_pos long, Option.none_or, Option.some_or] at same
          obtain ⟨place, later, same⟩ := Option.map_eq_some_iff.mp same
          have pos := limited place later
          omega
      · rintro ⟨none, large⟩
        rw [if_pos (by omega), if_pos (by omega), none]
        rfl

end Agreement

-- Both report the same offset, or neither reports one, exactly when no frame goes over
-- the limit, or the first that does has nothing counted to it from before and goes
-- over it also without the line feed of the CRLF that closes it.
theorem event_limits_agree_iff (limit : Nat) (reads : List Bytes) : limitReport limit reads = readerReport limit reads ↔
      ∀ frame ∈ (frames reads.flatten).find? (Frame.exceeds limit), frame.before = 0 ∧ limit < frame.counted := by
  rw [limit_report_frames, reader_report_frames]
  exact frames_agree_iff _ (Nat.zero_le _)

def crlfStream : List Bytes := [[97, 13, 10, 13, 10], [98, 10, 10, 10, 10, 99, 99, 99, 99, 99, 99]]

-- The second event has the line feed of a CRLF counted to it and keeps within the limit
-- with it; the third, after a pair of further blank lines, goes over it for both.
theorem event_limits_agree_crlf : limitReport 5 crlfStream = readerReport 5 crlfStream :=
  (event_limits_agree_iff 5 crlfStream).mpr (by decide +kernel)

-- A blank line before the first event is not one for sseEventLimitReader, which
-- goes on counting it with the event.
theorem leading_blank_line_counted : limitReport 2 [[lineFeed, 97, 98]] = some 3 ∧ readerReport 2 [[lineFeed, 97, 98]] = none := by
  decide +kernel

end NineGateway.Streaming
