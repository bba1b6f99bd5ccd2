import Mathlib.Data.List.Basic
import Mathlib.Data.List.Nodup
import NineGateway.Library.Word64

set_option autoImplicit false

namespace NineGateway.Observability

-- A kind is a text. Only the three named ones are stored.
inductive BodyKind where
  | clientRequest
  | upstreamRequest
  | response
  | other (text : String)
deriving DecidableEq, Repr

def validBodyKind : BodyKind → Bool
  | .other _ => false
  | _ => true

-- No bytes at all is the nil slice.
structure BodySnapshot where
  kind : BodyKind
  bytes : Option (List UInt8)
  originalSize : Int
  truncated : Bool
  captured : Bool
deriving DecidableEq, Repr

structure BodyRecorder where
  kind : BodyKind
  maxBytes : Int
  bytes : Option (List UInt8)
  original : Int
  captured : Bool
  finalized : Bool
  frozen : Option BodySnapshot
deriving DecidableEq, Repr

def newBodyRecorder (kind : BodyKind) (maxBytes : Int) : Except String BodyRecorder :=
  if !validBodyKind kind then .error "observability: invalid body kind"
  else if maxBytes < 0 then .error s!"observability: negative body bound {maxBytes}"
  else if Word64.maxInt64 < maxBytes then .error s!"observability: body bound {maxBytes} is too large"
  else
    .ok { kind := kind, maxBytes := maxBytes, bytes := if maxBytes = 0 then none else some [], original := 0, captured := false
          finalized := false, frozen := none }

def errFinalized : String := "observability: body recorder is finalized"

def errInvalidObservedCount : String := "observability: invalid observed byte count"

-- An empty slice with a backing array becomes an independent one, nil where
-- nothing was captured. Only a zero bound leaves a recorder without one.
def copied (captured : Bool) : Option (List UInt8) → Option (List UInt8)
  | some [] => if captured then some [] else none
  | bytes => bytes

namespace BodyRecorder

def writeObserved (recorder : BodyRecorder) (p : List UInt8) (accepted : Int) : BodyRecorder × Option String :=
  if recorder.finalized then (recorder, some errFinalized)
  else if accepted < 0 ∨ p.length < accepted then (recorder, some errInvalidObservedCount)
  else if Word64.maxInt64 - recorder.original < accepted then (recorder, some "observability: original body size overflow")
  else
    let held := recorder.bytes.getD []
    let seen := { recorder with captured := true, original := recorder.original + accepted }
    if recorder.maxBytes ≤ held.length ∨ accepted = 0 then (seen, none)
    else
      let remaining := recorder.maxBytes - held.length
      let remaining := if accepted < remaining then accepted else remaining
      ({ seen with bytes := some (held ++ p.take remaining.toNat) }, none)

def write (recorder : BodyRecorder) (p : List UInt8) : BodyRecorder × Nat × Option String :=
  match recorder.writeObserved p p.length with
  | (next, some err) => (next, 0, some err)
  | (next, none) => (next, p.length, none)

def freeze (recorder : BodyRecorder) (finalize : Bool) : BodyRecorder :=
  if recorder.finalized then recorder
  else
    let captured := recorder.captured || finalize
    { recorder with
      captured := captured, finalized := true
      frozen := some
        { kind := recorder.kind, bytes := recorder.bytes, originalSize := recorder.original
          truncated := decide ((recorder.bytes.getD []).length < recorder.original), captured := captured } }

def snapshot (recorder : BodyRecorder) : BodySnapshot :=
  match recorder.frozen with
  | some frozen => { frozen with bytes := copied frozen.captured frozen.bytes }
  | none =>
    { kind := recorder.kind, bytes := copied recorder.captured recorder.bytes, originalSize := recorder.original
      truncated := decide ((recorder.bytes.getD []).length < recorder.original), captured := recorder.captured }

end BodyRecorder

inductive Call where
  | write (p : List UInt8)
  | writeObserved (p : List UInt8) (accepted : Int)
  | snapshot
  | finalize
  | finalizeForHandoff
deriving DecidableEq, Repr

inductive Reply where
  | wrote (count : Nat) (err : Option String)
  | observed (err : Option String)
  | taken (snapshot : BodySnapshot)
  | handed
deriving DecidableEq, Repr

def step (recorder : BodyRecorder) : Call → BodyRecorder × Reply
  | .write p => ((recorder.write p).1, .wrote (recorder.write p).2.1 (recorder.write p).2.2)
  | .writeObserved p accepted => ((recorder.writeObserved p accepted).1, .observed (recorder.writeObserved p accepted).2)
  | .snapshot => (recorder.freeze false, .taken (recorder.freeze false).snapshot)
  | .finalize => (recorder.freeze true, .taken (recorder.freeze true).snapshot)
  | .finalizeForHandoff => (recorder.freeze true, .handed)

def replies (recorder : BodyRecorder) : List Call → List Reply
  | [] => []
  | call :: calls => (step recorder call).2 :: replies (step recorder call).1 calls

def requestBodySchemaSafetyMaxBytes : Int := 1 * 1024 * 1024

def errHistoryInvalidBody : String := "invalid request history body"

-- The validator copies the bytes of what it keeps, and an empty copy is nil.
def BodySnapshot.stored (body : BodySnapshot) : BodySnapshot :=
  { body with bytes := if body.bytes.getD [] = [] then none else body.bytes }

def validateBodies (seen : List BodyKind) : List BodySnapshot → Except String (List BodySnapshot)
  | [] => .ok []
  | body :: rest =>
    let length : Int := (body.bytes.getD []).length
    if !validBodyKind body.kind then .error errHistoryInvalidBody
    else if !body.captured then validateBodies seen rest
    else if body.kind ∈ seen ∨ !body.captured ∨ body.originalSize < 0 ∨ body.originalSize < length ∨
        requestBodySchemaSafetyMaxBytes < length ∨ body.truncated ≠ decide (length < body.originalSize) then .error errHistoryInvalidBody
    else (validateBodies (body.kind :: seen) rest).map (body.stored :: ·)

def validateHistoryBodies (bodies : List BodySnapshot) : Except String (List BodySnapshot) := validateBodies [] bodies

namespace Call

def observes : Call → Bool
  | .write _ | .writeObserved _ _ => true
  | _ => false

def accepts : Call → Bool
  | .write _ => true
  | .writeObserved p accepted => decide (0 ≤ accepted ∧ accepted ≤ p.length)
  | _ => false

-- The bytes a write lets the recorder see.
def acceptedBytes : Call → List UInt8
  | .write p => p
  | .writeObserved p accepted => if 0 ≤ accepted ∧ accepted ≤ p.length then p.take accepted.toNat else []
  | _ => []

-- The answer while the recorder is open.
def answer : Call → Reply
  | .write p => .wrote p.length none
  | call => .observed (if call.accepts then none else some errInvalidObservedCount)

-- The answer once the recorder has ended with a snapshot.
def ended (final : BodySnapshot) : Call → Reply
  | .write _ => .wrote 0 (some errFinalized)
  | .writeObserved _ _ => .observed (some errFinalized)
  | .snapshot | .finalize => .taken final
  | .finalizeForHandoff => .handed

end Call

-- One recorder's life: its writes, the call that ends it, and whatever is called
-- on it later.
structure Capture where
  kind : BodyKind
  bound : Nat
  writes : List Call
  ending : Call
  later : List Call
  known : validBodyKind kind = true
  bounded : bound ≤ requestBodySchemaSafetyMaxBytes
  observing : ∀ call ∈ writes, call.observes = true
  closing : ending.observes = false
  fits : (writes.flatMap Call.acceptedBytes).length ≤ Word64.maxInt64

namespace Capture

def observed (capture : Capture) : List UInt8 := capture.writes.flatMap Call.acceptedBytes

def kept (capture : Capture) : List UInt8 := capture.observed.take capture.bound

def captured (capture : Capture) : Bool := capture.writes.any Call.accepts || decide (capture.ending ≠ .snapshot)

def expected (capture : Capture) : BodySnapshot :=
  { kind := capture.kind, originalSize := capture.observed.length, truncated := decide (capture.kept ≠ capture.observed)
    captured := capture.captured
    bytes := if capture.kept ≠ [] then some capture.kept else if capture.bound ≠ 0 ∧ capture.captured then some [] else none }

end Capture

section Recording

variable (kind : BodyKind) (bound : Nat)

-- The open recorder that has seen these bytes.
def recording (seen : List UInt8) (captured : Bool) : BodyRecorder :=
  { kind := kind, maxBytes := bound, bytes := if bound = 0 then none else some (seen.take bound), original := seen.length
    captured := captured, finalized := false, frozen := none }

variable {seen p : List UInt8} (captured : Bool)

theorem recording_held : (recording kind bound seen captured).bytes.getD [] = seen.take bound := by
  by_cases zero : bound = 0
  · simp [recording, zero]
  · simp [recording, zero]

theorem write_observed_recording {accepted : Nat} (inside : accepted ≤ p.length) (fits : (seen ++ p.take accepted).length ≤ Word64.maxInt64) :
    (recording kind bound seen captured).writeObserved p accepted = (recording kind bound (seen ++ p.take accepted) true, none) := by
  have total : (seen ++ p.take accepted).length = seen.length + accepted := by simp [inside]
  rw [total] at fits
  push_cast at fits
  have valid : ¬ ((accepted : Int) < 0 ∨ (p.length : Int) < accepted) := by omega
  have room : ¬ Word64.maxInt64 - (seen.length : Int) < accepted := by omega
  have size : (seen.take bound).length = min bound seen.length := List.length_take
  simp only [BodyRecorder.writeObserved, recording_held]
  simp only [recording, valid, room, total, Int.natCast_add, Bool.false_eq_true, if_false]
  by_cases full : (bound : Int) ≤ (seen.take bound).length ∨ (accepted : Int) = 0
  · have same : (seen ++ p.take accepted).take bound = seen.take bound := by
      rcases full with full | empty
      · exact List.take_append_of_le_length (by omega)
      · simp [show accepted = 0 by omega]
    simp only [full, if_true, same]
  · have positive : bound ≠ 0 := by omega
    have cut : (seen ++ p.take accepted).take bound = seen.take bound ++ p.take (if (accepted : Int) < bound - (seen.take bound).length then
        (accepted : Int) else bound - (seen.take bound).length).toNat := by
      rw [List.take_append, List.take_take]
      congr 2
      split <;> omega
    simp only [full, cut, positive, if_false]
    rfl

theorem step_recording {call : Call} (observing : call.observes = true) (fits : (seen ++ call.acceptedBytes).length ≤ Word64.maxInt64) :
    step (recording kind bound seen captured) call =
      (recording kind bound (seen ++ call.acceptedBytes) (captured || call.accepts), call.answer) := by
  cases call with
  | write p =>
    have whole : (seen ++ p.take p.length).length ≤ Word64.maxInt64 := by rwa [List.take_length]
    have did := write_observed_recording kind bound captured (Nat.le_refl p.length) whole
    rw [List.take_length] at did
    simp [step, BodyRecorder.write, did, Call.acceptedBytes, Call.accepts, Call.answer]
  | writeObserved p accepted =>
    by_cases valid : 0 ≤ accepted ∧ accepted ≤ p.length
    · obtain ⟨count, rfl⟩ := Int.eq_ofNat_of_zero_le valid.1
      simp only [Call.acceptedBytes, valid, and_self, if_true, Int.toNat_natCast] at fits
      have did := write_observed_recording kind bound captured (by omega) fits
      simp [step, did, Call.acceptedBytes, Call.accepts, Call.answer, valid.2]
    · have refused : accepted < 0 ∨ (p.length : Int) < accepted := by omega
      simp [step, BodyRecorder.writeObserved, recording, refused, Call.acceptedBytes, Call.accepts, Call.answer, valid]
  | snapshot | finalize | finalizeForHandoff => cases observing

theorem replies_recording {writes : List Call} (observing : ∀ call ∈ writes, call.observes = true)
    (fits : (seen ++ writes.flatMap Call.acceptedBytes).length ≤ Word64.maxInt64) (rest : List Call) :
    replies (recording kind bound seen captured) (writes ++ rest) = writes.map Call.answer ++
      replies (recording kind bound (seen ++ writes.flatMap Call.acceptedBytes) (captured || writes.any Call.accepts)) rest := by
  induction writes generalizing seen captured with
  | nil => simp
  | cons call writes ih =>
    rw [List.flatMap_cons, ← List.append_assoc] at fits
    have first : (seen ++ call.acceptedBytes).length ≤ Word64.maxInt64 := by
      rw [List.length_append] at fits
      omega
    have did := step_recording kind bound captured (observing call List.mem_cons_self) first
    rw [List.cons_append, replies, did, ih _ (fun other there => observing other (List.mem_cons_of_mem _ there)) fits]
    simp [Bool.or_assoc]

-- A finalized recorder answers from its frozen snapshot and never changes.
theorem replies_ended {recorder : BodyRecorder} (done : recorder.finalized = true) (calls : List Call) :
    replies recorder calls = calls.map (Call.ended recorder.snapshot) := by
  induction calls with
  | nil => rfl
  | cons call calls ih =>
    have still : step recorder call = (recorder, call.ended recorder.snapshot) := by
      cases call <;> simp [step, BodyRecorder.write, BodyRecorder.writeObserved, BodyRecorder.freeze, done, Call.ended]
    rw [replies, still, ih, List.map_cons]

end Recording

section Capturing

variable (capture : Capture)

-- The code compares lengths, the specification the bytes.
theorem kept_shorter : decide ((capture.kept.length : Int) < capture.observed.length) = decide (capture.kept ≠ capture.observed) := by
  have size : capture.kept.length = min capture.bound capture.observed.length := List.length_take
  rw [decide_eq_decide]
  refine ⟨fun less same => by rw [same] at less; omega, fun differ => ?_⟩
  have short : ¬ capture.observed.length ≤ capture.bound := fun whole => differ (List.take_of_length_le whole)
  omega

theorem freeze_recording (finalize : Bool) (ends : finalize = decide (capture.ending ≠ .snapshot)) :
    ((recording capture.kind capture.bound capture.observed (capture.writes.any Call.accepts)).freeze finalize).snapshot = capture.expected := by
  have flag : (capture.writes.any Call.accepts || finalize) = capture.captured := by rw [ends, Capture.captured]
  simp only [BodyRecorder.freeze, recording_held]
  simp only [recording, flag, Bool.false_eq_true, if_false, BodyRecorder.snapshot, Capture.expected, BodySnapshot.mk.injEq, true_and, and_true]
  refine ⟨?_, kept_shorter capture⟩
  by_cases zero : capture.bound = 0
  · simp [zero, copied, Capture.kept]
  · simp only [zero, if_false]
    change copied capture.captured (some capture.kept) = _
    cases kept : capture.kept <;> simp [copied, zero]

theorem capture_replies : ∃ fresh, newBodyRecorder capture.kind capture.bound = .ok fresh ∧
    replies fresh (capture.writes ++ capture.ending :: capture.later) =
      capture.writes.map Call.answer ++ (capture.ending :: capture.later).map (Call.ended capture.expected) := by
  have bounded : ¬ Word64.maxInt64 < capture.bound := by
    have := capture.bounded
    unfold requestBodySchemaSafetyMaxBytes at this
    unfold Word64.maxInt64
    omega
  refine ⟨recording capture.kind capture.bound [] false, ?_, ?_⟩
  · simp [newBodyRecorder, capture.known, bounded, recording]
  have fits : ([] ++ capture.writes.flatMap Call.acceptedBytes).length ≤ Word64.maxInt64 := capture.fits
  rw [replies_recording capture.kind capture.bound false capture.observing fits, List.nil_append, Bool.false_or]
  congr 1
  have frozen := freeze_recording capture _ rfl
  have closing := capture.closing
  cases ends : capture.ending with
  | write | writeObserved => simp [ends, Call.observes] at closing
  | snapshot | finalize | finalizeForHandoff =>
    simp only [ends, ne_eq, not_true_eq_false, decide_false, reduceCtorEq, not_false_eq_true, decide_true, Capture.observed] at frozen
    rw [replies, step, replies_ended (by simp [BodyRecorder.freeze, recording]), frozen]
    rfl

theorem expected_held : capture.expected.bytes.getD [] = capture.kept := by
  by_cases empty : capture.kept = []
  · simp only [Capture.expected, empty, ne_eq, not_true_eq_false, if_false]
    split <;> rfl
  · simp [Capture.expected, empty]

theorem validate_expected {captures : List Capture} {seen : List BodyKind} (distinct : (captures.map Capture.kind).Nodup)
    (fresh : ∀ capture ∈ captures, capture.kind ∉ seen) : validateBodies seen (captures.map Capture.expected) =
      .ok (((captures.map Capture.expected).filter BodySnapshot.captured).map BodySnapshot.stored) := by
  induction captures generalizing seen with
  | nil => rfl
  | cons capture rest ih =>
    obtain ⟨apart, distinct⟩ := List.nodup_cons.mp distinct
    have others := fun other there => fresh other (List.mem_cons_of_mem capture there)
    rw [List.map_cons, validateBodies, expected_held, if_neg (by simp [Capture.expected, capture.known])]
    cases taken : capture.expected.captured with
    | false =>
      rw [if_pos (by rfl), ih distinct others, List.filter_cons_of_neg (by simp [taken])]
    | true =>
      have size : capture.kept.length = min capture.bound capture.observed.length := List.length_take
      have bounded := capture.bounded
      have passes : ¬ (capture.expected.kind ∈ seen ∨ (!true) = true ∨ capture.expected.originalSize < 0 ∨
          capture.expected.originalSize < capture.kept.length ∨ requestBodySchemaSafetyMaxBytes < capture.kept.length ∨
          capture.expected.truncated ≠ decide ((capture.kept.length : Int) < capture.expected.originalSize)) := by
        simp only [Capture.expected, kept_shorter, fresh capture List.mem_cons_self, ne_eq, not_true_eq_false, Bool.not_true,
          Bool.false_eq_true, false_or, or_false]
        omega
      have later : ∀ other ∈ rest, other.kind ∉ capture.expected.kind :: seen := by
        intro other there again
        rcases List.mem_cons.mp again with same | earlier
        · exact apart (List.mem_map.mpr ⟨other, there, same⟩)
        · exact others other there earlier
      rw [if_neg (by simp), if_neg passes, ih distinct later, List.filter_cons_of_pos taken]
      rfl

end Capturing

theorem body_captures_hold (captures : List Capture) (distinct : (captures.map Capture.kind).Nodup) :
    (∀ capture ∈ captures, ∃ fresh, newBodyRecorder capture.kind capture.bound = .ok fresh ∧
      replies fresh (capture.writes ++ capture.ending :: capture.later) =
        capture.writes.map Call.answer ++ (capture.ending :: capture.later).map (Call.ended capture.expected)) ∧
      validateHistoryBodies (captures.map Capture.expected) =
        .ok (((captures.map Capture.expected).filter BodySnapshot.captured).map BodySnapshot.stored) :=
  ⟨fun capture _ => capture_replies capture, validate_expected distinct (fun _ _ => List.not_mem_nil)⟩

-- A request cut at its bound by a short write, a disabled upstream capture, and
-- a response that was never written.
def shortRequest : Capture :=
  { kind := .clientRequest, bound := 3, writes := [.write [1, 2], .writeObserved [3, 4, 5, 6] 2, .writeObserved [7] 9], ending := .finalize
    later := [.write [8], .snapshot], known := rfl, bounded := by decide, observing := by decide, closing := rfl, fits := by decide }

def disabledRequest : Capture :=
  { kind := .upstreamRequest, bound := 0, writes := [.write [1, 2]], ending := .finalizeForHandoff, later := [.finalize], known := rfl
    bounded := by decide, observing := by decide, closing := rfl, fits := by decide }

def unwrittenResponse : Capture :=
  { kind := .response, bound := 4, writes := [], ending := .snapshot, later := [.finalize], known := rfl, bounded := by decide
    observing := by decide, closing := rfl, fits := by decide }

theorem body_captures_hold_cut : validateHistoryBodies [shortRequest.expected, disabledRequest.expected, unwrittenResponse.expected] =
    .ok [⟨.clientRequest, some [1, 2, 3], 4, true, true⟩, ⟨.upstreamRequest, none, 2, true, true⟩] :=
  (body_captures_hold [shortRequest, disabledRequest, unwrittenResponse] (by decide)).2

end NineGateway.Observability
