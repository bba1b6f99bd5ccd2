import NineGateway.Completion.Ownership
import NineGateway.Security.Input

set_option autoImplicit false

namespace NineGateway.Trace

-- A string of the source is a sequence of bytes.
abbrev Text := ByteArray

inductive RouteClass where
  | unknown
  | models
  | chatCompletions
  | responses
  | generic
  | health
  | admin
deriving DecidableEq, Repr

inductive RequestMode where
  | unknown
  | json
  | sse
deriving DecidableEq, Repr

inductive ResponseMode where
  | unknown
  | opaque_
  | json
  | sse
deriving DecidableEq, Repr

inductive TerminalOutcome where
  | unknown
  | preUpstream
  | upstreamError
  | responseError
  | complete
  | customDispatch
  | cancelled
deriving DecidableEq, Repr

inductive SafeErrorCode where
  | unknown
  | invalidAPIKey
  | keyDisabled
  | keyExpired
  | invalidRequest
  | modelNotAllowed
  | requestLimit
  | concurrencyLimit
  | tokenLimit
  | budgetLimit
  | upstreamConnection
  | upstreamTimeout
  | responseTransport
  | conversion
  | cancellation
  | unsupportedResponse
  | internal
  | notFound
  | conflict
deriving DecidableEq, Repr

structure TerminalMetadata where
  outcome : TerminalOutcome
  upstreamStarted : Bool
deriving DecidableEq, Repr

-- Their constructors accept no negative duration or byte count and no status
-- outside 0..999, which the types carry.
abbrev UnixMicros := Option Int
abbrev DurationMicros := Option Nat
abbrev OptionalStatus := Option (Fin 1000)
abbrev ByteCount := Option Nat

structure CompletionTiming where
  startedAt : UnixMicros
  upstreamStartedAt : UnixMicros
  upstreamHeadersAt : UnixMicros
  firstByteAt : UnixMicros
  finishedAt : UnixMicros
  total : DurationMicros
  timeToUpstreamHeaders : DurationMicros
  timeToFirstByte : DurationMicros
  streamCloseDelay : DurationMicros
deriving DecidableEq, Repr

def unknownTiming : CompletionTiming := ⟨none, none, none, none, none, none, none, none, none⟩

structure CompletionRecordInput where
  requestID : Text
  keyID : Text
  keyName : Text
  method : Text
  path : Text
  route : RouteClass
  routeClass : RouteClass
  model : Text
  requestedMode : RequestMode
  upstreamMode : ResponseMode
  actualUpstreamMode : ResponseMode
  deliveredMode : ResponseMode
  downstreamStatus : OptionalStatus
  upstreamStatus : OptionalStatus
  terminal : TerminalMetadata
  errorCode : SafeErrorCode
  safeErrorCode : SafeErrorCode
  clientBytes : ByteCount
  upstreamBytes : ByteCount
  deliveredBytes : ByteCount
  usage : Usage
  cost : Money
  timing : CompletionTiming
deriving DecidableEq

def lowerHex (byte : UInt8) : Bool := (48 ≤ byte && byte ≤ 57) || (97 ≤ byte && byte ≤ 102)

def validRequestID (id : Text) : Bool := decide (id.size = 32) && id.data.all lowerHex

def isControl (rune : Char) : Bool := rune.val ≤ 0x1f || (0x7f ≤ rune.val && rune.val ≤ 0x9f)

def validBoundedText (value : Text) (max : Nat) : Bool :=
  match value.utf8Decode? with
  | none => false
  | some runes => decide (runes.size ≤ max) && runes.all (fun rune => !isControl rune)

def firstFault : List (Bool × String) → Option String
  | [] => none
  | (fails, message) :: rest => if fails then some message else firstFault rest

def identityFaults (input : CompletionRecordInput) : List (Bool × String) :=
  [(!validRequestID input.requestID, "completion: malformed request ID"),
    (input.keyID ≠ .empty && !validBoundedText input.keyID 256 || input.keyName ≠ .empty && !validBoundedText input.keyName 256,
      "completion: invalid key identity"),
    (!validBoundedText input.method 32 || !validBoundedText input.path 2048 || !validBoundedText input.model 512,
      "completion: invalid method, path, or model")]

def modeFaults (requested : RequestMode) (upstream delivered : ResponseMode) : List (Bool × String) :=
  [(upstream = .unknown && delivered ≠ .unknown && delivered ≠ .opaque_, "completion: delivered mode requires upstream mode"),
    (delivered = .sse && upstream ≠ .sse, "completion: SSE delivery requires upstream SSE"),
    (delivered = .opaque_ && upstream ≠ .opaque_ && upstream ≠ .unknown, "completion: opaque delivery requires opaque upstream"),
    (upstream = .opaque_ && delivered ≠ .opaque_ && delivered ≠ .unknown, "completion: opaque upstream cannot be transformed"),
    (requested = .json && delivered = .sse || requested = .sse && delivered = .json, "completion: requested and delivered modes conflict")]

def terminalFaults (terminal : TerminalMetadata) : List (Bool × String) :=
  [(terminal.outcome = .preUpstream && terminal.upstreamStarted, "completion: pre-upstream outcome cannot start upstream"),
    (terminal.outcome ≠ .unknown && terminal.outcome ≠ .preUpstream && !terminal.upstreamStarted,
      "completion: post-upstream outcome requires upstream start")]

def finishPrecedesStart (timing : CompletionTiming) : Bool :=
  match timing.startedAt, timing.finishedAt with
  | some started, some finished => decide (finished < started)
  | _, _ => false

def timingFaults (timing : CompletionTiming) : List (Bool × String) := [(finishPrecedesStart timing, "completion: finish precedes start")]

def validateCompletionInput (input : CompletionRecordInput) : Option String :=
  firstFault (identityFaults input ++ modeFaults input.requestedMode input.upstreamMode input.deliveredMode ++ terminalFaults input.terminal ++
    timingFaults input.timing)

def normalizeCompletionInput (input : CompletionRecordInput) : CompletionRecordInput :=
  { input with
    route := if input.route = .unknown then input.routeClass else input.route
    upstreamMode := if input.upstreamMode = .unknown then input.actualUpstreamMode else input.upstreamMode
    errorCode := if input.errorCode = .unknown then input.safeErrorCode else input.errorCode }

def conflictFaults (input : CompletionRecordInput) : List (Bool × String) :=
  [(input.route ≠ .unknown && input.routeClass ≠ .unknown && input.route ≠ input.routeClass, "completion: conflicting route classes"),
    (input.upstreamMode ≠ .unknown && input.actualUpstreamMode ≠ .unknown && input.upstreamMode ≠ input.actualUpstreamMode,
      "completion: conflicting upstream modes"),
    (input.errorCode ≠ .unknown && input.safeErrorCode ≠ .unknown && input.errorCode ≠ input.safeErrorCode, "completion: conflicting error codes")]

-- The descriptive spellings in a record are those of the canonical fields.
structure CompletionRecord where
  input : CompletionRecordInput
  valid : validateCompletionInput input = none
  spelled : input.routeClass = input.route ∧ input.actualUpstreamMode = input.upstreamMode ∧ input.safeErrorCode = input.errorCode
deriving DecidableEq

def spellOut (input : CompletionRecordInput) : CompletionRecordInput :=
  { input with routeClass := input.route, actualUpstreamMode := input.upstreamMode, safeErrorCode := input.errorCode }

def newCompletionRecord (input : CompletionRecordInput) : Except String CompletionRecord :=
  match firstFault (conflictFaults input) with
  | some message => .error message
  | none =>
    match checked : validateCompletionInput (normalizeCompletionInput input) with
    | some message => .error message
    | none => .ok ⟨spellOut (normalizeCompletionInput input), checked, rfl, rfl, rfl⟩

section Facts

theorem first_fault_none (faults : List (Bool × String)) : firstFault faults = none ↔ ∀ fault ∈ faults, fault.1 = false := by
  induction faults with
  | nil => simp [firstFault]
  | cons fault _ ih =>
    obtain ⟨fails, _⟩ := fault
    cases fails <;> simp [firstFault, ih]

theorem first_fault_append (first second : List (Bool × String)) : firstFault (first ++ second) = none ↔ firstFault first = none ∧
    firstFault second = none := by
  simp only [first_fault_none, List.mem_append]
  constructor
  · intro clear
    exact ⟨fun fault mem => clear fault (.inl mem), fun fault mem => clear fault (.inr mem)⟩
  · rintro ⟨left, right⟩ fault (mem | mem)
    · exact left fault mem
    · exact right fault mem

theorem validate_parts (input : CompletionRecordInput) : validateCompletionInput input = none ↔
    firstFault (identityFaults input) = none ∧ firstFault (modeFaults input.requestedMode input.upstreamMode input.deliveredMode) = none ∧
      firstFault (terminalFaults input.terminal) = none ∧ firstFault (timingFaults input.timing) = none := by
  simp [validateCompletionInput, first_fault_append]

theorem empty_text_valid (max : Nat) : validBoundedText .empty max = true := by
  have decoded : (ByteArray.empty).utf8Decode? = some #[] := by decide
  simp [validBoundedText, decoded]

end Facts

end NineGateway.Trace
