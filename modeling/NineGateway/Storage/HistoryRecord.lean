import NineGateway.Security.Input
import NineGateway.Trace.Record

set_option autoImplicit false

namespace NineGateway.Storage

open Trace (Text isControl)

-- An unknown value is none and is written as NULL.
abbrev OptionalInt64 := Option Int

-- The empty text stands for an unknown one.
structure HistoryRecord where
  requestID : Text
  apiKeyID : Text
  keyID : Text
  keyName : Text
  method : Text
  path : Text
  route : String
  model : Text
  requestedMode : String
  upstreamMode : String
  deliveredMode : String
  downstreamStatus : OptionalInt64
  upstreamStatus : OptionalInt64
  terminalOutcome : String
  upstreamStarted : Bool
  errorCode : String
  clientBytes : OptionalInt64
  upstreamBytes : OptionalInt64
  deliveredBytes : OptionalInt64
  inputTokens : OptionalInt64
  outputTokens : OptionalInt64
  totalTokens : OptionalInt64
  cachedInputTokens : OptionalInt64
  reasoningOutputTokens : OptionalInt64
  costMicros : OptionalInt64
  startedAt : OptionalInt64
  upstreamStartedAt : OptionalInt64
  upstreamHeadersAt : OptionalInt64
  firstByteAt : OptionalInt64
  finishedAt : OptionalInt64
  totalMicros : OptionalInt64
  timeToUpstreamHeadersMicros : OptionalInt64
  timeToFirstByteMicros : OptionalInt64
  streamCloseDelayMicros : OptionalInt64
deriving DecidableEq

inductive HistoryError where
  | invalidRecord
  | invalidKey
  | duplicate
  | write
deriving DecidableEq, Repr

def validHistoryRequestID (value : Text) : Bool := Security.validateRequestID value

def validHistoryText (value : Text) (max : Nat) (emptyOK : Bool) : Bool :=
  if value = .empty then emptyOK
  else
    match value.utf8Decode? with
    | none => false
    | some runes => decide (runes.size ≤ max) && !runes.all Security.isSpace && runes.all (fun rune => !isControl rune)

def oneOf (value : String) (choices : List String) : Bool := choices.contains value

namespace HistoryRecord

def effectiveKeyID (record : HistoryRecord) : Text := if record.apiKeyID = .empty then record.keyID else record.apiKeyID

def keysDisagree (record : HistoryRecord) : Bool :=
  record.apiKeyID ≠ .empty && record.keyID ≠ .empty && record.apiKeyID ≠ record.keyID

def textsValid (record : HistoryRecord) : Bool :=
  validHistoryRequestID record.requestID && validHistoryText record.effectiveKeyID 256 true && validHistoryText record.keyName 256 true &&
    validHistoryText record.method 32 true && validHistoryText record.path 2048 true && validHistoryText record.model 512 true

def nameWithoutKey (record : HistoryRecord) : Bool := record.effectiveKeyID = .empty && record.keyName ≠ .empty

def namesKnown (record : HistoryRecord) : Bool :=
  oneOf record.route ["", "models", "chat_completions", "responses", "generic", "health", "admin"] &&
    oneOf record.requestedMode ["", "json", "sse"] && oneOf record.upstreamMode ["", "json", "opaque", "sse"] &&
    oneOf record.deliveredMode ["", "json", "opaque", "sse"] &&
    oneOf record.terminalOutcome ["", "pre_upstream", "upstream_error", "response_error", "complete", "custom_dispatch", "cancelled"] &&
    oneOf record.errorCode ["", "invalid_api_key", "key_disabled", "key_expired", "invalid_request", "model_not_allowed",
      "request_limit_exceeded", "concurrency_limit_exceeded", "token_limit_exceeded", "budget_exceeded", "upstream_connection_error",
      "upstream_timeout", "response_transport_error", "conversion_error", "cancelled", "unsupported_response", "gateway_internal_error",
      "not_found", "conflict"]

def modesConflict (requested upstream delivered : String) : Bool :=
  upstream = "" && delivered ≠ "" && delivered ≠ "opaque" || delivered = "sse" && upstream ≠ "sse" ||
    upstream = "opaque" && delivered ≠ "" && delivered ≠ "opaque" || delivered = "opaque" && upstream ≠ "" && upstream ≠ "opaque" ||
    requested = "json" && delivered = "sse" || requested = "sse" && delivered = "json"

def outcomeConflicts (outcome : String) (upstreamStarted : Bool) : Bool :=
  outcome = "pre_upstream" && upstreamStarted || outcome ≠ "" && outcome ≠ "pre_upstream" && !upstreamStarted

def statuses (record : HistoryRecord) : List OptionalInt64 := [record.downstreamStatus, record.upstreamStatus]

def counts (record : HistoryRecord) : List OptionalInt64 :=
  [record.clientBytes, record.upstreamBytes, record.deliveredBytes, record.inputTokens, record.outputTokens, record.totalTokens,
    record.cachedInputTokens, record.reasoningOutputTokens, record.costMicros, record.totalMicros, record.timeToUpstreamHeadersMicros,
    record.timeToFirstByteMicros, record.streamCloseDelayMicros]

def finishPrecedesStart (record : HistoryRecord) : Bool :=
  match record.startedAt, record.finishedAt with
  | some started, some finished => decide (finished < started)
  | _, _ => false

end HistoryRecord

def validateHistoryRecord (record : HistoryRecord) : Except HistoryError Unit :=
  if record.keysDisagree then .error .invalidKey
  else if !record.textsValid then .error .invalidRecord
  else if record.nameWithoutKey then .error .invalidKey
  else if !record.namesKnown then .error .invalidRecord
  else if HistoryRecord.modesConflict record.requestedMode record.upstreamMode record.deliveredMode then .error .invalidRecord
  else if HistoryRecord.outcomeConflicts record.terminalOutcome record.upstreamStarted then .error .invalidRecord
  else if record.statuses.any (fun status => status.any (fun value => value < 0 || 999 < value)) then .error .invalidRecord
  else if record.counts.any (fun count => count.any (· < 0)) then .error .invalidRecord
  else if record.finishPrecedesStart then .error .invalidRecord
  else .ok ()

theorem validate_history_ok (row : HistoryRecord) : validateHistoryRecord row = .ok () ↔
    row.keysDisagree = false ∧ row.textsValid = true ∧ row.nameWithoutKey = false ∧ row.namesKnown = true ∧
      HistoryRecord.modesConflict row.requestedMode row.upstreamMode row.deliveredMode = false ∧
      HistoryRecord.outcomeConflicts row.terminalOutcome row.upstreamStarted = false ∧
      row.statuses.any (fun status => status.any (fun v => v < 0 || 999 < v)) = false ∧
      row.counts.any (fun count => count.any (· < 0)) = false ∧ row.finishPrecedesStart = false := by
  simp only [validateHistoryRecord]
  split_ifs <;> simp_all

end NineGateway.Storage
