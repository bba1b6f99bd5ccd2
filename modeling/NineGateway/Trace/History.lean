import NineGateway.Storage.HistoryRecord

set_option autoImplicit false

namespace NineGateway.Trace

open Storage (HistoryRecord OptionalInt64 validateHistoryRecord validHistoryText)
open Security

def RouteClass.string : RouteClass → String
  | .unknown => "unknown"
  | .models => "models"
  | .chatCompletions => "chat_completions"
  | .responses => "responses"
  | .generic => "generic"
  | .health => "health"
  | .admin => "admin"

def RequestMode.string : RequestMode → String
  | .unknown => "unknown"
  | .json => "json"
  | .sse => "sse"

def ResponseMode.string : ResponseMode → String
  | .unknown => ""
  | .opaque_ => "opaque"
  | .json => "json"
  | .sse => "sse"

def TerminalOutcome.string : TerminalOutcome → String
  | .unknown => "unknown"
  | .preUpstream => "pre_upstream"
  | .upstreamError => "upstream_error"
  | .responseError => "response_error"
  | .complete => "complete"
  | .customDispatch => "custom_dispatch"
  | .cancelled => "cancelled"

def SafeErrorCode.string : SafeErrorCode → String
  | .unknown => "unknown"
  | .invalidAPIKey => "invalid_api_key"
  | .keyDisabled => "key_disabled"
  | .keyExpired => "key_expired"
  | .invalidRequest => "invalid_request"
  | .modelNotAllowed => "model_not_allowed"
  | .requestLimit => "request_limit_exceeded"
  | .concurrencyLimit => "concurrency_limit_exceeded"
  | .tokenLimit => "token_limit_exceeded"
  | .budgetLimit => "budget_exceeded"
  | .upstreamConnection => "upstream_connection_error"
  | .upstreamTimeout => "upstream_timeout"
  | .responseTransport => "response_transport_error"
  | .conversion => "conversion_error"
  | .cancellation => "cancelled"
  | .unsupportedResponse => "unsupported_response"
  | .internal => "gateway_internal_error"
  | .notFound => "not_found"
  | .conflict => "conflict"

def textMode (mode : String) : String := if mode = "unknown" then "" else mode

def optionalCount (value : Option Nat) : OptionalInt64 := value.map Int.ofNat

def optionalStatus (value : OptionalStatus) : OptionalInt64 := value.map (fun status => (status.val : Int))

def optionalMoney : Money → OptionalInt64
  | .unknown => none
  | .known micros => some micros.val

def historyRecord (record : CompletionRecord) : HistoryRecord :=
  let input := record.input
  { requestID := input.requestID, apiKeyID := input.keyID, keyID := .empty, keyName := input.keyName
    method := input.method, path := input.path, route := textMode input.route.string, model := input.model
    requestedMode := textMode input.requestedMode.string, upstreamMode := textMode input.upstreamMode.string
    deliveredMode := textMode input.deliveredMode.string
    downstreamStatus := optionalStatus input.downstreamStatus, upstreamStatus := optionalStatus input.upstreamStatus
    terminalOutcome := textMode input.terminal.outcome.string, upstreamStarted := input.terminal.upstreamStarted
    errorCode := textMode input.errorCode.string
    clientBytes := optionalCount input.clientBytes, upstreamBytes := optionalCount input.upstreamBytes
    deliveredBytes := optionalCount input.deliveredBytes
    inputTokens := optionalCount input.usage.input, outputTokens := optionalCount input.usage.output
    totalTokens := optionalCount input.usage.total, cachedInputTokens := optionalCount input.usage.cachedInput
    reasoningOutputTokens := optionalCount input.usage.reasoningOutput, costMicros := optionalMoney input.cost
    startedAt := input.timing.startedAt, upstreamStartedAt := input.timing.upstreamStartedAt
    upstreamHeadersAt := input.timing.upstreamHeadersAt, firstByteAt := input.timing.firstByteAt, finishedAt := input.timing.finishedAt
    totalMicros := optionalCount input.timing.total, timeToUpstreamHeadersMicros := optionalCount input.timing.timeToUpstreamHeaders
    timeToFirstByteMicros := optionalCount input.timing.timeToFirstByte
    streamCloseDelayMicros := optionalCount input.timing.streamCloseDelay }

section Conversion

-- The history and the log agree on every check but those of the texts.

theorem lower_hex_alphanumeric (byte : UInt8) (hex : lowerHex byte = true) : byte.toNat < 128 ∧ (asciiCharacter byte).isAlphanum = true := by
  simp only [lowerHex, Bool.or_eq_true, Bool.and_eq_true, decide_eq_true_eq, UInt8.le_iff_toNat_le, UInt8.reduceToNat] at hex
  constructor
  · omega
  · delta Char.isAlphanum Char.isAlpha Char.isUpper Char.isLower
    simp only [Char.isDigit, ascii_value, Bool.or_eq_true, Bool.and_eq_true, decide_eq_true_eq, ge_iff_le, UInt32.le_iff_toNat_le,
      UInt8.toNat_toUInt32]
    have letters : 'a'.val.toNat = 97 ∧ 'z'.val.toNat = 122 ∧ '0'.val.toNat = 48 ∧ '9'.val.toNat = 57 := by decide
    omega

theorem request_id_storable (id : Text) (valid : validRequestID id = true) : Storage.validHistoryRequestID id = true := by
  simp only [validRequestID, Bool.and_eq_true, decide_eq_true_eq, Array.all_eq_true_iff_forall_mem] at valid
  have hex : ∀ byte ∈ id.data.toList, byte.toNat < 128 ∧ (asciiCharacter byte).isAlphanum = true :=
    fun byte mem => lower_hex_alphanumeric byte (valid.2 byte (Array.mem_toList_iff.mp mem))
  have text := ascii_text id (fun byte mem => (hex byte mem).1)
  have bytes : (String.ofList (id.data.toList.map asciiCharacter)).utf8ByteSize = id.size := by
    rw [String.fromUTF8?] at text
    split at text
    · rw [← Option.some.inj text]
      rfl
    · cases text
  simp only [Storage.validHistoryRequestID, validateRequestID, text, Option.any_some, validateIdentifier, String.toList_ofList, bytes]
  cases shown : id.data.toList with
  | nil =>
    have empty : id.size = 0 := by simp [← ByteArray.size_data, ← Array.length_toList, shown]
    omega
  | cons _ rest =>
    rw [shown, List.forall_mem_cons] at hex
    have later : (rest.map asciiCharacter).all identifierCharacter = true := by
      simp only [List.all_map, List.all_eq_true, Function.comp_apply, identifierCharacter, Bool.or_eq_true]
      exact fun byte mem => .inl (.inl (hex.2 byte mem).2)
    simp [valid.1, hex.1.2, later, maxIdentifierBytes]

theorem modes_storable (asked : RequestMode) (upstream given : ResponseMode) (valid : firstFault (modeFaults asked upstream given) = none) :
    HistoryRecord.modesConflict (textMode asked.string) (textMode upstream.string) (textMode given.string) = false := by
  revert valid
  cases asked <;> cases upstream <;> cases given <;> decide

theorem outcome_storable (term : TerminalMetadata) (valid : firstFault (terminalFaults term) = none) :
    HistoryRecord.outcomeConflicts (textMode term.outcome.string) term.upstreamStarted = false := by
  obtain ⟨out, begun⟩ := term
  revert valid
  cases out <;> cases begun <;> decide

theorem names_storable (row : CompletionRecord) : (historyRecord row).namesKnown = true := by
  simp only [HistoryRecord.namesKnown, historyRecord, Bool.and_eq_true]
  refine ⟨⟨⟨⟨⟨?_, ?_⟩, ?_⟩, ?_⟩, ?_⟩, ?_⟩
  · cases row.input.route <;> decide
  · cases row.input.requestedMode <;> decide
  · cases row.input.upstreamMode <;> decide
  · cases row.input.deliveredMode <;> decide
  · cases row.input.terminal.outcome <;> decide
  · cases row.input.errorCode <;> decide

theorem optional_count_storable (v : Option Nat) : (optionalCount v).any (· < 0) = false := by
  cases v with
  | none => rfl
  | some => simp [optionalCount]

theorem optional_money_storable (v : Money) : (optionalMoney v).any (· < 0) = false := by
  cases v with
  | unknown => rfl
  | known => simp [optionalMoney]

theorem optional_status_storable (v : OptionalStatus) : (optionalStatus v).any (fun status => status < 0 || 999 < status) = false := by
  cases v with
  | none => rfl
  | some status =>
    simp only [optionalStatus, Option.map_some, Option.any_some, Bool.or_eq_false_iff, decide_eq_false_iff_not]
    omega

theorem counts_storable (row : CompletionRecord) : (historyRecord row).counts.any (fun count => count.any (· < 0)) = false := by
  simp [HistoryRecord.counts, historyRecord, optional_count_storable, optional_money_storable]

theorem statuses_storable (row : CompletionRecord) :
    (historyRecord row).statuses.any (fun status => status.any (fun v => v < 0 || 999 < v)) = false := by
  simp [HistoryRecord.statuses, historyRecord, optional_status_storable]

-- strings.TrimSpace leaves nothing of a text that is not empty.
def onlySpaces (value : Text) : Bool := value ≠ .empty && value.utf8Decode?.any (fun runes => runes.all Security.isSpace)

theorem text_storable (v : Text) (max : Nat) (bound : validBoundedText v max = true) : validHistoryText v max true = !onlySpaces v := by
  simp only [validHistoryText, validBoundedText, onlySpaces] at bound ⊢
  cases decoded : v.utf8Decode? with
  | none => simp [decoded] at bound
  | some =>
    simp only [decoded, Bool.and_eq_true, decide_eq_true_eq] at bound
    by_cases empty : v = .empty
    · simp [empty]
    · simp [empty, bound.1, bound.2]

def CompletionRecord.texts (record : CompletionRecord) : List Text :=
  [record.input.keyID, record.input.keyName, record.input.method, record.input.path, record.input.model]

variable (row : CompletionRecord)
include row

theorem record_texts_bounded : validRequestID row.input.requestID = true ∧ validBoundedText row.input.keyID 256 = true ∧
      validBoundedText row.input.keyName 256 = true ∧ validBoundedText row.input.method 32 = true ∧
      validBoundedText row.input.path 2048 = true ∧ validBoundedText row.input.model 512 = true := by
  have id := (first_fault_none _).mp ((validate_parts row.input).mp row.valid).1
  simp only [identityFaults, List.mem_cons, List.not_mem_nil, or_false, forall_eq_or_imp, forall_eq, Bool.or_eq_false_iff,
    Bool.and_eq_false_iff, decide_eq_false_iff_not, Bool.not_eq_eq_eq_not, Bool.not_false, ne_eq, not_not] at id
  have bound : ∀ v : Text, v = .empty ∨ validBoundedText v 256 = true → validBoundedText v 256 = true := by
    rintro v (rfl | valid)
    · exact empty_text_valid 256
    · exact valid
  exact ⟨id.1, bound _ id.2.1.1, bound _ id.2.1.2, id.2.2.1.1, id.2.2.1.2, id.2.2.2⟩

theorem history_key : (historyRecord row).effectiveKeyID = row.input.keyID := by
  by_cases empty : row.input.keyID = .empty
  · simp [HistoryRecord.effectiveKeyID, historyRecord, empty]
  · simp [HistoryRecord.effectiveKeyID, historyRecord, empty]

theorem texts_storable : (historyRecord row).textsValid = true ↔ ∀ text ∈ row.texts, onlySpaces text = false := by
  obtain ⟨requestID, key, keyName, method, path, model⟩ := record_texts_bounded row
  simp only [HistoryRecord.textsValid, history_key, CompletionRecord.texts, List.forall_mem_cons]
  simp only [historyRecord, request_id_storable _ requestID, text_storable _ _ key, text_storable _ _ keyName, text_storable _ _ method,
    text_storable _ _ path, text_storable _ _ model]
  simp [and_assoc]

end Conversion

-- A record is the value of an accepted input, so this is over every record that
-- can be logged.
theorem history_record_accepted_iff (record : CompletionRecord) : validateHistoryRecord (historyRecord record) = .ok () ↔
      (∀ text ∈ record.texts, onlySpaces text = false) ∧ (record.input.keyID = .empty → record.input.keyName = .empty) := by
  have faults := (validate_parts record.input).mp record.valid
  have keys : (historyRecord record).keysDisagree = false := by simp [HistoryRecord.keysDisagree, historyRecord]
  have modes := modes_storable _ _ _ faults.2.1
  have out := outcome_storable _ faults.2.2.1
  have timing : finishPrecedesStart record.input.timing = false := (first_fault_none _).mp faults.2.2.2 _ (.head _)
  have named : (historyRecord record).nameWithoutKey = false ↔ (record.input.keyID = .empty → record.input.keyName = .empty) := by
    rw [HistoryRecord.nameWithoutKey, history_key, show (historyRecord record).keyName = record.input.keyName from rfl]
    by_cases name : record.input.keyName = .empty
    · simp [name]
    · simp [name]
  rw [Storage.validate_history_ok, texts_storable, named]
  exact ⟨fun valid => ⟨valid.2.1, valid.2.2.1⟩,
    fun ⟨texts, name⟩ => ⟨keys, texts, name, names_storable record, modes, out, statuses_storable record, counts_storable record, timing⟩⟩

def loggedInput (keyName model : Text) : CompletionRecordInput :=
  { requestID := ⟨Array.replicate 32 97⟩, keyID := .empty, keyName := keyName, method := "POST".toUTF8, path := "/v1/responses".toUTF8
    route := .responses, routeClass := .unknown, model := model, requestedMode := .json, upstreamMode := .json, actualUpstreamMode := .unknown
    deliveredMode := .json, downstreamStatus := some 200, upstreamStatus := some 200, terminal := ⟨.complete, true⟩, errorCode := .unknown
    safeErrorCode := .unknown, clientBytes := some 12, upstreamBytes := some 12, deliveredBytes := some 12, usage := unknownUsage, cost := .unknown
    timing := unknownTiming }

theorem logged_verdict {input : CompletionRecordInput} {verdict : Except Storage.HistoryError Unit}
    (ran : (newCompletionRecord input).toOption.map (fun row => validateHistoryRecord (historyRecord row)) = some verdict) :
    ∃ row, newCompletionRecord input = .ok row ∧ validateHistoryRecord (historyRecord row) = verdict := by
  cases logged : newCompletionRecord input with
  | error =>
    rw [logged] at ran
    cases ran
  | ok row =>
    rw [logged] at ran
    exact ⟨row, rfl, Option.some.inj ran⟩

-- A model of one space, and a key name without a key, are logged and not stored.
theorem logged_record_refused : (∃ record, newCompletionRecord (loggedInput .empty " ".toUTF8) = .ok record ∧
      validateHistoryRecord (historyRecord record) = .error .invalidRecord) ∧
    ∃ record, newCompletionRecord (loggedInput "team".toUTF8 .empty) = .ok record ∧
      validateHistoryRecord (historyRecord record) = .error .invalidKey :=
  ⟨logged_verdict (by decide +kernel), logged_verdict (by decide +kernel)⟩

end NineGateway.Trace
