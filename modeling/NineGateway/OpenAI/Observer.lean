import NineGateway.OpenAI.Usage
import NineGateway.Streaming.Reader

set_option autoImplicit false

namespace NineGateway.OpenAI

open Streaming (Bytes SSEEvent)
open Json (ascii knowing)

structure ToolCallObservation where
  index : Int
  id : String
  type : String
  name : String
  arguments : String
deriving DecidableEq, Repr

structure DeltaObservation where
  role : Option String
  content : Option String
  toolCalls : List ToolCallObservation
deriving DecidableEq, Repr

structure ChoiceObservation where
  index : Int
  delta : DeltaObservation
  finishReason : Option String
  finishReasonPresent : Bool
deriving DecidableEq, Repr

structure Observer where
  eventsObserved : Nat
  doneObserved : Bool
  choices : List ChoiceObservation
  usage : Usage
deriving DecidableEq, Repr

def newObserver : Observer := ⟨0, false, [], unknownUsage⟩

def member (members : Json.Members) (name : String) : Option Json := Json.lastMember members (Json.folds name)

def decodeInt (raw : Option Json) : Int := (raw.bind Json.int64).getD 0
def decodeStringPointer (raw : Option Json) : Option String := raw.bind Json.text
def decodeString (raw : Option Json) : String := (decodeStringPointer raw).getD ""

def decodeArray (raw : Option Json) : List Json :=
  match raw with
  | some (.array items) => items
  | _ => []

def decodeToolCall (call : Json.Members) : ToolCallObservation :=
  let function := ((member call "function").bind Json.fields).getD []
  { index := decodeInt (member call "index"), id := decodeString (member call "id"), type := decodeString (member call "type")
    name := decodeString (member function "name"), arguments := decodeString (member function "arguments") }

def decodeToolCalls (raw : Option Json) : List ToolCallObservation := ((decodeArray raw).filterMap Json.fields).map decodeToolCall

def decodeDelta (raw : Option Json) : DeltaObservation :=
  let delta := (raw.bind Json.fields).getD []
  ⟨decodeStringPointer (member delta "role"), decodeStringPointer (member delta "content"), decodeToolCalls (member delta "tool_calls")⟩

def decodeChoice (choice : Json.Members) : ChoiceObservation :=
  { index := decodeInt (member choice "index")
    delta := decodeDelta ((member choice "delta").orElse fun _ => member choice "message")
    finishReason := decodeStringPointer (member choice "finish_reason")
    finishReasonPresent := (member choice "finish_reason").isSome }

def observeChoices (raw : Option Json) : List ChoiceObservation := ((decodeArray raw).filterMap Json.fields).map decodeChoice

def isResponsesCompletionEvent (event : SSEEvent) (members : Json.Members) : Bool :=
  decide (event.event = ascii "response.completed") || decide ((member members "type").bind Json.text = some "response.completed")

def observeEventUsage (event : SSEEvent) (members : Json.Members) : Except String JSONUsageResult := do
  let root ← parseJSONUsageObject (member members "usage")
  if !isResponsesCompletionEvent event members then return root
  if Json.duplicated members "response" then throw "response envelope"
  match member members "response" with
  | none | some .null => return root
  | some response =>
    match scanKnownObjectMembers ["usage"] response with
    | .error _ => throw "response envelope"
    | .ok envelope =>
      let nested ← parseJSONUsageObject (member envelope "usage")
      if !nested.observed then return root
      if !root.observed then return nested
      match mergeCanonicalUsage root.usage nested.usage with
      | some usage => return ⟨usage, true⟩
      | none => throw "token count overflow"

def observeChunk (observer : Observer) (event : SSEEvent) (members : Json.Members) : Except String Observer := do
  let result ← observeEventUsage event members
  let observed :=
    { observer with eventsObserved := observer.eventsObserved + 1, choices := observer.choices ++ observeChoices (member members "choices") }
  if !result.observed then return observed
  match mergeCanonicalUsage observer.usage result.usage with
  | some usage => return { observed with usage := usage }
  | none => throw "token count overflow"

def doneData : Bytes := ascii "[DONE]"

section Text

variable (parse : Bytes → Option Json)

def observe (observer : Observer) (event : SSEEvent) : Except UsageError Observer :=
  if event.data = doneData then .ok { observer with doneObserved := true }
  else
    let data := Security.trimSpace event.data
    if data.head? ≠ some openBrace then .error .malformedStreamChunk
    else
      match (parse data).map (scanKnownObjectMembers ["usage"]) with
      | some (.ok members) => (observeChunk observer event members).mapError .invalidUsage
      | some (.error .duplicate) => .error (.invalidUsage "duplicate known usage member")
      | some (.error .malformed) | none => .error .malformedStreamChunk

structure ObjectText (data : Bytes) (members : Json.Members) : Prop where
  whole : parse data = some (.object members)
  trimmed : parse (Security.trimSpace data) = some (.object members)
  opens : (Security.trimSpace data).head? = some openBrace

end Text

def UsageAgrees (observed : Except UsageError Observer) (parsed : Except UsageError JSONUsageResult) : Prop :=
  ((∃ failure, observed = .error failure) ↔ ∃ what, parsed = .error (.invalidUsage what)) ∧
    ∀ observer result, observed = .ok observer → parsed = .ok result → observer.usage = result.usage

section Agreement

variable {parse : Bytes → Option Json} {event : SSEEvent} {members : Json.Members}

theorem object_not_done {data : Bytes} {members : Json.Members} (reads : ObjectText parse data members) : data ≠ doneData := by
  rintro rfl
  exact absurd reads.opens (by decide +kernel)

theorem observe_object (event : SSEEvent) (obs : Observer) (reads : ObjectText parse event.data members) : observe parse obs event =
      if Json.duplicated members "usage" then .error (.invalidUsage "duplicate known usage member")
      else (observeChunk obs event members).mapError .invalidUsage := by
  have chunk := object_not_done reads
  simp only [observe, if_neg chunk, reads.opens, reads.trimmed, ne_eq, not_true_eq_false, if_false, Option.map_some, scanKnownObjectMembers,
    List.any_cons, List.any_nil, Bool.or_false]
  cases Json.duplicated members "usage" <;> rfl

theorem parse_object (reads : ObjectText parse event.data members) : parseJSONUsage parse event.data =
      if Json.duplicated members "usage" then .error (.invalidUsage "root usage")
      else (parseJSONUsageObject (Json.lastMember members (Json.spells "usage"))).mapError .invalidUsage := by
  simp only [parseJSONUsage, reads.opens, reads.whole, ne_eq, not_true_eq_false, if_false, Option.map_some, scanKnownObjectMembers,
    List.any_cons, List.any_nil, Bool.or_false]
  cases Json.duplicated members "usage" <;> rfl

theorem observe_chunk_fresh (plain : isResponsesCompletionEvent event members = false) :
    (observeChunk newObserver event members).map (·.usage) = (parseJSONUsageObject (member members "usage")).map (·.usage) := by
  simp only [observeChunk, observeEventUsage, bind, Except.bind, pure, Except.pure, plain]
  cases parsed : parseJSONUsageObject (member members "usage") with
  | error => rfl
  | ok res =>
    obtain ⟨built, unknown⟩ := parse_object_constructed parsed
    cases observed : res.observed with
    | false => simp [observed, unknown observed, newObserver, Except.map]
    | true => simp [observed, newObserver, merge_unknown built, Except.map]

theorem usage_agrees_iff (event : SSEEvent) (reads : ObjectText parse event.data members) (plain : isResponsesCompletionEvent event members = false) :
    UsageAgrees (observe parse newObserver event) (parseJSONUsage parse event.data) ↔ Json.duplicated members "usage" = true ∨
        (parseJSONUsageObject (Json.lastMember members (Json.folds "usage"))).toOption.map (·.usage) =
          (parseJSONUsageObject (Json.lastMember members (Json.spells "usage"))).toOption.map (·.usage) := by
  have new := observe_chunk_fresh plain
  rw [observe_object event newObserver reads, parse_object reads]
  cases Json.duplicated members "usage" with
  | true => simp [UsageAgrees]
  | false =>
    rw [member] at new
    cases observed : observeChunk newObserver event members with
    | error =>
      cases folded : parseJSONUsageObject (Json.lastMember members (Json.folds "usage")) with
      | ok => simp [observed, folded, Except.map] at new
      | error =>
        cases parseJSONUsageObject (Json.lastMember members (Json.spells "usage")) <;> simp [UsageAgrees, Except.mapError, Except.toOption]
    | ok obs =>
      cases folded : parseJSONUsageObject (Json.lastMember members (Json.folds "usage")) with
      | error => simp [observed, folded, Except.map] at new
      | ok res =>
        have same : obs.usage = res.usage := by simpa [observed, folded, Except.map] using new
        cases parseJSONUsageObject (Json.lastMember members (Json.spells "usage")) <;> simp [UsageAgrees, Except.mapError, Except.toOption, same]

-- The two agree on every object whose last usage member, in any letter case, is spelled
-- exactly. On another one they read two members, and agree only if both say the same.
theorem usage_semantics_agree (event : SSEEvent) (reads : ObjectText parse event.data members)
    (plain : isResponsesCompletionEvent event members = false) :
    (Json.duplicated members "usage" = true ∨ Json.SpelledLast members "usage" →
        UsageAgrees (observe parse newObserver event) (parseJSONUsage parse event.data)) ∧
      ∀ other ∈ Json.lastNamed members (Json.folds "usage"), other.1 ≠ "usage" → Json.duplicated members "usage" = false →
        (UsageAgrees (observe parse newObserver event) (parseJSONUsage parse event.data) ↔
          (parseJSONUsageObject (some other.2)).toOption.map (·.usage) =
            (parseJSONUsageObject (Json.lastMember members (Json.spells "usage"))).toOption.map (·.usage)) := by
  rw [usage_agrees_iff event reads plain]
  refine ⟨fun spelled => spelled.imp_right fun last => by rw [(Json.same_last_iff members "usage").mpr last], fun other last _ single => ?_⟩
  rw [Json.last_member_named members (Json.folds "usage"), last, single]
  simp

end Agreement

def totalOf (name : String) (total : Int) : String × Json := (name, .object [("total_tokens", .number (some total))])

theorem knowing_reads {text : Bytes} (mems : Json.Members) (trimmed : Security.trimSpace text = text) (opens : text.head? = some openBrace) :
    ObjectText (knowing text mems) text mems :=
  ⟨by simp [knowing], by simp [knowing, trimmed], by rw [trimmed]; exact opens⟩

def otherCase : Bytes := ascii "\x7b\"Usage\":\x7b\"total_tokens\":5\x7d\x7d"
def bothCases : Bytes := ascii "\x7b\"Usage\":\x7b\"total_tokens\":5\x7d,\"usage\":\x7b\"total_tokens\":7\x7d\x7d"

theorem usage_semantics_agree_both :
    UsageAgrees (observe (knowing bothCases [totalOf "Usage" 5, totalOf "usage" 7]) newObserver ⟨[], bothCases⟩)
      (parseJSONUsage (knowing bothCases [totalOf "Usage" 5, totalOf "usage" 7]) bothCases) :=
  (usage_semantics_agree ⟨[], bothCases⟩ (knowing_reads [totalOf "Usage" 5, totalOf "usage" 7] (by decide +kernel) (by decide +kernel))
    (by decide +kernel)).1 (.inr (by rintro _ ⟨⟩; exact .inl rfl))

-- A usage member in other letter case is the usage of a stream and not that of a
-- response.
theorem other_case_usage_observed : (observe (knowing otherCase [totalOf "Usage" 5]) newObserver ⟨[], otherCase⟩).toOption.map (·.usage) =
        some ⟨none, none, some 5, none, none, .observed⟩ ∧
      parseJSONUsage (knowing otherCase [totalOf "Usage" 5]) otherCase = .ok unobserved := by
  decide +kernel

end NineGateway.OpenAI
