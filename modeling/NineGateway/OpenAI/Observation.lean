import NineGateway.OpenAI.Observer

set_option autoImplicit false

namespace NineGateway.OpenAI

open Streaming (Bytes SSEEvent ReaderError readAll)
open Json (ascii knowing)

def meaningfulUsage (usage : Usage) : Bool :=
  usage.input.isSome || usage.output.isSome || usage.total.isSome || usage.cachedInput.isSome || usage.reasoningOutput.isSome

def meaningfulObserved (choice : ChoiceObservation) : Bool :=
  choice.finishReasonPresent || choice.finishReason.isSome || choice.delta.content.any (· ≠ "") || !choice.delta.toolCalls.isEmpty

def meaningfulObservation (observer : Observer) (previousChoices : Nat) (previousUsageKnown : Bool) : Bool :=
  (meaningfulUsage observer.usage && !previousUsageKnown) || (observer.choices.drop previousChoices).any meaningfulObserved

structure MeaningfulDelta where
  content : Option String
  reasoning : Option String
  reasoningContent : Option String
  toolCalls : Option Json

structure MeaningfulChoice where
  delta : MeaningfulDelta
  finishReason : Option Json

def decodeMeaningfulDelta : Json.Into MeaningfulDelta := fun current raw => do
  let members ← raw.fields
  let content ← Json.field current.content (Json.pointer Json.text) members (Json.folds "content")
  let reasoning ← Json.field current.reasoning (Json.pointer Json.text) members (Json.folds "reasoning")
  let reasoningContent ← Json.field current.reasoningContent (Json.pointer Json.text) members (Json.folds "reasoning_content")
  let toolCalls ← Json.field current.toolCalls Json.rawMessage members (Json.folds "tool_calls")
  return ⟨content, reasoning, reasoningContent, toolCalls⟩

def decodeMeaningfulChoice : Json.Into MeaningfulChoice := fun current raw => do
  let members ← raw.fields
  let delta ← Json.field current.delta decodeMeaningfulDelta members (Json.folds "delta")
  let finishReason ← Json.field current.finishReason Json.rawMessage members (Json.folds "finish_reason")
  return ⟨delta, finishReason⟩

def jsonUsageMeaningful (raw : Option Json) : Bool := (parseJSONUsageObject raw).toOption.any (·.observed)

def meaningfulChoice (choice : MeaningfulChoice) : Bool :=
  choice.finishReason.isSome || choice.delta.content.any (· ≠ "") || choice.delta.reasoning.any (· ≠ "") ||
    choice.delta.reasoningContent.any (· ≠ "") || !(decodeArray choice.delta.toolCalls).isEmpty

-- A chunk that does not decode, because a field has another type, is not meaningful.
def meaningfulChunk (members : Json.Members) : Bool :=
  (Json.field .empty (Json.slice ⟨⟨none, none, none, none⟩, none⟩ decodeMeaningfulChoice) members (Json.folds "choices")).any fun choices =>
    let nested := ((member members "response").bind Json.fields).getD []
    jsonUsageMeaningful (member members "usage") || jsonUsageMeaningful (Json.lastMember nested (Json.spells "usage")) ||
      choices.elements.any meaningfulChoice

section Text

variable (parse : Bytes → Option Json)

def meaningfulEvent (event : SSEEvent) (observer : Observer) (previousChoices : Nat) (previousUsageKnown : Bool) : Bool :=
  meaningfulObservation observer previousChoices previousUsageKnown || ((parse event.data).bind Json.fields).any meaningfulChunk

-- No clock is asked for the time of the last meaningful event.
structure ObservationResult where
  observer : Observer
  errors : List UsageError
  lastMeaningfulOffset : Nat
deriving DecidableEq, Repr

def observeNext (result : ObservationResult) (next : SSEEvent × Nat) : ObservationResult :=
  if result.observer.doneObserved then
    match observe parse newObserver next.1 with
    | .ok _ => result
    | .error failure => { result with errors := result.errors ++ [failure] }
  else
    match observe parse result.observer next.1 with
    | .error failure => { result with errors := result.errors ++ [failure] }
    | .ok observer =>
      { result with
        observer := observer
        lastMeaningfulOffset :=
          if next.1.data ≠ doneData ∧ meaningfulEvent parse next.1 observer result.observer.choices.length
            (meaningfulUsage result.observer.usage) then
            next.2
          else result.lastMeaningfulOffset }

def observeEvents (events : List (SSEEvent × Nat)) : ObservationResult := events.foldl (observeNext parse) ⟨newObserver, [], 0⟩

def observeStream (maxEventSize : Nat) (input : Bytes) : ObservationResult × Option ReaderError :=
  let reading := readAll maxEventSize input
  (observeEvents parse reading.events, if reading.error = .eof then none else some reading.error)

end Text

structure AccumulatedToolCall where
  index : Int
  id : String
  type : String
  name : String
  arguments : String
deriving DecidableEq, Repr

structure AccumulatedChoice where
  index : Int
  role : String
  content : String
  toolCalls : List AccumulatedToolCall
  finishReason : Option String
  finishReasonPresent : Bool
deriving DecidableEq, Repr

structure ChatAccumulator where
  maxPayloadBytes : Nat
  payloadBytes : Nat
  usage : Usage
  choices : List AccumulatedChoice
  terminal : Bool
deriving DecidableEq, Repr

def newChatAccumulator (maxPayloadBytes : Nat) : ChatAccumulator := ⟨maxPayloadBytes, 0, unknownUsage, [], false⟩

-- The entry that is looked for is the first of its index, and comes last when there
-- is none yet.
def changeEntry {α : Type} (found : α → Bool) (fresh : α) (change : α → α) : List α → List α
  | [] => [change fresh]
  | entry :: rest => if found entry then change entry :: rest else entry :: changeEntry found fresh change rest

def unlessEmpty (current update : String) : String := if current = "" then update else current

def accumulateToolCall (calls : List AccumulatedToolCall) (observation : ToolCallObservation) : List AccumulatedToolCall :=
  changeEntry (fun call => decide (call.index = observation.index)) ⟨observation.index, "", "", "", ""⟩ (fun call =>
      { call with
        id := unlessEmpty call.id observation.id, type := unlessEmpty call.type observation.type, name := unlessEmpty call.name observation.name
        arguments := call.arguments ++ observation.arguments })
    calls

def accumulateChoice (choice : AccumulatedChoice) (observation : ChoiceObservation) : AccumulatedChoice :=
  { choice with
    role := unlessEmpty choice.role (observation.delta.role.getD ""), content := choice.content ++ observation.delta.content.getD ""
    toolCalls := observation.delta.toolCalls.foldl accumulateToolCall choice.toolCalls
    finishReason := observation.finishReason.or choice.finishReason
    finishReasonPresent := observation.finishReasonPresent || choice.finishReasonPresent }

namespace ChatAccumulator

def addPayload (accumulator : ChatAccumulator) (fragment : String) : Option ChatAccumulator :=
  if accumulator.maxPayloadBytes < accumulator.payloadBytes + fragment.utf8ByteSize then none
  else some { accumulator with payloadBytes := accumulator.payloadBytes + fragment.utf8ByteSize }

-- The fragments are charged in the order they come in; what a failing observation
-- did before is thrown away with the copy it was done on.
def applyChoiceObservation (accumulator : ChatAccumulator) (observation : ChoiceObservation) : Option ChatAccumulator := do
  let charged ← (observation.delta.content.toList ++ observation.delta.toolCalls.map (·.arguments)).foldlM addPayload accumulator
  return { charged with
    choices := changeEntry (fun choice => decide (choice.index = observation.index)) ⟨observation.index, "", "", [], none, false⟩
      (accumulateChoice · observation) charged.choices }

def mergeUsage (accumulator : ChatAccumulator) (usage : Usage) : ChatAccumulator :=
  if meaningfulUsage usage then { accumulator with usage := (mergeCanonicalUsage accumulator.usage usage).getD accumulator.usage } else accumulator

-- None is ErrAccumulatorOverflow, after which the conversion is over.
def accumulate (accumulator : ChatAccumulator) (usage : Usage) (choices : List ChoiceObservation) : Option ChatAccumulator :=
  if accumulator.terminal then none else choices.foldlM applyChoiceObservation (accumulator.mergeUsage usage)

end ChatAccumulator

def hasMeaningfulChoice (choices : List AccumulatedChoice) : Bool :=
  choices.any fun choice =>
    choice.role ≠ "" || choice.content ≠ "" || !choice.toolCalls.isEmpty || choice.finishReason.isSome || choice.finishReasonPresent

inductive AggregationError where
  | invalidLimit
  | emptyStream
  | invalidState
  | observation (failure : UsageError)
  | overflow
  | reader (failure : ReaderError)
deriving DecidableEq, Repr

-- The rendered document is left out: what of it is read here is whether there is
-- one.
structure AggregationResult where
  usage : Usage
  observed : Bool
  done : Bool
deriving DecidableEq, Repr

def aggregationResult (accumulator : ChatAccumulator) (done : Bool) : Except AggregationError AggregationResult :=
  if hasMeaningfulChoice accumulator.choices then .ok ⟨accumulator.usage, meaningfulUsage accumulator.usage, done⟩ else .error .invalidState

section Text

variable (parse : Bytes → Option Json)

def aggregateEvents (ending : ReaderError) (count : Nat) (observer : Observer) (accumulator : ChatAccumulator) :
    List (SSEEvent × Nat) → Except AggregationError AggregationResult
  | [] =>
    if ending ≠ .eof then .error (.reader ending)
    else if count = 0 then .error .emptyStream
    else aggregationResult accumulator false
  | next :: rest =>
    if next.1.data = doneData then if count = 0 then .error .invalidState else aggregationResult accumulator true
    else
      match observe parse observer next.1 with
      | .error failure => .error (.observation failure)
      | .ok observed =>
        match accumulator.accumulate observed.usage (observed.choices.drop observer.choices.length) with
        | none => .error .overflow
        | some accumulated => aggregateEvents ending (count + 1) observed accumulated rest

def aggregateSSEToJSON (maxEventSize maxPayloadBytes : Nat) (input : Bytes) : Except AggregationError AggregationResult :=
  if maxEventSize = 0 ∨ maxPayloadBytes = 0 then .error .invalidLimit
  else
    let reading := readAll maxEventSize input
    aggregateEvents parse reading.error 0 newObserver (newChatAccumulator maxPayloadBytes) reading.events

end Text

section Accumulation

variable {acc accumulated : ChatAccumulator}

theorem add_payload_usage {fragment : String} (added : acc.addPayload fragment = some accumulated) : accumulated.usage = acc.usage := by
  unfold ChatAccumulator.addPayload at added
  split at added <;> cases added
  rfl

theorem fold_usage {α : Type} {step : ChatAccumulator → α → Option ChatAccumulator}
    (kept : ∀ pre item after, step pre item = some after → after.usage = pre.usage) (items : List α)
    (folded : items.foldlM step acc = some accumulated) : accumulated.usage = acc.usage := by
  induction items generalizing acc with
  | nil => cases folded; rfl
  | cons _ _ ih =>
    obtain ⟨_, stepped, later⟩ := Option.bind_eq_some_iff.mp folded
    rw [ih later, kept _ _ _ stepped]

theorem apply_choice_usage {obs : ChoiceObservation} (applied : acc.applyChoiceObservation obs = some accumulated) :
    accumulated.usage = acc.usage := by
  obtain ⟨billed, folded, rest⟩ := Option.bind_eq_some_iff.mp applied
  have kept : billed.usage = acc.usage := fold_usage (fun _ _ _ => add_payload_usage) _ folded
  cases rest
  exact kept

theorem accumulate_usage {usage : Usage} {choices : List ChoiceObservation} (done : acc.accumulate usage choices = some accumulated) :
    accumulated.usage = (acc.mergeUsage usage).usage := by
  unfold ChatAccumulator.accumulate at done
  split at done
  · cases done
  · exact fold_usage (fun _ _ _ => apply_choice_usage) _ done

end Accumulation

section Usage

variable {parse : Bytes → Option Json} {obs observed : Observer} {event : SSEEvent} {usage : Usage}

theorem unknown_of_constructed (constructed : Constructed usage) (unknown : meaningfulUsage usage = false) : usage = unknownUsage := by
  obtain ⟨counts, built⟩ := constructed
  unfold newUsage at built
  split at built <;> (try split at built) <;> cases built <;> simp_all [meaningfulUsage, unknownUsage]

theorem merged_unknown {cur update merged : Usage} (built : Constructed cur) (merges : mergeCanonicalUsage cur update = some merged)
    (unknown : meaningfulUsage merged = false) : cur = merged := by
  have again := merge_again built merges
  have nothing : mergeCanonicalUsage cur unknownUsage = some cur := by
    simpa [mergeCanonicalUsage, unknownUsage, totalWasObserved] using constructed_again built
  rw [unknown_of_constructed (merged_constructed merges) unknown, nothing] at again
  rw [Option.some.inj again, unknown_of_constructed (merged_constructed merges) unknown]

-- A chunk adds its choices, and merges its usage if it has one.
theorem observe_chunk_moves {mems : Json.Members} (observes : observeChunk obs event mems = .ok observed) :
    observed.doneObserved = obs.doneObserved ∧ observed.choices = obs.choices ++ observeChoices (member mems "choices") ∧
      ∃ result, observeEventUsage event mems = .ok result ∧ (result.observed = false ∧ observed.usage = obs.usage ∨
        result.observed = true ∧ mergeCanonicalUsage obs.usage result.usage = some observed.usage) := by
  simp only [observeChunk, bind, Except.bind, pure, Except.pure] at observes
  split at observes
  · cases observes
  rename_i res read
  split at observes
  · rename_i unseen
    cases observes
    exact ⟨rfl, rfl, res, read, .inl ⟨by simpa using unseen, rfl⟩⟩
  · rename_i seen
    split at observes <;> cases observes
    rename_i merged
    exact ⟨rfl, rfl, res, read, .inr ⟨by simpa using seen, merged⟩⟩

theorem observe_cases (observes : observe parse obs event = .ok observed) :
    event.data = doneData ∧ observed = { obs with doneObserved := true } ∨ event.data ≠ doneData ∧
      ∃ mems, parse (Security.trimSpace event.data) = some (.object mems) ∧ observeChunk obs event mems = .ok observed := by
  unfold observe at observes
  split at observes
  · rename_i done
    cases observes
    exact .inl ⟨done, rfl⟩
  rename_i alt
  dsimp only at observes
  split at observes
  · cases observes
  split at observes
  · rename_i mems scans
    obtain ⟨_, reads, scanned⟩ := Option.map_eq_some_iff.mp scans
    cases chunk : observeChunk obs event mems with
    | error => simp [chunk, Except.mapError] at observes
    | ok did =>
      obtain rfl : did = observed := by simpa [chunk, Except.mapError] using observes
      exact .inr ⟨alt, mems, by rw [reads, scan_object scanned], chunk⟩
  · cases observes
  · cases observes
  · cases observes

theorem observe_moves (observes : observe parse obs event = .ok observed) :
    observed.doneObserved = (obs.doneObserved || decide (event.data = doneData)) ∧
      (observed.usage = obs.usage ∨ ∃ update, mergeCanonicalUsage obs.usage update = some observed.usage) := by
  rcases observe_cases observes with ⟨done, rfl⟩ | ⟨alt, mems, _, chunk⟩
  · simp [done]
  · obtain ⟨running, _, res, _, same⟩ := observe_chunk_moves chunk
    exact ⟨by simp [running, alt], same.imp (·.2) fun merged => ⟨res.usage, merged.2⟩⟩

theorem observe_constructed (built : Constructed obs.usage) (observes : observe parse obs event = .ok observed) :
    Constructed observed.usage := by
  obtain same | ⟨update, merged⟩ := (observe_moves observes).2
  · rwa [same]
  · exact merged_constructed merged

variable {acc : ChatAccumulator} {aggregated : AggregationResult}

theorem merge_snapshot (built : Constructed obs.usage) (observes : observe parse obs event = .ok observed) (same : acc.usage = obs.usage) :
    (acc.mergeUsage observed.usage).usage = observed.usage := by
  unfold ChatAccumulator.mergeUsage
  obtain kept | ⟨update, merged⟩ := (observe_moves observes).2
  · split
    · simp [same, kept, merge_same built]
    · rw [same, kept]
  split
  · simp [same, merge_again built merged]
  · rename_i unknown
    rw [same]
    exact merged_unknown built merged (by simpa using unknown)

theorem observe_events_done {res : ObservationResult} (done : res.observer.doneObserved = true) (events : List (SSEEvent × Nat)) :
    (events.foldl (observeNext parse) res).observer = res.observer ∧
      (events.foldl (observeNext parse) res).lastMeaningfulOffset = res.lastMeaningfulOffset := by
  induction events generalizing res with
  | nil => exact ⟨rfl, rfl⟩
  | cons next _ ih =>
    have kept : (observeNext parse res next).observer = res.observer ∧
        (observeNext parse res next).lastMeaningfulOffset = res.lastMeaningfulOffset := by
      simp only [observeNext, done, if_true]
      split <;> exact ⟨rfl, rfl⟩
    obtain ⟨same, offset⟩ := ih (by rw [kept.1]; exact done)
    exact ⟨same.trans kept.1, offset.trans kept.2⟩

theorem aggregation_result_usage {done : Bool} (rendered : aggregationResult acc done = .ok aggregated) : aggregated.usage = acc.usage := by
  unfold aggregationResult at rendered
  split at rendered <;> cases rendered
  rfl

theorem aggregate_events_usage {ending : ReaderError} {count : Nat} (res : ObservationResult) (events : List (SSEEvent × Nat))
    (running : res.observer.doneObserved = false) (built : Constructed res.observer.usage) (same : acc.usage = res.observer.usage)
    (good : aggregateEvents parse ending count res.observer acc events = .ok aggregated) :
    aggregated.usage = (events.foldl (observeNext parse) res).observer.usage := by
  induction events generalizing res acc count with
  | nil =>
    unfold aggregateEvents at good
    split at good
    · cases good
    split at good
    · cases good
    · rw [aggregation_result_usage good, same]
      rfl
  | cons next rest ih =>
    unfold aggregateEvents at good
    by_cases done : next.1.data = doneData
    · have stopped : (observeNext parse res next).observer = { res.observer with doneObserved := true } := by
        simp [observeNext, running, observe, done]
      rw [if_pos done] at good
      split at good
      · cases good
      · rw [List.foldl_cons, (observe_events_done (by rw [stopped]) rest).1, stopped, aggregation_result_usage good, same]
    · rw [if_neg done] at good
      split at good
      · cases good
      rename_i observed observes
      split at good
      · cases good
      rename_i accumulated accumulates
      have did : (observeNext parse res next).observer = observed := by simp [observeNext, running, observes]
      rw [← did] at good
      refine ih _ ?_ ?_ ?_ good
      · rw [did, (observe_moves observes).1, running, Bool.false_or, decide_eq_false done]
      · rw [did]
        exact observe_constructed built observes
      · rw [accumulate_usage accumulates, did, merge_snapshot built observes same]

theorem conversion_usage_observed {maxEventSize maxPayloadBytes : Nat} {input : Bytes} {aggregated : AggregationResult}
    (converted : aggregateSSEToJSON parse maxEventSize maxPayloadBytes input = .ok aggregated) :
    aggregated.usage = (observeStream parse maxEventSize input).1.observer.usage := by
  unfold aggregateSSEToJSON at converted
  split at converted
  · cases converted
  · exact aggregate_events_usage ⟨newObserver, [], 0⟩ _ rfl unknown_constructed rfl converted

end Usage

def sampleChunk : Bytes := ascii "\x7b\"choices\":[\x7b\"delta\":\x7b\"content\":\"a\"\x7d\x7d],\"usage\":\x7b\"prompt_tokens\":1\x7d\x7d"

def sampleMembers : Json.Members :=
  [("choices", .array [.object [("delta", .object [("content", .string "a")])]]), ("usage", .object [("prompt_tokens", .number (some 1))])]

def dataEvent (data : Bytes) : Bytes := ascii "data: " ++ data ++ [10, 10]

theorem conversion_usage_observed_twice : (⟨some 1, none, none, none, none, .absent⟩ : Usage) =
      (observeStream (knowing sampleChunk sampleMembers) 100 (dataEvent sampleChunk ++ dataEvent sampleChunk ++
        dataEvent doneData)).1.observer.usage := by
  have converted :
      aggregateSSEToJSON (knowing sampleChunk sampleMembers) 100 10 (dataEvent sampleChunk ++ dataEvent sampleChunk ++ dataEvent doneData) =
        .ok ⟨⟨some 1, none, none, none, none, .absent⟩, true, true⟩ := by
    decide +kernel
  exact conversion_usage_observed converted

end NineGateway.OpenAI
