import NineGateway.Observation.Worker
import NineGateway.OpenAI.Observation
import NineGateway.Streaming.EventLimit

set_option autoImplicit false

namespace NineGateway.Observation

open Streaming (Bytes Reader frames limitReport readAll read_all_fits_iff)
open OpenAI
open Json (ascii knowing)
open Streaming (carriageReturn colon dataField lineFeed newReader parseField read_line_feed space)
open Security

inductive ObservationError where
  | unsupported
  | tooLarge
  | malformed
deriving DecidableEq, Repr

def maxObservedEventBytes : Nat := 64 * 1024
def maxSSEEventBytes : Nat := 1024 * 1024

section Text

-- What encoding/json reads a text as, and the first bytes of what a gzip stream
-- expands to, none when that fails before.
variable (parse : Bytes → Option Json) (gunzip : Bytes → Nat → Option Bytes)

def decodeObservedBytes (data : Bytes) (coding : ContentCoding) (maxBytes : Nat) : Except ObservationError Bytes :=
  if maxBytes < data.length then .error .tooLarge
  else if coding = contentCodingIdentity then .ok data
  else
    match gunzip data (maxBytes + 1) with
    | none => .error .malformed
    | some decoded => if maxBytes < decoded.length then .error .tooLarge else .ok decoded

def observedBytes (data : Bytes) (coding : ContentCoding) (maxBytes : Nat) : Except ObservationError Bytes :=
  if validContentCoding coding then decodeObservedBytes gunzip data coding maxBytes else .error .unsupported

def jsonObservation (text : Bytes) : Option Usage := ((parseJSONUsage parse text).toOption.filter (·.observed)).map (·.usage)

def decodedTotal (decoded : Bytes) : Option Nat :=
  match (Security.trimSpace decoded).head? with
  | none => none
  | some first =>
    if first = openBrace then (jsonObservation parse (Security.trimSpace decoded)).map (·.total.getD 0)
    else
      let observed := observeStream parse maxObservedEventBytes decoded
      if observed.2.isNone && observed.1.errors.isEmpty then observed.1.observer.usage.total else none

-- The checkpoints, of which this reading has none, give only the time of the last
-- meaningful event.
def decodedUsage (decoded : Bytes) : Option Usage :=
  match (Security.trimSpace decoded).head? with
  | none => none
  | some first =>
    if first = openBrace then jsonObservation parse (Security.trimSpace decoded)
    else
      let observed := observeStream parse maxObservedEventBytes decoded
      if observed.2.isNone && observed.1.errors.isEmpty && decide (0 < observed.1.lastMeaningfulOffset) then some observed.1.observer.usage else none

def orMalformed {α : Type} : Option α → Except ObservationError α
  | some value => .ok value
  | none => .error .malformed

def parseUsageObservation (data : Bytes) (coding : ContentCoding) (maxBytes : Nat) : Except ObservationError Nat :=
  (observedBytes gunzip data coding maxBytes).bind fun decoded => orMalformed (decodedTotal parse decoded)

def parseCanonicalUsageObservation (data : Bytes) (coding : ContentCoding) (maxBytes : Nat) : Except ObservationError Usage :=
  (observedBytes gunzip data coding maxBytes).bind fun decoded => orMalformed (decodedUsage parse decoded)

end Text

section Meaningful

variable {parse : Bytes → Option Json}

theorem event_offset_positive (reader : Reader) (input : Bytes) : ∀ entry ∈ (reader.readAll input).events, 0 < entry.2 := by
  have after : ∀ {read : Streaming.Reading} (event : Option Streaming.SSEEvent) (offset : Nat), 0 < offset → (∀ entry ∈ read.events, 0 < entry.2) →
      ∀ entry ∈ (read.after event offset).events, 0 < entry.2 := by
    intro read event offset pos past
    cases event with
    | none => exact past
    | some => simpa [Streaming.Reading.after, pos] using past
  fun_induction Reader.readAll reader input with
  | case1 | case2 | case5 => simp
  | case3 => rename_i ih; exact after _ _ (Nat.succ_pos _) ih
  | case4 => rename_i ih; exact after _ _ (Nat.succ_pos _) ih
  | case6 => rename_i ih; exact after _ _ (Nat.succ_pos _) ih
  | case7 => rename_i ih; exact after _ _ (Nat.succ_pos _) ih
  | case8 => rename_i ih; exact ih

theorem observe_next_meaningful {res : ObservationResult} {next : Streaming.SSEEvent × Nat} (pos : 0 < next.2)
    (past : meaningfulUsage res.observer.usage = true → 0 < res.lastMeaningfulOffset)
    (known : meaningfulUsage (observeNext parse res next).observer.usage = true) : 0 < (observeNext parse res next).lastMeaningfulOffset := by
  unfold observeNext at known ⊢
  cases done : res.observer.doneObserved with
  | true =>
    simp only [done, if_true] at known ⊢
    cases observed : observe parse newObserver next.1 <;> simp only [observed] at known ⊢ <;> exact past known
  | false =>
    simp only [done, Bool.false_eq_true, if_false] at known ⊢
    cases observed : observe parse res.observer next.1 with
    | error =>
      simp only [observed] at known ⊢
      exact past known
    | ok obs =>
      simp only [observed] at known ⊢
      split
      · exact pos
      rename_i idle
      apply past
      by_cases last : next.1.data = doneData
      · have same : { res.observer with doneObserved := true } = obs := by simpa [observe, last] using observed
        simpa [← same] using known
      have quiet : meaningfulObservation obs res.observer.choices.length (meaningfulUsage res.observer.usage) = false := by
        cases meaningful : meaningfulObservation obs res.observer.choices.length (meaningfulUsage res.observer.usage) with
        | false => rfl
        | true => exact absurd ⟨last, by simp [meaningfulEvent, meaningful]⟩ idle
      simpa [meaningfulObservation, known] using (Bool.or_eq_false_iff.mp quiet).1

theorem observe_events_meaningful (events : List (Streaming.SSEEvent × Nat)) (pos : ∀ entry ∈ events, 0 < entry.2)
    (known : meaningfulUsage (observeEvents parse events).observer.usage = true) : 0 < (observeEvents parse events).lastMeaningfulOffset := by
  have run : ∀ (events : List (Streaming.SSEEvent × Nat)) (res : ObservationResult), (∀ entry ∈ events, 0 < entry.2) →
      (meaningfulUsage res.observer.usage = true → 0 < res.lastMeaningfulOffset) →
      meaningfulUsage (events.foldl (observeNext parse) res).observer.usage = true →
        0 < (events.foldl (observeNext parse) res).lastMeaningfulOffset := by
    intro events
    induction events with
    | nil => exact fun res _ past => past
    | cons _ _ ih =>
      intro res pos past
      rw [List.forall_mem_cons] at pos
      exact ih _ pos.2 (observe_next_meaningful pos.1 past)
  exact run events ⟨newObserver, [], 0⟩ pos (by simp [newObserver, unknownUsage, meaningfulUsage]) known

end Meaningful

section Tokens

variable {parse : Bytes → Option Json} {gunzip : Bytes → Nat → Option Bytes} {data decoded : Bytes} {coding : ContentCoding} {maxBytes total : Nat}

theorem or_malformed_ok {α : Type} {read : Option α} {v : α} : orMalformed read = .ok v ↔ read = some v := by
  cases read <;> simp [orMalformed]

theorem total_meaningful {usage : Usage} (known : usage.total = some total) : meaningfulUsage usage = true := by simp [meaningfulUsage, known]

-- A JSON object whose usage names no total, nor both of the counts that it is the sum of.
def PartialUsage (parse : Bytes → Option Json) (text : Bytes) : Prop :=
  text.head? = some openBrace ∧ ∃ members usage, parse text = some (.object members) ∧
    Json.lastMember members (Json.spells "usage") = some (.object usage) ∧ totalNamed usage = false

theorem json_observation_total {text : Bytes} {usage : Usage} (opens : text.head? = some openBrace) (read : jsonObservation parse text = some usage) :
    usage.total.isSome = true ↔ ¬ PartialUsage parse text := by
  obtain ⟨res, observed, rfl⟩ := Option.map_eq_some_iff.mp read
  obtain ⟨parsed, seen⟩ := Option.filter_eq_some_iff.mp observed
  unfold parseJSONUsage at parsed
  split at parsed
  · cases parsed
  split at parsed
  · rename_i root scans
    obtain ⟨_, whole, scanned⟩ := Option.map_eq_some_iff.mp scans
    rw [scan_object scanned] at whole
    cases inner : parseJSONUsageObject (Json.lastMember root (Json.spells "usage")) with
    | error => simp [inner, Except.mapError, Except.toOption] at parsed
    | ok found =>
      obtain rfl : found = res := by simpa [inner, Except.mapError, Except.toOption] using parsed
      rcases parse_object_cases inner with rfl | ⟨usage, counts, there, decoded, _, _, built⟩
      · cases seen
      rw [total_named decoded built, PartialUsage, not_and]
      constructor
      · rintro known _ ⟨_, _, again, other, unnamed⟩
        obtain rfl := Json.object.inj (Option.some.inj (whole.symm.trans again))
        obtain rfl := Json.object.inj (Option.some.inj (there.symm.trans other))
        rw [known] at unnamed
        cases unnamed
      · intro whole_
        cases known : totalNamed usage with
        | true => rfl
        | false => exact absurd ⟨root, usage, whole, there, known⟩ (whole_ opens)
  · cases parsed
  · cases parsed
  · cases parsed

-- The total that is settled is the canonical one, unless the body is a JSON object
-- whose usage has no total: that is settled as zero.
theorem observed_total_canonical_iff (decodes : observedBytes gunzip data coding maxBytes = .ok decoded)
    (accepted : parseUsageObservation parse gunzip data coding maxBytes = .ok total) :
    (∃ usage, parseCanonicalUsageObservation parse gunzip data coding maxBytes = .ok usage ∧ usage.total = some total) ↔
      ¬ PartialUsage parse (Security.trimSpace decoded) := by
  have read : decodedTotal parse decoded = some total := or_malformed_ok.mp (by simpa [parseUsageObservation, decodes, Except.bind] using accepted)
  have canonical : ∀ usage, parseCanonicalUsageObservation parse gunzip data coding maxBytes = .ok usage ↔
    decodedUsage parse decoded = some usage := by
    intro usage
    simpa [parseCanonicalUsageObservation, decodes, Except.bind] using or_malformed_ok
  simp only [canonical]
  unfold decodedTotal at read
  unfold decodedUsage
  cases first : (trimSpace decoded).head? with
  | none => simp [first] at read
  | some byte =>
    rw [first] at read
    by_cases opens : byte = openBrace
    · simp only [if_pos opens] at read ⊢
      obtain ⟨usage, hit, v⟩ := Option.map_eq_some_iff.mp read
      rw [← json_observation_total (by rw [first, opens]) hit]
      cases known : usage.total with
      | none => simp [hit, known]
      | some =>
        rw [known, Option.getD_some] at v
        simp [hit, known, v]
    · simp only [if_neg opens] at read ⊢
      split at read
      · rename_i clean
        have meaningful : 0 < (observeStream parse maxObservedEventBytes decoded).1.lastMeaningfulOffset :=
          observe_events_meaningful _ (event_offset_positive _ _) (total_meaningful read)
        simp [clean, meaningful, read, PartialUsage, first, opens]
      · cases read

end Tokens

def partialUsage : Bytes := ascii "\x7b\"usage\":\x7b\"prompt_tokens\":5\x7d\x7d"

theorem observed_total_canonical_json :
    ∃ usage, parseCanonicalUsageObservation (knowing bothCases [totalOf "Usage" 5, totalOf "usage" 7])
      (fun _ _ => none) bothCases contentCodingIdentity 100 =
        .ok usage ∧ usage.total = some 7 := by
  have decodes : observedBytes (fun _ _ => none) bothCases contentCodingIdentity 100 = .ok bothCases := by decide +kernel
  refine (observed_total_canonical_iff decodes (by decide +kernel)).mpr ?_
  rintro ⟨_, members, usage, reads, there, unnamed⟩
  rw [knowing, if_pos (by decide +kernel)] at reads
  cases reads
  cases there
  cases unnamed

-- A partial usage report is settled as zero tokens.
theorem partial_usage_settled_as_zero :
    parseUsageObservation (knowing partialUsage [("usage", .object [("prompt_tokens", .number (some 5))])]) (fun _ _ => none) partialUsage
        contentCodingIdentity 100 = .ok 0 ∧
      parseCanonicalUsageObservation (knowing partialUsage [("usage", .object [("prompt_tokens", .number (some 5))])]) (fun _ _ => none) partialUsage
        contentCodingIdentity 100 = .ok ⟨some 5, none, none, none, none, .absent⟩ := by
  decide +kernel

section Carried

variable {parse : Bytes → Option Json} {result : ObservationResult} {next : Streaming.SSEEvent × Nat} {usage : Usage}

-- An event says something: a count of a usage, a piece of a choice or its end.
def carries (parse : Bytes → Option Json) (event : Streaming.SSEEvent) : Bool :=
  (match parse (Security.trimSpace event.data) with
    | some (.object members) =>
      (observeEventUsage event members).toOption.any (·.observed) || (observeChoices (member members "choices")).any meaningfulObserved
    | _ => false) || ((parse event.data).bind Json.fields).any meaningfulChunk

theorem observed_meaningful {counts : UsageInput} (built : newUsage counts = some usage) (seen : counts.observed = true) :
    meaningfulUsage usage = true := by
  obtain ⟨input, output, cached, reasoning, total⟩ := new_usage_fields built
  rw [UsageInput.observed, ← input, ← output, ← cached, ← reasoning, ← total] at seen
  unfold meaningfulUsage
  split at seen <;> simp_all
  grind

theorem merged_meaningful {current update : Usage} (built : Constructed update) (seen : meaningfulUsage update = true)
    (merged : mergeCanonicalUsage current update = some usage) : meaningfulUsage usage = true := by
  refine observed_meaningful merged ?_
  obtain ⟨counts, made⟩ := built
  unfold newUsage at made
  split at made <;> (try split at made) <;> cases made <;> simp_all [meaningfulUsage, UsageInput.observed, totalWasObserved]
  grind

theorem parsed_meaningful {raw : Option Json} {found : JSONUsageResult} (parsed : parseJSONUsageObject raw = .ok found)
    (seen : found.observed = true) : meaningfulUsage found.usage = true := by
  rcases parse_object_cases parsed with rfl | ⟨_, _, _, _, _, counted, built⟩
  · cases seen
  · exact observed_meaningful built counted

theorem event_usage_meaningful {event : Streaming.SSEEvent} {mems : Json.Members} {found : JSONUsageResult}
    (read : observeEventUsage event mems = .ok found) (seen : found.observed = true) : Constructed found.usage ∧
      meaningfulUsage found.usage = true := by
  have parsed : ∀ {raw : Option Json} {res : JSONUsageResult}, parseJSONUsageObject raw = .ok res → res.observed = true →
      Constructed res.usage ∧ meaningfulUsage res.usage = true :=
    fun read seen => ⟨(parse_object_constructed read).1, parsed_meaningful read seen⟩
  simp only [observeEventUsage, bind, Except.bind, pure, Except.pure] at read
  split at read
  · cases read
  rename_i root rootRead
  split at read
  · cases read; exact parsed rootRead seen
  split at read
  · cases read
  split at read
  · cases read; exact parsed rootRead seen
  · cases read; exact parsed rootRead seen
  split at read
  · cases read
  split at read
  · cases read
  rename_i nested nestedRead
  split at read
  · cases read; exact parsed rootRead seen
  rename_i reported
  split at read
  · cases read; exact parsed nestedRead seen
  split at read <;> cases read
  rename_i merged
  obtain ⟨built, known⟩ := parsed nestedRead (by simpa using reported)
  exact ⟨merged_constructed merged, merged_meaningful built known merged⟩

theorem next_carries {observed : Observer} (pos : 0 < next.2) (running : result.observer.doneObserved = false)
    (past : meaningfulUsage result.observer.usage = true → 0 < result.lastMeaningfulOffset)
    (observes : observe parse result.observer next.1 = .ok observed) (alt : next.1.data ≠ doneData) :
    0 < (observeNext parse result next).lastMeaningfulOffset ↔ 0 < result.lastMeaningfulOffset ∨ carries parse next.1 = true := by
  obtain ⟨done, _⟩ | ⟨_, mems, reads, chunk⟩ := observe_cases observes
  · exact absurd done alt
  obtain ⟨_, choices, found, read, usage⟩ := observe_chunk_moves chunk
  have tells : carries parse next.1 = (found.observed || (observeChoices (member mems "choices")).any meaningfulObserved ||
      ((parse next.1.data).bind Json.fields).any meaningfulChunk) := by
    simp [carries, reads, read, Except.toOption]
  have step : (observeNext parse result next).lastMeaningfulOffset =
      if (meaningfulUsage observed.usage && !meaningfulUsage result.observer.usage ||
        (observeChoices (member mems "choices")).any meaningfulObserved ||
        ((parse next.1.data).bind Json.fields).any meaningfulChunk) then next.2 else result.lastMeaningfulOffset := by
    simp only [observeNext, running, observes, Bool.false_eq_true, if_false, ne_eq, alt, not_false_eq_true, true_and, meaningfulEvent,
      meaningfulObservation, choices, List.drop_left]
  rw [step, tells]
  generalize (observeChoices (member mems "choices")).any meaningfulObserved = spoken
  generalize ((parse next.1.data).bind Json.fields).any meaningfulChunk = meant
  rcases usage with ⟨unseen, same⟩ | ⟨seen, merged⟩
  · rw [same, unseen]
    cases meaningfulUsage result.observer.usage <;> cases spoken <;> cases meant <;> simp [pos]
  · obtain ⟨built, known⟩ := event_usage_meaningful read seen
    rw [merged_meaningful built known merged, seen]
    cases before : meaningfulUsage result.observer.usage with
    | false => simp [pos]
    | true =>
      have already := past before
      split <;> simp [pos, already]

theorem next_errors (running : result.observer.doneObserved = false) (fine : (observeNext parse result next).errors = []) :
    result.errors = [] ∧ ∃ observed, observe parse result.observer next.1 = .ok observed := by
  simp only [observeNext, running, Bool.false_eq_true, if_false] at fine
  cases observes : observe parse result.observer next.1 with
  | error => simp [observes] at fine
  | ok observed => exact ⟨by simpa [observes] using fine, observed, rfl⟩

theorem fold_errors (events : List (Streaming.SSEEvent × Nat)) (fine : (events.foldl (observeNext parse) result).errors = []) :
    result.errors = [] := by
  induction events generalizing result with
  | nil => exact fine
  | cons next rest ih =>
    have later := ih fine
    unfold observeNext at later
    split at later <;> split at later <;> simp_all

theorem events_carry (events : List (Streaming.SSEEvent × Nat)) (pos : ∀ entry ∈ events, 0 < entry.2)
    (running : result.observer.doneObserved = false)
    (past : meaningfulUsage result.observer.usage = true → 0 < result.lastMeaningfulOffset)
    (valid : (events.foldl (observeNext parse) result).errors = []) :
    0 < (events.foldl (observeNext parse) result).lastMeaningfulOffset ↔ 0 < result.lastMeaningfulOffset ∨
      ∃ entry ∈ events.takeWhile (fun entry => decide (entry.1.data ≠ doneData)), carries parse entry.1 = true := by
  induction events generalizing result with
  | nil => simp
  | cons next rest ih =>
    rw [List.foldl_cons] at valid ⊢
    rw [List.forall_mem_cons] at pos
    have fine := fold_errors rest valid
    obtain ⟨_, observed, observes⟩ := next_errors running fine
    by_cases done : next.1.data = doneData
    · have stopped : observeNext parse result next = { result with observer := { result.observer with doneObserved := true } } := by
        simp [observeNext, running, observe, done]
      rw [stopped, (observe_events_done rfl rest).2, List.takeWhile_cons_of_neg (by simp [done])]
      simp
    · rw [ih pos.2 ?_ (observe_next_meaningful pos.1 past) valid, next_carries pos.1 running past observes done,
        List.takeWhile_cons_of_pos (by simpa using done)]
      · simp [or_assoc]
      · simp [observeNext, running, observes, (observe_moves observes).1, done]

end Carried

section Streams

variable {parse : Bytes → Option Json} {gunzip : Bytes → Nat → Option Bytes} {body : Bytes} {maxBytes : Nat} {result : ObservationResult}

-- A stream of valid events is read with a limit it cannot reach, and no such stream is
-- a JSON text. Its usage is observed exactly when it does not begin with a brace, no
-- stretch of it exceeds the observer's own limit and some event says something before
-- the stream is done.
theorem stream_usage_observed_iff (within : body.length ≤ maxBytes) (stream : parse (Security.trimSpace body) = none)
    (reported : observeStream parse (body.length + 1) body = (result, none)) (valid : result.errors = []) :
    parseCanonicalUsageObservation parse gunzip body contentCodingIdentity maxBytes = .ok result.observer.usage ↔
      (∃ first ∈ (Security.trimSpace body).head?, first ≠ openBrace) ∧ (∀ frame ∈ frames body, frame.size ≤ maxObservedEventBytes) ∧
        ∃ entry ∈ (readAll (body.length + 1) body).events.takeWhile (fun entry => decide (entry.1.data ≠ doneData)),
          carries parse entry.1 = true := by
  have decodes : observedBytes gunzip body contentCodingIdentity maxBytes = .ok body := by
    simp [observedBytes, decodeObservedBytes, validContentCoding, Nat.not_lt.mpr within]
  have canonical : parseCanonicalUsageObservation parse gunzip body contentCodingIdentity maxBytes = .ok result.observer.usage ↔
      decodedUsage parse body = some result.observer.usage := by
    simpa [parseCanonicalUsageObservation, decodes, Except.bind] using or_malformed_ok
  obtain ⟨observed, ended⟩ := Prod.mk.inj reported
  have whole : (readAll (body.length + 1) body).error ≠ .eventTooLarge := by
    intro large
    simp [large] at ended
  have meaningful : 0 < result.lastMeaningfulOffset ↔
      ∃ entry ∈ (readAll (body.length + 1) body).events.takeWhile (fun entry => decide (entry.1.data ≠ doneData)), carries parse entry.1 = true := by
    subst observed
    have positive : ∀ entry ∈ (readAll (body.length + 1) body).events, 0 < entry.2 := event_offset_positive _ _
    rw [observeEvents, events_carry _ positive rfl (by simp [newObserver, unknownUsage, meaningfulUsage]) valid]
    simp
  rw [canonical, ← read_all_fits_iff, ← meaningful]
  unfold decodedUsage
  cases first : (trimSpace body).head? with
  | none => simp
  | some byte =>
    by_cases opens : byte = openBrace
    · have broken : jsonObservation parse (trimSpace body) = none := by
        simp only [jsonObservation, parseJSONUsage, stream, Option.map_none]
        split <;> rfl
      simp [opens, broken]
    by_cases fits : (readAll maxObservedEventBytes body).error = .eventTooLarge
    · simp [opens, fits, observeStream]
    · have same : observeStream parse maxObservedEventBytes body = (result, none) := by
        rw [← reported]
        simp only [observeStream, Streaming.read_all_fitting fits whole]
      simp [opens, fits, same, valid]

end Streams

section Single

variable {parse : Bytes → Option Json} {text : Bytes} {mems : Json.Members} {obs : Observer}

theorem observe_single {offset : Nat} (reads : ObjectText parse text mems) (single : Json.duplicated mems "usage" = false)
    (observes : observeChunk newObserver ⟨[], text⟩ mems = .ok obs) (known : meaningfulUsage obs.usage = true) :
    observeEvents parse [(⟨[], text⟩, offset)] = ⟨obs, [], offset⟩ := by
  have chunk := object_not_done reads
  have whole : observe parse newObserver ⟨[], text⟩ = .ok obs := by
    rw [observe_object ⟨[], text⟩ newObserver reads, single, observes]
    rfl
  have meaningful : meaningfulEvent parse ⟨[], text⟩ obs newObserver.choices.length (meaningfulUsage newObserver.usage) = true := by
    have unknown : meaningfulUsage newObserver.usage = false := rfl
    simp [meaningfulEvent, meaningfulObservation, known, unknown]
  have running : newObserver.doneObserved = false := rfl
  simp [observeEvents, observeNext, whole, chunk, meaningful, running]

variable (plain : ∀ byte ∈ text, byte ≠ lineFeed ∧ byte ≠ carriageReturn)
include plain

theorem data_line_plain : ∀ byte ∈ ascii "data: " ++ text, byte ≠ lineFeed ∧ byte ≠ carriageReturn := by
  have opening : ∀ byte ∈ ascii "data: ", byte ≠ lineFeed ∧ byte ≠ carriageReturn := by simp [ascii, lineFeed, carriageReturn]
  intro byte hit
  exact (List.mem_append.mp hit).elim (opening byte) (plain byte)

theorem read_single {limit : Nat} (fits : text.length + 8 ≤ limit) :
    readAll limit (dataEvent text) = ⟨[(⟨[], text⟩, text.length + 8)], .eof, text.length + 8⟩ := by
  have size : (ascii "data: " ++ text).length = text.length + 6 := by simp [ascii]
  have field : parseField (ascii "data: " ++ text) = (dataField, text) := by
    simp [ascii, parseField, colon, space, dataField]
  rw [readAll, dataEvent, Streaming.read_plain _ _ (data_line_plain plain) (by simp only [newReader, size]; omega), size]
  change Reader.readAll _ [lineFeed, lineFeed] = _
  rw [read_line_feed (by simp only [newReader]; omega)]
  rw [Streaming.end_data_line (by simp [newReader, Reader.countByte, ascii, Streaming.isCommentLine, colon]) field,
    read_line_feed (by simp only [newReader, Reader.countByte]; omega)]
  simp [newReader, Streaming.Reading.after, Reader.countByte, Reader.endLine, Reader.resetEvent, Reader.readAll, Reader.endInput]
  decide

omit plain

theorem observe_single_stream (reads : ObjectText parse text mems) (single : Json.duplicated mems "usage" = false)
    (observes : observeChunk newObserver ⟨[], text⟩ mems = .ok obs) (known : meaningfulUsage obs.usage = true)
    (plain : ∀ byte ∈ text, byte ≠ lineFeed ∧ byte ≠ carriageReturn) :
    observeStream parse ((dataEvent text).length + 1) (dataEvent text) = (⟨obs, [], text.length + 8⟩, none) := by
  have length : (dataEvent text).length = text.length + 8 := by simp [dataEvent, ascii]
  rw [observeStream, read_single plain (by omega), observe_single reads single observes known]
  rfl

end Single

theorem stream_usage_observed_sample :
    parseCanonicalUsageObservation (knowing sampleChunk sampleMembers) (fun _ _ => none) (dataEvent sampleChunk) contentCodingIdentity 200 =
      .ok ⟨some 1, none, none, none, none, .absent⟩ := by
  have observes : observeChunk newObserver ⟨[], sampleChunk⟩ sampleMembers =
      .ok ⟨1, false, [⟨0, ⟨none, some "a", []⟩, none, false⟩], ⟨some 1, none, none, none, none, .absent⟩⟩ := by
    decide +kernel
  have plain : ∀ byte ∈ sampleChunk, byte ≠ lineFeed ∧ byte ≠ carriageReturn := by decide +kernel
  have reported := observe_single_stream (knowing_reads sampleMembers (by decide +kernel) (by decide +kernel))
    (by decide +kernel) observes (by decide) plain
  exact (stream_usage_observed_iff (by decide +kernel) (by decide +kernel) reported rfl).mpr
    ⟨⟨100, by decide +kernel, by decide⟩, by decide +kernel, by decide +kernel⟩

section Long

def longChunk (pad : Nat) : Bytes := openBrace :: (ascii "\"usage\":\x7b\"total_tokens\":5\x7d" ++ List.replicate pad 32) ++ [125]

variable (pad : Nat)

theorem long_chunk_length : (longChunk pad).length = pad + 28 := by
  have text : (ascii "\"usage\":\x7b\"total_tokens\":5\x7d").length = 26 := by simp [ascii]
  simp only [longChunk, List.length_append, List.length_cons, List.length_nil, List.length_replicate, text]
  omega

theorem long_chunk_plain : ∀ byte ∈ longChunk pad, byte ≠ lineFeed ∧ byte ≠ carriageReturn := by
  have text : ∀ byte ∈ ascii "\"usage\":\x7b\"total_tokens\":5\x7d", byte ≠ lineFeed ∧ byte ≠ carriageReturn := by
    simp [ascii, lineFeed, carriageReturn]
  intro byte hit
  rcases List.mem_append.mp hit with inside | last
  · rcases List.mem_cons.mp inside with rfl | inside
    · decide
    rcases List.mem_append.mp inside with named | space
    · exact text byte named
    · rw [List.eq_of_mem_replicate space]
      decide
  · rw [List.mem_singleton.mp last]
    decide

theorem long_stream_too_large (large : maxObservedEventBytes ≤ pad) :
    (readAll maxObservedEventBytes (dataEvent (longChunk pad))).error = .eventTooLarge := by
  refine Streaming.read_plain_large _ _ (data_line_plain (long_chunk_plain pad)) (Nat.zero_le _) ?_
  simp only [List.length_append, long_chunk_length, newReader]
  omega

theorem long_stream_malformed (parse : Bytes → Option Json) (pad : Nat) (large : maxObservedEventBytes ≤ pad) :
    decodedUsage parse (dataEvent (longChunk pad)) = none := by
  have first : (trimSpace (dataEvent (longChunk pad))).head? = some 100 := trim_space_head (by decide +kernel) _
  simp [decodedUsage, first, openBrace, observeStream, long_stream_too_large pad large]

theorem long_event_reported :
    observeStream (knowing (longChunk pad) [totalOf "usage" 5]) ((dataEvent (longChunk pad)).length + 1) (dataEvent (longChunk pad)) =
      (⟨⟨1, false, [], ⟨none, none, some 5, none, none, .observed⟩⟩, [], (longChunk pad).length + 8⟩, none) := by
  have trimmed : trimSpace (longChunk pad) = longChunk pad := trim_space_between (by decide +kernel) (by decide +kernel) _
  have observes : observeChunk newObserver ⟨[], longChunk pad⟩ [totalOf "usage" 5] =
    .ok ⟨1, false, [], ⟨none, none, some 5, none, none, .observed⟩⟩ := by
    -- Of the event only its name is read.
    change observeChunk newObserver ⟨[], []⟩ [totalOf "usage" 5] = _
    decide +kernel
  exact observe_single_stream (knowing_reads [totalOf "usage" 5] trimmed rfl) (by decide +kernel) observes (by decide) (long_chunk_plain pad)

theorem long_event_lost (large : maxObservedEventBytes ≤ pad) (small : pad + 36 ≤ maxSSEEventBytes) :
    limitReport maxSSEEventBytes [dataEvent (longChunk pad)] = none ∧
      (∃ res, observeStream (knowing (longChunk pad) [totalOf "usage" 5]) ((dataEvent (longChunk pad)).length + 1) (dataEvent (longChunk pad)) =
          (res, none) ∧ res.errors = [] ∧ res.observer.usage = ⟨none, none, some 5, none, none, .observed⟩) ∧
      parseCanonicalUsageObservation (knowing (longChunk pad) [totalOf "usage" 5]) (fun _ _ => none) (dataEvent (longChunk pad)) contentCodingIdentity
        defaultUsageObservationMaxBytes = .error .malformed := by
  have length : (dataEvent (longChunk pad)).length = pad + 36 := by simp [dataEvent, ascii, long_chunk_length]
  have within : ¬ defaultUsageObservationMaxBytes < (dataEvent (longChunk pad)).length := by
    rw [length]
    have room : maxSSEEventBytes ≤ defaultUsageObservationMaxBytes := by decide
    omega
  refine ⟨Streaming.short_stream_forwarded (by rwa [List.flatten_singleton, length]), ⟨_, long_event_reported pad, rfl, rfl⟩, ?_⟩
  simp [parseCanonicalUsageObservation, observedBytes, decodeObservedBytes, validContentCoding, within, Except.bind,
    long_stream_malformed _ pad large,
    orMalformed]

theorem long_event_not_observed : limitReport maxSSEEventBytes [dataEvent (longChunk maxObservedEventBytes)] = none ∧
      (∃ result, observeStream (knowing (longChunk maxObservedEventBytes) [totalOf "usage" 5])
        ((dataEvent (longChunk maxObservedEventBytes)).length + 1)
          (dataEvent (longChunk maxObservedEventBytes)) = (result, none) ∧
        result.errors = [] ∧ result.observer.usage = ⟨none, none, some 5, none, none, .observed⟩) ∧
      parseCanonicalUsageObservation (knowing (longChunk maxObservedEventBytes) [totalOf "usage" 5]) (fun _ _ => none)
        (dataEvent (longChunk maxObservedEventBytes)) contentCodingIdentity defaultUsageObservationMaxBytes = .error .malformed :=
  long_event_lost maxObservedEventBytes (Nat.le_refl _) (by decide)

end Long

end NineGateway.Observation
