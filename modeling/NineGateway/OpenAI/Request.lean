import NineGateway.Library.Json

set_option autoImplicit false

namespace NineGateway.OpenAI

inductive RequestError where
  | malformedJSON
  | invalidMetadataField (name : String)
deriving DecidableEq, Repr

structure RequestMetadata where
  model : String
  stream : Option Bool
  maxTokens : Option Int
  maxCompletionTokens : Option Int
  maxOutputTokens : Option Int
deriving DecidableEq, Repr

def decodeMetadataField {α : Type} (decode : Json → Option α) (raw : Option Json) (name : String) : Except RequestError (Option α) :=
  match raw with
  | none => .ok none
  | some value =>
    match decode value with
    | some decoded => .ok (some decoded)
    | none => .error (.invalidMetadataField name)

def metadataField {α : Type} (named : String → String → Bool) (decode : Json → Option α) (name : String) (members : Json.Members) :
    Except RequestError (Option α) :=
  decodeMetadataField decode (Json.lastMember members (named name)) name

def modelField (named : String → String → Bool) (members : Json.Members) : Except RequestError String :=
  (metadataField named Json.text "model" members).map (·.getD "")

def limitField (named : String → String → Bool) (name : String) : Json.Members → Except RequestError (Option Int) :=
  metadataField named Json.int64 name

def readMetadata (named : String → String → Bool) (members : Json.Members) : Except RequestError RequestMetadata := do
  let model ← modelField named members
  let stream ← metadataField named Json.flag "stream" members
  let maxTokens ← limitField named "max_tokens" members
  let maxCompletionTokens ← limitField named "max_completion_tokens" members
  let maxOutputTokens ← limitField named "max_output_tokens" members
  pure ⟨model, stream, maxTokens, maxCompletionTokens, maxOutputTokens⟩

def parseRequestMetadata : Option Json → Except RequestError RequestMetadata
  | some (.object members) => readMetadata Json.folds members
  | _ => .error .malformedJSON

-- What policy checks and reservations use of the metadata is what a reader of exact
-- names finds.
structure ExactlyRead (members : Json.Members) (metadata : RequestMetadata) : Prop where
  model : modelField Json.spells members = .ok metadata.model
  maxTokens : limitField Json.spells "max_tokens" members = .ok metadata.maxTokens
  maxCompletionTokens : limitField Json.spells "max_completion_tokens" members = .ok metadata.maxCompletionTokens
  maxOutputTokens : limitField Json.spells "max_output_tokens" members = .ok metadata.maxOutputTokens

section Read

variable {named : String → String → Bool} {members : Json.Members} {metadata : RequestMetadata}

theorem read_metadata_fields (read : readMetadata named members = .ok metadata) :
    modelField named members = .ok metadata.model ∧ limitField named "max_tokens" members = .ok metadata.maxTokens ∧
      limitField named "max_completion_tokens" members = .ok metadata.maxCompletionTokens ∧
      limitField named "max_output_tokens" members = .ok metadata.maxOutputTokens := by
  simp only [readMetadata, bind, Except.bind, pure, Except.pure] at read
  repeat (split at read; · cases read)
  cases read
  exact ⟨by assumption, by assumption, by assumption, by assumption⟩

theorem text_iff {raw : Json} {read : String} : raw.text = some read ↔ raw = .string read := by
  cases raw <;> simp [Json.text]

theorem int64_inj {first second : Json} {read : Int} (one : first.int64 = some read) (two : second.int64 = some read) : first = second := by
  unfold Json.int64 at one two
  grind

-- A field that is accepted tells which value was decoded.
theorem decoded_alike_iff {α : Type} {decode : Json → Option α} {found exactly : Option Json} {name : String} {read : Option α}
    (inj : ∀ {first second : Json} {value : α}, decode first = some value → decode second = some value → first = second)
    (decoded : decodeMetadataField decode found name = .ok read) : decodeMetadataField decode exactly name = .ok read ↔ found = exactly := by
  constructor
  · intro again
    unfold decodeMetadataField at decoded again
    grind
  · rintro rfl
    exact decoded

theorem limit_exact_iff {name : String} {limit : Option Int} (read : limitField Json.folds name members = .ok limit) :
    limitField Json.spells name members = .ok limit ↔ Json.SpelledLast members name := by
  rw [← Json.same_last_iff]
  exact decoded_alike_iff int64_inj read

-- An empty model in another spelling reads like no model at all.
def ModelExact (members : Json.Members) : Prop :=
  Json.SpelledLast members "model" ∨
    Json.lastMember members (Json.folds "model") = some (.string "") ∧ Json.lastMember members (Json.spells "model") = none

theorem model_exact_iff {model : String} (read : modelField Json.folds members = .ok model) :
    modelField Json.spells members = .ok model ↔ ModelExact members := by
  rw [ModelExact, ← Json.same_last_iff]
  have none : Json.lastMember members (Json.folds "model") = none → Json.lastMember members (Json.spells "model") = none := by
    intro empty
    rw [Json.last_member_named, Option.map_eq_none_iff] at empty
    exact Json.none_spelled empty
  simp only [modelField, metadataField] at read ⊢
  generalize Json.lastMember members (Json.folds "model") = found at read none ⊢
  generalize Json.lastMember members (Json.spells "model") = exactly at none ⊢
  cases found with
  | none => simp [none rfl, read]
  | some value =>
    cases decoded : value.text with
    | none => simp [decodeMetadataField, decoded, Except.map] at read
    | some spoken =>
      have same : spoken = model := by simpa [decodeMetadataField, decoded, Except.map] using read
      have text := text_iff.mp decoded
      subst same text
      cases exactly with
      | none => simp [decodeMetadataField, Except.map, eq_comm]
      | some exact =>
        cases again : exact.text with
        | none =>
          have apart : Json.string spoken ≠ exact := by rintro rfl; cases again
          simp [decodeMetadataField, again, Except.map, apart]
        | some other =>
          obtain rfl := text_iff.mp again
          simp [decodeMetadataField, Json.text, Except.map, eq_comm]

theorem request_metadata_exact_iff (accepted : parseRequestMetadata (some (.object members)) = .ok metadata) : ExactlyRead members metadata ↔
      ModelExact members ∧ ∀ name ∈ ["max_tokens", "max_completion_tokens", "max_output_tokens"], Json.SpelledLast members name := by
  obtain ⟨model, tokens, comp, output⟩ := read_metadata_fields accepted
  simp only [List.forall_mem_cons, List.not_mem_nil, false_implies, implies_true, and_true, ← model_exact_iff model, ← limit_exact_iff tokens,
    ← limit_exact_iff comp, ← limit_exact_iff output]
  constructor
  · rintro ⟨exactModel, exactTokens, exactCompletion, exactOutput⟩
    exact ⟨exactModel, exactTokens, exactCompletion, exactOutput⟩
  · rintro ⟨exactModel, exactTokens, exactCompletion, exactOutput⟩
    exact ⟨exactModel, exactTokens, exactCompletion, exactOutput⟩

end Read

theorem request_metadata_exact_repeated :
    ExactlyRead [("MODEL", .string "gpt-4o"), ("model", .string "gpt-4o-mini"), ("max_tokens", .number (some 5))]
      ⟨"gpt-4o-mini", none, some 5, none, none⟩ :=
  (request_metadata_exact_iff (by decide)).mpr
    ⟨.inl (by rintro _ ⟨⟩; exact .inl rfl), by simp [Json.SpelledLast, Json.lastNamed, Json.folds, Json.foldRune]⟩

-- The gateway checks one model, and an upstream that reads names exactly serves another.
theorem other_spelling_read : parseRequestMetadata (some (.object [("model", .string "gpt-4o"), ("MODEL", .string "gpt-4o-mini")])) =
        .ok ⟨"gpt-4o-mini", none, none, none, none⟩ ∧
      modelField Json.spells [("model", .string "gpt-4o"), ("MODEL", .string "gpt-4o-mini")] = .ok "gpt-4o" := by
  decide

end NineGateway.OpenAI
