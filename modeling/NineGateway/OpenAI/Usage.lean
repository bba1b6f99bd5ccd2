import NineGateway.Completion.Ownership
import NineGateway.Library.Json
import NineGateway.Security.Input

set_option autoImplicit false

namespace NineGateway

-- The counts come from decodeKnownCount or from another usage, so that none is
-- negative.
structure UsageInput where
  input : Option Nat
  output : Option Nat
  total : Option Nat
  cachedInput : Option Nat
  reasoningOutput : Option Nat
deriving DecidableEq, Repr

def UsageInput.observed (counts : UsageInput) : Bool :=
  counts.input.isSome || counts.output.isSome || counts.total.isSome || counts.cachedInput.isSome || counts.reasoningOutput.isSome

def newUsage (counts : UsageInput) : Option Usage :=
  match counts.total, counts.input, counts.output with
  | some total, input, output => some ⟨input, output, some total, counts.cachedInput, counts.reasoningOutput, .observed⟩
  | none, some input, some output =>
    if ((input + output : Nat) : Int) ≤ Word64.maxInt64 then
      some ⟨some input, some output, some (input + output), counts.cachedInput, counts.reasoningOutput, .derived⟩
    else none
  | none, input, output => some ⟨input, output, none, counts.cachedInput, counts.reasoningOutput, .absent⟩

namespace OpenAI

inductive ScanError where
  | malformed
  | duplicate
deriving DecidableEq, Repr

inductive UsageError where
  | malformedJSON
  | malformedStreamChunk
  | invalidUsage (what : String)
deriving DecidableEq, Repr

structure JSONUsageResult where
  usage : Usage
  observed : Bool
deriving DecidableEq, Repr

def unobserved : JSONUsageResult := ⟨unknownUsage, false⟩

def scanKnownObjectMembers (known : List String) : Json → Except ScanError Json.Members
  | .object members => if known.any (Json.duplicated members) then .error .duplicate else .ok members
  | _ => .error .malformed

def knownUsageFields : List String :=
  ["prompt_tokens", "completion_tokens", "input_tokens", "output_tokens", "total_tokens", "prompt_tokens_details", "completion_tokens_details",
    "input_tokens_details", "output_tokens_details"]

def knownDetailFields : List String := ["cached_tokens", "reasoning_tokens"]

def decodeKnownCount (raw : Option Json) (name : String) : Except String (Option Nat) :=
  match raw with
  | none => .ok none
  | some value =>
    match value.int64 with
    | some count => if count < 0 then .error name else .ok (some count.toNat)
    | none => .error name

def decodeDetails (detail : String) (raw : Option Json) (name : String) : Except String (Option Nat) :=
  match raw with
  | none | some .null => .ok none
  | some value =>
    match scanKnownObjectMembers knownDetailFields value with
    | .error _ => .error name
    | .ok members => decodeKnownCount (Json.lastMember members (Json.spells detail)) (name ++ "." ++ detail)

def decodeCachedDetails : Option Json → String → Except String (Option Nat) := decodeDetails "cached_tokens"
def decodeReasoningDetails : Option Json → String → Except String (Option Nat) := decodeDetails "reasoning_tokens"

def usageCounts (members : Json.Members) : Except String UsageInput := do
  let member (name : String) := Json.lastMember members (Json.spells name)
  let prompt ← decodeKnownCount (member "prompt_tokens") "prompt_tokens"
  let input ← decodeKnownCount (member "input_tokens") "input_tokens"
  let completion ← decodeKnownCount (member "completion_tokens") "completion_tokens"
  let output ← decodeKnownCount (member "output_tokens") "output_tokens"
  let total ← decodeKnownCount (member "total_tokens") "total_tokens"
  let promptCached ← decodeCachedDetails (member "prompt_tokens_details") "prompt_tokens_details"
  let inputCached ← decodeCachedDetails (member "input_tokens_details") "input_tokens_details"
  let completionReasoning ← decodeReasoningDetails (member "completion_tokens_details") "completion_tokens_details"
  let outputReasoning ← decodeReasoningDetails (member "output_tokens_details") "output_tokens_details"
  pure
    { input := prompt.or input, output := completion.or output, total := total
      cachedInput := if (member "prompt_tokens_details").isNone then inputCached else promptCached
      reasoningOutput := if (member "completion_tokens_details").isNone then outputReasoning else completionReasoning }

def named (members : Json.Members) (name : String) : Bool := (Json.lastMember members (Json.spells name)).isSome

-- A usage whose total is known: it is named, or the two counts that it is the sum of.
def totalNamed (members : Json.Members) : Bool :=
  named members "total_tokens" ||
    (named members "prompt_tokens" || named members "input_tokens") && (named members "completion_tokens" || named members "output_tokens")

def usageResult (counts : UsageInput) : Except String JSONUsageResult :=
  if counts.observed then
    match newUsage counts with
    | some usage => .ok ⟨usage, true⟩
    | none => .error "token count overflow"
  else .ok unobserved

def parseJSONUsageObject (raw : Option Json) : Except String JSONUsageResult :=
  match raw with
  | none | some .null => .ok unobserved
  | some value =>
    match scanKnownObjectMembers knownUsageFields value with
    | .error _ => .error "usage"
    | .ok members => (usageCounts members).bind usageResult

def openBrace : UInt8 := 123

-- Scanning stops at a duplicate before it can meet broken syntax, which is the one
-- case where the kind of the error is not told apart here.
def parseJSONUsage (parse : List UInt8 → Option Json) (data : List UInt8) : Except UsageError JSONUsageResult :=
  if (Security.trimSpace data).head? ≠ some openBrace then .error .malformedJSON
  else
    match (parse data).map (scanKnownObjectMembers ["usage"]) with
    | some (.ok root) => (parseJSONUsageObject (Json.lastMember root (Json.spells "usage"))).mapError .invalidUsage
    | some (.error .duplicate) => .error (.invalidUsage "root usage")
    | some (.error .malformed) | none => .error .malformedJSON

def totalWasObserved (usage : Usage) : Bool := usage.totalSource = .observed

def mergeCanonicalUsage (current update : Usage) : Option Usage :=
  newUsage
    { input := update.input.or current.input
      output := update.output.or current.output
      total :=
        if update.total.isSome && totalWasObserved update then update.total
        else if totalWasObserved current then current.total
        else none
      cachedInput := update.cachedInput.or current.cachedInput
      reasoningOutput := update.reasoningOutput.or current.reasoningOutput }

def Constructed (usage : Usage) : Prop := ∃ counts, newUsage counts = some usage

section Merge

variable {counts : UsageInput} {usage cur update merged : Usage}

theorem new_usage_fields (built : newUsage counts = some usage) :
    usage.input = counts.input ∧ usage.output = counts.output ∧ usage.cachedInput = counts.cachedInput ∧
      usage.reasoningOutput = counts.reasoningOutput ∧ (if totalWasObserved usage then usage.total else none) = counts.total := by
  unfold newUsage at built
  split at built
  · cases built
    simp_all [totalWasObserved]
  · split at built <;> cases built
    simp_all [totalWasObserved]
  · cases built
    simp_all [totalWasObserved]

theorem constructed_again (constructed : Constructed usage) :
    newUsage ⟨usage.input, usage.output, if totalWasObserved usage then usage.total else none, usage.cachedInput, usage.reasoningOutput⟩ =
      some usage := by
  obtain ⟨_, built⟩ := constructed
  obtain ⟨input, output, cached, reasoning, total⟩ := new_usage_fields built
  rw [input, output, cached, reasoning, total]
  exact built

theorem unknown_constructed : Constructed unknownUsage := ⟨⟨none, none, none, none, none⟩, rfl⟩

theorem observed_total (constructed : Constructed usage) (observed : totalWasObserved usage = true) : usage.total.isSome = true := by
  obtain ⟨counts, built⟩ := constructed
  unfold newUsage at built
  split at built <;> (try split at built) <;> cases built <;> simp_all [totalWasObserved]

theorem merged_constructed (merges : mergeCanonicalUsage cur update = some merged) : Constructed merged := ⟨_, merges⟩

theorem merge_absorbs (built : Constructed update) (input : cur.input.isSome → update.input.isSome)
    (output : cur.output.isSome → update.output.isSome) (cached : cur.cachedInput.isSome → update.cachedInput.isSome)
    (reasoning : cur.reasoningOutput.isSome → update.reasoningOutput.isSome)
    (total : totalWasObserved cur = true → totalWasObserved update = true) : mergeCanonicalUsage cur update = some update := by
  have keeps : ∀ {mine alt : Option Nat}, (alt.isSome → mine.isSome) → mine.or alt = mine := by
    intro mine alt known
    cases mine with
    | some => rfl
    | none =>
      cases alt with
      | none => rfl
      | some => cases known rfl
  have same := constructed_again built
  have known := observed_total built
  rw [mergeCanonicalUsage, keeps input, keeps output, keeps cached, keeps reasoning]
  cases seen : totalWasObserved update with
  | true =>
    rw [seen] at same
    simpa [known seen] using same
  | false =>
    rw [seen] at same
    have unseen : totalWasObserved cur = false := by
      cases mine : totalWasObserved cur with
      | false => rfl
      | true => rw [total mine] at seen; cases seen
    simpa [unseen] using same

theorem merge_unknown (built : Constructed usage) : mergeCanonicalUsage unknownUsage usage = some usage :=
  merge_absorbs built (by simp [unknownUsage]) (by simp [unknownUsage]) (by simp [unknownUsage]) (by simp [unknownUsage])
    (by simp [unknownUsage, totalWasObserved])

theorem merge_same (built : Constructed usage) : mergeCanonicalUsage usage usage = some usage :=
  merge_absorbs built id id id id id

theorem merge_again (built : Constructed cur) (merges : mergeCanonicalUsage cur update = some merged) :
    mergeCanonicalUsage cur merged = some merged := by
  obtain ⟨input, output, cached, reasoning, total⟩ := new_usage_fields merges
  refine merge_absorbs (merged_constructed merges) ?_ ?_ ?_ ?_ ?_
  · rw [input]; simp +contextual
  · rw [output]; simp +contextual
  · rw [cached]; simp +contextual
  · rw [reasoning]; simp +contextual
  intro observed
  have known := observed_total built observed
  cases seen : totalWasObserved merged with
  | true => rfl
  | false =>
    simp only [seen, observed, Bool.false_eq_true, if_false, if_true] at total
    split at total
    · rename_i both
      simp [← total] at both
    · simp [← total] at known

end Merge

section Parse

variable {raw : Option Json} {res : JSONUsageResult}

theorem scan_object {known : List String} {value : Json} {mems : Json.Members} (scanned : scanKnownObjectMembers known value = .ok mems) :
    value = .object mems := by
  unfold scanKnownObjectMembers at scanned
  split at scanned
  · split at scanned <;> cases scanned
    rfl
  · cases scanned

-- A usage is either not there or has at least one count.
theorem parse_object_cases (parsed : parseJSONUsageObject raw = .ok res) : res = unobserved ∨ ∃ mems counts,
      raw = some (.object mems) ∧ usageCounts mems = .ok counts ∧ res.observed = true ∧ counts.observed = true ∧
        newUsage counts = some res.usage := by
  unfold parseJSONUsageObject at parsed
  split at parsed
  · cases parsed; exact .inl rfl
  · cases parsed; exact .inl rfl
  split at parsed
  · cases parsed
  rename_i mems scanned
  cases decoded : usageCounts mems with
  | error => rw [decoded] at parsed; cases parsed
  | ok counts =>
    rw [decoded] at parsed
    simp only [Except.bind, usageResult] at parsed
    split at parsed
    · rename_i some
      split at parsed <;> cases parsed
      rename_i built
      exact .inr ⟨mems, counts, by rw [scan_object scanned], decoded, rfl, some, built⟩
    · cases parsed; exact .inl rfl

theorem parse_object_constructed (parsed : parseJSONUsageObject raw = .ok res) :
    Constructed res.usage ∧ (res.observed = false → res.usage = unknownUsage) := by
  rcases parse_object_cases parsed with rfl | ⟨_, counts, _, _, seen, _, built⟩
  · exact ⟨unknown_constructed, fun _ => rfl⟩
  · exact ⟨⟨counts, built⟩, by simp [seen]⟩

theorem known_count_named {name : String} {count : Option Nat} (decoded : decodeKnownCount raw name = .ok count) : count.isSome = raw.isSome := by
  unfold decodeKnownCount at decoded
  split at decoded
  · cases decoded; rfl
  split at decoded
  · split at decoded <;> cases decoded
    rfl
  · cases decoded

theorem counts_named {mems : Json.Members} {counts : UsageInput} (decoded : usageCounts mems = .ok counts) :
    counts.total.isSome = named mems "total_tokens" ∧ counts.input.isSome = (named mems "prompt_tokens" || named mems "input_tokens") ∧
      counts.output.isSome = (named mems "completion_tokens" || named mems "output_tokens") := by
  simp only [usageCounts, bind, Except.bind, pure, Except.pure] at decoded
  split at decoded
  · cases decoded
  rename_i prompt promptRead
  split at decoded
  · cases decoded
  rename_i input inputRead
  split at decoded
  · cases decoded
  rename_i completion completionRead
  split at decoded
  · cases decoded
  rename_i output outputRead
  split at decoded
  · cases decoded
  rename_i total totalRead
  repeat (split at decoded; · cases decoded)
  cases decoded
  simp [named, known_count_named promptRead, known_count_named inputRead, known_count_named completionRead, known_count_named outputRead,
    known_count_named totalRead]

theorem total_named {usage : Usage} {mems : Json.Members} {counts : UsageInput} (decoded : usageCounts mems = .ok counts)
    (built : newUsage counts = some usage) : usage.total.isSome = totalNamed mems := by
  obtain ⟨total, input, output⟩ := counts_named decoded
  rw [totalNamed, ← total, ← input, ← output]
  unfold newUsage at built
  split at built
  · cases built
    simp_all
  · split at built <;> cases built
    simp_all
  · cases built
    cases known : counts.input <;> cases also : counts.output <;> simp_all

end Parse

end OpenAI

end NineGateway
