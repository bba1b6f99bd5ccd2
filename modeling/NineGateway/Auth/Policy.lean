import NineGateway.Auth.Snapshot
import NineGateway.Library.Json
import NineGateway.ModelMatch

set_option autoImplicit false

namespace NineGateway.Auth

open Token (TokenWindow)
open Json (ascii field field_congr folds knowing lastMember spells)

structure WindowDocument where
  amount : Int
  duration : String
deriving DecidableEq, Repr

structure PolicyDocument where
  allowedModels : List String
  deniedModels : List String
  requestWindows : List WindowDocument
  tokenWindows : List WindowDocument
  budgetLimits : Option Json
  tokenMode : Option String
  maxConcurrency : Option Int
  logRequestBody : Option Bool
  logResponseBody : Option Bool

-- A budget that is not set is none; one that is set has a positive amount.
structure EffectivePolicy where
  allowedModels : List ModelMatch.Pattern
  deniedModels : List ModelMatch.Pattern
  requestWindows : List TokenWindow
  tokenWindows : List TokenWindow
  tokenMode : TokenMode
  tokenModeSet : Bool
  maxConcurrency : Int
  totalBudget : Option Int
  dayBudget : Option Int
  monthBudget : Option Int
  logRequestBody : Bool
  logResponseBody : Bool
deriving DecidableEq, Repr

def emptyPolicy (mode : TokenMode) : EffectivePolicy := ⟨[], [], [], [], mode, false, 0, none, none, none, false, false⟩

def policyFields : List String :=
  ["allowed_models", "denied_models", "request_windows", "token_windows", "budget_limits", "token_mode", "max_concurrent_requests",
    "log_request_body",
    "log_response_body"]

def windowFields : List String := ["amount", "duration"]

def known (named : String → String → Bool) (names : List String) (members : Json.Members) : Bool :=
  members.all fun member => names.any fun name => named name member.1

def decodeWindow : Json.Into WindowDocument := fun current raw => do
  let members ← raw.fields
  guard (known Json.folds windowFields members)
  let amount ← Json.field current.amount (Json.scalar Json.int64) members (Json.folds "amount")
  let duration ← Json.field current.duration (Json.scalar Json.text) members (Json.folds "duration")
  return ⟨amount, duration⟩

section Decode

-- How a member name is compared with the name of a field of the document.
variable (named : String → String → Bool) (members : Json.Members)

def decodeModels (name : String) : Option (List String) :=
  (Json.field .empty (Json.slice "" (Json.scalar Json.text)) members (named name)).map Json.Slice.elements

def decodeWindows (name : String) : Option (List WindowDocument) :=
  (Json.field .empty (Json.slice ⟨0, ""⟩ decodeWindow) members (named name)).map Json.Slice.elements

def decodeDocument : Option PolicyDocument := do
  guard (known named policyFields members)
  let allowedModels ← decodeModels named members "allowed_models"
  let deniedModels ← decodeModels named members "denied_models"
  let requestWindows ← decodeWindows named members "request_windows"
  let tokenWindows ← decodeWindows named members "token_windows"
  let budgetLimits ← Json.field none Json.rawMessage members (named "budget_limits")
  let tokenMode ← Json.field none (Json.pointer Json.text) members (named "token_mode")
  let maxConcurrency ← Json.field none (Json.pointer Json.int64) members (named "max_concurrent_requests")
  let logRequestBody ← Json.field none (Json.pointer Json.flag) members (named "log_request_body")
  let logResponseBody ← Json.field none (Json.pointer Json.flag) members (named "log_response_body")
  return ⟨allowedModels, deniedModels, requestWindows, tokenWindows, budgetLimits, tokenMode, maxConcurrency, logRequestBody, logResponseBody⟩

end Decode

mutual
def uniqueNames : Json → Bool
  | .object members => decide (members.map Prod.fst).Nodup && uniqueMembers members
  | .array items => uniqueItems items
  | .null | .bool _ | .number _ | .string _ => true
def uniqueItems : List Json → Bool
  | [] => true
  | item :: rest => uniqueNames item && uniqueItems rest
def uniqueMembers : List (String × Json) → Bool
  | [] => true
  | (_, value) :: rest => uniqueNames value && uniqueMembers rest
end

def compileModels (patterns : List String) : Option (List ModelMatch.Pattern) := do
  guard (patterns.all (fun pattern => !Security.blank pattern) && decide patterns.Nodup)
  patterns.mapM ModelMatch.compile

def parseMode : String → Option TokenMode
  | "usage_only" => some .usageOnly
  | "estimate" => some .estimate
  | _ => none

def parseBudget (entry : Json) : Option (String × Int) := do
  let members ← match entry with
    | .object members => some members
    | _ => none
  guard (members.all fun member => member.1 = "amount_micros" || member.1 = "period")
  let amount ← Json.lastMember members (Json.spells "amount_micros")
  let period ← (Json.lastMember members (Json.spells "period")).bind Json.text
  guard (period = "total" || period = "day" || period = "month")
  let micros ← amount.int64
  guard (0 < micros)
  return (period, micros)

-- The duplicates within an entry were refused with those of the whole document.
def parseBudgetLimits : Json → Option (List (String × Int))
  | .array entries => do
    let budgets ← entries.mapM parseBudget
    guard (decide (budgets.map Prod.fst).Nodup)
    return budgets
  | _ => none

section Compile

-- time.ParseDuration, in nanoseconds.
variable (parseDuration : String → Option Int)

def compileWindow (window : WindowDocument) : Option TokenWindow := do
  guard (0 < window.amount && window.duration ≠ "")
  let duration ← parseDuration window.duration
  guard (0 < duration && duration % 1000000000 = 0)
  return ⟨window.amount, duration⟩

def compileWindows (windows : List WindowDocument) : Option (List TokenWindow) := do
  let compiled ← windows.mapM (compileWindow parseDuration)
  guard (decide compiled.Nodup)
  return compiled

def compilePolicy (mode : TokenMode) (document : PolicyDocument) : Option EffectivePolicy := do
  let allowedModels ← compileModels document.allowedModels
  let deniedModels ← compileModels document.deniedModels
  let requestWindows ← compileWindows parseDuration document.requestWindows
  let tokenWindows ← compileWindows parseDuration document.tokenWindows
  let budgets ← (document.budgetLimits.map parseBudgetLimits).getD (some [])
  let chosen ← (document.tokenMode.map parseMode).getD (some mode)
  guard (0 ≤ document.maxConcurrency.getD 0)
  return {
    allowedModels := allowedModels, deniedModels := deniedModels, requestWindows := requestWindows, tokenWindows := tokenWindows
    tokenMode := chosen, tokenModeSet := document.tokenMode.isSome, maxConcurrency := document.maxConcurrency.getD 0
    totalBudget := budgets.lookup "total", dayBudget := budgets.lookup "day", monthBudget := budgets.lookup "month"
    logRequestBody := document.logRequestBody.getD false, logResponseBody := document.logResponseBody.getD false }

-- Every error is ErrInvalidPolicy.
def parsePolicy (parse : List UInt8 → Option Json) (data : List UInt8) (mode : TokenMode) : Option EffectivePolicy :=
  if Security.trimSpace data = [] then some (emptyPolicy mode)
  else
    match parse (Security.trimSpace data) with
    | some (.object members) => do
      guard (uniqueNames (.object members))
      guard (policyFields.all fun name => !(Json.lastMember members (Json.spells name)).any Json.isNull)
      let document ← decodeDocument Json.folds members
      compilePolicy parseDuration mode document
    | _ => none

end Compile

def ExactNames (members : Json.Members) : Prop := ∀ member ∈ members, member.1 ∈ policyFields

-- The documented names only, each once and none null, and the policy is the one
-- that a reader of exact names finds.
structure StrictGrammar (parseDuration : String → Option Int) (mode : TokenMode) (members : Json.Members) (policy : EffectivePolicy) : Prop where
  fields : ∀ member ∈ members, member.1 ∈ policyFields
  once : (members.map Prod.fst).Nodup
  present : ∀ member ∈ members, member.2.isNull = false
  compiled : (decodeDocument Json.spells members).bind (compilePolicy parseDuration mode) = some policy

section Exact

variable {mems : Json.Members}

theorem known_congr {names : List String} (exactly : ∀ mem ∈ mems, mem.1 ∈ names) :
    known folds names mems = true ∧ known spells names mems = true := by
  constructor <;> refine List.all_eq_true.mpr fun mem hit => List.any_eq_true.mpr ⟨mem.1, exactly mem hit, ?_⟩
  · exact Json.folds_self _
  · simp [spells]

theorem fields_apart : ∀ first ∈ policyFields, ∀ second ∈ policyFields, folds first second = spells first second := by decide +kernel

theorem exact_decodes (exactly : ExactNames mems) : decodeDocument folds mems = decodeDocument spells mems := by
  obtain ⟨folded, spelled⟩ := known_congr exactly
  have same : ∀ {α : Type} (zero : α) (into : Json.Into α), ∀ name ∈ policyFields,
      field zero into mems (folds name) = field zero into mems (spells name) :=
    fun zero into name shown => field_congr zero into fun mem hit => fields_apart name shown mem.1 (exactly mem hit)
  simp only [decodeDocument, decodeModels, decodeWindows, folded, spelled, same _ _ "allowed_models" (by decide),
    same _ _ "denied_models" (by decide), same _ _ "request_windows" (by decide), same _ _ "token_windows" (by decide),
    same _ _ "budget_limits" (by decide), same _ _ "token_mode" (by decide), same _ _ "max_concurrent_requests" (by decide),
    same _ _ "log_request_body" (by decide), same _ _ "log_response_body" (by decide)]

end Exact

theorem policy_grammar_strict_iff {parseDuration : String → Option Int} {parse : List UInt8 → Option Json} {data : List UInt8} {mode : TokenMode}
    {policy : EffectivePolicy} (text : Security.trimSpace data ≠ []) (accepted : parsePolicy parseDuration parse data mode = some policy) :
    ∃ members, parse (Security.trimSpace data) = some (.object members) ∧
      (StrictGrammar parseDuration mode members policy ↔ ExactNames members) := by
  unfold parsePolicy at accepted
  rw [if_neg text] at accepted
  split at accepted
  · rename_i members reads
    simp only [bind, Option.bind_eq_some_iff] at accepted
    obtain ⟨_, unique, _, filled, _, read, compiled⟩ := accepted
    refine ⟨members, reads, fun strict => strict.fields, fun exactly => ?_⟩
    have names : uniqueNames (.object members) = true := by simpa [guard] using unique
    have once : (members.map Prod.fst).Nodup := of_decide_eq_true (Bool.and_eq_true_iff.mp (by simpa only [uniqueNames] using names)).1
    refine ⟨exactly, once, fun mem hit => ?_, ?_⟩
    · have checked : policyFields.all (fun name => !(lastMember members (spells name)).any Json.isNull) = true := by
        simpa [guard] using filled
      have v := List.all_eq_true.mp checked mem.1 (exactly mem hit)
      simpa [Json.last_member_unique once hit] using v
    · rw [← exact_decodes exactly, read]
      exact compiled
  · cases accepted

def minute (text : String) : Option Int := if text = "60s" then some 60000000000 else none

def exactText : List UInt8 := ascii "\x7b\"denied_models\":[\"x\"],\"token_windows\":[\x7b\"amount\":5,\"duration\":\"60s\"\x7d]\x7d"

def exactMembers : Json.Members :=
  [("denied_models", .array [.string "x"]), ("token_windows", .array [.object [("amount", .number (some 5)), ("duration", .string "60s")]])]

theorem policy_grammar_strict_exact : ∃ members, knowing exactText exactMembers (Security.trimSpace exactText) = some (.object members) ∧
      (StrictGrammar minute .estimate members { emptyPolicy .estimate with
        deniedModels := [⟨"x", [.literal 'x']⟩], tokenWindows := [⟨5, 60000000000⟩] } ↔
        ExactNames members) :=
  policy_grammar_strict_iff (by decide +kernel) (by decide +kernel)

def shadowedText : List UInt8 := ascii "\x7b\"allowed_models\":[\"x\"],\"ALLOWED_MODELS\":[]\x7d"

-- A document with an allow-list compiles to the policy without one.
theorem allow_list_shadowed :
    parsePolicy minute (knowing shadowedText [("allowed_models", .array [.string "x"]), ("ALLOWED_MODELS", .array [])]) shadowedText .estimate =
      some (emptyPolicy .estimate) := by
  decide +kernel

def respelledText : List UInt8 :=
  ascii "\x7b\"token_windows\":[\x7b\"amount\":5,\"duration\":\"60s\"\x7d],\"Token_Windows\":[\x7b\"AMOUNT\":null\x7d]\x7d"

-- The second spelling is decoded into the window of the first, which stays.
example :
    parsePolicy minute (knowing respelledText [("token_windows", .array [.object [("amount", .number (some 5)), ("duration", .string "60s")]]),
      ("Token_Windows", .array [.object [("AMOUNT", .null)]])]) respelledText .estimate =
      some { emptyPolicy .estimate with tokenWindows := [⟨5, 60000000000⟩] } := by
  decide +kernel

end NineGateway.Auth
