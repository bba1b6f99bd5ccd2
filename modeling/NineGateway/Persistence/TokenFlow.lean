import NineGateway.Persistence.Startup
import NineGateway.Storage.Confined
import NineGateway.Token.Presence
import NineGateway.Token.Fence

set_option autoImplicit false

namespace NineGateway.Persistence

open Storage (UsageTable UsageRowKey UsageIdentity UsageAccumulation UsageBucketError AccumulatorCall AccumulatorReply usageIdentity
  usageSink usageStep)
open Token (TokenWindow TokenSystem TokenBucketKey CommittedTokenDelta deltaKey)

-- The token limiter with the accumulator as its sink and the stored policies.
-- finalize calls the sink for one delta after the other under the limiter's lock,
-- Adjust without it. Nothing below depends on that lock, so every call that has
-- deltas left to hand over is an entry of hands, and each delta a step of its own.
-- written says that the commit callback of the replacement under way has stored
-- the new policy.
structure TokenFlow where
  tokens : TokenSystem
  records : List KeyRecord
  written : Bool
  hands : List (List CommittedTokenDelta)
  accumulator : UsageAccumulation

inductive TokenFlowCall where
  | token (call : Token.Call)
  | write
  | sink (caller : Nat)
  | store (call : AccumulatorCall UsageIdentity)
deriving DecidableEq

inductive TokenFlowReply where
  | token (answer : Token.Answer)
  | written
  | stored (reply : AccumulatorReply UsageBucketError)
deriving DecidableEq

def keyIDs (records : List KeyRecord) : List String := records.map KeyRecord.id

def replacePolicy (keyID : String) (policy : TokenPolicy) (records : List KeyRecord) : List KeyRecord :=
  records.map (fun record => if record.id = keyID then { record with policy := policy } else record)

-- Serving loads and registers nothing any more. updatePolicy replaces the policy
-- that is stored, by one that has been parsed, and its callback has succeeded
-- exactly when that one is stored.
def TokenFlow.permits (flow : TokenFlow) : Token.Call → Bool
  | .loadCommitted _ _ => false
  | .registerPolicy _ _ => false
  | .replaceBegin _ keyID oldWindows newWindows _ =>
    decide (keyID ∈ keyIDs flow.records) && decide (oldWindows = allowedWindows flow.records keyID) && validWindows newWindows
  | .replaceEnd committed => decide (committed = flow.written)
  | _ => true

def TokenFlow.writes (flow : TokenFlow) : Token.Call → Bool
  | .replaceBegin _ _ _ _ _ => false
  | .replaceEnd _ => false
  | _ => flow.written

def TokenFlow.hold (flow : TokenFlow) (deltas : List CommittedTokenDelta) : List (List CommittedTokenDelta) :=
  if deltas = [] then flow.hands else flow.hands ++ [deltas]

def tokenFlowStep (flow : TokenFlow) : TokenFlowCall → Option (TokenFlow × TokenFlowReply)
  | .token call =>
    if flow.permits call then
      (Token.step flow.tokens call).map (fun moved =>
        ({ flow with tokens := moved.1, written := flow.writes call, hands := flow.hold moved.2.deltas }, .token moved.2.answer))
    else none
  | .write =>
    match flow.tokens.replacing with
    | none => none
    | some pending =>
      if flow.written then none
      else if valid : validWindows pending.newWindows = true then
        some ({ flow with records := replacePolicy pending.keyID ⟨pending.newWindows, valid⟩ flow.records, written := true }, .written)
      else none
  | .sink caller =>
    match flow.hands[caller]? with
    | some (delta :: rest) =>
      (usageStep flow.accumulator (usageSink delta)).map (fun moved =>
        ({ flow with hands := flow.hands.set caller rest, accumulator := moved.1 }, .stored moved.2))
    | _ => none
  | .store (.sink _ _) => none
  | .store call => (usageStep flow.accumulator call).map (fun moved => ({ flow with accumulator := moved.1 }, .stored moved.2))

def startFlow (keys : KeyTable) (rows : FiniteMap UsageRowKey Int) (now reading : Int) : Except StartupError TokenFlow :=
  (startTokens keys.records ⟨rows, keyIDs keys.records⟩ now reading).map (fun tokens =>
    { tokens := tokens, records := keys.records, written := false, hands := []
      accumulator := Storage.newAccumulation (Storage.deleteExpired now ⟨rows, keyIDs keys.records⟩) })

def TokenFlow.every (flow : TokenFlow) (check : UsageRowKey → Bool) : Bool :=
  flow.accumulator.table.rows.every (fun row _ => check row) && flow.accumulator.pending.every (fun identity _ => check identity.row) &&
    flow.accumulator.flights.all (fun flight => flight.entries.all (fun entry => check entry.1.row)) &&
    flow.hands.all (fun hand => hand.all (fun delta => check (usageIdentity delta).row)) &&
    flow.tokens.owing.all (fun delta => check (usageIdentity delta).row)

-- When a policy is stored, whatever the key has in the rows or on its way to them
-- belongs to a window of that policy, or to one that is over.
def Carried (flow : TokenFlow) : TokenFlowCall → Prop
  | .write =>
    match flow.tokens.replacing with
    | none => True
    | some pending => flow.every (fun row => decide (row.apiKeyID ≠ pending.keyID) ||
        (matchWindow pending.newWindows row.bucketSeconds row.bucketAmount).isSome || row.lapsed flow.tokens.limiter.lastNow) = true
  | _ => True

instance (flow : TokenFlow) (call : TokenFlowCall) : Decidable (Carried flow call) :=
  match call with
  | .write =>
    match opened : flow.tokens.replacing with
    | none => isTrue (by simp [Carried, opened])
    | some pending => decidable_of_iff (flow.every (fun row => decide (row.apiKeyID ≠ pending.keyID) ||
        (matchWindow pending.newWindows row.bucketSeconds row.bucketAmount).isSome || row.lapsed flow.tokens.limiter.lastNow) = true)
        (by simp [Carried, opened])
  | .token _ => isTrue trivial
  | .sink _ => isTrue trivial
  | .store _ => isTrue trivial

end NineGateway.Persistence
