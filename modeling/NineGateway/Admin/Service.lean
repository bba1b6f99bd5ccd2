import NineGateway.Auth.Snapshot
import NineGateway.Storage.APIKeys
import NineGateway.Lifecycle.Children
import NineGateway.Trace.Record

set_option autoImplicit false

namespace NineGateway.Admin

open Auth (PolicyCompiler TokenMode Snapshot)
open Budget (BudgetPolicy BudgetSystem)
open Storage (APIKeyRecord APIKeyTable APIKeyError)
open Token (TokenSystem TokenWindow)

structure Service (Policy : Type) where
  compiler : PolicyCompiler Policy
  tokenMode : TokenMode

inductive AdminError where
  | keyCreation
  | invalidRequest
  | policyConflict
  | notFound
deriving DecidableEq, Repr

def authRecord (record : APIKeyRecord) : Auth.Record :=
  { id := record.id, name := record.name, displayPrefix := record.displayPrefix, digest := record.digest, enabled := record.enabled
    expiresAt := record.expiresAt, policyJSON := record.policyJSON }

def authRecords (records : List APIKeyRecord) : List Auth.Record := records.map authRecord

section Documents

variable {Policy : Type} (service : Service Policy)

def Service.prepare (records : List APIKeyRecord) : Option (Snapshot Policy) :=
  Auth.buildSnapshot service.compiler service.tokenMode (authRecords records)

def budgetPolicy (compiler : PolicyCompiler Policy) (policy : Policy) : BudgetPolicy :=
  { total := (compiler.totalBudget policy).1, limited := (compiler.totalBudget policy).2
    day := (compiler.dailyBudget policy).1, dayLimited := (compiler.dailyBudget policy).2
    month := (compiler.monthlyBudget policy).1, monthLimited := (compiler.monthlyBudget policy).2 }

end Documents

-- What Generate, DisplayPrefix, newAPIKeyID and the clock give one attempt.
structure Credential where
  displayPrefix : String
  digest : List UInt8
  id : String
  now : Int
deriving DecidableEq, Repr

structure Creation where
  name : String
  expiresAt : Option Int
  attempt : Nat
deriving DecidableEq, Repr

def emptyPolicy : ByteArray := "{}".toUTF8

def Creation.record (creation : Creation) (credential : Credential) : APIKeyRecord :=
  { id := credential.id, name := creation.name, displayPrefix := credential.displayPrefix, digest := credential.digest, enabled := true
    expiresAt := creation.expiresAt, createdAt := credential.now, updatedAt := credential.now, policyJSON := emptyPolicy }

-- The locals of updatePolicy once it has found the record.
structure Update where
  id : String
  enabled : Bool
  policyJSON : ByteArray
  oldWindows : List TokenWindow
  newWindows : List TokenWindow
  oldBudget : BudgetPolicy
  newBudget : BudgetPolicy
  unchanged : Bool
  replacement : APIKeyRecord
  records : List APIKeyRecord

inductive Outcome where
  | created (record : APIKeyRecord)
  | updated (record : APIKeyRecord)
  | failed (failure : AdminError)
deriving DecidableEq

-- How far updatePolicy has come. From replacingBudget to leavingTokens it holds
-- the token limiter's policy lock, and while writing the budget limiter's too.
inductive Stage (Policy : Type) where
  | checkingTokens
  | checkingBudget
  | preparing
  | replacingTokens (prepared : Snapshot Policy)
  | replacingBudget (prepared : Snapshot Policy)
  | writing (prepared : Snapshot Policy)
  | leavingBudget (prepared : Snapshot Policy) (committed : Except AdminError APIKeyRecord)
  | leavingTokens (prepared : Snapshot Policy) (committed : Except AdminError APIKeyRecord)

-- The operation that holds refreshMu.
inductive Work (Policy : Type) where
  | creating (creation : Creation)
  | inserting (creation : Creation) (record : APIKeyRecord) (prepared : Snapshot Policy)
  | updating (update : Update) (stage : Stage Policy)
  | publishing (outcome : Outcome) (prepared : Snapshot Policy)

structure AdminSystem (Policy : Type) where
  leases : Lifecycle.System
  table : APIKeyTable
  snapshot : Snapshot Policy
  work : Option (Work Policy)

-- What the next step of the operation meets: the limiter's clock, the wall clock,
-- the generator, and whether the database carries the statement out.
structure Surroundings where
  reading : Int
  now : Int
  credential : Option Credential
  database : Bool
deriving DecidableEq, Repr

inductive Call where
  | leases (call : Lifecycle.Call)
  | create (name : String) (expiresAt : Option Int)
  | updatePolicy (id : String) (enabled : Bool) (policyJSON : ByteArray) (database : Bool)
  | proceed (surroundings : Surroundings)
deriving DecidableEq

inductive Reply where
  | leases (reply : Lifecycle.Reply)
  | refused (failure : AdminError)
  | begun
  | moved
  | finished (outcome : Outcome)
deriving DecidableEq

namespace AdminSystem

variable {Policy : Type} (system : AdminSystem Policy)

def list (database : Bool) : Option (List APIKeyRecord) := if database then system.table.list else none

def become (work : Work Policy) : AdminSystem Policy × Reply := ({ system with work := some work }, .moved)

def finish (outcome : Outcome) : AdminSystem Policy × Reply := ({ system with work := none }, .finished outcome)

def tokens : Option TokenSystem := system.leases.resources.tokens

def budgets : Option BudgetSystem := system.leases.resources.budgets

def withTokens (tokens : TokenSystem) : AdminSystem Policy :=
  { system with leases := { system.leases with resources := { system.leases.resources with tokens := some tokens } } }

def withBudgets (budgets : BudgetSystem) : AdminSystem Policy :=
  { system with leases := { system.leases with resources := { system.leases.resources with budgets := some budgets } } }

end AdminSystem

def commitError : APIKeyError → AdminError
  | .notFound => .notFound
  | _ => .keyCreation

section Steps

variable {Policy : Type} (service : Service Policy) (system : AdminSystem Policy)

def beginCreation (name : String) (expiresAt : Option Int) : Except AdminError Creation :=
  if Security.blank name || !Trace.validBoundedText name.toUTF8 256 then .error .invalidRequest
  else if expiresAt.any (fun expires => !Storage.validTimestamp (unix expires)) then .error .invalidRequest
  else .ok ⟨name, expiresAt.map unix, 0⟩

def attempt (creation : Creation) (surroundings : Surroundings) : AdminSystem Policy × Reply :=
  match surroundings.credential with
  | none => system.finish (.failed .keyCreation)
  | some credential =>
    match system.list surroundings.database with
    | none => system.finish (.failed .keyCreation)
    | some records =>
      match service.prepare (records ++ [creation.record credential]) with
      | none => system.finish (.failed .keyCreation)
      | some prepared => system.become (.inserting creation (creation.record credential) prepared)

def createStep (creation : Creation) (surroundings : Surroundings) : AdminSystem Policy × Reply :=
  if creation.attempt < 3 then attempt service system creation surroundings else system.finish (.failed .keyCreation)

def insertStep (creation : Creation) (record : APIKeyRecord) (prepared : Snapshot Policy) (database : Bool) : AdminSystem Policy × Reply :=
  if database then
    match system.table.insert record with
    | .ok table => AdminSystem.become { system with table := table } (.publishing (.created record) prepared)
    | .error .conflict => system.become (.creating { creation with attempt := creation.attempt + 1 })
    | .error _ => system.finish (.failed .keyCreation)
  else system.finish (.failed .keyCreation)

def replaceRecord (record : APIKeyRecord) (enabled : Bool) (policyJSON : ByteArray) : APIKeyRecord :=
  { record with enabled := enabled, policyJSON := policyJSON }

def updateOf (id : String) (records : List APIKeyRecord) (index : Nat) (record : APIKeyRecord) (enabled : Bool) (policyJSON : ByteArray)
    (oldPolicy newPolicy : Policy) : Update :=
  { id := id, enabled := enabled, policyJSON := policyJSON
    oldWindows := service.compiler.tokenWindows oldPolicy, newWindows := service.compiler.tokenWindows newPolicy
    oldBudget := budgetPolicy service.compiler oldPolicy, newBudget := budgetPolicy service.compiler newPolicy
    unchanged := decide (record.enabled = enabled) && decide (record.policyJSON = policyJSON)
    replacement := replaceRecord record enabled policyJSON
    records := records.set index (replaceRecord record enabled policyJSON) }

-- The two checks made before the lock. They read no state.
def updateRefusal (id : String) (policyJSON : ByteArray) : Option AdminError :=
  if Security.blank id then some .notFound
  else if (service.compiler.parsePolicyJSON policyJSON).isNone then some .invalidRequest
  else none

def beginUpdate (id : String) (enabled : Bool) (policyJSON : ByteArray) (database : Bool) : Except AdminError Update :=
  match system.list database with
  | none => .error .keyCreation
  | some records =>
    match records[records.findIdx (fun record => record.id = id)]? with
    | none => .error .notFound
    | some record =>
      match service.compiler.parsePolicyJSON record.policyJSON, service.compiler.parsePolicyJSON policyJSON with
      | some oldPolicy, some newPolicy =>
        .ok (updateOf service id records (records.findIdx (fun record => record.id = id)) record enabled policyJSON oldPolicy newPolicy)
      | _, _ => .error .invalidRequest

def checkTokens (update : Update) (reading : Int) : Option (AdminSystem Policy × Reply) :=
  match system.tokens with
  | none => some (system.become (.updating update .checkingBudget))
  | some tokens =>
    match Token.step tokens (.allowsPolicyReplacement reading update.id update.oldWindows update.newWindows) with
    | some (next, ⟨.allowed true, _⟩) => some ((system.withTokens next).become (.updating update .checkingBudget))
    | some (next, ⟨.allowed false, _⟩) => some ((system.withTokens next).finish (.failed .policyConflict))
    | _ => none

-- BudgetLimiter.AllowsPolicyReplacement waits for the policy lock.
def checkBudget (update : Update) : Option (AdminSystem Policy × Reply) :=
  match system.budgets with
  | none => some (system.become (.updating update .preparing))
  | some budgets =>
    if budgets.replacing.isSome then none
    else if Budget.stalePolicy budgets.limiter update.id update.oldBudget then some (system.finish (.failed .policyConflict))
    else some (system.become (.updating update .preparing))

def prepareStep (update : Update) : AdminSystem Policy × Reply :=
  match service.prepare update.records with
  | none => system.finish (.failed .keyCreation)
  | some prepared =>
    if update.unchanged then system.become (.publishing (.updated update.replacement) prepared)
    else system.become (.updating update (.replacingTokens prepared))

def enterTokens (update : Update) (prepared : Snapshot Policy) (reading : Int) : Option (AdminSystem Policy × Reply) :=
  match system.tokens with
  | none => some (system.become (.updating update (.replacingBudget prepared)))
  | some tokens =>
    match Token.step tokens (.replaceBegin reading update.id update.oldWindows update.newWindows true) with
    | some (next, ⟨.done, _⟩) => some ((system.withTokens next).become (.updating update (.replacingBudget prepared)))
    | some (next, ⟨.failed _, _⟩) => some ((system.withTokens next).finish (.failed .keyCreation))
    | _ => none

def enterBudget (update : Update) (prepared : Snapshot Policy) : Option (AdminSystem Policy × Reply) :=
  match system.budgets with
  | none => some (system.become (.updating update (.writing prepared)))
  | some budgets =>
    match Budget.step budgets (.replaceBegin update.id update.oldBudget update.newBudget) with
    | some (next, ⟨.done, _⟩) => some ((system.withBudgets next).become (.updating update (.writing prepared)))
    | some (next, ⟨.failed _, _⟩) =>
      some ((system.withBudgets next).become (.updating update (.leavingTokens prepared (.error .keyCreation))))
    | _ => none

def writeStep (update : Update) (prepared : Snapshot Policy) (surroundings : Surroundings) : AdminSystem Policy × Reply :=
  if surroundings.database then
    match system.table.updatePolicyRecord update.id update.enabled update.policyJSON surroundings.now with
    | .ok (table, record) => AdminSystem.become { system with table := table } (.updating update (.leavingBudget prepared (.ok record)))
    | .error failure => system.become (.updating update (.leavingBudget prepared (.error (commitError failure))))
  else system.become (.updating update (.leavingBudget prepared (.error .keyCreation)))

def leaveBudget (update : Update) (prepared : Snapshot Policy) (committed : Except AdminError APIKeyRecord) :
    Option (AdminSystem Policy × Reply) :=
  match system.budgets with
  | none => some (system.become (.updating update (.leavingTokens prepared committed)))
  | some budgets =>
    (Budget.step budgets (.replaceEnd committed.isOk)).map (fun left =>
      (system.withBudgets left.1).become (.updating update (.leavingTokens prepared committed)))

def conclude (prepared : Snapshot Policy) : Except AdminError APIKeyRecord → AdminSystem Policy × Reply
  | .ok record => system.become (.publishing (.updated record) prepared)
  | .error failure => system.finish (.failed failure)

-- The inner replacement was refused before its lock, so only the token limiter
-- has something to leave.
def leaveTokens (prepared : Snapshot Policy) (committed : Except AdminError APIKeyRecord) : Option (AdminSystem Policy × Reply) :=
  match system.tokens with
  | none => some (conclude system prepared committed)
  | some tokens =>
    (Token.step tokens (.replaceEnd committed.isOk)).map (fun left => conclude (system.withTokens left.1) prepared committed)

def updateStep (update : Update) (surroundings : Surroundings) : Stage Policy → Option (AdminSystem Policy × Reply)
  | .checkingTokens => checkTokens system update surroundings.reading
  | .checkingBudget => checkBudget system update
  | .preparing => some (prepareStep service system update)
  | .replacingTokens prepared => enterTokens system update prepared surroundings.reading
  | .replacingBudget prepared => enterBudget system update prepared
  | .writing prepared => some (writeStep system update prepared surroundings)
  | .leavingBudget prepared committed => leaveBudget system update prepared committed
  | .leavingTokens prepared committed => leaveTokens system prepared committed

def proceed (surroundings : Surroundings) : Work Policy → Option (AdminSystem Policy × Reply)
  | .creating creation => some (createStep service system creation surroundings)
  | .inserting creation record prepared => some (insertStep system creation record prepared surroundings.database)
  | .updating update stage => updateStep service system update surroundings stage
  | .publishing outcome prepared => some (AdminSystem.finish { system with snapshot := prepared } outcome)

-- The policy locks and tables of the limiters belong to this service while it
-- serves. Everything else that uses the limiters goes on at any time.
def setsPolicy : Lifecycle.Call → Bool
  | .resources (.tokenCall (.registerPolicy _ _)) => true
  | .resources (.tokenCall (.replaceBegin _ _ _ _ _)) => true
  | .resources (.tokenCall (.replaceEnd _)) => true
  | .resources (.budgetCall (.registerPolicy _ _)) => true
  | .resources (.budgetCall (.replaceBegin _ _ _)) => true
  | .resources (.budgetCall (.replaceEnd _)) => true
  | _ => false

-- A request that waits for refreshMu or for a policy lock cannot proceed.
def Service.step : Call → Option (AdminSystem Policy × Reply)
  | .leases call =>
    if setsPolicy call then none
    else (Lifecycle.step system.leases call).map (fun moved => ({ system with leases := moved.1 }, .leases moved.2))
  | .create name expiresAt =>
    match beginCreation name expiresAt with
    | .error failure => some (system, .refused failure)
    | .ok creation =>
      if system.work.isSome then none else some ({ system with work := some (.creating creation) }, .begun)
  | .updatePolicy id enabled policyJSON database =>
    match updateRefusal service id policyJSON with
    | some failure => some (system, .refused failure)
    | none =>
      if system.work.isSome then none
      else
        match beginUpdate service system id enabled policyJSON database with
        | .error failure => some (system, .refused failure)
        | .ok update => some ({ system with work := some (.updating update .checkingTokens) }, .begun)
  | .proceed surroundings =>
    match system.work with
    | none => none
    | some work => proceed service system surroundings work

end Steps

-- What startup puts into the limiters before it serves: the persisted usage, and
-- the policy of every stored key.
inductive Load where
  | tokens (now : Int) (rows : List Token.CommittedTokenBucket)
  | budget (order : List String) (values : List Budget.BudgetSpent)

def Load.call : Load → Lifecycle.Call
  | tokens now rows => .resources (.tokenCall (.loadCommitted now rows))
  | budget order values => .resources (.budgetCall (.loadSpent order values))

structure Startup where
  slots : Option Nat
  tokens : Bool
  budgets : Bool
  loads : List Load
  table : APIKeyTable

section Starting

variable {Policy : Type} (service : Service Policy)

def registrations (present : Bool) (register : APIKeyRecord → Policy → Resource.Call) (records : List APIKeyRecord) :
    Option (List Lifecycle.Call) :=
  if present then
    records.mapM (fun record => (service.compiler.parsePolicyJSON record.policyJSON).map (fun policy => .resources (register record policy)))
  else some []

def registerTokens (record : APIKeyRecord) (policy : Policy) : Resource.Call :=
  .tokenCall (.registerPolicy record.id (service.compiler.tokenWindows policy))

def registerBudget (record : APIKeyRecord) (policy : Policy) : Resource.Call :=
  .budgetCall (.registerPolicy record.id (budgetPolicy service.compiler policy))

def Service.start (startup : Startup) : Option (AdminSystem Policy) := do
  let records ← startup.table.list
  let snapshot ← service.prepare records
  let tokenCalls ← registrations service startup.tokens (registerTokens service) records
  let budgetCalls ← registrations service startup.budgets (registerBudget service) records
  let loaded ← Transition.execute Lifecycle.step (Lifecycle.freshSystem startup.slots startup.tokens startup.budgets)
    (startup.loads.map Load.call ++ tokenCalls ++ budgetCalls)
  return { leases := loaded.1, table := startup.table, snapshot := snapshot, work := none }

end Starting

end NineGateway.Admin
