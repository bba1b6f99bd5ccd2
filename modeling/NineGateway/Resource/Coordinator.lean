import NineGateway.Budget.System
import NineGateway.Token.System

set_option autoImplicit false

namespace NineGateway.Resource

open Budget (BudgetPolicy BudgetSystem BudgetError)
open Token (TokenSystem TokenWindow)

-- The address stands for the *concurrencyState pointer, and a limiter's identity
-- for the *ConcurrencyLimiter pointer.
structure ConcurrencyState where
  address : Nat
  active : Nat
deriving DecidableEq, Repr

structure ConcurrencyLimiter where
  identity : Nat
  states : FiniteMap String ConcurrencyState
  nextAddress : Nat

structure Lease where
  limiter : Option Nat
  keyID : String
  state : Option Nat
  released : Bool
  claimed : Bool
  admitted : Bool
deriving DecidableEq, Repr

def newConcurrencyLimiter (identity : Nat) : ConcurrencyLimiter := { identity := identity, states := ∅, nextAddress := 0 }

def unlimitedLease (keyID : String) : Lease :=
  { limiter := none, keyID := keyID, state := none, released := false, claimed := false, admitted := true }

def slotLease (limiter : ConcurrencyLimiter) (keyID : String) (state : ConcurrencyState) : Lease :=
  { unlimitedLease keyID with limiter := some limiter.identity, state := some state.address }

-- A key without a state gets a new one, which a positive maximum never refuses.
def ConcurrencyLimiter.acquire (limiter : ConcurrencyLimiter) (keyID : String) (maximum : Int) : ConcurrencyLimiter × Option Lease :=
  if maximum < 0 then (limiter, none)
  else if maximum = 0 then (limiter, some (unlimitedLease keyID))
  else
    match limiter.states.lookup keyID with
    | none =>
      let state : ConcurrencyState := ⟨limiter.nextAddress, 1⟩
      ({ limiter with states := Finmap.insert keyID state limiter.states, nextAddress := limiter.nextAddress + 1 },
        some (slotLease limiter keyID state))
    | some state =>
      if maximum ≤ state.active then
        (if state.active = 0 then { limiter with states := Finmap.erase keyID limiter.states } else limiter, none)
      else
        ({ limiter with states := Finmap.insert keyID { state with active := state.active + 1 } limiter.states },
          some (slotLease limiter keyID state))

def Lease.spent (lease : Lease) : Bool := lease.released || lease.claimed || !lease.admitted

-- Release and releaseOwned first mark the lease under its own lock and, if that
-- was theirs to do, then give the slot back under the limiter's.
def Lease.release (lease : Lease) : Option Lease := if lease.spent then none else some { lease with released := true }

def Lease.releaseOwned (lease : Lease) : Option Lease := if lease.released then none else some { lease with released := true }

def Lease.releaseSlot (lease : Lease) (limiter : ConcurrencyLimiter) : ConcurrencyLimiter :=
  if lease.limiter ≠ some limiter.identity then limiter
  else
    match limiter.states.lookup lease.keyID with
    | none => limiter
    | some state =>
      if lease.state ≠ some state.address then limiter
      else if state.active - 1 = 0 then { limiter with states := Finmap.erase lease.keyID limiter.states }
      else { limiter with states := Finmap.insert lease.keyID { state with active := state.active - 1 } limiter.states }

def liveSlot (limiter : ConcurrencyLimiter) (lease : Lease) (keyID : String) : Bool :=
  match limiter.states.lookup keyID with
  | none => false
  | some state => decide (lease.state = some state.address) && decide (state.active ≠ 0)

def Lease.adoptFor (lease : Lease) (expected : Option ConcurrencyLimiter) (keyID : String) (requireSlot : Bool) : Option Lease :=
  if lease.spent then none
  else
    match lease.limiter, expected with
    | none, _ =>
      if requireSlot || (decide (lease.keyID ≠ "") && decide (lease.keyID ≠ keyID)) then none else some { lease with claimed := true }
    | some _, none => none
    | some owner, some limiter =>
      if owner ≠ limiter.identity ∨ lease.keyID ≠ keyID ∨ liveSlot limiter lease keyID = false then none
      else some { lease with claimed := true }

inductive AdmissionResource where
  | concurrency
  | tokens
  | budget
deriving DecidableEq, Repr

structure AdmissionError where
  resource : AdmissionResource
  resetAt : Int
  retryAfterSeconds : Int
  invalid : Bool
deriving DecidableEq, Repr

def rejection (resource : AdmissionResource) (invalid : Bool) (resetAt : Int) : AdmissionError :=
  { resource := resource, resetAt := resetAt, retryAfterSeconds := 0, invalid := invalid }

def budgetRejection : BudgetError → AdmissionError
  | .capacity resetAt _ => rejection .budget false resetAt
  | _ => rejection .budget true zeroTime

structure ResourceLeaseOptions where
  keyID : String
  maxConcurrency : Int
  tokenWindows : List TokenWindow
  tokenAmount : Int
  budgetPolicy : BudgetPolicy
  budgetCandidate : Money
deriving DecidableEq, Repr

def budgetRequested (options : ResourceLeaseOptions) : Bool := options.budgetPolicy.limited || options.budgetCandidate.isKnown

-- The children are named by their position among the slots of the system and
-- the reservations of the two limiters.
structure ResourceLease where
  concurrency : Nat
  tokens : Option Nat
  budget : Option Nat
deriving DecidableEq, Repr

-- How far an Acquire or AcquireWithProvisional has come. Between two phases it
-- holds no lock.
inductive Phase where
  | reservingTokens
  | reservingBudget (tokens : Option Nat)
  | releasingTokens (tokens : Nat) (failure : AdmissionError)
  | releasingSlot (failure : AdmissionError)
  | returningSlot (failure : AdmissionError)
  | timingRetry (failure : AdmissionError)
  | rejected (failure : AdmissionError)
  | admitted (lease : ResourceLease)
deriving DecidableEq, Repr

structure Admission where
  options : ResourceLeaseOptions
  slot : Nat
  phase : Phase
deriving DecidableEq, Repr

-- A slot is returning between the two halves of its Release. The lease that
-- Acquire takes for itself is not exposed: no caller can name it.
structure Slot where
  lease : Lease
  exposed : Bool
  returning : Bool
deriving DecidableEq, Repr

structure LeaseSystem where
  concurrency : Option ConcurrencyLimiter
  tokens : Option TokenSystem
  budgets : Option BudgetSystem
  slots : List Slot
  admissions : List Admission

def newResourceLeaseCoordinator (concurrency : Option ConcurrencyLimiter) (tokens : Option TokenSystem) (budgets : Option BudgetSystem) :
    LeaseSystem :=
  { concurrency := concurrency, tokens := tokens, budgets := budgets, slots := [], admissions := [] }

-- tokenCall and budgetCall are whatever else uses the shared limiters. offer
-- brings in a lease that another limiter issued.
inductive Call where
  | acquireSlot (keyID : String) (maximum : Int)
  | offer (lease : Lease)
  | release (slot : Nat)
  | releaseSlot (slot : Nat)
  | acquire (options : ResourceLeaseOptions)
  | acquireWithProvisional (slot : Nat) (options : ResourceLeaseOptions)
  | advance (admission : Nat) (reading : Int)
  | tokenCall (call : Token.Call)
  | budgetCall (call : Budget.Call)
deriving DecidableEq, Repr

inductive Reply where
  | done
  | slot (index : Nat)
  | started (admission : Nat)
  | refused (failure : AdmissionError)
  | reached (phase : Phase)
  | tokens (reply : Token.Reply)
  | budget (reply : Budget.Reply)
deriving DecidableEq, Repr

def LeaseSystem.start (system : LeaseSystem) (options : ResourceLeaseOptions) (slot : Nat) : LeaseSystem × Reply :=
  ({ system with admissions := system.admissions ++ [⟨options, slot, .reservingTokens⟩] }, .started system.admissions.length)

def LeaseSystem.addSlot (system : LeaseSystem) (lease : Lease) (exposed : Bool) : LeaseSystem :=
  { system with slots := system.slots ++ [⟨lease, exposed, false⟩] }

def LeaseSystem.exposedSlot (system : LeaseSystem) (slot : Nat) : Option Slot := (system.slots[slot]?).filter Slot.exposed

def acquireConcurrency (system : LeaseSystem) (keyID : String) (maximum : Int) : LeaseSystem × Except AdmissionError Lease :=
  if maximum < 0 then (system, .error (rejection .concurrency true zeroTime))
  else
    match system.concurrency with
    | none => (system, .ok (unlimitedLease keyID))
    | some limiter =>
      match limiter.acquire keyID maximum with
      | (next, none) => ({ system with concurrency := some next }, .error (rejection .concurrency false zeroTime))
      | (next, some lease) => ({ system with concurrency := some next }, .ok lease)

def acquire (system : LeaseSystem) (options : ResourceLeaseOptions) : LeaseSystem × Reply :=
  match acquireConcurrency system options.keyID options.maxConcurrency with
  | (next, .error failure) => (next, .refused failure)
  | (next, .ok lease) => (next.addSlot lease false).start options next.slots.length

def acquireWithProvisional (system : LeaseSystem) (index : Nat) (provisional : Slot) (options : ResourceLeaseOptions) : LeaseSystem × Reply :=
  if options.maxConcurrency < 0 then (system, .refused (rejection .concurrency true zeroTime))
  else
    match provisional.lease.adoptFor system.concurrency options.keyID (decide (options.maxConcurrency > 0)) with
    | none => (system, .refused (rejection .concurrency true zeroTime))
    | some lease => LeaseSystem.start { system with slots := system.slots.set index { provisional with lease := lease } } options index

def rollBack (tokens : Option Nat) (failure : AdmissionError) : Phase :=
  match tokens with
  | none => .releasingSlot failure
  | some index => .releasingTokens index failure

def reserveTokens (system : LeaseSystem) (reading : Int) (options : ResourceLeaseOptions) : Option (LeaseSystem × Phase) :=
  match system.tokens with
  | none => some (system, .reservingBudget none)
  | some tokens =>
    if options.tokenAmount < 0 then some (system, .releasingSlot (rejection .tokens true zeroTime))
    else if options.tokenAmount > 0 then
      match Token.step tokens (.reserve reading options.keyID options.tokenWindows options.tokenAmount) with
      | some (next, ⟨.reserved index, _⟩) => some ({ system with tokens := some next }, .reservingBudget (some index))
      | some (next, ⟨.rejected resetAt, _⟩) =>
        some ({ system with tokens := some next }, .releasingSlot (rejection .tokens false resetAt))
      | _ => none
    else some (system, .reservingBudget none)

def reserveBudget (system : LeaseSystem) (reading : Int) (options : ResourceLeaseOptions) (slot : Nat) (tokens : Option Nat) :
    Option (LeaseSystem × Phase) :=
  match system.budgets with
  | none => some (system, .admitted ⟨slot, tokens, none⟩)
  | some budgets =>
    if budgetRequested options then
      if !options.budgetCandidate.isKnown then some (system, rollBack tokens (rejection .budget true zeroTime))
      else
        match Budget.step budgets (.reserve reading options.keyID options.budgetPolicy options.budgetCandidate) with
        | some (next, ⟨.reserved index, _⟩) => some ({ system with budgets := some next }, .admitted ⟨slot, tokens, some index⟩)
        | some (next, ⟨.failed failure, _⟩) => some ({ system with budgets := some next }, rollBack tokens (budgetRejection failure))
        | _ => none
    else some (system, .admitted ⟨slot, tokens, none⟩)

-- The delay is computed only for a budget that said when it resets.
def afterSlot (failure : AdmissionError) : Phase :=
  if failure.resource = .budget ∧ failure.resetAt ≠ zeroTime then .timingRetry failure else .rejected failure

def releaseTokens (system : LeaseSystem) (reading : Int) (index : Nat) (failure : AdmissionError) : Option (LeaseSystem × Phase) :=
  match system.tokens with
  | none => none
  | some tokens =>
    (Token.step tokens (.finalize index reading .releaseBeforeUpstream)).map
      (fun outcome => ({ system with tokens := some outcome.1 }, .releasingSlot failure))

def releaseOwned (system : LeaseSystem) (slot : Nat) (failure : AdmissionError) : Option (LeaseSystem × Phase) :=
  match system.slots[slot]? with
  | none => none
  | some held =>
    match held.lease.releaseOwned with
    | none => some (system, afterSlot failure)
    | some lease => some ({ system with slots := system.slots.set slot { held with lease := lease } }, .returningSlot failure)

def giveBack (system : LeaseSystem) (slot : Nat) : Option LeaseSystem :=
  match system.slots[slot]? with
  | none => none
  | some held => some { system with concurrency := system.concurrency.map held.lease.releaseSlot }

def timeRetry (system : LeaseSystem) (reading : Int) (failure : AdmissionError) : Option (LeaseSystem × Phase) :=
  match system.budgets with
  | none => none
  | some budgets =>
    (Budget.step budgets (.retryAfter reading)).map (fun outcome =>
      ({ system with budgets := some outcome.1 },
        .rejected { failure with retryAfterSeconds := retryAfterSecondsAt outcome.1.limiter.lastNow failure.resetAt }))

def advance (system : LeaseSystem) (reading : Int) (admission : Admission) : Option (LeaseSystem × Phase) :=
  match admission.phase with
  | .reservingTokens => reserveTokens system reading admission.options
  | .reservingBudget tokens => reserveBudget system reading admission.options admission.slot tokens
  | .releasingTokens tokens failure => releaseTokens system reading tokens failure
  | .releasingSlot failure => releaseOwned system admission.slot failure
  | .returningSlot failure => (giveBack system admission.slot).map (fun next => (next, afterSlot failure))
  | .timingRetry failure => timeRetry system reading failure
  | .rejected _ => none
  | .admitted _ => none

def issuedElsewhere (system : LeaseSystem) (lease : Lease) : Bool :=
  match system.concurrency, lease.limiter with
  | some limiter, some owner => decide (owner ≠ limiter.identity)
  | _, _ => true

def step (system : LeaseSystem) : Call → Option (LeaseSystem × Reply)
  | .acquireSlot keyID maximum =>
    match system.concurrency with
    | none => none
    | some limiter =>
      match limiter.acquire keyID maximum with
      | (next, none) => some ({ system with concurrency := some next }, .done)
      | (next, some lease) => some (LeaseSystem.addSlot { system with concurrency := some next } lease true, .slot system.slots.length)
  | .offer lease => if issuedElsewhere system lease then some (system.addSlot lease true, .slot system.slots.length) else none
  | .release slot =>
    match system.exposedSlot slot with
    | none => none
    | some held =>
      match held.lease.release with
      | none => some (system, .done)
      | some lease => some ({ system with slots := system.slots.set slot { held with lease := lease, returning := true } }, .done)
  | .releaseSlot slot =>
    match system.slots[slot]? with
    | none => none
    | some held =>
      if held.returning then
        (giveBack system slot).map (fun next => ({ next with slots := next.slots.set slot { held with returning := false } }, .done))
      else none
  | .acquire options => some (acquire system options)
  | .acquireWithProvisional slot options =>
    match system.exposedSlot slot with
    | none => none
    | some provisional => some (acquireWithProvisional system slot provisional options)
  | .advance index reading =>
    match system.admissions[index]? with
    | none => none
    | some admission =>
      (advance system reading admission).map (fun outcome =>
        ({ outcome.1 with admissions := outcome.1.admissions.set index { admission with phase := outcome.2 } }, .reached outcome.2))
  | .tokenCall call =>
    match system.tokens with
    | none => none
    | some tokens => (Token.step tokens call).map (fun outcome => ({ system with tokens := some outcome.1 }, .tokens outcome.2))
  | .budgetCall call =>
    match system.budgets with
    | none => none
    | some budgets => (Budget.step budgets call).map (fun outcome => ({ system with budgets := some outcome.1 }, .budget outcome.2))

inductive AdvanceOutcome (sys : LeaseSystem) (read : Int) (opts : ResourceLeaseOptions) (slot : Nat) :
    Phase → LeaseSystem → Phase → Prop where
  | tokensUnasked (free : sys.tokens = none ∨ opts.tokenAmount = 0) :
      AdvanceOutcome sys read opts slot .reservingTokens sys (.reservingBudget none)
  | tokensInvalid (negative : opts.tokenAmount < 0) :
      AdvanceOutcome sys read opts slot .reservingTokens sys (.releasingSlot (rejection .tokens true zeroTime))
  | tokensReserved (tokens next i ds) (has : sys.tokens = some tokens)
      (ran : Token.step tokens (.reserve read opts.keyID opts.tokenWindows opts.tokenAmount) = some (next, ⟨.reserved i, ds⟩)) :
      AdvanceOutcome sys read opts slot .reservingTokens { sys with tokens := some next } (.reservingBudget (some i))
  | tokensRejected (tokens next resetAt ds) (has : sys.tokens = some tokens)
      (ran : Token.step tokens (.reserve read opts.keyID opts.tokenWindows opts.tokenAmount) = some (next, ⟨.rejected resetAt, ds⟩)) :
      AdvanceOutcome sys read opts slot .reservingTokens { sys with tokens := some next } (.releasingSlot (rejection .tokens false resetAt))
  | budgetUnasked (tokens) (free : sys.budgets = none ∨ budgetRequested opts = false) :
      AdvanceOutcome sys read opts slot (.reservingBudget tokens) sys (.admitted ⟨slot, tokens, none⟩)
  | budgetUnknown (tokens) (unknown : opts.budgetCandidate.isKnown = false) :
      AdvanceOutcome sys read opts slot (.reservingBudget tokens) sys (rollBack tokens (rejection .budget true zeroTime))
  | budgetReserved (tokens budgets next i ds) (has : sys.budgets = some budgets) (known : opts.budgetCandidate.isKnown = true)
      (ran : Budget.step budgets (.reserve read opts.keyID opts.budgetPolicy opts.budgetCandidate) = some (next, ⟨.reserved i, ds⟩)) :
      AdvanceOutcome sys read opts slot (.reservingBudget tokens) { sys with budgets := some next } (.admitted ⟨slot, tokens, some i⟩)
  | budgetRejected (tokens budgets next err ds) (has : sys.budgets = some budgets)
      (ran : Budget.step budgets (.reserve read opts.keyID opts.budgetPolicy opts.budgetCandidate) = some (next, ⟨.failed err, ds⟩)) :
      AdvanceOutcome sys read opts slot (.reservingBudget tokens) { sys with budgets := some next } (rollBack tokens (budgetRejection err))
  | tokensReleased (tokens next i err rep) (has : sys.tokens = some tokens)
      (ran : Token.step tokens (.finalize i read .releaseBeforeUpstream) = some (next, rep)) :
      AdvanceOutcome sys read opts slot (.releasingTokens i err) { sys with tokens := some next } (.releasingSlot err)
  | slotSpent (err held) (has : sys.slots[slot]? = some held) (spent : held.lease.released = true) :
      AdvanceOutcome sys read opts slot (.releasingSlot err) sys (afterSlot err)
  | slotReleased (err held) (has : sys.slots[slot]? = some held) (unspent : held.lease.released = false) :
      AdvanceOutcome sys read opts slot (.releasingSlot err)
        { sys with slots := sys.slots.set slot { held with lease := { held.lease with released := true } } } (.returningSlot err)
  | slotReturned (err held) (has : sys.slots[slot]? = some held) : AdvanceOutcome sys read opts slot (.returningSlot err)
        { sys with concurrency := sys.concurrency.map held.lease.releaseSlot } (afterSlot err)
  | retryTimed (err budgets next rep) (has : sys.budgets = some budgets) (ran : Budget.step budgets (.retryAfter read) = some (next, rep)) :
      AdvanceOutcome sys read opts slot (.timingRetry err) { sys with budgets := some next }
        (.rejected { err with retryAfterSeconds := retryAfterSecondsAt next.limiter.lastNow err.resetAt })

section Advance

variable {sys next : LeaseSystem} {read : Int} {opts : ResourceLeaseOptions} {slot : Nat} {got : Phase}

theorem reserve_tokens_outcome (ahead : reserveTokens sys read opts = some (next, got)) :
    AdvanceOutcome sys read opts slot .reservingTokens next got := by
  unfold reserveTokens at ahead
  cases has : sys.tokens with
  | none =>
    simp only [has] at ahead
    cases ahead
    exact .tokensUnasked (.inl has)
  | some tokens =>
    simp only [has] at ahead
    split at ahead
    · rename_i negative
      cases ahead
      exact .tokensInvalid negative
    split at ahead
    · split at ahead
      · rename_i after i ds ran
        cases ahead
        exact .tokensReserved tokens after i ds has ran
      · rename_i after resetAt ds ran
        cases ahead
        exact .tokensRejected tokens after resetAt ds has ran
      · simp at ahead
    · cases ahead
      exact .tokensUnasked (.inr (by omega))

theorem reserve_budget_outcome {tokens : Option Nat} (ahead : reserveBudget sys read opts slot tokens = some (next, got)) :
    AdvanceOutcome sys read opts slot (.reservingBudget tokens) next got := by
  unfold reserveBudget at ahead
  cases has : sys.budgets with
  | none =>
    simp only [has] at ahead
    cases ahead
    exact .budgetUnasked tokens (.inl has)
  | some budgets =>
    simp only [has] at ahead
    split at ahead
    · split at ahead
      · rename_i unknown
        cases ahead
        exact .budgetUnknown tokens (by simpa using unknown)
      rename_i known
      split at ahead
      · rename_i after i ds ran
        cases ahead
        exact .budgetReserved tokens budgets after i ds has (by simpa using known) ran
      · rename_i after err ds ran
        cases ahead
        exact .budgetRejected tokens budgets after err ds has ran
      · simp at ahead
    · rename_i unrequested
      cases ahead
      exact .budgetUnasked tokens (.inr (by simpa using unrequested))

theorem release_owned_outcome {err : AdmissionError} (ahead : releaseOwned sys slot err = some (next, got)) :
    AdvanceOutcome sys read opts slot (.releasingSlot err) next got := by
  unfold releaseOwned at ahead
  cases has : sys.slots[slot]? with
  | none => simp [has] at ahead
  | some held =>
    cases spent : held.lease.released with
    | true =>
      simp only [has, Lease.releaseOwned, spent, if_true] at ahead
      cases ahead
      exact .slotSpent err held has spent
    | false =>
      simp only [has, Lease.releaseOwned, spent, Bool.false_eq_true, if_false] at ahead
      cases ahead
      exact .slotReleased err held has spent

theorem advance_outcome {adm : Admission} (ahead : advance sys read adm = some (next, got)) :
    AdvanceOutcome sys read adm.options adm.slot adm.phase next got := by
  unfold advance at ahead
  cases phase : adm.phase with
  | reservingTokens => exact reserve_tokens_outcome (by simpa [phase] using ahead)
  | reservingBudget => exact reserve_budget_outcome (by simpa [phase] using ahead)
  | releasingTokens i err =>
    simp only [phase, releaseTokens] at ahead
    cases has : sys.tokens with
    | none => simp [has] at ahead
    | some tokens =>
      simp only [has, Option.map_eq_some_iff, Prod.mk.injEq] at ahead
      obtain ⟨⟨after, rep⟩, ran, rfl, rfl⟩ := ahead
      exact .tokensReleased tokens after i err rep has ran
  | releasingSlot => exact release_owned_outcome (by simpa [phase] using ahead)
  | returningSlot err =>
    simp only [phase, giveBack] at ahead
    cases has : sys.slots[adm.slot]? with
    | none => simp [has] at ahead
    | some held =>
      simp only [has, Option.map_some] at ahead
      cases ahead
      exact .slotReturned err held has
  | timingRetry err =>
    simp only [phase, timeRetry] at ahead
    cases has : sys.budgets with
    | none => simp [has] at ahead
    | some budgets =>
      simp only [has, Option.map_eq_some_iff, Prod.mk.injEq] at ahead
      obtain ⟨⟨after, rep⟩, ran, rfl, rfl⟩ := ahead
      exact .retryTimed err budgets after rep has ran
  | rejected | admitted => simp [phase] at ahead

end Advance

inductive Move (sys : LeaseSystem) : Call → LeaseSystem → Reply → Prop where
  | full (key most lim next) (has : sys.concurrency = some lim) (acquired : lim.acquire key most = (next, none)) :
      Move sys (.acquireSlot key most) { sys with concurrency := some next } .done
  | spent (slot) : Move sys (.release slot) sys .done
  | invalid (opts) : Move sys (.acquire opts) sys (.refused (rejection .concurrency true zeroTime))
  | crowded (opts lim next) (has : sys.concurrency = some lim) (acquired : lim.acquire opts.keyID opts.maxConcurrency = (next, none)) :
      Move sys (.acquire opts) { sys with concurrency := some next } (.refused (rejection .concurrency false zeroTime))
  | unadopted (slot opts) : Move sys (.acquireWithProvisional slot opts) sys (.refused (rejection .concurrency true zeroTime))
  | taken (key most lim next lease) (has : sys.concurrency = some lim) (acquired : lim.acquire key most = (next, some lease)) :
      Move sys (.acquireSlot key most) (LeaseSystem.addSlot { sys with concurrency := some next } lease true) (.slot sys.slots.length)
  | offered (lease) (apart : issuedElsewhere sys lease = true) :
      Move sys (.offer lease) (sys.addSlot lease true) (.slot sys.slots.length)
  | released (slot held) (has : sys.slots[slot]? = some held) (exposed : held.exposed = true) (unspent : held.lease.spent = false) :
      Move sys (.release slot)
        { sys with slots := sys.slots.set slot { held with lease := { held.lease with released := true }, returning := true } } .done
  | returned (slot held) (has : sys.slots[slot]? = some held) (returning : held.returning = true) : Move sys (.releaseSlot slot)
        { sys with
          concurrency := sys.concurrency.map held.lease.releaseSlot
          slots := sys.slots.set slot { held with returning := false } } .done
  | unlimited (opts) (gone : sys.concurrency = none) : Move sys (.acquire opts)
        { sys.addSlot (unlimitedLease opts.keyID) false with
          admissions := sys.admissions ++ [⟨opts, sys.slots.length, .reservingTokens⟩] } (.started sys.admissions.length)
  | started (opts lim next lease) (has : sys.concurrency = some lim)
      (acquired : lim.acquire opts.keyID opts.maxConcurrency = (next, some lease)) : Move sys (.acquire opts)
        { LeaseSystem.addSlot { sys with concurrency := some next } lease false with
          admissions := sys.admissions ++ [⟨opts, sys.slots.length, .reservingTokens⟩] } (.started sys.admissions.length)
  | adopted (slot opts held) (has : sys.slots[slot]? = some held) (exposed : held.exposed = true) (unspent : held.lease.spent = false) :
      Move sys (.acquireWithProvisional slot opts) { sys with
          slots := sys.slots.set slot { held with lease := { held.lease with claimed := true } }
          admissions := sys.admissions ++ [⟨opts, slot, .reservingTokens⟩] } (.started sys.admissions.length)
  | advanced (i read adm) (has : sys.admissions[i]? = some adm) (next got) (out : AdvanceOutcome sys read adm.options adm.slot adm.phase next got) :
      Move sys (.advance i read) { next with admissions := next.admissions.set i { adm with phase := got } } (.reached got)
  | tokens (call tokens next rep) (has : sys.tokens = some tokens) (ran : Token.step tokens call = some (next, rep)) :
      Move sys (.tokenCall call) { sys with tokens := some next } (.tokens rep)
  | budgets (call budgets next rep) (has : sys.budgets = some budgets) (ran : Budget.step budgets call = some (next, rep)) :
      Move sys (.budgetCall call) { sys with budgets := some next } (.budget rep)

section Inversion

variable {sys next : LeaseSystem} {rep : Reply}

theorem adopt_unspent {lease adopted : Lease} {expected : Option ConcurrencyLimiter} {key : String} {requireSlot : Bool}
    (adopting : lease.adoptFor expected key requireSlot = some adopted) : lease.spent = false ∧ adopted = { lease with claimed := true } := by
  unfold Lease.adoptFor at adopting
  split at adopting
  · cases adopting
  rename_i new
  refine ⟨by simpa using new, ?_⟩
  split at adopting
  · split at adopting
    · cases adopting
    · exact (Option.some.inj adopting).symm
  · cases adopting
  · split at adopting
    · cases adopting
    · exact (Option.some.inj adopting).symm

theorem acquire_move {opts : ResourceLeaseOptions} (did : acquire sys opts = (next, rep)) :
    Move sys (.acquire opts) next rep := by
  unfold acquire acquireConcurrency at did
  by_cases negative : opts.maxConcurrency < 0
  · simp only [negative, if_true] at did
    cases did
    exact .invalid opts
  simp only [negative, if_false] at did
  cases has : sys.concurrency with
  | none =>
    simp only [has] at did
    cases did
    exact .unlimited opts has
  | some lim =>
    simp only [has] at did
    rcases taken : lim.acquire opts.keyID opts.maxConcurrency with ⟨after, lease⟩
    cases lease with
    | none =>
      simp only [taken] at did
      cases did
      exact .crowded opts lim after has taken
    | some lease =>
      simp only [taken] at did
      cases did
      exact .started opts lim after lease has taken

theorem step_move {call : Call} (ran : step sys call = some (next, rep)) : Move sys call next rep := by
  cases call with
  | acquireSlot key most =>
    simp only [step] at ran
    cases has : sys.concurrency with
    | none => simp [has] at ran
    | some lim =>
      rcases taken : lim.acquire key most with ⟨after, lease⟩
      cases lease with
      | none =>
        simp only [has, taken] at ran
        cases ran
        exact .full key most lim after has taken
      | some lease =>
        simp only [has, taken] at ran
        cases ran
        exact .taken key most lim after lease has taken
  | offer lease =>
    simp only [step, Option.ite_none_right_eq_some, Option.some.injEq, Prod.mk.injEq] at ran
    obtain ⟨apart, rfl, rfl⟩ := ran
    exact .offered lease apart
  | release slot =>
    simp only [step] at ran
    cases hit : sys.exposedSlot slot with
    | none => simp [hit] at ran
    | some held =>
      obtain ⟨has, exposed⟩ := Option.filter_eq_some_iff.mp hit
      cases spent : held.lease.spent with
      | true =>
        simp only [hit, Lease.release, spent, if_true] at ran
        cases ran
        exact .spent slot
      | false =>
        simp only [hit, Lease.release, spent, Bool.false_eq_true, if_false] at ran
        cases ran
        exact .released slot held has exposed spent
  | releaseSlot slot =>
    simp only [step] at ran
    cases has : sys.slots[slot]? with
    | none => simp [has] at ran
    | some held =>
      simp only [has, Option.ite_none_right_eq_some, giveBack, Option.map_some, Option.some.injEq, Prod.mk.injEq] at ran
      obtain ⟨returning, rfl, rfl⟩ := ran
      exact .returned slot held has returning
  | acquire => exact acquire_move (Option.some.inj ran)
  | acquireWithProvisional slot opts =>
    simp only [step] at ran
    cases hit : sys.exposedSlot slot with
    | none => simp [hit] at ran
    | some held =>
      obtain ⟨has, exposed⟩ := Option.filter_eq_some_iff.mp hit
      simp only [hit, Option.some.injEq, acquireWithProvisional] at ran
      split at ran
      · cases ran
        exact .unadopted slot opts
      split at ran
      · cases ran
        exact .unadopted slot opts
      · rename_i lease adopting
        obtain ⟨unspent, rfl⟩ := adopt_unspent adopting
        cases ran
        exact .adopted slot opts held has exposed unspent
  | advance i read =>
    simp only [step] at ran
    cases has : sys.admissions[i]? with
    | none => simp [has] at ran
    | some adm =>
      simp only [has, Option.map_eq_some_iff, Prod.mk.injEq] at ran
      obtain ⟨⟨after, got⟩, did, rfl, rfl⟩ := ran
      exact .advanced i read adm has after got (advance_outcome did)
  | tokenCall call =>
    simp only [step] at ran
    cases has : sys.tokens with
    | none => simp [has] at ran
    | some tokens =>
      simp only [has, Option.map_eq_some_iff, Prod.mk.injEq] at ran
      obtain ⟨⟨after, ans⟩, did, rfl, rfl⟩ := ran
      exact .tokens call tokens after ans has did
  | budgetCall call =>
    simp only [step] at ran
    cases has : sys.budgets with
    | none => simp [has] at ran
    | some budgets =>
      simp only [has, Option.map_eq_some_iff, Prod.mk.injEq] at ran
      obtain ⟨⟨after, ans⟩, did, rfl, rfl⟩ := ran
      exact .budgets call budgets after ans has did

end Inversion

end NineGateway.Resource
