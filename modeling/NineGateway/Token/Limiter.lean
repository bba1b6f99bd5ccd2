import NineGateway.Token.Window
import NineGateway.Library.FiniteMap
import Mathlib.Data.Finset.Dedup

set_option autoImplicit false

namespace NineGateway.Token

inductive TokenError where
  | invalidUsage
  | accountingOverflow
  | reservationState
  | policyReplacementConflict
deriving DecidableEq, Repr

-- Both the policy's TokenWindow and the tokenWindowKey made from it, which have
-- the same two fields.
structure TokenWindow where
  amount : Int
  duration : Int
deriving DecidableEq, Repr

structure TokenBucketKey where
  keyID : String
  window : TokenWindow
  start : Int
deriving DecidableEq, Repr

structure TokenBucket where
  committed : Int
  active : Int
deriving DecidableEq, Repr

structure CommittedTokenBucket where
  keyID : String
  bucketStart : Int
  window : TokenWindow
  committedTokens : Int
deriving DecidableEq, Repr

structure CommittedTokenDelta where
  keyID : String
  bucketStart : Int
  window : TokenWindow
  committedDelta : Int
deriving DecidableEq, Repr

abbrev TokenBuckets := FiniteMap TokenBucketKey TokenBucket

structure TokenLimiter where
  buckets : TokenBuckets
  policyWindows : FiniteMap String (Finset TokenWindow)
  lastNow : Int

-- The ticket's once and notify guards are consumed and notified. Its sink is
-- set only by an adjustment that ran to its end.
structure TokenAdjustmentTicket where
  bound : Bool
  buckets : List TokenBucketKey
  reserved : Int
  consumed : Bool
  notified : Bool
  finalErr : Option TokenError
  deltas : List CommittedTokenDelta
  sink : Bool
deriving DecidableEq, Repr

-- Whether the limiter pointer of a reservation or ticket is set is its bound.
structure TokenReservation where
  bound : Bool
  buckets : List TokenBucketKey
  amount : Int
  finalized : Bool
  finalErr : Option TokenError
  ticket : Option TokenAdjustmentTicket
deriving DecidableEq, Repr

def newTokenLimiter : TokenLimiter := { buckets := ∅, policyWindows := ∅, lastNow := zeroTime }

def newTokenReservation (bound : Bool) (buckets : List TokenBucketKey) (amount : Int) : TokenReservation :=
  { bound := bound, buckets := buckets, amount := amount, finalized := false, finalErr := none, ticket := none }

def committedTokenDelta (key : TokenBucketKey) (delta : Int) : CommittedTokenDelta :=
  { keyID := key.keyID, bucketStart := key.start, window := key.window, committedDelta := delta }

def emitDelta (key : TokenBucketKey) (delta : Int) : List CommittedTokenDelta :=
  if delta = 0 then [] else [committedTokenDelta key delta]

def collectWindows : List TokenWindow → List TokenWindow → Option (List TokenWindow)
  | [], result => some result
  | window :: rest, result =>
    if window.amount ≤ 0 ∨ window.duration ≤ 0 then none
    else if window ∈ result then none
    else collectWindows rest (result ++ [window])

def windowOrder (left right : TokenWindow) : Prop :=
  if left.duration ≠ right.duration then left.duration < right.duration else left.amount ≤ right.amount

instance (left right : TokenWindow) : Decidable (windowOrder left right) :=
  inferInstanceAs (Decidable (if left.duration ≠ right.duration then left.duration < right.duration else left.amount ≤ right.amount))

def normalizeTokenWindows (windows : List TokenWindow) : Option (List TokenWindow) :=
  (collectWindows windows []).map (List.insertionSort windowOrder)

def sameTokenWindowSet (configured : Finset TokenWindow) (windows : List TokenWindow) : Bool :=
  decide (configured.card = windows.length) && windows.all (fun window => decide (window ∈ configured))

def expired (now : Int) (key : TokenBucketKey) : Bool :=
  match checkedWindowReset key.start key.window.duration with
  | none => false
  | some reset => decide (reset ≤ now)

def discardExpired (now : Int) (buckets : TokenBuckets) : TokenBuckets :=
  buckets.retain (fun key bucket => !(expired now key && decide (bucket.active = 0)))

def TokenLimiter.cleaned (limiter : TokenLimiter) (reading : Int) : TokenLimiter :=
  { limiter with
    lastNow := clampTime limiter.lastNow reading
    buckets := discardExpired (clampTime limiter.lastNow reading) limiter.buckets }

def bucketAt (buckets : TokenBuckets) (key : TokenBucketKey) : TokenBucket := (buckets.lookup key).getD ⟨0, 0⟩

structure Attempt where
  entries : List (TokenBucketKey × TokenBucket)
  resetAt : Int
  rejected : Bool

def blankAttempt : Attempt := { entries := [], resetAt := zeroTime, rejected := false }

def overCapacity (window : TokenWindow) (amount : Int) : Option Int → Bool
  | none => true
  | some used => decide (amount > window.amount) || decide (used > window.amount) || decide (amount > window.amount - used)

def laterReset (resetAt reset : Int) : Int := if resetAt = zeroTime ∨ reset > resetAt then reset else resetAt

def attemptWindow (buckets : TokenBuckets) (now : Int) (keyID : String) (amount : Int) (attempt : Attempt) (window : TokenWindow) :
    Option Attempt :=
  match fixedWindowStartChecked now window.duration with
  | none => none
  | some start =>
    match checkedWindowReset start window.duration with
    | none => none
    | some reset =>
      let key : TokenBucketKey := ⟨keyID, window, start⟩
      let bucket := bucketAt buckets key
      let used := checkedNonNegativeAdd bucket.committed bucket.active
      let full := overCapacity window amount used
      let active := checkedNonNegativeAdd bucket.active amount
      some {
        entries := attempt.entries ++ [(key, ⟨bucket.committed, active.getD 0⟩)]
        resetAt := if full && decide (amount ≤ window.amount) && used.isSome then laterReset attempt.resetAt reset else attempt.resetAt
        rejected := attempt.rejected || full || active.isNone || decide (active.getD 0 > window.amount) }

def attemptWindows (buckets : TokenBuckets) (now : Int) (keyID : String) (amount : Int) : List TokenWindow → Attempt → Option Attempt
  | [], attempt => some attempt
  | window :: rest, attempt =>
    match attemptWindow buckets now keyID amount attempt window with
    | none => none
    | some next => attemptWindows buckets now keyID amount rest next

def stalePolicy (limiter : TokenLimiter) (keyID : String) (normalized : List TokenWindow) : Bool :=
  match limiter.policyWindows.lookup keyID with
  | none => false
  | some configured => !sameTokenWindowSet configured normalized

-- A rejection carries the reset time, zero when there is no useful one.
def reserve (limiter : TokenLimiter) (reading : Int) (keyID : String) (windows : List TokenWindow) (amount : Int) :
    TokenLimiter × Except Int TokenReservation :=
  if amount ≤ 0 then (limiter, .error zeroTime)
  else
    match normalizeTokenWindows windows with
    | none => (limiter, .error zeroTime)
    | some normalized =>
      if normalized.isEmpty then (limiter, .ok (newTokenReservation false [] amount))
      else if stalePolicy limiter keyID normalized then (limiter, .error zeroTime)
      else
        let current := limiter.cleaned reading
        match attemptWindows current.buckets current.lastNow keyID amount normalized blankAttempt with
        | none => (current, .error zeroTime)
        | some attempt =>
          if attempt.rejected then (current, .error attempt.resetAt)
          else
            ({ current with buckets := attempt.entries.foldl (fun buckets entry => Finmap.insert entry.1 entry.2 buckets) current.buckets },
              .ok (newTokenReservation true (attempt.entries.map Prod.fst) amount))

-- Reserve takes the policy lock only when these checks have passed.
def waitsForPolicy (windows : List TokenWindow) (amount : Int) : Bool :=
  decide (0 < amount) && (normalizeTokenWindows windows).any (fun normalized => !normalized.isEmpty)

def storeBucket (buckets : TokenBuckets) (key : TokenBucketKey) (bucket : TokenBucket) : TokenBuckets :=
  if bucket.active = 0 ∧ bucket.committed = 0 then Finmap.erase key buckets else Finmap.insert key bucket buckets

def settlementCheck (buckets : TokenBuckets) (amount usage : Int) : List TokenBucketKey → Option TokenError
  | [] => none
  | key :: rest =>
    match buckets.lookup key with
    | none => some .reservationState
    | some bucket =>
      if bucket.active < amount then some .reservationState
      else if (checkedNonNegativeAdd bucket.committed usage).isNone then some .accountingOverflow
      else settlementCheck buckets amount usage rest

structure Settling where
  buckets : TokenBuckets
  error : Option TokenError
  deltas : List CommittedTokenDelta

def settledBucket (amount settle : Int) (bucket : TokenBucket) : TokenBucket :=
  { committed := (checkedNonNegativeAdd bucket.committed settle).getD bucket.committed
    active := if bucket.active < amount then 0 else bucket.active - amount }

def settleBucket (amount settle : Int) (settling : Settling) (key : TokenBucketKey) : Settling :=
  match settling.buckets.lookup key with
  | none => settling
  | some bucket =>
    { buckets := storeBucket settling.buckets key (settledBucket amount settle bucket)
      error := if (checkedNonNegativeAdd bucket.committed settle).isNone then some .accountingOverflow else settling.error
      deltas := settling.deltas ++ emitDelta key settle }

-- The charge that the checks before the mutation pass settle on.
def settleAmount (amount usage : Int) (result : Option TokenError) : Int :=
  let settle := if result = some .accountingOverflow then amount else usage
  let settle := if settle < 0 then amount else settle
  if result ≠ none ∧ settle = usage then amount else settle

def settleReservation (limiter : TokenLimiter) (reading : Int) (reservation : TokenReservation) (usage : Int)
    (result : Option TokenError) : TokenLimiter × Option TokenError × List CommittedTokenDelta :=
  let settle := settleAmount reservation.amount usage result
  let settled := reservation.buckets.foldl (settleBucket reservation.amount settle) ⟨limiter.buckets, result, []⟩
  (TokenLimiter.cleaned { limiter with buckets := settled.buckets } reading, settled.error, settled.deltas)

def finalize (limiter : TokenLimiter) (reading : Int) (reservation : TokenReservation) (usage : Int) (actual : Bool) :
    TokenLimiter × Option TokenError × List CommittedTokenDelta :=
  let invalid := decide (usage < 0)
  if !reservation.bound || reservation.buckets.isEmpty || decide (reservation.amount ≤ 0) then
    (limiter, if invalid then some .invalidUsage else none, [])
  else if invalid then settleReservation limiter reading reservation reservation.amount (some .invalidUsage)
  else if actual then
    settleReservation limiter reading reservation usage (settlementCheck limiter.buckets reservation.amount usage reservation.buckets)
  else settleReservation limiter reading reservation usage none

def adjustCheck (buckets : TokenBuckets) (delta : Int) : List TokenBucketKey → Option TokenError
  | [] => none
  | key :: rest =>
    match buckets.lookup key with
    | none => adjustCheck buckets delta rest
    | some bucket =>
      if delta > 0 ∧ (checkedNonNegativeAdd bucket.committed delta).isNone then some .accountingOverflow
      else if delta < 0 ∧ bucket.committed < -delta then some .reservationState
      else adjustCheck buckets delta rest

structure Adjusting where
  buckets : TokenBuckets
  deltas : List CommittedTokenDelta
  failed : Bool

def adjustBuckets (delta : Int) : List TokenBucketKey → Adjusting → Adjusting
  | [], adjusting => adjusting
  | key :: rest, adjusting =>
    match adjusting.buckets.lookup key with
    | none => adjustBuckets delta rest adjusting
    | some bucket =>
      match if delta = 0 then some bucket.committed else checkedSignedAdd bucket.committed delta with
      | none => { adjusting with failed := true }
      | some updated =>
        adjustBuckets delta rest {
          buckets := storeBucket adjusting.buckets key ⟨updated, bucket.active⟩
          deltas := adjusting.deltas ++ emitDelta key delta
          failed := false }

def TokenAdjustmentTicket.spend (ticket : TokenAdjustmentTicket) (failure : Option TokenError) : TokenAdjustmentTicket :=
  { ticket with consumed := true, finalErr := failure }

def adjust (limiter : TokenLimiter) (reading : Int) (ticket : TokenAdjustmentTicket) (actual : Int) :
    TokenLimiter × TokenAdjustmentTicket :=
  if ticket.consumed then (limiter, ticket)
  else if actual < 0 then (limiter, ticket.spend (some .invalidUsage))
  else if !ticket.bound || ticket.buckets.isEmpty then (limiter, ticket.spend none)
  else
    let delta := actual - ticket.reserved
    match adjustCheck limiter.buckets delta ticket.buckets with
    | some failure => (limiter, ticket.spend (some failure))
    | none =>
      let adjusted := adjustBuckets delta ticket.buckets ⟨limiter.buckets, [], false⟩
      if adjusted.failed then
        ({ limiter with buckets := adjusted.buckets }, { ticket.spend (some .accountingOverflow) with deltas := adjusted.deltas })
      else
        (TokenLimiter.cleaned { limiter with buckets := adjusted.buckets } reading,
          { ticket.spend none with deltas := adjusted.deltas, sink := true })

def invalidate (ticket : TokenAdjustmentTicket) : TokenAdjustmentTicket :=
  if ticket.consumed then ticket else { ticket.spend none with bound := false, buckets := [], reserved := 0 }

def persistedKey (persisted : CommittedTokenBucket) : TokenBucketKey := ⟨persisted.keyID, persisted.window, persisted.bucketStart⟩

def malformed (persisted : CommittedTokenBucket) : Bool :=
  decide (persisted.keyID = "") || decide (nanosecond persisted.bucketStart ≠ 0) || decide (persisted.bucketStart < 0) ||
    decide (persisted.committedTokens < 0) || decide (persisted.window.amount ≤ 0) || decide (persisted.window.duration ≤ 0) ||
    decide (fixedWindowStartChecked persisted.bucketStart persisted.window.duration ≠ some persisted.bucketStart)

def outlived (now : Int) (persisted : CommittedTokenBucket) : Bool :=
  match checkedWindowReset persisted.bucketStart persisted.window.duration with
  | none => true
  | some reset => decide (reset ≤ now)

-- The rows before a bad one stay loaded.
def loadRows (now : Int) : List CommittedTokenBucket → TokenBuckets → TokenBuckets × Bool
  | [], buckets => (buckets, true)
  | persisted :: rest, buckets =>
    if malformed persisted then (buckets, false)
    else if outlived now persisted then loadRows now rest buckets
    else if (buckets.lookup (persistedKey persisted)).isSome then (buckets, false)
    else loadRows now rest (Finmap.insert (persistedKey persisted) ⟨persisted.committedTokens, 0⟩ buckets)

def loadCommitted (limiter : TokenLimiter) (now : Int) (rows : List CommittedTokenBucket) : TokenLimiter × Option TokenError :=
  if now = zeroTime then (limiter, some .reservationState)
  else
    match loadRows now rows limiter.buckets with
    | (buckets, true) => ({ limiter with buckets := buckets, lastNow := now }, none)
    | (buckets, false) => ({ limiter with buckets := buckets }, some .reservationState)

def indebted (keyID : String) (window : TokenWindow) (key : TokenBucketKey) (bucket : TokenBucket) : Bool :=
  decide (key.keyID = keyID) && decide (key.window = window) && (decide (bucket.committed > 0) || decide (bucket.active > 0))

def allowsPolicyReplacement (limiter : TokenLimiter) (keyID : String) (oldWindows newWindows : List TokenWindow) : Bool :=
  oldWindows.all (fun window =>
    decide (window ∈ newWindows) || limiter.buckets.every (fun key bucket => !indebted keyID window key bucket))

def registerPolicy (limiter : TokenLimiter) (keyID : String) (windows : List TokenWindow) : TokenLimiter :=
  { limiter with policyWindows := Finmap.insert keyID windows.toFinset limiter.policyWindows }

end NineGateway.Token
