import NineGateway.Storage.UsageAccumulator
import NineGateway.Storage.BudgetBuckets
import NineGateway.Token.System

set_option autoImplicit false

namespace NineGateway.Persistence

open Storage (UsageTable UsageBucket UsageBucketError UsageRowKey)
open Token (TokenWindow TokenLimiter TokenSystem CommittedTokenBucket TokenError)

def validWindows (windows : List TokenWindow) : Bool :=
  decide windows.Nodup && windows.all (fun window =>
    decide (0 < window.amount) && decide (0 < window.duration) && decide (window.duration % secondNanos = 0))

structure TokenPolicy where
  windows : List TokenWindow
  valid : validWindows windows = true
deriving DecidableEq

structure KeyRecord where
  id : String
  policy : TokenPolicy
deriving DecidableEq

-- The ids are the primary key of api_keys.
structure KeyTable where
  records : List KeyRecord
  distinct : (records.map KeyRecord.id).Nodup

inductive StartupError where
  | usage (failure : UsageBucketError)
  | policyMismatch
  | token (failure : TokenError)
deriving DecidableEq, Repr

def allowedWindows (records : List KeyRecord) (keyID : String) : List TokenWindow :=
  ((records.find? (fun record => record.id = keyID)).map (fun record => record.policy.windows)).getD []

def matchesWindow (seconds amount : Int) (candidate : TokenWindow) : Bool :=
  decide (candidate.duration.tdiv secondNanos = seconds) && decide (candidate.amount = amount)

-- The loop runs over a map, in any order, but no two windows of a policy match.
def matchWindow (windows : List TokenWindow) (seconds amount : Int) : Option TokenWindow := windows.find? (matchesWindow seconds amount)

def matchBucket (records : List KeyRecord) (bucket : UsageBucket) : Option CommittedTokenBucket :=
  (matchWindow (allowedWindows records bucket.apiKeyID) bucket.bucketSeconds bucket.bucketAmount).map (fun window =>
    ⟨bucket.apiKeyID, bucket.bucketStart, window, bucket.committedTokens⟩)

def matchBuckets (records : List KeyRecord) : List UsageBucket → Except StartupError (List CommittedTokenBucket)
  | [] => .ok []
  | bucket :: rest =>
    match matchBucket records bucket with
    | none => .error .policyMismatch
    | some committed => (matchBuckets records rest).map (fun later => committed :: later)

def persistedTokens (records : List KeyRecord) (table : UsageTable) (now : Int) : Except StartupError (List CommittedTokenBucket) :=
  match Storage.loadUnexpired table now with
  | .error failure => .error (.usage failure)
  | .ok persisted => matchBuckets records persisted

-- LoadCommitted has a clock reading of its own.
def startLimiter (records : List KeyRecord) (table : UsageTable) (now reading : Int) : Except StartupError TokenLimiter :=
  match persistedTokens records (Storage.deleteExpired now table) now with
  | .error failure => .error failure
  | .ok committed =>
    match Token.loadCommitted Token.newTokenLimiter reading committed with
    | (_, some failure) => .error (.token failure)
    | (limiter, none) => .ok limiter

def registerPolicies (records : List KeyRecord) (limiter : TokenLimiter) : TokenLimiter :=
  records.foldl (fun limiter record => Token.registerPolicy limiter record.id record.policy.windows) limiter

def startTokens (records : List KeyRecord) (table : UsageTable) (now reading : Int) : Except StartupError TokenSystem :=
  (startLimiter records table now reading).map (fun limiter => { limiter := registerPolicies records limiter, reservations := [], replacing := none })

section Matching

variable {rows : List KeyRecord} {table : UsageTable} {now : Int}

variable {committed : List CommittedTokenBucket} {bins : List UsageBucket} {row : CommittedTokenBucket}

theorem match_buckets_ok (matched : matchBuckets rows bins = .ok committed) : bins.map (matchBucket rows) = committed.map some := by
  induction bins generalizing committed with
  | nil =>
    cases matched
    rfl
  | cons first rest ih =>
    simp only [matchBuckets] at matched
    split at matched
    · cases matched
    rename_i row hit
    obtain ⟨_, later, rfl⟩ := Storage.map_ok matched
    simp [hit, ih later]

theorem match_buckets_complete (every : ∀ bin ∈ bins, (matchBucket rows bin).isSome = true) : (matchBuckets rows bins).isOk = true := by
  induction bins with
  | nil => rfl
  | cons first rest ih =>
    obtain ⟨_, hit⟩ := Option.isSome_iff_exists.mp (every first (by simp))
    have later := ih (fun bin mem => every bin (by simp [mem]))
    cases matched : matchBuckets rows rest with
    | error => simp [matched, Except.isOk, Except.toBool] at later
    | ok => simp [matchBuckets, hit, matched, Except.map, Except.isOk, Except.toBool]

theorem match_bucket_some {bin : UsageBucket} (matched : matchBucket rows bin = some row) :
    row.window ∈ allowedWindows rows bin.apiKeyID ∧ row.window.duration.tdiv secondNanos = bin.bucketSeconds ∧
      row.window.amount = bin.bucketAmount ∧ row.keyID = bin.apiKeyID ∧ row.bucketStart = bin.bucketStart ∧
      row.committedTokens = bin.committedTokens := by
  obtain ⟨_, hit, rfl⟩ := Option.map_eq_some_iff.mp matched
  have fits := List.find?_some hit
  simp only [matchesWindow, Bool.and_eq_true, decide_eq_true_eq] at fits
  exact ⟨List.mem_of_find?_eq_some hit, fits.1, fits.2, rfl, rfl, rfl⟩

variable (fine : persistedTokens rows table now = .ok committed)
include fine

theorem persisted_tokens_ok :
    (∀ bin ∈ table.unexpired now, bin.valid = true) ∧ (table.unexpired now).map (matchBucket rows) = committed.map some := by
  unfold persistedTokens at fine
  split at fine
  · cases fine
  rename_i saved loaded
  unfold Storage.loadUnexpired at loaded
  split at loaded
  · rename_i valid
    obtain rfl := Except.ok.inj loaded
    exact ⟨List.all_eq_true.mp valid, match_buckets_ok fine⟩
  · cases loaded

theorem committed_allowed (shown : row ∈ committed) : row.window ∈ allowedWindows rows row.keyID := by
  have mem : some row ∈ (table.unexpired now).map (matchBucket rows) := by
    rw [(persisted_tokens_ok fine).2]
    exact List.mem_map_of_mem shown
  obtain ⟨_, _, hit⟩ := List.mem_map.mp mem
  obtain ⟨win, _, _, named, _, _⟩ := match_bucket_some hit
  exact named ▸ win

theorem persisted_row {row : UsageRowKey} {amt : Int} (hit : table.rows.lookup row = some amt) (cur : row.lapsed now = false) :
    (row.bucket amt).valid = true ∧ ∃ win ∈ allowedWindows rows row.apiKeyID,
      win.duration.tdiv secondNanos = row.bucketSeconds ∧ win.amount = row.bucketAmount := by
  obtain ⟨valid, matched⟩ := persisted_tokens_ok fine
  have shown := Storage.mem_unexpired.mpr ⟨row, amt, hit, cur, rfl⟩
  have mem : matchBucket rows (row.bucket amt) ∈ committed.map some := by
    rw [← matched]
    exact List.mem_map_of_mem shown
  obtain ⟨entry, _, paired⟩ := List.mem_map.mp mem
  obtain ⟨win, seconds, cap, _, _, _⟩ := match_bucket_some paired.symm
  exact ⟨valid _ shown, entry.window, win, seconds, cap⟩

omit fine

theorem persisted_tokens_complete (valid : ∀ bin ∈ table.unexpired now, bin.valid = true)
    (matched : ∀ bin ∈ table.unexpired now, (matchBucket rows bin).isSome = true) : (persistedTokens rows table now).isOk = true := by
  have loaded : Storage.loadUnexpired table now = .ok (table.unexpired now) := by
    rw [Storage.loadUnexpired, if_pos (List.all_eq_true.mpr valid)]
  rw [persistedTokens, loaded]
  exact match_buckets_complete matched

theorem start_limiter_ok {lim : TokenLimiter} {read : Int} (begun : startLimiter rows table now read = .ok lim) :
    ∃ committed, persistedTokens rows (Storage.deleteExpired now table) now = .ok committed ∧
      Token.loadCommitted Token.newTokenLimiter read committed = (lim, none) := by
  unfold startLimiter at begun
  split at begun
  · cases begun
  rename_i committed fine
  split at begun
  · cases begun
  · rename_i loaded
    obtain rfl := Except.ok.inj begun
    exact ⟨committed, fine, loaded⟩

end Matching

section Registering

variable {rows : List KeyRecord}

variable {lim : TokenLimiter} {key : String}

theorem register_unlisted (gone : key ∉ rows.map KeyRecord.id) :
    (registerPolicies rows lim).policyWindows.lookup key = lim.policyWindows.lookup key := by
  induction rows generalizing lim with
  | nil => rfl
  | cons _ _ ih =>
    simp only [List.map_cons, List.mem_cons, not_or] at gone
    refine (ih gone.2).trans ?_
    simp [Token.registerPolicy, gone.1]

theorem register_listed (diff : (rows.map KeyRecord.id).Nodup) (mem : key ∈ rows.map KeyRecord.id) :
    (registerPolicies rows lim).policyWindows.lookup key = some (allowedWindows rows key).toFinset := by
  induction rows generalizing lim with
  | nil => cases mem
  | cons row rest ih =>
    simp only [List.map_cons, List.nodup_cons] at diff
    by_cases here : row.id = key
    · subst here
      refine (register_unlisted diff.1).trans ?_
      simp [Token.registerPolicy, allowedWindows]
    have there : key ∈ rest.map KeyRecord.id := by
      rcases List.mem_cons.mp mem with same | later
      · exact absurd same.symm here
      · exact later
    refine (ih diff.2 there).trans ?_
    simp [allowedWindows, here]

theorem register_rest (lim : TokenLimiter) :
    (registerPolicies rows lim).buckets = lim.buckets ∧ (registerPolicies rows lim).lastNow = lim.lastNow := by
  induction rows generalizing lim with
  | nil => exact ⟨rfl, rfl⟩
  | cons row _ ih => exact ih (Token.registerPolicy lim row.id row.policy.windows)

end Registering

end NineGateway.Persistence
