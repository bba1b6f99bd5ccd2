import NineGateway.Clock
import NineGateway.Library.FiniteMap
import NineGateway.Library.Transition

set_option autoImplicit false

namespace NineGateway.Session

structure RateLimiterOptions where
  maxTrackedIPs : Int
  maxAttempts : Int
  window : Int
  lockoutDuration : Int

structure RateLimitEntry where
  count : Int
  firstFailed : Int
  lastFailed : Int
  lockedUntil : Int
deriving DecidableEq, Repr

structure LoginRateLimiter where
  failures : FiniteMap String RateLimitEntry
  maxTrackedIPs : Int
  maxAttempts : Int
  window : Int
  lockoutDuration : Int

def defaultMaxTrackedIPs : Int := 1024
def defaultMaxFailedAttempts : Int := 5
def defaultLockoutDuration : Int := 300 * secondNanos
def defaultRateLimitWindow : Int := 300 * secondNanos

def positiveOr (value fallback : Int) : Int := if value ≤ 0 then fallback else value

def newLoginRateLimiter (options : RateLimiterOptions) : LoginRateLimiter where
  failures := ∅
  maxTrackedIPs := positiveOr options.maxTrackedIPs defaultMaxTrackedIPs
  maxAttempts := positiveOr options.maxAttempts defaultMaxFailedAttempts
  window := positiveOr options.window defaultRateLimitWindow
  lockoutDuration := positiveOr options.lockoutDuration defaultLockoutDuration

def since (now earlier : Int) : Int := max Word64.minInt64 (min Word64.maxInt64 (now - earlier))

def RateLimitEntry.expired (entry : RateLimitEntry) (window now : Int) : Bool :=
  decide (window < since now entry.firstFailed) && decide (entry.lockedUntil < now)

namespace LoginRateLimiter

def allow (limiter : LoginRateLimiter) (ip : String) (now : Int) : LoginRateLimiter × Bool :=
  if ip = "" then (limiter, true)
  else
    match limiter.failures.lookup ip with
    | none => (limiter, true)
    | some entry =>
      if now < entry.lockedUntil then (limiter, false)
      else if entry.expired limiter.window now then ({ limiter with failures := Finmap.erase ip limiter.failures }, true)
      else (limiter, true)

def full (limiter : LoginRateLimiter) : Bool := decide (limiter.maxTrackedIPs ≤ Multiset.card limiter.failures.entries)

def purgeExpiredLocked (limiter : LoginRateLimiter) (now : Int) : LoginRateLimiter :=
  { limiter with failures := limiter.failures.retain (fun _ entry => !entry.expired limiter.window now) }

def older (limiter : LoginRateLimiter) (found : Option (String × Int)) (ip : String) : Option (String × Int) :=
  match limiter.failures.lookup ip, found with
  | none, _ => found
  | some entry, none => some (ip, entry.lastFailed)
  | some entry, some (_, oldest) => if entry.lastFailed < oldest then some (ip, entry.lastFailed) else found

-- The order in which the iteration over the map comes upon its keys is an
-- argument.
def evictOldestLocked (limiter : LoginRateLimiter) (order : List String) : Option LoginRateLimiter :=
  if (order : Multiset String) = limiter.failures.entries.map Sigma.fst then
    match order.foldl limiter.older none with
    | none => some limiter
    | some (oldest, _) => some { limiter with failures := Finmap.erase oldest limiter.failures }
  else none

-- Whether a failure at the time drops the record of an address that has not
-- expired.
def evicts (limiter : LoginRateLimiter) (now : Int) : Bool := limiter.full && (limiter.purgeExpiredLocked now).full

def makeRoom (limiter : LoginRateLimiter) (now : Int) (order : List String) : Option LoginRateLimiter :=
  if limiter.full then
    if (limiter.purgeExpiredLocked now).full then (limiter.purgeExpiredLocked now).evictOldestLocked order
    else some (limiter.purgeExpiredLocked now)
  else some limiter

def failed (limiter : LoginRateLimiter) (found : Option RateLimitEntry) (now : Int) : RateLimitEntry :=
  match found with
  | none => ⟨1, now, now, zeroTime⟩
  | some entry =>
    if limiter.window < since now entry.firstFailed then ⟨1, now, now, zeroTime⟩
    else
      { entry with
        count := entry.count + 1
        lastFailed := now
        lockedUntil := if limiter.maxAttempts ≤ entry.count + 1 then now + limiter.lockoutDuration else entry.lockedUntil }

def recordFailure (limiter : LoginRateLimiter) (ip : String) (now : Int) (order : List String) : Option LoginRateLimiter :=
  if ip = "" then some limiter
  else (limiter.makeRoom now order).map (fun roomy =>
    { roomy with failures := Finmap.insert ip (roomy.failed (roomy.failures.lookup ip) now) roomy.failures })

def recordSuccess (limiter : LoginRateLimiter) (ip : String) : LoginRateLimiter :=
  if ip = "" then limiter else { limiter with failures := Finmap.erase ip limiter.failures }

end LoginRateLimiter

inductive Call where
  | allow (ip : String) (reading : Int)
  | recordFailure (ip : String) (reading : Int) (order : List String)
  | recordSuccess (ip : String)

def Call.reading : Call → Option Int
  | allow _ reading => some reading
  | recordFailure _ reading _ => some reading
  | recordSuccess _ => none

def step (limiter : LoginRateLimiter) : Call → Option (LoginRateLimiter × Bool)
  | .allow ip reading => some (limiter.allow ip reading)
  | .recordFailure ip reading order => (limiter.recordFailure ip reading order).map (fun next => (next, true))
  | .recordSuccess ip => some (limiter.recordSuccess ip, true)

-- What the calls so far amount to for one address: the first failure of its
-- counting period with the failures in it, and until when it is locked out.
structure Standing where
  period : Option (Int × Int)
  lockedOut : Option Int
deriving DecidableEq

def Standing.fail (standing : Standing) (maxAttempts window lockoutDuration now : Int) : Standing :=
  let period := match standing.period with
    | none => (now, 1)
    | some (first, count) => if window < since now first then (now, 1) else (first, count + 1)
  ⟨some period, if maxAttempts ≤ period.2 then some (now + lockoutDuration) else standing.lockedOut⟩

def Standing.note (limiter : LoginRateLimiter) (address : String) (standing : Standing) : Call → Standing
  | .allow _ _ => standing
  | .recordFailure ip reading _ =>
    if ip = address then standing.fail limiter.maxAttempts limiter.window limiter.lockoutDuration reading else standing
  | .recordSuccess ip => if ip = address then ⟨none, none⟩ else standing

def standingAfter (limiter : LoginRateLimiter) (address : String) (calls : List Call) : Standing :=
  calls.foldl (Standing.note limiter address) ⟨none, none⟩

-- A failure that neither drops the record of another address nor restarts the
-- counting of an address still locked out.
def Call.retains (limiter : LoginRateLimiter) : Call → Bool
  | .recordFailure ip reading _ => !limiter.evicts reading && (limiter.failures.lookup ip).all (fun entry =>
      decide (since reading entry.firstFailed ≤ limiter.window) || decide (entry.lockedUntil ≤ reading))
  | _ => true

structure Tracked (win now : Int) (hit : Option RateLimitEntry) (stand : Standing) : Prop where
  idle : stand.period = none → hit = none
  counted : ∀ first count, stand.period = some (first, count) →
    hit = none ∧ win < since now first ∨ ∃ entry, hit = some entry ∧ entry.firstFailed = first ∧ entry.count = count
  locked : ∀ until_, stand.lockedOut = some until_ → until_ ≤ now ∨ ∃ entry, hit = some entry ∧ until_ ≤ entry.lockedUntil

open LoginRateLimiter

open Standing

section Facts

variable {lim next : LoginRateLimiter} {now later : Int} {hit : Option RateLimitEntry} {stand : Standing}

theorem since_mono (order : now ≤ later) (past : Int) : since now past ≤ since later past := by
  unfold since
  omega

theorem tracked_later (tracked : Tracked lim.window now hit stand) (order : now ≤ later) : Tracked lim.window later hit stand := by
  refine ⟨tracked.idle, fun first count tally => ?_, fun until_ owed => ?_⟩
  · have mono := since_mono order first
    exact (tracked.counted first count tally).imp_left (fun gone => ⟨gone.1, by omega⟩)
  · exact (tracked.locked until_ owed).imp_left (fun passed => by omega)

theorem tracked_dropped {entry : RateLimitEntry} (tracked : Tracked lim.window now (some entry) stand)
    (expired : entry.expired lim.window now = true) : Tracked lim.window now none stand := by
  simp only [RateLimitEntry.expired, Bool.and_eq_true, decide_eq_true_eq] at expired
  refine ⟨fun _ => rfl, fun first count tally => ?_, fun until_ owed => ?_⟩
  · rcases tracked.counted first count tally with ⟨gone, _⟩ | ⟨_, ⟨⟩, rfl, _⟩
    · cases gone
    · exact .inl ⟨rfl, expired.1⟩
  · rcases tracked.locked until_ owed with passed | ⟨_, ⟨⟩, bound⟩
    · exact .inl passed
    · exact .inl (by omega)

theorem tracked_purged {ip : String} (tracked : Tracked lim.window now (lim.failures.lookup ip) stand) :
    Tracked lim.window now ((lim.purgeExpiredLocked now).failures.lookup ip) stand := by
  simp only [purgeExpiredLocked, FiniteMap.lookup_retain]
  cases has : lim.failures.lookup ip with
  | none => simpa [has] using tracked
  | some entry =>
    rw [has] at tracked
    cases expired : entry.expired lim.window now with
    | false => simpa [Option.filter, expired] using tracked
    | true => simpa [Option.filter, expired] using tracked_dropped tracked expired

theorem tracked_failed (tracked : Tracked lim.window now hit stand) (several : 2 ≤ lim.maxAttempts)
    (open_ : ∀ entry, hit = some entry → since now entry.firstFailed ≤ lim.window ∨ entry.lockedUntil ≤ now) :
    Tracked lim.window now (some (lim.failed hit now)) (stand.fail lim.maxAttempts lim.window lim.lockoutDuration now) := by
  obtain ⟨idle, tally, locked⟩ := tracked
  have restarted : (∀ entry, hit = some entry → entry.lockedUntil ≤ now) → lim.failed hit now = ⟨1, now, now, zeroTime⟩ →
      stand.fail lim.maxAttempts lim.window lim.lockoutDuration now = ⟨some (now, 1), stand.lockedOut⟩ →
      Tracked lim.window now (some (lim.failed hit now)) (stand.fail lim.maxAttempts lim.window lim.lockoutDuration now) := by
    intro passed entry same
    rw [entry, same]
    refine ⟨by simp, ?_, fun until_ owed => ?_⟩
    · rintro first count ⟨⟩
      exact .inr ⟨_, rfl, rfl, rfl⟩
    · rcases locked until_ owed with past | ⟨entry, has, bound⟩
      · exact .inl past
      · have := passed entry has
        exact .inl (by omega)
  have single : ¬ lim.maxAttempts ≤ 1 := by omega
  rcases period : stand.period with _ | ⟨first, count⟩
  · have gone := idle period
    refine restarted (by simp [gone]) (by simp [gone, failed]) (by simp [fail, period, single])
  rcases tally first count period with ⟨gone, late⟩ | ⟨entry, has, rfl, rfl⟩
  · exact restarted (by simp [gone]) (by simp [gone, failed]) (by simp [fail, period, late, single])
  by_cases late : lim.window < since now entry.firstFailed
  · refine restarted ?_ (by simp [has, failed, late]) (by simp [fail, period, late, single])
    intro alt same
    cases has.symm.trans same
    exact (open_ entry has).resolve_left (by omega)
  · simp only [failed, has, if_neg late, fail, period]
    refine ⟨by simp, ?_, fun until_ owed => ?_⟩
    · rintro first count ⟨⟩
      exact .inr ⟨_, rfl, rfl, rfl⟩
    split at owed
    · rename_i got
      cases owed
      exact .inr ⟨_, rfl, by simp [got]⟩
    rename_i below
    rcases locked until_ owed with passed | ⟨alt, same, bound⟩
    · exact .inl passed
    · cases has.symm.trans same
      exact .inr ⟨_, rfl, by simpa [below] using bound⟩

variable {call : Call} {rep : Bool} {address : String}

theorem room_made (order : List String) (kept : lim.evicts now = false) :
    ∃ roomy, lim.makeRoom now order = some roomy ∧ (roomy = lim ∨ roomy = lim.purgeExpiredLocked now) := by
  simp only [evicts, Bool.and_eq_false_iff] at kept
  unfold makeRoom
  by_cases crowded : lim.full = true
  · have roomy := kept.resolve_left (by simp [crowded])
    exact ⟨_, by simp [crowded, roomy], .inr rfl⟩
  · exact ⟨lim, by simp [crowded], .inl rfl⟩

theorem tracked_step (several : 2 ≤ lim.maxAttempts) (named : address ≠ "") (retained : call.retains lim = true)
    (read : ∀ reading, call.reading = some reading → reading = now) (ran : step lim call = some (next, rep))
    (tracked : Tracked lim.window now (lim.failures.lookup address) stand) : (∃ failures, next = { lim with failures := failures }) ∧
      Tracked lim.window now (next.failures.lookup address) (stand.note lim address call) := by
  cases call with
  | allow ip reading =>
    obtain rfl := read reading rfl
    simp only [step, allow] at ran
    split at ran
    · cases ran
      exact ⟨⟨_, rfl⟩, tracked⟩
    split at ran
    · cases ran
      exact ⟨⟨_, rfl⟩, tracked⟩
    rename_i entry has
    split at ran
    · cases ran
      exact ⟨⟨_, rfl⟩, tracked⟩
    split at ran
    · rename_i expired
      cases ran
      refine ⟨⟨_, rfl⟩, ?_⟩
      by_cases mine : address = ip
      · rw [mine, has] at tracked
        simpa [mine, note] using tracked_dropped tracked expired
      · simpa [mine, note] using tracked
    · cases ran
      exact ⟨⟨_, rfl⟩, tracked⟩
  | recordFailure ip reading order =>
    obtain rfl := read reading rfl
    simp only [Call.retains, Bool.and_eq_true, Bool.not_eq_true', Option.all_eq_true, Bool.or_eq_true, decide_eq_true_eq] at retained
    simp only [step, recordFailure] at ran
    split at ran
    · rename_i unnamed
      cases ran
      exact ⟨⟨_, rfl⟩, by simpa [note, unnamed, Ne.symm named] using tracked⟩
    obtain ⟨roomy, made, which⟩ := room_made order retained.1
    simp only [made, Option.map_some] at ran
    cases ran
    have cfg : ∃ failures, roomy = { lim with failures := failures } := by
      rcases which with rfl | rfl <;> exact ⟨_, rfl⟩
    have purged : Tracked lim.window reading (roomy.failures.lookup address) stand := by
      rcases which with rfl | rfl
      · exact tracked
      · exact tracked_purged tracked
    have open_ : ∀ entry, roomy.failures.lookup ip = some entry →
        since reading entry.firstFailed ≤ lim.window ∨ entry.lockedUntil ≤ reading := by
      intro entry has
      rcases which with rfl | rfl
      · exact retained.2 entry has
      · simp only [purgeExpiredLocked, FiniteMap.lookup_retain, Option.filter_eq_some_iff] at has
        exact retained.2 entry has.1
    obtain ⟨_, rfl⟩ := cfg
    refine ⟨⟨_, rfl⟩, ?_⟩
    by_cases mine : address = ip
    · subst mine
      simp only [note, if_true, FiniteMap.lookup_put]
      exact tracked_failed purged several open_
    · simpa [note, mine, Ne.symm mine] using purged
  | recordSuccess ip =>
    cases ran
    unfold recordSuccess
    split
    · rename_i unnamed
      exact ⟨⟨_, rfl⟩, by simpa [note, unnamed, Ne.symm named] using tracked⟩
    refine ⟨⟨_, rfl⟩, ?_⟩
    by_cases mine : address = ip
    · subst mine
      exact ⟨by simp [note], by simp [note], by simp [note]⟩
    · simpa [note, mine, Ne.symm mine] using tracked

end Facts

def readings (calls : List Call) : List Int := calls.filterMap Call.reading

-- Allow refuses the address at the time if the calls so far locked it out for
-- longer.
def Refused (options : RateLimiterOptions) (calls : List Call) (limiter : LoginRateLimiter) (address : String) (now : Int) : Prop :=
  ∀ until_, (standingAfter (newLoginRateLimiter options) address calls).lockedOut = some until_ → now < until_ →
    (limiter.allow address now).2 = false

theorem locked_out_refused (options : RateLimiterOptions) (calls : List Call) (limiter : LoginRateLimiter) (replies : List Bool)
    (address : String) (now : Int) (several : 2 ≤ options.maxAttempts) (named : address ≠ "")
    (ordered : (readings calls ++ [now]).Pairwise (· ≤ ·))
    (retained : Transition.Along step (fun limiter call => call.retains limiter = true) (newLoginRateLimiter options) calls)
    (run : Transition.execute step (newLoginRateLimiter options) calls = some (limiter, replies)) :
    Refused options calls limiter address now := by
  have enough : 2 ≤ (newLoginRateLimiter options).maxAttempts := by
    simp only [newLoginRateLimiter, positiveOr]
    split <;> omega
  generalize start : newLoginRateLimiter options = origin at retained run enough
  have tracked := Transition.run_traced (fun past _ st => ∀ now, (readings past ++ [now]).Pairwise (· ≤ ·) →
      (∃ failures, st = { origin with failures := failures }) ∧
        Tracked origin.window now (st.failures.lookup address) (standingAfter origin address past)) ?_ ?_ retained run now ordered
  · obtain ⟨⟨failures, rfl⟩, tracked⟩ := tracked
    intro until_ owed early
    rw [start] at owed
    rcases tracked.locked until_ owed with passed | ⟨entry, has, bound⟩
    · omega
    · simp [allow, named, has, show now < entry.lockedUntil by omega]
  · intro past _ st call next reply _ kept permitted transition now ordered
    -- A call reads the clock no earlier than the calls before it and no later than the instant asked about.
    obtain ⟨moment, read, early, sorted⟩ : ∃ moment, (∀ reading, call.reading = some reading → reading = moment) ∧ moment ≤ now ∧
        (readings past ++ [moment]).Pairwise (· ≤ ·) := by
      cases reads : call.reading with
      | none => exact ⟨now, by simp, Int.le_refl _, by simpa [readings, reads] using ordered⟩
      | some reading =>
        have sorted : ((readings past ++ [reading]) ++ [now]).Pairwise (· ≤ ·) := by simpa [readings, reads] using ordered
        obtain ⟨pre, _, bound⟩ := List.pairwise_append.mp sorted
        exact ⟨reading, by simp, bound reading (by simp) now (by simp), pre⟩
    obtain ⟨⟨failures, rfl⟩, tracked⟩ := kept moment sorted
    have several : 2 ≤ maxAttempts { origin with failures := failures } := enough
    obtain ⟨⟨after, rfl⟩, did⟩ := tracked_step several named permitted read transition tracked
    refine ⟨⟨after, rfl⟩, ?_⟩
    rw [standingAfter, List.foldl_append]
    exact tracked_later did early
  · intro now _
    refine ⟨⟨_, rfl⟩, ?_⟩
    rw [← start]
    exact ⟨fun _ => Finmap.lookup_empty _, by simp [standingAfter], by simp [standingAfter]⟩

def twoAttempts : RateLimiterOptions := ⟨2, 2, 60 * secondNanos, 300 * secondNanos⟩

def failedTwice : List Call := [.recordFailure "a" 0 [], .recordFailure "a" (30 * secondNanos) []]

theorem locked_out_refused_twice : ∃ limiter replies,
    Transition.execute step (newLoginRateLimiter twoAttempts) failedTwice = some (limiter, replies) ∧
      (standingAfter (newLoginRateLimiter twoAttempts) "a" failedTwice).lockedOut = some (330 * secondNanos) ∧
      Refused twoAttempts failedTwice limiter "a" (329 * secondNanos) :=
  ⟨_, _, Transition.execute_get (by decide +kernel), by decide +kernel,
    locked_out_refused twoAttempts failedTwice _ _ "a" (329 * secondNanos) (by decide) (by decide) (by decide +kernel) (by decide +kernel)
      (Transition.execute_get (by decide +kernel))⟩

-- The lock-out outlasts the window, and a further failure after the window
-- starts a record that is not locked.
def failedLate : List Call := failedTwice ++ [.recordFailure "a" (61 * secondNanos) []]

theorem locked_out_admitted : ¬ ∀ (limiter : LoginRateLimiter) (replies : List Bool) (now : Int),
    (readings failedLate ++ [now]).Pairwise (· ≤ ·) →
    Transition.execute step (newLoginRateLimiter twoAttempts) failedLate = some (limiter, replies) →
      Refused twoAttempts failedLate limiter "a" now := by
  intro every
  have denied := every _ _ (62 * secondNanos) (by decide +kernel) (Transition.execute_get (by decide +kernel))
  exact absurd (denied (330 * secondNanos) (by decide +kernel) (by decide)) (by decide +kernel)

end NineGateway.Session
