import NineGateway.Token.Window
import NineGateway.Library.FiniteMap
import NineGateway.Library.Transition

set_option autoImplicit false

namespace NineGateway.Request

open Token (fixedWindowStart)

-- The policy's RequestWindow and the requestWindowKey made from it.
structure RequestWindow where
  amount : Int
  duration : Int
deriving DecidableEq, Repr

structure CounterKey where
  keyID : String
  window : RequestWindow
deriving DecidableEq, Repr

structure WindowCounter where
  start : Int
  count : Int
deriving DecidableEq, Repr

abbrev Counts := FiniteMap CounterKey WindowCounter

structure RequestLimiter where
  counts : Counts
  lastNow : Int

def newRequestLimiter : RequestLimiter := { counts := ∅, lastNow := zeroTime }

def windowOrder (left right : RequestWindow) : Prop :=
  if left.duration ≠ right.duration then left.duration < right.duration else left.amount ≤ right.amount

instance (left right : RequestWindow) : Decidable (windowOrder left right) :=
  inferInstanceAs (Decidable (if left.duration ≠ right.duration then left.duration < right.duration else left.amount ≤ right.amount))

-- An invalid or repeated window empties the whole result.
def collectWindows : List RequestWindow → List RequestWindow → List RequestWindow
  | [], result => result
  | window :: rest, result =>
    if window.amount ≤ 0 ∨ window.duration ≤ 0 then []
    else if window ∈ result then []
    else collectWindows rest (result ++ [window])

def normalizeWindows (windows : List RequestWindow) : List RequestWindow := (collectWindows windows []).insertionSort windowOrder

def discardExpired (now : Int) (counts : Counts) : Counts :=
  counts.retain (fun key counter => decide (counter.start + key.window.duration > now))

def RequestLimiter.cleaned (limiter : RequestLimiter) (reading : Int) : RequestLimiter :=
  { counts := discardExpired (clampTime limiter.lastNow reading) limiter.counts
    lastNow := clampTime limiter.lastNow reading }

structure CurrentWindow where
  key : CounterKey
  start : Int
  reset : Int
  count : Int

def countFrom (counts : Counts) (key : CounterKey) (start : Int) : Int :=
  match counts.lookup key with
  | none => 0
  | some counter => if counter.start = start then counter.count else 0

def currentWindow (counts : Counts) (now : Int) (keyID : String) (window : RequestWindow) : CurrentWindow :=
  let start := fixedWindowStart now window.duration
  { key := ⟨keyID, window⟩
    start := start
    reset := start + window.duration
    count := countFrom counts ⟨keyID, window⟩ start }

def latestReset (current : List CurrentWindow) (resetAt : Int) : Int :=
  current.foldl (fun resetAt window =>
    if window.count ≥ window.key.window.amount then
      if resetAt = zeroTime ∨ window.reset > resetAt then window.reset else resetAt
    else resetAt) resetAt

def consume (counts : Counts) (window : CurrentWindow) : Counts := Finmap.insert window.key ⟨window.start, window.count + 1⟩ counts

structure Verdict where
  allowed : Bool
  resetAt : Int
deriving DecidableEq, Repr

def allow (limiter : RequestLimiter) (reading : Int) (keyID : String) (windows : List RequestWindow) : RequestLimiter × Verdict :=
  let cleaned := limiter.cleaned reading
  let normalized := normalizeWindows windows
  if normalized.length ≠ windows.length then (cleaned, ⟨false, zeroTime⟩)
  else if normalized.isEmpty then (cleaned, ⟨true, zeroTime⟩)
  else
    let current := normalized.map (currentWindow cleaned.counts cleaned.lastNow keyID)
    let resetAt := latestReset current zeroTime
    if resetAt ≠ zeroTime then (cleaned, ⟨false, resetAt⟩)
    else ({ cleaned with counts := current.foldl consume cleaned.counts }, ⟨true, zeroTime⟩)

inductive Call where
  | allow (reading : Int) (keyID : String) (windows : List RequestWindow)
  | retryAfterSeconds (reading : Int) (resetAt : Int)
  | len (reading : Int)
deriving DecidableEq, Repr

def Call.reading : Call → Int
  | allow reading _ _ => reading
  | retryAfterSeconds reading _ => reading
  | len reading => reading

inductive Reply where
  | verdict (verdict : Verdict)
  | seconds (delay : Int)
  | counted (counters : Nat)
deriving DecidableEq, Repr

-- Every method holds the limiter's lock throughout, so no call waits.
def step (limiter : RequestLimiter) : Call → Option (RequestLimiter × Reply)
  | .allow reading keyID windows =>
    some ((allow limiter reading keyID windows).1, .verdict (allow limiter reading keyID windows).2)
  | .retryAfterSeconds reading resetAt =>
    if resetAt = zeroTime then some (limiter, .seconds 0)
    else
      some ({ limiter with lastNow := clampTime limiter.lastNow reading },
        .seconds (retryAfterSecondsAt (clampTime limiter.lastNow reading) resetAt))
  | .len reading => some (limiter.cleaned reading, .counted (Multiset.card (limiter.cleaned reading).counts.entries))

theorem collect_windows_cases (wins res : List RequestWindow) (diff : res.Nodup) : collectWindows wins res = [] ∨
      collectWindows wins res = res ++ wins ∧ (res ++ wins).Nodup ∧ ∀ win ∈ wins, 0 < win.amount ∧ 0 < win.duration := by
  induction wins generalizing res with
  | nil => exact .inr ⟨by simp [collectWindows], by simpa using diff, by simp⟩
  | cons win rest ih =>
    simp only [collectWindows]
    split
    · exact .inl rfl
    split
    · exact .inl rfl
    rename_i new
    have longer : (res ++ [win]).Nodup := List.nodup_append_comm.mp (List.nodup_cons.mpr ⟨new, diff⟩)
    rcases ih (res ++ [win]) longer with empty | ⟨same, nodup, pos⟩
    · exact .inl empty
    refine .inr ⟨by simpa using same, by simpa using nodup, ?_⟩
    intro alt mem
    rcases List.mem_cons.mp mem with rfl | later
    · omega
    · exact pos alt later

theorem normalize_windows {wins : List RequestWindow} (kept : (normalizeWindows wins).length = wins.length) :
    (normalizeWindows wins).Perm wins ∧ wins.Nodup ∧ ∀ win ∈ wins, 0 < win.amount ∧ 0 < win.duration := by
  unfold normalizeWindows at kept ⊢
  rcases collect_windows_cases wins [] List.nodup_nil with empty | ⟨same, nodup, pos⟩
  · rw [empty] at kept ⊢
    obtain rfl : wins = [] := List.length_eq_zero_iff.mp kept.symm
    simp
  · rw [same] at kept ⊢
    exact ⟨by simpa using List.perm_insertionSort windowOrder wins, by simpa using nodup, pos⟩

theorem latest_reset_clear {cur : List CurrentWindow} {resetAt : Int} (later : ∀ win ∈ cur, win.reset ≠ zeroTime)
    (clear : latestReset cur resetAt = zeroTime) : resetAt = zeroTime ∧ ∀ win ∈ cur, win.count < win.key.window.amount := by
  induction cur generalizing resetAt with
  | nil => exact ⟨clear, by simp⟩
  | cons win rest ih =>
    obtain ⟨pre, others⟩ := ih (fun alt mem => later alt (by simp [mem])) clear
    have here := later win (by simp)
    by_cases full : win.count ≥ win.key.window.amount
    · simp only [full, if_true] at pre
      split at pre
      · exact absurd pre here
      · rename_i kept
        exact absurd (.inl pre) kept
    · simp only [full, if_false] at pre
      refine ⟨pre, ?_⟩
      intro alt mem
      rcases List.mem_cons.mp mem with rfl | rest
      · omega
      · exact others alt rest

inductive AllowOutcome (lim : RequestLimiter) (read : Int) (key : String) (wins : List RequestWindow) :
    RequestLimiter → Verdict → Prop where
  | refused (resetAt) : AllowOutcome lim read key wins (lim.cleaned read) ⟨false, resetAt⟩
  | unlimited (empty : wins = []) : AllowOutcome lim read key wins (lim.cleaned read) ⟨true, zeroTime⟩
  | admitted (pos : ∀ win ∈ wins, 0 < win.amount ∧ 0 < win.duration) (counts)
      (below : (∀ win ∈ wins, fixedWindowStart (clampTime lim.lastNow read) win.duration + win.duration ≠ zeroTime) →
        ∀ win ∈ wins, countFrom (lim.cleaned read).counts ⟨key, win⟩ (fixedWindowStart (clampTime lim.lastNow read) win.duration) < win.amount)
      (stored : ∀ q, counts.lookup q = if q.keyID = key ∧ q.window ∈ wins then
          some ⟨fixedWindowStart (clampTime lim.lastNow read) q.window.duration,
            countFrom (lim.cleaned read).counts q (fixedWindowStart (clampTime lim.lastNow read) q.window.duration) + 1⟩
        else (lim.cleaned read).counts.lookup q) : AllowOutcome lim read key wins { lim.cleaned read with counts := counts } ⟨true, zeroTime⟩

theorem lookup_consume (counts base : Counts) (now : Int) (key : String) {wins : List RequestWindow} (diff : wins.Nodup) (q : CounterKey) :
    ((wins.map (currentWindow base now key)).foldl consume counts).lookup q = if q.keyID = key ∧ q.window ∈ wins then
        some ⟨fixedWindowStart now q.window.duration, countFrom base q (fixedWindowStart now q.window.duration) + 1⟩ else counts.lookup q := by
  induction wins generalizing counts with
  | nil => simp
  | cons win _ ih =>
    obtain ⟨apart, others⟩ := List.nodup_cons.mp diff
    rw [List.map_cons, List.foldl_cons, ih _ others]
    obtain ⟨own, queried⟩ := q
    by_cases same : own = key
    · subst own
      by_cases first : queried = win
      · subst queried
        simp [apart, consume, currentWindow]
      · simp [first, consume, currentWindow]
    · simp [same, consume, currentWindow]

theorem allow_outcome (lim : RequestLimiter) (read : Int) (key : String) (wins : List RequestWindow) :
    AllowOutcome lim read key wins (allow lim read key wins).1 (allow lim read key wins).2 := by
  unfold allow
  simp only
  split
  · exact .refused zeroTime
  rename_i kept
  obtain ⟨order, diff, pos⟩ := normalize_windows (not_not.mp kept)
  split
  · rename_i empty
    have none : normalizeWindows wins = [] := by simpa using empty
    rw [none] at order
    exact .unlimited order.symm.eq_nil
  · split
    · exact .refused _
    rename_i clear
    refine .admitted pos _ ?_ ?_
    · intro nz win mem
      have later : ∀ cur ∈ (normalizeWindows wins).map (currentWindow (lim.cleaned read).counts
          (lim.cleaned read).lastNow key), cur.reset ≠ zeroTime := by
        intro cur shown
        obtain ⟨alt, inside, rfl⟩ := List.mem_map.mp shown
        exact nz alt (order.mem_iff.mp inside)
      have room := (latest_reset_clear later (not_not.mp clear)).2
      exact room _ (List.mem_map_of_mem (order.mem_iff.mpr mem))
    · intro q
      rw [lookup_consume _ _ _ _ (order.nodup_iff.mpr diff)]
      simp only [order.mem_iff]
      rfl

end NineGateway.Request
