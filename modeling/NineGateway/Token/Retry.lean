import NineGateway.Token.Charges
import NineGateway.Token.Opening

set_option autoImplicit false

namespace NineGateway.Token

open Word64

variable {lim : TokenLimiter} {read now later : Int} {key : String} {wins : List TokenWindow} {amt : Int}
variable {win : TokenWindow}

theorem considers_some (checks : lim.considers key wins amt = true) :
    0 < amt ∧ ∃ norm, normalizeTokenWindows wins = some norm ∧ norm ≠ [] ∧ stalePolicy lim key norm = false := by
  unfold TokenLimiter.considers waitsForPolicy at checks
  cases normal : normalizeTokenWindows wins with
  | none => simp [normal] at checks
  | some norm =>
    simp only [normal, Option.any_some, Bool.and_eq_true, decide_eq_true_eq, Bool.not_eq_true'] at checks
    obtain ⟨⟨pos, busy⟩, cur⟩ := checks
    exact ⟨pos, norm, rfl, by simpa using busy, cur⟩

theorem reserve_useful {reset : Int} (barred : (reserve lim read key wins amt).2 = .error reset) (useful : reset ≠ zeroTime) :
    lim.considers key wins amt = true ∧ (reserve lim read key wins amt).1 = lim.cleaned read ∧
      Boundary (lim.cleaned read).buckets (clampTime lim.lastNow read) key amt wins reset := by
  have out := reserve_outcome lim read key wins amt
  rw [barred] at out
  generalize (reserve lim read key wins amt).1 = after at out ⊢
  cases out with
  | refused => exact absurd rfl useful
  | rejected _ checks told => exact ⟨checks, rfl, told.resolve_left fun untold => useful untold.1⟩

-- A bucket a later reservation would enter has not run out before.
theorem later_key_live (key : String) (pos : 0 < win.duration) (lower : minInt64 ≤ floorTo win.duration later)
    (upper : floorTo win.duration later + win.duration ≤ maxInt64) (order : now ≤ later) :
    expired now (currentKey key later win) = false := by
  have bounds := floor_to_bounds later win.duration pos
  simp only [expired, currentKey, window_reset_fits lower pos upper, decide_eq_false_iff_not]
  omega

theorem bucket_cleaned (pos : 0 < win.duration) (lower : minInt64 ≤ floorTo win.duration later)
    (upper : floorTo win.duration later + win.duration ≤ maxInt64) (order : clampTime lim.lastNow read ≤ later) :
    bucketAt ((lim.cleaned read).cleaned later).buckets (currentKey key later win) = bucketAt lim.buckets (currentKey key later win) := by
  have forward : clampTime (lim.cleaned read).lastNow later = later := if_neg (fun back => Int.not_lt.mpr order back.2)
  unfold bucketAt
  rw [TokenLimiter.cleaned, forward, lookup_discard_live (later_key_live key pos lower upper (Int.le_refl _)), TokenLimiter.cleaned,
    lookup_discard_live (later_key_live key pos lower upper order)]

theorem floor_to_mono {dur : Int} (pos : 0 < dur) (order : now ≤ later) : floorTo dur now ≤ floorTo dur later := by
  obtain ⟨divides, pre, _⟩ := floor_to_greatest dur now pos
  exact (floor_to_greatest dur later pos).2.2 _ divides (Int.le_trans pre order)

theorem window_end_ahead (begun : fixedWindowStartChecked now win.duration = some (floorTo win.duration now)) : now < windowEnd now win :=
  (floor_to_bounds _ _ (window_start_some begun).1).2

theorem window_end_passes (begun : fixedWindowStartChecked now win.duration = some (floorTo win.duration now))
    (seconds : secondNanos ∣ win.duration) : guardPasses (windowEnd now win) = true := by
  have whole := Int.dvd_trans seconds (floor_to_greatest win.duration now (window_start_some begun).1).1
  simp [guardPasses, windowEnd, Int.emod_eq_zero_of_dvd (Int.dvd_add whole seconds)]

-- What is stored for the window at a time leaves room for the amount.
def Vacant (bins : TokenBuckets) (now : Int) (key : String) (amt : Int) (win : TokenWindow) : Prop :=
  amt ≤ win.amount ∧ ∀ bin ∈ bins.lookup (currentKey key now win), 0 ≤ bin.committed ∧ 0 ≤ bin.active ∧ bin.committed + bin.active + amt ≤ win.amount

theorem vacant_iff_fits {bins : TokenBuckets} : Vacant bins now key amt win ↔ Fits bins now key amt win := by
  unfold Vacant
  cases stored : bins.lookup (currentKey key now win) with
  | none =>
    have empty : bucketAt bins (currentKey key now win) = ⟨0, 0⟩ := by rw [bucketAt, stored]; rfl
    constructor
    · rintro ⟨capacity, _⟩
      exact ⟨by rw [empty], by rw [empty], by rw [empty]; simpa using capacity⟩
    · rintro ⟨_, _, room⟩
      exact ⟨by simpa [empty] using room, by simp⟩
  | some bin =>
    have held : bucketAt bins (currentKey key now win) = bin := by rw [bucketAt, stored]; rfl
    simp only [Option.mem_some_iff, forall_eq']
    constructor
    · rintro ⟨_, committed, active, room⟩
      exact ⟨by rwa [held], by rwa [held], by rwa [held]⟩
    · rintro ⟨committed, active, room⟩
      rw [held] at committed active room
      exact ⟨by omega, committed, active, room⟩

-- The last of the exhausted windows to end, of a reservation that gets as far as them.
structure LastExhausted (lim : TokenLimiter) (now : Int) (key : String) (wins : List TokenWindow) (amt : Int) (last : TokenWindow) : Prop where
  considered : lim.considers key wins amt = true
  begun : ∀ win ∈ wins, fixedWindowStartChecked now win.duration = some (floorTo win.duration now)
  mem : last ∈ wins
  spent : Exhausted lim.buckets now key amt last
  latest : ∀ win ∈ wins, Exhausted lim.buckets now key amt win → windowEnd now win ≤ windowEnd now last

theorem exhausted_cleaned
    (begun : fixedWindowStartChecked (clampTime lim.lastNow read) win.duration = some (floorTo win.duration (clampTime lim.lastNow read))) :
    Exhausted (lim.cleaned read).buckets (clampTime lim.lastNow read) key amt win ↔
      Exhausted lim.buckets (clampTime lim.lastNow read) key amt win := by
  have same : bucketAt (lim.cleaned read).buckets (currentKey key (clampTime lim.lastNow read) win) =
      bucketAt lim.buckets (currentKey key (clampTime lim.lastNow read) win) := by
    exact congrArg (·.getD ⟨0, 0⟩) (lookup_discard_live (current_key_live key begun) _)
  constructor <;> rintro ⟨committed, active, counted, capacity, full⟩
  · rw [same] at committed active counted full
    exact ⟨committed, active, counted, capacity, full⟩
  · rw [← same] at committed active counted full
    exact ⟨committed, active, counted, capacity, full⟩

theorem reserve_untold {reset : Int} (current : ∀ win ∈ wins, windowEnd (clampTime lim.lastNow read) win ≤ maxInt64)
    (barred : (reserve lim read key wins amt).2 = .error reset) (useless : reset = zeroTime) (last : TokenWindow) :
    ¬ LastExhausted lim (clampTime lim.lastNow read) key wins amt last := by
  intro spent
  have out := reserve_outcome lim read key wins amt
  rw [barred] at out
  generalize (reserve lim read key wins amt).1 = after at out
  cases out with
  | refused idle => exact absurd spent.considered (by simp [idle])
  | rejected _ _ told =>
    rcases told with ⟨_, win, mem, untold⟩ | rejected
    · have begun := spent.begun win mem
      rw [Untold, begun, Option.bind_some, window_reset_fits (window_start_lower begun) (window_start_some begun).1 (current win mem)] at untold
      cases untold
    rcases rejected.told with ⟨_, idle⟩ | ⟨win, mem, _, ends, _⟩
    · exact (idle last spent.mem ((exhausted_cleaned (spent.begun last spent.mem)).mpr spent.spent)).1 rfl
    · exact window_end_later (rejected.begun win mem) (ends.symm.trans useless)

theorem Boundary.last_exhausted {reset : Int} (checks : lim.considers key wins amt = true)
    (rejected : Boundary (lim.cleaned read).buckets (clampTime lim.lastNow read) key amt wins reset) (useful : reset ≠ zeroTime) :
    ∃ final, LastExhausted lim (clampTime lim.lastNow read) key wins amt final ∧ reset = windowEnd (clampTime lim.lastNow read) final ∧
      ∀ last, LastExhausted lim (clampTime lim.lastNow read) key wins amt last → windowEnd (clampTime lim.lastNow read) last = reset := by
  obtain ⟨final, listed, full, ended, _, under⟩ := rejected.told.resolve_left fun idle => useful idle.1
  have cleaned : ∀ win ∈ wins, (Exhausted (lim.cleaned read).buckets (clampTime lim.lastNow read) key amt win ↔
      Exhausted lim.buckets (clampTime lim.lastNow read) key amt win) := fun win mem => exhausted_cleaned (rejected.begun win mem)
  have spent := (cleaned final listed).mp full
  refine ⟨final, ⟨checks, rejected.begun, listed, spent, fun win mem out => ended ▸ under win mem ((cleaned win mem).mpr out)⟩, ended,
    fun last other => ?_⟩
  refine Int.le_antisymm (under last other.mem ((cleaned last other.mem).mpr other.spent)) ?_
  rw [ended]
  exact other.latest final listed spent

-- The cleanup of the rejection, and that of the retry, leave the buckets the retry reads.
theorem retry_admitted_iff {reset : Int} {final : TokenWindow} (last : LastExhausted lim (clampTime lim.lastNow read) key wins amt final)
    (ended : reset = windowEnd (clampTime lim.lastNow read) final) (typed : ∀ win ∈ wins, win.amount ≤ maxInt64)
    (seconds : secondNanos ∣ final.duration) (ends : ∀ win ∈ wins, windowEnd reset win ≤ maxInt64) :
    (∃ hold, (reserve (lim.cleaned read) reset key wins amt).2 = .ok hold) ↔ ∀ win ∈ wins, Fits lim.buckets reset key amt win := by
  have order : clampTime lim.lastNow read < reset := by rw [ended]; exact window_end_ahead (last.begun final last.mem)
  have forward : clampTime (lim.cleaned read).lastNow reset = reset := if_neg (fun back => Int.not_lt.mpr (Int.le_of_lt order) back.2)
  have width : ∀ win ∈ wins, 0 < win.duration := fun win mem => (window_start_some (last.begun win mem)).1
  have opens : ∀ win ∈ wins, minInt64 ≤ floorTo win.duration reset := fun win mem =>
    Int.le_trans (window_start_lower (last.begun win mem)) (floor_to_mono (width win mem) (Int.le_of_lt order))
  have kept : ∀ win ∈ wins, bucketAt ((lim.cleaned read).cleaned reset).buckets (currentKey key reset win) =
      bucketAt lim.buckets (currentKey key reset win) := fun win mem =>
    bucket_cleaned (width win mem) (opens win mem) (ends win mem) (Int.le_of_lt order)
  have same : ∀ win ∈ wins, (Fits ((lim.cleaned read).cleaned reset).buckets reset key amt win ↔ Fits lim.buckets reset key amt win) := by
    intro win mem
    constructor <;> exact fun fits => ⟨by simpa only [kept win mem] using fits.committed,
      by simpa only [kept win mem] using fits.active, by simpa only [kept win mem] using fits.room⟩
  constructor
  · rintro ⟨_, fine⟩ win mem
    have out := reserve_outcome (lim.cleaned read) reset key wins amt
    rw [fine] at out
    generalize (reserve (lim.cleaned read) reset key wins amt).1 = next at out
    cases out with
    | unlimited _ empty => simp [empty] at mem
    | admitted _ _ _ _ _ _ fits =>
      have there := fits win mem
      rw [forward] at there
      exact (same win mem).mp there
  · intro fits
    obtain ⟨pos, norm, normal, busy, cur⟩ := considers_some last.considered
    have bounds := floor_to_bounds reset final.duration (width final last.mem)
    have start := window_start_some (last.begun final last.mem)
    have upper : floorTo final.duration reset + final.duration ≤ maxInt64 := ends final last.mem
    refine reserve_admits normal busy cur pos (by omega) (by omega)
      (by rw [forward, ended]; exact window_end_passes (last.begun final last.mem) seconds) ?_
    intro win mem
    obtain ⟨committed, active, room⟩ := fits win mem
    have cap := typed win mem
    rw [forward]
    refine ⟨⟨width win mem, by omega, opens win mem, ends win mem⟩, (same win mem).mpr (fits win mem), ?_⟩
    rw [kept win mem]
    omega

-- The reported time is the end of the last exhausted window, and it helps exactly when
-- every listed window can hold the amount and none has stored what leaves it no room
-- then.
theorem token_retry_iff_vacant (limiter : TokenLimiter) (reading : Int) (keyID : String) (windows : List TokenWindow) (amount reset : Int)
    (typed : ∀ window ∈ windows, window.amount ≤ maxInt64) (seconds : ∀ window ∈ windows, secondNanos ∣ window.duration)
    (current : ∀ window ∈ windows, windowEnd (clampTime limiter.lastNow reading) window ≤ maxInt64)
    (ends : ∀ window ∈ windows, windowEnd reset window ≤ maxInt64) (barred : (reserve limiter reading keyID windows amount).2 = .error reset) :
    ((reset ≠ zeroTime → ∃ reservation,
        (reserve (reserve limiter reading keyID windows amount).1 reset keyID windows amount).2 = .ok reservation) ∧
      ((∃ window ∈ windows, window.amount < amount) → reset = zeroTime)) ↔
      ∀ last, LastExhausted limiter (clampTime limiter.lastNow reading) keyID windows amount last →
        ∀ window ∈ windows, Vacant limiter.buckets (windowEnd (clampTime limiter.lastNow reading) last) keyID amount window := by
  by_cases useful : reset = zeroTime
  · simp [useful, reserve_untold current barred useful]
  obtain ⟨checks, cleaned, rejected⟩ := reserve_useful barred useful
  obtain ⟨final, exhausted, ended, unique⟩ := rejected.last_exhausted checks useful
  have cond : (∀ last, LastExhausted limiter (clampTime limiter.lastNow reading) keyID windows amount last →
        ∀ window ∈ windows, Vacant limiter.buckets (windowEnd (clampTime limiter.lastNow reading) last) keyID amount window) ↔
      ∀ window ∈ windows, Fits limiter.buckets reset keyID amount window := by
    constructor
    · intro vacant window mem
      rw [ended]
      exact vacant_iff_fits.mp (vacant final exhausted window mem)
    · intro fits last spent window mem
      rw [unique last spent]
      exact vacant_iff_fits.mpr (fits window mem)
  have admitted := retry_admitted_iff exhausted ended typed (seconds final exhausted.mem) ends
  rw [cond, cleaned]
  constructor
  · rintro ⟨admits, _⟩
    exact admitted.mp (admits useful)
  · intro fits
    refine ⟨fun _ => admitted.mpr fits, ?_⟩
    rintro ⟨window, mem, short⟩
    obtain ⟨committed, active, room⟩ := fits window mem
    omega

-- The first window is full until the second second, the other one has room for both.
theorem token_retry_next_window : ∃ reservation,
    (reserve (reserve (reserve newTokenLimiter 0 "key" [⟨5, 1000000000⟩, ⟨10, 2000000000⟩] 5).1 0 "key" [⟨5, 1000000000⟩, ⟨10, 2000000000⟩] 5).1
      1000000000 "key" [⟨5, 1000000000⟩, ⟨10, 2000000000⟩] 5).2 = .ok reservation := by
  refine ((token_retry_iff_vacant (reserve newTokenLimiter 0 "key" [⟨5, 1000000000⟩, ⟨10, 2000000000⟩] 5).1 0 "key"
    [⟨5, 1000000000⟩, ⟨10, 2000000000⟩] 5 1000000000 (by decide) (by decide) (by decide) (by decide) (by decide)).mpr ?_).1 (by decide)
  rintro last ⟨_, _, mem, ⟨_, _, _, _, full⟩, _⟩ window listed
  simp only [List.mem_cons, List.not_mem_nil, or_false] at mem listed
  rcases mem with rfl | rfl
  · rcases listed with rfl | rfl <;> exact ⟨by decide, by decide⟩
  · exact absurd full (by decide)

-- Six never fit into the first window, and the end of the exhausted second one
-- is reported.
theorem token_retry_never_fits : ¬ ∀ (calls : List Call) (final : TokenSystem) (replies : List Reply),
    Transition.execute step newTokenSystem calls = some (final, replies) →
    ∀ (reading : Int) (keyID : String) (windows : List TokenWindow) (amount reset : Int),
      (∀ window ∈ windows, window.amount ≤ maxInt64) → (∀ window ∈ windows, secondNanos ∣ window.duration) →
      (∀ window ∈ windows, floorTo window.duration reset + window.duration ≤ maxInt64) →
      (reserve final.limiter reading keyID windows amount).2 = .error reset →
      (reset ≠ zeroTime → ∃ reservation,
        (reserve (reserve final.limiter reading keyID windows amount).1 reset keyID windows amount).2 = .ok reservation) ∧
      ((∃ window ∈ windows, window.amount < amount) → reset = zeroTime) := by
  intro helps
  have useless := (helps [.reserve 0 "key" [⟨5, 1000000000⟩, ⟨10, 2000000000⟩] 5,
    .reserve 1000000000 "key" [⟨5, 1000000000⟩, ⟨10, 2000000000⟩] 5] _ _ (Transition.execute_get (by decide)) 1000000000 "key"
    [⟨5, 1000000000⟩, ⟨10, 2000000000⟩] 6 2000000000 (by decide) (by decide) (by decide) (by decide)).2
  exact absurd (useless (by decide)) (by decide)

end NineGateway.Token
