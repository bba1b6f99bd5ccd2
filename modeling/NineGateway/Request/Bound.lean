import NineGateway.Request.Limiter

set_option autoImplicit false

namespace NineGateway.Request

open Token (fixedWindowStart)
open Word64 (maxInt64 minInt64 floorTo)

def Within (duration index now : Int) : Prop := index * duration ≤ now ∧ now < (index + 1) * duration

instance (duration index now : Int) : Decidable (Within duration index now) :=
  inferInstanceAs (Decidable (index * duration ≤ now ∧ now < (index + 1) * duration))

-- One for an admitted Allow of the key that listed the window while the clamped
-- clock stood in the interval.
def admission (keyID : String) (window : RequestWindow) (index : Int) (limiter : RequestLimiter) (call : Call) (reply : Reply) : Nat :=
  match call, reply with
  | .allow reading owner windows, .verdict verdict =>
    if verdict.allowed = true ∧ owner = keyID ∧ window ∈ windows ∧ Within window.duration index (clampTime limiter.lastNow reading) then 1
    else 0
  | _, _ => 0

section Clock

variable {dur i now : Int}

theorem floor_index (pos : 0 < dur) (inside : Within dur i now) : floorTo dur now = i * dur := by
  obtain ⟨lower, upper⟩ := inside
  obtain ⟨divides, below, greatest⟩ := Word64.floor_to_greatest dur now pos
  have least := greatest (i * dur) (Dvd.intro_left i rfl) lower
  obtain ⟨count, same⟩ := divides
  rw [same, Int.mul_comm dur count] at least below ⊢
  have atLeast : i ≤ count := Int.le_of_mul_le_mul_right least pos
  have short : count < i + 1 := Int.lt_of_mul_lt_mul_right (Int.lt_of_le_of_lt below upper) (Int.le_of_lt pos)
  rw [show count = i by omega]

theorem window_start (pos : 0 < dur) (begun : 0 ≤ now) (upper : now ≤ maxInt64) :
    fixedWindowStart now dur = floorTo dur now ∧ 0 ≤ floorTo dur now := by
  have floored : 0 ≤ floorTo dur now :=
    (Word64.floor_to_greatest dur now pos).2.2 0 (Int.dvd_zero dur) begun
  refine ⟨Token.window_start_plain pos ?_ upper ?_, floored⟩
  · unfold minInt64
    omega
  · unfold minInt64
    omega

theorem clamp_range {lastNow read : Int} (pre : lastNow = zeroTime ∨ 0 ≤ lastNow ∧ lastNow ≤ maxInt64) (range : 0 ≤ read ∧ read ≤ maxInt64) :
    lastNow ≤ clampTime lastNow read ∧ 0 ≤ clampTime lastNow read ∧ clampTime lastNow read ≤ maxInt64 := by
  unfold zeroTime at pre
  unfold clampTime zeroTime
  split <;> omega

end Clock

-- What the limiter keeps of the admissions in one interval: until the interval
-- is over, its counter holds exactly their number.
structure Counted (key : String) (win : RequestWindow) (i : Int) (took : Nat) (lim : RequestLimiter) : Prop where
  range : lim.lastNow = zeroTime ∨ 0 ≤ lim.lastNow ∧ lim.lastNow ≤ maxInt64
  bounded : (took : Int) ≤ max win.amount 0
  begun : lim.lastNow < i * win.duration → took = 0
  counter : lim.lastNow < (i + 1) * win.duration → countFrom lim.counts ⟨key, win⟩ (i * win.duration) = took

section Steps

variable {keyID : String} {win : RequestWindow} {i : Int} {took : Nat} {lim next : RequestLimiter}

theorem count_discard {now start : Int} (counts : Counts) (key : CounterKey) (live : now < start + key.window.duration) :
    countFrom (discardExpired now counts) key start = countFrom counts key start := by
  unfold countFrom discardExpired
  rw [FiniteMap.lookup_retain]
  cases counts.lookup key with
  | none => rfl
  | some counter =>
    by_cases same : counter.start = start
    · have kept : counter.start + key.window.duration > now := by omega
      simp [Option.filter_some, kept]
    · by_cases kept : counter.start + key.window.duration > now <;> simp [Option.filter_some, kept, same]

theorem counted_cleaned (tally : Counted keyID win i took lim) {read : Int}
    (range : 0 ≤ read ∧ read ≤ maxInt64) : Counted keyID win i took (lim.cleaned read) := by
  obtain ⟨forward, inside⟩ := clamp_range tally.range range
  refine ⟨.inr inside, tally.bounded, ?_, ?_⟩
  · intro early
    exact tally.begun (Int.lt_of_le_of_lt forward early)
  intro open_
  have split : (i + 1) * win.duration = i * win.duration + win.duration := by
    rw [Int.add_mul, Int.one_mul]
  rw [← tally.counter (Int.lt_of_le_of_lt forward open_)]
  exact count_discard _ _ (split ▸ open_)

theorem counted_admitted {read : Int} {own : String} {wins : List RequestWindow} {counts : Counts}
    (tally : Counted keyID win i took (lim.cleaned read)) (range : 0 ≤ clampTime lim.lastNow read ∧ clampTime lim.lastNow read ≤ maxInt64)
    (pos : ∀ win ∈ wins, 0 < win.amount ∧ 0 < win.duration)
    (below : (∀ win ∈ wins, fixedWindowStart (clampTime lim.lastNow read) win.duration + win.duration ≠ zeroTime) →
      ∀ win ∈ wins, countFrom (lim.cleaned read).counts ⟨own, win⟩ (fixedWindowStart (clampTime lim.lastNow read) win.duration) < win.amount)
    (stored : ∀ q, counts.lookup q = if q.keyID = own ∧ q.window ∈ wins then
        some ⟨fixedWindowStart (clampTime lim.lastNow read) q.window.duration,
          countFrom (lim.cleaned read).counts q (fixedWindowStart (clampTime lim.lastNow read) q.window.duration) + 1⟩
      else (lim.cleaned read).counts.lookup q) :
    Counted keyID win i (took + admission keyID win i lim (.allow read own wins) (.verdict ⟨true, zeroTime⟩))
      { lim.cleaned read with counts := counts } := by
  have starts : ∀ alt ∈ wins, fixedWindowStart (clampTime lim.lastNow read) alt.duration =
      floorTo alt.duration (clampTime lim.lastNow read) ∧ 0 ≤ floorTo alt.duration (clampTime lim.lastNow read) :=
    fun alt mem => window_start (pos alt mem).2 range.1 range.2
  have room := below (fun alt mem => by
    have start := starts alt mem
    have width := (pos alt mem).2
    unfold zeroTime
    omega)
  by_cases shown : own = keyID ∧ win ∈ wins
  · obtain ⟨rfl, mem⟩ := shown
    obtain ⟨amt, width⟩ := pos win mem
    obtain ⟨start, floored⟩ := starts win mem
    have hit := stored ⟨own, win⟩
    rw [if_pos ⟨rfl, mem⟩] at hit
    simp only [start] at hit
    by_cases inside : Within win.duration i (clampTime lim.lastNow read)
    · -- The call falls into the interval, whose counter takes it.
      have floor := floor_index width inside
      have held := tally.counter inside.2
      have free := room win mem
      rw [start, floor, held] at free
      have one : admission own win i lim (.allow read own wins) (.verdict ⟨true, zeroTime⟩) = 1 := by
        simp [admission, mem, inside]
      rw [one]
      refine ⟨tally.range, by push_cast; omega, ?_, ?_⟩
      · intro early
        exact absurd inside.1 (Int.not_le.mpr early)
      · rw [countFrom, hit]
        simp [floor, held]
    · -- Outside the interval it replaces the counter, so the interval is over or
      -- has not begun.
      have none : admission own win i lim (.allow read own wins) (.verdict ⟨true, zeroTime⟩) = 0 := by
        simp [admission, inside]
      rw [none, Nat.add_zero]
      refine ⟨tally.range, tally.bounded, tally.begun, ?_⟩
      intro open_
      have early : clampTime lim.lastNow read < i * win.duration := by
        by_contra late
        exact inside ⟨Int.not_lt.mp late, open_⟩
      have zero := tally.begun early
      have diff : floorTo win.duration (clampTime lim.lastNow read) ≠ i * win.duration := by
        have pre := (Token.floor_to_bounds (clampTime lim.lastNow read) win.duration width).1
        omega
      rw [countFrom, hit]
      simp [diff, zero]
  · have none : admission keyID win i lim (.allow read own wins) (.verdict ⟨true, zeroTime⟩) = 0 := by
      simp only [admission, true_and, ite_eq_right_iff, Nat.one_ne_zero, imp_false]
      intro cov
      exact shown ⟨cov.1, cov.2.1⟩
    have kept : counts.lookup ⟨keyID, win⟩ = (lim.cleaned read).counts.lookup ⟨keyID, win⟩ := by
      rw [stored, if_neg (fun cov => shown ⟨cov.1.symm, cov.2⟩)]
    rw [none, Nat.add_zero]
    refine ⟨tally.range, tally.bounded, tally.begun, ?_⟩
    intro open_
    rw [countFrom, kept]
    exact tally.counter open_

theorem counted_step {call : Call} {rep : Reply} (tally : Counted keyID win i took lim) (range : 0 ≤ call.reading ∧ call.reading ≤ maxInt64)
    (ran : step lim call = some (next, rep)) : Counted keyID win i (took + admission keyID win i lim call rep) next := by
  cases call with
  | allow read own wins =>
    cases ran
    have cleaned : Counted keyID win i took (lim.cleaned read) := counted_cleaned tally range
    have out := allow_outcome lim read own wins
    generalize (allow lim read own wins).1 = after at out ⊢
    generalize (allow lim read own wins).2 = verdict at out ⊢
    cases out with
    | refused => simpa [admission] using cleaned
    | unlimited empty => simpa [admission, empty] using cleaned
    | admitted pos _ below stored =>
      exact counted_admitted cleaned (clamp_range tally.range range).2 pos below stored
  | retryAfterSeconds =>
    simp only [step] at ran
    split at ran
    · cases ran
      exact tally
    · cases ran
      obtain ⟨forward, inside⟩ := clamp_range tally.range range
      exact ⟨.inr inside, tally.bounded, fun early => tally.begun (Int.lt_of_le_of_lt forward early),
        fun open_ => tally.counter (Int.lt_of_le_of_lt forward open_)⟩
  | len =>
    cases ran
    exact counted_cleaned tally range

end Steps

theorem rejected_consumes_nothing {lim next : RequestLimiter} {read : Int} {keyID : String} {wins : List RequestWindow} {verdict : Verdict}
    (ran : step lim (.allow read keyID wins) = some (next, .verdict verdict)) (barred : verdict.allowed = false) (key : CounterKey)
    (start : Int) (live : next.lastNow < start + key.window.duration) : countFrom next.counts key start = countFrom lim.counts key start := by
  cases ran
  have out := allow_outcome lim read keyID wins
  generalize (allow lim read keyID wins).1 = after at out live ⊢
  generalize (allow lim read keyID wins).2 = verdict at out barred
  cases out with
  | refused => exact count_discard _ _ live
  | unlimited | admitted => cases barred

theorem request_window_bound {calls : List Call} {limiter : RequestLimiter} {replies : List Reply}
    (run : Transition.execute step newRequestLimiter calls = some (limiter, replies))
    (readings : ∀ call ∈ calls, 0 ≤ call.reading ∧ call.reading ≤ maxInt64) :
    (∀ keyID window index, Transition.measure step (admission keyID window index) newRequestLimiter calls ≤ window.amount.toNat) ∧
      ∀ reading keyID windows next verdict, step limiter (.allow reading keyID windows) = some (next, .verdict verdict) →
        verdict.allowed = false → ∀ key start, next.lastNow < start + key.window.duration →
          countFrom next.counts key start = countFrom limiter.counts key start := by
  refine ⟨?_, ?_⟩
  · intro keyID window index
    have along : Transition.Along step (fun _ call => 0 ≤ call.reading ∧ call.reading ≤ maxInt64) newRequestLimiter calls :=
      Transition.along_of_forall (fun _ => readings) _
    have start : Counted keyID window index 0 newRequestLimiter := ⟨.inl rfl, by simp, fun _ => rfl, fun _ => rfl⟩
    have tally := Transition.run_measured (admission keyID window index) (Counted keyID window index)
      (fun _ _ _ _ _ holds range ran => counted_step holds range ran) start along run
    have bound := tally.bounded
    omega
  · intro reading keyID windows next verdict ran barred key start live
    exact rejected_consumes_nothing ran barred key start live

def burst : List Call :=
  [.allow 1500000000 "key" [⟨2, 1000000000⟩], .allow 1700000000 "key" [⟨2, 1000000000⟩], .allow 900000000 "key" [⟨2, 1000000000⟩],
    .allow 2000000000 "key" [⟨2, 1000000000⟩]]

theorem request_window_bound_burst : Transition.measure step (admission "key" ⟨2, 1000000000⟩ 1) newRequestLimiter burst ≤ 2 ∧
      Transition.measure step (admission "key" ⟨2, 1000000000⟩ 1) newRequestLimiter burst = 2 ∧
      Transition.measure step (admission "key" ⟨2, 1000000000⟩ 2) newRequestLimiter burst = 1 :=
  ⟨(request_window_bound (Transition.execute_get (by decide)) (by decide)).1 "key" ⟨2, 1000000000⟩ 1, by decide, by decide⟩

end NineGateway.Request
