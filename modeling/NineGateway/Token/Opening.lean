import NineGateway.Token.Safety

set_option autoImplicit false

namespace NineGateway.Token

open Word64

theorem floor_to_unique {now dur start : Int} (pos : 0 < dur)
    (greatest : IsGreatest {multiple | dur ∣ multiple ∧ multiple ≤ now} start) : start = floorTo dur now := by
  obtain ⟨divides, pre, above⟩ := floor_to_greatest dur now pos
  exact greatest.unique ⟨⟨divides, pre⟩, fun multiple mem => above multiple mem.1 mem.2⟩

structure Roomy (now amount : Int) (window : TokenWindow) : Prop where
  width : 0 < window.duration
  capacity : amount ≤ window.amount
  opens : minInt64 ≤ floorTo window.duration now
  closes : floorTo window.duration now + window.duration ≤ maxInt64

section FirstAdmission

variable {now amt : Int} {wins : List TokenWindow}

structure Admits (bins : TokenBuckets) (now : Int) (key : String) (amt : Int) (win : TokenWindow) : Prop extends
    Roomy now amt win, Fits bins now key amt win where
  bounded : (bucketAt bins (currentKey key now win)).committed + (bucketAt bins (currentKey key now win)).active + amt ≤ maxInt64

variable {bins : TokenBuckets} {key : String} {attempt : Attempt}

theorem attempt_admits {win : TokenWindow} (pos : 0 < amt) (lower : minInt64 < now) (upper : now ≤ maxInt64) (passes : guardPasses now = true)
    (clear : attempt.rejected = false)
    (admits : Admits bins now key amt win) : ∃ next, attemptWindow bins now key amt attempt win = some next ∧ next.rejected = false := by
  have begun : fixedWindowStartChecked now win.duration = some (floorTo win.duration now) := by
    rw [window_start_eq admits.width lower upper admits.opens, passes, if_pos rfl]
  have ended := window_reset_fits admits.opens admits.width admits.closes
  obtain ⟨committed, active, room⟩ := admits.toFits
  have bounded := admits.bounded
  have under := (over_capacity_false pos).mpr ⟨committed, active, by omega, room⟩
  have held := nonnegative_add_fits active (Int.le_of_lt pos) (by omega)
  unfold currentKey at *
  simp only [attemptWindow, begun, ended, held, Option.some.injEq, exists_eq_left', clear, under, Option.getD_some]
  simp
  omega

theorem attempt_windows_admit (pos : 0 < amt) (lower : minInt64 < now) (upper : now ≤ maxInt64) (passes : guardPasses now = true)
    (clear : attempt.rejected = false) (admits : ∀ win ∈ wins, Admits bins now key amt win) :
    ∃ final, attemptWindows bins now key amt wins attempt = some final ∧ final.rejected = false := by
  induction wins generalizing attempt with
  | nil => exact ⟨attempt, rfl, clear⟩
  | cons win _ ih =>
    obtain ⟨_, tried, fine⟩ := attempt_admits pos lower upper passes clear (admits win (by simp))
    simp only [attemptWindows, tried]
    exact ih fine (fun alt mem => admits alt (by simp [mem]))

theorem attempt_windows_refused (busy : wins ≠ []) (lower : minInt64 < now) (upper : now ≤ maxInt64) (denied : guardPasses now = false)
    (roomy : ∀ win ∈ wins, Roomy now amt win) : attemptWindows bins now key amt wins attempt = none := by
  cases wins with
  | nil => exact absurd rfl busy
  | cons win =>
    have roomy := roomy win (by simp)
    simp [attemptWindows, attemptWindow, window_start_eq roomy.width lower upper roomy.opens, denied]

end FirstAdmission

variable {wins norm : List TokenWindow} {lim : TokenLimiter} {read amt : Int} {keyID : String}

theorem same_window_set_perm (order : norm.Perm wins) (diff : wins.Nodup) : sameTokenWindowSet wins.toFinset norm = true := by
  simp only [sameTokenWindowSet, List.toFinset_card_of_nodup diff, order.length_eq, decide_true, Bool.true_and, List.all_eq_true,
    decide_eq_true_eq, List.mem_toFinset]
  exact fun win mem => order.mem_iff.mp mem

theorem reserve_admits (normal : normalizeTokenWindows wins = some norm) (occupied : norm ≠ []) (cur : stalePolicy lim keyID norm = false)
    (pos : 0 < amt) (lower : minInt64 < clampTime lim.lastNow read) (upper : clampTime lim.lastNow read ≤ maxInt64)
    (passes : guardPasses (clampTime lim.lastNow read) = true)
    (admits : ∀ win ∈ wins, Admits (lim.cleaned read).buckets (clampTime lim.lastNow read) keyID amt win) :
    ∃ hold, (reserve lim read keyID wins amt).2 = .ok hold := by
  have blank : blankAttempt.rejected = false := rfl
  obtain ⟨final, tried, fine⟩ := attempt_windows_admit pos lower upper passes blank
    (fun win mem => admits win ((normalize_some normal).1.mem_iff.mp mem))
  have attempted : attemptWindows (lim.cleaned read).buckets (lim.cleaned read).lastNow keyID amt norm blankAttempt = some final := tried
  simp [reserve, Int.not_le.mpr pos, normal, List.isEmpty_eq_false_iff.mpr occupied, cur, attempted, fine]

theorem reserve_empty_admits (empty : lim.buckets = ∅)
    (pol : lim.policyWindows.lookup keyID = none ∨ lim.policyWindows.lookup keyID = some wins.toFinset) (busy : wins ≠ []) (diff : wins.Nodup)
    (pos : 0 < amt) (fits : amt ≤ maxInt64) (lower : minInt64 < clampTime lim.lastNow read) (upper : clampTime lim.lastNow read ≤ maxInt64)
    (roomy : ∀ win ∈ wins, Roomy (clampTime lim.lastNow read) amt win) : (∃ hold, (reserve lim read keyID wins amt).2 = .ok hold) ↔
      guardPasses (clampTime lim.lastNow read) = true := by
  have valid : ∀ win ∈ wins, 0 < win.amount ∧ 0 < win.duration :=
    fun win mem => ⟨Int.lt_of_lt_of_le pos (roomy win mem).capacity, (roomy win mem).width⟩
  have normal := normalize_valid diff valid
  have order : (wins.insertionSort windowOrder).Perm wins := List.perm_insertionSort _ _
  have occupied : wins.insertionSort windowOrder ≠ [] := fun none => busy (none ▸ order).symm.eq_nil
  have cur : stalePolicy lim keyID (wins.insertionSort windowOrder) = false := by
    unfold stalePolicy
    rcases pol with gone | registered
    · rw [gone]
    · rw [registered]
      simp [same_window_set_perm order diff]
  have swept : (lim.cleaned read).buckets = ∅ := by
    apply Finmap.ext_lookup
    simp [TokenLimiter.cleaned, empty]
  have sorted : ∀ win ∈ wins.insertionSort windowOrder, Roomy (clampTime lim.lastNow read) amt win :=
    fun win mem => roomy win (order.mem_iff.mp mem)
  cases passes : guardPasses (clampTime lim.lastNow read) with
  | true =>
    simp only [iff_true]
    refine reserve_admits normal occupied cur pos lower upper passes ?_
    intro win mem
    have room := (roomy win mem).capacity
    rw [swept]
    exact ⟨roomy win mem, ⟨Int.le_refl 0, Int.le_refl 0, by simpa [bucketAt] using room⟩, by simpa [bucketAt] using fits⟩
  | false =>
    have attempted : attemptWindows ∅ (lim.cleaned read).lastNow keyID amt (wins.insertionSort windowOrder) blankAttempt =
      none := attempt_windows_refused occupied lower upper passes sorted
    simp [reserve, Int.not_le.mpr pos, normal, List.isEmpty_eq_false_iff.mpr occupied, cur, swept, attempted]

theorem window_start_iff_guard_passes {now : Int} (lower : minInt64 < now) (upper : now ≤ maxInt64) :
    (∀ duration start, 0 < duration → IsGreatest {multiple | duration ∣ multiple ∧ multiple ≤ now} start → minInt64 ≤ start →
      ((fixedWindowStartChecked now duration = some start ∧ fixedWindowStart now duration = start) ↔ guardPasses now = true)) ∧
      ∀ (limiter : TokenLimiter) (reading : Int) (keyID : String) (windows : List TokenWindow) (amount : Int),
        clampTime limiter.lastNow reading = now → limiter.buckets = ∅ →
        (limiter.policyWindows.lookup keyID = none ∨ limiter.policyWindows.lookup keyID = some windows.toFinset) → windows ≠ [] →
        windows.Nodup → 0 < amount → amount ≤ maxInt64 → (∀ window ∈ windows, Roomy now amount window) →
          ((∃ reservation, (reserve limiter reading keyID windows amount).2 = .ok reservation) ↔ guardPasses now = true) := by
  refine ⟨?_, ?_⟩
  · intro duration start pos greatest fits
    obtain rfl := floor_to_unique pos greatest
    rw [window_start_eq pos lower upper fits, window_start_plain pos lower upper fits]
    cases guardPasses now <;> simp
  · rintro limiter reading keyID windows amount rfl empty pol busy diff pos fits roomy
    exact reserve_empty_admits empty pol busy diff pos fits lower upper roomy

theorem window_start_whole_second :
    (fixedWindowStartChecked 7000000000 2000000000 = some 6000000000 ∧ fixedWindowStart 7000000000 2000000000 = 6000000000) ∧
      ∃ reservation, (reserve newTokenLimiter 7000000000 "key" [⟨30, 2000000000⟩] 20).2 = .ok reservation := by
  have greatest : IsGreatest {multiple : Int | (2000000000 : Int) ∣ multiple ∧ multiple ≤ 7000000000} 6000000000 := by
    refine ⟨⟨by decide, by decide⟩, ?_⟩
    rintro multiple ⟨⟨count, rfl⟩, pre⟩
    omega
  have roomy : ∀ win ∈ [(⟨30, 2000000000⟩ : TokenWindow)], Roomy 7000000000 20 win := by
    intro win mem
    obtain rfl := List.mem_singleton.mp mem
    exact ⟨by decide, by decide, by decide, by decide⟩
  obtain ⟨starts, admits⟩ := window_start_iff_guard_passes (show minInt64 < 7000000000 by decide) (by decide)
  exact ⟨(starts _ _ (by decide) greatest (by decide)).mpr (by decide),
    (admits newTokenLimiter 7000000000 "key" [⟨30, 2000000000⟩] 20 (by decide) rfl (.inl rfl) (by decide) (by decide) (by decide) (by decide)
      roomy).mpr (by decide)⟩

-- Half a second past a whole one, the start is refused and with it the first
-- reservation of an empty limiter.
theorem window_start_refused_mid_second : (¬ ∀ now duration start, minInt64 < now → now ≤ maxInt64 → 0 < duration →
      IsGreatest {multiple | duration ∣ multiple ∧ multiple ≤ now} start → minInt64 ≤ start →
        fixedWindowStartChecked now duration = some start ∧ fixedWindowStart now duration = start) ∧
      ¬ ∀ (reading : Int) (keyID : String) (windows : List TokenWindow) (amount : Int), windows.Nodup → 0 < amount → amount ≤ maxInt64 →
        minInt64 < reading → reading ≤ maxInt64 → (∀ window ∈ windows, Roomy reading amount window) →
          ∃ reservation, (reserve newTokenLimiter reading keyID windows amount).2 = .ok reservation := by
  refine ⟨?_, ?_⟩
  · intro every
    have greatest : IsGreatest {multiple : Int | (1000000000 : Int) ∣ multiple ∧ multiple ≤ 1500000000} 1000000000 := by
      refine ⟨⟨by decide, by decide⟩, ?_⟩
      rintro multiple ⟨⟨count, rfl⟩, pre⟩
      omega
    have begun := every 1500000000 1000000000 1000000000 (by decide) (by decide) (by decide) greatest (by decide)
    exact absurd begun.1 (by decide)
  · intro every
    have roomy : ∀ window ∈ [(⟨30, 1000000000⟩ : TokenWindow)], Roomy 1500000000 20 window := by
      intro window mem
      obtain rfl := List.mem_singleton.mp mem
      exact ⟨by decide, by decide, by decide, by decide⟩
    obtain ⟨_, took⟩ := every 1500000000 "key" [⟨30, 1000000000⟩] 20 (by decide) (by decide) (by decide) (by decide) (by decide) roomy
    have denied : (reserve newTokenLimiter 1500000000 "key" [⟨30, 1000000000⟩] 20).2.toOption = none := by decide
    rw [took] at denied
    cases denied

end NineGateway.Token
