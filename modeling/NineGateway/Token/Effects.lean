import NineGateway.Token.Limiter

set_option autoImplicit false

namespace NineGateway.Token

open Word64

variable {wins : List TokenWindow} {now : Int} {key : TokenBucketKey}

theorem collect_windows_some {res drawn : List TokenWindow} (diff : res.Nodup) (good : collectWindows wins res = some drawn) :
    drawn = res ++ wins ∧ drawn.Nodup ∧ ∀ win ∈ wins, 0 < win.amount ∧ 0 < win.duration := by
  induction wins generalizing res with
  | nil =>
    simp only [collectWindows, Option.some.injEq] at good
    simp [← good, diff]
  | cons win rest ih =>
    simp only [collectWindows] at good
    split at good
    · simp at good
    split at good
    · simp at good
    rename_i valid new
    have longer : (res ++ [win]).Nodup := List.nodup_append_comm.mp (List.nodup_cons.mpr ⟨new, diff⟩)
    obtain ⟨rfl, nodup, pos⟩ := ih longer good
    refine ⟨by simp, nodup, ?_⟩
    intro alt mem
    rcases List.mem_cons.mp mem with rfl | later
    · omega
    · exact pos alt later

theorem collect_windows_valid (res : List TokenWindow) (diff : (res ++ wins).Nodup) (pos : ∀ win ∈ wins, 0 < win.amount ∧ 0 < win.duration) :
    collectWindows wins res = some (res ++ wins) := by
  induction wins generalizing res with
  | nil => simp [collectWindows]
  | cons win _ ih =>
    have valid := pos win (by simp)
    have new : win ∉ res := fun mem => (List.disjoint_of_nodup_append diff) mem (by simp)
    simp only [collectWindows, if_neg (show ¬ (win.amount ≤ 0 ∨ win.duration ≤ 0) by omega), if_neg new]
    rw [ih (res ++ [win]) (by simpa using diff) (fun alt mem => pos alt (by simp [mem]))]
    simp

theorem normalize_some {norm : List TokenWindow} (good : normalizeTokenWindows wins = some norm) :
    norm.Perm wins ∧ wins.Nodup ∧ ∀ win ∈ wins, 0 < win.amount ∧ 0 < win.duration := by
  obtain ⟨_, gathered, rfl⟩ := Option.map_eq_some_iff.mp good
  obtain ⟨rfl, nodup, pos⟩ := collect_windows_some List.nodup_nil gathered
  exact ⟨List.perm_insertionSort _ _, nodup, pos⟩

theorem normalize_valid (diff : wins.Nodup) (pos : ∀ win ∈ wins, 0 < win.amount ∧ 0 < win.duration) :
    normalizeTokenWindows wins = some (wins.insertionSort windowOrder) := by
  simp [normalizeTokenWindows, collect_windows_valid [] diff pos]

@[simp] theorem lookup_discard (now : Int) (bins : TokenBuckets) (key : TokenBucketKey) : (discardExpired now bins).lookup key =
      (bins.lookup key).filter (fun bin => !(expired now key && decide (bin.active = 0))) :=
  FiniteMap.lookup_retain _ _ _

theorem lookup_discard_live (live : expired now key = false) (bins : TokenBuckets) :
    (discardExpired now bins).lookup key = bins.lookup key := by
  rw [lookup_discard]
  cases bins.lookup key with
  | none => rfl
  | some => simp [live]

theorem lookup_discard_some {bins : TokenBuckets} {bin : TokenBucket}
    (kept : (discardExpired now bins).lookup key = some bin) : bins.lookup key = some bin := by
  rw [lookup_discard] at kept
  exact (Option.filter_eq_some_iff.mp kept).1

theorem active_discard (now : Int) (bins : TokenBuckets) (key : TokenBucketKey) :
    (bucketAt (discardExpired now bins) key).active = (bucketAt bins key).active := by
  unfold bucketAt
  rw [lookup_discard]
  cases bins.lookup key with
  | none => rfl
  | some bin =>
    rw [Option.filter_some]
    split
    · rfl
    rename_i dropped
    have idle : bin.active = 0 := by
      by_contra busy
      simp [busy] at dropped
    simp [idle]

def currentKey (keyID : String) (now : Int) (window : TokenWindow) : TokenBucketKey :=
  ⟨keyID, window, floorTo window.duration now⟩

theorem current_key_injective (key : String) (now : Int) : Function.Injective (currentKey key now) := by
  intro left right same
  exact congrArg TokenBucketKey.window same

structure Fits (bins : TokenBuckets) (now : Int) (key : String) (amt : Int) (win : TokenWindow) : Prop where
  committed : 0 ≤ (bucketAt bins (currentKey key now win)).committed
  active : 0 ≤ (bucketAt bins (currentKey key now win)).active
  room : (bucketAt bins (currentKey key now win)).committed + (bucketAt bins (currentKey key now win)).active + amt
    ≤ win.amount

-- A window that could hold the amount, and has no room for it now.
structure Exhausted (bins : TokenBuckets) (now : Int) (key : String) (amt : Int) (win : TokenWindow) : Prop where
  committed : 0 ≤ (bucketAt bins (currentKey key now win)).committed
  active : 0 ≤ (bucketAt bins (currentKey key now win)).active
  counted : (bucketAt bins (currentKey key now win)).committed + (bucketAt bins (currentKey key now win)).active ≤ maxInt64
  capacity : amt ≤ win.amount
  full : win.amount < (bucketAt bins (currentKey key now win)).committed + (bucketAt bins (currentKey key now win)).active + amt

def windowEnd (now : Int) (win : TokenWindow) : Int := floorTo win.duration now + win.duration

-- The reset time moves on to the latest end of the exhausted windows.
def Told (bins : TokenBuckets) (now : Int) (key : String) (amt : Int) (wins : List TokenWindow) (before after : Int) : Prop :=
  (after = before ∧ ∀ win ∈ wins, Exhausted bins now key amt win → before ≠ zeroTime ∧ windowEnd now win ≤ before) ∨
    ∃ last ∈ wins, Exhausted bins now key amt last ∧ after = windowEnd now last ∧ (before ≠ zeroTime → before ≤ after) ∧
      ∀ win ∈ wins, Exhausted bins now key amt win → windowEnd now win ≤ after

theorem over_capacity_false {win : TokenWindow} {amt committed active : Int} (pos : 0 < amt) :
    overCapacity win amt (checkedNonNegativeAdd committed active) = false ↔
      0 ≤ committed ∧ 0 ≤ active ∧ committed + active ≤ maxInt64 ∧ committed + active + amt ≤ win.amount := by
  unfold checkedNonNegativeAdd
  split
  · simp only [overCapacity, Bool.true_eq_false, false_iff]
    omega
  · simp only [overCapacity, Bool.or_eq_false_iff, decide_eq_false_iff_not]
    omega

theorem exhausted_iff {bins : TokenBuckets} {now amt : Int} {key : String} {win : TokenWindow} (pos : 0 < amt) :
    (overCapacity win amt (checkedNonNegativeAdd (bucketAt bins (currentKey key now win)).committed
        (bucketAt bins (currentKey key now win)).active) && decide (amt ≤ win.amount) &&
      (checkedNonNegativeAdd (bucketAt bins (currentKey key now win)).committed (bucketAt bins (currentKey key now win)).active).isSome) = true ↔
        Exhausted bins now key amt win := by
  unfold checkedNonNegativeAdd
  split
  · simp only [Option.isSome_none, Bool.and_false, Bool.false_eq_true, false_iff]
    rintro ⟨committed, active, counted, _, _⟩
    omega
  · simp only [overCapacity, Option.isSome_some, Bool.and_true, Bool.and_eq_true, Bool.or_eq_true, decide_eq_true_eq]
    constructor
    · exact fun ⟨full, capacity⟩ => ⟨by omega, by omega, by omega, capacity, by omega⟩
    · exact fun spent => ⟨.inr (by have full := spent.full; omega), spent.capacity⟩

def enteredBucket (bins : TokenBuckets) (amt : Int) (key : TokenBucketKey) : TokenBucket :=
  ⟨(bucketAt bins key).committed, (checkedNonNegativeAdd (bucketAt bins key).active amt).getD 0⟩

section Live

variable {dur start : Int}

theorem signed_add_lower {left right sum : Int} (lower : minInt64 ≤ left) (good : checkedSignedAdd left right = some sum) : minInt64 ≤ sum := by
  have exact_ := signed_add_some good
  unfold checkedSignedAdd at good
  split at good
  · simp at good
  · split at good
    · simp at good
    · omega

theorem wrap_lower (v : Int) : minInt64 ≤ wrap v := by
  unfold wrap minInt64
  omega

theorem window_start_lower (begun : fixedWindowStartChecked now dur = some start) : minInt64 ≤ start := by
  unfold fixedWindowStartChecked at begun
  split at begun
  · simp at begun
  split at begun
  · simp at begun
  · simp only at begun
    split at begun
    · simp at begun
    · exact signed_add_lower (wrap_lower _) begun

theorem current_key_live (keyID : String) {win : TokenWindow}
    (begun : fixedWindowStartChecked now win.duration = some start) : expired now ⟨keyID, win, start⟩ = false := by
  obtain ⟨pos, lower, upper, rfl⟩ := window_start_some begun
  have inside := window_start_lower begun
  have bounds := floor_to_bounds now win.duration pos
  unfold expired
  cases ended : checkedWindowReset (floorTo win.duration now) win.duration with
  | none => rfl
  | some =>
    have sum := signed_add_some ended
    rw [unixNano, wrap_fits _ inside (by omega)] at sum
    simp only [decide_eq_false_iff_not]
    omega

end Live

section Admission

variable {bins : TokenBuckets} {now : Int} {keyID : String} {amt : Int}
variable {attempt next : Attempt} {win : TokenWindow}

structure Attempted (bins : TokenBuckets) (now : Int) (keyID : String) (amt : Int) (wins : List TokenWindow) (pre post : Attempt) : Prop where
  entries : post.entries = pre.entries ++ (wins.map (currentKey keyID now)).map (fun key => (key, enteredBucket bins amt key))
  begun : ∀ win ∈ wins, fixedWindowStartChecked now win.duration = some (floorTo win.duration now)
  reset : Told bins now keyID amt wins pre.resetAt post.resetAt
  clear : post.rejected = false → pre.rejected = false ∧ ∀ win ∈ wins, Fits bins now keyID amt win ∧
    enteredBucket bins amt (currentKey keyID now win) =
      ⟨(bucketAt bins (currentKey keyID now win)).committed, (bucketAt bins (currentKey keyID now win)).active + amt⟩

theorem told_single (pos : 0 < amt) : Told bins now keyID amt [win] attempt.resetAt
    (if overCapacity win amt (checkedNonNegativeAdd (bucketAt bins (currentKey keyID now win)).committed
        (bucketAt bins (currentKey keyID now win)).active) && decide (amt ≤ win.amount) &&
      (checkedNonNegativeAdd (bucketAt bins (currentKey keyID now win)).committed (bucketAt bins (currentKey keyID now win)).active).isSome
    then laterReset attempt.resetAt (windowEnd now win) else attempt.resetAt) := by
  simp only [Told, List.mem_singleton, forall_eq, exists_eq_left]
  split
  · rename_i spent
    have exhausted := (exhausted_iff pos).mp spent
    unfold laterReset
    split
    · exact .inr ⟨exhausted, rfl, by omega, fun _ => Int.le_refl _⟩
    · exact .inl ⟨rfl, fun _ => by omega⟩
  · rename_i free
    exact .inl ⟨rfl, fun exhausted => absurd ((exhausted_iff pos).mpr exhausted) free⟩

theorem window_end_later (begun : fixedWindowStartChecked now win.duration = some (floorTo win.duration now)) : windowEnd now win ≠ zeroTime := by
  have lower := window_start_lower begun
  have pos := (window_start_some begun).1
  unfold windowEnd zeroTime
  unfold minInt64 at lower
  omega

theorem told_cons {before middle after : Int} (later : windowEnd now win ≠ zeroTime) (first : Told bins now keyID amt [win] before middle)
    (rest : Told bins now keyID amt wins middle after) : Told bins now keyID amt (win :: wins) before after := by
  simp only [Told, List.mem_singleton, forall_eq, exists_eq_left] at first
  unfold Told
  rw [List.forall_mem_cons, List.forall_mem_cons, List.exists_mem_cons_iff]
  rcases rest with ⟨rfl, under⟩ | ⟨last, mem, spent, rfl, order, under⟩
  · rcases first with ⟨rfl, here⟩ | ⟨spent, rfl, order, here⟩
    · exact .inl ⟨rfl, here, under⟩
    · exact .inr (.inl ⟨spent, rfl, order, here, fun alt mem spent => (under alt mem spent).2⟩)
  · refine .inr (.inr ⟨last, mem, spent, rfl, ?_, ?_, under⟩)
    · rcases first with ⟨rfl, here⟩ | ⟨_, rfl, before, here⟩
      · exact order
      · exact fun some => Int.le_trans (before some) (order later)
    · rcases first with ⟨rfl, here⟩ | ⟨_, rfl, before, here⟩
      · exact fun spent => Int.le_trans (here spent).2 (order (here spent).1)
      · exact fun _ => order later

theorem attempt_window_some (pos : 0 < amt) (good : attemptWindow bins now keyID amt attempt win = some next) :
    Attempted bins now keyID amt [win] attempt next := by
  unfold attemptWindow at good
  cases begun : fixedWindowStartChecked now win.duration with
  | none => simp [begun] at good
  | some =>
    have lower := window_start_lower begun
    obtain ⟨width, _, _, rfl⟩ := window_start_some begun
    have bounds := floor_to_bounds now win.duration width
    cases ended : checkedWindowReset (floorTo win.duration now) win.duration with
    | none => simp [begun, ended] at good
    | some =>
      have sum := signed_add_some ended
      rw [unixNano, wrap_fits _ lower (by omega)] at sum
      simp only [begun, ended, Option.some.injEq] at good
      subst good sum
      refine ⟨rfl, by simpa using begun, ?_, ?_⟩
      · exact told_single pos
      intro fine
      simp only [Bool.or_eq_false_iff] at fine
      obtain ⟨⟨⟨pre, room⟩, known⟩, _⟩ := fine
      obtain ⟨committed, active, _, bound⟩ := (over_capacity_false pos).mp room
      refine ⟨pre, List.forall_mem_singleton.mpr ⟨⟨committed, active, bound⟩, ?_⟩⟩
      obtain ⟨sum, added⟩ : ∃ sum, checkedNonNegativeAdd (bucketAt bins (currentKey keyID now win)).active amt = some sum :=
        Option.isSome_iff_exists.mp (by simpa [currentKey] using known)
      simp [enteredBucket, added, (nonnegative_add_some added).2.2.1]

theorem attempted_cons {middle : Attempt} (first : Attempted bins now keyID amt [win] attempt middle)
    (rest : Attempted bins now keyID amt wins middle next) : Attempted bins now keyID amt (win :: wins) attempt next := by
  refine ⟨by simp [rest.entries, first.entries], ?_, ?_, ?_⟩
  · exact List.forall_mem_cons.mpr ⟨first.begun win (by simp), rest.begun⟩
  · exact told_cons (window_end_later (first.begun win (by simp))) first.reset rest.reset
  · intro fine
    obtain ⟨unrejected, later⟩ := rest.clear fine
    obtain ⟨pre, here⟩ := first.clear unrejected
    exact ⟨pre, List.forall_mem_cons.mpr ⟨here win (by simp), later⟩⟩

theorem attempt_windows_some (pos : 0 < amt) (good : attemptWindows bins now keyID amt wins attempt = some next) :
    Attempted bins now keyID amt wins attempt next := by
  induction wins generalizing attempt with
  | nil =>
    cases good
    exact ⟨by simp, by simp, .inl ⟨rfl, by simp⟩, by simp⟩
  | cons win _ ih =>
    simp only [attemptWindows] at good
    cases first : attemptWindow bins now keyID amt attempt win with
    | none => simp [first] at good
    | some =>
      simp only [first] at good
      exact attempted_cons (attempt_window_some pos first) (ih good)

end Admission

theorem lookup_enter (bins : TokenBuckets) (keys : List TokenBucketKey) (v : TokenBucketKey → TokenBucket) (q : TokenBucketKey)
    (diff : keys.Nodup) : ((keys.map (fun key => (key, v key))).foldl (fun bins entry => Finmap.insert entry.1 entry.2 bins) bins).lookup q =
      if q ∈ keys then some (v q) else bins.lookup q := by
  rw [List.foldl_map]
  refine FiniteMap.lookup_pass id (fun key _ => some (v key)) ?_ diff bins q
  simp [id]

-- Reserve gets as far as its cleanup only past these checks.
def TokenLimiter.considers (lim : TokenLimiter) (key : String) (wins : List TokenWindow) (amt : Int) : Bool :=
  waitsForPolicy wins amt && !(normalizeTokenWindows wins).any (stalePolicy lim key)

-- A window whose start or end is no 64-bit time.
def Untold (now : Int) (win : TokenWindow) : Prop :=
  (fixedWindowStartChecked now win.duration).bind (checkedWindowReset · win.duration) = none

theorem attempt_windows_none {bins : TokenBuckets} {now amt : Int} {keyID : String} {attempt : Attempt}
    (failed : attemptWindows bins now keyID amt wins attempt = none) : ∃ win ∈ wins, Untold now win := by
  induction wins generalizing attempt with
  | nil => cases failed
  | cons win _ ih =>
    unfold attemptWindows at failed
    split at failed
    · rename_i stopped
      refine ⟨win, by simp, ?_⟩
      unfold attemptWindow at stopped
      unfold Untold
      split at stopped
      · rename_i untold
        rw [untold]
        rfl
      · rename_i told
        rw [told]
        split at stopped
        · assumption
        · cases stopped
    · obtain ⟨alt, mem, untold⟩ := ih failed
      exact ⟨alt, by simp [mem], untold⟩

-- The time a rejection carries, once every window could be told.
structure Boundary (bins : TokenBuckets) (now : Int) (key : String) (amt : Int) (wins : List TokenWindow) (reset : Int) : Prop where
  begun : ∀ win ∈ wins, fixedWindowStartChecked now win.duration = some (floorTo win.duration now)
  told : Told bins now key amt wins zeroTime reset

inductive ReserveOutcome (lim : TokenLimiter) (read : Int) (key : String) (wins : List TokenWindow) (amt : Int) :
    TokenLimiter → Except Int TokenReservation → Prop where
  | refused (idle : lim.considers key wins amt = false) : ReserveOutcome lim read key wins amt lim (.error zeroTime)
  | unlimited (pos : 0 < amt) (empty : wins = []) : ReserveOutcome lim read key wins amt lim (.ok (newTokenReservation false [] amt))
  | rejected (resetAt) (checks : lim.considers key wins amt = true)
      (told : resetAt = zeroTime ∧ (∃ win ∈ wins, Untold (clampTime lim.lastNow read) win) ∨
        Boundary (lim.cleaned read).buckets (clampTime lim.lastNow read) key amt wins resetAt) :
      ReserveOutcome lim read key wins amt (lim.cleaned read) (.error resetAt)
  | admitted (pos : 0 < amt) (keys new)
      (order : keys.Perm (wins.map (currentKey key (clampTime lim.lastNow read)))) (diff : keys.Nodup) (busy : keys ≠ [])
      (fits : ∀ win ∈ wins, Fits (lim.cleaned read).buckets (clampTime lim.lastNow read) key amt win) (inside : ∀ q, new.lookup q =
        if q ∈ keys then some ⟨(bucketAt (lim.cleaned read).buckets q).committed, (bucketAt (lim.cleaned read).buckets q).active + amt⟩
        else (lim.cleaned read).buckets.lookup q) (live : ∀ q ∈ keys, expired (clampTime lim.lastNow read) q = false)
      (checks : lim.considers key wins amt = true) (norm) (normal : normalizeTokenWindows wins = some norm)
      (shape : keys = norm.map (currentKey key (clampTime lim.lastNow read))) :
      ReserveOutcome lim read key wins amt { lim.cleaned read with buckets := new } (.ok (newTokenReservation true keys amt))

theorem reserve_outcome (lim : TokenLimiter) (read : Int) (keyID : String) (wins : List TokenWindow) (amt : Int) :
    ReserveOutcome lim read keyID wins amt (reserve lim read keyID wins amt).1 (reserve lim read keyID wins amt).2 := by
  unfold reserve
  split
  · rename_i sign
    exact .refused (by simp [TokenLimiter.considers, waitsForPolicy, Int.not_lt.mpr sign])
  have pos : 0 < amt := by omega
  cases normal : normalizeTokenWindows wins with
  | none => exact .refused (by simp [TokenLimiter.considers, waitsForPolicy, normal])
  | some norm =>
    obtain ⟨order, diff, _⟩ := normalize_some normal
    simp only
    split
    · rename_i empty
      have none : norm = [] := by simpa using empty
      subst norm
      exact .unlimited pos order.symm.eq_nil
    · rename_i occupied
      have waits : waitsForPolicy wins amt = true := by simp [waitsForPolicy, normal, occupied, pos]
      split
      · rename_i stale
        exact .refused (by simp [TokenLimiter.considers, normal, stale])
      rename_i cur
      have checks : lim.considers keyID wins amt = true := by simp [TokenLimiter.considers, normal, waits, cur]
      cases tried : attemptWindows (lim.cleaned read).buckets (lim.cleaned read).lastNow keyID amt norm blankAttempt with
      | none =>
        obtain ⟨win, mem, untold⟩ := attempt_windows_none tried
        exact .rejected zeroTime checks (.inl ⟨rfl, win, order.mem_iff.mp mem, untold⟩)
      | some attempt =>
        simp only
        obtain ⟨entries, begun, reset, fine⟩ := attempt_windows_some pos tried
        cases denied : attempt.rejected with
        | true =>
          refine .rejected attempt.resetAt checks (.inr ⟨fun win mem => begun win (order.mem_iff.mpr mem), ?_⟩)
          have told : Told (lim.cleaned read).buckets (clampTime lim.lastNow read) keyID amt norm zeroTime attempt.resetAt := reset
          simpa only [Told, order.mem_iff] using told
        | false =>
          obtain ⟨_, fitting⟩ := fine denied
          have shown : attempt.entries = (norm.map (currentKey keyID (clampTime lim.lastNow read))).map
              (fun key => (key, enteredBucket (lim.cleaned read).buckets amt key)) := entries
          have keys : attempt.entries.map Prod.fst = norm.map (currentKey keyID (clampTime lim.lastNow read)) := by
            rw [shown, List.map_map]
            exact List.map_id _
          have apart : (norm.map (currentKey keyID (clampTime lim.lastNow read))).Nodup :=
            (order.nodup_iff.mpr diff).map (current_key_injective _ _)
          rw [keys]
          refine .admitted pos _ _ (order.map _) apart (by simpa using occupied) ?_ ?_ ?_ checks norm normal rfl
          · intro win mem
            exact (fitting win (order.mem_iff.mpr mem)).1
          · intro q
            rw [shown, lookup_enter _ _ _ q apart]
            split
            · rename_i mem
              obtain ⟨win, inside, rfl⟩ := List.mem_map.mp mem
              exact congrArg some (fitting win inside).2
            · rfl
          · intro q mem
            obtain ⟨win, inside, rfl⟩ := List.mem_map.mp mem
            exact current_key_live keyID (begun win inside)

theorem reserve_keys {lim next : TokenLimiter} {read amt : Int} {keyID : String} {hold : TokenReservation}
    (out : ReserveOutcome lim read keyID wins amt next (.ok hold)) : ∃ norm, normalizeTokenWindows wins = some norm ∧
      hold = newTokenReservation (!norm.isEmpty) (norm.map (currentKey keyID (clampTime lim.lastNow read))) amt := by
  cases out with
  | unlimited _ empty => exact ⟨[], by rw [empty]; rfl, rfl⟩
  | admitted _ _ _ _ _ busy _ _ _ _ norm normal shape =>
    subst shape
    have occupied : norm.isEmpty = false := by simpa using busy
    exact ⟨norm, normal, by rw [occupied]; rfl⟩

end NineGateway.Token
