import NineGateway.Token.Effects

set_option autoImplicit false

namespace NineGateway.Token

def retained (bin : TokenBucket) : Option TokenBucket := if bin.active = 0 ∧ bin.committed = 0 then none else some bin

@[simp] theorem lookup_store (bins : TokenBuckets) (key q : TokenBucketKey) (bin : TokenBucket) :
    (storeBucket bins key bin).lookup q = if q = key then retained bin else bins.lookup q := by
  unfold storeBucket retained
  split <;> simp

theorem retained_value (bin : TokenBucket) : (retained bin).getD ⟨0, 0⟩ = bin := by
  unfold retained
  split
  · cases bin
    simp_all
  · rfl

theorem retained_some {bin alt : TokenBucket} (kept : retained bin = some alt) : alt = bin := by
  unfold retained at kept
  split at kept
  · simp at kept
  · simpa using kept.symm

variable {keys : List TokenBucketKey} {hold : TokenReservation} {bins : TokenBuckets} {d : Int}

theorem lookup_settle (amt settle : Int) (settling : Settling) (diff : keys.Nodup) (q : TokenBucketKey) :
    (keys.foldl (settleBucket amt settle) settling).buckets.lookup q =
      if q ∈ keys then (settling.buckets.lookup q).bind (fun bin => retained (settledBucket amt settle bin))
      else settling.buckets.lookup q := by
  refine FiniteMap.lookup_pass Settling.buckets (fun _ held => held.bind (fun bin => retained (settledBucket amt settle bin)))
    ?_ diff settling q
  intro st key q
  unfold settleBucket
  cases has : st.buckets.lookup key with
  | none =>
    by_cases same : q = key
    · subst q
      simp [has]
    · simp [same]
  | some => simp

def emissions (bins : TokenBuckets) (keys : List TokenBucketKey) (amt : Int) : List CommittedTokenDelta :=
  keys.flatMap (fun key => if (bins.lookup key).isSome then emitDelta key amt else [])

def spoils (bins : TokenBuckets) (settle : Int) (key : TokenBucketKey) : Bool :=
  (bins.lookup key).any (fun bin => (checkedNonNegativeAdd bin.committed settle).isNone)

theorem settle_pass (amt settle : Int) (distinct : keys.Nodup) (bins : TokenBuckets) (settling : Settling)
    (due : ∀ key ∈ keys, settling.buckets.lookup key = bins.lookup key) :
    (keys.foldl (settleBucket amt settle) settling).deltas = settling.deltas ++ emissions bins keys settle ∧
      (keys.foldl (settleBucket amt settle) settling).error =
        if keys.any (spoils bins settle) then some .accountingOverflow else settling.error := by
  induction keys generalizing settling with
  | nil => simp [emissions]
  | cons key rest ih =>
    obtain ⟨apart, others⟩ := List.nodup_cons.mp distinct
    have here := due key (by simp)
    have ahead : ∀ alt ∈ rest, (settleBucket amt settle settling key).buckets.lookup alt = bins.lookup alt := by
      intro alt mem
      have diff : alt ≠ key := fun same => apart (same ▸ mem)
      rw [← due alt (by simp [mem])]
      unfold settleBucket
      cases settling.buckets.lookup key with
      | none => rfl
      | some => simp [diff]
    obtain ⟨emitted, blamed⟩ := ih others (settleBucket amt settle settling key) ahead
    have split : emissions bins (key :: rest) settle =
        (if (bins.lookup key).isSome then emitDelta key settle else []) ++ emissions bins rest settle := rfl
    rw [List.foldl_cons, emitted, blamed, split, List.any_cons, spoils]
    cases has : bins.lookup key with
    | none => simp [settleBucket, here, has]
    | some bin =>
      refine ⟨by simp [settleBucket, here, has], ?_⟩
      cases rest.any (spoils bins settle) <;> simp [settleBucket, here, has]

-- The error that the checks before the mutation pass report.
def foundError (bins : TokenBuckets) (hold : TokenReservation) (usage : Int) (actual : Bool) : Option TokenError :=
  if usage < 0 then some .invalidUsage else if actual then settlementCheck bins hold.amount usage hold.buckets else none

inductive FinalizeOutcome (lim : TokenLimiter) (read : Int) (hold : TokenReservation) (usage : Int) (actual : Bool) :
    TokenLimiter → Option TokenError → List CommittedTokenDelta → Prop where
  | idle (free : hold.bound = false ∨ hold.buckets = [] ∨ hold.amount ≤ 0) :
      FinalizeOutcome lim read hold usage actual lim (foundError lim.buckets hold usage false) []
  | settled (busy : hold.buckets ≠ []) (new settle) (charge : settle = if foundError lim.buckets hold usage actual = none then usage else hold.amount)
      (stored : ∀ q, new.lookup q = if q ∈ hold.buckets then
          (lim.buckets.lookup q).bind (fun bin => retained (settledBucket hold.amount settle bin)) else lim.buckets.lookup q) :
      FinalizeOutcome lim read hold usage actual (TokenLimiter.cleaned { lim with buckets := new } read)
        (if hold.buckets.any (spoils lim.buckets settle) then some .accountingOverflow else foundError lim.buckets hold usage actual)
        (emissions lim.buckets hold.buckets settle)

theorem settle_reservation_outcome {lim : TokenLimiter} {charge usage : Int} {actual : Bool} {res : Option TokenError} (read : Int)
    (busy : hold.buckets ≠ []) (diff : hold.buckets.Nodup) (found : foundError lim.buckets hold usage actual = res)
    (same : settleAmount hold.amount charge res = if res = none then usage else hold.amount) :
    FinalizeOutcome lim read hold usage actual (settleReservation lim read hold charge res).1
      (settleReservation lim read hold charge res).2.1 (settleReservation lim read hold charge res).2.2 := by
  obtain ⟨emitted, blamed⟩ := settle_pass hold.amount (settleAmount hold.amount charge res) diff lim.buckets ⟨lim.buckets, res, []⟩ (fun _ _ => rfl)
  subst found
  simp only [settleReservation, emitted, blamed, List.nil_append]
  exact .settled busy _ _ same (lookup_settle _ _ _ diff)

theorem settle_amount_eq (amt : Int) {usage : Int} (res : Option TokenError) (nonneg : 0 ≤ usage) :
    settleAmount amt usage res = if res = none then usage else amt := by
  unfold settleAmount
  cases res with
  | none => simp [Int.not_lt.mpr nonneg]
  | some err =>
    by_cases overflow : err = .accountingOverflow
    · simp [overflow]
    · simp [overflow, Int.not_lt.mpr nonneg]

theorem finalize_outcome (lim : TokenLimiter) (read : Int) (usage : Int) (actual : Bool) (diff : hold.buckets.Nodup) :
    FinalizeOutcome lim read hold usage actual (finalize lim read hold usage actual).1
      (finalize lim read hold usage actual).2.1 (finalize lim read hold usage actual).2.2 := by
  unfold finalize
  simp only
  split
  · rename_i free
    simpa [foundError] using FinalizeOutcome.idle (by simpa [or_assoc] using free)
  rename_i bound
  have busy : hold.buckets ≠ [] := by
    intro empty
    simp [empty] at bound
  split
  · rename_i sign
    exact settle_reservation_outcome read busy diff (if_pos (by simpa using sign)) (by simp [settleAmount])
  rename_i sign
  have nonneg : 0 ≤ usage := by simpa using sign
  split
  · exact settle_reservation_outcome read busy diff (by simp_all [foundError]) (settle_amount_eq _ _ nonneg)
  · exact settle_reservation_outcome read busy diff (by simp_all [foundError]) (settle_amount_eq _ _ nonneg)

theorem adjust_check_none (clear : adjustCheck bins d keys = none) {key : TokenBucketKey} {bin : TokenBucket} (mem : key ∈ keys)
    (has : bins.lookup key = some bin) :
    (0 < d → 0 ≤ bin.committed ∧ bin.committed + d ≤ Word64.maxInt64) ∧ (d < 0 → 0 ≤ bin.committed + d) := by
  induction keys with
  | nil => simp at mem
  | cons first rest ih =>
    simp only [adjustCheck] at clear
    rcases List.mem_cons.mp mem with rfl | later
    · rw [has] at clear
      simp only at clear
      split at clear
      · simp at clear
      rename_i cap
      split at clear
      · simp at clear
      refine ⟨?_, by omega⟩
      intro growing
      cases added : checkedNonNegativeAdd bin.committed d with
      | none => simp [growing, added] at cap
      | some =>
        have spec := nonnegative_add_some added
        omega
    · cases alt : bins.lookup first with
      | none => exact ih (by simpa [alt] using clear) later
      | some =>
        rw [alt] at clear
        simp only at clear
        split at clear
        · simp at clear
        · split at clear
          · simp at clear
          · exact ih clear later

theorem adjusted_sum {committed d : Int} (growing : 0 < d → 0 ≤ committed ∧ committed + d ≤ Word64.maxInt64)
    (shrinking : d < 0 → 0 ≤ committed + d) : (if d = 0 then some committed else checkedSignedAdd committed d) = some (committed + d) := by
  split
  · rename_i same
    simp [same]
  · unfold checkedSignedAdd
    rw [if_neg (by omega), if_neg]
    unfold Word64.minInt64
    omega

def adjustedBucket (d : Int) (bin : TokenBucket) : TokenBucket := ⟨bin.committed + d, bin.active⟩

theorem adjust_buckets_moved (distinct : keys.Nodup) (clear : ∀ key bin, key ∈ keys → bins.lookup key = some bin →
      (0 < d → 0 ≤ bin.committed ∧ bin.committed + d ≤ Word64.maxInt64) ∧ (d < 0 → 0 ≤ bin.committed + d)) (adjusting : Adjusting)
    (due : ∀ key ∈ keys, adjusting.buckets.lookup key = bins.lookup key) (going : adjusting.failed = false) :
    (adjustBuckets d keys adjusting).failed = false ∧ (adjustBuckets d keys adjusting).deltas = adjusting.deltas ++ emissions bins keys d ∧
      ∀ q, (adjustBuckets d keys adjusting).buckets.lookup q =
        if q ∈ keys then (bins.lookup q).bind (fun bin => retained (adjustedBucket d bin)) else adjusting.buckets.lookup q := by
  induction keys generalizing adjusting with
  | nil => simp [adjustBuckets, going, emissions]
  | cons key rest ih =>
    obtain ⟨apart, others⟩ := List.nodup_cons.mp distinct
    have inherited := fun alt bin (mem : alt ∈ rest) => clear alt bin (List.mem_cons_of_mem key mem)
    have split : emissions bins (key :: rest) d = (if (bins.lookup key).isSome then emitDelta key d else []) ++ emissions bins rest d := rfl
    have here := due key (by simp)
    cases has : bins.lookup key with
    | none =>
      rw [has] at here
      simp only [adjustBuckets, here]
      obtain ⟨through, emitted, stored⟩ := ih others inherited adjusting (fun alt mem => due alt (by simp [mem])) going
      refine ⟨through, by simp [emitted, split, has], ?_⟩
      intro q
      rw [stored q]
      by_cases same : q = key
      · subst q
        simp [apart, here, has]
      · simp [same]
    | some bin =>
      obtain ⟨growing, shrinking⟩ := clear key bin (by simp) has
      rw [has] at here
      simp only [adjustBuckets, here, adjusted_sum growing shrinking]
      refine (ih others inherited _ ?_ rfl).imp id (fun ⟨emitted, stored⟩ => ⟨by simp [emitted, split, has], fun q => ?_⟩)
      · intro alt mem
        have diff : alt ≠ key := fun same => apart (same ▸ mem)
        simp [diff, due alt (by simp [mem])]
      rw [stored q]
      by_cases same : q = key
      · subst q
        simp [apart, has, adjustedBucket]
      · simp [same]

inductive Reconciled (lim : TokenLimiter) (read : Int) (ticket : TokenAdjustmentTicket) (actual : Int) :
    TokenLimiter → TokenAdjustmentTicket → Prop where
  | again (used : ticket.consumed = true) : Reconciled lim read ticket actual lim ticket
  | negative (unused : ticket.consumed = false) (sign : actual < 0) : Reconciled lim read ticket actual lim (ticket.spend (some .invalidUsage))
  | idle (unused : ticket.consumed = false) (nonneg : 0 ≤ actual) (free : ticket.bound = false ∨ ticket.buckets = []) :
      Reconciled lim read ticket actual lim (ticket.spend none)
  | refused (unused : ticket.consumed = false) (nonneg : 0 ≤ actual) (attached : ticket.bound = true) (err)
      (checked : adjustCheck lim.buckets (actual - ticket.reserved) ticket.buckets = some err) :
      Reconciled lim read ticket actual lim (ticket.spend (some err))
  | moved (unused : ticket.consumed = false) (nonneg : 0 ≤ actual) (attached : ticket.bound = true) (busy : ticket.buckets ≠ []) (new)
      (checked : adjustCheck lim.buckets (actual - ticket.reserved) ticket.buckets = none) (stored : ∀ q, new.lookup q =
        if q ∈ ticket.buckets then (lim.buckets.lookup q).bind (fun bin => retained (adjustedBucket (actual - ticket.reserved) bin))
        else lim.buckets.lookup q) : Reconciled lim read ticket actual (TokenLimiter.cleaned { lim with buckets := new } read)
        { ticket.spend none with deltas := emissions lim.buckets ticket.buckets (actual - ticket.reserved), sink := true }

theorem adjust_reconciled (lim : TokenLimiter) (read : Int) {ticket : TokenAdjustmentTicket} (actual : Int) (diff : ticket.buckets.Nodup) :
    Reconciled lim read ticket actual (adjust lim read ticket actual).1 (adjust lim read ticket actual).2 := by
  unfold adjust
  split
  · rename_i used
    exact .again used
  rename_i new
  have unused : ticket.consumed = false := by simpa using new
  split
  · rename_i sign
    exact .negative unused sign
  have nonneg : 0 ≤ actual := by omega
  split
  · rename_i free
    exact .idle unused nonneg (by simpa using free)
  rename_i occupied
  simp only [Bool.or_eq_true, Bool.not_eq_true', List.isEmpty_iff, not_or, Bool.not_eq_false] at occupied
  simp only
  cases checked : adjustCheck lim.buckets (actual - ticket.reserved) ticket.buckets with
  | some err => exact .refused unused nonneg occupied.1 err checked
  | none =>
    obtain ⟨through, emitted, stored⟩ := adjust_buckets_moved diff (fun key bin mem => adjust_check_none checked mem)
      ⟨lim.buckets, [], false⟩ (fun key mem => rfl) rfl
    simp only [through, emitted, List.nil_append, Bool.false_eq_true, if_false]
    exact .moved unused nonneg occupied.1 occupied.2 _ checked stored

theorem load_rows_lookup (now : Int) (rows : List CommittedTokenBucket) (bins : TokenBuckets) (q : TokenBucketKey) :
    (loadRows now rows bins).1.lookup q = bins.lookup q ∨
      bins.lookup q = none ∧ ∃ row ∈ rows, persistedKey row = q ∧ malformed row = false ∧ outlived now row = false ∧
        (loadRows now rows bins).1.lookup q = some ⟨row.committedTokens, 0⟩ := by
  induction rows generalizing bins with
  | nil => exact .inl rfl
  | cons row rest ih =>
    unfold loadRows
    split
    · exact .inl rfl
    rename_i sane
    split
    · rcases ih bins with same | ⟨gone, alt, mem, filled⟩
      · exact .inl same
      · exact .inr ⟨gone, alt, by simp [mem], filled⟩
    rename_i running
    split
    · exact .inl rfl
    rename_i gone
    rcases ih (Finmap.insert (persistedKey row) ⟨row.committedTokens, 0⟩ bins) with same | ⟨vacant, alt, mem, filled⟩
    · rw [same, FiniteMap.lookup_put]
      split
      · rename_i here
        exact .inr ⟨by rw [here]; simpa using gone, row, by simp, here.symm, by simpa using sane, by simpa using running, rfl⟩
      · exact .inl rfl
    · rw [FiniteMap.lookup_put] at vacant
      split at vacant
      · simp at vacant
      · exact .inr ⟨vacant, alt, by simp [mem], filled⟩

end NineGateway.Token
