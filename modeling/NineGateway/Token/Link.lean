import NineGateway.Token.Backing

set_option autoImplicit false

namespace NineGateway.Token

open TokenLimiter

def Reply.accepted (reply : Reply) : Bool :=
  match reply.answer with
  | .rejected _ => false
  | .failed _ => false
  | _ => true

def spills (system : TokenSystem) (call : Call) : Bool :=
  match step system call with
  | none => false
  | some (next, reply) =>
    overflowed reply ||
      match call with
      | .adjust index _ _ => (next.ticketAt index).any (fun ticket => decide (ticket.finalErr = some .accountingOverflow))
      | _ => false

def Call.consumes (index : Nat) : Call → Bool
  | .adjust other _ _ => decide (other = index)
  | .invalidate other => decide (other = index)
  | _ => false

inductive Carried (shift : Int) (ended : Prop) (owed : Int) : Option TokenBucket → Option TokenBucket → Prop where
  | gone (past : ended) : Carried shift ended owed none none
  | standing (bin) : Carried shift ended owed (some bin) (some ⟨bin.committed + shift, bin.active⟩)
  | emptied (bin) (idle : bin.active = 0) (zero : bin.committed + shift = 0) (free : owed = 0) : Carried shift ended owed (some bin) none

section Carrying

variable {shift owed owed' : Int} {ended : Prop} {left right : Option TokenBucket}

variable (had : Carried shift ended owed left right)
include had

theorem carried_owed {later : Prop} (onward : ended → later) (nonneg : 0 ≤ owed')
    (lowered : right = none → owed' ≤ owed) : Carried shift later owed' left right := by
  cases had with
  | gone past => exact .gone (onward past)
  | standing bin => exact .standing bin
  | emptied bin idle zero =>
    have least := lowered rfl
    exact .emptied bin idle zero (by omega)

theorem carried_value (has : left.isSome = true) : right.getD ⟨0, 0⟩ = ⟨(left.getD ⟨0, 0⟩).committed + shift, (left.getD ⟨0, 0⟩).active⟩ := by
  cases had with
  | gone => cases has
  | standing => rfl
  | emptied _ idle zero => simp [idle, zero]

variable {one two : TokenBuckets} {key : TokenBucketKey}

omit had in
theorem carried_discard {now : Int} (had : Carried shift (expired now key = true) owed (one.lookup key) (two.lookup key)) :
    Carried shift (expired now key = true) owed ((discardExpired now one).lookup key) ((discardExpired now two).lookup key) := by
  cases past : expired now key with
  | false =>
    rw [lookup_discard_live past, lookup_discard_live past]
    simpa [past] using had
  | true =>
    rw [lookup_discard, lookup_discard]
    generalize one.lookup key = left at had
    generalize two.lookup key = right at had
    cases had with
    | gone => exact .gone rfl
    | standing bin =>
      by_cases idle : bin.active = 0
      · simpa [idle, past, Option.filter_some] using Carried.gone trivial
      · simpa [idle, past, Option.filter_some] using Carried.standing bin
    | emptied _ idle => simpa [idle, past, Option.filter_some] using Carried.gone trivial

omit had in
theorem carried_enter {now amt : Int} (had : Carried shift (expired now key = true) owed (one.lookup key) (two.lookup key))
    (live : expired now key = false) :
    Carried shift (expired now key = true) owed' (some ⟨(bucketAt one key).committed, (bucketAt one key).active + amt⟩)
      (some ⟨(bucketAt two key).committed, (bucketAt two key).active + amt⟩) := by
  have has : (one.lookup key).isSome = true := by
    generalize one.lookup key = left at had
    generalize two.lookup key = right at had
    cases had with
    | gone past => simp [live] at past
    | standing | emptied => rfl
  have v := carried_value had has
  unfold bucketAt
  rw [v]
  exact .standing ⟨_, _⟩

theorem carried_pass {did : Int} {rest : Int → Int} (both : left.isSome = true → right.isSome = true)
    (solid : ∀ bin, left = some bin → 0 < bin.committed + did) (free : ∀ bin, right = some bin → bin.committed + did = 0 → owed' = 0) :
    Carried shift ended owed' (left.bind (fun bin => retained ⟨bin.committed + did, rest bin.active⟩))
      (right.bind (fun bin => retained ⟨bin.committed + did, rest bin.active⟩)) := by
  cases had with
  | gone past => exact .gone past
  | emptied => cases both rfl
  | standing bin =>
    have pos := solid bin rfl
    have kept : retained ⟨bin.committed + did, rest bin.active⟩ = some ⟨bin.committed + did, rest bin.active⟩ := by
      rw [retained, if_neg]
      simp only
      omega
    simp only [Option.bind_some, kept]
    by_cases blank : rest bin.active = 0 ∧ bin.committed + shift + did = 0
    · rw [retained, if_pos blank]
      exact .emptied _ blank.1 (by simp only; omega) (free _ rfl (by simp only; omega))
    · rw [retained, if_neg blank]
      have same : bin.committed + shift + did = bin.committed + did + shift := by omega
      rw [same]
      exact .standing ⟨bin.committed + did, rest bin.active⟩

end Carrying

-- Two runs that settled one reservation differently and have met the same calls
-- since: deferred on the left, committed at its actual usage on the right.
structure Linked (i : Nat) (hold : TokenReservation) (actual : Int) (left right : TokenSystem) : Prop where
  leftServed : Served left
  rightServed : Served right
  clock : left.limiter.lastNow = right.limiter.lastNow
  policies : left.limiter.policyWindows = right.limiter.policyWindows
  replacing : left.replacing = right.replacing
  handled : left.reservations[i]? = some (hold.close .commitDeferred none)
  twin : right.reservations = left.reservations.set i (hold.close (.commit actual) none)
  captured : ∀ key ∈ hold.buckets, Carried (actual - hold.amount) (expired left.limiter.lastNow key = true) (right.owed key)
    (left.limiter.buckets.lookup key) (right.limiter.buckets.lookup key)
  others : ∀ key, key ∉ hold.buckets → left.limiter.buckets.lookup key = right.limiter.buckets.lookup key

section Linking

variable {i : Nat} {hold : TokenReservation} {actual : Int} {left right : TokenSystem}

variable (link : Linked i hold actual left right)
include link

theorem linked_positive : 0 < hold.amount :=
  (link.leftServed.balanced.sound _ (List.mem_of_getElem? link.handled)).positive

variable {entry new : TokenReservation} {one two : TokenLimiter} {alt : Nat} {key : TokenBucketKey} {read : Int} {left' right' : TokenSystem}

theorem linked_other (apart : alt ≠ i) : right.reservations[alt]? = left.reservations[alt]? := by
  rw [link.twin, List.getElem?_set_ne (fun same => apart same.symm)]

theorem linked_set (apart : alt ≠ i) (new : TokenReservation) : (left.reservations.set alt new)[i]? = some (hold.close .commitDeferred none) ∧
      right.reservations.set alt new = (left.reservations.set alt new).set i (hold.close (.commit actual) none) := by
  rw [List.getElem?_set_ne apart, link.twin]
  exact ⟨link.handled, List.set_comm _ _ (fun same => apart same.symm)⟩

variable (lans : Served left') (rans : Served right')
include lans rans

theorem linked_still (booked : left'.reservations[i]? = some (hold.close .commitDeferred none) ∧
      right'.reservations = left'.reservations.set i (hold.close (.commit actual) none)) (due : left'.replacing = right'.replacing)
    (leftSame : left'.limiter.buckets = left.limiter.buckets) (rsame : right'.limiter.buckets = right.limiter.buckets)
    (clock : left'.limiter.lastNow = right'.limiter.lastNow) (policies : left'.limiter.policyWindows = right'.limiter.policyWindows)
    (onward : ∀ key, expired left.limiter.lastNow key = true → expired left'.limiter.lastNow key = true)
    (lowered : ∀ key, right'.owed key ≤ right.owed key) : Linked i hold actual left' right' := by
  refine ⟨lans, rans, clock, policies, due, booked.1, booked.2, ?_, ?_⟩
  · intro key cov
    rw [leftSame, rsame]
    exact carried_owed (link.captured key cov) (onward key) (system_owed_nonnegative rans.balanced.sound key) (fun _ => lowered key)
  · intro key outside
    rw [leftSame, rsame]
    exact link.others key outside

omit lans rans

theorem carried_swept (read : Int) (key : TokenBucketKey) (cov : key ∈ hold.buckets) :
    Carried (actual - hold.amount) (expired (clampTime left.limiter.lastNow read) key = true) (right.owed key)
      ((left.limiter.cleaned read).buckets.lookup key) ((right.limiter.cleaned read).buckets.lookup key) := by
  have did := carried_owed (link.captured key cov) (expired_clamp read)
    (system_owed_nonnegative link.rightServed.balanced.sound key) (fun _ => Int.le_refl _)
  simp only [cleaned]
  rw [← link.clock]
  exact carried_discard did

theorem others_swept (read : Int) (key : TokenBucketKey) (outside : key ∉ hold.buckets) :
    (left.limiter.cleaned read).buckets.lookup key = (right.limiter.cleaned read).buckets.lookup key := by
  simp only [cleaned, lookup_discard, ← link.clock, link.others key outside]

include lans rans

theorem linked_swept (lswept : left'.limiter = left.limiter.cleaned read) (rswept : right'.limiter = right.limiter.cleaned read)
    (leftKept : left'.reservations = left.reservations) (rightKept : right'.reservations = right.reservations)
    (due : left'.replacing = right'.replacing) : Linked i hold actual left' right' := by
  have owing : right'.owed = right.owed := by
    funext key
    simp only [TokenSystem.owed, rightKept]
  have clock : clampTime left.limiter.lastNow read = clampTime right.limiter.lastNow read := by rw [link.clock]
  refine ⟨lans, rans, ?_, ?_, due, leftKept ▸ link.handled, ?_, ?_, ?_⟩
  · rw [lswept, rswept]
    exact clock
  · rw [lswept, rswept]
    exact link.policies
  · rw [leftKept, rightKept]
    exact link.twin
  · rw [lswept, rswept, owing]
    exact carried_swept link read
  · rw [lswept, rswept]
    exact others_swept link read

omit lans rans

variable (apart : alt ≠ i)
include apart

theorem linked_pass {keys : List TokenBucketKey} {did read : Int} (rest : Int → Int) {one two : TokenBuckets}
    (lstored : ∀ q, one.lookup q = if q ∈ keys then
      (left.limiter.buckets.lookup q).bind (fun bin => retained ⟨bin.committed + did, rest bin.active⟩) else left.limiter.buckets.lookup q)
    (rstored : ∀ q, two.lookup q = if q ∈ keys then
      (right.limiter.buckets.lookup q).bind (fun bin => retained ⟨bin.committed + did, rest bin.active⟩) else right.limiter.buckets.lookup q)
    (ladvanced : left' = ⟨cleaned { left.limiter with buckets := one } read, left.reservations.set alt new, left.replacing⟩)
    (radvanced : right' = ⟨cleaned { right.limiter with buckets := two } read, right.reservations.set alt new, right.replacing⟩)
    (lans : Served left') (rans : Served right')
    (both : ∀ key ∈ keys, (left.limiter.buckets.lookup key).isSome = true → (right.limiter.buckets.lookup key).isSome = true)
    (leftOwed : ∀ key ∈ keys, (left.limiter.buckets.lookup key).isSome = true → left'.owed key ≤ left.owed key + did)
    (rightOwed : ∀ key ∈ keys, (right.limiter.buckets.lookup key).isSome = true → right'.owed key ≤ right.owed key + did)
    (rightAbsent : ∀ key, right.limiter.buckets.lookup key = none → right'.owed key ≤ right.owed key) :
    Linked i hold actual left' right' := by
  have clock : clampTime left.limiter.lastNow read = clampTime right.limiter.lastNow read := by rw [link.clock]
  obtain ⟨dealt, twin⟩ := linked_set link apart new
  have pos := linked_positive link
  have nonneg := system_owed_nonnegative rans.balanced.sound
  subst ladvanced radvanced
  refine ⟨lans, rans, clock, link.policies, link.replacing, dealt, twin, ?_, ?_⟩
  · intro key cov
    have pre := carried_owed (link.captured key cov) (expired_clamp read) (system_owed_nonnegative
      link.rightServed.balanced.sound key) (fun _ => Int.le_refl _)
    simp only [cleaned, ← clock]
    refine carried_discard ?_
    rw [lstored key, rstored key]
    by_cases mem : key ∈ keys
    · simp only [mem, if_true]
      refine carried_pass pre (both key mem) ?_ ?_
      · intro bin there
        have owing := leftOwed key mem (by simp [there])
        have backing := (link.leftServed.backed key).1 bin there
        have still := owed_le_total lans.balanced.sound dealt key
        rw [owed_close, if_pos ⟨rfl, cov⟩] at still
        omega
      · intro bin there zero
        have owing := rightOwed key mem (by simp [there])
        have backing := (link.rightServed.backed key).1 bin there
        exact Int.le_antisymm (Int.le_trans owing (by omega)) (nonneg key)
    · simp only [mem, if_false]
      exact carried_owed pre id (nonneg key) (fun gone => rightAbsent key gone)
  · intro key outside
    simp only [cleaned, lookup_discard, ← clock, lstored key, rstored key, link.others key outside]

theorem linked_ticket (lans : Served { left with reservations := left.reservations.set alt new })
    (rans : Served { right with reservations := right.reservations.set alt new })
    (lowered : ∀ key, ({ right with reservations := right.reservations.set alt new } : TokenSystem).owed key ≤ right.owed key) :
    Linked i hold actual { left with reservations := left.reservations.set alt new }
      { right with reservations := right.reservations.set alt new } :=
  linked_still link lans rans (linked_set link apart new) link.replacing rfl rfl link.clock link.policies (fun _ => id) lowered

theorem linked_charge (has : left.reservations[alt]? = some entry) (new : entry.finalized = false) {term : Terminal} {closed : TokenReservation}
    (closes : closed = entry.close term (verdictOn (term.usage entry.amount))) {leftDeltas rightDeltas : List CommittedTokenDelta}
    (lout : ChargeOutcome left.limiter read entry (chargeFor entry.amount (term.usage entry.amount)) one leftDeltas)
    (rout : ChargeOutcome right.limiter read entry (chargeFor entry.amount (term.usage entry.amount)) two rightDeltas)
    (lans : Served ⟨one, left.reservations.set alt closed, left.replacing⟩)
    (rans : Served ⟨two, right.reservations.set alt closed, right.replacing⟩) :
    Linked i hold actual ⟨one, left.reservations.set alt closed, left.replacing⟩ ⟨two, right.reservations.set alt closed, right.replacing⟩ ∧
      leftDeltas = rightDeltas := by
  subst closes
  have rhas := (linked_other link apart).trans has
  have leftFound := fun key (cov : key ∈ entry.buckets) =>
    held_bucket_present link.leftServed.balanced (List.mem_of_getElem? has) new cov
  have rightFound := fun key (cov : key ∈ entry.buckets) =>
    held_bucket_present link.rightServed.balanced (List.mem_of_getElem? rhas) new cov
  have ok := link.leftServed.balanced.sound entry (List.mem_of_getElem? has)
  have leftChange := owed_change link.leftServed (.charged alt read term entry has new one leftDeltas lout)
  have rightChange := owed_change link.rightServed (.charged alt read term entry rhas new two rightDeltas rout)
  have leftQuiet := undelivered_charge ok new has one term (verdictOn (term.usage entry.amount))
  have rightQuiet := undelivered_charge ok new rhas two term (verdictOn (term.usage entry.amount))
  cases lout with
  | idle empty =>
    cases rout with
    | charged busy => exact absurd empty busy
    | idle =>
      refine ⟨linked_ticket link apart lans rans ?_, rfl⟩
      intro key
      have owing := owed_set rhas right.limiter (entry.close term (verdictOn (term.usage entry.amount))) key
      have pre := owed_nonnegative ok key
      rw [owed_close, empty] at owing
      simp only [List.not_mem_nil, and_false, if_false] at owing
      omega
  | charged _ _ lstored =>
    cases rout with
    | idle empty => exact absurd empty (by assumption)
    | charged _ _ rstored =>
      refine ⟨linked_pass link apart (fun active => active - entry.amount) lstored rstored rfl rfl lans rans ?_ ?_ ?_ ?_, ?_⟩
      · intro key cov _
        obtain ⟨_, hit, _⟩ := rightFound key cov
        simp [hit]
      · intro key cov there
        have change := (leftChange key).1 there
        rw [leftQuiet key, flow_emissions ok.distinct, if_pos ⟨cov, there⟩] at change
        simpa using change
      · intro key cov there
        have change := (rightChange key).1 there
        rw [rightQuiet key, flow_emissions ok.distinct, if_pos ⟨cov, there⟩] at change
        simpa using change
      · intro key missing
        exact (rightChange key).2 missing
      · refine emissions_congr ?_
        intro key cov
        obtain ⟨_, leftThere, _⟩ := leftFound key cov
        obtain ⟨_, rightThere, _⟩ := rightFound key cov
        simp [leftThere, rightThere]

theorem linked_ticket_buckets {ticket : TokenAdjustmentTicket} (has : left.reservations[alt]? = some entry)
    (issued : entry.ticket = some ticket) (unused : ticket.consumed = false) (mem : key ∈ ticket.buckets) :
    (left.limiter.buckets.lookup key).isSome = (right.limiter.buckets.lookup key).isSome := by
  by_cases cov : key ∈ hold.buckets
  · have rhas := (linked_other link apart).trans has
    have ok := link.rightServed.balanced.sound entry (List.mem_of_getElem? rhas)
    have part := owed_le_total link.rightServed.balanced.sound rhas key
    have reserved := (ok.ticketIssued ticket issued unused).2
    have pos := ok.positive
    rw [owed_issued issued] at part
    simp only [TokenAdjustmentTicket.owed, unused, mem, and_self, if_true] at part
    have had := link.captured key cov
    generalize left.limiter.buckets.lookup key = one at had
    generalize right.limiter.buckets.lookup key = two at had
    cases had with
    | gone | standing => rfl
    | emptied => omega
  · rw [link.others key cov]

theorem linked_adjust {ticket used spent : TokenAdjustmentTicket} (has : left.reservations[alt]? = some entry)
    (issued : entry.ticket = some ticket) {read usage : Int} (lout : Reconciled left.limiter read ticket usage one used)
    (rout : Reconciled right.limiter read ticket usage two spent) (lfits : used.finalErr ≠ some .accountingOverflow)
    (rfits : spent.finalErr ≠ some .accountingOverflow) (lans : Served ⟨one, left.reservations.set alt (entry.withTicket used), left.replacing⟩)
    (rans : Served ⟨two, right.reservations.set alt (entry.withTicket spent), right.replacing⟩) :
    Linked i hold actual ⟨one, left.reservations.set alt (entry.withTicket used), left.replacing⟩
      ⟨two, right.reservations.set alt (entry.withTicket spent), right.replacing⟩ := by
  have rhas := (linked_other link apart).trans has
  have ok := link.leftServed.balanced.sound entry (List.mem_of_getElem? has)
  have lowered : ∀ (st : TokenSystem) (lim : TokenLimiter) (new : TokenAdjustmentTicket) (key : TokenBucketKey),
      st.reservations[alt]? = some entry → new.consumed = true →
      TokenSystem.owed ⟨lim, st.reservations.set alt (entry.withTicket new), st.replacing⟩ key + ticket.owed key = st.owed key := by
    intro st lim new key there consumed
    have owing := owed_set there lim (entry.withTicket new) key
    rw [show (entry.withTicket new).owed key = 0 from owed_consumed consumed, owed_issued issued] at owing
    omega
  have spentUp := (adjust_consumes rout).1
  have paid : ∀ key, TokenSystem.owed ⟨two, right.reservations.set alt (entry.withTicket spent), right.replacing⟩ key ≤ right.owed key := by
    intro key
    have owing := lowered right two _ key rhas spentUp
    have nonneg := owed_issued issued ▸ owed_nonnegative ok key
    omega
  cases lout with
  | again consumed =>
    cases rout with
    | again => exact linked_ticket link apart lans rans paid
    | negative unused | idle unused | refused unused | moved unused => simp [consumed] at unused
  | negative unused =>
    cases rout with
    | again consumed => simp [unused] at consumed
    | negative => exact linked_ticket link apart lans rans paid
    | idle | refused | moved => omega
  | idle unused _ free =>
    cases rout with
    | again consumed => simp [unused] at consumed
    | negative => omega
    | idle => exact linked_ticket link apart lans rans paid
    | refused _ _ attached _ checked =>
      rcases free with loose | empty
      · simp [attached] at loose
      · simp [empty, adjustCheck] at checked
    | moved _ _ attached busy =>
      rcases free with loose | empty
      · simp [attached] at loose
      · exact absurd empty busy
  | refused unused nonneg _ _ checked =>
    exact absurd (refused_overflow link.leftServed has issued unused nonneg checked) (fun spilled => lfits (congrArg some spilled))
  | moved unused nonneg attached busy oneFresh _ lstored =>
    cases rout with
    | again consumed => simp [unused] at consumed
    | negative => omega
    | idle _ _ free =>
      rcases free with loose | empty
      · simp [attached] at loose
      · exact absurd empty busy
    | refused _ _ _ _ checked =>
      exact absurd (refused_overflow link.rightServed rhas issued unused nonneg checked) (fun spilled => rfits (congrArg some spilled))
    | moved _ _ _ _ twoFresh _ rstored =>
      have same := fun key (mem : key ∈ ticket.buckets) => linked_ticket_buckets link apart has issued unused mem
      have refunded : ∀ (st : TokenSystem) (lim : TokenLimiter) (new : TokenAdjustmentTicket), st.reservations[alt]? = some entry →
          new.consumed = true → ∀ key ∈ ticket.buckets,
          TokenSystem.owed ⟨lim, st.reservations.set alt (entry.withTicket new), st.replacing⟩ key ≤ st.owed key + (usage - ticket.reserved) := by
        intro st lim new there consumed key mem
        have owing := lowered st lim new key there consumed
        simp only [TokenAdjustmentTicket.owed, unused, mem, and_self, if_true] at owing
        omega
      rw [emissions_congr same] at lans ⊢
      refine linked_pass link apart (fun active => active) lstored rstored rfl rfl lans rans ?_ ?_ ?_ (fun key _ => paid key)
      · intro key mem there
        rw [← same key mem]
        exact there
      · exact fun key mem _ => refunded left _ _ has spentUp key mem
      · exact fun key mem _ => refunded right _ _ rhas spentUp key mem

omit apart

theorem linked_append (entry : TokenReservation) : (left.reservations ++ [entry])[i]? = some (hold.close .commitDeferred none) ∧
      right.reservations ++ [entry] = (left.reservations ++ [entry]).set i (hold.close (.commit actual) none) := by
  obtain ⟨bound, _⟩ := List.getElem?_eq_some_iff.mp link.handled
  refine ⟨?_, ?_⟩
  · rw [List.getElem?_append_left bound]
    exact link.handled
  · rw [link.twin, List.set_append_left _ _ bound]

theorem linked_reserve {keyID : String} {wins : List TokenWindow} {amt : Int}
    (lout : ReserveOutcome left.limiter read keyID wins amt one (.ok entry))
    (rout : ReserveOutcome right.limiter read keyID wins amt two (.ok entry))
    (lans : Served ⟨one, left.reservations ++ [entry], left.replacing⟩) (rans : Served ⟨two, right.reservations ++ [entry], right.replacing⟩) :
    Linked i hold actual ⟨one, left.reservations ++ [entry], left.replacing⟩ ⟨two, right.reservations ++ [entry], right.replacing⟩ := by
  obtain ⟨dealt, twin⟩ := linked_append link entry
  have clock : clampTime left.limiter.lastNow read = clampTime right.limiter.lastNow read := by rw [link.clock]
  have blank : ∀ key, entry.owed key = 0 := by
    intro key
    cases lout <;> rfl
  have owing : ∀ key, TokenSystem.owed ⟨two, right.reservations ++ [entry], right.replacing⟩ key = right.owed key := by
    intro key
    simp [TokenSystem.owed, blank key]
  cases lout with
  | unlimited =>
    cases rout with
    | unlimited =>
      refine ⟨lans, rans, link.clock, link.policies, link.replacing, dealt, twin, ?_, link.others⟩
      intro key cov
      rw [owing key]
      exact link.captured key cov
  | admitted _ keys _ _ _ _ _ leftEntered live =>
    cases rout with
    | admitted _ _ _ _ _ _ _ rightEntered =>
      refine ⟨lans, rans, clock, link.policies, link.replacing, dealt, twin, ?_, ?_⟩
      · intro key cov
        rw [owing key]
        have had := carried_swept link read key cov
        simp only [leftEntered key, rightEntered key]
        by_cases mem : key ∈ keys
        · simp only [mem, if_true]
          exact carried_enter had (live key mem)
        · simp only [mem, if_false]
          exact had
      · intro key outside
        simp only [leftEntered key, rightEntered key, bucketAt, others_swept link read key outside]

end Linking

end NineGateway.Token
