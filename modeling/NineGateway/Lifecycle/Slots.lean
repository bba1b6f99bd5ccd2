import NineGateway.Lifecycle.Ownership

set_option autoImplicit false

namespace NineGateway.Lifecycle

open Resource (LeaseSystem ConcurrencyLimiter ConcurrencyState Lease Slot Admission Phase AdvanceOutcome)
open Transition

def activeOf (limiter : ConcurrencyLimiter) (keyID : String) : Nat := ((limiter.states.lookup keyID).map ConcurrencyState.active).getD 0

def Tenure.counts (identity : Nat) (keyID : String) (tenure : Tenure) : Bool :=
  tenure.held && decide (tenure.limiter = some identity) && decide (tenure.keyID = keyID)

def outstanding (tenures : List Tenure) (identity : Nat) (keyID : String) : Nat :=
  Roster.total (fun tenure => (tenure.counts identity keyID).toNat) tenures

structure Conserved (lim : ConcurrencyLimiter) (tenures : List Tenure) : Prop where
  counted : ∀ key, activeOf lim key = outstanding tenures lim.identity key
  positive : ∀ key st, lim.states.lookup key = some st → 0 < st.active
  pointed : ∀ tenure ∈ tenures, tenure.counts lim.identity tenure.keyID = true →
    ∃ st, lim.states.lookup tenure.keyID = some st ∧ tenure.state = some st.address

section Counting

variable {lim after : ConcurrencyLimiter} {tenures : List Tenure}

variable {lease : Lease} {tenure : Tenure} {id : Nat} {key : String} {st : ConcurrencyState} {later : List Tenure}

theorem counts_at (tally : tenure.counts id key = true) : tenure.keyID = key ∧ tenure.counts id tenure.keyID = true := by
  simp only [Tenure.counts, Bool.and_eq_true, decide_eq_true_eq] at tally ⊢
  exact ⟨tally.2, tally.1, trivial⟩

theorem counts_own (own : lease.limiter = some id) (q : String) : (tenureOf lease true).counts id q = decide (lease.keyID = q) := by
  simp [Tenure.counts, tenureOf, own]

theorem outstanding_positive (mem : tenure ∈ tenures)
    (tally : tenure.counts id tenure.keyID = true) : 0 < outstanding tenures id tenure.keyID := by
  obtain ⟨i, has⟩ := List.mem_iff_getElem?.mp mem
  have below := Roster.weight_le_total (fun tenure' : Tenure => (tenure'.counts id tenure.keyID).toNat) tenures i tenure has
    (fun _ _ => Nat.zero_le _)
  simp only [tally, Bool.toNat_true] at below
  exact below

theorem conserved_at (key : String) (entry : Option ConcurrencyState) (id : after.identity = lim.identity)
    (lookup : ∀ q, after.states.lookup q = if q = key then entry else lim.states.lookup q)
    (others : ∀ q, q ≠ key → outstanding later lim.identity q = outstanding tenures lim.identity q)
    (old : ∀ tenure ∈ later, tenure.keyID ≠ key → tenure ∈ tenures)
    (tally : (entry.map ConcurrencyState.active).getD 0 = outstanding later lim.identity key) (pos : ∀ st, entry = some st → 0 < st.active)
    (pointed : ∀ tenure ∈ later, tenure.counts lim.identity key = true → ∃ st, entry = some st ∧ tenure.state = some st.address)
    (kept : Conserved lim tenures) : Conserved after later := by
  refine ⟨?_, ?_, ?_⟩
  · intro q
    rw [activeOf, lookup, id]
    by_cases here : q = key
    · subst here
      rw [if_pos rfl, tally]
    · rw [if_neg here, others q here, ← kept.counted, activeOf]
  · intro q st hit
    rw [lookup] at hit
    by_cases here : q = key
    · exact pos st (by rwa [if_pos here] at hit)
    · exact kept.positive q st (by rwa [if_neg here] at hit)
  · intro tenure mem counts
    rw [id] at counts
    by_cases here : tenure.keyID = key
    · obtain ⟨st, hit, address⟩ := pointed tenure mem (here ▸ counts)
      exact ⟨st, by rw [lookup, if_pos here, hit], address⟩
    · obtain ⟨st, hit, address⟩ := kept.pointed tenure (old tenure mem here) counts
      exact ⟨st, by rw [lookup, if_neg here, hit], address⟩

theorem outstanding_append (id : Nat) (key : String) (tenure : Tenure) :
    outstanding (tenures ++ [tenure]) id key = outstanding tenures id key + (tenure.counts id key).toNat :=
  Roster.total_append _ _ _

theorem conserved_uncounted (apart : tenure.limiter ≠ some lim.identity) (kept : Conserved lim tenures) :
    Conserved lim (tenures ++ [tenure]) := by
  have ignored : ∀ key, tenure.counts lim.identity key = false := by simp [Tenure.counts, apart]
  refine ⟨?_, kept.positive, ?_⟩
  · intro key
    rw [outstanding_append, ignored, kept.counted]
    rfl
  intro alt mem counts
  rcases List.mem_append.mp mem with old | new
  · exact kept.pointed alt old counts
  · rw [List.mem_singleton.mp new, ignored] at counts
    cases counts

theorem conserved_entered (id : after.identity = lim.identity) (lookup : ∀ q, after.states.lookup q =
      if q = key then some { st with active := activeOf lim key + 1 } else lim.states.lookup q)
    (same : ∀ old, lim.states.lookup key = some old → old.address = st.address) (kept : Conserved lim tenures) :
    Conserved after (tenures ++ [tenureOf (Resource.slotLease lim key st) true]) := by
  have counts : ∀ q, (tenureOf (Resource.slotLease lim key st) true).counts lim.identity q = decide (key = q) := by
    intro q
    have own : (Resource.slotLease lim key st).limiter = some lim.identity := rfl
    exact counts_own own q
  refine conserved_at key _ id lookup ?_ ?_ ?_ ?_ ?_ kept
  · intro q apart
    rw [outstanding_append, counts]
    simp [Ne.symm apart]
  · intro tenure mem apart
    rcases List.mem_append.mp mem with old | new
    · exact old
    · rw [List.mem_singleton.mp new] at apart
      exact absurd rfl apart
  · rw [outstanding_append, counts, ← kept.counted]
    simp
  · rintro _ ⟨⟩
    exact Nat.succ_pos _
  · intro tenure mem tally
    refine ⟨_, rfl, ?_⟩
    rcases List.mem_append.mp mem with old | new
    · obtain ⟨rfl, own⟩ := counts_at tally
      obtain ⟨pre, hit, address⟩ := kept.pointed tenure old own
      rw [address, same pre hit]
    · rw [List.mem_singleton.mp new]
      rfl

theorem conserved_issued {most : Int} (taken : lim.acquire key most = (after, some lease))
    (kept : Conserved lim tenures) : Conserved after (tenures ++ [tenureOf lease true]) := by
  cases acquire_outcome taken with
  | unlimited => exact conserved_uncounted (by simp [tenureOf, Resource.unlimitedLease]) kept
  | opened _ gone | joined _ _ gone =>
    refine conserved_entered rfl (fun q => ?_) (by simp [gone]) kept
    simp [activeOf, gone]

theorem release_lookup (own : lease.limiter = some lim.identity) (hit : lim.states.lookup lease.keyID = some st)
    (address : lease.state = some st.address) (q : String) :
    (lease.releaseSlot lim).identity = lim.identity ∧ (lease.releaseSlot lim).states.lookup q =
      if q = lease.keyID then (if st.active - 1 = 0 then none else some { st with active := st.active - 1 })
      else lim.states.lookup q := by
  by_cases last : st.active - 1 = 0 <;> simp [Lease.releaseSlot, own, hit, address, last]

theorem conserved_returned {slot : Nat} (has : tenures[slot]? = some (tenureOf lease true))
    (conserved : Conserved lim tenures) : Conserved (lease.releaseSlot lim) (tenures.set slot (tenureOf lease false)) := by
  have total : ∀ key, outstanding (tenures.set slot (tenureOf lease false)) lim.identity key +
      ((tenureOf lease true).counts lim.identity key).toNat = outstanding tenures lim.identity key :=
    fun key => Roster.total_set _ tenures slot _ _ has
  have kept : ∀ tenure ∈ tenures.set slot (tenureOf lease false), tenure.counts lim.identity tenure.keyID = true → tenure ∈ tenures := by
    intro tenure mem counts
    rcases List.mem_or_eq_of_mem_set mem with old | rfl
    · exact old
    · cases counts
  by_cases own : lease.limiter = some lim.identity
  · have counts := counts_own own
    obtain ⟨st, hit, address⟩ := conserved.pointed _ (List.mem_of_getElem? has) (by rw [counts]; simp [tenureOf])
    change lim.states.lookup lease.keyID = some st at hit
    have active := conserved.counted lease.keyID
    have given := total lease.keyID
    simp only [activeOf, hit, Option.map_some, Option.getD_some] at active
    simp only [counts, decide_true, Bool.toNat_true] at given
    refine conserved_at lease.keyID (if st.active - 1 = 0 then none else some { st with active := st.active - 1 })
      (release_lookup own hit address "").1 (fun q => (release_lookup own hit address q).2) ?_ ?_ ?_ ?_ ?_ conserved
    · intro q apart
      have alt := total q
      simpa [counts, Ne.symm apart] using alt
    · intro tenure mem apart
      rcases List.mem_or_eq_of_mem_set mem with old | rfl
      · exact old
      · exact absurd rfl apart
    · split
      · simp only [Option.map_none, Option.getD_none]
        omega
      · simp only [Option.map_some, Option.getD_some]
        omega
    · intro later entry
      split at entry <;> cases entry
      show 0 < st.active - 1
      omega
    · intro tenure mem tally
      obtain ⟨same, counting⟩ := counts_at tally
      have remaining := outstanding_positive mem counting
      rw [same] at remaining
      rw [if_neg (by omega)]
      refine ⟨_, rfl, ?_⟩
      obtain ⟨_, there, pointer⟩ := conserved.pointed tenure (kept tenure mem counting) counting
      rw [same, hit] at there
      cases there
      exact pointer
  · have ignored : ∀ key, (tenureOf lease true).counts lim.identity key = false := by simp [Tenure.counts, tenureOf, own]
    have unchanged : lease.releaseSlot lim = lim := by simp [Lease.releaseSlot, own]
    rw [unchanged]
    refine ⟨?_, conserved.positive, ?_⟩
    · intro key
      rw [conserved.counted, ← total key, ignored]
      rfl
    · intro tenure mem counts
      exact conserved.pointed tenure (kept tenure mem counts) counts

theorem conserved_exchange {lim next : Option ConcurrencyLimiter} {given : Option Nat} (exch : Exchange lim tenures given next later)
    (kept : ∀ cur, lim = some cur → Conserved cur tenures) : ∀ cur, next = some cur → Conserved cur later := by
  cases exch with
  | idle => exact kept
  | crowded key _ pre _ has taken =>
    rintro _ ⟨⟩
    cases acquire_outcome taken with
    | negative | full => exact kept pre has
    | emptied st hit =>
      have pos := (kept pre has).positive key st hit
      omega
  | issued _ _ pre _ _ has taken =>
    rintro _ ⟨⟩
    exact conserved_issued taken (kept pre has)
  | offered _ apart =>
    intro cur has
    exact conserved_uncounted (apart cur has) (kept cur has)
  | returned _ _ has =>
    intro cur hit
    obtain ⟨pre, was, rfl⟩ := Option.map_eq_some_iff.mp hit
    exact conserved_returned has (kept pre was)

end Counting

def issues (keyID : String) (maximum : Int) : Call → Reply → Prop
  | .resources (.acquireSlot asked limit), .resources (.slot _) => asked = keyID ∧ limit = maximum
  | .resources (.acquire options), .resources (.started _) => options.keyID = keyID ∧ options.maxConcurrency = maximum
  | _, _ => False

-- The leases that count for a key: the limiter issued them and they are neither
-- released nor on their way back.
def System.heldLeases (system : System) (identity : Nat) (keyID : String) : Nat := outstanding system.custody.tenures identity keyID

def System.unreleasedLeases (system : System) (identity : Nat) (keyID : String) : Nat :=
  Roster.total (fun slot : Slot => ((tenureOf slot.lease (!slot.lease.released)).counts identity keyID).toNat) system.resources.slots

def System.Still (system : System) : Prop :=
  (∀ slot ∈ system.resources.slots, slot.returning = false) ∧ ∀ owner ∈ system.owners, owner.2 ≠ .returning

def givesBack (slot : Nat) (system : System) (call : Call) (_ : Reply) : Nat := if returnedSlot system call = some slot then 1 else 0

structure Custodial (id : Nat) (sys : System) : Prop where
  wellformed : Wellformed sys
  sound : sys.custody.Sound
  limiter : ∃ limiter, sys.resources.concurrency = some limiter ∧ limiter.identity = id ∧ Conserved limiter sys.custody.tenures

def Returned (id slot : Nat) (given : Nat) (tenures : List Tenure) : Prop :=
  match tenures[slot]? with
  | none => given = 0
  | some tenure => tenure.limiter = some id → given + tenure.held.toNat = 1

section Runs

variable {system next : System} {call : Call} {reply : Reply} {identity : Nat}

variable {tenures later : List Tenure} {given : Option Nat} {slot w : Nat}

theorem exchange_identity {lim next : Option ConcurrencyLimiter}
    (exch : Exchange lim tenures given next later) : next.map ConcurrencyLimiter.identity = lim.map ConcurrencyLimiter.identity := by
  cases exch with
  | idle | offered => rfl
  | crowded _ _ _ _ has taken | issued _ _ _ _ _ has taken =>
    rw [has]
    cases acquire_outcome taken <;> rfl
  | returned =>
    cases lim with
    | none => rfl
    | some =>
      simp only [Option.map_some, Option.some.injEq, Lease.releaseSlot]
      split
      · rfl
      split
      · rfl
      · split
        · rfl
        · split <;> rfl

theorem custodial_step (custodial : Custodial identity system) (ran : step system call = some (next, reply)) : Custodial identity next := by
  obtain ⟨wf, ok, _, has, own, conserved⟩ := custodial
  have move := step_custody wf ran
  have exch := Custody.move_exchange move ok
  have same := exchange_identity exch
  have kept := conserved_exchange exch (fun cur hit => by
    obtain rfl := Option.some.inj (has.symm.trans hit)
    exact conserved)
  refine ⟨wellformed_step wf ran, Custody.move_sound move ok, ?_⟩
  change next.resources.concurrency.map _ = system.resources.concurrency.map _ at same
  rw [has] at same
  obtain ⟨after, hit, identical⟩ := Option.map_eq_some_iff.mp same
  exact ⟨after, hit, identical.trans own, kept after hit⟩

theorem returned_appended {tenure : Tenure} (new : tenure.limiter = some identity → tenure.held = true)
    (back : Returned identity slot w tenures) : Returned identity slot w (tenures ++ [tenure]) := by
  unfold Returned at back ⊢
  rcases Nat.lt_trichotomy slot tenures.length with inside | rfl | beyond
  · rwa [List.getElem?_append_left inside]
  · rw [List.getElem?_eq_none (Nat.le_refl _)] at back
    simp only [List.getElem?_concat_length]
    intro own
    simp [back, new own]
  · rw [List.getElem?_eq_none (by omega)] at back
    rw [List.getElem?_eq_none (by simp; omega)]
    exact back

theorem returned_exchange {lim : ConcurrencyLimiter} {next : Option ConcurrencyLimiter} (exch : Exchange (some lim) tenures given next later)
    (own : lim.identity = identity)
    (back : Returned identity slot w tenures) : Returned identity slot (w + if given = some slot then 1 else 0) later := by
  cases exch with
  | idle | crowded => exact back
  | issued => exact returned_appended (fun _ => rfl) back
  | offered _ apart => exact returned_appended (fun same => absurd (own ▸ same) (apart lim rfl)) back
  | returned alt _ has =>
    have inside := (List.getElem?_eq_some_iff.mp has).1
    by_cases here : alt = slot
    · subst here
      unfold Returned at back ⊢
      simp only [has, tenureOf, Bool.toNat_true] at back
      simp only [if_true, List.getElem?_set_self inside, tenureOf, Bool.toNat_false]
      exact back
    · unfold Returned at back ⊢
      simpa [here] using back

theorem issued_within {key : String} {most : Int} (limited : 0 < most) (ran : step system call = some (next, reply))
    (issued : issues key most call reply) (has : system.resources.concurrency.isSome = true) :
    ∃ after, next.resources.concurrency = some after ∧ 0 < activeOf after key ∧ (activeOf after key : Int) ≤ most := by
  have acquired : ∀ (lim after : ConcurrencyLimiter) (lease : Lease), lim.acquire key most = (after, some lease) →
      0 < activeOf after key ∧ (activeOf after key : Int) ≤ most := by
    intro lim after lease out
    cases acquire_outcome out with
    | unlimited => omega
    | opened | joined =>
      simp [activeOf]
      omega
  cases step_outcome ran with
  | resources _ _ _ _ move =>
    cases move with
    | taken _ _ lim next lease _ out | started _ lim next lease _ out =>
      obtain ⟨rfl, rfl⟩ := issued
      exact ⟨next, rfl, acquired lim next lease out⟩
    | unlimited _ gone =>
      rw [gone] at has
      cases has
    | _ => cases issued
  | _ => cases issued

theorem held_still (still : system.Still) (key : String) : system.heldLeases identity key = system.unreleasedLeases identity key := by
  have same : system.custody.tenures = system.resources.slots.map (fun slot => tenureOf slot.lease (!slot.lease.released)) := by
    apply List.ext_getElem?
    intro slot
    simp only [Custody.tenures, List.getElem?_mapIdx, List.getElem?_map]
    change Option.map _ system.resources.slots[slot]? = _
    cases has : system.resources.slots[slot]? with
    | none => rfl
    | some entry =>
      have idle := still.1 entry (List.mem_of_getElem? has)
      have unowned : (slot, Hold.returning) ∉ system.custody.owners := fun mem => still.2 _ mem rfl
      simp [Custody.held, idle, unowned]
  rw [System.heldLeases, outstanding, same, System.unreleasedLeases, Roster.total, List.map_map]
  rfl

theorem give_back_enabled {entry : Slot} (has : system.resources.slots[slot]? = some entry) (wf : Wellformed system)
    (spent : entry.lease.released = true) (held : system.custody.held slot entry = true) :
    ∃ call, returnedSlot system call = some slot ∧ (step system call).isSome = true := by
  simp only [Custody.held, spent, Bool.not_true, Bool.false_or, Bool.or_eq_true, decide_eq_true_eq] at held
  rcases held with returning | member
  · exact ⟨.resources (.releaseSlot slot), rfl, by simp [step, System.permits, Resource.step, Resource.giveBack, has, returning]⟩
  obtain ⟨i, owned⟩ := List.mem_iff_getElem?.mp member
  change system.owners[i]? = _ at owned
  obtain ⟨⟨opts, _, phase⟩, there, same⟩ := view_some owned
  obtain ⟨rfl, holding⟩ := Prod.mk.inj same
  cases phase with
  | returningSlot =>
    refine ⟨.resources (.advance i 0), by simp [returnedSlot, there], ?_⟩
    simp [step, System.permits, Resource.step, Resource.advance, Resource.giveBack, there, has]
  | admitted lease =>
    have took : admittedLease system i = some lease := admitted_lease_iff.mpr ⟨_, there, rfl⟩
    have named : lease.concurrency = slot := wf.named i _ lease there rfl
    simp only [holdOf, LeaseState.hold] at holding
    split at holding
    · rename_i out res busy
      refine ⟨.settle i 0, by simp [returnedSlot, took, busy, named], ?_⟩
      simp [step, took, busy, finish, Resource.giveBack, named, has]
    · cases holding
    · cases holding
    · cases holding
  | _ => cases holding

theorem custodial_start (identity : Nat) (tokens : Option Token.TokenSystem) (budgets : Option Budget.BudgetSystem) :
    Custodial identity (newSystem (some (Resource.newConcurrencyLimiter identity)) tokens budgets) := by
  refine ⟨⟨by simp [newSystem, Resource.newResourceLeaseCoordinator], by simp [newSystem, System.lease]⟩, ⟨?_, ?_, ?_⟩, _, rfl, rfl, ⟨?_, ?_, ?_⟩⟩
  · intro first second one two found
    cases found
  · intro position slot hold found
    cases found
  · intro slot held found
    cases found
  · intro key
    rfl
  · intro key state found
    cases found
  · intro tenure found
    cases found

theorem custodial_run {cs : List Call} {outs : List Reply} (custodial : Custodial identity system)
    (run : execute step system cs = some (next, outs)) (slot : Nat) {given : Nat} (back : Returned identity slot given system.custody.tenures) :
    Custodial identity next ∧ Returned identity slot (given + measure step (givesBack slot) system cs) next.custody.tenures := by
  refine run_measured (givesBack slot)
    (fun given system => Custodial identity system ∧ Returned identity slot given system.custody.tenures) ?_ ⟨custodial, back⟩ along_always run
  rintro w st call after reply ⟨custodial, back⟩ _ transition
  refine ⟨custodial_step custodial transition, ?_⟩
  obtain ⟨_, has, own, _⟩ := custodial.limiter
  have exch := Custody.move_exchange (step_custody custodial.wellformed transition) custodial.sound
  change Exchange st.resources.concurrency _ _ _ _ at exch
  rw [has] at exch
  exact returned_exchange exch own back

theorem concurrency_slots_conserved {system : System} {calls : List Call} {replies : List Reply} (identity : Nat)
    (tokens : Option Token.TokenSystem) (budgets : Option Budget.BudgetSystem)
    (run : Transition.execute step (newSystem (some (Resource.newConcurrencyLimiter identity)) tokens budgets) calls = some (system, replies)) :
    ∃ limiter, system.resources.concurrency = some limiter ∧ limiter.identity = identity ∧
      (∀ keyID, activeOf limiter keyID = system.heldLeases identity keyID) ∧
      (system.Still → ∀ keyID, activeOf limiter keyID = system.unreleasedLeases identity keyID) ∧
      (∀ keyID, (limiter.states.lookup keyID).isSome = true ↔ 0 < activeOf limiter keyID) ∧
      (∀ call next reply keyID maximum, step system call = some (next, reply) → issues keyID maximum call reply → 0 < maximum →
        ∃ after, next.resources.concurrency = some after ∧ (activeOf after keyID : Int) ≤ maximum) ∧
      ∀ slot entry, system.resources.slots[slot]? = some entry → entry.lease.limiter = some identity →
        Transition.measure step (givesBack slot) (newSystem (some (Resource.newConcurrencyLimiter identity)) tokens budgets) calls +
            (system.custody.held slot entry).toNat = 1 ∧ (entry.lease.released = true → system.custody.held slot entry = true →
            ∃ call, returnedSlot system call = some slot ∧ (step system call).isSome = true) := by
  have start := custodial_start identity tokens budgets
  have unissued : ∀ slot, Returned identity slot 0 (newSystem (some (Resource.newConcurrencyLimiter identity)) tokens budgets).custody.tenures :=
    fun _ => rfl
  obtain ⟨wf, _, limiter, has, own, kept⟩ := (custodial_run start run 0 (unissued 0)).1
  have tally : ∀ keyID, activeOf limiter keyID = system.heldLeases identity keyID := fun keyID => own ▸ kept.counted keyID
  refine ⟨limiter, has, own, tally, ?_, ?_, ?_, ?_⟩
  · intro still keyID
    rw [tally, held_still still]
  · intro keyID
    constructor
    · intro inside
      obtain ⟨st, hit⟩ := Option.isSome_iff_exists.mp inside
      have pos := kept.positive keyID st hit
      simpa [activeOf, hit] using pos
    · intro pos
      cases hit : limiter.states.lookup keyID with
      | none => simp [activeOf, hit] at pos
      | some => rfl
  · intro call next reply keyID maximum ran issued limited
    obtain ⟨after, hit, _, within⟩ := issued_within limited ran issued (by rw [has]; rfl)
    exact ⟨after, hit, within⟩
  · intro slot entry there issued
    have back := (custodial_run start run slot (unissued slot)).2
    unfold Returned at back
    rw [Custody.tenure_at there, Nat.zero_add] at back
    exact ⟨back issued, give_back_enabled there wf⟩

end Runs

def promotion : List Call :=
  [.resources (.acquireSlot "key" 1),
    .resources (.acquireWithProvisional 0 ⟨"key", 1, [], 0, Budget.unlimitedBudgetPolicy, .unknown⟩),
    .resources (.release 0), .resources (.advance 0 0), .resources (.advance 0 0), .terminate 0 .release, .terminate 0 .conservative,
    .settle 0 0, .settle 0 0, .settle 0 0, .resources (.release 0), .settle 0 0, .settle 0 0, .answer 1, .answer 0]

theorem concurrency_slots_conserved_promotion : ∃ system replies limiter,
    Transition.execute step (newSystem (some (Resource.newConcurrencyLimiter 7)) none none) promotion = some (system, replies) ∧
      system.resources.concurrency = some limiter ∧ activeOf limiter "key" = system.heldLeases 7 "key" ∧
      Transition.measure step (givesBack 0) (newSystem (some (Resource.newConcurrencyLimiter 7)) none none) promotion = 1 := by
  have through : (execute step (newSystem (some (Resource.newConcurrencyLimiter 7)) none none) promotion).isSome = true := by decide
  obtain ⟨limiter, has, _, tally, _⟩ := concurrency_slots_conserved 7 none none (execute_get through)
  exact ⟨_, _, limiter, execute_get through, has, tally "key", by decide⟩

end NineGateway.Lifecycle
