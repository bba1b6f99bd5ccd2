import NineGateway.Resource.Coordinator
import Mathlib.Tactic.Ring.RingNF

set_option autoImplicit false

namespace NineGateway.Lifecycle

open Resource (ConcurrencyLimiter ConcurrencyState Lease Slot)

section Limiter

variable {lim next : ConcurrencyLimiter} {key : String} {most : Int}

inductive AcquireOutcome (lim : ConcurrencyLimiter) (key : String) (most : Int) : ConcurrencyLimiter → Option Lease → Prop where
  | negative (below : most < 0) : AcquireOutcome lim key most lim none
  | unlimited (unset : most = 0) : AcquireOutcome lim key most lim (some (Resource.unlimitedLease key))
  | opened (pos : 0 < most) (gone : lim.states.lookup key = none) : AcquireOutcome lim key most
        { lim with states := Finmap.insert key ⟨lim.nextAddress, 1⟩ lim.states, nextAddress := lim.nextAddress + 1 }
        (some (Resource.slotLease lim key ⟨lim.nextAddress, 1⟩))
  | joined (pos : 0 < most) (st) (has : lim.states.lookup key = some st) (room : (st.active : Int) < most) : AcquireOutcome lim key most
        { lim with states := Finmap.insert key { st with active := st.active + 1 } lim.states } (some (Resource.slotLease lim key st))
  | full (st) (has : lim.states.lookup key = some st) (crowded : most ≤ st.active) (busy : st.active ≠ 0) : AcquireOutcome lim key most lim none
  | emptied (st) (has : lim.states.lookup key = some st) (idle : st.active = 0) :
      AcquireOutcome lim key most { lim with states := Finmap.erase key lim.states } none

theorem acquire_outcome {lease : Option Lease} (taken : lim.acquire key most = (next, lease)) : AcquireOutcome lim key most next lease := by
  unfold ConcurrencyLimiter.acquire at taken
  split at taken
  · rename_i below
    cases taken
    exact .negative below
  split at taken
  · rename_i unset
    cases taken
    exact .unlimited unset
  have pos : 0 < most := by omega
  cases has : lim.states.lookup key with
  | none =>
    simp only [has] at taken
    cases taken
    exact .opened pos has
  | some st =>
    simp only [has] at taken
    by_cases crowded : most ≤ st.active
    · by_cases idle : st.active = 0
      · rw [if_pos crowded, if_pos idle] at taken
        cases taken
        exact .emptied st has idle
      · rw [if_pos crowded, if_neg idle] at taken
        cases taken
        exact .full st has crowded idle
    · rw [if_neg crowded] at taken
      cases taken
      exact .joined pos st has (by omega)

theorem acquired_unreleased {lease : Lease} (taken : lim.acquire key most = (next, some lease)) : lease.released = false := by
  cases acquire_outcome taken <;> rfl

end Limiter

inductive Hold where
  | kept
  | returning
  | given
deriving DecidableEq, Repr

structure Custody where
  limiter : Option ConcurrencyLimiter
  slots : List Slot
  owners : List (Nat × Hold)

namespace Custody

-- The ownership protocol. A slot in a caller's hands is released in two halves
-- unless an admission claims it first, and an owner gives its slot back in two
-- halves of its own. The label is the slot given back.
inductive Move (care : Custody) : Option Nat → Custody → Prop where
  | idle : Move care none care
  | crowded (key most lim next) (has : care.limiter = some lim)
      (acquired : lim.acquire key most = (next, none)) : Move care none { care with limiter := some next }
  | taken (key most lim next lease) (has : care.limiter = some lim) (acquired : lim.acquire key most = (next, some lease)) :
      Move care none { care with limiter := some next, slots := care.slots ++ [⟨lease, true, false⟩] }
  | started (key most lim next lease) (has : care.limiter = some lim) (acquired : lim.acquire key most = (next, some lease)) :
      Move care none { limiter := some next, slots := care.slots ++ [⟨lease, false, false⟩], owners := care.owners ++ [(care.slots.length, .kept)] }
  | unlimited (key) (gone : care.limiter = none) : Move care none { care with
          slots := care.slots ++ [⟨Resource.unlimitedLease key, false, false⟩]
          owners := care.owners ++ [(care.slots.length, .kept)] }
  | offered (lease) (apart : ∀ lim, care.limiter = some lim → lease.limiter ≠ some lim.identity) :
      Move care none { care with slots := care.slots ++ [⟨lease, true, false⟩] }
  | released (slot held) (has : care.slots[slot]? = some held) (exposed : held.exposed = true) (unspent : held.lease.spent = false) :
      Move care none { care with slots := care.slots.set slot { held with lease := { held.lease with released := true }, returning := true } }
  | returned (slot held) (has : care.slots[slot]? = some held) (returning : held.returning = true) : Move care (some slot) { care with
          limiter := care.limiter.map held.lease.releaseSlot
          slots := care.slots.set slot { held with returning := false } }
  | adopted (slot held) (has : care.slots[slot]? = some held) (exposed : held.exposed = true) (unspent : held.lease.spent = false) :
      Move care none { care with
          slots := care.slots.set slot { held with lease := { held.lease with claimed := true } }
          owners := care.owners ++ [(slot, .kept)] }
  | ownerReleased (i slot held) (owned : care.owners[i]? = some (slot, .kept))
      (has : care.slots[slot]? = some held) (unspent : held.lease.released = false) : Move care none { care with
          slots := care.slots.set slot { held with lease := { held.lease with released := true } }
          owners := care.owners.set i (slot, .returning) }
  | ownerSpent (i slot held) (owned : care.owners[i]? = some (slot, .kept))
      (has : care.slots[slot]? = some held) (spent : held.lease.released = true) :
      Move care none { care with owners := care.owners.set i (slot, .given) }
  | ownerReturned (i slot held) (owned : care.owners[i]? = some (slot, .returning)) (has : care.slots[slot]? = some held) :
      Move care (some slot) { care with
          limiter := care.limiter.map held.lease.releaseSlot
          owners := care.owners.set i (slot, .given) }

structure Sound (care : Custody) : Prop where
  apart : ∀ (first second : Nat) (one two : Nat × Hold), care.owners[first]? = some one → care.owners[second]? = some two →
    one.1 = two.1 → first = second
  guarded : ∀ (i slot : Nat) (hold : Hold), care.owners[i]? = some (slot, hold) → ∃ held : Slot, care.slots[slot]? = some held ∧
    held.returning = false ∧ (held.exposed = true → held.lease.claimed = true) ∧ (held.lease.released = true ↔ hold ≠ .kept)
  loose : ∀ (slot : Nat) (held : Slot), care.slots[slot]? = some held → held.returning = true →
    held.lease.released = true ∧ held.lease.claimed = false ∧ held.exposed = true

section Protocol

variable {care next : Custody} {given : Option Nat}

variable {lease : Lease}

theorem unspent_fields (unspent : lease.spent = false) : lease.released = false ∧ lease.claimed = false := by
  simp only [Lease.spent, Bool.or_eq_false_iff] at unspent
  exact unspent.1

theorem sound_taken (lim : Option ConcurrencyLimiter) (fresh : lease.released = false) (ok : Sound care) :
    Sound { limiter := lim, slots := care.slots ++ [⟨lease, false, false⟩],
            owners := care.owners ++ [(care.slots.length, .kept)] } := by
  obtain ⟨apart, guarded, loose⟩ := ok
  refine ⟨?_, ?_, ?_⟩
  · grind
  · intro i slot hold owned
    rcases Roster.entry_append owned with old | ⟨_, new⟩
    · obtain ⟨held, has, facts⟩ := guarded i slot hold old
      exact ⟨held, Roster.entry_kept has _, facts⟩
    · cases new
      exact ⟨⟨lease, false, false⟩, by simp, rfl, by simp, by simp [fresh]⟩
  · intro slot held has returning
    rcases Roster.entry_append has with old | ⟨_, rfl⟩
    · exact loose slot held old returning
    · cases returning

theorem move_sound (move : Move care given next) (ok : Sound care) : Sound next := by
  obtain ⟨apart, guarded, loose⟩ := id ok
  cases move with
  | idle => exact ok
  | crowded => exact ⟨apart, guarded, loose⟩
  | taken | offered | returned => refine ⟨apart, ?_, ?_⟩ <;> grind
  | started _ _ _ _ _ _ acquired => exact sound_taken _ (acquired_unreleased acquired) ok
  | unlimited => exact sound_taken _ rfl ok
  | released _ _ _ _ unspent =>
    have new := unspent_fields unspent
    refine ⟨apart, ?_, ?_⟩ <;> grind
  | adopted _ _ _ _ unspent =>
    have new := unspent_fields unspent
    refine ⟨?_, ?_, ?_⟩ <;> grind
  | ownerReleased | ownerSpent | ownerReturned => refine ⟨?_, ?_, ?_⟩ <;> grind

end Protocol

def held (custody : Custody) (slot : Nat) (entry : Slot) : Bool :=
  !entry.lease.released || entry.returning || decide ((slot, Hold.returning) ∈ custody.owners)

end Custody

structure Tenure where
  limiter : Option Nat
  keyID : String
  state : Option Nat
  held : Bool
deriving DecidableEq, Repr

def tenureOf (lease : Lease) (held : Bool) : Tenure := ⟨lease.limiter, lease.keyID, lease.state, held⟩

def Custody.tenures (custody : Custody) : List Tenure :=
  custody.slots.mapIdx (fun slot entry => tenureOf entry.lease (custody.held slot entry))

-- The same protocol without its owners: a slot is issued, and later given back
-- by a holder.
inductive Exchange (lim : Option ConcurrencyLimiter) (tenures : List Tenure) :
    Option Nat → Option ConcurrencyLimiter → List Tenure → Prop where
  | idle : Exchange lim tenures none lim tenures
  | crowded (key most pre after) (has : lim = some pre)
      (taken : pre.acquire key most = (after, none)) : Exchange lim tenures none (some after) tenures
  | issued (key most pre after lease) (has : lim = some pre) (taken : pre.acquire key most = (after, some lease)) :
      Exchange lim tenures none (some after) (tenures ++ [tenureOf lease true])
  | offered (tenure) (apart : ∀ pre, lim = some pre → tenure.limiter ≠ some pre.identity) : Exchange lim tenures none lim (tenures ++ [tenure])
  | returned (slot lease) (has : tenures[slot]? = some (tenureOf lease true)) :
      Exchange lim tenures (some slot) (lim.map lease.releaseSlot) (tenures.set slot (tenureOf lease false))

namespace Custody

section Refinement

variable {care next : Custody} {given : Option Nat}

variable {entry after : Slot} {slot : Nat}

theorem tenure_at {entry : Slot} (has : care.slots[slot]? = some entry) :
    care.tenures[slot]? = some (tenureOf entry.lease (care.held slot entry)) := by
  simp [tenures, has]

theorem tenures_extended (lease : Lease) (exposed : Bool) (slots : next.slots = care.slots ++ [⟨lease, exposed, false⟩])
    (same : ∀ (slot : Nat) (entry : Slot), care.slots[slot]? = some entry → next.held slot entry = care.held slot entry)
    (unowned : (care.slots.length, Hold.returning) ∉ next.owners) : next.tenures = care.tenures ++ [tenureOf lease (!lease.released)] := by
  apply List.ext_getElem?
  intro slot
  rcases Nat.lt_trichotomy slot care.slots.length with inside | rfl | beyond
  · have has : care.slots[slot]? = some care.slots[slot] := List.getElem?_eq_getElem inside
    have kept : next.slots[slot]? = some care.slots[slot] := by
      rw [slots]
      exact Roster.entry_kept has _
    rw [tenure_at kept, same slot _ has, Roster.entry_kept (tenure_at has)]
  · have last : next.slots[care.slots.length]? = some ⟨lease, exposed, false⟩ := by simp [slots]
    rw [tenure_at last]
    simp [tenures, held, unowned]
  · have left : next.tenures.length ≤ slot := by simp [tenures, slots]; omega
    have right : (care.tenures ++ [tenureOf lease (!lease.released)]).length ≤ slot := by simp [tenures]; omega
    rw [List.getElem?_eq_none left, List.getElem?_eq_none right]

theorem tenures_taken (lim : Option ConcurrencyLimiter) (lease : Lease) (unowned : (care.slots.length, Hold.returning) ∉ care.owners) :
    Custody.tenures { limiter := lim, slots := care.slots ++ [⟨lease, false, false⟩],
                      owners := care.owners ++ [(care.slots.length, .kept)] } =
      care.tenures ++ [tenureOf lease (!lease.released)] :=
  tenures_extended lease false rfl (by simp [held]) (by simpa using unowned)

theorem tenures_set (has : care.slots[slot]? = some entry) (slots : next.slots = care.slots.set slot after)
    (others : ∀ (alt : Nat) (entry : Slot), alt ≠ slot → next.held alt entry = care.held alt entry) :
    next.tenures = care.tenures.set slot (tenureOf after.lease (next.held slot after)) := by
  have inside := (List.getElem?_eq_some_iff.mp has).1
  apply List.ext_getElem?
  intro alt
  by_cases here : slot = alt
  · subst here
    have set : next.slots[slot]? = some after := by simp [slots, inside]
    rw [tenure_at set]
    simp [tenures, inside]
  · have set : next.slots[alt]? = care.slots[alt]? := by simp [slots, here]
    simp only [tenures, List.getElem?_mapIdx, List.getElem?_set, here, if_false, set]
    cases there : care.slots[alt]? with
    | none => rfl
    | some entry => simp [others alt entry (Ne.symm here)]

theorem exchange_passed (has : care.slots[slot]? = some entry) (lim : next.limiter = care.limiter)
    (slots : next.slots = care.slots.set slot after)
    (others : ∀ (alt : Nat) (entry : Slot), alt ≠ slot → next.held alt entry = care.held alt entry) (pre : care.held slot entry = true)
    (later : tenureOf after.lease (next.held slot after) = tenureOf entry.lease true) :
    Exchange care.limiter care.tenures none next.limiter next.tenures := by
  have old := tenure_at has
  rw [pre] at old
  rw [lim, tenures_set has slots others, later, Roster.set_same _ _ _ old]
  exact .idle

theorem exchange_returned (has : care.slots[slot]? = some entry) (lim : next.limiter = care.limiter.map entry.lease.releaseSlot)
    (slots : next.slots = care.slots.set slot after)
    (others : ∀ (alt : Nat) (entry : Slot), alt ≠ slot → next.held alt entry = care.held alt entry) (pre : care.held slot entry = true)
    (later : tenureOf after.lease (next.held slot after) = tenureOf entry.lease false) :
    Exchange care.limiter care.tenures (some slot) next.limiter next.tenures := by
  have old := tenure_at has
  rw [pre] at old
  rw [lim, tenures_set has slots others, later]
  exact .returned slot entry.lease old

theorem owner_elsewhere {i slot alt : Nat} {old new hold : Hold} (owned : care.owners[i]? = some (slot, old)) (apart : alt ≠ slot) : (alt, hold)
    ∈ care.owners.set i (slot, new) ↔ (alt, hold) ∈ care.owners := by
  simp only [List.mem_iff_getElem?, List.getElem?_set]
  constructor
  · rintro ⟨pos, hit⟩
    by_cases here : i = pos
    · grind
    · exact ⟨pos, by simpa [here] using hit⟩
  · rintro ⟨pos, hit⟩
    refine ⟨pos, ?_⟩
    by_cases here : i = pos
    · grind
    · simpa [here] using hit

theorem move_exchange (move : Move care given next) (ok : Sound care) : Exchange care.limiter care.tenures given next.limiter next.tenures := by
  obtain ⟨apart, guarded, loose⟩ := ok
  have unowned : (care.slots.length, Hold.returning) ∉ care.owners := by
    intro mem
    obtain ⟨i, owned⟩ := List.mem_iff_getElem?.mp mem
    obtain ⟨_, has, _⟩ := guarded i _ _ owned
    simp at has
  cases move with
  | idle => exact .idle
  | crowded key most lim next has acquired => exact .crowded key most lim next has acquired
  | taken key most lim next lease has acquired =>
    have issued : Custody.tenures { care with limiter := some next, slots := care.slots ++ [⟨lease, true, false⟩] } =
        care.tenures ++ [tenureOf lease (!lease.released)] := tenures_extended lease true rfl (fun _ _ _ => rfl) unowned
    rw [issued, acquired_unreleased acquired]
    exact .issued key most lim next lease has acquired
  | started key most lim next lease has acquired =>
    have issued := tenures_taken (some next) lease unowned
    rw [issued, acquired_unreleased acquired]
    exact .issued key most lim next lease has acquired
  | unlimited key gone =>
    rw [tenures_taken care.limiter (Resource.unlimitedLease key) unowned]
    exact .offered _ (by simp [gone])
  | offered lease elsewhere =>
    have issued : Custody.tenures { care with slots := care.slots ++ [⟨lease, true, false⟩] } =
        care.tenures ++ [tenureOf lease (!lease.released)] := tenures_extended lease true rfl (fun _ _ _ => rfl) unowned
    rw [issued]
    exact .offered _ elsewhere
  | released _ _ has _ unspent =>
    have new := unspent_fields unspent
    exact exchange_passed has rfl rfl (fun _ _ _ => rfl) (by simp [held, new]) (by simp [tenureOf, held])
  | returned slot entry has returning =>
    have spent := (loose slot entry has returning).1
    have free : (slot, Hold.returning) ∉ care.owners := by
      intro mem
      obtain ⟨i, owned⟩ := List.mem_iff_getElem?.mp mem
      obtain ⟨_, hit, still, _⟩ := guarded i _ _ owned
      rw [has] at hit
      cases hit
      rw [returning] at still
      cases still
    exact exchange_returned has rfl rfl (fun _ _ _ => rfl) (by simp [held, returning]) (by simp [tenureOf, held, spent, free])
  | adopted _ _ has _ unspent =>
    have new := unspent_fields unspent
    exact exchange_passed has rfl rfl (fun _ _ _ => by simp [held]) (by simp [held, new]) (by simp [tenureOf, held, new])
  | ownerReleased i slot entry owned has unspent =>
    have inside := (List.getElem?_eq_some_iff.mp owned).1
    refine exchange_passed has rfl rfl ?_ (by simp [held, unspent]) ?_
    · intro alt entry apart
      simp only [held, owner_elsewhere owned apart]
    · have marked : (slot, Hold.returning) ∈ care.owners.set i (slot, .returning) :=
        List.mem_iff_getElem?.mpr ⟨i, by simp [inside]⟩
      simp [tenureOf, held, marked]
  | ownerSpent i slot _ owned has spent =>
    obtain ⟨_, hit, _, _, freed⟩ := guarded i slot .kept owned
    rw [has] at hit
    cases hit
    exact absurd rfl (freed.mp spent)
  | ownerReturned i slot entry owned has =>
    obtain ⟨alt, hit, still, _, freed⟩ := guarded i slot .returning owned
    rw [has] at hit
    cases hit
    have spent : entry.lease.released = true := freed.mpr (by simp)
    have marked : (slot, Hold.returning) ∈ care.owners := List.mem_of_getElem? owned
    have cleared : (slot, Hold.returning) ∉ care.owners.set i (slot, .given) := by
      intro mem
      obtain ⟨pos, placed⟩ := List.mem_iff_getElem?.mp mem
      by_cases here : i = pos
      · grind
      · rw [List.getElem?_set_ne here] at placed
        exact here (apart i pos _ _ owned placed rfl)
    refine exchange_returned has rfl (Roster.set_same _ _ _ has).symm ?_ (by simp [held, marked]) ?_
    · intro alt entry apart
      simp only [held, owner_elsewhere owned apart]
    · simp [tenureOf, held, spent, still, cleared]

end Refinement

end Custody

end NineGateway.Lifecycle
