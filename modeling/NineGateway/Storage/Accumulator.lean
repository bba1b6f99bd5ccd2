import NineGateway.Library.Coalesce
import NineGateway.Library.Roster
import NineGateway.Library.Transition
import NineGateway.Token.Window

set_option autoImplicit false

namespace NineGateway.Storage

open Coalesce (amount batchAmount drain Lists)

section Pending

variable {κ : Type} [DecidableEq κ]

-- What Sink and both restores do with one delta. The budget accumulator's restore
-- deletes an entry that comes to zero as both Sinks do, the usage accumulator's
-- leaves it alone.
def merge (deletes : Bool) (pending : FiniteMap κ Int) (identity : κ) (delta : Int) : Option (FiniteMap κ Int) :=
  (Token.checkedSignedAdd (amount pending identity) delta).map (fun next =>
    if next = 0 then (if deletes then Finmap.erase identity pending else pending) else Finmap.insert identity next pending)

-- A delta whose sum overflows is skipped.
def restoreBatch (deletes : Bool) (pending : FiniteMap κ Int) (batch : List (κ × Int)) : FiniteMap κ Int :=
  batch.foldl (fun pending entry => (merge deletes pending entry.1 entry.2).getD pending) pending

end Pending

inductive Flight (κ : Type) where
  | taken (batch : List (κ × Int))
  | failed (batch : List (κ × Int))
  | landed

structure Accumulation (κ τ : Type) where
  pending : FiniteMap κ Int
  accepting : Bool
  flights : List (Flight κ)
  table : τ

def newAccumulation {κ τ : Type} (table : τ) : Accumulation κ τ := { pending := ∅, accepting := true, flights := [], table := table }

-- The critical sections of an accumulator. take is given the order in which it
-- meets the keys of the map, write whether the database carries the batch out.
-- The flush of the worker and the drain of Shutdown are made of the same calls.
inductive AccumulatorCall (κ : Type) where
  | sink (identity : κ) (delta : Int)
  | take (order : List κ)
  | write (flight : Nat) (database : Bool)
  | restore (flight : Nat)
  | close
deriving DecidableEq, Repr

inductive AccumulatorReply (ε : Type) where
  | ignored
  | accepted
  | overflowed
  | empty
  | flight (index : Nat)
  | written
  | unavailable
  | refused (failure : ε)
  | done
deriving DecidableEq, Repr

section Steps

variable {κ τ ε : Type} [DecidableEq κ]

def sinkStep (system : Accumulation κ τ) (identity : κ) (delta : Int) : Accumulation κ τ × AccumulatorReply ε :=
  if delta = 0 ∨ system.accepting = false then (system, .ignored)
  else
    match merge true system.pending identity delta with
    | none => (system, .overflowed)
    | some pending => ({ system with pending := pending }, .accepted)

def takeStep (system : Accumulation κ τ) (order : List κ) : Accumulation κ τ × AccumulatorReply ε :=
  if system.pending.vacant then (system, .empty)
  else
    ({ system with pending := ∅, flights := system.flights ++ [.taken (drain order system.pending)] }, .flight system.flights.length)

def writeStep (apply : τ → List (κ × Int) → Except ε τ) (system : Accumulation κ τ) (index : Nat) (batch : List (κ × Int)) (database : Bool) :
    Accumulation κ τ × AccumulatorReply ε :=
  if database then
    match apply system.table batch with
    | .ok table => ({ system with table := table, flights := system.flights.set index .landed }, .written)
    | .error failure => ({ system with flights := system.flights.set index (.failed batch) }, .refused failure)
  else ({ system with flights := system.flights.set index (.failed batch) }, .unavailable)

def accumulate (deletes : Bool) (apply : τ → List (κ × Int) → Except ε τ) (system : Accumulation κ τ) :
    AccumulatorCall κ → Option (Accumulation κ τ × AccumulatorReply ε)
  | .sink identity delta => some (sinkStep system identity delta)
  | .take order =>
    if Lists order system.pending then some (takeStep system order) else none
  | .write index database =>
    match system.flights[index]? with
    | some (.taken batch) => some (writeStep apply system index batch database)
    | _ => none
  | .restore index =>
    match system.flights[index]? with
    | some (.failed batch) =>
      some ({ system with pending := restoreBatch deletes system.pending batch, flights := system.flights.set index .landed }, .done)
    | _ => none
  | .close => some ({ system with accepting := false }, .done)

end Steps

open Accumulation

section Merging

variable {κ : Type} [DecidableEq κ] {due next : FiniteMap κ Int} {id : κ} {d : Int}

theorem merge_amount {deletes : Bool} (merged : merge deletes due id d = some next)
    (kept : deletes = false → amount due id + d = 0 → amount due id = 0) (q : κ) : amount next q = amount due q + Coalesce.share q (id, d) := by
  obtain ⟨sum, added, rfl⟩ := Option.map_eq_some_iff.mp merged
  obtain rfl := Token.signed_add_some added
  by_cases here : q = id
  · subst q
    by_cases zero : amount due id + d = 0
    · cases deletes with
      | true => simp [zero, Coalesce.share]
      | false =>
        have empty := kept rfl zero
        simp only [Coalesce.share, zero, if_true, Bool.false_eq_true, if_false]
        omega
    · simp [zero, Coalesce.share]
  · have apart : Coalesce.share q (id, d) = 0 := if_neg (Ne.symm here)
    rw [apart, Int.add_zero]
    by_cases zero : amount due id + d = 0
    · cases deletes <;> simp [zero, here]
    · simp [zero, here]

def Fits (pending : FiniteMap κ Int) (batch : List (κ × Int)) : Prop :=
  ∀ entry ∈ batch, (Token.checkedSignedAdd (amount pending entry.1) entry.2).isSome = true

instance (pending : FiniteMap κ Int) (batch : List (κ × Int)) : Decidable (Fits pending batch) :=
  inferInstanceAs (Decidable (∀ entry ∈ batch, _))

-- No entry of the batch meets its exact opposite.
def Uncancelled (pending : FiniteMap κ Int) (batch : List (κ × Int)) : Prop :=
  ∀ entry ∈ batch, amount pending entry.1 + entry.2 = 0 → amount pending entry.1 = 0

instance (pending : FiniteMap κ Int) (batch : List (κ × Int)) : Decidable (Uncancelled pending batch) :=
  inferInstanceAs (Decidable (∀ entry ∈ batch, _))

theorem restore_amount {deletes : Bool} {batch : List (κ × Int)} (distinct : (batch.map Prod.fst).Nodup) (fits : Fits due batch)
    (uncancelled : deletes = false → Uncancelled due batch) (q : κ) :
    amount (restoreBatch deletes due batch) q = amount due q + batchAmount batch q := by
  induction batch generalizing due with
  | nil => simp [restoreBatch]
  | cons entry rest ih =>
    obtain ⟨apart, others⟩ := List.nodup_cons.mp distinct
    obtain ⟨_, added⟩ := Option.isSome_iff_exists.mp (fits entry (by simp))
    obtain ⟨merged, made⟩ : ∃ merged, merge deletes due entry.1 entry.2 = some merged := ⟨_, by simp only [merge, added, Option.map_some]; rfl⟩
    have amounts := merge_amount made (fun keeps => uncancelled keeps entry (by simp))
    have untouched : ∀ alt ∈ rest, amount merged alt.1 = amount due alt.1 := by
      intro alt mem
      have diff : entry.1 ≠ alt.1 := fun same => apart (same ▸ List.mem_map_of_mem mem)
      rw [amounts, Coalesce.share, if_neg diff, Int.add_zero]
    have fitsLater : Fits merged rest := by
      intro alt mem
      rw [untouched alt mem]
      exact fits alt (by simp [mem])
    have uncancelledLater : deletes = false → Uncancelled merged rest := by
      intro keeps alt mem
      rw [untouched alt mem]
      exact uncancelled keeps alt (by simp [mem])
    have onward : restoreBatch deletes due (entry :: rest) = restoreBatch deletes merged rest := by simp [restoreBatch, made]
    rw [onward, ih others fitsLater uncancelledLater, amounts, Coalesce.batch_cons, Int.add_assoc]

end Merging

section Restores

variable {κ τ : Type} {first second : FiniteMap κ Int → List (κ × Int) → Prop} {sys : Accumulation κ τ} {call : AccumulatorCall κ}

def Restoring (condition : FiniteMap κ Int → List (κ × Int) → Prop) (system : Accumulation κ τ) : AccumulatorCall κ → Prop
  | .restore index =>
    match system.flights[index]? with
    | some (.failed batch) => condition system.pending batch
    | _ => True
  | _ => True

instance (condition : FiniteMap κ Int → List (κ × Int) → Prop) [∀ pending batch, Decidable (condition pending batch)] (system : Accumulation κ τ) :
    ∀ call, Decidable (Restoring condition system call)
  | .restore index =>
    match found : system.flights[index]? with
    | some (.failed batch) => decidable_of_iff (condition system.pending batch) (by simp [Restoring, found])
    | some (.taken batch) => isTrue (by simp [Restoring, found])
    | some .landed => isTrue (by simp [Restoring, found])
    | none => isTrue (by simp [Restoring, found])
  | .sink _ _ => isTrue trivial
  | .take _ => isTrue trivial
  | .write _ _ => isTrue trivial
  | .close => isTrue trivial

theorem restoring_and (one : Restoring first sys call) (two : Restoring second sys call) :
    Restoring (fun due batch => first due batch ∧ second due batch) sys call := by
  unfold Restoring at *
  split
  · split <;> simp_all
  · trivial

theorem restoring_mono (weaker : ∀ due batch, first due batch → second due batch) (restoring : Restoring first sys call) :
    Restoring second sys call := by
  unfold Restoring at *
  split
  · split
    · simp_all
    · trivial
  · trivial

end Restores

section Conservation

variable {κ τ ε : Type} [DecidableEq κ] (persisted : τ → κ → Int)

def Flight.batch : Flight κ → List (κ × Int)
  | taken batch => batch
  | failed batch => batch
  | landed => []

def Flight.amount (identity : κ) (flight : Flight κ) : Int := batchAmount flight.batch identity

@[simp] theorem taken_amount (id : κ) (batch : List (κ × Int)) : (Flight.taken batch).amount id = batchAmount batch id := rfl
@[simp] theorem failed_amount (id : κ) (batch : List (κ × Int)) : (Flight.failed batch).amount id = batchAmount batch id := rfl
@[simp] theorem landed_amount (id : κ) : (Flight.landed : Flight κ).amount id = 0 := rfl

def Accumulation.inFlight (system : Accumulation κ τ) (identity : κ) : Int := Roster.total (Flight.amount identity) system.flights

def Accumulation.held (system : Accumulation κ τ) (identity : κ) : Int :=
  persisted system.table identity + amount system.pending identity + system.inFlight identity

def accepted (identity : κ) (_ : Accumulation κ τ) (call : AccumulatorCall κ) (reply : AccumulatorReply ε) (_ : Accumulation κ τ) : Int :=
  match call, reply with
  | .sink target delta, .accepted => if target = identity then delta else 0
  | _, _ => 0

def Adds (apply : τ → List (κ × Int) → Except ε τ) : Prop :=
  ∀ table batch next, apply table batch = .ok next → ∀ id, persisted next id = persisted table id + batchAmount batch id

def Conserving (deletes : Bool) (due : FiniteMap κ Int) (batch : List (κ × Int)) : Prop :=
  Fits due batch ∧ (deletes = false → Uncancelled due batch)

def Tidy (sys : Accumulation κ τ) : Prop := ∀ flight ∈ sys.flights, (flight.batch.map Prod.fst).Nodup

variable {persisted} {apply : τ → List (κ × Int) → Except ε τ} {deletes : Bool} {sys next : Accumulation κ τ}
  {call : AccumulatorCall κ} {rep : AccumulatorReply ε}

-- What one critical section comes to.
inductive Accumulated (deletes : Bool) (apply : τ → List (κ × Int) → Except ε τ) (sys : Accumulation κ τ) :
    AccumulatorCall κ → Accumulation κ τ → AccumulatorReply ε → Prop where
  | ignored (target d) (idle : d = 0 ∨ sys.accepting = false) : Accumulated deletes apply sys (.sink target d) sys .ignored
  | overflowed (target d) (heeded : ¬ (d = 0 ∨ sys.accepting = false)) (full : merge true sys.pending target d = none) :
      Accumulated deletes apply sys (.sink target d) sys .overflowed
  | accepted (target d due) (heeded : ¬ (d = 0 ∨ sys.accepting = false)) (merged : merge true sys.pending target d = some due) :
      Accumulated deletes apply sys (.sink target d) { sys with pending := due } .accepted
  | empty (order) : Accumulated deletes apply sys (.take order) sys .empty
  | taken (order) (lists : Lists order sys.pending) : Accumulated deletes apply sys (.take order)
        { sys with pending := ∅, flights := sys.flights ++ [.taken (drain order sys.pending)] } (.flight sys.flights.length)
  | written (i batch table) (has : sys.flights[i]? = some (.taken batch)) (applied : apply sys.table batch = .ok table) :
      Accumulated deletes apply sys (.write i true) { sys with table := table, flights := sys.flights.set i .landed } .written
  | refused (i batch err) (has : sys.flights[i]? = some (.taken batch)) (denied : apply sys.table batch = .error err) :
      Accumulated deletes apply sys (.write i true) { sys with flights := sys.flights.set i (.failed batch) } (.refused err)
  | unavailable (i batch) (has : sys.flights[i]? = some (.taken batch)) :
      Accumulated deletes apply sys (.write i false) { sys with flights := sys.flights.set i (.failed batch) } .unavailable
  | restored (i batch) (has : sys.flights[i]? = some (.failed batch)) : Accumulated deletes apply sys (.restore i)
        { sys with pending := restoreBatch deletes sys.pending batch, flights := sys.flights.set i .landed } .done
  | closed : Accumulated deletes apply sys .close { sys with accepting := false } .done

theorem accumulated (ran : accumulate deletes apply sys call = some (next, rep)) : Accumulated deletes apply sys call next rep := by
  cases call with
  | sink target d =>
    simp only [accumulate, sinkStep, Option.some.injEq] at ran
    split at ran
    · cases ran
      exact .ignored target d ‹_›
    · split at ran <;> cases ran
      · exact .overflowed target d ‹_› ‹_›
      · exact .accepted target d _ ‹_› ‹_›
  | take order =>
    simp only [accumulate, takeStep, Option.ite_none_right_eq_some, Option.some.injEq] at ran
    obtain ⟨lists, ran⟩ := ran
    split at ran <;> cases ran
    · exact .empty order
    · exact .taken order lists
  | write i database =>
    simp only [accumulate] at ran
    split at ran
    · rename_i batch has
      cases database with
      | false =>
        cases ran
        exact .unavailable i batch has
      | true =>
        simp only [writeStep, if_true, Option.some.injEq] at ran
        split at ran <;> cases ran
        · exact .written i batch _ has ‹_›
        · exact .refused i batch _ has ‹_›
    · cases ran
  | restore i =>
    simp only [accumulate] at ran
    split at ran <;> cases ran
    exact .restored i _ ‹_›
  | close =>
    cases ran
    exact .closed

theorem flights_set {flight : Flight κ} {i : Nat} (has : sys.flights[i]? = some flight) (new : Flight κ) (id : κ) :
    Roster.total (Flight.amount id) (sys.flights.set i new) =
      Roster.total (Flight.amount id) sys.flights - flight.amount id + new.amount id := by
  have did := Roster.total_set (Flight.amount id) sys.flights i flight new has
  omega

theorem tidy_step (tidy : Tidy sys) (ran : accumulate deletes apply sys call = some (next, rep)) : Tidy next := by
  cases accumulated ran with
  | ignored | overflowed | accepted | empty | closed => exact tidy
  | taken _ lists => exact Roster.forall_append _ _ tidy (by simpa [Flight.batch, Coalesce.drain_keys] using lists.1)
  | written | restored => exact Roster.forall_set _ _ _ tidy List.nodup_nil
  | refused _ _ _ has | unavailable _ _ has =>
    have diff := tidy _ (List.mem_of_getElem? has)
    exact Roster.forall_set _ _ _ tidy diff

theorem held_step (adds : Adds persisted apply) (tidy : Tidy sys) (restores : Restoring (Conserving deletes) sys call)
    (ran : accumulate deletes apply sys call = some (next, rep)) (id : κ) :
    next.held persisted id = sys.held persisted id + accepted id sys call rep next := by
  cases accumulated ran with
  | ignored | overflowed | empty => simp [accepted]
  | closed => simp [accepted, held, inFlight]
  | accepted _ _ _ _ merged =>
    have amounts := merge_amount merged (fun absurd => by cases absurd) id
    simp only [held, inFlight, accepted, amounts, Coalesce.share]
    omega
  | taken _ lists =>
    simp only [held, inFlight, accepted, Roster.total_append, taken_amount, Coalesce.drain_all lists, Coalesce.amount_empty]
    omega
  | written _ _ _ has applied =>
    have left := flights_set has .landed id
    simp only [taken_amount, landed_amount] at left
    simp only [held, inFlight, accepted, left, adds _ _ _ applied id]
    omega
  | refused _ batch _ has | unavailable _ batch has =>
    have kept := flights_set has (.failed batch) id
    simp only [taken_amount, failed_amount] at kept
    simp only [held, inFlight, accepted, kept]
    omega
  | restored _ batch has =>
    have left := flights_set has .landed id
    have diff : (batch.map Prod.fst).Nodup := tidy _ (List.mem_of_getElem? has)
    simp only [Restoring, has] at restores
    have amounts := restore_amount diff restores.1 restores.2 id
    simp only [failed_amount, landed_amount] at left
    simp only [held, inFlight, accepted, left, amounts]
    omega

theorem new_accumulation_held (persisted : τ → κ → Int) (table : τ) (id : κ) :
    (newAccumulation table : Accumulation κ τ).held persisted id = persisted table id := by
  simp [held, inFlight, newAccumulation]

theorem held_run (adds : Adds persisted apply) {start final : Accumulation κ τ} {cs : List (AccumulatorCall κ)}
    {outs : List (AccumulatorReply ε)} (tidy : Tidy start) (along :
      Transition.Along (accumulate deletes apply) (Restoring (Conserving deletes)) start cs)
    (run : Transition.execute (accumulate deletes apply) start cs = some (final, outs)) (id : κ) : final.held persisted id =
      start.held persisted id + Transition.tally (accumulate deletes apply) (accepted id) start cs := by
  have got := Transition.run_tallied (accepted id) (fun w st => Tidy st ∧ st.held persisted id = start.held persisted id + w)
    (fun w st call next rep kept restores ran =>
      ⟨tidy_step kept.1 ran, by rw [held_step adds kept.1 restores ran id, kept.2, Int.add_assoc]⟩)
    ⟨tidy, (Int.add_zero _).symm⟩ along run
  simpa using got.2

end Conservation

end NineGateway.Storage
