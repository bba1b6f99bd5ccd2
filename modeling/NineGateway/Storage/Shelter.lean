import NineGateway.Storage.Accumulator

set_option autoImplicit false

namespace NineGateway.Storage

open Coalesce (amount batchAmount)
open Word64 (maxInt64 minInt64)

variable {κ τ ε : Type}

def Flight.isLanded : Flight κ → Bool
  | landed => true
  | _ => false

-- flush and the drain of Shutdown run one after the other in one goroutine each,
-- and the second only when the first is over, so that a batch is taken only when
-- none is out.
def Accumulation.grounded (system : Accumulation κ τ) : Bool := system.flights.all Flight.isLanded

def Serial (sys : Accumulation κ τ) : Prop :=
  ∀ i flight, sys.flights[i]? = some flight → flight.isLanded = false → (sys.flights.set i .landed).all Flight.isLanded = true

variable [DecidableEq κ]

structure Sheltered (saved : τ → κ → Int) (initial : τ) (billed : κ → Int) (sys : Accumulation κ τ) : Prop where
  tidy : Tidy sys
  serial : Serial sys
  written : ∀ id, 0 ≤ saved sys.table id - saved initial id ∧ saved sys.table id - saved initial id ≤ billed id
  taken : ∀ id, 0 ≤ saved sys.table id - saved initial id + sys.inFlight id ∧
    saved sys.table id - saved initial id + sys.inFlight id ≤ billed id
  held : ∀ id, 0 ≤ sys.held saved id - saved initial id ∧ sys.held saved id - saved initial id ≤ billed id

section Serial

variable {sys next : Accumulation κ τ}

theorem landed_amounts {flights : List (Flight κ)} (landed : flights.all Flight.isLanded = true) (id : κ) :
    Roster.total (Flight.amount id) flights = 0 := by
  induction flights with
  | nil => rfl
  | cons flight _ ih =>
    simp only [List.all_cons, Bool.and_eq_true] at landed
    cases flight with
    | landed => simpa [Roster.total, landed_amount] using ih landed.2
    | taken | failed => cases landed.1

variable {flight : Flight κ} {i : Nat}

theorem serial_in_flight (serial : Serial sys) (has : sys.flights[i]? = some flight) (out : flight.isLanded = false)
    (id : κ) : sys.inFlight id = flight.amount id := by
  have rest := landed_amounts (serial i flight has out) id
  rw [flights_set has, landed_amount] at rest
  unfold Accumulation.inFlight
  omega

theorem in_flight_set (serial : Serial sys) (has : sys.flights[i]? = some flight) (out : flight.isLanded = false) (new : Flight κ) (id : κ) :
    Roster.total (Flight.amount id) (sys.flights.set i new) = new.amount id := by
  have whole := serial_in_flight serial has out id
  rw [flights_set has]
  unfold Accumulation.inFlight at whole
  omega

omit [DecidableEq κ] in
theorem serial_set (serial : Serial sys) (has : sys.flights[i]? = some flight) (out : flight.isLanded = false) (new : Flight κ)
    (same : next.flights = sys.flights.set i new) : Serial next := by
  have grounded := serial i flight has out
  intro alt hit foundPresent foundOut
  rw [same] at foundPresent ⊢
  by_cases here : alt = i
  · subst alt
    rw [List.set_set]
    exact grounded
  · rw [List.getElem?_set_ne (Ne.symm here)] at foundPresent
    have apart : (sys.flights.set i .landed)[alt]? = some hit := by rwa [List.getElem?_set_ne (Ne.symm here)]
    exact absurd (List.all_eq_true.mp grounded hit (List.mem_of_getElem? apart)) (by simp [foundOut])

omit [DecidableEq κ] in
theorem serial_taken (grounded : sys.grounded = true) (batch : List (κ × Int)) (same : next.flights = sys.flights ++ [.taken batch]) :
    Serial next := by
  intro i flight has out
  rw [same] at has ⊢
  rcases Roster.entry_append has with there | ⟨rfl, rfl⟩
  · exact absurd (List.all_eq_true.mp grounded flight (List.mem_of_getElem? there)) (by simp [out])
  · simpa [Flight.isLanded, Accumulation.grounded] using grounded

end Serial

section Steps

variable {saved : τ → κ → Int} {initial : τ} {billed : κ → Int} {apply : τ → List (κ × Int) → Except ε τ} {deletes : Bool}
  {sys next : Accumulation κ τ} {rep : AccumulatorReply ε}

variable (safe : Sheltered saved initial billed sys)
include safe

theorem sheltered_fits (bounded : ∀ id, billed id ≤ maxInt64) {i : Nat} {batch : List (κ × Int)}
    (has : sys.flights[i]? = some (.failed batch)) : Fits sys.pending batch := by
  intro entry mem
  have diff : (batch.map Prod.fst).Nodup := safe.tidy _ (List.mem_of_getElem? has)
  have out := serial_in_flight safe.serial has rfl entry.1
  have bound := bounded entry.1
  have written := safe.written entry.1
  have held := safe.held entry.1
  simp only [Accumulation.held, out, failed_amount, Coalesce.batch_entry diff mem] at held
  rw [Token.signed_add_fits (by simp only [minInt64, maxInt64] at *; omega) (by omega)]
  rfl

theorem sheltered_conserving (bound : ∀ id, billed id ≤ maxInt64) (call : AccumulatorCall κ) : Restoring (Conserving true) sys call := by
  cases call with
  | restore =>
    simp only [Restoring]
    split
    · exact ⟨sheltered_fits safe bound ‹_›, fun absurd => by cases absurd⟩
    · trivial
  | _ => trivial

omit safe in
theorem sheltered_start (table : τ) : Sheltered saved table 0 (newAccumulation table) := by
  refine ⟨by simp [Tidy, newAccumulation], fun i flight has => (by cases has), fun id => ?_, fun id => ?_, fun id => ?_⟩
  · simp [newAccumulation]
  · simp [newAccumulation, Accumulation.inFlight]
  · simp [new_accumulation_held]

variable {later : κ → Int}

theorem sheltered_grows (grows : ∀ id, billed id ≤ later id) : Sheltered saved initial later sys :=
  ⟨safe.tidy, safe.serial, fun id => ⟨(safe.written id).1, (safe.written id).2.trans (grows id)⟩,
    fun id => ⟨(safe.taken id).1, (safe.taken id).2.trans (grows id)⟩,
    fun id => ⟨(safe.held id).1, (safe.held id).2.trans (grows id)⟩⟩

theorem sheltered_sink (grows : ∀ id, billed id ≤ later id) (bounded : ∀ id, later id ≤ maxInt64) {target : κ} {d : Int}
    (inside : sys.accepting = true → 0 ≤ sys.held saved target - saved initial target + d ∧
      sys.held saved target - saved initial target + d ≤ later target)
    (ran : accumulate deletes apply sys (.sink target d) = some (next, rep)) :
    Sheltered saved initial later next ∧ next.accepting = sys.accepting ∧
      (sys.accepting = true → ∀ id, next.held saved id = sys.held saved id + Coalesce.share id (target, d)) := by
  have taken := safe.taken target
  have grown := grows target
  have bound := bounded target
  have fits : ¬ (d = 0 ∨ sys.accepting = false) → sys.accepting = true ∧
      Token.checkedSignedAdd (amount sys.pending target) d = some (amount sys.pending target + d) := by
    intro heeded
    have accepting : sys.accepting = true := by
      by_contra closed
      exact heeded (.inr (by simpa using closed))
    have inside := inside accepting
    simp only [Accumulation.held] at inside
    refine ⟨accepting, Token.signed_add_fits ?_ ?_⟩ <;> simp only [minInt64, maxInt64] at * <;> omega
  cases accumulated ran with
  | ignored _ _ ignored =>
    refine ⟨sheltered_grows safe grows, rfl, fun accepting id => ?_⟩
    rcases ignored with zero | closed
    · simp [Coalesce.share, zero]
    · simp [closed] at accepting
  | overflowed _ _ heeded full => simp [merge, (fits heeded).2] at full
  | accepted _ _ due heeded merged =>
    have inside := inside (fits heeded).1
    have amounts := merge_amount merged (fun absurd => by cases absurd)
    have did : ∀ id, Accumulation.held saved { sys with pending := due } id = sys.held saved id + Coalesce.share id (target, d) := by
      simp only [Accumulation.held, Accumulation.inFlight, amounts]
      omega
    have wider := sheltered_grows safe grows
    refine ⟨⟨wider.tidy, wider.serial, wider.written, wider.taken, fun id => ?_⟩, rfl, fun _ => did⟩
    rw [did, Coalesce.share]
    split
    · rename_i here
      subst here
      simp only at inside ⊢
      omega
    · simpa using wider.held id

omit safe

theorem sheltered_flush (adds : Adds saved apply) (safe : Sheltered saved initial billed sys) (bound : ∀ identity, billed identity ≤ maxInt64)
    {call : AccumulatorCall κ} (quiet : ∀ target d, call ≠ .sink target d) (serial : ∀ order, call = .take order → sys.grounded = true)
    (ran : accumulate true apply sys call = some (next, rep)) :
    Sheltered saved initial billed next ∧ (next.accepting = true → sys.accepting = true) ∧
      ∀ identity, next.held saved identity = sys.held saved identity := by
  have tidy := tidy_step safe.tidy ran
  have still : ∀ identity, next.held saved identity = sys.held saved identity := by
    intro identity
    have did := held_step adds safe.tidy (sheltered_conserving safe bound call) ran identity
    cases call with
    | sink target d => exact absurd rfl (quiet target d)
    | _ => simpa [accepted] using did
  have held : ∀ identity, 0 ≤ next.held saved identity - saved initial identity ∧
      next.held saved identity - saved initial identity ≤ billed identity := by
    intro identity
    rw [still identity]
    exact safe.held identity
  cases accumulated ran with
  | ignored target d | overflowed target d | accepted target d => exact absurd rfl (quiet target d)
  | empty => exact ⟨safe, id, still⟩
  | taken order =>
    refine ⟨⟨tidy, serial_taken (serial order rfl) _ rfl, safe.written, fun identity => ?_, held⟩, id, still⟩
    have whole := held identity
    simpa [Accumulation.held, Accumulation.inFlight, add_sub_right_comm] using whole
  | written i _ table has applied =>
    have gained := adds _ _ _ applied
    have out := serial_in_flight safe.serial has rfl
    simp only [taken_amount] at out
    have total : ∀ identity, Roster.total (Flight.amount identity) (sys.flights.set i .landed) = 0 :=
      fun identity => in_flight_set safe.serial has rfl .landed identity
    have written : ∀ identity, 0 ≤ saved table identity - saved initial identity ∧
        saved table identity - saved initial identity ≤ billed identity := by
      intro identity
      have taken := safe.taken identity
      rw [out] at taken
      rw [gained identity]
      omega
    refine ⟨⟨tidy, serial_set safe.serial has rfl _ rfl, written, fun identity => ?_, held⟩, id, still⟩
    simpa [Accumulation.inFlight, total] using written identity
  | refused i batch _ has | unavailable i batch has =>
    have failed : ∀ identity, Roster.total (Flight.amount identity) (sys.flights.set i (.failed batch)) = sys.inFlight identity :=
      fun identity => (in_flight_set safe.serial has rfl (.failed batch) identity).trans (serial_in_flight safe.serial has rfl identity).symm
    refine ⟨⟨tidy, serial_set safe.serial has rfl _ rfl, safe.written, fun identity => ?_, held⟩, id, still⟩
    simpa [Accumulation.inFlight, failed] using safe.taken identity
  | restored i _ has =>
    have total : ∀ identity, Roster.total (Flight.amount identity) (sys.flights.set i .landed) = 0 :=
      fun identity => in_flight_set safe.serial has rfl .landed identity
    refine ⟨⟨tidy, serial_set safe.serial has rfl _ rfl, safe.written, fun identity => ?_, held⟩, id, still⟩
    simpa [Accumulation.inFlight, total] using safe.written identity
  | closed => exact ⟨⟨safe.tidy, safe.serial, safe.written, safe.taken, safe.held⟩, fun absurd => (by cases absurd), still⟩

end Steps

end NineGateway.Storage
