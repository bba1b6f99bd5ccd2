import NineGateway.Money

set_option autoImplicit false

namespace NineGateway

inductive TotalSource where
  | absent
  | observed
  | derived
deriving DecidableEq, Repr

-- An unknown count is none. The constructors of the accounting package accept no
-- negative count.
structure Usage where
  input : Option Nat
  output : Option Nat
  total : Option Nat
  cachedInput : Option Nat
  reasoningOutput : Option Nat
  totalSource : TotalSource
deriving DecidableEq, Repr

def unknownUsage : Usage := ⟨none, none, none, none, none, .absent⟩

namespace Completion

structure Emission where
  usage : Usage
  cost : Money
deriving DecidableEq, Repr

-- The one-shot boundary between the request handler and the deferred
-- observation. Once the record is out, a transferred completion was enriched.
structure CompletionOwnership where
  completed : Bool
  transferred : Bool
  enriched : Bool
  finalized : Bool
  usage : Usage
  cost : Money
  lastMeaningful : Option Int
  timingInvalid : Bool
  settled : finalized = true → transferred = true → enriched = true
deriving DecidableEq, Repr

def newCompletionOwnership : CompletionOwnership :=
  { completed := false, transferred := false, enriched := false, finalized := false, usage := unknownUsage, cost := .unknown
    lastMeaningful := none, timingInvalid := false, settled := by simp }

namespace CompletionOwnership

def transfer (ownership : CompletionOwnership) : Option CompletionOwnership :=
  if taken : ownership.completed || ownership.finalized then none
  else some { ownership with transferred := true, settled := by simp_all }

-- A zero last meaningful instant, like an unknown one, makes the timing invalid.
def finishWithTiming (ownership : CompletionOwnership) (usage : Usage) (cost : Money) (lastMeaningful : Option Int) :
    CompletionOwnership × Option Emission :=
  if ownership.enriched || ownership.finalized then (ownership, none)
  else
    let enriched : CompletionOwnership :=
      { ownership with
        enriched := true, usage := usage, cost := cost
        lastMeaningful := lastMeaningful.orElse (fun _ => ownership.lastMeaningful)
        timingInvalid := ownership.timingInvalid || lastMeaningful.isNone, settled := by simp }
    if !ownership.completed then (enriched, none)
    else ({ enriched with finalized := true, settled := by simp [enriched] }, some ⟨usage, cost⟩)

def finish (own : CompletionOwnership) (usage : Usage) (cost : Money) : CompletionOwnership × Option Emission :=
  own.finishWithTiming usage cost none

def complete (ownership : CompletionOwnership) : CompletionOwnership × Option Emission :=
  if ownership.completed || ownership.finalized then (ownership, none)
  else if ready : !ownership.transferred || ownership.enriched then
    ({ ownership with completed := true, finalized := true, settled := by grind }, some ⟨ownership.usage, ownership.cost⟩)
  else ({ ownership with completed := true, settled := ownership.settled }, none)

section Facts

variable (ownership : CompletionOwnership) (usage : Usage) (cost : Money) (lastSeen : Option Int)

theorem finish_transferred : (ownership.finishWithTiming usage cost lastSeen).1.transferred = ownership.transferred := by
  unfold finishWithTiming
  split
  · rfl
  · simp only
    split <;> rfl

theorem finish_enriched : (ownership.finishWithTiming usage cost lastSeen).1.transferred = true →
    (ownership.finishWithTiming usage cost lastSeen).1.enriched = true := by
  intro transferred
  rw [finish_transferred] at transferred
  unfold finishWithTiming
  split
  · rename_i closed
    rcases Bool.or_eq_true_iff.mp closed with enriched | finalized
    · exact enriched
    · exact ownership.settled finalized transferred
  · simp only
    split <;> rfl

theorem finish_keeps (enriched : ownership.enriched = true) : (ownership.finishWithTiming usage cost lastSeen).1.enriched = true := by
  simp [finishWithTiming, enriched]

theorem complete_transferred : ownership.complete.1.transferred = ownership.transferred := by
  unfold complete
  split
  · rfl
  · split <;> rfl

theorem complete_enriched : ownership.complete.1.enriched = ownership.enriched := by
  unfold complete
  split
  · rfl
  · split <;> rfl

def Emits (out : CompletionOwnership × Option Emission) : Prop :=
  out.2 = none ∧ out.1.finalized = ownership.finalized ∨ out.2.isSome = true ∧ ownership.finalized = false ∧ out.1.finalized = true

theorem finish_emits : ownership.Emits (ownership.finishWithTiming usage cost lastSeen) := by
  unfold finishWithTiming
  split
  · exact .inl ⟨rfl, rfl⟩
  rename_i new
  simp only [Bool.or_eq_true, not_or, Bool.not_eq_true] at new
  simp only
  split
  · exact .inl ⟨rfl, rfl⟩
  · exact .inr ⟨rfl, new.2, rfl⟩

theorem complete_emits : ownership.Emits ownership.complete := by
  unfold complete
  split
  · exact .inl ⟨rfl, rfl⟩
  rename_i new
  simp only [Bool.or_eq_true, not_or, Bool.not_eq_true] at new
  split
  · exact .inr ⟨rfl, new.2, rfl⟩
  · exact .inl ⟨rfl, rfl⟩

theorem transfer_unfinalized {after : CompletionOwnership} (taken : ownership.transfer = some after) :
    ownership.finalized = false ∧ after.finalized = false := by
  unfold transfer at taken
  split at taken
  · cases taken
  rename_i new
  simp only [Bool.or_eq_true, not_or, Bool.not_eq_true] at new
  cases taken
  exact ⟨new.2, new.2⟩

end Facts

end CompletionOwnership

end Completion

end NineGateway
