import Mathlib.Data.List.Basic

set_option autoImplicit false

namespace NineGateway.Observation

abbrev ContentCoding := UInt8

def contentCodingIdentity : ContentCoding := 0
def contentCodingGZIP : ContentCoding := 1

def validContentCoding (coding : ContentCoding) : Bool := coding = contentCodingIdentity || coding = contentCodingGZIP

def defaultUsageObservationMaxBytes : Nat := 8 * 1024 * 1024
def defaultUsageObservationQueueCapacity : Nat := 128

-- The tickets are named by the reservations that issued them, the completion by
-- its request.
structure UsageObservationJob where
  bytes : List UInt8
  contentCoding : ContentCoding
  ticket : Option Nat
  budgetTicket : Option Nat
  completion : Option Nat
deriving DecidableEq, Repr

def newUsageObservationJobOwned (captured : List UInt8) (coding : ContentCoding) (ticket : Option Nat) : UsageObservationJob :=
  { bytes := captured.take defaultUsageObservationMaxBytes, contentCoding := coding, ticket := ticket, budgetTicket := none, completion := none }

-- The slots channel holds slots tokens. A job taken off the queue gives its slot
-- back in a step of its own, so some are on their way. The jobs behind the
-- submitted counter are kept.
structure UsageObservationWorker where
  capacity : Nat
  maxBytes : Nat
  slots : Nat
  returning : Nat
  queue : List UsageObservationJob
  accepting : Bool
  submitted : List UsageObservationJob
deriving DecidableEq, Repr

def newUsageObservationWorker (capacity maxBytes : Int) : UsageObservationWorker :=
  let places := if capacity ≤ 0 then defaultUsageObservationQueueCapacity else capacity.toNat
  { capacity := places
    maxBytes := if maxBytes ≤ 0 then defaultUsageObservationMaxBytes else min maxBytes.toNat defaultUsageObservationMaxBytes
    slots := places, returning := 0, queue := [], accepting := true, submitted := [] }

namespace UsageObservationWorker

-- The send blocks while the channel is full.
def releaseSlot (worker : UsageObservationWorker) : Option UsageObservationWorker :=
  if worker.slots < worker.capacity then some { worker with slots := worker.slots + 1 } else none

end UsageObservationWorker

-- How far a call of submit has come. It claims a slot before it looks, under the
-- lock and twice, whether the worker still accepts.
inductive Submission where
  | checking
  | claiming
  | admitting
  | enqueueing
deriving DecidableEq, Repr

def Submission.holds : Submission → Bool
  | checking => false
  | claiming => false
  | admitting => true
  | enqueueing => true

inductive Submitted where
  | pending (submission : Submission)
  | accepted
  | dropped
deriving DecidableEq, Repr

def Submitted.holds : Submitted → Bool
  | pending submission => submission.holds
  | accepted => false
  | dropped => false

def submit (worker : UsageObservationWorker) (job : UsageObservationJob) : Submission → Option (UsageObservationWorker × Submitted)
  | .checking =>
    if job.ticket = none ∧ job.budgetTicket = none ∧ job.completion = none ∨ validContentCoding job.contentCoding = false ∨
        worker.maxBytes < job.bytes.length then some (worker, .dropped)
    else some (worker, .pending .claiming)
  | .claiming => if worker.slots = 0 then some (worker, .dropped) else some ({ worker with slots := worker.slots - 1 }, .pending .admitting)
  | .admitting =>
    if worker.accepting then some (worker, .pending .enqueueing)
    else worker.releaseSlot.map (fun freed => (freed, .dropped))
  | .enqueueing =>
    if worker.accepting ∧ worker.queue.length < worker.capacity then
      some ({ worker with queue := worker.queue ++ [job], submitted := worker.submitted ++ [job] }, .accepted)
    else worker.releaseSlot.map (fun freed => (freed, .dropped))

inductive Act where
  | take
  | giveBack
  | stop
deriving DecidableEq, Repr

def act (worker : UsageObservationWorker) : Act → Option UsageObservationWorker
  | .take =>
    match worker.queue with
    | [] => none
    | _ :: rest => some { worker with queue := rest, returning := worker.returning + 1 }
  | .giveBack =>
    if worker.returning = 0 then none else worker.releaseSlot.map (fun freed => { freed with returning := worker.returning - 1 })
  | .stop => some { worker with accepting := false }

def UsageObservationWorker.Balanced (worker : UsageObservationWorker) (held : Nat) : Prop :=
  worker.slots + worker.queue.length + worker.returning + held = worker.capacity

open UsageObservationWorker (releaseSlot)

section Facts

variable {worker next : UsageObservationWorker} {job : UsageObservationJob} {held : Nat}

theorem new_balanced (cap maxBytes : Int) : (newUsageObservationWorker cap maxBytes).Balanced 0 := by
  simp [UsageObservationWorker.Balanced, newUsageObservationWorker]

theorem release_slot_eq (freed : worker.releaseSlot = some next) :
    worker.slots < worker.capacity ∧ next = { worker with slots := worker.slots + 1 } := by
  unfold releaseSlot at freed
  split at freed
  · rename_i room
    exact ⟨room, (Option.some.inj freed).symm⟩
  · cases freed

inductive SubmitOutcome (worker : UsageObservationWorker) (job : UsageObservationJob) : Submission → UsageObservationWorker → Submitted → Prop where
  | refused (sub) (unclaimed : sub.holds = false) : SubmitOutcome worker job sub worker .dropped
  | checked : SubmitOutcome worker job .checking worker (.pending .claiming)
  | claimed (free : worker.slots ≠ 0) : SubmitOutcome worker job .claiming { worker with slots := worker.slots - 1 } (.pending .admitting)
  | admitted : SubmitOutcome worker job .admitting worker (.pending .enqueueing)
  | freed (sub) (claimed : sub.holds = true) (room : worker.slots < worker.capacity) :
      SubmitOutcome worker job sub { worker with slots := worker.slots + 1 } .dropped
  | queued (accepting : worker.accepting = true) (room : worker.queue.length < worker.capacity) :
      SubmitOutcome worker job .enqueueing { worker with queue := worker.queue ++ [job], submitted := worker.submitted ++ [job] } .accepted

variable {sub : Submission} {sent : Submitted} {action : Act}

theorem submit_outcome (did : submit worker job sub = some (next, sent)) : SubmitOutcome worker job sub next sent := by
  have released : ∀ holding : sub.holds = true, worker.releaseSlot.map (fun freed => (freed, Submitted.dropped)) = some (next, sent) →
      SubmitOutcome worker job sub next sent := by
    intro holding given
    obtain ⟨_, released, ⟨⟩⟩ := Option.map_eq_some_iff.mp given
    obtain ⟨room, rfl⟩ := release_slot_eq released
    exact .freed sub holding room
  cases sub with
  | checking =>
    simp only [submit] at did
    split at did
    · cases did
      exact .refused _ rfl
    · cases did
      exact .checked
  | claiming =>
    simp only [submit] at did
    split at did
    · cases did
      exact .refused _ rfl
    · rename_i free
      cases did
      exact .claimed free
  | admitting =>
    simp only [submit] at did
    split at did
    · cases did
      exact .admitted
    · exact released rfl did
  | enqueueing =>
    simp only [submit] at did
    split at did
    · rename_i open_
      cases did
      exact .queued open_.1 open_.2
    · exact released rfl did

theorem submit_balanced (out : SubmitOutcome worker job sub next sent)
    (even : worker.Balanced (held + sub.holds.toNat)) : next.Balanced (held + sent.holds.toNat) := by
  unfold UsageObservationWorker.Balanced at even ⊢
  cases out with
  | refused _ unclaimed => simpa [unclaimed, Submitted.holds] using even
  | checked | admitted => exact even
  | claimed =>
    simp only [Submitted.holds, Submission.holds, Bool.toNat_true, Bool.toNat_false] at even ⊢
    omega
  | freed _ claimed =>
    simp only [Submitted.holds, claimed, Bool.toNat_true, Bool.toNat_false] at even ⊢
    omega
  | queued =>
    simp only [Submitted.holds, Submission.holds, Bool.toNat_true, Bool.toNat_false, List.length_append, List.length_singleton] at even ⊢
    omega

theorem act_balanced (did : act worker action = some next) (even : worker.Balanced held) : next.Balanced held := by
  unfold UsageObservationWorker.Balanced at even ⊢
  cases action with
  | take =>
    simp only [act] at did
    split at did <;> cases did
    rename_i head rest queued
    simp only [queued, List.length_cons] at even ⊢
    omega
  | giveBack =>
    simp only [act] at did
    split at did
    · cases did
    obtain ⟨freed, released, rfl⟩ := Option.map_eq_some_iff.mp did
    obtain ⟨_, rfl⟩ := release_slot_eq released
    simp only at even ⊢
    omega
  | stop =>
    cases did
    exact even

theorem submit_enabled (job : UsageObservationJob) (even : worker.Balanced (held + sub.holds.toNat)) :
    (submit worker job sub).isSome = true := by
  unfold UsageObservationWorker.Balanced at even
  have room : sub.holds = true → worker.releaseSlot.isSome = true := by
    intro holding
    simp only [holding, Bool.toNat_true] at even
    simp only [releaseSlot]
    rw [if_pos (by omega)]
    rfl
  cases sub with
  | checking | claiming =>
    simp only [submit]
    split <;> rfl
  | admitting | enqueueing =>
    simp only [submit]
    split
    · rfl
    · simpa using room rfl

theorem submit_kept (out : SubmitOutcome worker job sub next sent) : ∀ fine ∈ worker.submitted, fine ∈ next.submitted := by
  intro fine mem
  cases out with
  | queued => exact List.mem_append_left _ mem
  | refused | checked | claimed | admitted | freed => exact mem

theorem act_submitted (did : act worker action = some next) : next.submitted = worker.submitted := by
  cases action with
  | take =>
    simp only [act] at did
    split at did <;> cases did
    rfl
  | giveBack =>
    simp only [act] at did
    split at did
    · cases did
    · obtain ⟨_, freed, rfl⟩ := Option.map_eq_some_iff.mp did
      obtain ⟨_, rfl⟩ := release_slot_eq freed
      rfl
  | stop =>
    cases did
    rfl

end Facts

end NineGateway.Observation
