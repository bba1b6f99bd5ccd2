import NineGateway.Token.Charges

set_option autoImplicit false

namespace NineGateway.Token

open Transition

-- Loads happen before serving.
def Call.loads : Call → Bool
  | .loadCommitted _ _ => true
  | _ => false

-- The windows of each key as the callers have registered and replaced them, read
-- from the calls and their answers.
structure PolicyHistory where
  pending : Option PendingReplacement
  current : FiniteMap String (List TokenWindow)

namespace PolicyHistory

def blank : PolicyHistory := { pending := none, current := ∅ }

def note (history : PolicyHistory) (call : Call) (reply : Reply) : PolicyHistory :=
  match call with
  | .registerPolicy keyID windows => { history with current := Finmap.insert keyID windows history.current }
  | .replaceBegin _ keyID _ newWindows callback =>
    if callback && decide (reply.answer = .done) then { history with pending := some ⟨keyID, newWindows⟩ } else history
  | .replaceEnd committed =>
    match history.pending with
    | none => history
    | some pending =>
      if committed then { pending := none, current := Finmap.insert pending.keyID pending.newWindows history.current }
      else { history with pending := none }
  | _ => history

def of (calls : List Call) (replies : List Reply) : PolicyHistory :=
  (calls.zip replies).foldl (fun history entry => history.note entry.1 entry.2) blank

theorem of_append {cs : List Call} {outs : List Reply} (matching : cs.length = outs.length) (call : Call) (rep : Reply) :
    of (cs ++ [call]) (outs ++ [rep]) = (of cs outs).note call rep := by
  simp [of, List.zip_append matching]

end PolicyHistory

structure Tracks (history : PolicyHistory) (sys : TokenSystem) : Prop where
  pending : history.pending = sys.replacing
  current : ∀ key, (history.current.lookup key).map List.toFinset = sys.limiter.policyWindows.lookup key

structure PolicyView where
  pending : Option PendingReplacement
  windows : FiniteMap String (Finset TokenWindow)

def TokenSystem.policyView (sys : TokenSystem) : PolicyView := ⟨sys.replacing, sys.limiter.policyWindows⟩

def PolicyView.note (view : PolicyView) (call : Call) (rep : Reply) : PolicyView :=
  match call with
  | .registerPolicy keyID windows => { view with windows := Finmap.insert keyID windows.toFinset view.windows }
  | .replaceBegin _ keyID _ newWindows callback =>
    if callback && decide (rep.answer = .done) then { view with pending := some ⟨keyID, newWindows⟩ } else view
  | .replaceEnd committed =>
    match view.pending with
    | none => view
    | some pending =>
      if committed then { pending := none, windows := Finmap.insert pending.keyID pending.newWindows.toFinset view.windows }
      else { view with pending := none }
  | _ => view

section Tracking

variable {history : PolicyHistory} {sys next : TokenSystem} {call : Call} {rep : Reply}

structure Framed (lim after : TokenLimiter) : Prop where
  policies : after.policyWindows = lim.policyWindows
  clock : after.lastNow = lim.lastNow ∨ ∃ read, after.lastNow = clampTime lim.lastNow read

theorem framed_same (lim : TokenLimiter) (bins : TokenBuckets) : Framed lim { lim with buckets := bins } := ⟨rfl, .inl rfl⟩

theorem framed_clean (lim : TokenLimiter) (read : Int) (bins : TokenBuckets) : Framed lim { lim.cleaned read with buckets := bins } :=
  ⟨rfl, .inr ⟨read, rfl⟩⟩

variable (lim : TokenLimiter)

theorem reserve_framed (read : Int) (key : String) (wins : List TokenWindow) (amt : Int) : Framed lim (reserve lim read key wins amt).1 := by
  have out := reserve_outcome lim read key wins amt
  generalize (reserve lim read key wins amt).1 = after at out
  generalize (reserve lim read key wins amt).2 = answer at out
  cases out with
  | refused | unlimited => exact framed_same _ _
  | rejected | admitted => exact framed_clean _ read _

theorem finalize_framed (read : Int) (hold : TokenReservation) (term : Terminal) : Framed lim (finalizeOnce lim read hold term).1 := by
  unfold finalizeOnce
  split
  · exact framed_same _ _
  simp only [finalize]
  split
  · exact framed_same _ _
  · split
    · exact framed_clean _ read _
    · split <;> exact framed_clean _ read _

theorem adjust_framed (read : Int) (ticket : TokenAdjustmentTicket) (actual : Int) : Framed lim (adjust lim read ticket actual).1 := by
  unfold adjust
  split
  · exact framed_same _ _
  split
  · exact framed_same _ _
  split
  · exact framed_same _ _
  · simp only
    split
    · exact framed_same _ _
    · split
      · exact framed_same _ _
      · exact framed_clean _ read _

theorem load_policies (now : Int) (rows : List CommittedTokenBucket) : (loadCommitted lim now rows).1.policyWindows = lim.policyWindows := by
  unfold loadCommitted
  split
  · rfl
  · split <;> rfl

structure Stepped (sys : TokenSystem) (call : Call) (next : TokenSystem) (rep : Reply) : Prop where
  view : next.policyView = sys.policyView.note call rep
  clock : call.loads = false →
    next.limiter.lastNow = sys.limiter.lastNow ∨ ∃ read, next.limiter.lastNow = clampTime sys.limiter.lastNow read

theorem stepped_framed {lim : TokenLimiter} {holds : List TokenReservation} (framed : Framed sys.limiter lim)
    (plain : sys.policyView.note call rep = sys.policyView) :
    Stepped sys call { sys with limiter := lim, reservations := holds } rep := by
  refine ⟨?_, fun _ => framed.clock⟩
  rw [plain, TokenSystem.policyView, framed.policies]
  rfl

theorem step_stepped (ran : step sys call = some (next, rep)) : Stepped sys call next rep := by
  cases call with
  | loadCommitted =>
    cases ran
    refine ⟨?_, nofun⟩
    rw [TokenSystem.policyView, load_policies]
    rfl
  | registerPolicy =>
    simp only [step, Option.ite_none_left_eq_some, Option.some.injEq, Prod.mk.injEq] at ran
    obtain ⟨_, rfl, rfl⟩ := ran
    exact ⟨rfl, fun _ => .inl rfl⟩
  | allowsPolicyReplacement read =>
    simp only [step, Option.ite_none_left_eq_some, Option.some.injEq, Prod.mk.injEq] at ran
    obtain ⟨_, rfl, rfl⟩ := ran
    exact stepped_framed (framed_clean _ read _) rfl
  | replaceBegin read key oldWindows newWindows callback =>
    simp only [step, Option.ite_none_left_eq_some, Option.some.injEq] at ran
    have replaced := ran.2
    unfold replaceStep at replaced
    split at replaced
    · cases replaced
      exact stepped_framed (framed_clean _ read _) (by simp [PolicyView.note, quietly])
    split at replaced
    · rename_i gone
      cases replaced
      have missing : callback = false := by simpa using gone
      exact stepped_framed (framed_clean _ read _) (by simp [PolicyView.note, missing])
    · rename_i given
      cases replaced
      have held : callback = true := by simpa using given
      refine ⟨?_, fun _ => .inr ⟨read, rfl⟩⟩
      simp only [PolicyView.note, held, quietly, decide_true, Bool.and_self, if_true]
      rfl
  | replaceEnd committed =>
    cases begun : sys.replacing with
    | none => simp [step, begun] at ran
    | some =>
      cases committed <;> simp only [step, begun, if_true, Bool.false_eq_true, if_false] at ran <;> cases ran <;>
        exact ⟨by simp [PolicyView.note, TokenSystem.policyView, begun, registerPolicy], fun _ => .inl rfl⟩
  | reserve read key wins amt =>
    simp only [step, Option.ite_none_left_eq_some, Option.some.injEq] at ran
    have framed := reserve_framed sys.limiter read key wins amt
    generalize reserve sys.limiter read key wins amt = result at ran framed
    obtain ⟨_, ans⟩ := result
    cases ans with
    | ok | error =>
      obtain ⟨rfl, rfl⟩ := Prod.mk.inj ran.2
      exact stepped_framed framed rfl
  | finalize i =>
    cases has : sys.reservations[i]? with
    | none => simp [step, has] at ran
    | some =>
      simp only [step, has] at ran
      cases ran
      exact stepped_framed (finalize_framed _ _ _ _) rfl
  | adjust =>
    rcases ticket_cases ran with ⟨rfl, rfl⟩ | ⟨_, _, _, _, did⟩
    · exact stepped_framed (framed_same _ _) rfl
    · cases did
      exact stepped_framed (adjust_framed _ _ _ _) rfl
  | notify =>
    rcases ticket_cases ran with ⟨rfl, rfl⟩ | ⟨_, _, _, _, did⟩
    · exact stepped_framed (framed_same _ _) rfl
    · cases (Option.ite_none_right_eq_some.mp did).2
      exact stepped_framed (framed_same _ _) rfl
  | invalidate =>
    rcases ticket_cases ran with ⟨rfl, rfl⟩ | ⟨_, _, _, _, did⟩
    · exact stepped_framed (framed_same _ _) rfl
    · cases did
      exact stepped_framed (framed_same _ _) rfl
  | retryAfter read =>
    simp only [step] at ran
    split at ran
    · cases ran
      exact stepped_framed (framed_same _ _) rfl
    · cases ran
      exact ⟨rfl, fun _ => .inr ⟨read, rfl⟩⟩
  | len read =>
    cases ran
    exact stepped_framed (framed_clean _ read _) rfl

theorem policy_view_step (ran : step sys call = some (next, rep)) : next.policyView = sys.policyView.note call rep := (step_stepped ran).view

theorem tracks_view (tracks : Tracks history sys) (call : Call) (rep : Reply) :
    (history.note call rep).pending = (sys.policyView.note call rep).pending ∧
      ∀ key, ((history.note call rep).current.lookup key).map List.toFinset = (sys.policyView.note call rep).windows.lookup key := by
  obtain ⟨due, cur⟩ := tracks
  have put : ∀ (own : String) (wins : List TokenWindow) (q : String), ((Finmap.insert own wins history.current).lookup q).map List.toFinset =
        (Finmap.insert own wins.toFinset sys.limiter.policyWindows).lookup q := by
    intro own wins q
    simp only [FiniteMap.lookup_put]
    split
    · rfl
    · exact cur q
  cases call with
  | registerPolicy key wins => exact ⟨due, put key wins⟩
  | replaceBegin =>
    simp only [PolicyHistory.note, PolicyView.note]
    split
    · exact ⟨rfl, cur⟩
    · exact ⟨due, cur⟩
  | replaceEnd committed =>
    simp only [PolicyHistory.note, PolicyView.note, TokenSystem.policyView, due]
    cases held : sys.replacing with
    | none => exact ⟨due.trans held, cur⟩
    | some begun =>
      cases committed with
      | true => exact ⟨rfl, put begun.keyID begun.newWindows⟩
      | false => exact ⟨rfl, cur⟩
  | _ => exact ⟨due, cur⟩

theorem tracks_step (tracks : Tracks history sys) (ran : step sys call = some (next, rep)) : Tracks (history.note call rep) next := by
  obtain ⟨due, cur⟩ := tracks_view tracks call rep
  rw [← policy_view_step ran] at due cur
  exact ⟨due, cur⟩

theorem tracks_run {cs : List Call} {outs : List Reply} (run : execute step newTokenSystem cs = some (sys, outs)) :
    Tracks (PolicyHistory.of cs outs) sys := by
  refine run_traced (fun past told st => Tracks (PolicyHistory.of past told) st) ?_ ⟨rfl, fun _ => rfl⟩ along_always run
  intro past told st call next rep got tracks _ transition
  rw [PolicyHistory.of_append (execute_length got)]
  exact tracks_step tracks transition

end Tracking

theorem same_window_set {configured : Finset TokenWindow} {wins norm : List TokenWindow} (order : norm.Perm wins) (diff : wins.Nodup)
    (same : sameTokenWindowSet configured norm = true) : wins.toFinset = configured := by
  simp only [sameTokenWindowSet, Bool.and_eq_true, decide_eq_true_eq, List.all_eq_true] at same
  obtain ⟨sized, inside⟩ := same
  refine Finset.eq_of_subset_of_card_le ?_ ?_
  · intro win mem
    exact inside win (order.mem_iff.mpr (List.mem_toFinset.mp mem))
  · rw [List.toFinset_card_of_nodup diff, sized, order.length_eq]

def Rejected (reply : Reply) : Prop := ∃ resetAt, reply.answer = .rejected resetAt

theorem reserve_other_windows {lim : TokenLimiter} {key : String} {configured : Finset TokenWindow} {wins : List TokenWindow} (read amt : Int)
    (noted : lim.policyWindows.lookup key = some configured) (alt : wins.toFinset ≠ configured) :
    (∃ resetAt, (reserve lim read key wins amt).2 = .error resetAt) ↔ wins ≠ [] ∨ amt ≤ 0 := by
  unfold reserve
  by_cases sign : amt ≤ 0
  · simp [sign]
  simp only [sign, if_false, or_false]
  cases normal : normalizeTokenWindows wins with
  | none =>
    have shown : wins ≠ [] := by
      rintro rfl
      cases normal
    simp [shown]
  | some norm =>
    obtain ⟨order, diff, _⟩ := normalize_some normal
    by_cases empty : wins = []
    · obtain rfl : norm = [] := List.perm_nil.mp (empty ▸ order)
      simp [empty]
    have shown : norm ≠ [] := fun none => empty (none ▸ order).symm.eq_nil
    have stale : stalePolicy lim key norm = true := by
      simp only [stalePolicy, noted, Bool.not_eq_true']
      by_contra same
      exact alt (same_window_set order diff (by simpa using same))
    simp [shown, stale, empty]

theorem token_fence_iff_listed {calls : List Call} {system next : TokenSystem} {replies : List Reply} {reply : Reply} {keyID : String}
    (configured : List TokenWindow) {windows : List TokenWindow} {reading amount : Int}
    (run : Transition.execute step newTokenSystem calls = some (system, replies))
    (recorded : (PolicyHistory.of calls replies).current.lookup keyID = some configured) (other : windows.toFinset ≠ configured.toFinset)
    (transition : step system (.reserve reading keyID windows amount) = some (next, reply)) : Rejected reply ↔ windows ≠ [] ∨ amount ≤ 0 := by
  have cur := (tracks_run run).current keyID
  rw [recorded] at cur
  rw [← reserve_other_windows reading amount cur.symm other]
  simp only [step, Option.ite_none_left_eq_some, Option.some.injEq] at transition
  generalize reserve system.limiter reading keyID windows amount = result at transition
  obtain ⟨_, ans⟩ := result
  cases ans with
  | ok | error =>
    obtain ⟨_, rfl⟩ := Prod.mk.inj transition.2
    simp [Rejected, quietly]

def fencedCalls : List Call :=
  [.registerPolicy "key" [], .replaceBegin 0 "key" [] [⟨30, 60000000000⟩] true, .replaceEnd true]

theorem token_fence_iff_listed_fenced : ∃ system next replies reply, Transition.execute step newTokenSystem fencedCalls = some (system, replies) ∧
    step system (.reserve 0 "key" [⟨10, 60000000000⟩] 20) = some (next, reply) ∧ Rejected reply :=
  ⟨_, _, _, _, Transition.execute_get (by decide), Transition.outcome_get (by decide),
    (token_fence_iff_listed [⟨30, 60000000000⟩] (Transition.execute_get (by decide)) (by decide) (by decide)
      (Transition.outcome_get (by decide))).mpr (.inl (by decide))⟩

theorem token_fence_open_to_empty_windows : ¬ ∀ (calls : List Call) (system next : TokenSystem) (replies : List Reply) (reply : Reply)
    (keyID : String) (configured windows : List TokenWindow) (reading amount : Int),
    Transition.execute step newTokenSystem calls = some (system, replies) →
      (PolicyHistory.of calls replies).current.lookup keyID = some configured → windows.toFinset ≠ configured.toFinset →
      step system (.reserve reading keyID windows amount) = some (next, reply) → Rejected reply := by
  intro every
  obtain ⟨_, ⟨⟩⟩ := every fencedCalls _ _ _ (quietly (.reserved 0)) "key" [⟨30, 60000000000⟩] [] 0 20 (execute_get (by decide))
    (by decide) (by decide) (outcome_reply (by decide) (by decide))

end NineGateway.Token
