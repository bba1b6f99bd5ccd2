import NineGateway.Persistence.TokenFlow

set_option autoImplicit false

namespace NineGateway.Persistence

open Storage (UsageTable UsageRowKey UsageIdentity UsageAccumulation UsageBucketError AccumulatorCall AccumulatorReply Confined usageIdentity
  usageSink usageStep)
open Token (TokenWindow TokenSystem TokenBucketKey CommittedTokenDelta PendingReplacement Attended deltaKey)

def rowOf (key : TokenBucketKey) : UsageRowKey := ⟨key.keyID, unix key.start, key.window.duration.tdiv secondNanos, key.window.amount⟩

def Datable (row : UsageRowKey) : Prop := 0 ≤ row.bucketStart ∧ 0 < row.bucketSeconds

def Placed (rows : List KeyRecord) (now : Int) (row : UsageRowKey) : Prop :=
  row.apiKeyID ∈ keyIDs rows → Datable row →
    (matchWindow (allowedWindows rows row.apiKeyID) row.bucketSeconds row.bucketAmount).isSome = true ∨ row.lapsed now = true

def Lawful (rows : List KeyRecord) (now : Int) (key : TokenBucketKey) : Prop :=
  key.keyID ∈ keyIDs rows → Datable (rowOf key) → key.window ∈ allowedWindows rows key.keyID ∨ (rowOf key).lapsed now = true

structure Orderly (records : List KeyRecord) (now : Int) (table : UsageTable) : Prop where
  keys : table.keys = keyIDs records
  rows : ∀ row amt, table.rows.lookup row = some amt → Placed records now row ∧ (row.bucket amt).valid = true ∧ row.apiKeyID ∈ keyIDs records

-- The recorded windows are the stored ones, but for a key whose policy is stored
-- and not yet recorded. While a replacement is under way, the buckets in use keep
-- to the new windows too.
structure Policed (flow : TokenFlow) : Prop where
  registered : ∀ keyID ∈ keyIDs flow.records, (∀ due, flow.tokens.replacing = some due → flow.written = true → due.keyID ≠ keyID) →
      flow.tokens.limiter.policyWindows.lookup keyID = some (allowedWindows flow.records keyID).toFinset
  stored : ∀ due, flow.tokens.replacing = some due → flow.written = true → allowedWindows flow.records due.keyID = due.newWindows
  known : ∀ due, flow.tokens.replacing = some due → due.keyID ∈ keyIDs flow.records
  fenced : ∀ due, flow.tokens.replacing = some due → ∀ key, flow.tokens.Busy key → key.keyID = due.keyID → Datable (rowOf key) →
    key.window ∈ due.newWindows ∨ (rowOf key).lapsed flow.tokens.limiter.lastNow = true

structure Anchored (flow : TokenFlow) : Prop where
  attended : Attended flow.tokens
  policed : Policed flow
  lawful : ∀ key, flow.tokens.Busy key → Lawful flow.records flow.tokens.limiter.lastNow key
  owing : ∀ d ∈ flow.tokens.owing, Placed flow.records flow.tokens.limiter.lastNow (usageIdentity d).row
  hands : ∀ hand ∈ flow.hands, ∀ d ∈ hand, Placed flow.records flow.tokens.limiter.lastNow (usageIdentity d).row
  confined : Confined (fun id => Placed flow.records flow.tokens.limiter.lastNow id.row)
    (Orderly flow.records flow.tokens.limiter.lastNow) flow.accumulator

section Rows

variable {rows : List KeyRecord} {now later : Int} {row : UsageRowKey} {key : TokenBucketKey}

theorem match_window_listed {wins : List TokenWindow} {win : TokenWindow} (mem : win ∈ wins) :
    (matchWindow wins (win.duration.tdiv secondNanos) win.amount).isSome = true := by
  rw [matchWindow, List.find?_isSome]
  exact ⟨win, mem, by simp [matchesWindow]⟩

theorem lawful_placed (lawful : Lawful rows now key) : Placed rows now (rowOf key) := by
  intro known datable
  exact (lawful known datable).imp_left match_window_listed

theorem lapsed_mono (order : now ≤ later) (lapsed : row.lapsed now = true) : row.lapsed later = true := by
  rw [Storage.lapsed_iff] at lapsed ⊢
  unfold unix secondNanos at *
  omega

theorem lapsed_later (datable : Datable row) (clock : later = now ∨ ∃ read, later = clampTime now read) (lapsed : row.lapsed now = true) :
    row.lapsed later = true := by
  rcases clock with rfl | ⟨read, rfl⟩
  · exact lapsed
  refine lapsed_mono (clamp_time_ge now read ?_) lapsed
  rintro rfl
  obtain ⟨start, seconds⟩ := datable
  rw [Storage.lapsed_iff] at lapsed
  unfold unix secondNanos zeroTime at lapsed
  omega

variable (clock : later = now ∨ ∃ read, later = clampTime now read)
include clock

theorem placed_later (placed : Placed rows now row) : Placed rows later row :=
  fun known datable => (placed known datable).imp_right (lapsed_later datable clock)

theorem lawful_later (lawful : Lawful rows now key) : Lawful rows later key :=
  fun known datable => (lawful known datable).imp_right (lapsed_later datable clock)

theorem confined_later {acc : UsageAccumulation} (confined : Confined (fun id => Placed rows now id.row) (Orderly rows now) acc) :
    Confined (fun id => Placed rows later id.row) (Orderly rows later) acc :=
  ⟨fun id has => placed_later clock (confined.pending id has),
    fun flight mem entry shown => placed_later clock (confined.flights flight mem entry shown),
    ⟨confined.table.keys, fun row amt hit => (confined.table.rows row amt hit).imp_left (placed_later clock)⟩⟩

end Rows

section Table

variable {records : List KeyRecord} {now : Int}
variable {id : UsageIdentity} {d : Int}

theorem checked_usage_valid (passed : Storage.checkUsageDelta id d = none) :
    Storage.validateUsageBucketIdentity id.apiKeyID id.bucketStart id.bucketSeconds = true ∧ 0 < id.bucketAmount := by
  unfold Storage.checkUsageDelta at passed
  split at passed
  · cases passed
  split at passed
  · cases passed
  rename_i valid
  split at passed
  · cases passed
  · exact ⟨by simpa using valid, by omega⟩

theorem upserted_row {keys : List String} {rows next : FiniteMap UsageRowKey Int} (passed : Storage.checkUsageDelta id d = none)
    (made : Storage.upsertUsage keys rows id d = .ok next)
    (pre : ∀ row v, rows.lookup row = some v → (row.bucket v).valid = true ∧ row.apiKeyID ∈ keys) :
    next.lookup id.row = some (Coalesce.amount rows id.row + d) ∧
      (id.row.bucket (Coalesce.amount rows id.row + d)).valid = true ∧ id.apiKeyID ∈ keys := by
  have written := Storage.upsert_usage_some made
  have whole := Storage.checked_usage_whole passed
  have least : 0 ≤ Coalesce.amount rows id.row := by
    unfold Coalesce.amount
    cases hit : rows.lookup id.row with
    | none => exact Int.le_refl 0
    | some =>
      have valid := (pre _ _ hit).1
      simp only [Storage.UsageBucket.valid, Bool.and_eq_true, decide_eq_true_eq] at valid
      exact valid.2
  have enough : 0 ≤ Coalesce.amount rows id.row + d ∧ id.apiKeyID ∈ keys := by
    unfold Storage.upsertUsage at made
    split at made
    · split at made
      · refine ⟨by omega, ?_⟩
        have pos : Coalesce.amount rows id.row ≠ 0 := by omega
        unfold Coalesce.amount at pos
        cases hit : rows.lookup id.row with
        | none => simp [hit] at pos
        | some => exact (pre _ _ hit).2
      · cases made
    · split at made
      · cases made
      · rename_i known
        exact ⟨by omega, by simpa using known⟩
  have start : unix id.bucketStart * secondNanos = id.bucketStart := by
    unfold nanosecond secondNanos at whole
    unfold unix secondNanos
    omega
  obtain ⟨proper, pos⟩ := checked_usage_valid passed
  refine ⟨by rw [written]; simp, ?_, enough.2⟩
  simp only [Storage.UsageBucket.valid, Bool.and_eq_true, decide_eq_true_eq]
  refine ⟨⟨?_, pos⟩, enough.1⟩
  simp only [UsageRowKey.bucket, UsageIdentity.row, start]
  exact proper

theorem upsert_orderly {table next : UsageTable} {batch : List (UsageIdentity × Int)} (applied : Storage.upsertCommittedDeltas table batch = .ok next)
    (inside : ∀ entry ∈ batch, Placed records now entry.1.row) (orderly : Orderly records now table) : Orderly records now next := by
  obtain ⟨_, done, rfl⟩ := Storage.map_ok applied
  refine ⟨orderly.keys, Storage.apply_batch_keeps (fun entry member _ passed rows next made before row v found => ?_) orderly.rows done⟩
  have known : ∀ row v, rows.lookup row = some v → (row.bucket v).valid = true ∧ row.apiKeyID ∈ table.keys := by
    intro row v there
    rw [orderly.keys]
    exact (before row v there).2
  obtain ⟨written, valid, key⟩ := upserted_row passed made known
  by_cases here : row = entry.1.row
  · subst here
    obtain rfl := Option.some.inj (found.symm.trans written)
    exact ⟨inside entry member, valid, orderly.keys ▸ key⟩
  · refine before row v ?_
    rwa [Storage.upsert_usage_some made, FiniteMap.lookup_put, if_neg here] at found

end Table

section Policies

variable {rows : List KeyRecord} {key : String} (pol : TokenPolicy)

@[simp] theorem replace_policy_ids : keyIDs (replacePolicy key pol rows) = keyIDs rows := by
  simp only [keyIDs, replacePolicy, List.map_map]
  refine List.map_congr_left (fun record _ => ?_)
  simp only [Function.comp_apply]
  split <;> rfl

theorem allowed_elsewhere {q : String} (away : q ≠ key) : allowedWindows (replacePolicy key pol rows) q = allowedWindows rows q := by
  induction rows with
  | nil => rfl
  | cons row _ ih =>
    by_cases same : row.id = q
    · simp [allowedWindows, replacePolicy, same, away]
    · by_cases here : row.id = key
      · simpa [allowedWindows, replacePolicy, here, Ne.symm away] using ih
      · simpa [allowedWindows, replacePolicy, here, same] using ih

theorem allowed_here (known : key ∈ keyIDs rows) : allowedWindows (replacePolicy key pol rows) key = pol.windows := by
  induction rows with
  | nil => cases known
  | cons row rest ih =>
    by_cases here : row.id = key
    · simp [allowedWindows, replacePolicy, here]
    have later : key ∈ keyIDs rest := by
      rcases List.mem_cons.mp known with found | there
      · exact absurd found.symm here
      · exact there
    simpa [allowedWindows, replacePolicy, here] using ih later

end Policies

section Tokens

variable {flow : TokenFlow} {next : TokenSystem} {call : Token.Call} {rep : Token.Reply} {hands : List (List CommittedTokenDelta)}

theorem permitted_serves (may : flow.permits call = true) : call.loads = false := by
  cases call with
  | loadCommitted => cases may
  | _ => rfl

variable (fixed : Anchored flow)
include fixed

theorem policed_quiet (may : flow.permits call = true) (ran : Token.step flow.tokens call = some (next, rep))
    (view : next.policyView = flow.tokens.policyView) : Policed { flow with tokens := next, hands := hands } := by
  have replacing : next.replacing = flow.tokens.replacing := congrArg Token.PolicyView.pending view
  have wins : next.limiter.policyWindows = flow.tokens.limiter.policyWindows := congrArg Token.PolicyView.windows view
  have serving := permitted_serves may
  have clock := (Token.step_stepped ran).clock serving
  have policed := fixed.policed
  refine ⟨?_, ?_, ?_, ?_⟩
  · simp only [replacing, wins]
    exact policed.registered
  · simp only [replacing]
    exact policed.stored
  · simp only [replacing]
    exact policed.known
  simp only [replacing]
  intro due begun key busy same datable
  rcases Token.busy_step fixed.attended serving ran busy with before | ⟨free, _⟩
  · exact (policed.fenced due begun key before same datable).imp_right (lapsed_later datable clock)
  · simp [free] at begun

theorem lawful_step (may : flow.permits call = true) (ran : Token.step flow.tokens call = some (next, rep)) (key : TokenBucketKey)
    (busy : next.Busy key) : Lawful flow.records next.limiter.lastNow key := by
  have serving := permitted_serves may
  rcases Token.busy_step fixed.attended serving ran busy with before | ⟨free, shown⟩
  · exact lawful_later ((Token.step_stepped ran).clock serving) (fixed.lawful key before)
  · intro known _
    have noted := fixed.policed.registered key.keyID known (by simp [free])
    exact .inl (List.mem_toFinset.mp (shown _ noted))

variable {keyID : String} {oldWindows newWindows : List TokenWindow}

omit fixed in
theorem replacement_fenced {lim : Token.TokenLimiter} {key : TokenBucketKey} {bin : Token.TokenBucket}
    (allowed : Token.allowsPolicyReplacement lim keyID oldWindows newWindows = true) (there : lim.buckets.lookup key = some bin)
    (busy : bin.Busy) (same : key.keyID = keyID) (old : key.window ∈ oldWindows) : key.window ∈ newWindows := by
  have checked := List.all_eq_true.mp allowed key.window old
  simp only [Bool.or_eq_true, decide_eq_true_eq] at checked
  rcases checked with kept | free
  · exact kept
  have clear := (FiniteMap.every_iff _ _).mp free key bin there
  simp only [Token.indebted, same, decide_true, Bool.true_and, Bool.not_eq_true', Bool.or_eq_false_iff, decide_eq_false_iff_not] at clear
  rcases busy with committed | active
  · exact absurd committed clear.1
  · exact absurd active clear.2

theorem policed_begin {read : Int} {callback : Bool} (may : flow.permits (.replaceBegin read keyID oldWindows newWindows callback) = true)
    (ran : Token.step flow.tokens (.replaceBegin read keyID oldWindows newWindows callback) = some (next, rep)) :
    Policed { flow with tokens := next, written := false, hands := hands } := by
  have lawful := lawful_step fixed may ran
  have view := Token.policy_view_step ran
  have wins : next.limiter.policyWindows = flow.tokens.limiter.policyWindows := by
    have noted := congrArg Token.PolicyView.windows view
    simp only [Token.PolicyView.note] at noted
    split at noted <;> exact noted
  simp only [Token.step, Option.ite_none_left_eq_some, Option.some.injEq] at ran
  obtain ⟨free, replaced⟩ := ran
  have idle : flow.tokens.replacing = none := by simpa using free
  simp only [TokenFlow.permits, Bool.and_eq_true, decide_eq_true_eq] at may
  obtain ⟨⟨known, rfl⟩, _⟩ := may
  refine ⟨fun keyID shown _ => ?_, fun due begun absurd => (by cases absurd), fun due begun => ?_, fun due begun key busy same datable => ?_⟩
  · rw [wins]
    exact fixed.policed.registered keyID shown (by simp [idle])
  · have pended := congrArg Token.PolicyView.pending view
    simp only [Token.PolicyView.note, Token.TokenSystem.policyView] at pended
    rw [begun] at pended
    split at pended
    · cases pended
      exact known
    · simp [idle] at pended
  · have law := lawful key busy
    simp only [Token.replaceStep] at replaced
    split at replaced
    · cases replaced
      simp [Token.TokenSystem.clean, idle] at begun
    rename_i allowed
    split at replaced
    · cases replaced
      simp [Token.TokenSystem.clean, idle] at begun
    cases replaced
    cases begun
    obtain ⟨_, there, full⟩ := busy
    refine (law (same ▸ known) datable).imp_left (fun shown => ?_)
    rw [same] at shown
    exact replacement_fenced (by simpa using allowed) there full same shown

theorem policed_end {committed : Bool} (may : flow.permits (.replaceEnd committed) = true)
    (ran : Token.step flow.tokens (.replaceEnd committed) = some (next, rep)) :
    Policed { flow with tokens := next, written := false, hands := hands } := by
  have same : committed = flow.written := by simpa [TokenFlow.permits] using may
  have policed := fixed.policed
  simp only [Token.step] at ran
  cases begun : flow.tokens.replacing with
  | none => simp [begun] at ran
  | some due =>
    simp only [begun] at ran
    split at ran
    · rename_i durable
      cases ran
      refine ⟨fun keyID listed _ => ?_, fun _ absurd => (by cases absurd), fun _ absurd => (by cases absurd), fun _ absurd => (by cases absurd)⟩
      simp only [Token.registerPolicy, FiniteMap.lookup_put]
      split
      · rename_i here
        rw [here, policed.stored due begun (same ▸ durable)]
      · rename_i away
        refine policed.registered keyID listed (fun other there _ => ?_)
        obtain rfl := Option.some.inj (begun.symm.trans there)
        exact Ne.symm away
    · rename_i failed
      cases ran
      refine ⟨fun keyID listed _ => ?_, fun _ absurd => (by cases absurd), fun _ absurd => (by cases absurd), fun _ absurd => (by cases absurd)⟩
      exact policed.registered keyID listed (fun _ _ durable => absurd (same.trans durable) failed)

theorem token_anchored (may : flow.permits call = true) (ran : Token.step flow.tokens call = some (next, rep)) :
    Anchored { flow with tokens := next, written := flow.writes call, hands := flow.hold rep.deltas } := by
  have serving := permitted_serves may
  have clock := (Token.step_stepped ran).clock serving
  have view := Token.policy_view_step ran
  have policed : Policed { flow with tokens := next, written := flow.writes call, hands := flow.hold rep.deltas } := by
    cases call with
    | registerPolicy => cases may
    | replaceBegin => exact policed_begin fixed may ran
    | replaceEnd => exact policed_end fixed may ran
    | _ => exact policed_quiet fixed may ran view
  have ds : ∀ d ∈ rep.deltas ++ next.owing, Placed flow.records next.limiter.lastNow (usageIdentity d).row := by
    intro d mem
    rcases Token.deltas_step fixed.attended ran d mem with old | busy
    · exact placed_later clock (fixed.owing d old)
    · exact placed_later clock (lawful_placed (fixed.lawful _ busy))
  have lawful := lawful_step fixed may ran
  refine ⟨Token.attended_step fixed.attended serving ran, policed, lawful,
    fun d mem => ds d (List.mem_append_right _ mem), fun hand shown d mem => ?_, confined_later clock fixed.confined⟩
  unfold TokenFlow.hold at shown
  split at shown
  · exact placed_later clock (fixed.hands hand shown d mem)
  · rcases List.mem_append.mp shown with old | fresh
    · exact placed_later clock (fixed.hands hand old d mem)
    · rw [List.mem_singleton.mp fresh] at mem
      exact ds d (List.mem_append_left _ mem)

end Tokens

section Steps

variable {flow next : TokenFlow} {call : TokenFlowCall} {rep : TokenFlowReply}

theorem every_placed {check : UsageRowKey → Bool} (checked : flow.every check = true) :
    (∀ row amt, flow.accumulator.table.rows.lookup row = some amt → check row = true) ∧
      (∀ id amt, flow.accumulator.pending.lookup id = some amt → check id.row = true) ∧
      (∀ flight ∈ flow.accumulator.flights, ∀ entry ∈ flight.entries, check entry.1.row = true) ∧
      (∀ hand ∈ flow.hands, ∀ d ∈ hand, check (usageIdentity d).row = true) ∧ ∀ d ∈ flow.tokens.owing, check (usageIdentity d).row = true := by
  simpa only [TokenFlow.every, Bool.and_eq_true, FiniteMap.every_iff, List.all_eq_true, and_assoc] using checked

theorem write_anchored (fixed : Anchored flow) {due : PendingReplacement} (begun : flow.tokens.replacing = some due)
    (valid : validWindows due.newWindows = true) (had : flow.every (fun row => decide (row.apiKeyID ≠ due.keyID) ||
      (matchWindow due.newWindows row.bucketSeconds row.bucketAmount).isSome || row.lapsed flow.tokens.limiter.lastNow) = true) :
    Anchored { flow with records := replacePolicy due.keyID ⟨due.newWindows, valid⟩ flow.records, written := true } := by
  have here := allowed_here ⟨due.newWindows, valid⟩ (fixed.policed.known due begun)
  have elsewhere : ∀ q, q ≠ due.keyID →
      allowedWindows (replacePolicy due.keyID ⟨due.newWindows, valid⟩ flow.records) q = allowedWindows flow.records q :=
    fun q away => allowed_elsewhere _ away
  have ids : keyIDs (replacePolicy due.keyID ⟨due.newWindows, valid⟩ flow.records) = keyIDs flow.records := replace_policy_ids _
  generalize replacePolicy due.keyID ⟨due.newWindows, valid⟩ flow.records = records at here elsewhere ids ⊢
  have placed : ∀ row : UsageRowKey, (decide (row.apiKeyID ≠ due.keyID) ||
      (matchWindow due.newWindows row.bucketSeconds row.bucketAmount).isSome || row.lapsed flow.tokens.limiter.lastNow) = true →
      Placed flow.records flow.tokens.limiter.lastNow row → Placed records flow.tokens.limiter.lastNow row := by
    intro row checked pre shown datable
    by_cases same : row.apiKeyID = due.keyID
    · rw [same, here]
      simpa [same] using checked
    · rw [elsewhere _ same]
      exact pre (ids ▸ shown) datable
  obtain ⟨rows, buffered, flights, hands, owing⟩ := every_placed had
  refine ⟨fixed.attended, ⟨fun keyID shown apart => ?_, fun alt there _ => ?_, fun alt there => ?_, fixed.policed.fenced⟩,
    fun key busy shown datable => ?_,
    fun d mem => placed _ (owing d mem) (fixed.owing d mem),
    fun hand shown d mem => placed _ (hands hand shown d mem) (fixed.hands hand shown d mem), ⟨fun id has => ?_,
    fun flight mem entry shown => placed _ (flights flight mem entry shown) (fixed.confined.flights flight mem entry shown),
    fixed.confined.table.keys.trans ids.symm, fun row amt hit => ?_⟩⟩
  · have away := Ne.symm (apart due begun rfl)
    rw [elsewhere keyID away]
    refine fixed.policed.registered keyID (ids ▸ shown) (fun alt there _ => ?_)
    obtain rfl := Option.some.inj (begun.symm.trans there)
    exact Ne.symm away
  · obtain rfl := Option.some.inj (begun.symm.trans there)
    exact here
  · rw [ids]
    exact fixed.policed.known alt there
  · by_cases same : key.keyID = due.keyID
    · rw [same, here]
      exact fixed.policed.fenced due begun key busy same datable
    · rw [elsewhere _ same]
      exact fixed.lawful key busy (ids ▸ shown) datable
  · obtain ⟨amt, hit⟩ := Option.isSome_iff_exists.mp has
    exact placed _ (buffered id amt hit) (fixed.confined.pending id has)
  · obtain ⟨pre, sane, shown⟩ := fixed.confined.table.rows row amt hit
    exact ⟨placed row (rows row amt hit) pre, sane, ids ▸ shown⟩

theorem accumulator_anchored (fixed : Anchored flow) {call : AccumulatorCall UsageIdentity} {acc : UsageAccumulation}
    {ans : AccumulatorReply UsageBucketError} {hands : List (List CommittedTokenDelta)}
    (remaining : ∀ hand ∈ hands, ∀ d ∈ hand, Placed flow.records flow.tokens.limiter.lastNow (usageIdentity d).row)
    (sinks : ∀ target d, call = .sink target d → Placed flow.records flow.tokens.limiter.lastNow target.row)
    (ran : usageStep flow.accumulator call = some (acc, ans)) : Anchored { flow with hands := hands, accumulator := acc } :=
  ⟨fixed.attended, ⟨fixed.policed.registered, fixed.policed.stored, fixed.policed.known, fixed.policed.fenced⟩, fixed.lawful, fixed.owing,
    remaining, Storage.confined_step (fun _ _ _ applied inside orderly => upsert_orderly applied inside orderly) fixed.confined sinks ran⟩

theorem store_step {call : AccumulatorCall UsageIdentity} (ran : tokenFlowStep flow (.store call) = some (next, rep)) :
    ∃ acc ans, usageStep flow.accumulator call = some (acc, ans) ∧ (∀ target d, call ≠ .sink target d) ∧
      next = { flow with accumulator := acc } := by
  have did : (∀ target d, call ≠ .sink target d) ∧ (usageStep flow.accumulator call).map (fun did =>
      (({ flow with accumulator := did.1 } : TokenFlow), TokenFlowReply.stored did.2)) = some (next, rep) := by
    cases call with
    | sink => cases ran
    | _ => exact ⟨by simp, ran⟩
  obtain ⟨⟨acc, ans⟩, inner, ⟨⟩⟩ := Option.map_eq_some_iff.mp did.2
  exact ⟨acc, ans, inner, did.1, rfl⟩

theorem anchored_step (fixed : Anchored flow) (had : Carried flow call) (ran : tokenFlowStep flow call = some (next, rep)) : Anchored next := by
  cases call with
  | token =>
    simp only [tokenFlowStep, Option.ite_none_right_eq_some] at ran
    obtain ⟨may, did⟩ := ran
    obtain ⟨⟨_, _⟩, inner, ⟨⟩⟩ := Option.map_eq_some_iff.mp did
    exact token_anchored fixed may inner
  | write =>
    simp only [tokenFlowStep] at ran
    cases begun : flow.tokens.replacing with
    | none => simp [begun] at ran
    | some due =>
      simp only [Carried, begun] at had ran
      split at ran
      · cases ran
      split at ran <;> cases ran
      rename_i valid
      exact write_anchored fixed begun valid had
  | sink caller =>
    simp only [tokenFlowStep] at ran
    split at ran
    · rename_i d rest hit
      have hand := List.mem_of_getElem? hit
      obtain ⟨⟨_, _⟩, inner, ⟨⟩⟩ := Option.map_eq_some_iff.mp ran
      refine accumulator_anchored fixed (fun alt shown entry mem => ?_) (fun target amt named => ?_) inner
      · rcases List.mem_or_eq_of_mem_set shown with old | rfl
        · exact fixed.hands alt old entry mem
        · exact fixed.hands _ hand entry (by simp [mem])
      · cases named
        exact fixed.hands _ hand d (by simp)
    · cases ran
  | store =>
    obtain ⟨_, _, inner, quiet, rfl⟩ := store_step ran
    exact accumulator_anchored fixed fixed.hands (fun target d named => absurd named (quiet target d)) inner

end Steps

section Start

variable {keys : KeyTable} {rows : FiniteMap UsageRowKey Int} {now read : Int} {flow : TokenFlow}
variable {committed : List Token.CommittedTokenBucket} {records : List KeyRecord} {table : UsageTable}

theorem load_committed_ok {lim loaded : Token.TokenLimiter} (fine : Token.loadCommitted lim read committed = (loaded, none)) :
    loaded.buckets = (Token.loadRows read committed lim.buckets).1 ∧ loaded.lastNow = read := by
  unfold Token.loadCommitted at fine
  split at fine
  · cases fine
  split at fine <;> cases fine
  rename_i bins placed
  exact ⟨by rw [placed], rfl⟩

theorem allowed_known {key : String} {win : TokenWindow} (mem : win ∈ allowedWindows records key) : key ∈ keyIDs records := by
  unfold allowedWindows at mem
  cases hit : records.find? (fun row => row.id = key) with
  | none => simp [hit] at mem
  | some row =>
    have same := List.find?_some hit
    exact List.mem_map.mpr ⟨row, List.mem_of_find?_eq_some hit, by simpa using same⟩

theorem start_orderly (named : table.keys = keyIDs keys.records)
    (fine : persistedTokens keys.records (Storage.deleteExpired now table) now = .ok committed) :
    Orderly keys.records read (Storage.deleteExpired now table) := by
  refine ⟨named, fun row amt hit => ?_⟩
  have cur : row.lapsed now = false := by
    simp only [Storage.deleteExpired, FiniteMap.lookup_retain] at hit
    simpa using (Option.filter_eq_some_iff.mp hit).2
  obtain ⟨valid, _, shown, seconds, cap⟩ := persisted_row fine hit cur
  refine ⟨fun _ _ => .inl ?_, valid, allowed_known shown⟩
  rw [← seconds, ← cap]
  exact match_window_listed shown

theorem loaded_bucket (fine : persistedTokens records table now = .ok committed) {key : TokenBucketKey} {bin : Token.TokenBucket}
    (there : (Token.loadRows read committed Token.newTokenLimiter.buckets).1.lookup key = some bin) :
    bin.Nonnegative ∧ key.window ∈ allowedWindows records key.keyID := by
  rcases Token.load_rows_lookup read committed Token.newTokenLimiter.buckets key with unloaded | ⟨_, row, shown, rfl, sane, _, filled⟩
  · rw [unloaded] at there
    cases there
  obtain rfl := Option.some.inj (there.symm.trans filled)
  simp only [Token.malformed, Bool.or_eq_false_iff, decide_eq_false_iff_not] at sane
  refine ⟨⟨?_, Int.le_refl 0⟩, committed_allowed fine shown⟩
  simp only
  omega

theorem start_anchored (begun : startFlow keys rows now read = .ok flow) : Anchored flow := by
  unfold startFlow startTokens at begun
  obtain ⟨_, made, rfl⟩ := Storage.map_ok begun
  obtain ⟨lim, built, rfl⟩ := Storage.map_ok made
  obtain ⟨_, fine, loading⟩ := start_limiter_ok built
  obtain ⟨bins, _⟩ := load_committed_ok loading
  have filed : (registerPolicies keys.records lim).buckets = lim.buckets ∧ (registerPolicies keys.records lim).lastNow = lim.lastNow :=
    register_rest lim
  have loaded : ∀ key bin, (registerPolicies keys.records lim).buckets.lookup key = some bin →
      bin.Nonnegative ∧ key.window ∈ allowedWindows keys.records key.keyID := by
    intro key bin there
    rw [filed.1, bins] at there
    exact loaded_bucket fine there
  refine ⟨⟨by simp [TokenSystem.Sound], fun key bin there => (loaded key bin there).1, ?_⟩,
    ⟨fun keyID listed _ => register_listed keys.distinct listed, ?_, ?_, ?_⟩, fun key busy _ _ => ?_, ?_, ?_, ⟨?_, ?_, start_orderly rfl fine⟩⟩
  · rintro key bin _ ⟨hold, ⟨⟩, _⟩
  · exact fun _ absurd => by cases absurd
  · exact fun _ absurd => by cases absurd
  · exact fun _ absurd => by cases absurd
  · obtain ⟨bin, there, _⟩ := busy
    exact .inl (loaded key bin there).2
  · exact fun _ absurd => by cases absurd
  · exact fun _ absurd => by cases absurd
  · intro id has
    simp [Storage.newAccumulation] at has
  · exact fun _ absurd => by cases absurd

end Start

theorem valid_datable {row : UsageRowKey} {amt : Int} (valid : (row.bucket amt).valid = true) : Datable row := by
  simp only [Storage.UsageBucket.valid, Storage.validateUsageBucketIdentity, Bool.and_eq_true, decide_eq_true_eq] at valid
  obtain ⟨⟨⟨⟨⟨⟨_, start⟩, seconds⟩, _⟩, _⟩, _⟩, _⟩ := valid
  refine ⟨?_, seconds⟩
  simp only [UsageRowKey.bucket, unix, secondNanos] at start
  omega

-- The rows are accepted again, whenever the process stops and as long as no
-- policy was stored that leaves an open row behind.
theorem restart_accepts_carried {keys : KeyTable} {rows : FiniteMap UsageRowKey Int} {now reading restart : Int} {start flow : TokenFlow}
    {calls : List TokenFlowCall} {replies : List TokenFlowReply} (started : startFlow keys rows now reading = .ok start)
    (carried : Transition.Along tokenFlowStep Carried start calls) (run : Transition.execute tokenFlowStep start calls = some (flow, replies))
    (later : flow.tokens.limiter.lastNow ≤ restart) : (persistedTokens flow.records flow.accumulator.table restart).isOk = true := by
  have fixed := Transition.run_invariant Anchored (fun _ _ _ _ fixed carried transition => anchored_step fixed carried transition)
    (start_anchored started) carried run
  refine persisted_tokens_complete (fun bin shown => ?_) (fun bin shown => ?_)
  all_goals obtain ⟨row, amt, hit, cur, rfl⟩ := Storage.mem_unexpired.mp shown
  all_goals obtain ⟨placed, valid, known⟩ := fixed.confined.table.rows row amt hit
  · exact valid
  · rcases placed known (valid_datable valid) with matched | lapsed
    · simpa [matchBucket, UsageRowKey.bucket] using matched
    · simp [lapsed_mono later lapsed] at cur

def hourly : TokenWindow := ⟨100, 3600 * secondNanos⟩

def hourlyKey : KeyTable := ⟨[⟨"key-1", ⟨[hourly], by decide⟩⟩], by decide⟩

def hourlyBucket : UsageIdentity := ⟨"key-1", 0, 3600, 100⟩

def refundedCommit : List TokenFlowCall :=
  [.token (.reserve 0 "key-1" [hourly] 20), .token (.finalize 0 0 .commitDeferred), .sink 0, .store (.take [hourlyBucket]), .store (.write 0 true),
    .token (.adjust 0 0 0)]

def removedWindow : List TokenFlowCall := [.token (.replaceBegin 0 "key-1" [hourly] [] true), .write, .token (.replaceEnd true)]

def refundWritten : List TokenFlowCall := [.token (.notify 0), .sink 1, .store (.take [hourlyBucket]), .store (.write 1 true)]

theorem restart_accepts_written_refund : ∃ start flow replies, startFlow hourlyKey ∅ 0 0 = .ok start ∧
    Transition.execute tokenFlowStep start (refundedCommit ++ refundWritten ++ removedWindow) = some (flow, replies) ∧
    allowedWindows flow.records "key-1" = [] ∧ (persistedTokens flow.records flow.accumulator.table 0).isOk = true := by
  have ran : (startFlow hourlyKey ∅ 0 0).toOption.bind (fun start =>
      (Transition.execute tokenFlowStep start (refundedCommit ++ refundWritten ++ removedWindow)).map (fun out =>
        (decide (Transition.Along tokenFlowStep Carried start (refundedCommit ++ refundWritten ++ removedWindow)),
          allowedWindows out.1.records "key-1", decide (out.1.tokens.limiter.lastNow ≤ 0)))) = some (true, [], true) := by
    decide +kernel
  obtain ⟨start, begun, rest⟩ := Option.bind_eq_some_iff.mp ran
  obtain ⟨⟨flow, replies⟩, run, facts⟩ := Option.map_eq_some_iff.mp rest
  simp only [Prod.mk.injEq, decide_eq_true_eq] at facts
  have started : startFlow hourlyKey ∅ 0 0 = .ok start := by
    cases opened : startFlow hourlyKey ∅ 0 0 with
    | error => simp [opened, Except.toOption] at begun
    | ok => simpa [opened, Except.toOption] using begun
  exact ⟨start, flow, replies, started, run, facts.2.1, restart_accepts_carried started facts.1 run facts.2.2⟩

-- The refund has not reached the row when the window goes, and the process stops
-- there.
theorem restart_refuses_removed_window : ∃ start flow replies, startFlow hourlyKey ∅ 0 0 = .ok start ∧
    Transition.execute tokenFlowStep start (refundedCommit ++ removedWindow) = some (flow, replies) ∧
    flow.tokens.limiter.lastNow = 0 ∧ flow.accumulator.table.persisted hourlyBucket = 20 ∧
    persistedTokens flow.records flow.accumulator.table 0 = .error .policyMismatch := by
  have ran : (startFlow hourlyKey ∅ 0 0).toOption.bind (fun start =>
      (Transition.execute tokenFlowStep start (refundedCommit ++ removedWindow)).map (fun out =>
        (out.1.tokens.limiter.lastNow, out.1.accumulator.table.persisted hourlyBucket,
          persistedTokens out.1.records out.1.accumulator.table 0))) = some (0, 20, .error .policyMismatch) := by
    decide +kernel
  obtain ⟨start, begun, rest⟩ := Option.bind_eq_some_iff.mp ran
  obtain ⟨⟨flow, replies⟩, run, facts⟩ := Option.map_eq_some_iff.mp rest
  simp only [Prod.mk.injEq] at facts
  have started : startFlow hourlyKey ∅ 0 0 = .ok start := by
    cases opened : startFlow hourlyKey ∅ 0 0 with
    | error => simp [opened, Except.toOption] at begun
    | ok => simpa [opened, Except.toOption] using begun
  exact ⟨start, flow, replies, started, run, facts⟩

end NineGateway.Persistence
