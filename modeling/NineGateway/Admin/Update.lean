import NineGateway.Admin.Service
import NineGateway.Budget.Fence
import NineGateway.Lifecycle.Rollback
import NineGateway.Token.Fence

set_option autoImplicit false

namespace NineGateway.Admin

open Auth (PolicyCompiler Snapshot)
open Budget (BudgetPolicy BudgetSystem)
open Storage (APIKeyRecord APIKeyTable APIKeyError whereID)
open Token (TokenSystem TokenWindow)
open Lifecycle Token.PolicyView Transition

-- The copies of the policies besides the authentication snapshot: the stored
-- records and what each limiter goes by. A limiter may be absent.
structure Copies where
  rows : List APIKeyRecord
  windows : Option (FiniteMap String (Finset TokenWindow))
  budgets : Option (FiniteMap String BudgetPolicy)

def AdminSystem.copies {Policy : Type} (system : AdminSystem Policy) : Copies :=
  { rows := system.table.rows
    windows := system.tokens.map (fun tokens => tokens.limiter.policyWindows)
    budgets := system.budgets.map (fun budgets => budgets.limiter.policies) }

section Specification

variable {Policy : Type} (service : Service Policy)

def Service.windowsOf (policyJSON : ByteArray) : List TokenWindow :=
  ((service.compiler.parsePolicyJSON policyJSON).map service.compiler.tokenWindows).getD []

def Service.budgetOf (policyJSON : ByteArray) : BudgetPolicy :=
  ((service.compiler.parsePolicyJSON policyJSON).map (budgetPolicy service.compiler)).getD Budget.unlimitedBudgetPolicy

namespace Copies

def created (copies : Copies) (record : APIKeyRecord) : Copies := { copies with rows := copies.rows ++ [record] }

def revised (enabled : Bool) (policyJSON : ByteArray) (updatedAt : Int) (row : APIKeyRecord) : APIKeyRecord :=
  { row with enabled := enabled, policyJSON := policyJSON, updatedAt := updatedAt }

def holds (copies : Copies) (id : String) (enabled : Bool) (policyJSON : ByteArray) : Bool :=
  copies.rows.any (fun row => row.id = id && row.enabled = enabled && row.policyJSON = policyJSON)

-- Every copy takes the new document. An update to what is stored already leaves
-- the limiters as they are.
def updated (copies : Copies) (id : String) (enabled : Bool) (policyJSON : ByteArray) (updatedAt : Int) : Copies :=
  { rows := copies.rows.map (whereID id (revised enabled policyJSON updatedAt))
    windows := if copies.holds id enabled policyJSON then copies.windows
      else copies.windows.map (Finmap.insert id (service.windowsOf policyJSON).toFinset)
    budgets := if copies.holds id enabled policyJSON then copies.budgets
      else copies.budgets.map (Finmap.insert id (service.budgetOf policyJSON)) }

end Copies

inductive Request where
  | creation
  | update (id : String) (enabled : Bool) (policyJSON : ByteArray)

-- The copies as the requests and their results alone determine them.
structure Book where
  copies : Copies
  request : Option Request

namespace Book

def note (book : Book) (call : Call) (reply : Reply) : Book :=
  match call, reply with
  | .create _ _, .begun => { book with request := some .creation }
  | .updatePolicy id enabled policyJSON _, .begun => { book with request := some (.update id enabled policyJSON) }
  | _, .finished (.created record) => { copies := book.copies.created record, request := none }
  | _, .finished (.updated record) =>
    match book.request with
    | some (.update id enabled policyJSON) =>
      { copies := book.copies.updated service id enabled policyJSON record.updatedAt, request := none }
    | _ => { book with request := none }
  | _, .finished (.failed _) => { book with request := none }
  | _, _ => book

def of (origin : Copies) (calls : List Call) (replies : List Reply) : Book :=
  (calls.zip replies).foldl (fun book entry => book.note service entry.1 entry.2) ⟨origin, none⟩

theorem of_append {origin : Copies} {cs : List Call} {outs : List Reply} (matching : cs.length = outs.length) (call : Call)
    (rep : Reply) : of service origin (cs ++ [call]) (outs ++ [rep]) = (of service origin cs outs).note service call rep := by
  simp [of, List.zip_append matching]

end Book

end Specification

section Preparing

variable {Policy : Type} {svc : Service Policy}

theorem prepare_perm {left right : List APIKeyRecord} (order : (authRecords left).Perm (authRecords right))
    (unique : (left.map APIKeyRecord.displayPrefix).Nodup) : svc.prepare left = svc.prepare right := by
  refine Auth.build_perm _ _ order ?_
  simpa [authRecords, List.map_map, Function.comp_def, authRecord] using unique

variable {table : APIKeyTable}

theorem list_perm {rows : List APIKeyRecord} (shown : table.list = some rows) : rows.Perm table.rows := by
  unfold APIKeyTable.list at shown
  split at shown
  · exact Option.some.inj shown ▸ List.mergeSort_perm _ _
  · cases shown

structure Prepared (svc : Service Policy) (rows : List APIKeyRecord) (snapshot : Snapshot Policy) : Prop where
  valid : rows.all APIKeyRecord.validate = true
  built : svc.prepare rows = some snapshot

theorem prepared_list {snapshot : Snapshot Policy} (prepared : Prepared svc table.rows snapshot) :
    table.list.bind svc.prepare = some snapshot := by
  have shown : table.list = some (table.rows.mergeSort APIKeyTable.byID) := if_pos prepared.valid
  rw [shown, Option.bind_some, ← prepared.built]
  have order := List.mergeSort_perm table.rows APIKeyTable.byID
  exact prepare_perm (order.map authRecord) ((order.map APIKeyRecord.displayPrefix).nodup_iff.mpr table.uniquePrefixes)

end Preparing

section Foreign

variable {sys next : Lifecycle.System} {call : Lifecycle.Call} {rep : Lifecycle.Reply}

theorem token_view_foreign (foreign : setsPolicy call = false) (ran : step sys call = some (next, rep)) :
    next.resources.tokens.map TokenSystem.policyView = sys.resources.tokens.map TokenSystem.policyView := by
  have act := step_token_act ran
  generalize next.resources.tokens = after at act
  cases act with
  | idle => rfl
  | acted _ inner _ _ has why did =>
    rw [has, Option.map_some, Option.map_some, Token.policy_view_step did]
    cases why with
    | outside => cases inner <;> first | rfl | cases foreign
    | _ => rfl

def BudgetsSound (budgets : Option BudgetSystem) : Prop := ∀ lim, budgets = some lim → lim.Sound

theorem budget_view_foreign (ok : BudgetsSound sys.resources.budgets) (foreign : setsPolicy call = false)
    (ran : step sys call = some (next, rep)) :
    next.resources.budgets.map BudgetSystem.policyView = sys.resources.budgets.map BudgetSystem.policyView := by
  have act := step_budget_act ran
  generalize next.resources.budgets = after at act
  cases act with
  | idle => rfl
  | acted budgets inner _ _ has why did =>
    rw [has, Option.map_some, Option.map_some, Budget.policy_view_step (ok budgets has) did]
    cases why with
    | outside => cases inner <;> first | rfl | cases foreign
    | _ => rfl

theorem budgets_sound_foreign (ok : BudgetsSound sys.resources.budgets) (ran : step sys call = some (next, rep)) :
    BudgetsSound next.resources.budgets :=
  within_kept (fun _ ok _ did => Budget.sound_step ok did) (step_budget_act ran) ok

end Foreign

section Invariant

variable {Policy : Type}

structure Holdings where
  rows : List APIKeyRecord
  tokens : Option Token.PolicyView
  budgets : Option Budget.PolicyView

def AdminSystem.holdings (sys : AdminSystem Policy) : Holdings :=
  { rows := sys.table.rows
    tokens := sys.tokens.map TokenSystem.policyView
    budgets := sys.budgets.map BudgetSystem.policyView }

def Copies.under (copies : Copies) (tokenHold : Option Token.PendingReplacement) (budgetHold : Option Budget.PendingReplacement) : Holdings :=
  { rows := copies.rows
    tokens := copies.windows.map (Token.PolicyView.mk tokenHold)
    budgets := copies.budgets.map (Budget.PolicyView.mk budgetHold) }

def Copies.free (copies : Copies) : Holdings := copies.under none none

structure Ready (svc : Service Policy) (book : Book) (update : Update) : Prop where
  request : book.request = some (.update update.id update.enabled update.policyJSON)
  uniqueIDs : (book.copies.rows.map APIKeyRecord.id).Nodup
  uniquePrefixes : (book.copies.rows.map APIKeyRecord.displayPrefix).Nodup
  newWindows : update.newWindows = svc.windowsOf update.policyJSON
  newBudget : update.newBudget = svc.budgetOf update.policyJSON
  known : ∃ row ∈ book.copies.rows, row.id = update.id ∧ update.replacement = replaceRecord row update.enabled update.policyJSON ∧
    update.unchanged = (decide (row.enabled = update.enabled) && decide (row.policyJSON = update.policyJSON))
  records : ∀ updatedAt, (authRecords update.records).Perm
    (authRecords (book.copies.rows.map (whereID update.id (Copies.revised update.enabled update.policyJSON updatedAt))))

def Update.tokenHold (update : Update) : Option Token.PendingReplacement := some ⟨update.id, update.newWindows⟩

def Update.budgetHold (update : Update) : Option Budget.PendingReplacement := some ⟨update.id, update.newBudget⟩

def Book.revised (svc : Service Policy) (book : Book) (update : Update) (row : APIKeyRecord) : Copies :=
  book.copies.updated svc update.id update.enabled update.policyJSON row.updatedAt

-- After the write each copy in turn takes the new value. If the write has failed
-- there is nothing new to take.
def Written (book : Book) (sys : AdminSystem Policy) (between : APIKeyRecord → Copies) (tokenHold : Option Token.PendingReplacement)
    (budgetHold : Option Budget.PendingReplacement) : Except AdminError APIKeyRecord → Prop
  | .ok record =>
    sys.holdings = (between record).under tokenHold budgetHold ∧ (between record).rows.all APIKeyRecord.validate = true
  | .error _ => sys.holdings = book.copies.under tokenHold budgetHold

def Changing (svc : Service Policy) (update : Update) (prepared : Snapshot Policy) : Prop :=
  update.unchanged = false ∧ svc.prepare update.records = some prepared

def Staged (svc : Service Policy) (book : Book) (sys : AdminSystem Policy) (update : Update) : Stage Policy → Prop
  | .checkingTokens => sys.holdings = book.copies.free
  | .checkingBudget => sys.holdings = book.copies.free
  | .preparing => sys.holdings = book.copies.free
  | .replacingTokens prepared => Changing svc update prepared ∧ sys.holdings = book.copies.free
  | .replacingBudget prepared => Changing svc update prepared ∧ sys.holdings = book.copies.under update.tokenHold none
  | .writing prepared => Changing svc update prepared ∧ sys.holdings = book.copies.under update.tokenHold update.budgetHold
  | .leavingBudget prepared committed =>
    Changing svc update prepared ∧ Written book sys (fun row => { book.copies with rows := (book.revised svc update row).rows })
        update.tokenHold update.budgetHold committed
  | .leavingTokens prepared committed =>
    Changing svc update prepared ∧ Written book sys (fun row => { book.revised svc update row with windows := book.copies.windows })
        update.tokenHold none committed

def Underway (svc : Service Policy) (book : Book) (sys : AdminSystem Policy) : Work Policy → Prop
  | .creating _ => book.request = some .creation ∧ sys.holdings = book.copies.free
  | .inserting _ record prepared =>
    book.request = some .creation ∧ sys.holdings = book.copies.free ∧
      ∃ rows, sys.table.list = some rows ∧ svc.prepare (rows ++ [record]) = some prepared
  | .updating update stage => Ready svc book update ∧ Staged svc book sys update stage
  | .publishing (.created record) prepared =>
    book.request = some .creation ∧ sys.holdings = (book.copies.created record).free ∧ Prepared svc (book.copies.created record).rows prepared
  | .publishing (.updated record) prepared =>
    ∃ id enabled policyJSON, book.request = some (.update id enabled policyJSON) ∧
      sys.holdings = (book.copies.updated svc id enabled policyJSON record.updatedAt).free ∧
      Prepared svc (book.copies.updated svc id enabled policyJSON record.updatedAt).rows prepared
  | .publishing (.failed _) _ => False

def Engaged (svc : Service Policy) (book : Book) (sys : AdminSystem Policy) : Option (Work Policy) → Prop
  | none => book.request = none ∧ sys.holdings = book.copies.free
  | some work => Underway svc book sys work

structure Consistent (svc : Service Policy) (book : Book) (sys : AdminSystem Policy) : Prop where
  sound : BudgetsSound sys.budgets
  published : Prepared svc book.copies.rows sys.snapshot
  engaged : Engaged svc book sys sys.work

variable {service : Service Policy} {book : Book} {system next : AdminSystem Policy}

theorem engaged_congr {work : Option (Work Policy)} (holdings : next.holdings = system.holdings) (table : next.table = system.table)
    (engaged : Engaged service book system work) : Engaged service book next work := by
  unfold Engaged Underway Staged Written at *
  rw [holdings, table]
  exact engaged

theorem leases_consistent {leases : Lifecycle.System} {call : Lifecycle.Call} {rep : Lifecycle.Reply} (consistent : Consistent service book system)
    (foreign : setsPolicy call = false) (ran : Lifecycle.step system.leases call = some (leases, rep)) :
    Consistent service book { system with leases := leases } := by
  obtain ⟨ok, pub, engaged⟩ := consistent
  have tokens := token_view_foreign foreign ran
  have budgets := budget_view_foreign ok foreign ran
  have same : ({ system with leases := leases } : AdminSystem Policy).holdings = system.holdings := by
    simp only [AdminSystem.holdings, AdminSystem.tokens, AdminSystem.budgets, tokens, budgets]
  exact ⟨budgets_sound_foreign ok ran, pub, engaged_congr same rfl engaged⟩

section Limiters

variable {copies : Copies} {tokenHold : Option Token.PendingReplacement} {budgetHold : Option Budget.PendingReplacement}

theorem token_step_holdings {tokens after : TokenSystem} {call : Token.Call} {ans : Token.Reply} (has : system.tokens = some tokens)
    (did : Token.step tokens call = some (after, ans)) (pre : system.holdings = copies.under tokenHold budgetHold) :
    ∃ wins, copies.windows = some wins ∧ (system.withTokens after).holdings =
        { copies.under tokenHold budgetHold with tokens := some ((mk tokenHold wins).note call ans) } := by
  have view := congrArg Holdings.tokens pre
  simp only [AdminSystem.holdings, Copies.under, has, Option.map_some] at view
  obtain ⟨wins, held, same⟩ := Option.map_eq_some_iff.mp view.symm
  refine ⟨wins, held, ?_⟩
  rw [same, ← Token.policy_view_step did, ← pre]
  rfl

variable {budgets after : BudgetSystem} {ans : Budget.Reply} {call : Budget.Call}

theorem budget_step_holdings (ok : BudgetsSound system.budgets) (has : system.budgets = some budgets)
    (did : Budget.step budgets call = some (after, ans)) (pre : system.holdings = copies.under tokenHold budgetHold) :
    ∃ policies, copies.budgets = some policies ∧ (system.withBudgets after).holdings =
        { copies.under tokenHold budgetHold with budgets := some ((Budget.PolicyView.mk budgetHold policies).note call ans) } := by
  have view := congrArg Holdings.budgets pre
  simp only [AdminSystem.holdings, Copies.under, has, Option.map_some] at view
  obtain ⟨policies, held, same⟩ := Option.map_eq_some_iff.mp view.symm
  refine ⟨policies, held, ?_⟩
  rw [same, ← Budget.policy_view_step (ok budgets has) did, ← pre]
  rfl

theorem tokens_absent (gone : system.tokens = none) (pre : system.holdings = copies.under tokenHold budgetHold) : copies.windows = none := by
  have view := congrArg Holdings.tokens pre
  simpa [AdminSystem.holdings, Copies.under, gone] using view.symm

theorem budgets_absent (gone : system.budgets = none) (pre : system.holdings = copies.under tokenHold budgetHold) : copies.budgets = none := by
  have view := congrArg Holdings.budgets pre
  simpa [AdminSystem.holdings, Copies.under, gone] using view.symm

theorem with_budgets_sound (ok : BudgetsSound system.budgets) (has : system.budgets = some budgets)
    (did : Budget.step budgets call = some (after, ans)) : BudgetsSound (system.withBudgets after).budgets := by
  rintro _ ⟨⟩
  exact Budget.sound_step (ok budgets has) did

end Limiters

section Rows

variable {rows : List APIKeyRecord} {id : String} {row : APIKeyRecord}

theorem same_id (unique : (rows.map APIKeyRecord.id).Nodup) (mem : row ∈ rows) {alt : APIKeyRecord} (also : alt ∈ rows)
    (same : alt.id = row.id) : alt = row :=
  List.inj_on_of_nodup_map unique also mem same

theorem map_where_id (unique : (rows.map APIKeyRecord.id).Nodup) (mem : row ∈ rows) (here : row.id = id) (one two : APIKeyRecord → APIKeyRecord)
    (agree : one row = two row) : rows.map (whereID id one) = rows.map (whereID id two) := by
  refine List.map_congr_left (fun alt also => ?_)
  unfold whereID
  split
  · rename_i hit
    rw [same_id unique mem also (hit.trans here.symm), agree]
  · rfl

variable {copies : Copies}

variable (unique : (copies.rows.map APIKeyRecord.id).Nodup)
include unique

theorem holds_iff (mem : row ∈ copies.rows) (here : row.id = id) (enabled : Bool) (policyJSON : ByteArray) :
    copies.holds id enabled policyJSON = (decide (row.enabled = enabled) && decide (row.policyJSON = policyJSON)) := by
  refine Bool.eq_iff_iff.mpr ?_
  simp only [Copies.holds, List.any_eq_true, Bool.and_eq_true, decide_eq_true_eq]
  constructor
  · rintro ⟨alt, also, ⟨hit, enabled⟩, document⟩
    rw [same_id unique mem also (hit.trans here.symm)] at enabled document
    exact ⟨enabled, document⟩
  · rintro ⟨enabled, document⟩
    exact ⟨row, mem, ⟨here, enabled⟩, document⟩

theorem updated_same (mem : row ∈ copies.rows) (here : row.id = id) :
    copies.updated service id row.enabled row.policyJSON row.updatedAt = copies := by
  have held : copies.holds id row.enabled row.policyJSON = true := by simp [holds_iff unique mem here]
  have kept : copies.rows.map (whereID id (Copies.revised row.enabled row.policyJSON row.updatedAt)) = copies.rows := by
    rw [map_where_id unique mem here _ (fun record => record) rfl]
    refine (List.map_congr_left (fun other _ => ?_)).trans (List.map_id _)
    simp [whereID]
  simp [Copies.updated, held, kept]

end Rows

variable {update : Update} {database : Bool}

theorem listed_table {rows : List APIKeyRecord} (listing : system.list database = some rows) : system.table.list = some rows := by
  unfold AdminSystem.list at listing
  split at listing
  · exact listing
  · cases listing

theorem begin_update_ready {id : String} {enabled : Bool} {policyJSON : ByteArray} (rows : system.table.rows = book.copies.rows)
    (begun : beginUpdate service system id enabled policyJSON database = .ok update) :
    Ready service { book with request := some (.update id enabled policyJSON) } update := by
  unfold beginUpdate at begun
  cases listing : system.list database with
  | none => simp [listing] at begun
  | some records =>
    have order := list_perm (listed_table listing)
    have unique : (records.map APIKeyRecord.id).Nodup := (order.map APIKeyRecord.id).nodup_iff.mpr system.table.uniqueIDs
    simp only [listing] at begun
    split at begun
    · cases begun
    rename_i row hit
    split at begun
    · rename_i oldPolicy newPolicy oldParsed newParsed
      obtain rfl := Except.ok.inj begun
      have here : row.id = id := by
        have inside := (List.getElem?_eq_some_iff.mp hit).1
        have picked := List.findIdx_getElem (w := inside)
        rw [(List.getElem?_eq_some_iff.mp hit).2] at picked
        simpa using picked
      refine ⟨rfl, rows ▸ system.table.uniqueIDs, rows ▸ system.table.uniquePrefixes, ?_, ?_, ?_, ?_⟩
      · simp [updateOf, Service.windowsOf, newParsed]
      · simp [updateOf, Service.budgetOf, newParsed]
      · exact ⟨row, rows ▸ order.mem_iff.mp (List.mem_of_getElem? hit), here, rfl, rfl⟩
      intro updatedAt
      have swapped := Roster.set_first APIKeyRecord.id (fun row => replaceRecord row enabled policyJSON) unique hit
      have alike : (authRecord ∘ fun row => if row.id = id then replaceRecord row enabled policyJSON else row) =
          authRecord ∘ whereID id (Copies.revised enabled policyJSON updatedAt) := by
        funext row
        simp only [Function.comp_apply, whereID]
        split <;> rfl
      simp only [updateOf, authRecords, swapped, List.map_map, alike, ← rows]
      exact order.map _
    · cases begun

theorem ready_built {prepared : Snapshot Policy} (ready : Ready service book update) (built : service.prepare update.records = some prepared)
    (updatedAt : Int) :
    service.prepare (book.copies.rows.map (whereID update.id (Copies.revised update.enabled update.policyJSON updatedAt))) = some prepared := by
  rw [← built]
  refine prepare_perm (ready.records updatedAt).symm ?_
  have same := Storage.where_id_field (Copies.revised update.enabled update.policyJSON updatedAt) (fun _ => rfl)
    Storage.APIKeyIdentity.displayPrefix update.id book.copies.rows
  exact (show _ = book.copies.rows.map APIKeyRecord.displayPrefix from same) ▸ ready.uniquePrefixes

theorem ready_holds (ready : Ready service book update) : book.copies.holds update.id update.enabled update.policyJSON = update.unchanged := by
  obtain ⟨_, mem, here, _, same⟩ := ready.known
  rw [same, holds_iff ready.uniqueIDs mem here]

theorem revised_limiters (ready : Ready service book update) (changed : update.unchanged = false) (row : APIKeyRecord) :
    (book.revised service update row).windows = book.copies.windows.map (Finmap.insert update.id update.newWindows.toFinset) ∧
      (book.revised service update row).budgets = book.copies.budgets.map (Finmap.insert update.id update.newBudget) := by
  simp [Book.revised, Copies.updated, ready_holds ready, changed, ready.newWindows, ready.newBudget]

section Proceeding

variable (surroundings : Surroundings)

def Follows (svc : Service Policy) (book : Book) (did : AdminSystem Policy × Reply) : Prop :=
  Consistent svc (book.note svc (.proceed surroundings) did.2) did.1

variable {surroundings}
variable {work : Work Policy} {prepared : Snapshot Policy}

variable {err : AdminError} (ok : BudgetsSound system.budgets) (pub : Prepared service book.copies.rows system.snapshot)
include ok pub

theorem become_follows (underway : Underway service book system work) : Follows surroundings service book (system.become work) :=
  ⟨ok, pub, engaged_congr rfl rfl (show Engaged service book system (some work) from underway)⟩

theorem failure_follows (holdings : system.holdings = book.copies.free) : Follows surroundings service book (system.finish (.failed err)) :=
  ⟨ok, pub, rfl, holdings⟩

variable {record : APIKeyRecord} {table after : APIKeyTable} {creation : Creation}

theorem create_follows (underway : Underway service book system (.creating creation)) :
    Follows surroundings service book (createStep service system creation surroundings) := by
  obtain ⟨req, holdings⟩ := underway
  unfold createStep attempt
  split
  · split
    · exact failure_follows ok pub holdings
    split
    · exact failure_follows ok pub holdings
    rename_i rows listing
    split
    · exact failure_follows ok pub holdings
    · rename_i prepared built
      exact become_follows ok pub ⟨req, holdings, rows, listed_table listing, built⟩
  · exact failure_follows ok pub holdings

omit ok pub in
theorem insert_ok (inserted : table.insert record = .ok after) : record.validate = true ∧ after.rows = table.rows ++ [record] := by
  unfold APIKeyTable.insert at inserted
  split at inserted
  · cases inserted
  rename_i valid
  split at inserted <;> cases inserted
  exact ⟨by simpa using valid, rfl⟩

omit ok pub in
theorem update_ok {id : String} {enabled : Bool} {policyJSON : ByteArray} {now : Int}
    (updated : table.updatePolicyRecord id enabled policyJSON now = .ok (after, record)) :
    record.validate = true ∧ ∃ row ∈ table.rows, row.id = id ∧ record = row.withPolicy enabled policyJSON now ∧
      after.rows = table.rows.map (whereID id (fun row => row.withPolicy enabled policyJSON now)) := by
  unfold APIKeyTable.updatePolicyRecord at updated
  split at updated
  · cases updated
  split at updated
  · cases updated
  rename_i row hit
  simp only at updated
  split at updated <;> cases updated
  rename_i valid
  exact ⟨valid, row, List.mem_of_find?_eq_some hit, by simpa using List.find?_some hit, rfl, rfl⟩

theorem insert_follows (underway : Underway service book system (.inserting creation record prepared)) :
    Follows surroundings service book (insertStep system creation record prepared surroundings.database) := by
  obtain ⟨req, holdings, records, shown, built⟩ := underway
  have rows : system.table.rows = book.copies.rows := congrArg Holdings.rows holdings
  unfold insertStep
  split
  · split
    · rename_i table inserted
      obtain ⟨valid, stored⟩ := insert_ok inserted
      have extended : table.rows = (book.copies.created record).rows := by rw [stored, rows]; rfl
      have order : (records ++ [record]).Perm table.rows := stored ▸ (list_perm shown).append_right [record]
      refine become_follows ok pub ⟨req, ?_, ?_, ?_⟩
      · have tokens := congrArg Holdings.tokens holdings
        have budgets := congrArg Holdings.budgets holdings
        exact Holdings.mk.injEq .. |>.mpr ⟨extended, tokens, budgets⟩
      · simp [Copies.created, pub.valid, valid]
      · rw [← built, ← extended]
        exact (prepare_perm (order.map authRecord) ((order.map APIKeyRecord.displayPrefix).nodup_iff.mpr table.uniquePrefixes)).symm
    · exact become_follows ok pub ⟨req, holdings⟩
    · exact failure_follows ok pub holdings
  · exact failure_follows ok pub holdings

section Updating

variable {update : Update} {prepared : Snapshot Policy} {did : AdminSystem Policy × Reply} (ready : Ready service book update)
include ready

variable {committed : Except AdminError APIKeyRecord} {read : Int}

theorem check_tokens_follows (staged : Staged service book system update .checkingTokens)
    (ran : checkTokens system update read = some did) : Follows surroundings service book did := by
  unfold checkTokens at ran
  cases has : system.tokens with
  | none =>
    simp only [has, Option.some.injEq] at ran
    exact ran ▸ become_follows ok pub ⟨ready, staged⟩
  | some tokens =>
    have same : ∀ {after ans}, Token.step tokens (.allowsPolicyReplacement read update.id update.oldWindows update.newWindows) = some (after, ans) →
        (system.withTokens after).holdings = book.copies.free := by
      intro _ _ asked
      obtain ⟨_, held, holdings⟩ := token_step_holdings has asked staged
      simpa [note, Copies.free, Copies.under, held] using holdings
    simp only [has] at ran
    split at ran
    · rename_i asked
      exact Option.some.inj ran ▸ become_follows ok pub ⟨ready, same asked⟩
    · rename_i asked
      exact Option.some.inj ran ▸ failure_follows ok pub (same asked)
    · cases ran

theorem check_budget_follows (staged : Staged service book system update .checkingBudget)
    (ran : checkBudget system update = some did) : Follows surroundings service book did := by
  unfold checkBudget at ran
  cases has : system.budgets with
  | none =>
    simp only [has, Option.some.injEq] at ran
    exact ran ▸ become_follows ok pub ⟨ready, staged⟩
  | some =>
    simp only [has] at ran
    split at ran
    · cases ran
    · split at ran
      · exact Option.some.inj ran ▸ failure_follows ok pub staged
      · exact Option.some.inj ran ▸ become_follows ok pub ⟨ready, staged⟩

theorem prepare_follows (staged : Staged service book system update .preparing) :
    Follows surroundings service book (prepareStep service system update) := by
  unfold prepareStep
  split
  · exact failure_follows ok pub staged
  rename_i prepared built
  split
  · rename_i unchanged
    obtain ⟨row, mem, here, replacement, same⟩ := ready.known
    obtain ⟨enabled, document⟩ : row.enabled = update.enabled ∧ row.policyJSON = update.policyJSON := by
      simpa [unchanged] using same
    have untouched : update.replacement = row := by rw [replacement, ← enabled, ← document]; rfl
    have still : book.copies.updated service update.id update.enabled update.policyJSON update.replacement.updatedAt = book.copies := by
      rw [untouched, ← enabled, ← document]
      exact updated_same ready.uniqueIDs mem here
    refine become_follows ok pub ⟨_, _, _, ready.request, ?_, ?_, ?_⟩
    · rw [still]
      exact staged
    · rw [still]
      exact pub.valid
    · exact ready_built ready built update.replacement.updatedAt
  · rename_i changed
    exact become_follows ok pub ⟨ready, ⟨by simpa using changed, built⟩, staged⟩

theorem enter_tokens_follows (staged : Staged service book system update (.replacingTokens prepared))
    (ran : enterTokens system update prepared read = some did) : Follows surroundings service book did := by
  obtain ⟨changing, holdings⟩ := staged
  unfold enterTokens at ran
  cases has : system.tokens with
  | none =>
    have gone := tokens_absent has holdings
    simp only [has, Option.some.injEq] at ran
    refine ran ▸ become_follows ok pub ⟨ready, changing, ?_⟩
    rw [holdings]
    simp [Copies.free, Copies.under, gone]
  | some tokens =>
    simp only [has] at ran
    split at ran
    · rename_i after ds inside
      obtain ⟨_, held, locked⟩ := token_step_holdings has inside holdings
      refine Option.some.inj ran ▸ become_follows ok pub ⟨ready, changing, ?_⟩
      rw [locked]
      simp [note, Copies.under, held, Update.tokenHold]
    · rename_i after err ds denied
      obtain ⟨_, held, free⟩ := token_step_holdings has denied holdings
      refine Option.some.inj ran ▸ failure_follows ok pub ?_
      rw [free]
      simp [note, Copies.free, Copies.under, held]
    · cases ran

theorem enter_budget_follows (staged : Staged service book system update (.replacingBudget prepared))
    (ran : enterBudget system update prepared = some did) : Follows surroundings service book did := by
  obtain ⟨changing, holdings⟩ := staged
  unfold enterBudget at ran
  cases has : system.budgets with
  | none =>
    have gone := budgets_absent has holdings
    simp only [has, Option.some.injEq] at ran
    refine ran ▸ become_follows ok pub ⟨ready, changing, ?_⟩
    rw [holdings]
    simp [Copies.under, gone]
  | some budgets =>
    simp only [has] at ran
    split at ran
    · rename_i after ds inside
      obtain ⟨_, held, locked⟩ := budget_step_holdings ok has inside holdings
      refine Option.some.inj ran ▸ become_follows (with_budgets_sound ok has inside) pub ⟨ready, changing, ?_⟩
      rw [locked]
      simp [Budget.PolicyView.note, Copies.under, held, Update.budgetHold]
    · rename_i after err ds denied
      obtain ⟨_, held, free⟩ := budget_step_holdings ok has denied holdings
      refine Option.some.inj ran ▸ become_follows (with_budgets_sound ok has denied) pub ⟨ready, changing, ?_⟩
      show (system.withBudgets after).holdings = _
      rw [free]
      simp [Budget.PolicyView.note, Copies.under, held]
    · cases ran

theorem write_follows (staged : Staged service book system update (.writing prepared)) :
    Follows surroundings service book (writeStep system update prepared surroundings) := by
  obtain ⟨changing, holdings⟩ := staged
  have rows : system.table.rows = book.copies.rows := congrArg Holdings.rows holdings
  unfold writeStep
  split
  · split
    · rename_i table record written
      obtain ⟨valid, row, mem, here, same, stored⟩ := update_ok written
      have revised : table.rows = (book.revised service update record).rows := by
        rw [stored, rows]
        exact map_where_id ready.uniqueIDs (rows ▸ mem) here _ _ (by rw [same]; rfl)
      refine become_follows ok pub ⟨ready, changing, ?_, ?_⟩
      · have tokens := congrArg Holdings.tokens holdings
        have budgets := congrArg Holdings.budgets holdings
        exact Holdings.mk.injEq .. |>.mpr ⟨revised, tokens, budgets⟩
      rw [← revised, stored, List.all_eq_true]
      intro entry shown
      obtain ⟨old, there, rfl⟩ := List.mem_map.mp shown
      unfold whereID
      split
      · rename_i hit
        rw [same_id system.table.uniqueIDs mem there (hit.trans here.symm)]
        rw [same] at valid
        exact valid
      · exact List.all_eq_true.mp pub.valid old (rows ▸ there)
    · exact become_follows ok pub ⟨ready, changing, holdings⟩
  · exact become_follows ok pub ⟨ready, changing, holdings⟩

theorem leave_budget_follows (staged : Staged service book system update (.leavingBudget prepared committed))
    (ran : leaveBudget system update prepared committed = some did) : Follows surroundings service book did := by
  obtain ⟨changing, written⟩ := staged
  unfold leaveBudget at ran
  cases has : system.budgets with
  | none =>
    simp only [has, Option.some.injEq] at ran
    refine ran ▸ become_follows ok pub ⟨ready, changing, ?_⟩
    cases committed with
    | ok record =>
      obtain ⟨holdings, valid⟩ := written
      have gone := budgets_absent has holdings
      refine ⟨?_, valid⟩
      rw [holdings]
      simp [Copies.under, show book.copies.budgets = none from gone, (revised_limiters ready changing.1 record).2]
    | error =>
      have gone := budgets_absent has written
      exact written.trans (by simp [Copies.under, gone])
  | some =>
    simp only [has, Option.map_eq_some_iff] at ran
    obtain ⟨⟨after, _⟩, left, rfl⟩ := ran
    refine become_follows (with_budgets_sound ok has left) pub ⟨ready, changing, ?_⟩
    cases committed with
    | ok record =>
      obtain ⟨holdings, valid⟩ := written
      obtain ⟨policies, held, freed⟩ := budget_step_holdings ok has left holdings
      have pre : book.copies.budgets = some policies := held
      refine ⟨?_, valid⟩
      rw [freed]
      simp [Copies.under, pre, (revised_limiters ready changing.1 record).2, Budget.PolicyView.note, Update.budgetHold, Except.isOk, Except.toBool]
    | error =>
      obtain ⟨_, held, freed⟩ := budget_step_holdings ok has left written
      show (system.withBudgets after).holdings = _
      rw [freed]
      simp [Copies.under, held, Budget.PolicyView.note, Update.budgetHold, Except.isOk, Except.toBool]

theorem conclude_follows (changing : Changing service update prepared)
    (written : Written book system (book.revised service update) none none committed) :
    Follows surroundings service book (conclude system prepared committed) := by
  cases committed with
  | ok record =>
    obtain ⟨holdings, valid⟩ := written
    exact become_follows ok pub ⟨_, _, _, ready.request, holdings, valid, ready_built ready changing.2 record.updatedAt⟩
  | error => exact failure_follows ok pub written

theorem leave_tokens_follows (staged : Staged service book system update (.leavingTokens prepared committed))
    (ran : leaveTokens system prepared committed = some did) : Follows surroundings service book did := by
  obtain ⟨changing, written⟩ := staged
  unfold leaveTokens at ran
  cases has : system.tokens with
  | none =>
    simp only [has, Option.some.injEq] at ran
    refine ran ▸ conclude_follows ok pub ready changing ?_
    cases committed with
    | ok record =>
      obtain ⟨holdings, valid⟩ := written
      have gone := tokens_absent has holdings
      refine ⟨?_, valid⟩
      rw [holdings]
      simp [Copies.under, show book.copies.windows = none from gone, (revised_limiters ready changing.1 record).1]
    | error =>
      have gone := tokens_absent has written
      exact written.trans (by simp [Copies.under, gone])
  | some =>
    simp only [has, Option.map_eq_some_iff] at ran
    obtain ⟨⟨after, _⟩, left, rfl⟩ := ran
    refine conclude_follows (show BudgetsSound (system.withTokens after).budgets from ok) pub ready changing ?_
    cases committed with
    | ok record =>
      obtain ⟨holdings, valid⟩ := written
      obtain ⟨wins, held, freed⟩ := token_step_holdings has left holdings
      have pre : book.copies.windows = some wins := held
      refine ⟨?_, valid⟩
      rw [freed]
      simp [Copies.under, pre, (revised_limiters ready changing.1 record).1, note, Update.tokenHold, Except.isOk, Except.toBool]
    | error =>
      obtain ⟨_, held, freed⟩ := token_step_holdings has left written
      show (system.withTokens after).holdings = _
      rw [freed]
      simp [Copies.under, held, note, Update.tokenHold, Except.isOk, Except.toBool]

end Updating

omit pub in
theorem publish_follows {out : Outcome} (underway : Underway service book system (.publishing out prepared)) :
    Follows surroundings service book (AdminSystem.finish { system with snapshot := prepared } out) := by
  cases out with
  | created =>
    obtain ⟨_, holdings, fits⟩ := underway
    exact ⟨ok, fits, rfl, holdings⟩
  | updated =>
    obtain ⟨_, _, _, req, holdings, fits⟩ := underway
    simp only [Follows, Book.note, AdminSystem.finish, req]
    exact ⟨ok, fits, rfl, holdings⟩
  | failed => exact underway.elim

omit ok pub in
theorem proceed_follows {did : AdminSystem Policy × Reply} (consistent : Consistent service book system) (busy : system.work = some work)
    (ran : proceed service system surroundings work = some did) : Follows surroundings service book did := by
  obtain ⟨ok, pub, engaged⟩ := consistent
  rw [busy] at engaged
  cases work with
  | creating => exact Option.some.inj ran ▸ create_follows ok pub engaged
  | inserting => exact Option.some.inj ran ▸ insert_follows ok pub engaged
  | publishing => exact Option.some.inj ran ▸ publish_follows ok engaged
  | updating _ stage =>
    obtain ⟨ready, staged⟩ := engaged
    cases stage with
    | checkingTokens => exact check_tokens_follows ok pub ready staged ran
    | checkingBudget => exact check_budget_follows ok pub ready staged ran
    | preparing => exact Option.some.inj ran ▸ prepare_follows ok pub ready staged
    | replacingTokens => exact enter_tokens_follows ok pub ready staged ran
    | replacingBudget => exact enter_budget_follows ok pub ready staged ran
    | writing => exact Option.some.inj ran ▸ write_follows ok pub ready staged
    | leavingBudget => exact leave_budget_follows ok pub ready staged ran
    | leavingTokens => exact leave_tokens_follows ok pub ready staged ran

end Proceeding

theorem consistent_step {call : Call} {rep : Reply} (consistent : Consistent service book system)
    (ran : service.step system call = some (next, rep)) : Consistent service (book.note service call rep) next := by
  cases call with
  | leases =>
    simp only [Service.step, Option.ite_none_left_eq_some, Option.map_eq_some_iff, Prod.mk.injEq] at ran
    obtain ⟨foreign, ⟨_, _⟩, did, rfl, rfl⟩ := ran
    exact leases_consistent consistent (by simpa using foreign) did
  | create =>
    simp only [Service.step] at ran
    split at ran
    · cases ran
      exact consistent
    simp only [Option.ite_none_left_eq_some, Option.some.injEq, Prod.mk.injEq] at ran
    obtain ⟨idle, rfl, rfl⟩ := ran
    obtain ⟨ok, pub, engaged⟩ := consistent
    have free : system.work = none := by simpa using idle
    rw [free] at engaged
    exact ⟨ok, pub, rfl, engaged.2⟩
  | updatePolicy id enabled policyJSON database =>
    simp only [Service.step] at ran
    split at ran
    · cases ran
      exact consistent
    simp only [Option.ite_none_left_eq_some] at ran
    obtain ⟨idle, begun⟩ := ran
    have free : system.work = none := by simpa using idle
    split at begun
    · cases begun
      exact consistent
    rename_i update made
    cases begun
    obtain ⟨ok, pub, engaged⟩ := consistent
    rw [free] at engaged
    exact ⟨ok, pub, begin_update_ready (congrArg Holdings.rows engaged.2) made, engaged.2⟩
  | proceed around =>
    simp only [Service.step] at ran
    split at ran
    · cases ran
    · rename_i work busy
      exact proceed_follows consistent busy ran

end Invariant

section Starting

def opensReplacement : Lifecycle.Call → Bool
  | .resources (.tokenCall (.replaceBegin _ _ _ _ _)) => true
  | .resources (.budgetCall (.replaceBegin _ _ _)) => true
  | _ => false

structure Unlocked (sys : Lifecycle.System) : Prop where
  sound : BudgetsSound sys.resources.budgets
  tokens : ∀ tokens, sys.resources.tokens = some tokens → tokens.replacing = none
  budgets : ∀ budgets, sys.resources.budgets = some budgets → budgets.replacing = none

theorem token_unlocked {tokens after : TokenSystem} {call : Token.Call} {ans : Token.Reply} (free : tokens.replacing = none)
    (quiet : opensReplacement (.resources (.tokenCall call)) = false) (did : Token.step tokens call = some (after, ans)) :
    after.replacing = none := by
  have due := congrArg pending (Token.policy_view_step did)
  simp only [TokenSystem.policyView] at due
  rw [due]
  cases call with
  | replaceBegin => cases quiet
  | replaceEnd => simp only [note, free]
  | _ => exact free

theorem budget_unlocked {budgets after : BudgetSystem} {call : Budget.Call} {ans : Budget.Reply} (ok : budgets.Sound)
    (free : budgets.replacing = none) (quiet : opensReplacement (.resources (.budgetCall call)) = false)
    (did : Budget.step budgets call = some (after, ans)) : after.replacing = none := by
  have due := congrArg Budget.PolicyView.pending (Budget.policy_view_step ok did)
  simp only [BudgetSystem.policyView] at due
  rw [due]
  cases call with
  | replaceBegin => cases quiet
  | replaceEnd => simp only [Budget.PolicyView.note, free]
  | registerPolicy =>
    simp only [Budget.PolicyView.note]
    split <;> exact free
  | _ => exact free

theorem unlocked_step {sys next : Lifecycle.System} {call : Lifecycle.Call} {rep : Lifecycle.Reply} (unlocked : Unlocked sys)
    (quiet : opensReplacement call = false) (ran : Lifecycle.step sys call = some (next, rep)) : Unlocked next := by
  obtain ⟨ok, tokens, budgets⟩ := unlocked
  refine ⟨budgets_sound_foreign ok ran, within_kept ?_ (Lifecycle.step_token_act ran) tokens,
    within_kept ?_ (Lifecycle.step_budget_act ran) budgets⟩
  · intro _ _ _ _ _ free why did
    refine token_unlocked free ?_ did
    cases why with
    | outside => exact quiet
    | _ => rfl
  · intro _ _ _ _ has free why did
    refine budget_unlocked (ok _ has) free ?_ did
    cases why with
    | outside => exact quiet
    | _ => rfl

theorem fresh_unlocked (slots : Option Nat) (tokens budgets : Bool) : Unlocked (freshSystem slots tokens budgets) := by
  refine ⟨(regular_fresh slots tokens budgets).budgets, ?_, ?_⟩
  · cases tokens
    · rintro _ ⟨⟩
    · rintro _ ⟨⟩
      rfl
  · cases budgets
    · rintro _ ⟨⟩
    · rintro _ ⟨⟩
      rfl

variable {Policy : Type} {svc : Service Policy}

theorem map_m_forall {α β : Type} {make : α → Option β} {property : β → Prop} (each : ∀ item made, make item = some made → property made)
    {items : List α} {results : List β} (mapped : items.mapM make = some results) : ∀ made ∈ results, property made := by
  induction items generalizing results with
  | nil =>
    obtain rfl : [] = results := by simpa using mapped
    simp
  | cons item _ ih =>
    simp only [List.mapM_cons, Option.pure_def, Option.bind_eq_bind, Option.bind_eq_some_iff, Option.some.injEq] at mapped
    obtain ⟨made, here, _, later, rfl⟩ := mapped
    simpa using ⟨each item made here, ih later⟩

theorem registrations_quiet {has : Bool} {register : APIKeyRecord → Policy → Resource.Call} {rows : List APIKeyRecord}
    {cs : List Lifecycle.Call} (quiet : ∀ row pol, opensReplacement (.resources (register row pol)) = false)
    (filed : registrations svc has register rows = some cs) : ∀ call ∈ cs, opensReplacement call = false := by
  unfold registrations at filed
  split at filed
  · refine map_m_forall (fun row call made => ?_) filed
    obtain ⟨pol, _, rfl⟩ := Option.map_eq_some_iff.mp made
    exact quiet row pol
  · cases filed
    simp

theorem start_consistent {startup : Startup} {origin : AdminSystem Policy} (begun : svc.start startup = some origin) :
    Consistent svc ⟨origin.copies, none⟩ origin ∧ origin.work = none := by
  simp only [Service.start, Option.bind_eq_bind, Option.pure_def, Option.bind_eq_some_iff, Option.some.injEq] at begun
  obtain ⟨rows, shown, snapshot, built, tokenCalls, tokenMade, budgetCalls, budgetMade, ⟨leases, outs⟩, loaded, rfl⟩ := begun
  have quiet : ∀ call ∈ startup.loads.map Load.call ++ tokenCalls ++ budgetCalls, opensReplacement call = false := by
    intro call mem
    rcases List.mem_append.mp mem with early | last
    · rcases List.mem_append.mp early with loading | register
      · obtain ⟨load, _, rfl⟩ := List.mem_map.mp loading
        cases load <;> rfl
      · exact registrations_quiet (fun _ _ => rfl) tokenMade call register
    · exact registrations_quiet (fun _ _ => rfl) budgetMade call last
  obtain ⟨ok, tokens, budgets⟩ := run_invariant Unlocked (fun _ _ _ _ kept quiet transition => unlocked_step kept quiet transition)
    (fresh_unlocked startup.slots startup.tokens startup.budgets) (along_of_forall (fun _ => quiet) _) loaded
  refine ⟨⟨ok, ⟨?_, ?_⟩, rfl, ?_⟩, rfl⟩
  · unfold APIKeyTable.list at shown
    split at shown
    · assumption
    · cases shown
  · rw [← built]
    exact prepare_perm ((list_perm shown).symm.map authRecord) startup.table.uniquePrefixes
  · have tokenView : leases.resources.tokens.map TokenSystem.policyView =
        (leases.resources.tokens.map (fun tokens => tokens.limiter.policyWindows)).map (mk none) := by
      cases has : leases.resources.tokens with
      | none => rfl
      | some lim => simp [TokenSystem.policyView, tokens lim has]
    have budgetView : leases.resources.budgets.map BudgetSystem.policyView =
        (leases.resources.budgets.map (fun budgets => budgets.limiter.policies)).map (Budget.PolicyView.mk none) := by
      cases has : leases.resources.budgets with
      | none => rfl
      | some lim => simp [BudgetSystem.policyView, budgets lim has]
    exact Holdings.mk.injEq .. |>.mpr ⟨rfl, tokenView, budgetView⟩

end Starting

section Runs

variable {Policy : Type} {service : Service Policy}
variable {sys : AdminSystem Policy}

theorem consistent_run {origin : AdminSystem Policy} {startup : Startup} {cs : List Call} {outs : List Reply}
    (begun : service.start startup = some origin) (run : execute service.step origin cs = some (sys, outs)) :
    Consistent service (Book.of service origin.copies cs outs) sys := by
  refine run_traced (fun past told st => Consistent service (Book.of service origin.copies past told) st) ?_
    (start_consistent begun).1 along_always run
  intro past told st call next rep got consistent _ transition
  rw [Book.of_append service (execute_length got)]
  exact consistent_step consistent transition

theorem free_copies {copies : Copies} (holdings : sys.holdings = copies.free) : sys.copies = copies := by
  obtain ⟨rows, tokens, budgets⟩ := Holdings.mk.injEq .. |>.mp holdings
  have wins := congrArg (Option.map windows) tokens
  have policies := congrArg (Option.map Budget.PolicyView.policies) budgets
  simp only [Option.map_map, Function.comp_def, TokenSystem.policyView, BudgetSystem.policyView, Option.map_id'] at wins policies
  simp [AdminSystem.copies, rows, wins, policies]

-- In every run of key creations and policy updates among the lives of leases,
-- whenever no operation is under way the stored records and both limiters are
-- what the finished operations say, and the snapshot is that of the records.
theorem admin_updates_all_or_nothing {startup : Startup} {origin system : AdminSystem Policy} {calls : List Call} {replies : List Reply}
    (started : service.start startup = some origin) (run : Transition.execute service.step origin calls = some (system, replies))
    (idle : system.work = none) :
    system.copies = (Book.of service origin.copies calls replies).copies ∧ system.table.list.bind service.prepare = some system.snapshot := by
  obtain ⟨_, pub, engaged⟩ := consistent_run started run
  rw [idle] at engaged
  obtain ⟨_, holdings⟩ := engaged
  have rows : system.table.rows = _ := congrArg Holdings.rows holdings
  exact ⟨free_copies holdings, prepared_list (show Prepared service system.table.rows system.snapshot from rows ▸ pub)⟩

end Runs

def limitedPolicy : ByteArray :=
  ("\x7b\"token_windows\":[\x7b\"amount\":100,\"duration\":\"1m\"\x7d]," ++
    "\"budget_limits\":[\x7b\"amount_micros\":5000,\"period\":\"total\"\x7d]\x7d").toUTF8

def twoDocuments : PolicyCompiler Bool :=
  { parsePolicyJSONWithTokenMode := fun document _ =>
      if document = emptyPolicy then some false else if document = limitedPolicy then some true else none
    tokenWindows := fun limited => if limited then [⟨100, 60 * secondNanos⟩] else []
    totalBudget := fun limited => if limited then (.known 5000, true) else (.unknown, false)
    dailyBudget := fun _ => (.unknown, false)
    monthlyBudget := fun _ => (.unknown, false) }

def twoDocumentService : Service Bool := ⟨twoDocuments, .estimate⟩

def emptyStartup : Startup := { slots := none, tokens := true, budgets := true, loads := [], table := .empty }

def proceedAt (seconds : Int) : Call :=
  .proceed ⟨seconds * secondNanos, 2000, some { displayPrefix := "sk-gw-AAAAAAAA", digest := List.replicate 32 7, id := "key-1", now := 1000 }, true⟩

def limitedUse : Resource.ResourceLeaseOptions :=
  { keyID := "key-1", maxConcurrency := 0, tokenWindows := [⟨100, 60 * secondNanos⟩], tokenAmount := 10
    budgetPolicy := Budget.limitedBudgetPolicy (.known 5000), budgetCandidate := .known 20 }

def limitedKey : List Call :=
  [.create "first" none, proceedAt 1, proceedAt 2, proceedAt 3, .updatePolicy "key-1" true limitedPolicy true] ++
    ((List.range 9).map (fun index => proceedAt (10 + index))) ++
    [.leases (.resources (.acquire limitedUse)), .leases (.resources (.advance 0 (30 * secondNanos))),
      .leases (.resources (.advance 0 (31 * secondNanos))), .updatePolicy "key-1" true emptyPolicy true, proceedAt 40]

theorem limited_key_runs : ((twoDocumentService.start emptyStartup).bind (fun origin => execute twoDocumentService.step origin limitedKey)).map
        (fun out => (out.1.work.isNone, out.2.getLast?, out.1.table.rows.map APIKeyRecord.policyJSON)) =
      some (true, some (.finished (.failed .policyConflict)), [limitedPolicy]) := by
  decide +kernel

theorem admin_updates_all_or_nothing_conflict : ∃ origin system replies, twoDocumentService.start emptyStartup = some origin ∧
    Transition.execute twoDocumentService.step origin limitedKey = some (system, replies) ∧ system.work = none ∧
    replies.getLast? = some (.finished (.failed .policyConflict)) ∧ system.table.rows.map APIKeyRecord.policyJSON = [limitedPolicy] ∧
    system.copies = (Book.of twoDocumentService origin.copies limitedKey replies).copies ∧
    system.table.list.bind twoDocumentService.prepare = some system.snapshot := by
  obtain ⟨⟨system, replies⟩, through, facts⟩ := Option.map_eq_some_iff.mp limited_key_runs
  obtain ⟨origin, begun, run⟩ := Option.bind_eq_some_iff.mp through
  simp only [Prod.mk.injEq, Option.isNone_iff_eq_none] at facts
  exact ⟨origin, system, replies, begun, run, facts.1, facts.2.1, facts.2.2, admin_updates_all_or_nothing begun run facts.1⟩

end NineGateway.Admin
