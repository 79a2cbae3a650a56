/-
Module: JumptotechLabs.Access.Agreement
Layer: Access (apps/api/src/access/entitlements.ts, postgres-store.ts)
Purpose: The two stores keep the same rows, and list them in different orders. `evaluateAccount` answers
  the same for both orders unless the two rows tie; and as long as every call fits the database's columns,
  the rows themselves are the same.
Main exports: Tied, Alike, alike_iff_not_tied, SamePlan, samePlan, Same, same_of_calls, stores_decide_alike
-/
import JumptotechLabs.Access.Storable

namespace JumptotechLabs.Access

open JumptotechLabs.Core

/-! ### Which row answers -/

/-- Is this row's window open? -/
def isOpen (now : Instant) (row : Entitlement) : Bool := (evaluateAccess (some row) now).active

/-- Nothing but the order they are listed in decides between the two rows: both are suspended; or both are
    open trials with one end; or neither is suspended or open and both were changed at one instant. -/
def tiedRows (now : Instant) (a b : Entitlement) : Bool :=
  if isSuspended a || isSuspended b then isSuspended a && isSuspended b
  else if isOpen now a || isOpen now b then
    isOpen now a && isOpen now b && a.kind == .trial && b.kind == .trial && a.expiresAt == b.expiresAt
  else a.updatedAt == b.updatedAt

/-- The account has both rows, and they tie. -/
def Tied (now : Instant) (row : GrantedVia → Option Entitlement) : Prop :=
  ∃ a b, row .operator = some a ∧ row .billing = some b ∧ tiedRows now a b = true

/-- The same state, the same flag, and a row of the same source and plan that answers. -/
def Alike (a b : AccountEvaluation) : Prop :=
  a.state = b.state ∧ a.active = b.active ∧
    a.effective.map Entitlement.grantedVia = b.effective.map Entitlement.grantedVia ∧
    a.effective.map Entitlement.planId = b.effective.map Entitlement.planId

theorem Alike.refl (evaluation : AccountEvaluation) : Alike evaluation evaluation :=
  ⟨rfl, rfl, rfl, rfl⟩

theorem not_alike_of_sources {a b : AccountEvaluation} {x y : Entitlement}
    (isX : a.effective = some x) (isY : b.effective = some y)
    (differs : x.grantedVia ≠ y.grantedVia) : ¬ Alike a b := by
  intro alike
  have same := alike.2.2.1
  rw [isX, isY, Option.map_some, Option.map_some, Option.some.injEq] at same
  exact differs same

section Pair

variable {α : Type} (le : α → α → Bool) (a b : α)

theorem mergeSort_pair : [a, b].mergeSort le = if le a b then [a, b] else [b, a] := by
  simp [List.mergeSort, List.MergeSort.Internal.splitInTwo, List.merge]

/-- The first of two, sorted. -/
theorem head_mergeSort_pair : ([a, b].mergeSort le).head? = some (if le a b then a else b) := by
  rw [mergeSort_pair]
  split
  · rfl
  · rfl

end Pair

section Rows

variable {a b : Entitlement} {now : Instant}

theorem endsNoEarlier_total (a b : Entitlement) :
    endsNoEarlier a b = true ∨ endsNoEarlier b a = true := by
  unfold endsNoEarlier
  cases a.expiresAt <;> cases b.expiresAt <;> simp [Int.le_total]

theorem endsNoEarlier_both :
    (endsNoEarlier a b = true ∧ endsNoEarlier b a = true) ↔ a.expiresAt = b.expiresAt := by
  unfold endsNoEarlier
  cases a.expiresAt with
  | none => cases b.expiresAt <;> simp
  | some x =>
      cases b.expiresAt with
      | none => simp
      | some y =>
          simp only [decide_eq_true_eq, Option.some.injEq]
          exact ⟨fun both => Int.le_antisymm both.2 both.1, fun same => by simp [same]⟩

/-- An operator's row and billing's rank the same only as trials. -/
theorem grantRank_eq_iff (isOperator : a.grantedVia = .operator) (isBilling : b.grantedVia = .billing) :
    grantRank a = grantRank b ↔ a.kind = .trial ∧ b.kind = .trial := by
  unfold grantRank
  rw [isOperator, isBilling]
  by_cases aTrial : a.kind = .trial <;> by_cases bTrial : b.kind = .trial <;> simp [aTrial, bTrial]

theorem answersFirst_total (a b : Entitlement) :
    answersFirst a b = true ∨ answersFirst b a = true := by
  simp only [answersFirst, Bool.or_eq_true, decide_eq_true_eq, Bool.and_eq_true, beq_iff_eq]
  rcases Nat.lt_trichotomy (grantRank a) (grantRank b) with less | same | more
  · exact .inr (.inl less)
  · apply (endsNoEarlier_total a b).imp
    · intro ends
      exact .inr ⟨same, ends⟩
    · intro ends
      exact .inr ⟨same.symm, ends⟩
  · exact .inl (.inl more)

theorem answersFirst_both (isOperator : a.grantedVia = .operator)
    (isBilling : b.grantedVia = .billing) :
    (answersFirst a b = true ∧ answersFirst b a = true) ↔
      a.kind = .trial ∧ b.kind = .trial ∧ a.expiresAt = b.expiresAt := by
  rw [← and_assoc, ← grantRank_eq_iff isOperator isBilling, ← endsNoEarlier_both]
  simp only [answersFirst, Bool.or_eq_true, decide_eq_true_eq, Bool.and_eq_true, beq_iff_eq]
  rcases Nat.lt_trichotomy (grantRank a) (grantRank b) with less | same | more
  · simp [Nat.ne_of_lt less, Nat.lt_asymm less]
  · simp [same]
  · simp [Nat.ne_of_gt more, Nat.ne_of_lt more, Nat.lt_asymm more]

/-- Sorting two rows by a total order picks the same one from both listings, unless the order has them
    equal. -/
theorem picked_eq_iff {α : Type} (le : α → α → Bool) {a b : α}
    (total : le a b = true ∨ le b a = true) (differs : a ≠ b) :
    (if le a b then a else b) = (if le b a then b else a) ↔ ¬ (le a b = true ∧ le b a = true) := by
  cases first : le a b with
  | false =>
      rw [first] at total
      simp [total.resolve_left Bool.false_ne_true]
  | true =>
      cases second : le b a with
      | false => simp
      | true => simp [differs]

variable (isOperator : a.grantedVia = .operator) (isBilling : b.grantedVia = .billing)

include isOperator isBilling

theorem sources_differ : a.grantedVia ≠ b.grantedVia := by
  rw [isOperator, isBilling]
  nofun

/-- The row that answers for one of the two listings answers for the other, or they are of different
    sources. -/
theorem alike_iff_picked {x y : AccessEvaluation} {r s : Entitlement}
    (same : r = s → x = y) (isR : r = a ∨ r = b) (isS : s = a ∨ s = b) :
    Alike ⟨x, some r⟩ ⟨y, some s⟩ ↔ r = s := by
  have differ := sources_differ isOperator isBilling
  constructor
  · intro alike
    by_contra apart
    apply not_alike_of_sources rfl rfl _ alike
    rcases isR with rfl | rfl
    · rcases isS with rfl | rfl
      · exact absurd rfl apart
      · exact differ
    · rcases isS with rfl | rfl
      · exact differ.symm
      · exact absurd rfl apart
  · intro picked
    rw [same picked, picked]
    exact Alike.refl _

theorem alike_of_open (someOpen : isOpen now a = true ∨ isOpen now b = true) :
    Alike (evaluateOpen [a, b] now) (evaluateOpen [b, a] now) ↔
      ¬ (isOpen now a && isOpen now b && a.kind == .trial && b.kind == .trial &&
          a.expiresAt == b.expiresAt) = true := by
  have differ : a ≠ b := fun same => sources_differ isOperator isBilling (by rw [same])
  unfold evaluateOpen
  rw [isOpen, isOpen] at *
  cases aOpen : (evaluateAccess (some a) now).active with
  | false =>
      rw [aOpen] at someOpen
      simp [aOpen, someOpen.resolve_left Bool.false_ne_true, Alike.refl]
  | true =>
      cases bOpen : (evaluateAccess (some b) now).active with
      | false => simp [aOpen, bOpen, Alike.refl]
      | true =>
          simp only [List.filter_cons, aOpen, bOpen, if_true, List.filter_nil, head_mergeSort_pair,
            Bool.true_and, Bool.and_eq_true, beq_iff_eq, and_assoc]
          rw [alike_iff_picked isOperator isBilling (fun _ => rfl) (by grind) (by grind),
            picked_eq_iff _ (answersFirst_total a b) differ, answersFirst_both isOperator isBilling]

theorem alike_of_closed (noneOpen : isOpen now a = false ∧ isOpen now b = false) :
    Alike (evaluateOpen [a, b] now) (evaluateOpen [b, a] now) ↔
      ¬ (a.updatedAt == b.updatedAt) = true := by
  have differ : a ≠ b := fun same => sources_differ isOperator isBilling (by rw [same])
  have none : ∀ rows : List Entitlement, (∀ row ∈ rows, row = a ∨ row = b) →
      rows.filter (fun row => (evaluateAccess (some row) now).active) = [] := by
    intro rows these
    rw [List.filter_eq_nil_iff]
    intro row member isActive
    rcases these row member with rfl | rfl
    · rw [← isOpen, noneOpen.1] at isActive
      cases isActive
    · rw [← isOpen, noneOpen.2] at isActive
      cases isActive
  unfold evaluateOpen
  rw [none [a, b] (by simp), none [b, a] (by simp)]
  simp only [List.mergeSort_nil, List.head?_nil, head_mergeSort_pair]
  rw [alike_iff_picked isOperator isBilling (fun same => by rw [same]) (by grind) (by grind)]
  have ranked : decide (b.updatedAt ≤ a.updatedAt) = true ∨ decide (a.updatedAt ≤ b.updatedAt) = true := by
    simp only [decide_eq_true_eq]
    exact Int.le_total _ _
  rw [picked_eq_iff (fun a b : Entitlement => decide (b.updatedAt ≤ a.updatedAt)) ranked differ]
  simp only [decide_eq_true_eq, beq_iff_eq]
  rw [and_comm, ← Int.le_antisymm_iff]

theorem alike_pair : Alike (evaluateAccount [a, b] now) (evaluateAccount [b, a] now) ↔
    ¬ tiedRows now a b = true := by
  unfold evaluateAccount tiedRows
  cases aHeld : isSuspended a with
  | true =>
      cases bHeld : isSuspended b with
      | true =>
          rw [isSuspended] at aHeld bHeld
          simp only [List.isEmpty_cons, List.find?_cons, aHeld, bHeld]
          simp [Alike, isOperator, isBilling]
      | false =>
          rw [isSuspended] at aHeld bHeld
          simp [aHeld, bHeld, Alike.refl]
  | false =>
      cases bHeld : isSuspended b with
      | true =>
          rw [isSuspended] at aHeld bHeld
          simp [aHeld, bHeld, Alike.refl]
      | false =>
          rw [isSuspended] at aHeld bHeld
          simp only [List.isEmpty_cons, List.find?_cons, aHeld, bHeld, List.find?_nil,
            Bool.false_eq_true, Bool.or_self, if_false]
          split
          · rename_i someOpen
            rw [Bool.or_eq_true] at someOpen
            exact alike_of_open isOperator isBilling someOpen
          · rename_i noneOpen
            rw [Bool.or_eq_true, not_or, Bool.not_eq_true, Bool.not_eq_true] at noneOpen
            exact alike_of_closed isOperator isBilling noneOpen

end Rows

/-- The two listings of an account's rows are evaluated alike exactly when its rows do not tie. -/
theorem alike_iff_not_tied (ledger : Ledger) (userId : String) (now : Instant) :
    Alike (evaluateAccount (ledger.rowsIn AccessBackend.memory.order userId) now)
        (evaluateAccount (ledger.rowsIn AccessBackend.postgres.order userId) now) ↔
      ¬ Tied now (ledger.row userId) := by
  rw [AccessBackend.order, AccessBackend.order, Ledger.rowsIn, Ledger.rowsIn]
  cases operator : ledger.row userId .operator with
  | none => simp [List.filterMap_cons, Tied, operator, Alike.refl]
  | some a =>
      cases billing : ledger.row userId .billing with
      | none => simp [Tied, operator, billing, Alike.refl]
      | some b =>
          simp only [List.filterMap_cons, operator, billing, List.filterMap_nil]
          rw [alike_pair (ledger.placed operator) (ledger.placed billing)]
          simp [Tied, operator, billing]

/-! ### The same plan -/

/-- Two plans of one mutation: refused alike, or the same changes in some order. -/
inductive SamePlan : Except AccessFailure (List RowChange) → Except AccessFailure (List RowChange) →
    Prop where
  | refused (failure : AccessFailure) : SamePlan (.error failure) (.error failure)
  | planned {changes changes' : List RowChange} (perm : changes.Perm changes') :
      SamePlan (.ok changes) (.ok changes')

theorem SamePlan.refl (plan : Except AccessFailure (List RowChange)) : SamePlan plan plan := by
  cases plan with
  | error failure => exact .refused failure
  | ok changes => exact .planned (List.Perm.refl changes)

section Listings

variable {rows rows' : List Entitlement} {input : MutationInput} {now : Instant}
  {context : MutationContext}

theorem SamePlan.operatorOnly {plan plan' : Except AccessFailure (List RowChange)}
    (same : SamePlan plan plan') : SamePlan (operatorOnly input plan) (operatorOnly input plan') := by
  unfold Access.operatorOnly
  split
  · exact same
  · exact .refused _

theorem samePlan_restatus (perm : rows.Perm rows') (action : AccessAction)
    (status : EntitlementStatus) (chosen : Entitlement → Bool) :
    SamePlan (.ok (restatus action status (rows.filter chosen)))
      (.ok (restatus action status (rows'.filter chosen))) :=
  .planned ((perm.filter chosen).map _)

/-- A plan is the same for every listing of the rows. -/
theorem samePlan (perm : rows.Perm rows')
    (sources : ∀ source, bySource rows source = bySource rows' source) :
    SamePlan (planAccountMutation rows input now context)
      (planAccountMutation rows' input now context) := by
  have suspendeds := (perm.filter isSuspended).isEmpty_eq
  have actives := (perm.filter isActive).isEmpty_eq
  unfold planAccountMutation
  split
  · unfold planSync
    rw [sources, suspendeds]
    exact .refl _
  · apply SamePlan.operatorOnly
    unfold planGrantOrTrial
    rw [sources, (perm.filter isSuspended).any_eq, perm.any_eq]
    exact .refl _
  · apply SamePlan.operatorOnly
    unfold planGrantOrTrial
    rw [sources, (perm.filter isSuspended).any_eq, perm.any_eq]
    exact .refl _
  · apply SamePlan.operatorOnly
    unfold planRevoke
    rw [sources, sources]
    exact .refl _
  · apply SamePlan.operatorOnly
    unfold planSuspend
    rw [perm.isEmpty_eq, actives, suspendeds]
    split
    · exact .refl _
    split
    · exact .refl _
    · exact samePlan_restatus perm _ _ _
  · apply SamePlan.operatorOnly
    unfold planRestore
    rw [perm.isEmpty_eq, suspendeds, perm.any_eq]
    split
    · exact .refl _
    split
    · exact .refl _
    · exact samePlan_restatus perm _ _ _

end Listings

/-! ### The same rows -/

/-- The ledgers of the two stores: the same rows, and the same accounts that had a trial. Their events may
    be in another order. -/
structure Same (memory postgres : Ledger) : Prop where
  row : postgres.row = memory.row
  trial : ∀ userId, postgres.hadTrial userId = memory.hadTrial userId

/-- Every row of the ledger fits the columns. -/
def AllFit (ledger : Ledger) : Prop :=
  ∀ userId source entry, ledger.row userId source = some entry → rowAllowed entry = true

section Ledgers

variable {memory postgres memory' postgres' ledger after : Ledger} {input : MutationInput}
  {now : Instant} {changes changes' : List RowChange}

theorem Writes.hadTrial (writes : Writes input now changes ledger after) (userId : String) :
    after.hadTrial userId = (ledger.hadTrial userId ||
      changes.any fun change => input.userId == userId && change.next.kind == .trial) := by
  induction writes with
  | nil ledger => simp
  | cons eventId rest ih =>
      rw [ih]
      simp [Ledger.hadTrial, Ledger.record, recorded, Bool.or_assoc]

theorem Same.writes (same : Same memory postgres) (perm : changes.Perm changes')
    (fits : Fits memory input.userId changes) (fits' : Fits postgres input.userId changes')
    (writes : Writes input now changes memory memory')
    (writes' : Writes input now changes' postgres postgres') : Same memory' postgres' := by
  constructor
  · funext userId source
    by_cases here : userId = input.userId ∧ source ∈ changes.map RowChange.source
    · obtain ⟨change, member, isSource⟩ := List.mem_map.mp here.2
      rw [here.1, ← isSource, writes.row_of_change fits member,
        writes'.row_of_change fits' (perm.mem_iff.mp member)]
    · rw [not_and] at here
      have here' : userId = input.userId → source ∉ changes'.map RowChange.source := by
        intro isUser member
        exact here isUser ((perm.map RowChange.source).mem_iff.mpr member)
      rw [writes.row_of_untouched here, writes'.row_of_untouched here', same.row]
  · intro userId
    rw [writes.hadTrial, writes'.hadTrial, same.trial, perm.any_eq]

theorem AllFit.writes (allFit : AllFit ledger) (writes : Writes input now changes ledger after)
    (fits : Fits ledger input.userId changes)
    (fitting : ∀ change ∈ changes, rowAllowed (written input.userId now change) = true) :
    AllFit after := by
  intro userId source entry found
  by_cases here : userId = input.userId
  · subst here
    rcases writes.row_cases fits found with ⟨change, member, _, rfl⟩ | ⟨_, stored⟩
    · exact fitting change member
    · exact allFit _ _ _ stored
  · rw [writes.row_of_untouched fun isUser => absurd isUser here] at found
    exact allFit _ _ _ found

theorem AllFit.rowsFit (allFit : AllFit ledger) (order : List GrantedVia) (userId : String) :
    RowsFit (ledger.rowsIn order userId) := by
  intro row member
  exact allFit _ _ _ (Ledger.row_of_mem member)

theorem rowsIn_perm (ledger : Ledger) (userId : String) :
    (ledger.rowsIn AccessBackend.memory.order userId).Perm
      (ledger.rowsIn AccessBackend.postgres.order userId) :=
  (List.Perm.swap _ _ _).filterMap _

end Ledgers

/-! ### Both stores, call by call -/

/-- The two stores hold the same rows, all of which fit. -/
def Agree (memory : InMemoryAccessStore) (postgres : PostgresAccessStore) : Prop :=
  ∃ ledger ledger', MemoryHolds memory ledger ∧ PostgresHolds postgres ledger' ∧
    Same ledger ledger' ∧ AllFit ledger

section Step

variable {memory : InMemoryAccessStore} {postgres : PostgresAccessStore} {ledger ledger' : Ledger}

/-- The two stores plan a call alike. -/
theorem samePlan_of_same (holds : MemoryHolds memory ledger) (holds' : PostgresHolds postgres ledger')
    (same : Same ledger ledger') (call : AccessCall) :
    SamePlan
      (planAccountMutation (memory.grantsOf call.input.userId) call.input call.now
        ⟨memory.hadTrial call.input.userId⟩)
      (planAccountMutation (postgres.grantsOf call.input.userId) call.input call.now
        ⟨postgres.hadTrial call.input.userId⟩) := by
  have rows : memory.grantsOf call.input.userId =
      ledger.rowsIn AccessBackend.memory.order call.input.userId := by
    rw [InMemoryAccessStore.grantsOf, holds.1]
    rfl
  have rows' : postgres.grantsOf call.input.userId =
      ledger.rowsIn AccessBackend.postgres.order call.input.userId := by
    rw [PostgresAccessStore.grantsOf, holds'.1, same.row]
    rfl
  have trial : postgres.hadTrial call.input.userId = memory.hadTrial call.input.userId := by
    calc postgres.hadTrial call.input.userId
        = ledger'.hadTrial call.input.userId := by
          rw [PostgresAccessStore.hadTrial, holds'.2, List.any_map]
          rfl
      _ = ledger.hadTrial call.input.userId := same.trial _
      _ = memory.hadTrial call.input.userId := by
          rw [InMemoryAccessStore.hadTrial, holds.2]
          rfl
  rw [rows, rows', trial]
  apply samePlan (rowsIn_perm ledger _)
  intro source
  rw [Ledger.bySource_rowsIn AccessBackend.memory.bothSources,
    Ledger.bySource_rowsIn AccessBackend.postgres.bothSources]

theorem agree_step (agree : Agree memory postgres) {call : AccessCall}
    (isStorable : storable call = true) :
    Agree (memory.mutate call).2 (postgres.mutate call).2 := by
  obtain ⟨ledger, ledger', holds, holds', same, allFit⟩ := agree
  have stays : Agree memory postgres := ⟨ledger, ledger', holds, holds', same, allFit⟩
  have parts := isStorable
  simp only [storable, Bool.and_eq_true] at parts
  obtain ⟨⟨⟨⟨⟨⟨isAccount, labels⟩, _⟩, clock⟩, _⟩, _⟩, _⟩ := parts
  have plans := samePlan_of_same holds holds' same call
  unfold InMemoryAccessStore.mutate PostgresAccessStore.mutate
  rw [isAccount]
  simp only [Bool.not_true, Bool.false_eq_true, if_false]
  split
  · exact stays
  cases planned : planAccountMutation (memory.grantsOf call.input.userId) call.input call.now
      ⟨memory.hadTrial call.input.userId⟩ with
  | error failure =>
      rw [planned] at plans
      cases planned' : planAccountMutation (postgres.grantsOf call.input.userId) call.input call.now
          ⟨postgres.hadTrial call.input.userId⟩ with
      | error failure => exact stays
      | ok changes =>
          rw [planned'] at plans
          cases plans
  | ok changes =>
      rw [planned] at plans
      cases planned' : planAccountMutation (postgres.grantsOf call.input.userId) call.input call.now
          ⟨postgres.hadTrial call.input.userId⟩ with
      | error failure =>
          rw [planned'] at plans
          cases plans
      | ok changes' =>
          rw [planned'] at plans
          cases plans with
          | planned perm =>
              -- The plan's rows fit, so the database writes all of it.
              have rows : memory.grantsOf call.input.userId =
                  ledger.rowsIn AccessBackend.memory.order call.input.userId := by
                rw [InMemoryAccessStore.grantsOf, holds.1]
                rfl
              have rows' : postgres.grantsOf call.input.userId =
                  ledger'.rowsIn AccessBackend.postgres.order call.input.userId := by
                rw [PostgresAccessStore.grantsOf, holds'.1]
                rfl
              rw [rows] at planned
              rw [rows'] at planned'
              have fitting := fitting_of_plan isStorable (allFit.rowsFit _ _) planned
              have fits := fits_of_planned AccessBackend.memory.bothSources (planned_of_ok planned)
              have fits' :=
                fits_of_planned AccessBackend.postgres.bothSources (planned_of_ok planned')
              cases ran : InMemoryAccessStore.writeChanges call.input call.now memory changes with
              | mk events next =>
                  obtain ⟨events', next', ran'⟩ := writeChanges_ok labels clock
                    (fun change member => fitting change (perm.mem_iff.mpr member)) postgres
                  obtain ⟨after, wrote, holdsAfter⟩ := holds.writeChanges ran
                  obtain ⟨after', _, wrote', _, holdsAfter'⟩ := holds'.writeChanges fits' ran'
                  simp only [ran, ran']
                  refine ⟨after, after', holdsAfter, holdsAfter', ?_, ?_⟩
                  · exact same.writes perm fits fits' wrote.writes wrote'.writes
                  · apply allFit.writes wrote.writes fits
                    intro change member
                    exact rowAllowed_written (fitting change member) clock

end Step

theorem agree_of_calls (calls : List AccessCall) (storables : ∀ call ∈ calls, storable call = true) :
    Agree (memoryAccess.after InMemoryAccessStore.empty calls)
      (postgresAccess.after PostgresAccessStore.migrated calls) := by
  have start : Agree InMemoryAccessStore.empty PostgresAccessStore.migrated := by
    refine ⟨Ledger.empty, Ledger.empty, ⟨rfl, rfl⟩, ⟨rfl, rfl⟩, ⟨rfl, fun _ => rfl⟩, ?_⟩
    intro userId source entry impossible
    cases impossible
  generalize InMemoryAccessStore.empty = memory, PostgresAccessStore.migrated = postgres at start
  induction calls generalizing memory postgres with
  | nil => exact start
  | cons call calls ih =>
      apply ih fun other member => storables other (List.mem_cons_of_mem _ member)
      exact agree_step start (storables call List.mem_cons_self)

/-- After any calls that fit the database's columns, both stores hold the same rows, and they decide an
    account alike at an instant exactly when its rows do not tie there. -/
theorem stores_decide_alike (calls : List AccessCall)
    (storables : ∀ call ∈ calls, storable call = true) (userId : String) (now : Instant) :
    let memory := memoryAccess.after InMemoryAccessStore.empty calls
    let postgres := postgresAccess.after PostgresAccessStore.migrated calls
    postgres.row = memory.row ∧
      (Alike (evaluateAccount (memory.grantsOf userId) now)
          (evaluateAccount (postgres.grantsOf userId) now) ↔
        ¬ Tied now (memory.row userId)) := by
  intro memory postgres
  obtain ⟨ledger, ledger', holds, holds', same, _⟩ := agree_of_calls calls storables
  have rows : postgres.row = memory.row := by
    rw [holds'.1, holds.1, same.row]
  refine ⟨rows, ?_⟩
  have listed := alike_iff_not_tied ledger userId now
  rw [Ledger.rowsIn, Ledger.rowsIn, ← holds.1] at listed
  rw [PostgresAccessStore.grantsOf, rows]
  exact listed

/-- Paid for, and granted from an instant to come; then suspended and restored. -/
def restoredAccount : List AccessCall :=
  [ accessCall 0 .sync none none (some ⟨true, 0, 100, .subscription, none⟩),
    accessCall 1 .grant (some { startsAt := some 1000, expiresAt := none }),
    accessCall 2 .suspend,
    accessCall 3 .restore ]

theorem stores_decide_alike_restoredAccount :
    restoredAccount.all storable = true ∧
      Alike
        (evaluateAccount
          ((memoryAccess.after InMemoryAccessStore.empty restoredAccount).grantsOf someStudent) 50)
        (evaluateAccount
          ((postgresAccess.after PostgresAccessStore.migrated restoredAccount).grantsOf someStudent)
          50) := by
  have storables : restoredAccount.all storable = true := by
    decide
  refine ⟨storables, ?_⟩
  apply (stores_decide_alike restoredAccount (List.all_eq_true.mp storables) someStudent 50).2.mpr
  intro tied
  obtain ⟨a, b, isA, isB, tie⟩ := tied
  have noTie : ((memoryAccess.after InMemoryAccessStore.empty restoredAccount).row someStudent
      .operator).all (fun a => ((memoryAccess.after InMemoryAccessStore.empty restoredAccount).row
        someStudent .billing).all fun b => !tiedRows 50 a b) = true := by
    decide
  rw [isA, isB, Option.all_some, Option.all_some, tie] at noTie
  cases noTie

/-- The row of that grant, and of that payment, as both were last changed by the restoration. -/
def restoredGrant : Entitlement :=
  ⟨someStudent, .active, 1000, none, .operator, .standard, none, 1, 3⟩

def restoredPayment : Entitlement :=
  ⟨someStudent, .active, 0, some 100, .billing, .subscription, none, 0, 3⟩

/-- When the paid time is over, and before the granted time begins, the in-memory store calls that account
    scheduled and PostgreSQL calls it expired. -/
theorem tie_decided_apart :
    ¬ ∀ (calls : List AccessCall) (userId : String) (now : Instant),
      Alike
        (evaluateAccount
          ((memoryAccess.after InMemoryAccessStore.empty calls).grantsOf userId) now)
        (evaluateAccount
          ((postgresAccess.after PostgresAccessStore.migrated calls).grantsOf userId) now) := by
  intro always
  have memory : (memoryAccess.after InMemoryAccessStore.empty restoredAccount).grantsOf someStudent =
      [restoredGrant, restoredPayment] := by
    decide
  have postgres : (postgresAccess.after PostgresAccessStore.migrated restoredAccount).grantsOf
      someStudent = [restoredPayment, restoredGrant] := by
    decide
  have same := (always restoredAccount someStudent 150).1
  rw [memory, postgres] at same
  simp [evaluateAccount, evaluateOpen, evaluateAccess, head_mergeSort_pair, restoredGrant,
    restoredPayment] at same

end JumptotechLabs.Access
