/-
Module: JumptotechLabs.Access.Retries
Layer: Access (apps/api/src/access/entitlements.ts, postgres-store.ts)
Purpose: A change that is asked for again. A grant, a suspension, a restoration, a revocation and an active
  synchronisation are then in effect: nothing is written. An inactive synchronisation closes the window at
  the clock's instant, so the same one, later, moves the end it wrote before, unless the period was over.
Main exports: Applied, Harmless, again_grant, again_revoke, again_suspend, again_restore, again_sync,
  again_iff, retried_change_harmless, retried_cancellation_writes_again
-/
import JumptotechLabs.Access.Refinement
import JumptotechLabs.Access.Windows

namespace JumptotechLabs.Access

open JumptotechLabs.Core

/-! ### A mutation, applied -/

/-- The rows a plan was made from, and the rows after it was written, as the ledger keeps them. -/
structure Applied (ledger after : Ledger) (order : List GrantedVia) (input : MutationInput)
    (now : Instant) (context : MutationContext) (changes : List RowChange) : Prop where
  both : BothSources order
  planned : planAccountMutation (ledger.rowsIn order input.userId) input now context = .ok changes
  writes : Writes input now changes ledger after

section Rows

variable {ledger after : Ledger} {order : List GrantedVia} {input : MutationInput}
  {now now' : Instant} {context context' : MutationContext} {changes : List RowChange}

theorem Applied.fits (applied : Applied ledger after order input now context changes) :
    Fits ledger input.userId changes :=
  fits_of_planned applied.both (planned_of_ok applied.planned)

/-- The row of a source that no change names is the one from before. -/
theorem Applied.kept (applied : Applied ledger after order input now context changes)
    {source : GrantedVia} (untouched : source ∉ changes.map RowChange.source) :
    after.row input.userId source = ledger.row input.userId source :=
  applied.writes.row_of_untouched fun _ => untouched

/-- The row of a source that a change names is what the change says. -/
theorem Applied.changed (applied : Applied ledger after order input now context changes)
    {change : RowChange} (member : change ∈ changes) :
    after.row input.userId change.source = some (written input.userId now change) :=
  applied.writes.row_of_change applied.fits member

/-- Every row after the writes is one of before that no change names, or what a change wrote. -/
theorem Applied.row_cases (applied : Applied ledger after order input now context changes)
    {row : Entitlement} (member : row ∈ after.rowsIn order input.userId) :
    (∃ change ∈ changes, row = written input.userId now change) ∨
      (row.grantedVia ∉ changes.map RowChange.source ∧ row ∈ ledger.rowsIn order input.userId) := by
  rcases applied.writes.row_cases applied.fits (Ledger.row_of_mem member) with
    ⟨change, inChanges, _, isRow⟩ | ⟨untouched, found⟩
  · exact .inl ⟨change, inChanges, isRow⟩
  · exact .inr ⟨untouched, Ledger.mem_rowsIn applied.both found⟩

theorem Applied.written_mem (applied : Applied ledger after order input now context changes)
    {change : RowChange} (member : change ∈ changes) :
    written input.userId now change ∈ after.rowsIn order input.userId :=
  Ledger.mem_rowsIn applied.both (applied.changed member)

/-! ### Suspend and restore -/

/-- Rows that were all given a status have it: none is left to change. -/
theorem Applied.none_chosen {action : AccessAction} {status : EntitlementStatus}
    {chosen : Entitlement → Bool}
    (applied : Applied ledger after order input now context
      (restatus action status ((ledger.rowsIn order input.userId).filter chosen)))
    (changes : ∀ row : Entitlement, row.status = status → chosen row = false) :
    (after.rowsIn order input.userId).filter chosen = [] := by
  apply List.filter_eq_nil_iff.mpr
  intro row member isChosen
  rcases applied.row_cases member with ⟨change, inChanges, rfl⟩ | ⟨untouched, inRows⟩
  · obtain ⟨before, _, rfl⟩ := List.mem_map.mp inChanges
    rw [changes _ rfl] at isChosen
    cases isChosen
  · apply untouched
    rw [restatus, List.map_map]
    exact List.mem_map.mpr ⟨row, List.mem_filter.mpr ⟨inRows, isChosen⟩, rfl⟩

/-- And if there was one to change, some row has the status. -/
theorem Applied.some_changed {action : AccessAction} {status : EntitlementStatus}
    {chosen : Entitlement → Bool}
    (applied : Applied ledger after order input now context
      (restatus action status ((ledger.rowsIn order input.userId).filter chosen)))
    (someChosen : ¬ ((ledger.rowsIn order input.userId).filter chosen).isEmpty = true) :
    ∃ row ∈ after.rowsIn order input.userId, row.status = status := by
  rw [List.isEmpty_iff] at someChosen
  obtain ⟨row, isChosen⟩ := List.exists_mem_of_ne_nil _ someChosen
  exact ⟨_, applied.written_mem (List.mem_map_of_mem isChosen), rfl⟩

theorem again_suspend (applied : Applied ledger after order input now context changes)
    (plan : planSuspend (ledger.rowsIn order input.userId) = .ok changes) :
    planSuspend (after.rowsIn order input.userId) = .ok [] := by
  have plan' := plan
  unfold planSuspend at plan'
  split at plan'
  · cases plan'
  split at plan'
  · split at plan'
    · cases plan'
    · cases plan'
      cases applied.writes
      exact plan
  · rename_i someActive
    cases plan'
    have noneActive := applied.none_chosen fun row isSuspended => by simp [isActive, isSuspended]
    obtain ⟨row, member, isHeld⟩ := applied.some_changed someActive
    have held : row ∈ (after.rowsIn order input.userId).filter isSuspended :=
      List.mem_filter.mpr ⟨member, by simp [isSuspended, isHeld]⟩
    simp [planSuspend, noneActive, List.ne_nil_of_mem member, List.ne_nil_of_mem held]

theorem again_restore (applied : Applied ledger after order input now context changes)
    (plan : planRestore (ledger.rowsIn order input.userId) = .ok changes) :
    planRestore (after.rowsIn order input.userId) = .ok [] := by
  have plan' := plan
  unfold planRestore at plan'
  split at plan'
  · cases plan'
  split at plan'
  · split at plan'
    · cases plan'
      cases applied.writes
      exact plan
    · cases plan'
  · rename_i someHeld
    cases plan'
    have noneHeld := applied.none_chosen fun row isActive => by simp [isSuspended, isActive]
    obtain ⟨row, member, isLive⟩ := applied.some_changed someHeld
    have someActive : (after.rowsIn order input.userId).any isActive = true :=
      List.any_eq_true.mpr ⟨row, member, by simp [isActive, isLive]⟩
    simp [planRestore, noneHeld, List.ne_nil_of_mem member, someActive]

/-! ### Revoke -/

theorem again_revoke (applied : Applied ledger after order input now context changes)
    (plan : planRevoke (ledger.rowsIn order input.userId) now = .ok changes) :
    planRevoke (after.rowsIn order input.userId) now' = .ok [] := by
  have revoked : ∃ row, after.row input.userId .operator = some row ∧ row.status = .revoked := by
    unfold planRevoke at plan
    simp only [Ledger.bySource_rowsIn applied.both, planMutation] at plan
    split at plan
    · cases plan
    split at plan
    · cases plan
    rename_i isPlan
    split at isPlan
    · cases isPlan
    rename_i row isRow
    split at isPlan
    · rename_i isRevoked
      cases isPlan
      cases plan
      cases applied.writes
      exact ⟨row, isRow, isRevoked⟩
    · cases isPlan
      cases plan
      exact ⟨_, applied.changed List.mem_cons_self, rfl⟩
  obtain ⟨row, isRow, isRevoked⟩ := revoked
  simp [planRevoke, Ledger.bySource_rowsIn applied.both, planMutation, isRow, isRevoked, operatorChange]

/-! ### Grant -/

/-- What a grant that is accepted leaves, or finds, in the operator's row. -/
structure Granted (current : Option Entitlement) (now : Instant) (grant : GrantRequest)
    (plan : MutationPlan) : Prop where
  named : grant.kind = none → (grantedSnapshot current now grant).kind ≠ .trial
  window : (grant.expiresAt.any fun expiresAt =>
    decide (expiresAt ≤ (grantedSnapshot current now grant).startsAt)) = false
  plan : plan = .write .grant (grantedSnapshot current now grant) ∨
    plan = .unchanged .grant ∧ ∃ row, current = some row ∧
      snapshot row = grantedSnapshot current now grant

theorem granted_of_planGrant {current : Option Entitlement} {grant : GrantRequest}
    {plan : MutationPlan} (planned : planGrant current now (some grant) = .ok plan) :
    Granted current now grant plan := by
  unfold planGrant at planned
  simp only at planned
  split at planned
  · cases planned
  split at planned
  · cases planned
  rename_i isNamed
  split at planned
  · cases planned
  rename_i isUnnamed
  split at planned
  · cases planned
  rename_i inOrder
  split at planned
  · cases planned
  have named : grant.kind = none → (grantedSnapshot current now grant).kind ≠ .trial := by
    intro unnamed isTrial
    apply isUnnamed
    rw [unnamed, kind_grantedSnapshot isNamed isTrial]
    rfl
  split at planned
  · rename_i inEffect
    cases planned
    obtain ⟨row, isRow, same⟩ := (Option.any_eq_true _ _).mp inEffect
    rw [Bool.and_eq_true] at same
    exact ⟨named, eq_false_of_ne_true inOrder, .inr ⟨rfl, row, isRow, eq_of_sameSnapshot same.2⟩⟩
  · cases planned
    exact ⟨named, eq_false_of_ne_true inOrder, .inl rfl⟩

/-- A row that a grant wrote is the row the same grant asks for, whenever. -/
theorem grantedSnapshot_again {current : Option Entitlement} {grant : GrantRequest} {row : Entitlement}
    (isGranted : snapshot row = grantedSnapshot current now grant) :
    grantedSnapshot (some row) now' grant = grantedSnapshot current now grant := by
  have status : row.status = .active := congrArg EntitlementSnapshot.status isGranted
  have startsAt : row.startsAt = (grantedSnapshot current now grant).startsAt :=
    congrArg EntitlementSnapshot.startsAt isGranted
  have kind : row.kind = (grantedSnapshot current now grant).kind :=
    congrArg EntitlementSnapshot.kind isGranted
  have planId : row.planId = (grantedSnapshot current now grant).planId :=
    congrArg EntitlementSnapshot.planId isGranted
  simp only [grantedSnapshot, status, startsAt, kind, planId, Option.bind_some]
  cases grant.startsAt <;> cases grant.kind <;> cases grant.planId <;> simp

theorem planGrant_again {current : Option Entitlement} {grant : GrantRequest} {plan : MutationPlan}
    {row : Entitlement} (granted : Granted current now grant plan)
    (isGranted : snapshot row = grantedSnapshot current now grant)
    (future : ∀ expiresAt, grant.expiresAt = some expiresAt → now' < expiresAt) :
    planGrant (some row) now' (some grant) = .ok (.unchanged .grant) := by
  have status : row.status = .active := congrArg EntitlementSnapshot.status isGranted
  have kind : row.kind = (grantedSnapshot current now grant).kind :=
    congrArg EntitlementSnapshot.kind isGranted
  have isNamed : (grant.kind == some .trial && !isLiveTrial row) = false := by
    cases given : grant.kind with
    | none => rfl
    | some asked =>
        have isAsked : row.kind = asked := by
          rw [kind]
          simp [grantedSnapshot, given]
        cases asked <;> simp [isLiveTrial, isAsked, status]
  have isUnnamed : (grant.kind == none && isLiveTrial row) = false := by
    cases given : grant.kind with
    | none =>
        have notTrial : row.kind ≠ .trial := by
          rw [kind]
          exact granted.named given
        simp [isLiveTrial, notTrial]
    | some asked => simp
  have open_ : (grant.expiresAt.any fun expiresAt => decide (expiresAt ≤ now')) = false := by
    cases ends : grant.expiresAt with
    | none => rfl
    | some expiresAt =>
        have later := future expiresAt ends
        simpa using later
  have same : sameSnapshot (snapshot row) (grantedSnapshot current now grant) = true := by
    rw [isGranted]
    simp [sameSnapshot]
  simp only [planGrant, Option.any_some, isNamed, isUnnamed, grantedSnapshot_again isGranted,
    granted.window, open_, status, same, Bool.false_eq_true, if_false, beq_self_eq_true, Bool.and_self,
    if_true]
  rfl

/-- The same grant again: the operator's row is already so. -/
theorem again_grant (applied : Applied ledger after order input now context changes)
    (isGrant : input.action = .grant)
    (plan : planGrantOrTrial (ledger.rowsIn order input.userId) input now context = .ok changes)
    (future : ∀ grant, input.grant = some grant → ∀ expiresAt, grant.expiresAt = some expiresAt →
      now' < expiresAt) :
    planGrantOrTrial (after.rowsIn order input.userId) input now' context' = .ok [] := by
  unfold planGrantOrTrial at plan
  split at plan
  · cases plan
  rename_i clear
  split at plan
  · cases plan
  simp only [isGrant, planMutation, Ledger.bySource_rowsIn applied.both] at plan
  cases asked : input.grant with
  | none =>
      rw [asked] at plan
      cases plan
  | some grant =>
      rw [asked] at plan
      split at plan
      · cases plan
      rename_i rowPlan isPlan
      have granted := granted_of_planGrant isPlan
      have isSources : ∀ change ∈ changes, change.source = .operator := by
        cases plan
        intro change member
        cases rowPlan with
        | unchanged => cases member
        | write action next =>
            rw [List.mem_singleton.mp member]
      have written : ∃ row, after.row input.userId .operator = some row ∧
          snapshot row = grantedSnapshot (ledger.row input.userId .operator) now grant := by
        cases plan
        rcases granted.plan with rfl | ⟨rfl, row, isRow, isGranted⟩
        · exact ⟨_, applied.changed List.mem_cons_self, rfl⟩
        · cases applied.writes
          exact ⟨row, isRow, isGranted⟩
      have stillClear : ¬ (((after.rowsIn order input.userId).filter isSuspended).any fun row =>
          row.grantedVia != .operator) = true := by
        intro held
        apply clear
        obtain ⟨row, member, elsewhere⟩ := List.any_eq_true.mp held
        obtain ⟨inRows, isHeld⟩ := List.mem_filter.mp member
        rcases applied.row_cases inRows with ⟨change, inChanges, rfl⟩ | ⟨_, before⟩
        · exact absurd (isSources change inChanges) (bne_iff_ne.mp elsewhere)
        · exact List.any_eq_true.mpr ⟨row, List.mem_filter.mpr ⟨before, isHeld⟩, elsewhere⟩
      obtain ⟨row, isRow, isGranted⟩ := written
      unfold planGrantOrTrial
      rw [if_neg stillClear]
      simp [isGrant, planMutation, Ledger.bySource_rowsIn applied.both, asked, isRow,
        planGrant_again granted isGranted (future grant asked), operatorChange]

/-! ### Sync -/

/-- A SYNC as it was accepted. -/
theorem planSync_asked {rows : List Entitlement} (plan : planSync rows input now = .ok changes) :
    ∃ sync, input.sync = some sync ∧ input.source = some .billing ∧ sync.startsAt < sync.expiresAt := by
  unfold planSync at plan
  split at plan
  · rename_i isBilling isSync
    split at plan
    · cases plan
    · rename_i inOrder
      exact ⟨_, isSync, isBilling, Int.not_le.mp inOrder⟩
  · cases plan

/-- Billing's row after a synchronisation. -/
theorem Applied.synced {next : EntitlementSnapshot}
    (applied : Applied ledger after order input now context
      (syncTo (ledger.row input.userId .billing) next)) :
    ∃ row, after.row input.userId .billing = some row ∧ snapshot row = next := by
  have writes := applied.writes
  have changed := @applied.changed
  unfold syncTo at writes changed
  split at writes
  · rename_i same
    obtain ⟨row, isRow, isNext⟩ := (Option.any_eq_true _ _).mp same
    cases writes
    exact ⟨row, isRow, eq_of_sameSnapshot isNext⟩
  · rename_i differs
    rw [if_neg differs] at changed
    exact ⟨_, changed List.mem_cons_self, rfl⟩

theorem syncTo_again {row : Entitlement} {next : EntitlementSnapshot} :
    syncTo (some row) next = [] ↔ snapshot row = next := by
  unfold syncTo
  split
  · rename_i same
    exact ⟨fun _ => eq_of_sameSnapshot same, fun _ => rfl⟩
  · rename_i differs
    constructor
    · intro impossible
      cases impossible
    · intro same
      apply absurd _ differs
      simp [same, sameSnapshot]

/-- Writing billing's row for an account leaves the account suspended, or not, as it was. -/
theorem syncedSnapshot_again {sync : SyncRequest}
    (applied : Applied ledger after order input now context
      (syncTo (ledger.row input.userId .billing)
        (syncedSnapshot (ledger.rowsIn order input.userId) sync))) :
    syncedSnapshot (after.rowsIn order input.userId) sync =
      syncedSnapshot (ledger.rowsIn order input.userId) sync := by
  obtain ⟨row, isRow, isNext⟩ := applied.synced
  have inRows := Ledger.mem_rowsIn applied.both isRow
  have status : row.status = (syncedSnapshot (ledger.rowsIn order input.userId) sync).status :=
    congrArg EntitlementSnapshot.status isNext
  have same : ((after.rowsIn order input.userId).filter isSuspended).isEmpty =
      ((ledger.rowsIn order input.userId).filter isSuspended).isEmpty := by
    cases isClear : ((ledger.rowsIn order input.userId).filter isSuspended).isEmpty with
    | false =>
        have held : row ∈ (after.rowsIn order input.userId).filter isSuspended := by
          apply List.mem_filter.mpr
          refine ⟨inRows, ?_⟩
          simp [isSuspended, status, syncedSnapshot, isClear]
        simpa using List.ne_nil_of_mem held
    | true =>
        have active : row.status = .active := by
          rw [status, syncedSnapshot]
          simp only [isClear, if_true]
        rw [List.isEmpty_iff, List.filter_eq_nil_iff] at isClear ⊢
        intro other member isHeld
        have found := Ledger.row_of_mem member
        by_cases isBilling : other.grantedVia = .billing
        · rw [isBilling, isRow] at found
          cases found
          simp [isSuspended, active] at isHeld
        · have untouched : other.grantedVia ∉
              (syncTo (ledger.row input.userId .billing)
                (syncedSnapshot (ledger.rowsIn order input.userId) sync)).map RowChange.source := by
            intro touched
            unfold syncTo at touched
            split at touched
            · cases touched
            · exact isBilling (List.mem_singleton.mp touched)
          rw [applied.kept untouched] at found
          exact isClear other (Ledger.mem_rowsIn applied.both found) isHeld
  simp only [syncedSnapshot, same]

/-- A closed row, as the arithmetic has it. -/
theorem closedSnapshot_ok {current : Entitlement} {sync : SyncRequest} {next : EntitlementSnapshot}
    (closed : closedSnapshot current sync now = .ok next) :
    next.startsAt = min (min current.startsAt sync.startsAt) (now - 1) ∧
      next.expiresAt = some (max (next.startsAt + 1) (min sync.expiresAt now)) ∧
      next.status = current.status ∧ next.kind = sync.kind.toGrantKind ∧ next.planId = sync.planId ∧
      toISOString next.startsAt = .ok next.startsAt ∧
      toISOString (max (next.startsAt + 1) (min sync.expiresAt now)) =
        .ok (max (next.startsAt + 1) (min sync.expiresAt now)) := by
  unfold closedSnapshot at closed
  simp only at closed
  split at closed
  · rename_i startsAt expiresAt isStart isEnd
    have start := isStart
    have ends := isEnd
    unfold toISOString at start ends
    split_ifs at start ends
    cases start
    cases ends
    cases closed
    exact ⟨rfl, rfl, rfl, rfl, rfl, isStart, isEnd⟩
  · cases closed
  · cases closed

/-- The same closing again, later: the end moves, unless the period was over or no time has passed. -/
theorem closedSnapshot_again {current row : Entitlement} {sync : SyncRequest}
    {next : EntitlementSnapshot} (closed : closedSnapshot current sync now = .ok next)
    (isNext : snapshot row = next) (later : now ≤ now') :
    closedSnapshot row sync now' = .ok next ↔ now' = now ∨ sync.expiresAt ≤ now := by
  obtain ⟨starts, ends, status, kind, planId, startFits, endFits⟩ := closedSnapshot_ok closed
  have rowStatus : row.status = next.status := congrArg EntitlementSnapshot.status isNext
  have rowStart : row.startsAt = next.startsAt := congrArg EntitlementSnapshot.startsAt isNext
  have sameStart : ∀ earlier start clock clock' first : Int,
      first = min (min earlier start) (clock - 1) → clock ≤ clock' →
        min (min first start) (clock' - 1) = first := by
    intro earlier start clock clock' first isFirst isLater
    omega
  have startAgain := sameStart current.startsAt sync.startsAt now now' next.startsAt starts later
  have moves : ∀ earlier start end_ clock clock' first : Int,
      first = min (min earlier start) (clock - 1) → clock ≤ clock' →
        (max (first + 1) (min end_ clock') = max (first + 1) (min end_ clock) ↔
          clock' = clock ∨ end_ ≤ clock) := by
    intro earlier start end_ clock clock' first isFirst isLater
    omega
  have endAgain := moves current.startsAt sync.startsAt sync.expiresAt now now' next.startsAt starts later
  rw [← endAgain]
  constructor
  · intro again
    obtain ⟨_, endsAgain, _⟩ := closedSnapshot_ok again
    rw [ends] at endsAgain
    exact (Option.some.inj endsAgain).symm
  · intro sameEnd
    simp only [closedSnapshot, rowStart, startAgain, sameEnd, startFits, endFits, rowStatus]
    rw [← ends, ← kind, ← planId]

/-- Does nothing speak against asking for a change again? An inactive synchronisation of billing's row must
    be of a period that was over, or be repeated in the same instant. -/
def Harmless (billing : Option Entitlement) (input : MutationInput) (now now' : Instant) : Prop :=
  ∀ sync, input.action = .sync → input.sync = some sync → sync.active = false → billing ≠ none →
    now' = now ∨ sync.expiresAt ≤ now

theorem again_sync (applied : Applied ledger after order input now context changes)
    (isSync : input.action = .sync)
    (plan : planSync (ledger.rowsIn order input.userId) input now = .ok changes) (later : now ≤ now') :
    planSync (after.rowsIn order input.userId) input now' = .ok [] ↔
      Harmless (ledger.row input.userId .billing) input now now' := by
  obtain ⟨sync, asked, isBilling, inOrder⟩ := planSync_asked plan
  have billing : bySource (ledger.rowsIn order input.userId) .billing = ledger.row input.userId .billing :=
    Ledger.bySource_rowsIn applied.both .billing
  cases isActive : sync.active with
  | true =>
      have isChanges := planSync_active asked isActive plan
      rw [billing] at isChanges
      subst isChanges
      obtain ⟨row, isRow, isNext⟩ := applied.synced
      have again : planSync (after.rowsIn order input.userId) input now' = .ok [] := by
        have unchanged : syncTo (some row) (syncedSnapshot (after.rowsIn order input.userId) sync) = [] := by
          rw [syncTo_again, isNext, syncedSnapshot_again applied]
        simp only [planSync, isBilling, asked, if_neg (Int.not_le.mpr inOrder), isActive, if_true,
          Ledger.bySource_rowsIn applied.both, isRow]
        exact congrArg Except.ok unchanged
      rw [again]
      simp only [true_iff]
      intro other _ isOther inactive
      rw [asked] at isOther
      cases isOther
      rw [isActive] at inactive
      cases inactive
  | false =>
      rw [planSync_closing isBilling asked inOrder isActive, Ledger.bySource_rowsIn applied.both] at plan ⊢
      cases current : ledger.row input.userId .billing with
      | none =>
          rw [current] at plan
          cases plan
          cases applied.writes
          rw [current]
          simp [Harmless, closing]
      | some row =>
          rw [current, closing, Option.elim_some] at plan
          cases closed : closedSnapshot row sync now with
          | error failure =>
              rw [closed] at plan
              cases plan
          | ok next =>
              rw [closed] at plan
              cases plan
              rw [← current] at applied
              obtain ⟨row', isRow', isNext⟩ := applied.synced
              have harmless : Harmless (some row) input now now' ↔
                  now' = now ∨ sync.expiresAt ≤ now := by
                simp [Harmless, isSync, asked, isActive]
              rw [isRow', closing, Option.elim_some, harmless, ← closedSnapshot_again closed isNext later]
              constructor
              · intro again
                cases closedAgain : closedSnapshot row' sync now' with
                | error failure =>
                    rw [closedAgain] at again
                    cases again
                | ok next' =>
                    rw [closedAgain] at again
                    have same := syncTo_again.mp (Except.ok.inj again)
                    rw [← same, isNext]
              · intro closedAgain
                rw [closedAgain]
                exact congrArg Except.ok (syncTo_again.mpr isNext)

/-- Whose mutations get past the check. -/
theorem operator_of_ok {plan : Except AccessFailure (List RowChange)}
    (planned : operatorOnly input plan = .ok changes) : input.source.getD .operator = .operator := by
  unfold operatorOnly at planned
  split at planned
  · assumption
  · cases planned

/-- Asked for again, a change that is not an inactive synchronisation does nothing. -/
theorem again_other (applied : Applied ledger after order input now context changes)
    (notTrial : input.action ≠ .trial) (notSync : input.action ≠ .sync)
    (future : ∀ grant, input.action = .grant → input.grant = some grant →
      ∀ expiresAt, grant.expiresAt = some expiresAt → now' < expiresAt) :
    planAccountMutation (after.rowsIn order input.userId) input now' context' = .ok [] := by
  have planned := applied.planned
  unfold planAccountMutation at planned ⊢
  cases action : input.action with
  | sync => exact absurd action notSync
  | trial => exact absurd action notTrial
  | grant =>
      simp only [action] at planned ⊢
      rw [operatorOnly, if_pos (operator_of_ok planned)]
      exact again_grant applied action (ok_of_operatorOnly planned) fun grant => future grant action
  | revoke =>
      simp only [action] at planned ⊢
      rw [operatorOnly, if_pos (operator_of_ok planned)]
      exact again_revoke applied (ok_of_operatorOnly planned)
  | suspend =>
      simp only [action] at planned ⊢
      rw [operatorOnly, if_pos (operator_of_ok planned)]
      exact again_suspend applied (ok_of_operatorOnly planned)
  | restore =>
      simp only [action] at planned ⊢
      rw [operatorOnly, if_pos (operator_of_ok planned)]
      exact again_restore applied (ok_of_operatorOnly planned)

theorem again_iff (applied : Applied ledger after order input now context changes)
    (notTrial : input.action ≠ .trial) (later : now ≤ now')
    (future : ∀ grant, input.action = .grant → input.grant = some grant →
      ∀ expiresAt, grant.expiresAt = some expiresAt → now' < expiresAt) :
    planAccountMutation (after.rowsIn order input.userId) input now' context' = .ok [] ↔
      Harmless (ledger.row input.userId .billing) input now now' := by
  by_cases isSync : input.action = .sync
  · have planned := applied.planned
    simp only [planAccountMutation, isSync] at planned ⊢
    exact again_sync applied isSync planned later
  · simp only [again_other applied notTrial isSync future, true_iff]
    intro sync otherwise
    exact absurd otherwise isSync

end Rows

/-! ### In the stores -/

/-- A mutation that the in-memory store accepted was planned and written. -/
theorem MemoryHolds.accepted {store : InMemoryAccessStore} {ledger : Ledger} {call : AccessCall}
    {result : MutationResult} (holds : MemoryHolds store ledger)
    (accepted : (store.mutate call).1 = .ok result) :
    ∃ after changes, MemoryHolds (store.mutate call).2 after ∧
      Applied ledger after AccessBackend.memory.order call.input call.now
        ⟨store.hadTrial call.input.userId⟩ changes := by
  unfold InMemoryAccessStore.mutate at accepted ⊢
  split at accepted
  · cases accepted
  rename_i known
  simp only at accepted
  rw [if_neg known]
  simp only
  split at accepted
  · cases accepted
  rename_i changes planned
  have rows : store.grantsOf call.input.userId =
      ledger.rowsIn AccessBackend.memory.order call.input.userId := by
    rw [InMemoryAccessStore.grantsOf, holds.1]
    rfl
  cases ran : InMemoryAccessStore.writeChanges call.input call.now store changes with
  | mk events next =>
      obtain ⟨after, wrote, holdsAfter⟩ := holds.writeChanges ran
      rw [rows] at planned
      exact ⟨after, changes, holdsAfter, AccessBackend.memory.bothSources, planned, wrote.writes⟩

/-- And one that PostgreSQL committed. -/
theorem PostgresHolds.accepted {store : PostgresAccessStore} {ledger : Ledger} {call : AccessCall}
    {result : MutationResult} (holds : PostgresHolds store ledger)
    (accepted : (store.mutate call).1 = .ok result) :
    ∃ after changes, PostgresHolds (store.mutate call).2 after ∧
      Applied ledger after AccessBackend.postgres.order call.input call.now
        ⟨store.hadTrial call.input.userId⟩ changes := by
  unfold PostgresAccessStore.mutate at accepted ⊢
  split at accepted
  · cases accepted
  rename_i isId
  split at accepted
  · cases accepted
  rename_i known
  simp only at accepted
  rw [if_neg isId, if_neg known]
  simp only
  split at accepted
  · cases accepted
  rename_i changes planned
  have rows : store.grantsOf call.input.userId =
      ledger.rowsIn AccessBackend.postgres.order call.input.userId := by
    rw [PostgresAccessStore.grantsOf, holds.1]
    rfl
  split at accepted
  · cases accepted
  rename_i written next ran
  rw [rows] at planned
  have fits := fits_of_planned AccessBackend.postgres.bothSources (planned_of_ok planned)
  obtain ⟨after, events, wrote, _, holdsAfter⟩ := holds.writeChanges fits ran
  exact ⟨after, changes, holdsAfter, AccessBackend.postgres.bothSources, planned, wrote.writes⟩

/-- After any calls, a call that returns has planned and written. -/
theorem accepted_applied (backend : AccessBackend) (calls : List AccessCall) (call : AccessCall)
    (result : MutationResult)
    (accepted : (backend.store.object.step
      (backend.store.object.after backend.store.start calls) call).1 = .ok result) :
    ∃ ledger after context changes,
      Represents backend (backend.store.object.after backend.store.start calls) ledger ∧
      Represents backend (backend.store.object.step
        (backend.store.object.after backend.store.start calls) call).2 after ∧
      Applied ledger after backend.order call.input call.now context changes := by
  cases backend with
  | memory =>
      have start : MemoryHolds InMemoryAccessStore.empty Ledger.empty := ⟨rfl, rfl⟩
      obtain ⟨ledger, _, holds⟩ := run_of_steps memoryAccess MemoryHolds
        (fun _ _ call holds => memory_step holds call) start calls
      obtain ⟨after, changes, holdsAfter, applied⟩ := holds.accepted accepted
      exact ⟨ledger, after, _, changes, .of_memory holds, .of_memory holdsAfter, applied⟩
  | postgres =>
      have start : PostgresHolds PostgresAccessStore.migrated Ledger.empty := ⟨rfl, rfl⟩
      obtain ⟨ledger, _, holds⟩ := run_of_steps postgresAccess PostgresHolds
        (fun _ _ call holds => postgres_step holds call) start calls
      obtain ⟨after, changes, holdsAfter, applied⟩ := holds.accepted accepted
      exact ⟨ledger, after, _, changes, .of_postgres holds, .of_postgres holdsAfter, applied⟩

/-- A call that plans nothing leaves the store alone. -/
theorem step_of_unchanged (backend : AccessBackend) (state : backend.store.object.State)
    (call : AccessCall)
    (unchanged : ∀ context, planAccountMutation (backend.store.grants state call.input.userId) call.input
      call.now context = .ok []) :
    (backend.store.object.step state call).2 = state := by
  cases backend with
  | memory =>
      change (InMemoryAccessStore.mutate state call).2 = state
      unfold InMemoryAccessStore.mutate
      split
      · rfl
      · have plan := unchanged ⟨state.hadTrial call.input.userId⟩
        simp only at plan ⊢
        rw [plan]
        rfl
  | postgres =>
      change (PostgresAccessStore.mutate state call).2 = state
      unfold PostgresAccessStore.mutate
      split
      · rfl
      split
      · rfl
      · have plan := unchanged ⟨state.hadTrial call.input.userId⟩
        simp only at plan ⊢
        rw [plan]
        rfl

/-- A change that a store has accepted, asked for again no earlier and with a grant's end still ahead, is
    already in effect exactly if it is no inactive synchronisation that closed a window before the period's
    own end, or no time has passed. Then the store stays as it is. -/
theorem retried_change_harmless (backend : AccessBackend) (calls : List AccessCall) (call : AccessCall)
    (result : MutationResult) (again : Instant) (accounts : List String)
    (notTrial : call.input.action ≠ .trial)
    (accepted : (backend.store.object.step
      (backend.store.object.after backend.store.start calls) call).1 = .ok result)
    (later : call.now ≤ again)
    (future : ∀ grant, call.input.action = .grant → call.input.grant = some grant →
      ∀ expiresAt, grant.expiresAt = some expiresAt → again < expiresAt) :
    let before := backend.store.object.after backend.store.start calls
    let after := (backend.store.object.step before call).2
    (∀ context, planAccountMutation (backend.store.grants after call.input.userId) call.input again
        context = .ok [] ↔
      Harmless (backend.store.row before call.input.userId .billing) call.input call.now again) ∧
    (Harmless (backend.store.row before call.input.userId .billing) call.input call.now again →
      (backend.store.object.step after { call with now := again, accounts := accounts }).2 = after) := by
  intro before after
  obtain ⟨ledger, ledgerAfter, context, changes, holds, holdsAfter, applied⟩ :=
    accepted_applied backend calls call result accepted
  have rows : backend.store.grants after call.input.userId =
      ledgerAfter.rowsIn backend.order call.input.userId := by rw [holdsAfter.grants]
  have billing : backend.store.row before call.input.userId .billing =
      ledger.row call.input.userId .billing := by rw [holds.row]
  have unchanged : ∀ context, planAccountMutation (backend.store.grants after call.input.userId)
        call.input again context = .ok [] ↔
      Harmless (backend.store.row before call.input.userId .billing) call.input call.now again := by
    intro context
    rw [rows, billing]
    exact again_iff applied notTrial later future
  refine ⟨unchanged, ?_⟩
  intro harmless
  apply step_of_unchanged
  intro context
  exact (unchanged context).mpr harmless

/-- Suspended, and asked for once more a second later. -/
theorem retried_change_harmless_suspended :
    let granted := [accessCall 0 .grant (some { expiresAt := some 1000 })]
    let after := (memoryAccess.step (memoryAccess.after InMemoryAccessStore.empty granted)
      (accessCall 10 .suspend)).2
    (memoryAccess.step after (accessCall 1010 .suspend)).2 = after := by
  have harmless : Harmless (InMemoryAccessStore.row (memoryAccess.after InMemoryAccessStore.empty
      [accessCall 0 .grant (some { expiresAt := some 1000 })]) someStudent .billing)
        (accessCall 10 .suspend).input 10 1010 := by
    intro sync isSync
    cases isSync
  have accepted : ∃ result, (memoryAccess.step (memoryAccess.after InMemoryAccessStore.empty
      [accessCall 0 .grant (some { expiresAt := some 1000 })]) (accessCall 10 .suspend)).1 =
        .ok result := ⟨_, rfl⟩
  obtain ⟨result, isResult⟩ := accepted
  exact (retried_change_harmless .memory [accessCall 0 .grant (some { expiresAt := some 1000 })]
    (accessCall 10 .suspend) result 1010 [someStudent] (by decide) isResult (by decide)
    (fun _ isGrant => absurd isGrant (by decide))).2 harmless

/-- A month that is paid for, and given up ten instants in. -/
def givenUp : List AccessCall :=
  [accessCall 0 .sync none none (some ⟨true, 0, 100, .subscription, none⟩),
    accessCall 10 .sync none none (some ⟨false, 0, 100, .subscription, none⟩)]

/-- The same cancellation ten instants later is written again, and moves the end it had set. -/
theorem retried_cancellation_writes_again :
    let after := memoryAccess.after InMemoryAccessStore.empty givenUp
    let again := memoryAccess.step after
      (accessCall 20 .sync none none (some ⟨false, 0, 100, .subscription, none⟩))
    (after.row someStudent .billing).bind Entitlement.expiresAt = some 10 ∧
      (again.2.row someStudent .billing).bind Entitlement.expiresAt = some 20 ∧
      after.events.length = 2 ∧ again.2.events.length = 3 ∧
      planAccountMutation (after.grantsOf someStudent)
        (accessCall 20 .sync none none (some ⟨false, 0, 100, .subscription, none⟩)).input 20 {} ≠
          .ok [] := by
  decide

end JumptotechLabs.Access
