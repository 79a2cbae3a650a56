/-
Module: JumptotechLabs.Access.Suspension
Layer: Access (apps/api/src/access/entitlements.ts)
Purpose: Suspension is a decision about the account, kept in its rows. No account ever has a suspended row
  beside an active one; and once suspended an account stays so, whatever is granted, tried or synchronised,
  until an operator restores or revokes.
Main exports: NoneIs, Unmixed, Held, unmixed_step, held_step, suspension_holds
-/
import JumptotechLabs.Access.Refinement

namespace JumptotechLabs.Access

open JumptotechLabs.Core

/-- No row of the account has this status. -/
def NoneIs (status : EntitlementStatus) (ledger : Ledger) (userId : String) : Prop :=
  ∀ source entry, ledger.row userId source = some entry → entry.status ≠ status

/-- No account has both a suspended and an active row. -/
def Unmixed (ledger : Ledger) : Prop :=
  ∀ userId, NoneIs .active ledger userId ∨ NoneIs .suspended ledger userId

/-- Some row of the account is suspended. -/
def Held (ledger : Ledger) (userId : String) : Prop :=
  ∃ source entry, ledger.row userId source = some entry ∧ entry.status = .suspended

section Rows

variable {ledger after : Ledger} {order : List GrantedVia} {userId : String} {input : MutationInput}
  {now : Instant} {changes : List RowChange}

theorem not_held_of_noneIs (none : NoneIs .suspended ledger userId) : ¬ Held ledger userId := by
  intro held
  obtain ⟨source, entry, found, suspended⟩ := held
  exact none source entry found suspended

theorem noneIs_of_not_held (free : ¬ Held ledger userId) : NoneIs .suspended ledger userId := by
  intro source entry found suspended
  exact free ⟨source, entry, found, suspended⟩

theorem held_iff_filter (both : BothSources order) :
    ((ledger.rowsIn order userId).filter isSuspended).isEmpty = false ↔ Held ledger userId := by
  constructor
  · intro some
    obtain ⟨entry, member⟩ := List.isEmpty_eq_false_iff_exists_mem.mp some
    obtain ⟨inRows, suspended⟩ := List.mem_filter.mp member
    exact ⟨_, entry, Ledger.row_of_mem inRows, beq_iff_eq.mp suspended⟩
  · intro held
    obtain ⟨source, entry, found, suspended⟩ := held
    apply List.isEmpty_eq_false_iff_exists_mem.mpr
    exact ⟨entry, List.mem_filter.mpr ⟨Ledger.mem_rowsIn both found, beq_iff_eq.mpr suspended⟩⟩

/-- A grant or a trial is planned only while no row is suspended. -/
theorem not_held_of_clear (both : BothSources order)
    (clear : ∀ row ∈ ledger.rowsIn order userId, row.grantedVia ≠ .operator →
      isSuspended row = false)
    (free : (bySource (ledger.rowsIn order userId) .operator).any isSuspended = false) :
    ¬ Held ledger userId := by
  intro held
  obtain ⟨source, entry, found, suspended⟩ := held
  have isHeld : isSuspended entry = true := beq_iff_eq.mpr suspended
  cases source with
  | operator =>
      rw [Ledger.bySource_rowsIn both, found, Option.any_some, isHeld] at free
      cases free
  | billing =>
      have elsewhere : entry.grantedVia ≠ .operator := by
        rw [ledger.placed found]
        nofun
      have notHeld := clear entry (Ledger.mem_rowsIn both found) elsewhere
      rw [isHeld] at notHeld
      cases notHeld

/-- When every row of some status gets another, no row has the first one any more. -/
theorem noneIs_of_restatus {action : AccessAction} (status other : EntitlementStatus)
    (differs : other ≠ status) (both : BothSources order)
    (writes : Writes input now
      (restatus action other ((ledger.rowsIn order input.userId).filter (·.status == status)))
      ledger after) : NoneIs status after input.userId := by
  intro source entry found isStatus
  rcases writes.row_cases (Fits.restatus both action other _) found with
    ⟨change, member, _, isWritten⟩ | ⟨untouched, stored⟩
  · obtain ⟨row, _, rfl⟩ := List.mem_map.mp member
    rw [isWritten] at isStatus
    exact differs isStatus
  · apply untouched
    rw [restatus, List.map_map]
    apply List.mem_map.mpr
    refine ⟨entry, List.mem_filter.mpr ⟨Ledger.mem_rowsIn both stored, beq_iff_eq.mpr isStatus⟩, ?_⟩
    exact ledger.placed stored

/-- And one that had it has the other. -/
theorem held_of_suspending (both : BothSources order)
    (someActive : ((ledger.rowsIn order input.userId).filter isActive).isEmpty = false)
    (writes : Writes input now
      (restatus .suspend .suspended ((ledger.rowsIn order input.userId).filter isActive))
      ledger after) : Held after input.userId := by
  obtain ⟨entry, member⟩ := List.isEmpty_eq_false_iff_exists_mem.mp someActive
  have written := writes.row_of_change (Fits.restatus both _ _ _) (List.mem_map_of_mem member)
  exact ⟨_, _, written, rfl⟩

/-- A change of one row decides that row, and leaves the account's other row. -/
theorem Writes.single {change : RowChange} (writes : Writes input now [change] ledger after) :
    after.row input.userId change.source = some (written input.userId now change) ∧
      ∀ source ≠ change.source, after.row input.userId source = ledger.row input.userId source := by
  cases writes with
  | cons eventId rest =>
      cases rest
      constructor
      · simp [Ledger.record]
      · intro source other
        simp [Ledger.record, other]

theorem noneIs_single {status : EntitlementStatus} {change : RowChange}
    (none : NoneIs status ledger input.userId)
    (writes : Writes input now [change] ledger after) (differs : change.next.status ≠ status) :
    NoneIs status after input.userId := by
  intro source entry found
  by_cases here : source = change.source
  · rw [here, writes.single.1] at found
    cases found
    exact differs
  · rw [writes.single.2 source here] at found
    exact none source entry found

end Rows

/-! ### One step -/

section Step

variable {ledger after : Ledger} {call : AccessCall} {reply : AccessReply}

theorem unmixed_step (step : LedgerStep call reply ledger after) (unmixed : Unmixed ledger) :
    Unmixed after := by
  intro userId
  by_cases other : userId ≠ call.input.userId
  · have same := step.row_of_other other
    simp only [NoneIs, same]
    exact unmixed userId
  rw [not_not] at other
  subst other
  cases step with
  | refused => exact unmixed _
  | accepted both planned changed writes told =>
      cases planned with
      | unchanged =>
          cases writes
          exact unmixed _
      | opened isSync status =>
          by_cases held : Held ledger call.input.userId
          · -- Billing's row is suspended too, and no row was active.
            have noneActive := (unmixed call.input.userId).resolve_right
              fun none => not_held_of_noneIs none held
            rw [(held_iff_filter both).mpr held] at status
            left
            apply noneIs_single noneActive writes
            rw [status]
            nofun
          · rw [← held_iff_filter both, Bool.not_eq_false] at held
            rw [held] at status
            right
            apply noneIs_single _ writes
            · rw [status]
              nofun
            · apply noneIs_of_not_held
              rw [← held_iff_filter both, Bool.not_eq_false]
              exact held
      | closed isSync isCurrent status =>
          -- The status stays, so the account keeps whichever side it was on.
          rw [Ledger.bySource_rowsIn both] at isCurrent
          apply (unmixed call.input.userId).imp
          · intro none
            apply noneIs_single none writes
            rw [status]
            exact none _ _ isCurrent
          · intro none
            apply noneIs_single none writes
            rw [status]
            exact none _ _ isCurrent
      | granted isGrant clear free status | tried isTrial clear free status =>
          right
          apply noneIs_single (noneIs_of_not_held (not_held_of_clear both clear free)) writes
          rw [status]
          nofun
      | revoked isRevoke isCurrent =>
          apply (unmixed call.input.userId).imp
          · intro none
            exact noneIs_single none writes EntitlementStatus.noConfusion
          · intro none
            exact noneIs_single none writes EntitlementStatus.noConfusion
      | suspended => exact .inl (noneIs_of_restatus .active .suspended nofun both writes)
      | restored => exact .inr (noneIs_of_restatus .suspended .active nofun both writes)

/-- A suspended account stays suspended through every call but a restoration or a revocation. -/
theorem held_step {userId : String} (step : LedgerStep call reply ledger after)
    (kept : ∀ result, reply = .ok result → call.input.userId = userId →
      call.input.action ≠ .restore ∧ call.input.action ≠ .revoke)
    (held : Held ledger userId) : Held after userId := by
  by_cases other : userId ≠ call.input.userId
  · have same := step.row_of_other other
    simp only [Held, same]
    exact held
  rw [not_not] at other
  subst other
  cases step with
  | refused => exact held
  | accepted both planned changed writes told =>
      obtain ⟨noRestore, noRevoke⟩ := kept _ rfl rfl
      cases planned with
      | unchanged =>
          cases writes
          exact held
      | opened isSync status =>
          rw [(held_iff_filter both).mpr held] at status
          exact ⟨_, _, writes.single.1, status⟩
      | closed isSync isCurrent status =>
          obtain ⟨source, entry, found, suspended⟩ := held
          rw [Ledger.bySource_rowsIn both] at isCurrent
          cases source with
          | billing =>
              rw [isCurrent] at found
              cases found
              exact ⟨_, _, writes.single.1, status.trans suspended⟩
          | operator => exact ⟨_, entry, (writes.single.2 .operator nofun).trans found, suspended⟩
      | granted isGrant clear free | tried isTrial clear free =>
          exact absurd held (not_held_of_clear both clear free)
      | revoked isRevoke => exact absurd isRevoke noRevoke
      | suspended isSuspend someActive => exact held_of_suspending both someActive writes
      | restored isRestore => exact absurd isRestore noRestore

/-- A suspension that returns leaves the account suspended, also when it changed nothing. -/
theorem held_of_suspend {result : MutationResult}
    (step : LedgerStep call (.ok result) ledger after) (isSuspend : call.input.action = .suspend) :
    Held after call.input.userId := by
  cases step with
  | accepted both planned changed writes told =>
      cases planned with
      | unchanged noTrial held =>
          cases writes
          obtain ⟨entry, member, suspended⟩ := held isSuspend
          exact ⟨_, entry, Ledger.row_of_mem member, beq_iff_eq.mp suspended⟩
      | opened isAction | closed isAction | granted isAction | tried isAction | revoked isAction
      | restored isAction =>
          rw [isAction] at isSuspend
          cases isSuspend
      | suspended isAction someActive => exact held_of_suspending both someActive writes

end Step

/-! ### Every run -/

theorem unmixed_of_run {transcript : List (AccessCall × AccessReply)} {ledger : Ledger}
    (run : LedgerRun transcript Ledger.empty ledger) : Unmixed ledger := by
  apply run.keeps Unmixed
  · intro call reply ledger after _ step
    exact unmixed_step step
  · intro userId
    left
    intro source entry impossible
    cases impossible

theorem LedgerRun.append {first second : List (AccessCall × AccessReply)} {ledger after : Ledger}
    (run : LedgerRun (first ++ second) ledger after) :
    ∃ middle, LedgerRun first ledger middle ∧ LedgerRun second middle after := by
  induction first generalizing ledger with
  | nil => exact ⟨ledger, .nil ledger, run⟩
  | cons told first ih =>
      cases run with
      | cons step rest =>
          obtain ⟨middle, before, later⟩ := ih rest
          exact ⟨middle, .cons step before, later⟩

/-- A suspended row suspends the account, at every instant. -/
theorem evaluateAccount_of_suspended {grants : List Entitlement} {entry : Entitlement}
    (member : entry ∈ grants) (suspended : entry.status = .suspended) (now : Instant) :
    (evaluateAccount grants now).state = .suspended ∧ (evaluateAccount grants now).active = false := by
  unfold evaluateAccount
  have notEmpty : grants.isEmpty = false := List.isEmpty_eq_false_iff_exists_mem.mpr ⟨entry, member⟩
  rw [notEmpty]
  cases found : grants.find? fun grant => grant.status == .suspended with
  | some row => exact ⟨rfl, rfl⟩
  | none =>
      have absent := List.find?_eq_none.mp found entry member
      rw [suspended] at absent
      exact absurd rfl absent

/-- No account has both a suspended and an active row; and an account on which a suspension returned is
    suspended at every instant, until a restoration or a revocation of it returns. -/
theorem suspension_holds (backend : AccessBackend) (calls : List AccessCall) (userId : String) :
    (∀ source source' row row',
        backend.store.row (backend.store.object.after backend.store.start calls) userId source =
            some row →
          backend.store.row (backend.store.object.after backend.store.start calls) userId source' =
              some row' →
            row.status = .suspended → row'.status ≠ .active) ∧
      ∀ past suspend result later,
        backend.store.object.transcript backend.store.start calls =
            past ++ (suspend, Except.ok result) :: later →
          suspend.input.userId = userId → suspend.input.action = .suspend →
          (∀ call result, (call, .ok result) ∈ later → call.input.userId = userId →
            call.input.action ≠ .restore ∧ call.input.action ≠ .revoke) →
          ∀ now,
            let evaluation := evaluateAccount
              (backend.store.grants (backend.store.object.after backend.store.start calls) userId) now
            evaluation.state = .suspended ∧ evaluation.active = false := by
  obtain ⟨ledger, run, represents, _⟩ := ledger_run backend calls
  constructor
  · intro source source' row row' found found' suspended active
    rw [represents.row] at found found'
    rcases unmixed_of_run run userId with noneActive | noneSuspended
    · exact noneActive source' row' found' active
    · exact noneSuspended source row found suspended
  · intro past suspend result later isTranscript isUser isSuspend kept now
    rw [isTranscript] at run
    obtain ⟨middle, _, rest⟩ := run.append
    cases rest with
    | cons step run =>
        have start := held_of_suspend step isSuspend
        rw [isUser] at start
        obtain ⟨source, entry, found, suspended⟩ : Held ledger userId := by
          apply run.keeps (Held · userId) _ start
          intro call reply ledger after member step
          apply held_step step
          intro result isReply
          rw [isReply] at member
          exact kept call result member
        rw [represents.grants]
        exact evaluateAccount_of_suspended (Ledger.mem_rowsIn backend.bothSources found) suspended now

/-- Granted and paid for. -/
def paidAccount : List AccessCall :=
  [ accessCall 0 .grant (some { expiresAt := none }),
    accessCall 1 .sync none none (some ⟨true, 0, 100, .subscription, none⟩) ]

/-- A grant, a trial and a renewed subscription, on an account that is suspended. -/
def afterSuspension : List AccessCall :=
  [ accessCall 3 .grant (some { expiresAt := some 900 }),
    accessCall 4 .trial none (some ⟨14, none⟩),
    accessCall 5 .sync none none (some ⟨true, 100, 200, .subscription, none⟩) ]

/-- All of them, around the suspension. -/
def suspendedAccount : List AccessCall := paidAccount ++ accessCall 2 .suspend :: afterSuspension

theorem suspension_holds_suspendedAccount :
    (postgresAccess.transcript PostgresAccessStore.migrated suspendedAccount).map
        (fun told => told.2.toBool) = [true, true, true, false, false, true] ∧
      (evaluateAccount ((postgresAccess.after PostgresAccessStore.migrated
        suspendedAccount).grantsOf someStudent) 150).state = .suspended := by
  constructor
  · decide
  · let paid := postgresAccess.after PostgresAccessStore.migrated paidAccount
    cases reply : (postgresAccess.step paid (accessCall 2 .suspend)).1 with
    | error failure =>
        have returned : (postgresAccess.step paid (accessCall 2 .suspend)).1.toBool = true := by
          decide
        rw [reply] at returned
        cases returned
    | ok result =>
        have told := postgresAccess.transcript_append PostgresAccessStore.migrated paidAccount
          (accessCall 2 .suspend :: afterSuspension)
        rw [Object.transcript, reply] at told
        apply ((suspension_holds .postgres suspendedAccount someStudent).2 _ _ result _ told rfl rfl
          _ 150).1
        have kept : (postgresAccess.transcript (postgresAccess.step paid (accessCall 2 .suspend)).2
            afterSuspension).all (fun told => told.1.input.action != .restore &&
              told.1.input.action != .revoke) = true := by
          decide
        intro call result member _
        have allowed := List.all_eq_true.mp kept _ member
        rw [Bool.and_eq_true, bne_iff_ne, bne_iff_ne] at allowed
        exact allowed

end JumptotechLabs.Access
