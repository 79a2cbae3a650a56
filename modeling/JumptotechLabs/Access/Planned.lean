/-
Module: JumptotechLabs.Access.Planned
Layer: Access (apps/api/src/access/entitlements.ts)
Purpose: What an accepted plan can be, said once: nothing to write, or one of six ways to write rows, with
  what its rule checked. Everything proved about mutations is proved from these.
Main exports: Planned, planned_of_ok
-/
import JumptotechLabs.Access.Entitlements

namespace JumptotechLabs.Access

/-- The plans `planAccountMutation` accepts. -/
inductive Planned (rows : List Entitlement) (input : MutationInput) (context : MutationContext) :
    List RowChange → Prop where
  /-- Already in effect. A trial never is, and a suspension only on a suspended account. -/
  | unchanged (noTrial : input.action ≠ .trial)
      (held : input.action = .suspend → ∃ row ∈ rows, isSuspended row = true) :
      Planned rows input context []
  /-- SYNC, of a row that billing says is entitled: born or kept suspended while the account is. -/
  | opened {next : EntitlementSnapshot} (isSync : input.action = .sync)
      (status : next.status =
        if (rows.filter isSuspended).isEmpty then .active else .suspended) :
      Planned rows input context
        [{ source := .billing, before := bySource rows .billing, action := .sync, next := next }]
  /-- SYNC, of a row that is not entitled any more. -/
  | closed {next : EntitlementSnapshot} {current : Entitlement} (isSync : input.action = .sync)
      (isCurrent : bySource rows .billing = some current) (status : next.status = current.status) :
      Planned rows input context
        [{ source := .billing, before := some current, action := .sync, next := next }]
  | granted {next : EntitlementSnapshot} (isGrant : input.action = .grant)
      (clear : ∀ row ∈ rows, row.grantedVia ≠ .operator → isSuspended row = false)
      (free : (bySource rows .operator).any isSuspended = false) (status : next.status = .active)
      (trial : next.kind = .trial → (bySource rows .operator).any isLiveTrial = true) :
      Planned rows input context
        [{ source := .operator, before := bySource rows .operator, action := .grant, next := next }]
  | tried {next : EntitlementSnapshot} (isTrial : input.action = .trial)
      (clear : ∀ row ∈ rows, row.grantedVia ≠ .operator → isSuspended row = false)
      (free : (bySource rows .operator).any isSuspended = false) (status : next.status = .active)
      (kind : next.kind = .trial) (first : context.hadTrial = false) :
      Planned rows input context
        [{ source := .operator, before := bySource rows .operator, action := .trial, next := next }]
  | revoked {current : Entitlement} (isRevoke : input.action = .revoke)
      (isCurrent : bySource rows .operator = some current) :
      Planned rows input context
        [ { source := .operator
            before := some current
            action := .revoke
            next := { snapshot current with status := .revoked } } ]
  | suspended (isSuspend : input.action = .suspend)
      (someActive : (rows.filter isActive).isEmpty = false) :
      Planned rows input context (restatus .suspend .suspended (rows.filter isActive))
  | restored (isRestore : input.action = .restore) :
      Planned rows input context (restatus .restore .active (rows.filter isSuspended))

variable {rows : List Entitlement} {input : MutationInput} {now : Instant}
  {context : MutationContext} {changes : List RowChange}

theorem clear_of_not_any
    (clear : ¬ ((rows.filter isSuspended).any fun row => row.grantedVia != .operator) = true) :
    ∀ row ∈ rows, row.grantedVia ≠ .operator → isSuspended row = false := by
  intro row member elsewhere
  cases held : isSuspended row with
  | false => rfl
  | true =>
      have found : ((rows.filter isSuspended).any fun row => row.grantedVia != .operator) = true := by
        apply List.any_eq_true.mpr
        exact ⟨row, List.mem_filter.mpr ⟨member, held⟩, bne_iff_ne.mpr elsewhere⟩
      exact absurd found clear

/-! ### One row -/

theorem planTrial_ok {current : Option Entitlement} {trial : Option TrialRequest}
    {plan : MutationPlan} (planned : planTrial current now trial context = .ok plan) :
    ∃ next, plan = .write .trial next ∧ current.any isSuspended = false ∧
      context.hadTrial = false ∧ next.status = .active ∧ next.kind = .trial := by
  unfold planTrial at planned
  split at planned
  · cases planned
  split at planned
  · cases planned
  split at planned
  · cases planned
  split at planned
  · cases planned
  split at planned
  · cases planned
  · rename_i free first _ _ _ _
    cases planned
    exact ⟨_, rfl, eq_false_of_ne_true free, eq_false_of_ne_true first, rfl, rfl⟩

/-- A grant leaves a trial only to a live trial. -/
theorem kind_grantedSnapshot {current : Option Entitlement} {grant : GrantRequest}
    (named : ¬ (grant.kind == some .trial && !current.any isLiveTrial) = true)
    (isTrial : (grantedSnapshot current now grant).kind = .trial) :
    current.any isLiveTrial = true := by
  cases given : grant.kind with
  | some kind =>
      have same : kind = .trial := by
        simpa [grantedSnapshot, given] using isTrial
      simpa [given, same] using named
  | none =>
      cases current with
      | none => simp [grantedSnapshot, given] at isTrial
      | some row =>
          simp only [grantedSnapshot, given, Option.getD_none] at isTrial
          split at isTrial
          · rename_i unrevoked
            simp [isLiveTrial, isTrial, unrevoked]
          · cases isTrial

theorem planGrant_ok {current : Option Entitlement} {grant : Option GrantRequest}
    {plan : MutationPlan} (planned : planGrant current now grant = .ok plan) :
    plan = .unchanged .grant ∨
      ∃ next, plan = .write .grant next ∧ current.any isSuspended = false ∧
        next.status = .active ∧ (next.kind = .trial → current.any isLiveTrial = true) := by
  unfold planGrant at planned
  split at planned
  · cases planned
  rename_i grant
  split at planned
  · cases planned
  rename_i free
  split at planned
  · cases planned
  rename_i named
  split at planned
  · cases planned
  simp only at planned
  split at planned
  · cases planned
  split at planned
  · cases planned
  split at planned
  · cases planned
    exact .inl rfl
  · cases planned
    exact .inr ⟨_, rfl, eq_false_of_ne_true free, rfl, kind_grantedSnapshot named⟩

/-! ### The account -/

theorem planned_unchanged {action : AccessAction} (isAction : input.action = action)
    (noTrial : action ≠ .trial) (noSuspend : action ≠ .suspend) : Planned rows input context [] := by
  apply Planned.unchanged
  · rw [isAction]
    exact noTrial
  · intro isSuspend
    exact absurd (isAction.symm.trans isSuspend) noSuspend

/-- Billing's row is written, unless it is already so. -/
theorem planned_syncTo {current : Option Entitlement} {next : EntitlementSnapshot}
    (isSync : input.action = .sync)
    (written : Planned rows input context
      [{ source := .billing, before := current, action := .sync, next := next }]) :
    Planned rows input context (syncTo current next) := by
  unfold syncTo
  split
  · exact planned_unchanged isSync nofun nofun
  · exact written

theorem status_closedSnapshot {current : Entitlement} {sync : SyncRequest}
    {next : EntitlementSnapshot} (closed : closedSnapshot current sync now = .ok next) :
    next.status = current.status := by
  unfold closedSnapshot at closed
  simp only at closed
  split at closed
  · cases closed
    rfl
  · cases closed
  · cases closed

theorem planned_of_planSync (isSync : input.action = .sync)
    (planned : planSync rows input now = .ok changes) : Planned rows input context changes := by
  unfold planSync at planned
  split at planned
  · split at planned
    · cases planned
    simp only at planned
    split at planned
    · cases planned
      apply planned_syncTo isSync
      exact .opened isSync rfl
    split at planned
    · cases planned
      exact planned_unchanged isSync nofun nofun
    rename_i current isCurrent
    split at planned
    · cases planned
    rename_i next closed
    cases planned
    apply planned_syncTo isSync
    exact .closed isSync isCurrent (status_closedSnapshot closed)
  · cases planned

theorem planned_of_planGrantOrTrial (isGrantOrTrial : input.action = .grant ∨ input.action = .trial)
    (planned : planGrantOrTrial rows input now context = .ok changes) :
    Planned rows input context changes := by
  unfold planGrantOrTrial at planned
  split at planned
  · cases planned
  rename_i clear
  split at planned
  · cases planned
  simp only at planned
  split at planned
  · cases planned
  rename_i plan isPlan
  cases planned
  rcases isGrantOrTrial with isGrant | isTrial
  · rw [isGrant] at isPlan
    rcases planGrant_ok isPlan with rfl | ⟨next, rfl, free, status, trial⟩
    · exact planned_unchanged isGrant nofun nofun
    · exact .granted isGrant (clear_of_not_any clear) free status trial
  · rw [isTrial] at isPlan
    obtain ⟨next, rfl, free, first, status, kind⟩ := planTrial_ok isPlan
    exact .tried isTrial (clear_of_not_any clear) free status kind first

theorem planned_of_planRevoke (isRevoke : input.action = .revoke)
    (planned : planRevoke rows now = .ok changes) : Planned rows input context changes := by
  unfold planRevoke at planned
  simp only at planned
  split at planned
  · cases planned
  split at planned
  · cases planned
  rename_i plan isPlan
  cases planned
  unfold planMutation at isPlan
  simp only at isPlan
  split at isPlan
  · cases isPlan
  rename_i current isCurrent
  split at isPlan
  · cases isPlan
    exact planned_unchanged isRevoke nofun nofun
  · cases isPlan
    rw [operatorChange, isCurrent]
    exact .revoked isRevoke isCurrent

theorem planned_of_planSuspend (isSuspend : input.action = .suspend)
    (planned : planSuspend rows = .ok changes) : Planned rows input context changes := by
  unfold planSuspend at planned
  split at planned
  · cases planned
  split at planned
  · split at planned
    · cases planned
    rename_i held
    cases planned
    apply Planned.unchanged
    · rw [isSuspend]
      nofun
    · intro _
      rw [List.isEmpty_iff] at held
      obtain ⟨row, member⟩ := List.exists_mem_of_ne_nil _ held
      exact ⟨row, List.mem_filter.mp member⟩
  · rename_i someActive
    cases planned
    exact .suspended isSuspend (eq_false_of_ne_true someActive)

theorem planned_of_planRestore (isRestore : input.action = .restore)
    (planned : planRestore rows = .ok changes) : Planned rows input context changes := by
  unfold planRestore at planned
  split at planned
  · cases planned
  split at planned
  · split at planned
    · cases planned
      exact planned_unchanged isRestore nofun nofun
    · cases planned
  · cases planned
    exact .restored isRestore

theorem ok_of_operatorOnly {plan : Except AccessFailure (List RowChange)}
    (planned : operatorOnly input plan = .ok changes) : plan = .ok changes := by
  unfold operatorOnly at planned
  split at planned
  · exact planned
  · cases planned

/-- Whatever `planAccountMutation` accepts is one of the listed plans. -/
theorem planned_of_ok (planned : planAccountMutation rows input now context = .ok changes) :
    Planned rows input context changes := by
  unfold planAccountMutation at planned
  split at planned
  · rename_i isSync
    exact planned_of_planSync isSync planned
  · rename_i isGrant
    exact planned_of_planGrantOrTrial (.inl isGrant) (ok_of_operatorOnly planned)
  · rename_i isTrial
    exact planned_of_planGrantOrTrial (.inr isTrial) (ok_of_operatorOnly planned)
  · rename_i isRevoke
    exact planned_of_planRevoke isRevoke (ok_of_operatorOnly planned)
  · rename_i isSuspend
    exact planned_of_planSuspend isSuspend (ok_of_operatorOnly planned)
  · rename_i isRestore
    exact planned_of_planRestore isRestore (ok_of_operatorOnly planned)

end JumptotechLabs.Access
