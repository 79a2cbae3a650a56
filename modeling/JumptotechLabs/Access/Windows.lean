/-
Module: JumptotechLabs.Access.Windows
Layer: Access (apps/api/src/access/entitlements.ts)
Purpose: What a synchronisation does to billing's row. An inactive one closes its window by now and leaves
  its status; an active one sets the window to the period. No other mutation touches the window again, so a
  later restore opens exactly the period, or nothing.
Main exports: rowsAfter, OneBillingRow, WithoutSync, eq_of_sameSnapshot, closedSnapshot_window,
  rowsAfter_keeps, rowsAfter_syncTo, withoutSync_keeps, active_iff_window, sync_windows
-/
import JumptotechLabs.Access.Planned
import JumptotechLabs.Access.Store

namespace JumptotechLabs.Access

open JumptotechLabs.Core

/-- The rows of an account once the changes of a mutation are written. -/
def rowsAfter (input : MutationInput) (now : Instant) (rows : List Entitlement)
    (changes : List RowChange) : List Entitlement :=
  changes.foldl
    (fun rows change => Keyed.put Entitlement.grantedVia (written input.userId now change) rows) rows

/-- There is one row of billing's, and it is this one. -/
def OneBillingRow (rows : List Entitlement) (row : Entitlement) : Prop :=
  rows.filter (fun row => row.grantedVia = .billing) = [row]

/-- Rows reached by accepted mutations none of which is a synchronisation. -/
inductive WithoutSync : List Entitlement → List Entitlement → Prop where
  | refl (rows : List Entitlement) : WithoutSync rows rows
  | step {rows rows' : List Entitlement} {input : MutationInput} {now : Instant}
      {context : MutationContext} {changes : List RowChange} (noSync : input.action ≠ .sync)
      (accepted : planAccountMutation rows input now context = .ok changes)
      (rest : WithoutSync (rowsAfter input now rows changes) rows') : WithoutSync rows rows'

/-! ### Billing's row -/

section Rows

variable {rows : List Entitlement} {current : Entitlement} {input : MutationInput} {now : Instant}
  {changes : List RowChange}

theorem OneBillingRow.bySource (one : OneBillingRow rows current) :
    bySource rows .billing = some current := by
  have head : (rows.filter fun row => row.grantedVia = .billing).head? = some current := by
    rw [one]
    rfl
  rw [List.head?_filter] at head
  exact head

theorem OneBillingRow.eq (one : OneBillingRow rows current) {row : Entitlement} (member : row ∈ rows)
    (isBilling : row.grantedVia = .billing) : row = current := by
  have listed : row ∈ rows.filter fun row => row.grantedVia = .billing :=
    List.mem_filter.mpr ⟨member, decide_eq_true isBilling⟩
  rw [one] at listed
  exact List.mem_singleton.mp listed

theorem OneBillingRow.put (one : OneBillingRow rows current) {row : Entitlement}
    (isBilling : row.grantedVia = .billing) :
    OneBillingRow (Keyed.put Entitlement.grantedVia row rows) row := by
  rw [OneBillingRow, Keyed.filter_put, if_pos isBilling, one]
  rfl

theorem OneBillingRow.put_other (one : OneBillingRow rows current) {row : Entitlement}
    (elsewhere : row.grantedVia ≠ .billing) :
    OneBillingRow (Keyed.put Entitlement.grantedVia row rows) current := by
  rw [OneBillingRow, Keyed.filter_put, if_neg elsewhere]
  exact one

/-- What the row has and every change of it is given, it has after the changes. -/
theorem rowsAfter_keeps (property : EntitlementSnapshot → Prop) (one : OneBillingRow rows current)
    (given : ∀ change ∈ changes, change.source = .billing → property change.next)
    (has : property (snapshot current)) :
    ∃ row, OneBillingRow (rowsAfter input now rows changes) row ∧ property (snapshot row) := by
  induction changes generalizing rows current with
  | nil => exact ⟨current, one, has⟩
  | cons change changes ih =>
      have rest := fun other member => given other (List.mem_cons_of_mem change member)
      by_cases isBilling : change.source = .billing
      · have replaced : OneBillingRow
            (Keyed.put Entitlement.grantedVia (written input.userId now change) rows)
            (written input.userId now change) := one.put isBilling
        exact ih replaced rest (given change List.mem_cons_self isBilling)
      · have kept : OneBillingRow
            (Keyed.put Entitlement.grantedVia (written input.userId now change) rows) current :=
          one.put_other isBilling
        exact ih kept rest has

theorem eq_of_sameSnapshot {a b : EntitlementSnapshot} (same : sameSnapshot a b = true) : a = b := by
  simp only [sameSnapshot, Bool.and_eq_true, beq_iff_eq] at same
  obtain ⟨⟨⟨⟨status, startsAt⟩, expiresAt⟩, kind⟩, planId⟩ := same
  cases a with
  | mk aStatus aStart aEnd aKind aPlan =>
      cases b with
      | mk bStatus bStart bEnd bKind bPlan => simp_all

/-- A synchronisation leaves the row as it says. -/
theorem rowsAfter_syncTo (one : OneBillingRow rows current) (next : EntitlementSnapshot) :
    ∃ row, OneBillingRow (rowsAfter input now rows (syncTo (some current) next)) row ∧
      snapshot row = next := by
  unfold syncTo
  split
  · rename_i same
    exact ⟨current, one, eq_of_sameSnapshot same⟩
  · exact ⟨written input.userId now ⟨.billing, some current, .sync, next⟩, one.put rfl, rfl⟩

/-- What a change of status keeps of the row, every mutation but a synchronisation keeps. -/
theorem withoutSync_keeps {rows' : List Entitlement} (property : EntitlementSnapshot → Prop)
    (suspends : ∀ entry, property entry → property { entry with status := .suspended })
    (restores : ∀ entry, property entry → property { entry with status := .active })
    (later : WithoutSync rows rows') (one : OneBillingRow rows current)
    (has : property (snapshot current)) :
    ∃ row, OneBillingRow rows' row ∧ property (snapshot row) := by
  induction later generalizing current with
  | refl rows => exact ⟨current, one, has⟩
  | @step rows rows' input now context changes noSync accepted rest ih =>
      have given : ∀ change ∈ changes, change.source = .billing → property change.next := by
        intro change member isBilling
        cases planned_of_ok accepted with
        | unchanged => cases member
        | opened isSync => exact absurd isSync noSync
        | closed isSync => exact absurd isSync noSync
        | granted | tried | revoked =>
            rw [List.mem_singleton.mp member] at isBilling
            cases isBilling
        | suspended =>
            obtain ⟨row, chosen, rfl⟩ := List.mem_map.mp member
            rw [one.eq (List.mem_of_mem_filter chosen) isBilling]
            exact suspends _ has
        | restored =>
            obtain ⟨row, chosen, rfl⟩ := List.mem_map.mp member
            rw [one.eq (List.mem_of_mem_filter chosen) isBilling]
            exact restores _ has
      obtain ⟨row, oneAfter, hasAfter⟩ := rowsAfter_keeps property one given has
      exact ih oneAfter hasAfter

end Rows

/-! ### Windows -/

/-- A row with its window over is not active. -/
theorem not_active_of_over {row : Entitlement} {expiresAt time : Instant}
    (ends : row.expiresAt = some expiresAt) (isOver : expiresAt ≤ time) :
    (evaluateAccess (some row) time).active = false := by
  unfold evaluateAccess
  simp only [ends, Option.any_some, decide_eq_true_eq]
  split_ifs
  all_goals rfl

/-- A row whose status is active is active exactly in its window. -/
theorem active_iff_window {row : Entitlement} {expiresAt : Instant} (isActive : row.status = .active)
    (ends : row.expiresAt = some expiresAt) (time : Instant) :
    (evaluateAccess (some row) time).active = true ↔ row.startsAt ≤ time ∧ time < expiresAt := by
  unfold evaluateAccess
  simp only [isActive, ends, Option.any_some, decide_eq_true_eq, reduceCtorEq, if_false]
  split_ifs with early isOver
  · simp only [false_iff]
    exact fun inside => absurd early (Int.not_lt.mpr inside.1)
  · simp only [false_iff]
    exact fun inside => absurd isOver (Int.not_le.mpr inside.2)
  · simp only [true_iff]
    exact ⟨Int.not_lt.mp early, Int.not_le.mp isOver⟩

/-- A closed row: its window is not empty, and over by now. -/
theorem closedSnapshot_window {current : Entitlement} {sync : SyncRequest} {now : Instant}
    {next : EntitlementSnapshot} (closed : closedSnapshot current sync now = .ok next) :
    ∃ expiresAt, next.expiresAt = some expiresAt ∧ next.startsAt < expiresAt ∧ expiresAt ≤ now := by
  unfold closedSnapshot toISOString at closed
  simp only at closed
  split at closed
  · rename_i startsAt expiresAt isStart isEnd
    split_ifs at isStart isEnd
    cases isStart
    cases isEnd
    cases closed
    have bounds : ∀ earlier start ends clock : Int,
        min (min earlier start) (clock - 1) <
            max (min (min earlier start) (clock - 1) + 1) (min ends clock) ∧
          max (min (min earlier start) (clock - 1) + 1) (min ends clock) ≤ clock := by
      intro earlier start ends clock
      omega
    exact ⟨_, rfl, bounds current.startsAt sync.startsAt sync.expiresAt now⟩
  · cases closed
  · cases closed

theorem planSync_inactive {rows : List Entitlement} {current : Entitlement} {input : MutationInput}
    {sync : SyncRequest} {now : Instant} {changes : List RowChange}
    (isCurrent : bySource rows .billing = some current) (asked : input.sync = some sync)
    (inactive : sync.active = false) (accepted : planSync rows input now = .ok changes) :
    ∃ next, closedSnapshot current sync now = .ok next ∧ changes = syncTo (some current) next := by
  unfold planSync at accepted
  split at accepted
  · rename_i isBilling isSync
    rw [asked] at isSync
    cases isSync
    split at accepted
    · cases accepted
    simp only [inactive, Bool.false_eq_true, if_false, isCurrent] at accepted
    split at accepted
    · cases accepted
    · rename_i next closed
      cases accepted
      exact ⟨next, closed, rfl⟩
  · cases accepted

/-- What a synchronisation that ends the access writes to the row that is there. -/
def closing (billing : Option Entitlement) (sync : SyncRequest) (now : Instant) :
    Except AccessFailure (List RowChange) :=
  billing.elim (.ok []) fun row => (closedSnapshot row sync now).map (syncTo (some row))

theorem planSync_closing {rows : List Entitlement} {input : MutationInput} {sync : SyncRequest}
    (isBilling : input.source = some .billing) (asked : input.sync = some sync)
    (inOrder : sync.startsAt < sync.expiresAt) (inactive : sync.active = false) (now : Instant) :
    planSync rows input now = closing (bySource rows .billing) sync now := by
  unfold planSync
  simp only [isBilling, asked, if_neg (Int.not_le.mpr inOrder), inactive, Bool.false_eq_true, if_false]
  cases bySource rows .billing with
  | none => rfl
  | some row =>
      rw [closing, Option.elim_some]
      dsimp only
      cases closedSnapshot row sync now with
      | error failure => rfl
      | ok next => rfl

/-- The row that an active synchronisation asks for: it is born suspended in a suspended account. -/
def syncedSnapshot (rows : List Entitlement) (sync : SyncRequest) : EntitlementSnapshot where
  status := if (rows.filter isSuspended).isEmpty then .active else .suspended
  startsAt := sync.startsAt
  expiresAt := some sync.expiresAt
  kind := sync.kind.toGrantKind
  planId := sync.planId

/-- A row with the period of a synchronisation for its window, active or suspended. -/
def PeriodOf (sync : SyncRequest) (entry : EntitlementSnapshot) : Prop :=
  entry.status ≠ .revoked ∧ entry.startsAt = sync.startsAt ∧ entry.expiresAt = some sync.expiresAt

theorem periodOf_syncedSnapshot (rows : List Entitlement) (sync : SyncRequest) :
    PeriodOf sync (syncedSnapshot rows sync) := by
  refine ⟨?_, rfl, rfl⟩
  simp only [syncedSnapshot]
  split
  · simp
  · simp

theorem planSync_active {rows : List Entitlement} {input : MutationInput} {sync : SyncRequest}
    {now : Instant} {changes : List RowChange} (asked : input.sync = some sync)
    (active : sync.active = true) (accepted : planSync rows input now = .ok changes) :
    changes = syncTo (bySource rows .billing) (syncedSnapshot rows sync) := by
  unfold planSync at accepted
  split at accepted
  · rename_i isBilling isSync
    rw [asked] at isSync
    cases isSync
    split at accepted
    · cases accepted
    cases accepted
    rfl
  · cases accepted

/-- An accepted inactive synchronisation leaves billing's row with a window that is over by now, for good;
    an accepted active one leaves it with the period for its window. -/
theorem sync_windows (rows : List Entitlement) (current : Entitlement) (input : MutationInput)
    (sync : SyncRequest) (now : Instant) (context : MutationContext) (changes : List RowChange)
    (one : OneBillingRow rows current) (isSync : input.action = .sync)
    (asked : input.sync = some sync)
    (accepted : planAccountMutation rows input now context = .ok changes) :
    (sync.active = false →
      ∃ row expiresAt, OneBillingRow (rowsAfter input now rows changes) row ∧
        row.expiresAt = some expiresAt ∧ row.startsAt < expiresAt ∧ row.status = current.status ∧
        ∀ rows', WithoutSync (rowsAfter input now rows changes) rows' →
          ∃ later, OneBillingRow rows' later ∧
            ∀ time, now ≤ time → (evaluateAccess (some later) time).active = false) ∧
    (sync.active = true →
      ∀ rows', WithoutSync (rowsAfter input now rows changes) rows' →
        ∃ row, OneBillingRow rows' row ∧
          (row.status ≠ .suspended → ∀ time,
            (evaluateAccess (some row) time).active = true ↔
              sync.startsAt ≤ time ∧ time < sync.expiresAt)) := by
  rw [planAccountMutation, isSync] at accepted
  simp only at accepted
  constructor
  · intro inactive
    obtain ⟨next, closed, rfl⟩ := planSync_inactive one.bySource asked inactive accepted
    obtain ⟨row, oneAfter, isNext⟩ : ∃ row, OneBillingRow
        (rowsAfter input now rows (syncTo (some current) next)) row ∧ snapshot row = next :=
      rowsAfter_syncTo one next
    obtain ⟨expiresAt, ends, order, isOver⟩ := closedSnapshot_window closed
    refine ⟨row, expiresAt, oneAfter, ?_, ?_, ?_, ?_⟩
    · rw [← ends, ← isNext]
      rfl
    · rw [← isNext] at order
      exact order
    · have status := status_closedSnapshot closed
      rw [← isNext] at status
      exact status
    · intro rows' later
      obtain ⟨row', oneLater, sameEnd⟩ := withoutSync_keeps
        (fun entry => entry.expiresAt = some expiresAt) (fun _ same => same) (fun _ same => same) later
        oneAfter (by rw [isNext]; exact ends)
      refine ⟨row', oneLater, ?_⟩
      intro time reached
      exact not_active_of_over sameEnd (Int.le_trans isOver reached)
  · intro active rows' later
    have isChanges := planSync_active asked active accepted
    rw [one.bySource] at isChanges
    obtain ⟨row, oneAfter, isNext⟩ : ∃ row, OneBillingRow
        (rowsAfter input now rows (syncTo (some current) (syncedSnapshot rows sync))) row ∧
          snapshot row = syncedSnapshot rows sync := rowsAfter_syncTo one _
    rw [isChanges] at later
    have starts : PeriodOf sync (snapshot row) := by
      rw [isNext]
      exact periodOf_syncedSnapshot rows sync
    obtain ⟨row', oneLater, unrevoked, sameStart, sameEnd⟩ := withoutSync_keeps (PeriodOf sync)
      (fun _ same => ⟨by simp, same.2⟩) (fun _ same => ⟨by simp, same.2⟩) later oneAfter starts
    refine ⟨row', oneLater, ?_⟩
    intro notSuspended time
    have isActive : row'.status = .active := by
      change row'.status ≠ .revoked at unrevoked
      cases status : row'.status with
      | active => rfl
      | suspended => exact absurd status notSuspended
      | revoked => exact absurd status unrevoked
    have window := active_iff_window isActive sameEnd time
    change row'.startsAt = sync.startsAt at sameStart
    rw [sameStart] at window
    exact window

/-- A month's row, paid for from instant 0 on. -/
def paidRow : Entitlement where
  userId := "00000000-0000-0000-0000-000000000001"
  status := .active
  startsAt := 0
  expiresAt := some 2592000000
  grantedVia := .billing
  kind := .subscription
  planId := none
  createdAt := 0
  updatedAt := 0

/-- The provider says that the month is not entitled any more. -/
def cancellation : MutationInput where
  userId := "00000000-0000-0000-0000-000000000001"
  action := .sync
  actor := "billing"
  reason := "subscription.deleted"
  source := some .billing
  sync := some ⟨false, 0, 2592000000, .subscription, none⟩

/-- Cancelled at its very first instant: the start is moved back, and nothing is left from now on. -/
theorem sync_windows_cancelledAtOnce :
    OneBillingRow [paidRow] paidRow ∧
      planAccountMutation [paidRow] cancellation 0 {} =
        .ok [⟨.billing, some paidRow, .sync, ⟨.active, -1, some 0, .subscription, none⟩⟩] ∧
      ∃ row expiresAt, OneBillingRow (rowsAfter cancellation 0 [paidRow]
          [⟨.billing, some paidRow, .sync, ⟨.active, -1, some 0, .subscription, none⟩⟩]) row ∧
        row.expiresAt = some expiresAt ∧ row.startsAt < expiresAt ∧ row.status = .active := by
  have one : OneBillingRow [paidRow] paidRow := rfl
  have accepted : planAccountMutation [paidRow] cancellation 0 {} =
      .ok [⟨.billing, some paidRow, .sync, ⟨.active, -1, some 0, .subscription, none⟩⟩] := by decide
  obtain ⟨row, expiresAt, oneAfter, ends, order, status, _⟩ :=
    (sync_windows [paidRow] paidRow cancellation ⟨false, 0, 2592000000, .subscription, none⟩ 0 {} _ one
      rfl rfl accepted).1 rfl
  exact ⟨one, accepted, row, expiresAt, oneAfter, ends, order, status⟩

end JumptotechLabs.Access
