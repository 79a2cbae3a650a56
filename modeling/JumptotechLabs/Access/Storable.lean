/-
Module: JumptotechLabs.Access.Storable
Layer: Access (apps/api/src/access/entitlements.ts, postgres-store.ts)
Purpose: Which calls the database's columns take. A mutation whose texts, plan, kind and times fit them is
  never refused by a constraint: every row it is planned from fits, so every row it writes does.
Main exports: storable, snapshotAllowed, allowed_of_plan, writeChanges_ok
-/
import JumptotechLabs.Access.Refinement

namespace JumptotechLabs.Access

open JumptotechLabs.Core

/-! ### Calls -/

/-- What the CHECK constraints ask of a grant. -/
def grantStorable (grant : GrantRequest) : Bool :=
  grant.startsAt.all stampAllowed && grant.expiresAt.all stampAllowed &&
    grant.kind != some .subscription && planIdAllowed (grant.planId.getD none)

def trialStorable (now : Instant) (trial : TrialRequest) : Bool :=
  decide (0 < trial.durationDays) && stampAllowed (now + trial.durationDays * 86400000) &&
    planIdAllowed trial.planId

def syncStorable (sync : SyncRequest) : Bool :=
  stampAllowed sync.startsAt && stampAllowed sync.expiresAt && planIdAllowed sync.planId

/-- What they ask of the actor and the reason. -/
def labelsStorable (input : MutationInput) : Bool :=
  decide (1 ≤ input.actor.length ∧ input.actor.length ≤ 64) &&
    decide (1 ≤ input.reason.length ∧ input.reason.length ≤ 500) &&
    !hasNul input.actor && !hasNul input.reason

/-- The call is one the database's columns take, if its plan is accepted at all. -/
def storable (call : AccessCall) : Bool :=
  isUuid call.input.userId && labelsStorable call.input && stampAllowed (call.now - 1) &&
    stampAllowed call.now && call.input.grant.all grantStorable &&
    call.input.trial.all (trialStorable call.now) && call.input.sync.all syncStorable

/-! ### Rows -/

/-- What the CHECK constraints ask of a row, apart from the time it is written at. -/
structure Fitting (source : GrantedVia) (next : EntitlementSnapshot) : Prop where
  window : ∀ expiresAt, next.expiresAt = some expiresAt → next.startsAt < expiresAt
  starts : stampAllowed next.startsAt = true
  ends : ∀ expiresAt, next.expiresAt = some expiresAt → stampAllowed expiresAt = true
  operatorKind : source = .operator → next.kind ≠ .subscription
  billingKind : source = .billing → next.kind = .subscription ∨ next.kind = .trial
  plan : planIdAllowed next.planId = true

theorem rowAllowed_iff (row : Entitlement) :
    rowAllowed row = true ↔
      Fitting row.grantedVia (snapshot row) ∧ stampAllowed row.updatedAt = true := by
  have all_iff : ∀ test : Instant → Bool,
      row.expiresAt.all test = true ↔ ∀ expiresAt, row.expiresAt = some expiresAt →
        test expiresAt = true := by
    intro test
    exact Option.all_eq_true test row.expiresAt
  simp only [rowAllowed, Bool.and_eq_true, all_iff, decide_eq_true_eq]
  constructor
  · intro allowed
    obtain ⟨⟨⟨⟨⟨window, starts⟩, ends⟩, updated⟩, kind⟩, plan⟩ := allowed
    refine ⟨⟨window, starts, ends, ?_, ?_, plan⟩, updated⟩
    · intro isOperator
      rw [isOperator] at kind
      exact bne_iff_ne.mp kind
    · intro isBilling
      rw [isBilling] at kind
      simpa [snapshot] using kind
  · intro fitting
    obtain ⟨⟨window, starts, ends, operatorKind, billingKind, plan⟩, updated⟩ := fitting
    refine ⟨⟨⟨⟨⟨window, starts⟩, ends⟩, updated⟩, ?_⟩, plan⟩
    cases source : row.grantedVia with
    | operator => exact bne_iff_ne.mpr (operatorKind source)
    | billing => simpa [snapshot] using billingKind source

/-- The status is not asked about. -/
theorem Fitting.restatus {source : GrantedVia} {next : EntitlementSnapshot}
    (fitting : Fitting source next) (status : EntitlementStatus) :
    Fitting source { next with status := status } :=
  ⟨fitting.window, fitting.starts, fitting.ends, fitting.operatorKind, fitting.billingKind,
    fitting.plan⟩

/-- A change the tables take: to a row that fits, from one that did. -/
structure FittingChange (change : RowChange) : Prop where
  next : Fitting change.source change.next
  before : planIdAllowed (change.before.bind Entitlement.planId) = true

theorem stampAllowed_iff (time : Instant) :
    stampAllowed time = true ↔ (-62135596800000 : Int) ≤ time ∧ time < (253402300800000 : Int) := by
  rw [stampAllowed, Bool.and_eq_true, decide_eq_true_eq, decide_eq_true_eq]

theorem planTrial_fitting {current : Option Entitlement} {now : Instant} {action : AccessAction}
    {next : EntitlementSnapshot} {trial : Option TrialRequest} {context : MutationContext}
    (storable : trial.all (trialStorable now) = true) (clock : stampAllowed now = true)
    (planned : planTrial current now trial context = .ok (.write action next)) :
    Fitting .operator next := by
  unfold planTrial at planned
  split at planned
  · cases planned
  rename_i trial
  split at planned
  · cases planned
  split at planned
  · cases planned
  split at planned
  · cases planned
  unfold toISOString at planned
  split at planned
  · cases planned
  rename_i expiresAt isInstant
  split at isInstant
  · cases isInstant
    cases planned
    simp only [Option.all_some, trialStorable, Bool.and_eq_true, decide_eq_true_eq] at storable
    obtain ⟨⟨positive, ends⟩, plan⟩ := storable
    have window : now < now + trial.durationDays * 86400000 := by
      apply Int.lt_add_of_pos_right
      exact Int.mul_pos positive (by decide)
    constructor
    · intro expiresAt isEnd
      cases isEnd
      exact window
    · exact clock
    · intro expiresAt isEnd
      cases isEnd
      exact ends
    · exact fun _ => GrantKind.noConfusion
    · exact fun impossible => GrantedVia.noConfusion impossible
    · exact plan
  · cases isInstant

theorem planGrant_fitting {current : Option Entitlement} {now : Instant} {action : AccessAction}
    {next : EntitlementSnapshot} {grant : Option GrantRequest}
    (storable : grant.all grantStorable = true) (clock : stampAllowed now = true)
    (fitting : ∀ row, current = some row → Fitting .operator (snapshot row))
    (planned : planGrant current now grant = .ok (.write action next)) :
    Fitting .operator next := by
  unfold planGrant at planned
  split at planned
  · cases planned
  rename_i grant
  split at planned
  · cases planned
  split at planned
  · cases planned
  split at planned
  · cases planned
  simp only at planned
  split at planned
  · cases planned
  rename_i endsLater
  split at planned
  · cases planned
  split at planned
  · cases planned
  cases planned
  simp only [Option.all_some, grantStorable, Bool.and_eq_true] at storable
  obtain ⟨⟨⟨startStorable, endStorable⟩, kindStorable⟩, planStorable⟩ := storable
  -- What the request leaves out is the current row's, or the clock's.
  constructor
  · intro expiresAt isEnd
    have given : grant.expiresAt = some expiresAt := isEnd
    rw [given, Option.any_some, decide_eq_true_eq] at endsLater
    exact Int.not_le.mp endsLater
  · cases given : grant.startsAt with
    | some startsAt =>
        rw [given] at startStorable
        simpa [grantedSnapshot, given] using startStorable
    | none =>
        cases current with
        | none => simpa [grantedSnapshot, given] using clock
        | some row =>
            simp only [grantedSnapshot, given, Option.getD_none]
            split
            · exact (fitting row rfl).starts
            · exact clock
  · intro expiresAt isEnd
    have given : grant.expiresAt = some expiresAt := isEnd
    rw [given] at endStorable
    exact endStorable
  · intro _
    cases given : grant.kind with
    | some kind =>
        rw [given, bne_iff_ne] at kindStorable
        intro isKind
        apply kindStorable
        simpa [grantedSnapshot, given] using isKind
    | none =>
        cases current with
        | none => simp [grantedSnapshot, given]
        | some row =>
            simp only [grantedSnapshot, given, Option.getD_none]
            split
            · exact (fitting row rfl).operatorKind rfl
            · exact GrantKind.noConfusion
  · exact fun impossible => GrantedVia.noConfusion impossible
  · cases given : grant.planId with
    | some planId =>
        rw [given] at planStorable
        simpa [grantedSnapshot, given] using planStorable
    | none =>
        cases current with
        | none => simp [grantedSnapshot, given, planIdAllowed]
        | some row => simpa [grantedSnapshot, given, snapshot] using (fitting row rfl).plan

/-- A closed window stays between the bounds its parts were between. -/
theorem closed_between {low high current starts ends now : Int} (isCurrent : low ≤ current)
    (isStart : low ≤ starts) (isEnd : low ≤ ends) (isNow : low ≤ now - 1 ∧ now < high) :
    (low ≤ min (min current starts) (now - 1) ∧ min (min current starts) (now - 1) < high) ∧
      low ≤ max (min (min current starts) (now - 1) + 1) (min ends now) ∧
        max (min (min current starts) (now - 1) + 1) (min ends now) < high := by
  omega

theorem closedSnapshot_fitting {current : Entitlement} {sync : SyncRequest} {now : Instant}
    {next : EntitlementSnapshot} (storable : syncStorable sync = true)
    (clock : stampAllowed (now - 1) = true ∧ stampAllowed now = true)
    (fitting : Fitting .billing (snapshot current))
    (closed : closedSnapshot current sync now = .ok next) : Fitting .billing next := by
  simp only [syncStorable, Bool.and_eq_true, stampAllowed_iff] at storable
  obtain ⟨⟨syncStart, syncEnd⟩, syncPlan⟩ := storable
  simp only [stampAllowed_iff] at clock
  have currentStart := (stampAllowed_iff _).mp fitting.starts
  have between := closed_between currentStart.1 syncStart.1 syncEnd.1 ⟨clock.1.1, clock.2.2⟩
  simp only [closedSnapshot, toISOString] at closed
  split at closed
  · rename_i startsAt expiresAt isStartsAt isExpiresAt
    split at isStartsAt
    · cases isStartsAt
      split at isExpiresAt
      · cases isExpiresAt
        cases closed
        constructor
        · intro expiresAt isEnd
          cases isEnd
          exact Int.lt_of_lt_of_le (Int.lt_succ _) (Int.le_max_left _ _)
        · exact (stampAllowed_iff _).mpr between.1
        · intro expiresAt isEnd
          cases isEnd
          exact (stampAllowed_iff _).mpr between.2
        · exact fun impossible => GrantedVia.noConfusion impossible
        · intro _
          cases sync.kind with
          | subscription => exact .inl rfl
          | trial => exact .inr rfl
        · exact syncPlan
      · cases isExpiresAt
    · cases isStartsAt
  · cases closed
  · cases closed

/-! ### Whole plans -/

section Account

variable {rows : List Entitlement} {input : MutationInput} {now : Instant}
  {context : MutationContext} {changes : List RowChange}

/-- Every row the plan is made from fits. -/
def RowsFit (rows : List Entitlement) : Prop := ∀ row ∈ rows, rowAllowed row = true

theorem RowsFit.fitting (rowsFit : RowsFit rows) {row : Entitlement} (member : row ∈ rows) :
    Fitting row.grantedVia (snapshot row) :=
  ((rowAllowed_iff row).mp (rowsFit row member)).1

theorem RowsFit.bySource (rowsFit : RowsFit rows) {source : GrantedVia} {row : Entitlement}
    (found : bySource rows source = some row) : Fitting source (snapshot row) := by
  have fitting := rowsFit.fitting (List.mem_of_find?_eq_some found)
  have isSource : row.grantedVia = source := by simpa using List.find?_some found
  rw [isSource] at fitting
  exact fitting

theorem RowsFit.before (rowsFit : RowsFit rows) (source : GrantedVia) :
    planIdAllowed ((Access.bySource rows source).bind Entitlement.planId) = true := by
  cases found : Access.bySource rows source with
  | none => rfl
  | some row => exact (rowsFit.bySource found).plan

theorem operatorChange_fitting (rowsFit : RowsFit rows) {plan : MutationPlan}
    (fitting : ∀ action next, plan = .write action next → Fitting .operator next) :
    ∀ change ∈ operatorChange (bySource rows .operator) plan, FittingChange change := by
  intro change member
  cases plan with
  | unchanged action => cases member
  | write action next =>
      rw [List.mem_singleton.mp member]
      exact ⟨fitting action next rfl, rowsFit.before .operator⟩

theorem restatus_fitting (rowsFit : RowsFit rows) (action : AccessAction)
    (status : EntitlementStatus) (chosen : Entitlement → Bool) :
    ∀ change ∈ restatus action status (rows.filter chosen), FittingChange change := by
  intro change member
  obtain ⟨row, inRows, rfl⟩ := List.mem_map.mp member
  have fitting := rowsFit.fitting (List.mem_of_mem_filter inRows)
  exact ⟨fitting.restatus status, fitting.plan⟩

theorem syncTo_fitting (rowsFit : RowsFit rows) {next : EntitlementSnapshot}
    (fitting : Fitting .billing next) :
    ∀ change ∈ syncTo (bySource rows .billing) next, FittingChange change := by
  intro change member
  unfold syncTo at member
  split at member
  · cases member
  · rw [List.mem_singleton.mp member]
    exact ⟨fitting, rowsFit.before .billing⟩

theorem planSync_fitting (rowsFit : RowsFit rows) (storable : input.sync.all syncStorable = true)
    (clock : stampAllowed (now - 1) = true ∧ stampAllowed now = true)
    (planned : planSync rows input now = .ok changes) :
    ∀ change ∈ changes, FittingChange change := by
  unfold planSync at planned
  split at planned
  · rename_i sync _ isSync
    rw [isSync, Option.all_some] at storable
    split at planned
    · cases planned
    rename_i window
    simp only at planned
    split at planned
    · cases planned
      apply syncTo_fitting rowsFit
      simp only [syncStorable, Bool.and_eq_true] at storable
      constructor
      · intro expiresAt isEnd
        cases isEnd
        exact Int.not_le.mp window
      · exact storable.1.1
      · intro expiresAt isEnd
        cases isEnd
        exact storable.1.2
      · exact fun impossible => GrantedVia.noConfusion impossible
      · intro _
        cases sync.kind with
        | subscription => exact .inl rfl
        | trial => exact .inr rfl
      · exact storable.2
    split at planned
    · cases planned
      intro change impossible
      cases impossible
    rename_i current isCurrent
    split at planned
    · cases planned
    rename_i next closed
    cases planned
    rw [← isCurrent]
    apply syncTo_fitting rowsFit
    exact closedSnapshot_fitting storable clock (rowsFit.bySource isCurrent) closed
  · cases planned

theorem planGrantOrTrial_fitting (rowsFit : RowsFit rows)
    (isGrantOrTrial : input.action = .grant ∨ input.action = .trial)
    (grants : input.grant.all grantStorable = true)
    (trials : input.trial.all (trialStorable now) = true) (clock : stampAllowed now = true)
    (planned : planGrantOrTrial rows input now context = .ok changes) :
    ∀ change ∈ changes, FittingChange change := by
  unfold planGrantOrTrial at planned
  split at planned
  · cases planned
  split at planned
  · cases planned
  simp only at planned
  split at planned
  · cases planned
  rename_i plan isPlan
  cases planned
  apply operatorChange_fitting rowsFit
  intro action next isWrite
  rw [isWrite] at isPlan
  rcases isGrantOrTrial with isGrant | isTrial
  · rw [isGrant] at isPlan
    exact planGrant_fitting grants clock (fun row found => rowsFit.bySource found) isPlan
  · rw [isTrial] at isPlan
    exact planTrial_fitting trials clock isPlan

theorem planRevoke_fitting (rowsFit : RowsFit rows) (planned : planRevoke rows now = .ok changes) :
    ∀ change ∈ changes, FittingChange change := by
  unfold planRevoke at planned
  simp only at planned
  split at planned
  · cases planned
  split at planned
  · cases planned
  rename_i plan isPlan
  cases planned
  apply operatorChange_fitting rowsFit
  intro action next isWrite
  rw [isWrite] at isPlan
  unfold planMutation at isPlan
  simp only at isPlan
  split at isPlan
  · cases isPlan
  rename_i current isCurrent
  split at isPlan
  · cases isPlan
  · cases isPlan
    exact (rowsFit.bySource isCurrent).restatus .revoked

/-- Whatever is planned for a storable call, from rows that fit, fits. -/
theorem fitting_of_plan {call : AccessCall} (isStorable : storable call = true)
    (rowsFit : RowsFit rows)
    (planned : planAccountMutation rows call.input call.now context = .ok changes) :
    ∀ change ∈ changes, FittingChange change := by
  simp only [storable, Bool.and_eq_true] at isStorable
  obtain ⟨⟨⟨⟨⟨_, earlier⟩, clock⟩, grants⟩, trials⟩, syncs⟩ := isStorable
  unfold planAccountMutation at planned
  split at planned
  · exact planSync_fitting rowsFit syncs ⟨earlier, clock⟩ planned
  · rename_i isGrant
    exact planGrantOrTrial_fitting rowsFit (.inl isGrant) grants trials clock
      (ok_of_operatorOnly planned)
  · rename_i isTrial
    exact planGrantOrTrial_fitting rowsFit (.inr isTrial) grants trials clock
      (ok_of_operatorOnly planned)
  · exact planRevoke_fitting rowsFit (ok_of_operatorOnly planned)
  · have suspends := ok_of_operatorOnly planned
    unfold planSuspend at suspends
    split at suspends
    · cases suspends
    split at suspends
    · split at suspends
      · cases suspends
      · cases suspends
        intro change impossible
        cases impossible
    · cases suspends
      exact restatus_fitting rowsFit _ _ _
  · have restores := ok_of_operatorOnly planned
    unfold planRestore at restores
    split at restores
    · cases restores
    split at restores
    · split at restores
      · cases restores
        intro change impossible
        cases impossible
      · cases restores
    · cases restores
      exact restatus_fitting rowsFit _ _ _

/-! ### The tables -/

theorem rowAllowed_written {userId : String} {change : RowChange} (fitting : FittingChange change)
    (clock : stampAllowed now = true) : rowAllowed (written userId now change) = true :=
  (rowAllowed_iff _).mpr ⟨fitting.next, clock⟩

theorem eventAllowed_recorded {eventId : Nat} {change : RowChange} (fitting : FittingChange change)
    (labels : labelsStorable input = true) :
    eventAllowed (recorded eventId input now change) = true := by
  have before : planIdAllowed ((change.before.map snapshot).bind EntitlementSnapshot.planId) =
      true := by
    have kept := fitting.before
    cases isBefore : change.before with
    | none => rfl
    | some row =>
        rw [isBefore] at kept
        exact kept
  rw [eventAllowed, Bool.and_eq_true, Bool.and_eq_true]
  exact ⟨⟨labels, before⟩, fitting.next.plan⟩

theorem writeChange_ok {change : RowChange} (labels : labelsStorable input = true)
    (clock : stampAllowed now = true) (fitting : FittingChange change)
    (store : PostgresAccessStore) :
    ∃ event next, store.writeChange input now change = (.ok event, next) := by
  have row : rowAllowed (written input.userId now change) = true := rowAllowed_written fitting clock
  have event : eventAllowed (recorded store.nextEventId input now change) = true :=
    eventAllowed_recorded fitting labels
  unfold PostgresAccessStore.writeChange
  simp only
  split
  · -- `created_at` is not asked about.
    rename_i refused
    rw [Bool.not_eq_true'] at refused
    have allowed := row.symm.trans refused
    cases allowed
  split
  · rename_i refused
    rw [event] at refused
    cases refused
  · exact ⟨_, _, rfl⟩

/-- The constraints refuse nothing of it. -/
theorem writeChanges_ok (labels : labelsStorable input = true) (clock : stampAllowed now = true)
    (fitting : ∀ change ∈ changes, FittingChange change) (store : PostgresAccessStore) :
    ∃ events after, PostgresAccessStore.writeChanges input now store changes = (.ok events, after) := by
  induction changes generalizing store with
  | nil => exact ⟨[], store, rfl⟩
  | cons change changes ih =>
      obtain ⟨event, next, wrote⟩ :=
        writeChange_ok labels clock (fitting change List.mem_cons_self) store
      obtain ⟨events, after, rest⟩ :=
        ih (fun other member => fitting other (List.mem_cons_of_mem _ member)) next
      refine ⟨event :: events, after, ?_⟩
      simp only [PostgresAccessStore.writeChanges, wrote, rest]

end Account

end JumptotechLabs.Access
