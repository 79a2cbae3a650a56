/-
Module: JumptotechLabs.Access.Trials
Layer: Access (apps/api/src/access/entitlements.ts, postgres-store.ts)
Purpose: One trial per account, ever. A trial is given only while the history knows of none, and a live
  trial of the operator's row goes back, change by change, to the one that was given.
Main exports: Lineage, isTrialOf, TrialLine, Tried, tried_of_run, one_trial_per_account
-/
import JumptotechLabs.Access.History

namespace JumptotechLabs.Access

open JumptotechLabs.Core

/-! ### One change -/

/-- The row a change writes is a trial that is not revoked. -/
def leavesTrial (change : RowChange) : Bool :=
  change.next.kind == .trial && change.next.status != .revoked

/-- The operator's row is left a live trial only by a trial, or by a change of one. -/
def Lineage (change : RowChange) : Prop :=
  change.source = .operator → leavesTrial change = true → change.action ≠ .trial →
    change.before.any isLiveTrial = true ∧
      (change.action = .grant ∨ change.action = .suspend ∨ change.action = .restore)

section Planning

variable {rows : List Entitlement} {input : MutationInput} {context : MutationContext}
  {changes : List RowChange}

theorem lineage_restatus {action : AccessAction} {status : EntitlementStatus}
    {chosen : Entitlement → Bool} (isAction : action = .suspend ∨ action = .restore)
    (unrevoked : ∀ row, chosen row = true → row.status ≠ .revoked) :
    ∀ change ∈ restatus action status (rows.filter chosen), Lineage change := by
  intro change member _ isTrial _
  obtain ⟨row, inRows, rfl⟩ := List.mem_map.mp member
  have live : isLiveTrial row = true := by
    rw [leavesTrial, Bool.and_eq_true] at isTrial
    rw [isLiveTrial, Bool.and_eq_true, bne_iff_ne]
    exact ⟨isTrial.1, unrevoked row (List.mem_filter.mp inRows).2⟩
  exact ⟨live, .inr isAction⟩

theorem lineage_of_planned (planned : Planned rows input context changes) :
    ∀ change ∈ changes, Lineage change := by
  cases planned with
  | unchanged =>
      intro change member
      cases member
  | opened | closed =>
      intro change member isOperator
      rw [List.mem_singleton.mp member] at isOperator
      cases isOperator
  | granted isGrant clear free status trial =>
      intro change member _ isTrial _
      rw [List.mem_singleton.mp member] at isTrial ⊢
      rw [leavesTrial, Bool.and_eq_true, beq_iff_eq] at isTrial
      exact ⟨trial isTrial.1, .inl rfl⟩
  | tried =>
      intro change member _ _ noTrial
      rw [List.mem_singleton.mp member] at noTrial
      exact absurd rfl noTrial
  | revoked =>
      intro change member _ isTrial
      rw [List.mem_singleton.mp member, leavesTrial, Bool.and_eq_true, bne_iff_ne] at isTrial
      exact absurd rfl isTrial.2
  | suspended =>
      apply lineage_restatus (.inl rfl)
      intro row isActive isRevoked
      rw [Access.isActive, isRevoked] at isActive
      cases isActive
  | restored =>
      apply lineage_restatus (.inr rfl)
      intro row isSuspended isRevoked
      rw [Access.isSuspended, isRevoked] at isSuspended
      cases isSuspended

end Planning

/-! ### The ledger -/

/-- An event of a trial that was given to the account. -/
def isTrialOf (userId : String) (event : AccessEvent) : Bool :=
  event.userId == userId && event.action == .trial

/-- The events say how the account came to a live trial: by one trial, and changes of it since. -/
def TrialLine (userId : String) (events : List AccessEvent) : Prop :=
  ∃ (earlier : List AccessEvent) (trial : AccessEvent) (later : List AccessEvent),
    eventsOf userId .operator events = earlier ++ trial :: later ∧ trial.action = .trial ∧
    (∀ event ∈ earlier, event.action ≠ .trial) ∧ ∀ event ∈ later,
      (event.action = .grant ∨ event.action = .suspend ∨ event.action = .restore) ∧
        event.after.kind = .trial ∧ event.after.status ≠ .revoked

/-- What holds of an account's trials: each is marked in its event, there is one at most, and a live
    trial has its line. -/
structure Tried (userId : String) (ledger : Ledger) : Prop where
  marked : ∀ event ∈ ledger.events, isTrialOf userId event = true → event.after.kind = .trial
  once : ledger.events.countP (isTrialOf userId) ≤ 1
  line : ∀ entry, ledger.row userId .operator = some entry → isLiveTrial entry = true →
    TrialLine userId ledger.events

section Ledger

variable {ledger after : Ledger} {input : MutationInput} {now : Instant} {userId : String}
  {eventId : Nat} {change : RowChange}

/-- An account that had no trial has no event of one. -/
theorem no_trial_event (marked : ∀ event ∈ ledger.events, isTrialOf userId event = true →
      event.after.kind = .trial) (never : ledger.hadTrial userId = false) :
    ∀ event ∈ ledger.events, ¬ isTrialOf userId event = true := by
  intro event member isTrial
  have kind := marked event member isTrial
  rw [isTrialOf, Bool.and_eq_true] at isTrial
  have had : ledger.hadTrial userId = true :=
    List.any_eq_true.mpr ⟨event, member, by rw [Bool.and_eq_true, kind]; exact ⟨isTrial.1, rfl⟩⟩
  rw [never] at had
  cases had

theorem isTrialOf_recorded (noTrial : change.action ≠ .trial) :
    isTrialOf userId (recorded eventId input now change) = false := by
  rw [isTrialOf, Bool.and_eq_false_iff]
  exact .inr (beq_false_of_ne noTrial)

/-- An event that is no trial of the account keeps the marks and the count. -/
theorem Tried.counts (tried : Tried userId ledger)
    (other : isTrialOf userId (recorded eventId input now change) = false) :
    (∀ event ∈ (ledger.record eventId input now change).events, isTrialOf userId event = true →
        event.after.kind = .trial) ∧
      (ledger.record eventId input now change).events.countP (isTrialOf userId) ≤ 1 := by
  constructor
  · intro event member isTrial
    rcases List.mem_append.mp member with old | new
    · exact tried.marked event old isTrial
    · rw [List.mem_singleton.mp new, other] at isTrial
      cases isTrial
  · rw [Ledger.record, List.countP_append, List.countP_singleton, other]
    exact tried.once

/-- A change elsewhere keeps the line. -/
theorem Tried.record_elsewhere (tried : Tried userId ledger)
    (other : isTrialOf userId (recorded eventId input now change) = false)
    (elsewhere : ¬ (userId = input.userId ∧ GrantedVia.operator = change.source)) :
    Tried userId (ledger.record eventId input now change) := by
  obtain ⟨marked, once⟩ := tried.counts other
  refine ⟨marked, once, ?_⟩
  intro entry found live
  simp only [Ledger.record, if_neg elsewhere] at found
  obtain ⟨earlier, trial, later, split, rest⟩ := tried.line entry found live
  refine ⟨earlier, trial, later, ?_, rest⟩
  simp only [Ledger.record, eventsOf_append, eventsOf_recorded, if_neg elsewhere, List.append_nil,
    split]

/-- A change that is no trial: if it leaves the operator's row a live trial, it continues a line. -/
theorem Tried.record (tried : Tried userId ledger) (lineage : Lineage change)
    (before : change.before = ledger.row input.userId change.source)
    (noTrial : change.action ≠ .trial) : Tried userId (ledger.record eventId input now change) := by
  by_cases here : userId = input.userId ∧ GrantedVia.operator = change.source
  · obtain ⟨marked, once⟩ := tried.counts (isTrialOf_recorded noTrial)
    refine ⟨marked, once, ?_⟩
    intro entry found live
    simp only [Ledger.record, here, and_self, if_true, Option.some.injEq] at found
    have leaves : leavesTrial change = true := by
      rw [← found] at live
      exact live
    obtain ⟨wasLive, isAction⟩ := lineage here.2.symm leaves noTrial
    rw [before, ← here.1, ← here.2, Option.any_eq_true_iff_get] at wasLive
    obtain ⟨isSome, currentLive⟩ := wasLive
    obtain ⟨earlier, trial, later, split, isTrial, none, since⟩ :=
      tried.line _ (Option.some_get isSome).symm currentLive
    rw [leavesTrial, Bool.and_eq_true, beq_iff_eq, bne_iff_ne] at leaves
    refine ⟨earlier, trial, later ++ [recorded eventId input now change], ?_, isTrial, none, ?_⟩
    · simp only [Ledger.record, eventsOf_append, eventsOf_recorded, if_pos here, split,
        List.append_assoc, List.cons_append]
    · intro event member
      rcases List.mem_append.mp member with old | new
      · exact since event old
      · rw [List.mem_singleton.mp new]
        exact ⟨isAction, leaves⟩
  · exact tried.record_elsewhere (isTrialOf_recorded noTrial) here

/-- The trial itself, on an account that had none. -/
theorem Tried.record_trial (tried : Tried userId ledger)
    (never : ledger.hadTrial input.userId = false) (isTrial : change.action = .trial)
    (kind : change.next.kind = .trial) (isOperator : change.source = .operator) :
    Tried userId (ledger.record eventId input now change) := by
  by_cases here : userId = input.userId
  · subst here
    have none := no_trial_event tried.marked never
    constructor
    · intro event member isTrial
      rcases List.mem_append.mp member with old | new
      · exact absurd isTrial (none event old)
      · rw [List.mem_singleton.mp new]
        exact kind
    · rw [Ledger.record, List.countP_append, List.countP_singleton,
        List.countP_eq_zero.mpr none]
      split <;> omega
    · intro entry found live
      refine ⟨eventsOf input.userId .operator ledger.events, recorded eventId input now change, [],
        ?_, isTrial, ?_, ?_⟩
      · rw [Ledger.record, eventsOf_append, eventsOf_recorded, if_pos ⟨rfl, isOperator.symm⟩]
      · intro event member isAction
        obtain ⟨inEvents, isUser⟩ := List.mem_filter.mp member
        rw [Bool.and_eq_true] at isUser
        apply none event inEvents
        rw [isTrialOf, Bool.and_eq_true]
        exact ⟨isUser.1, beq_iff_eq.mpr isAction⟩
      · intro event impossible
        cases impossible
  · apply tried.record_elsewhere
    · rw [isTrialOf, Bool.and_eq_false_iff]
      exact .inl (beq_false_of_ne fun same => here same.symm)
    · exact fun same => here same.1

/-- A mutation that gives a trial was planned as one, on an account that had none; it records one event,
    the trial's. -/
theorem trial_of_step {call : AccessCall} {result : MutationResult}
    (step : LedgerStep call (.ok result) ledger after) (isTrial : call.input.action = .trial) :
    ledger.hadTrial call.input.userId = false ∧
      ∃ eventId change, change.action = .trial ∧ change.next.kind = .trial ∧
        change.source = .operator ∧ after = ledger.record eventId call.input call.now change := by
  cases step with
  | accepted both planned changed writes told =>
      cases planned with
      | unchanged noTrial => exact absurd isTrial noTrial
      | opened isAction | closed isAction | granted isAction | revoked isAction
      | suspended isAction | restored isAction =>
          rw [isAction] at isTrial
          cases isTrial
      | tried isAction clear free status kind first =>
          cases writes with
          | cons eventId rest =>
              cases rest
              exact ⟨first, eventId, _, rfl, kind, rfl, rfl⟩

theorem tried_step {call : AccessCall} {reply : AccessReply}
    (step : LedgerStep call reply ledger after) (tried : Tried userId ledger) :
    Tried userId after := by
  cases reply with
  | error failure =>
      cases step
      exact tried
  | ok result =>
      by_cases isTrial : call.input.action = .trial
      · obtain ⟨never, eventId, change, isAction, kind, isOperator, rfl⟩ := trial_of_step step isTrial
        exact tried.record_trial never isAction kind isOperator
      · cases step with
        | accepted both planned changed writes told =>
            apply writes.keeps (Tried userId) _ (fits_of_planned both planned) tried
            intro ledger eventId change member before tried
            apply tried.record (lineage_of_planned planned change member) before
            rw [action_of_planned planned change member]
            exact isTrial

theorem tried_of_run {transcript : List (AccessCall × AccessReply)}
    (run : LedgerRun transcript Ledger.empty ledger) (userId : String) : Tried userId ledger := by
  apply run.keeps (Tried userId)
  · intro call reply ledger after _ step tried
    exact tried_step step tried
  · constructor
    · intro event impossible
      cases impossible
    · exact Nat.zero_le 1
    · intro entry impossible
      cases impossible

/-! ### Trials that were given -/

/-- The call was a trial of the account, and it returned. -/
def gaveTrial (userId : String) (told : AccessCall × AccessReply) : Bool :=
  told.1.input.userId == userId && told.1.input.action == .trial && told.2.toBool

/-- Each of them is in the trail. -/
theorem LedgerRun.trials_le {transcript : List (AccessCall × AccessReply)}
    (run : LedgerRun transcript ledger after) (userId : String) :
    transcript.countP (gaveTrial userId) ≤ (trail transcript).countP (isTrialOf userId) := by
  induction run with
  | nil => exact Nat.le_refl 0
  | @cons call reply rest ledger middle after step run ih =>
      rw [List.countP_cons, trail, List.flatMap_cons, List.countP_append]
      split
      · rename_i gave
        simp only [gaveTrial, Bool.and_eq_true, beq_iff_eq] at gave
        cases reply with
        | error failure => cases gave.2
        | ok result =>
            obtain ⟨_, eventId, change, isAction, _, _, isMiddle⟩ := trial_of_step step gave.1.2
            have told : toldBy call (.ok result) = [recorded eventId call.input call.now change] := by
              cases step with
              | accepted both planned changed writes told =>
                  rw [isMiddle, Ledger.record] at told
                  exact (List.append_cancel_left told).symm
            have counted : isTrialOf userId (recorded eventId call.input call.now change) = true := by
              simp [isTrialOf, recorded, gave.1.1, isAction]
            rw [told, List.countP_singleton, counted, if_pos rfl]
            have counts : rest.countP (gaveTrial userId) ≤
                (rest.flatMap fun told => toldBy told.1 told.2).countP (isTrialOf userId) := ih
            omega
      · have counts : rest.countP (gaveTrial userId) ≤
            (rest.flatMap fun told => toldBy told.1 told.2).countP (isTrialOf userId) := ih
        omega

end Ledger

/-- A step that is no trial leaves the operator's row a live trial only where it was one. -/
theorem live_before {call : AccessCall} {reply : AccessReply} {ledger after : Ledger}
    (step : LedgerStep call reply ledger after) (noTrial : call.input.action ≠ .trial)
    {userId : String} (live : (after.row userId .operator).any isLiveTrial = true) :
    (ledger.row userId .operator).any isLiveTrial = true := by
  by_cases other : userId ≠ call.input.userId
  · rw [step.row_of_other other] at live
    exact live
  rw [not_not] at other
  subst other
  cases step with
  | refused => exact live
  | accepted both planned changed writes told =>
      have fits := fits_of_planned both planned
      obtain ⟨entry, found, isLive⟩ := (Option.any_eq_true _ _).mp live
      rcases writes.row_cases fits found with ⟨change, member, isOperator, isWritten⟩ | ⟨_, stored⟩
      · rw [isWritten] at isLive
        have noTrialChange : change.action ≠ .trial := by
          rw [action_of_planned planned change member]
          exact noTrial
        have before := fits.before change member
        rw [isOperator] at before
        rw [← before]
        exact (lineage_of_planned planned change member isOperator isLive noTrialChange).1
      · rw [stored]
        exact isLive

/-! ### Both stores -/

/-- After any calls: at most one trial of the account was given, and none once an event of either source
    says the account was on one; an operator's row that is a live trial goes back to the one trial
    through grants, suspensions and restorations of it; and no other action makes a row that is no live
    trial into one. -/
theorem one_trial_per_account (backend : AccessBackend) (calls : List AccessCall) (userId : String) :
    let store := backend.store
    let state := store.object.after store.start calls
    let transcript := store.object.transcript store.start calls
    transcript.countP (gaveTrial userId) ≤ 1 ∧
      (∀ call event, event ∈ store.history state → event.userId = userId →
        event.after.kind = .trial → call.input.userId = userId → call.input.action = .trial →
          ∃ failure, (store.object.step state call).1 = .error failure) ∧
      store.history state = (trail transcript).map backend.readBack ∧
      (∀ entry, store.row state userId .operator = some entry → entry.kind = .trial →
        entry.status ≠ .revoked → TrialLine userId (trail transcript)) ∧
      ∀ call entry, call.input.action ≠ .trial →
        store.row (store.object.step state call).2 userId .operator = some entry →
        entry.kind = .trial → entry.status ≠ .revoked →
          ∃ earlier, store.row state userId .operator = some earlier ∧ earlier.kind = .trial ∧
            earlier.status ≠ .revoked := by
  intro store state transcript
  obtain ⟨ledger, run, represents, steps⟩ := ledger_run backend calls
  have tried := tried_of_run run userId
  have isTrail : ledger.events = trail transcript := run.events_eq.trans (List.nil_append _)
  have live_iff : ∀ entry, isLiveTrial entry = true ↔
      entry.kind = .trial ∧ entry.status ≠ .revoked := by
    intro entry
    rw [isLiveTrial, Bool.and_eq_true, beq_iff_eq, bne_iff_ne]
  refine ⟨?_, ?_, ?_, ?_, ?_⟩
  · apply (run.trials_le userId).trans
    rw [← isTrail]
    exact tried.once
  · intro call event member isUser isKind callUser isTrial
    obtain ⟨after, step, _⟩ := steps call
    cases reply : (store.object.step state call).1 with
    | error failure => exact ⟨failure, rfl⟩
    | ok result =>
        rw [reply] at step
        have never := (trial_of_step step isTrial).1
        have had : ledger.hadTrial call.input.userId = true := by
          rw [represents.history] at member
          obtain ⟨stored, inEvents, rfl⟩ := List.mem_map.mp member
          apply List.any_eq_true.mpr
          refine ⟨stored, inEvents, ?_⟩
          rw [Bool.and_eq_true, beq_iff_eq, beq_iff_eq, callUser, ← isUser, ← isKind]
          cases backend with
          | memory => exact ⟨rfl, rfl⟩
          | postgres => exact ⟨rfl, rfl⟩
        rw [never] at had
        cases had
  · rw [← isTrail]
    exact represents.history
  · intro entry found isKind unrevoked
    rw [represents.row] at found
    rw [← isTrail]
    exact tried.line entry found ((live_iff entry).mpr ⟨isKind, unrevoked⟩)
  · intro call entry noTrial found isKind unrevoked
    obtain ⟨after, step, representsNext⟩ := steps call
    rw [representsNext.row] at found
    have live : (after.row userId .operator).any isLiveTrial = true := by
      rw [found]
      exact (live_iff entry).mpr ⟨isKind, unrevoked⟩
    obtain ⟨earlier, stored, wasLive⟩ := (Option.any_eq_true _ _).mp (live_before step noTrial live)
    rw [represents.row]
    exact ⟨earlier, stored, (live_iff earlier).mp wasLive⟩

/-- A trial, extended and then suspended. -/
def triedAccount : List AccessCall :=
  [ accessCall 0 .trial none (some ⟨14, none⟩),
    accessCall 1 .grant (some { expiresAt := some 900, kind := some .trial }),
    accessCall 2 .suspend ]

theorem one_trial_per_account_triedAccount :
    let state := postgresAccess.after PostgresAccessStore.migrated triedAccount
    (state.row someStudent .operator).map (fun entry => (entry.kind, entry.status)) =
        some (.trial, .suspended) ∧
      TrialLine someStudent
        (trail (postgresAccess.transcript PostgresAccessStore.migrated triedAccount)) := by
  intro state
  have isRow : (state.row someStudent .operator).map (fun entry => (entry.kind, entry.status)) =
      some (.trial, .suspended) := by
    decide
  refine ⟨isRow, ?_⟩
  obtain ⟨entry, found, same⟩ := Option.map_eq_some_iff.mp isRow
  rw [Prod.mk.injEq] at same
  apply (one_trial_per_account .postgres triedAccount someStudent).2.2.2.1 entry found same.1
  rw [same.2]
  nofun

end JumptotechLabs.Access
