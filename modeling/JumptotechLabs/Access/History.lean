/-
Module: JumptotechLabs.Access.History
Layer: Access (apps/api/src/access/entitlements.ts, postgres-store.ts)
Purpose: The audit history is complete. For each account and source the events are a chain from nothing to
  the stored row; a mutation that throws or changes nothing records nothing; and an action writes only the
  rows it is about.
Main exports: eventsOf, AuditChain, Chained, chained_of_run, audit_history_complete
-/
import JumptotechLabs.Access.Refinement
import Mathlib.Data.List.Chain

namespace JumptotechLabs.Access

open JumptotechLabs.Core

/-- The events of one account and source, in order. -/
def eventsOf (userId : String) (source : GrantedVia) (events : List AccessEvent) : List AccessEvent :=
  events.filter fun event => event.userId == userId && event.source == source

@[simp] theorem eventsOf_append (userId : String) (source : GrantedVia)
    (events more : List AccessEvent) :
    eventsOf userId source (events ++ more) =
      eventsOf userId source events ++ eventsOf userId source more :=
  List.filter_append ..

/-- From no row, change by change, to the row there is. -/
structure AuditChain (events : List AccessEvent) (row : Option Entitlement) : Prop where
  first : ∀ event, events.head? = some event → event.before = none
  linked : events.IsChain fun earlier later => later.before = some earlier.after
  last : row.map snapshot = events.getLast?.map AccessEvent.after

theorem AuditChain.none_iff {events : List AccessEvent} {row : Option Entitlement}
    (chain : AuditChain events row) : row = none ↔ events = [] := by
  have last := chain.last
  constructor
  · intro noRow
    rw [noRow, Option.map_none] at last
    exact List.getLast?_eq_none_iff.mp (Option.map_eq_none_iff.mp last.symm)
  · intro noEvents
    rw [noEvents, List.getLast?_nil, Option.map_none] at last
    exact Option.map_eq_none_iff.mp last

/-- One more change of the row. -/
theorem AuditChain.append {events : List AccessEvent} {row : Option Entitlement}
    {event : AccessEvent} {next : Entitlement} (chain : AuditChain events row)
    (before : event.before = row.map snapshot) (after : event.after = snapshot next) :
    AuditChain (events ++ [event]) (some next) := by
  constructor
  · intro first isFirst
    cases events with
    | nil =>
        cases isFirst
        rw [before, chain.last]
        rfl
    | cons head tail => exact chain.first first isFirst
  · apply List.isChain_append.mpr
    refine ⟨chain.linked, List.isChain_singleton _, ?_⟩
    intro previous isPrevious later isLater
    cases isLater
    rw [before, chain.last, Option.mem_def.mp isPrevious]
    rfl
  · rw [List.getLast?_concat, Option.map_some, Option.map_some, after]

/-- A chain read back event by event, when reading keeps both ends of each. -/
theorem AuditChain.map {events : List AccessEvent} {row : Option Entitlement}
    {read : AccessEvent → AccessEvent} (chain : AuditChain events row)
    (before : ∀ event, (read event).before = event.before)
    (after : ∀ event, (read event).after = event.after) : AuditChain (events.map read) row := by
  constructor
  · intro event isFirst
    rw [List.head?_map] at isFirst
    obtain ⟨first, isHead, rfl⟩ := Option.map_eq_some_iff.mp isFirst
    rw [before]
    exact chain.first first isHead
  · rw [List.isChain_map]
    simp only [before, after]
    exact chain.linked
  · rw [chain.last, List.getLast?_map, Option.map_map]
    congr 1
    funext event
    exact (after event).symm

/-! ### The ledger -/

/-- Every account's events of every source are a chain to its row. -/
def Chained (ledger : Ledger) : Prop :=
  ∀ userId source, AuditChain (eventsOf userId source ledger.events) (ledger.row userId source)

section Ledger

variable {ledger after : Ledger} {input : MutationInput} {now : Instant} {changes : List RowChange}

theorem chained_empty : Chained Ledger.empty := by
  intro userId source
  constructor
  · intro event impossible
    cases impossible
  · exact List.isChain_nil
  · rfl

theorem eventsOf_recorded {eventId : Nat} {change : RowChange} {userId : String}
    {source : GrantedVia} :
    eventsOf userId source [recorded eventId input now change] =
      if userId = input.userId ∧ source = change.source then [recorded eventId input now change]
      else [] := by
  by_cases here : userId = input.userId ∧ source = change.source
  · rw [if_pos here, here.1, here.2]
    simp [eventsOf, recorded]
  · rw [if_neg here]
    simp only [eventsOf, List.filter_eq_nil_iff, List.mem_singleton, forall_eq, Bool.and_eq_true,
      beq_iff_eq]
    intro same
    exact here ⟨same.1.symm, same.2.symm⟩

theorem chained_record {eventId : Nat} {change : RowChange} (chained : Chained ledger)
    (before : change.before = ledger.row input.userId change.source) :
    Chained (ledger.record eventId input now change) := by
  intro userId source
  simp only [Ledger.record, eventsOf_append, eventsOf_recorded]
  by_cases here : userId = input.userId ∧ source = change.source
  · rw [if_pos here, if_pos here]
    apply (chained userId source).append
    · rw [here.1, here.2, ← before]
      rfl
    · rfl
  · rw [if_neg here, if_neg here, List.append_nil]
    exact chained userId source

theorem chained_step {call : AccessCall} {reply : AccessReply}
    (step : LedgerStep call reply ledger after) (chained : Chained ledger) : Chained after := by
  cases step with
  | refused => exact chained
  | accepted both planned changed writes told =>
      apply writes.keeps Chained _ (fits_of_planned both planned) chained
      intro ledger eventId change _ before chained
      exact chained_record chained before

theorem chained_of_run {transcript : List (AccessCall × AccessReply)}
    (run : LedgerRun transcript Ledger.empty ledger) : Chained ledger := by
  apply run.keeps Chained _ chained_empty
  intro call reply ledger after _ step chained
  exact chained_step step chained

/-- The row of an account and source, and its events, stay. -/
def Untouched (ledger after : Ledger) (userId : String) (source : GrantedVia) : Prop :=
  after.row userId source = ledger.row userId source ∧
    eventsOf userId source after.events = eventsOf userId source ledger.events

theorem Writes.untouched (writes : Writes input now changes ledger after) {userId : String}
    {source : GrantedVia}
    (elsewhere : userId = input.userId → ∀ change ∈ changes, source ≠ change.source) :
    Untouched ledger after userId source := by
  constructor
  · apply writes.row_of_untouched
    intro here member
    obtain ⟨change, inChanges, same⟩ := List.mem_map.mp member
    exact elsewhere here change inChanges same.symm
  · induction writes with
    | nil => rfl
    | @cons ledger after change changes eventId rest ih =>
        rw [ih fun here other member => elsewhere here other (List.mem_cons_of_mem _ member)]
        simp only [Ledger.record, eventsOf_append, eventsOf_recorded]
        rw [if_neg, List.append_nil]
        intro here
        exact elsewhere here.1 change List.mem_cons_self here.2

/-- Which source an action is about, when it is about one. -/
theorem source_of_planned {rows : List Entitlement} {context : MutationContext}
    (planned : Planned rows input context changes) :
    (input.action = .grant ∨ input.action = .trial ∨ input.action = .revoke →
        ∀ change ∈ changes, change.source = .operator) ∧
      (input.action = .sync → ∀ change ∈ changes, change.source = .billing) := by
  cases planned with
  | unchanged =>
      exact ⟨fun _ _ member => absurd member List.not_mem_nil,
        fun _ _ member => absurd member List.not_mem_nil⟩
  | opened isAction | closed isAction | granted isAction | tried isAction | revoked isAction =>
      simp [isAction]
  | suspended isAction | restored isAction => simp [isAction]

theorem untouched_step {call : AccessCall} {reply : AccessReply} {userId : String}
    {source : GrantedVia} (step : LedgerStep call reply ledger after)
    (elsewhere :
      (call.input.action = .grant ∨ call.input.action = .trial ∨ call.input.action = .revoke) ∧
          ¬ (userId = call.input.userId ∧ source = .operator) ∨
        call.input.action = .sync ∧ ¬ (userId = call.input.userId ∧ source = .billing)) :
    Untouched ledger after userId source := by
  cases step with
  | refused => exact ⟨rfl, rfl⟩
  | accepted both planned changed writes told =>
      obtain ⟨operators, billings⟩ := source_of_planned planned
      apply writes.untouched
      intro here change member isSource
      rcases elsewhere with ⟨isAction, other⟩ | ⟨isAction, other⟩
      · exact other ⟨here, isSource.trans (operators isAction change member)⟩
      · exact other ⟨here, isSource.trans (billings isAction change member)⟩

/-- Nothing is written by a mutation that throws, or that returns unchanged. -/
theorem eq_of_unchanged {call : AccessCall} {reply : AccessReply}
    (step : LedgerStep call reply ledger after)
    (unchanged : ∀ result, reply = .ok result → result.changed = false) : after = ledger := by
  cases step with
  | refused => rfl
  | accepted both planned changed writes told =>
      rw [unchanged _ rfl, Bool.false_eq, Bool.not_eq_false', List.isEmpty_iff] at changed
      subst changed
      cases writes
      rfl

end Ledger

/-! ### Both stores -/

theorem eventsOf_readBack (backend : AccessBackend) (userId : String) (source : GrantedVia)
    (events : List AccessEvent) :
    eventsOf userId source (events.map backend.readBack) =
      (eventsOf userId source events).map backend.readBack := by
  rw [eventsOf, eventsOf, List.filter_map]
  congr 1
  apply List.filter_congr
  intro event _
  cases backend with
  | memory => rfl
  | postgres => rfl

theorem AuditChain.readBack {events : List AccessEvent} {row : Option Entitlement}
    (chain : AuditChain events row) (backend : AccessBackend) :
    AuditChain (events.map backend.readBack) row := by
  cases backend with
  | memory => exact chain.map (fun _ => rfl) fun _ => rfl
  | postgres => exact chain.map (fun _ => rfl) fun _ => rfl

theorem Represents.untouched {backend : AccessBackend} {state next : backend.store.object.State}
    {ledger after : Ledger} {userId : String} {source : GrantedVia}
    (represents : Represents backend state ledger) (representsNext : Represents backend next after)
    (untouched : Untouched ledger after userId source) :
    backend.store.row next userId source = backend.store.row state userId source ∧
      eventsOf userId source (backend.store.history next) =
        eventsOf userId source (backend.store.history state) := by
  constructor
  · rw [representsNext.row, represents.row]
    exact untouched.1
  · rw [representsNext.history, represents.history, eventsOf_readBack, eventsOf_readBack,
      untouched.2]

/-- After any calls: the events of each account and source are a chain from nothing to the stored row,
    and there is no row exactly when there is no event; the next call, if it throws or returns
    unchanged, leaves every row and the history as they are; and if it is a grant, a trial or a
    revocation it leaves all but the operator's row of its account, if a synchronisation all but
    billing's, rows and events alike. -/
theorem audit_history_complete (backend : AccessBackend) (calls : List AccessCall) :
    let store := backend.store
    let state := store.object.after store.start calls
    (∀ userId source,
        AuditChain (eventsOf userId source (store.history state)) (store.row state userId source) ∧
          (store.row state userId source = none ↔
            eventsOf userId source (store.history state) = [])) ∧
      ∀ call,
        let reply := (store.object.step state call).1
        let next := (store.object.step state call).2
        ((∀ result, reply = .ok result → result.changed = false) →
            store.row next = store.row state ∧ store.history next = store.history state) ∧
          ∀ userId source,
            (call.input.action = .grant ∨ call.input.action = .trial ∨
                  call.input.action = .revoke) ∧
                ¬ (userId = call.input.userId ∧ source = .operator) ∨
              call.input.action = .sync ∧ ¬ (userId = call.input.userId ∧ source = .billing) →
            store.row next userId source = store.row state userId source ∧
              eventsOf userId source (store.history next) =
                eventsOf userId source (store.history state) := by
  intro store state
  obtain ⟨ledger, run, represents, steps⟩ := ledger_run backend calls
  constructor
  · intro userId source
    have chain := (chained_of_run run userId source).readBack backend
    rw [← eventsOf_readBack, ← represents.history, ← represents.row] at chain
    exact ⟨chain, chain.none_iff⟩
  · intro call reply next
    obtain ⟨after, step, representsNext⟩ := steps call
    constructor
    · intro unchanged
      have same := eq_of_unchanged step unchanged
      subst same
      exact ⟨representsNext.row.trans represents.row.symm,
        representsNext.history.trans represents.history.symm⟩
    · intro userId source elsewhere
      exact represents.untouched representsNext (untouched_step step elsewhere)

/-- Granted, then suspended. -/
def heldAccount : List AccessCall :=
  [accessCall 0 .grant (some { expiresAt := none }), accessCall 1 .suspend]

/-- A grant that is refused there leaves the two events there are. -/
theorem audit_history_complete_heldAccount :
    let state := postgresAccess.after PostgresAccessStore.migrated heldAccount
    let grant := accessCall 2 .grant (some { expiresAt := none })
    (postgresAccess.step state grant).1.toBool = false ∧ state.events.length = 2 ∧
      (postgresAccess.step state grant).2.events.map toEvent = state.events.map toEvent := by
  intro state grant
  have refused : (postgresAccess.step state grant).1.toBool = false := by
    decide
  refine ⟨refused, by decide, ?_⟩
  apply (((audit_history_complete .postgres heldAccount).2 grant).1 _).2
  intro result returned
  rw [returned] at refused
  cases refused

end JumptotechLabs.Access
