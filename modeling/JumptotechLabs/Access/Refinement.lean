/-
Module: JumptotechLabs.Access.Refinement
Layer: Access (apps/api/src/access/entitlements.ts, postgres-store.ts)
Purpose: Both access stores are the ledger. Whatever is called, the transcript of either store is a run of
  the ledger, and the store holds the ledger it ends in: the same rows, and the same events up to the
  word PostgreSQL has for a trial's action.
Main exports: AccessStore, AccessBackend, readBack, Represents, memory_step, postgres_step, ledger_run
-/
import JumptotechLabs.Access.Ledger

namespace JumptotechLabs.Access

open JumptotechLabs.Core

/-! ### The interface -/

/-- `AccessStore`: `mutate`, and what can be read between two mutations. -/
structure AccessStore where
  object : Object AccessCall AccessReply
  start : object.State
  row : object.State → String → GrantedVia → Option Entitlement
  grants : object.State → String → List Entitlement
  /-- Every event there is, oldest first. -/
  history : object.State → List AccessEvent

/-- The two stores there are. -/
inductive AccessBackend where
  | memory
  | postgres
deriving DecidableEq, Inhabited

/-- The store of a backend. -/
abbrev AccessBackend.store : AccessBackend → AccessStore
  | .memory =>
      { object := memoryAccess
        start := InMemoryAccessStore.empty
        row := InMemoryAccessStore.row
        grants := InMemoryAccessStore.grantsOf
        history := InMemoryAccessStore.events }
  | .postgres =>
      { object := postgresAccess
        start := PostgresAccessStore.migrated
        row := PostgresAccessStore.row
        grants := PostgresAccessStore.grantsOf
        history := fun store => store.events.map toEvent }

/-- How a backend gives an event back. -/
def AccessBackend.readBack : AccessBackend → AccessEvent → AccessEvent
  | .memory, event => event
  | .postgres, event => { event with action := actionFromStored (storedAction event.action) }

/-- The order in which a backend lists the rows of an account. -/
def AccessBackend.order : AccessBackend → List GrantedVia
  | .memory => [.operator, .billing]
  | .postgres => [.billing, .operator]

theorem AccessBackend.bothSources (backend : AccessBackend) : BothSources backend.order := by
  cases backend with
  | memory => exact .inl rfl
  | postgres => exact .inr rfl

/-- The state of a store holds a ledger. -/
structure Represents (backend : AccessBackend) (state : backend.store.object.State)
    (ledger : Ledger) : Prop where
  row : backend.store.row state = ledger.row
  grants : backend.store.grants state = ledger.rowsIn backend.order
  history : backend.store.history state = ledger.events.map backend.readBack

/-! ### Writing -/

/-- The changes of one mutation were written, and these are their events. -/
structure Wrote (input : MutationInput) (now : Instant) (changes : List RowChange)
    (ledger after : Ledger) (events : List AccessEvent) : Prop where
  writes : Writes input now changes ledger after
  appended : after.events = ledger.events ++ events
  actions : ∀ event ∈ events, ∃ change ∈ changes, event.action = change.action

section Writing

variable {ledger after : Ledger} {input : MutationInput} {now : Instant} {changes : List RowChange}
  {events : List AccessEvent}

theorem Wrote.nil (ledger : Ledger) : Wrote input now [] ledger ledger [] :=
  ⟨.nil ledger, (List.append_nil _).symm, fun _ member => absurd member List.not_mem_nil⟩

theorem Wrote.cons {change : RowChange} {eventId : Nat}
    (rest : Wrote input now changes (ledger.record eventId input now change) after events) :
    Wrote input now (change :: changes) ledger after
      (recorded eventId input now change :: events) := by
  constructor
  · exact .cons eventId rest.writes
  · rw [rest.appended]
    simp [Ledger.record]
  · intro event member
    rcases List.mem_cons.mp member with rfl | inRest
    · exact ⟨change, List.mem_cons_self, rfl⟩
    · obtain ⟨other, isOther, same⟩ := rest.actions event inRest
      exact ⟨other, List.mem_cons_of_mem _ isOther, same⟩

/-- A mutation that wrote its plan, and whose caller is told of the events as the store reads them. -/
theorem Wrote.accepted {call : AccessCall} {order : List GrantedVia} {result : MutationResult}
    {read : AccessEvent → AccessEvent}
    (wrote : Wrote call.input call.now changes ledger after events) (both : BothSources order)
    (planned : Planned (ledger.rowsIn order call.input.userId) call.input
      ⟨ledger.hadTrial call.input.userId⟩ changes)
    (changed : result.changed = !changes.isEmpty) (told : result.events = events.map read)
    (reads : ∀ event : AccessEvent, { read event with action := event.action } = event) :
    LedgerStep call (.ok result) ledger after := by
  apply LedgerStep.accepted both planned changed wrote.writes
  rw [wrote.appended, toldBy, told, List.map_map]
  congr 1
  symm
  apply List.map_congr_left (g := id) _ |>.trans (List.map_id events)
  intro event member
  obtain ⟨change, inChanges, same⟩ := wrote.actions event member
  have isAction : call.input.action = event.action := by
    rw [same, action_of_planned planned change inChanges]
  rw [Function.comp_apply, isAction]
  exact reads event

end Writing

/-! ### In memory -/

section Memory

variable {store : InMemoryAccessStore} {ledger : Ledger} {input : MutationInput} {now : Instant}

/-- The store's rows and events are the ledger's. -/
def MemoryHolds (store : InMemoryAccessStore) (ledger : Ledger) : Prop :=
  store.row = ledger.row ∧ store.events = ledger.events

/-- Setting a row under its key is setting it in the ledger. -/
theorem lookup_put_written {rows : List Entitlement} {row : Entitlement} {change : RowChange}
    (stored : ∀ userId source, Keyed.lookup rowKey (userId, source) rows = ledger.row userId source)
    (isRow : row = written input.userId now change) (eventId : Nat) (userId : String)
    (source : GrantedVia) :
    Keyed.lookup rowKey (userId, source) (Keyed.put rowKey row rows) =
      (ledger.record eventId input now change).row userId source := by
  have sameKey : rowKey (written input.userId now change) = (userId, source) ↔
      userId = input.userId ∧ source = change.source := by
    simp only [rowKey, written, Prod.mk.injEq]
    exact and_congr eq_comm eq_comm
  simp only [Keyed.lookup_put, isRow, Ledger.record, stored, sameKey]

theorem MemoryHolds.writeChange (holds : MemoryHolds store ledger) (change : RowChange) :
    MemoryHolds (store.writeChange input now change).2
      (ledger.record (store.nextEvent + 1) input now change) := by
  constructor
  · funext userId source
    apply lookup_put_written _ rfl
    intro userId source
    exact congrFun (congrFun holds.1 userId) source
  · simp only [InMemoryAccessStore.writeChange, Ledger.record, holds.2]

theorem MemoryHolds.writeChanges {changes : List RowChange} {events : List AccessEvent}
    {next : InMemoryAccessStore} (holds : MemoryHolds store ledger)
    (ran : InMemoryAccessStore.writeChanges input now store changes = (events, next)) :
    ∃ after, Wrote input now changes ledger after events ∧ MemoryHolds next after := by
  induction changes generalizing store ledger events next with
  | nil =>
      cases ran
      exact ⟨ledger, .nil ledger, holds⟩
  | cons change changes ih =>
      cases rest : InMemoryAccessStore.writeChanges input now
          (store.writeChange input now change).2 changes with
      | mk others last =>
          obtain ⟨after, wrote, holdsAfter⟩ := ih (holds.writeChange change) rest
          have isRest : (recorded (store.nextEvent + 1) input now change :: others, last) =
              (events, next) := by
            rw [← ran, InMemoryAccessStore.writeChanges]
            simp only [rest]
            rfl
          cases isRest
          exact ⟨after, wrote.cons, holdsAfter⟩

/-- One call of the in-memory store is a step of the ledger. -/
theorem memory_step (holds : MemoryHolds store ledger) (call : AccessCall) :
    ∃ after, LedgerStep call (store.mutate call).1 ledger after ∧
      MemoryHolds (store.mutate call).2 after := by
  unfold InMemoryAccessStore.mutate
  split
  · exact ⟨ledger, .refused _ ledger, holds⟩
  simp only
  split
  · exact ⟨ledger, .refused _ ledger, holds⟩
  rename_i changes planned
  have rows : store.grantsOf call.input.userId =
      ledger.rowsIn AccessBackend.memory.order call.input.userId := by
    rw [InMemoryAccessStore.grantsOf, holds.1]
    rfl
  have trial : store.hadTrial call.input.userId = ledger.hadTrial call.input.userId := by
    rw [InMemoryAccessStore.hadTrial, holds.2]
    rfl
  rw [rows, trial] at planned
  cases ran : InMemoryAccessStore.writeChanges call.input call.now store changes with
  | mk events next =>
      obtain ⟨after, wrote, holdsAfter⟩ := holds.writeChanges ran
      refine ⟨after, ?_, holdsAfter⟩
      exact wrote.accepted AccessBackend.memory.bothSources (planned_of_ok planned) rfl
        (List.map_id events).symm fun _ => rfl

end Memory

/-! ### In PostgreSQL -/

section Postgres

variable {store : PostgresAccessStore} {ledger : Ledger} {input : MutationInput} {now : Instant}

/-- The table's rows are the ledger's, and its events the ledger's in their columns. -/
def PostgresHolds (store : PostgresAccessStore) (ledger : Ledger) : Prop :=
  store.row = ledger.row ∧ store.events = ledger.events.map eventRow

/-- A change that is not refused is the ledger's: the upsert keeps the `created_at` the plan saw. -/
theorem PostgresHolds.writeChange {change : RowChange} {event : EventRow}
    {next : PostgresAccessStore} (holds : PostgresHolds store ledger)
    (before : change.before = ledger.row input.userId change.source)
    (ran : store.writeChange input now change = (.ok event, next)) :
    event = eventRow (recorded store.nextEventId input now change) ∧
      PostgresHolds next (ledger.record store.nextEventId input now change) := by
  unfold PostgresAccessStore.writeChange at ran
  simp only at ran
  split at ran
  · cases ran
  split at ran
  · cases ran
  cases ran
  refine ⟨rfl, ?_, ?_⟩
  · funext userId source
    apply lookup_put_written
    · intro userId source
      exact congrFun (congrFun holds.1 userId) source
    · simp only [written, before, holds.1]
  · simp only [Ledger.record, holds.2, List.map_append, List.map_cons, List.map_nil]

theorem PostgresHolds.writeChanges {changes : List RowChange} {rows : List EventRow}
    {next : PostgresAccessStore} (holds : PostgresHolds store ledger)
    (fits : Fits ledger input.userId changes)
    (ran : PostgresAccessStore.writeChanges input now store changes = (.ok rows, next)) :
    ∃ after events, Wrote input now changes ledger after events ∧ rows = events.map eventRow ∧
      PostgresHolds next after := by
  induction changes generalizing store ledger rows next with
  | nil =>
      cases ran
      exact ⟨ledger, [], .nil ledger, rfl, holds⟩
  | cons change changes ih =>
      rw [PostgresAccessStore.writeChanges] at ran
      split at ran
      · cases ran
      rename_i event middle wrote
      split at ran
      · cases ran
      rename_i others last rest
      cases ran
      obtain ⟨rfl, holdsNext⟩ :=
        holds.writeChange (fits.before change List.mem_cons_self) wrote
      obtain ⟨after, events, wroteRest, rfl, holdsAfter⟩ :=
        ih holdsNext (fits.tail _) rest
      exact ⟨after, _, wroteRest.cons, rfl, holdsAfter⟩

/-- One call of the durable store is a step of the ledger, whether it commits or rolls back. -/
theorem postgres_step (holds : PostgresHolds store ledger) (call : AccessCall) :
    ∃ after, LedgerStep call (store.mutate call).1 ledger after ∧
      PostgresHolds (store.mutate call).2 after := by
  unfold PostgresAccessStore.mutate
  split
  · exact ⟨ledger, .refused _ ledger, holds⟩
  split
  · exact ⟨ledger, .refused _ ledger, holds⟩
  simp only
  split
  · exact ⟨ledger, .refused _ ledger, holds⟩
  rename_i changes planned
  have rows : store.grantsOf call.input.userId =
      ledger.rowsIn AccessBackend.postgres.order call.input.userId := by
    rw [PostgresAccessStore.grantsOf, holds.1]
    rfl
  have trial : store.hadTrial call.input.userId = ledger.hadTrial call.input.userId := by
    rw [PostgresAccessStore.hadTrial, holds.2, List.any_map]
    rfl
  rw [rows, trial] at planned
  have plan := planned_of_ok planned
  split
  · exact ⟨ledger, .refused _ ledger, holds⟩
  · rename_i written next ran
    have fits := fits_of_planned AccessBackend.postgres.bothSources plan
    obtain ⟨after, events, wrote, rfl, holdsAfter⟩ := holds.writeChanges fits ran
    refine ⟨after, ?_, holdsAfter⟩
    apply wrote.accepted AccessBackend.postgres.bothSources plan rfl (List.map_map ..)
    intro event
    rw [Function.comp_apply, toEvent_eventRow]

end Postgres

/-! ### Whole runs -/

theorem Represents.of_memory {store : InMemoryAccessStore} {ledger : Ledger}
    (holds : MemoryHolds store ledger) : Represents .memory store ledger := by
  constructor
  · exact holds.1
  · funext userId
    exact congrArg (fun rowOf => [GrantedVia.operator, GrantedVia.billing].filterMap (rowOf userId))
      holds.1
  · exact holds.2.trans (List.map_id _).symm

theorem Represents.of_postgres {store : PostgresAccessStore} {ledger : Ledger}
    (holds : PostgresHolds store ledger) : Represents .postgres store ledger := by
  constructor
  · exact holds.1
  · funext userId
    exact congrArg (fun rowOf => [GrantedVia.billing, GrantedVia.operator].filterMap (rowOf userId))
      holds.1
  · change store.events.map toEvent = _
    rw [holds.2, List.map_map]
    apply List.map_congr_left
    intro event _
    exact toEvent_eventRow event

/-- An object that follows the ledger step by step runs as it. -/
theorem run_of_steps (object : Object AccessCall AccessReply)
    (holds : object.State → Ledger → Prop)
    (follows : ∀ state ledger call, holds state ledger →
      ∃ after, LedgerStep call (object.step state call).1 ledger after ∧
        holds (object.step state call).2 after)
    {state : object.State} {ledger : Ledger} (start : holds state ledger)
    (calls : List AccessCall) :
    ∃ after, LedgerRun (object.transcript state calls) ledger after ∧
      holds (object.after state calls) after := by
  induction calls generalizing state ledger with
  | nil => exact ⟨ledger, .nil ledger, start⟩
  | cons call calls ih =>
      obtain ⟨middle, step, next⟩ := follows state ledger call start
      obtain ⟨after, run, last⟩ := ih next
      exact ⟨after, .cons step run, last⟩

/-- Whatever is called, the transcript is a run of the ledger, the store holds where it ends, and the next
    call is a step from there. -/
theorem ledger_run (backend : AccessBackend) (calls : List AccessCall) :
    ∃ ledger, LedgerRun (backend.store.object.transcript backend.store.start calls) Ledger.empty
        ledger ∧
      Represents backend (backend.store.object.after backend.store.start calls) ledger ∧
      ∀ call, ∃ after,
        LedgerStep call (backend.store.object.step
          (backend.store.object.after backend.store.start calls) call).1 ledger after ∧
        Represents backend (backend.store.object.step
          (backend.store.object.after backend.store.start calls) call).2 after := by
  cases backend with
  | memory =>
      have start : MemoryHolds InMemoryAccessStore.empty Ledger.empty := ⟨rfl, rfl⟩
      obtain ⟨ledger, run, holds⟩ := run_of_steps memoryAccess MemoryHolds
        (fun _ _ call holds => memory_step holds call) start calls
      refine ⟨ledger, run, .of_memory holds, ?_⟩
      intro call
      obtain ⟨after, step, next⟩ := memory_step holds call
      exact ⟨after, step, .of_memory next⟩
  | postgres =>
      have start : PostgresHolds PostgresAccessStore.migrated Ledger.empty := ⟨rfl, rfl⟩
      obtain ⟨ledger, run, holds⟩ := run_of_steps postgresAccess PostgresHolds
        (fun _ _ call holds => postgres_step holds call) start calls
      refine ⟨ledger, run, .of_postgres holds, ?_⟩
      intro call
      obtain ⟨after, step, next⟩ := postgres_step holds call
      exact ⟨after, step, .of_postgres next⟩

/-! ### A concrete account -/

/-- An account the later runs are about. -/
def someStudent : String := "00000000-0000-0000-0000-000000000001"

/-- A mutation of that account. -/
def accessCall (now : Instant) (action : AccessAction) (grant : Option GrantRequest := none)
    (trial : Option TrialRequest := none) (sync : Option SyncRequest := none) : AccessCall where
  input :=
    { userId := someStudent
      action := action
      actor := "ops"
      reason := "support"
      grant := grant
      trial := trial
      source := sync.map fun _ => .billing
      sync := sync }
  now := now
  accounts := [someStudent]

end JumptotechLabs.Access
