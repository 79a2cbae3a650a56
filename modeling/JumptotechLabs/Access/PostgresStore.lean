/-
Module: JumptotechLabs.Access.PostgresStore
Layer: Access (apps/api/src/access/postgres-store.ts, services/progress/migrations/006_access_entitlements.sql,
  009, 010)
Purpose: The durable access store: the tables `access_entitlements` and `access_events` with their
  constraints. A mutation is one transaction under the lock of its account; a row or an event that a
  constraint refuses takes the whole mutation back, and only the event sequence moves on.
Main exports: StoredAction, EventRow, toEvent, stampAllowed, rowAllowed, eventAllowed, PostgresAccessStore, postgresAccess
-/
import JumptotechLabs.Access.Store
import JumptotechLabs.Core.Text

namespace JumptotechLabs.Access

open JumptotechLabs.Core

/-! ### Columns -/

/-- Groups of lower-case hex digits of the given lengths, with hyphens between them. -/
def hexGroups : List Nat → List Char → Bool
  | [], rest => rest.isEmpty
  | [length], rest => rest.length == length && rest.all isLowerHex
  | length :: lengths, rest =>
      (rest.take length).length == length && (rest.take length).all isLowerHex &&
        (rest.drop length).head? == some '-' && hexGroups lengths (rest.drop (length + 1))

/-- `UUID`: anything else names no row. -/
def isUuid (userId : String) : Bool := hexGroups [8, 4, 4, 4, 12] userId.toList

def isPlanIdChar (c : Char) : Bool := ('a' ≤ c && c ≤ 'z') || ('0' ≤ c && c ≤ '9')

/-- `plan_id ~ '^[a-z0-9][a-z0-9-]{0,31}$'`; NULL passes. -/
def planIdAllowed (planId : Option String) : Bool :=
  planId.all fun text =>
    match text.toList with
    | first :: rest =>
        isPlanIdChar first && rest.length ≤ 31 && rest.all fun c => isPlanIdChar c || c == '-'
    | [] => false

/-- The stored words for the actions, in the past tense. -/
inductive StoredAction where
  | granted
  | suspended
  | restored
  | revoked
  | synced
deriving DecidableEq, Inhabited

/-- `STORED_ACTION`: a trial is stored as the grant it is. -/
def storedAction : AccessAction → StoredAction
  | .grant => .granted
  | .trial => .granted
  | .suspend => .suspended
  | .restore => .restored
  | .revoke => .revoked
  | .sync => .synced

/-- `ACTION_FROM_STORED`. -/
def actionFromStored : StoredAction → AccessAction
  | .granted => .grant
  | .suspended => .suspend
  | .restored => .restore
  | .revoked => .revoke
  | .synced => .sync

/-- One row of `access_events`. -/
structure EventRow where
  eventId : Nat
  userId : String
  source : GrantedVia
  action : StoredAction
  actor : String
  reason : String
  beforeStatus : Option EntitlementStatus
  beforeStartsAt : Option Instant
  beforeExpiresAt : Option Instant
  beforeKind : Option GrantKind
  beforePlanId : Option String
  afterStatus : EntitlementStatus
  afterStartsAt : Instant
  afterExpiresAt : Option Instant
  afterKind : GrantKind
  afterPlanId : Option String
  occurredAt : Instant
deriving DecidableEq, Inhabited

/-- The row of an event. -/
def eventRow (event : AccessEvent) : EventRow where
  eventId := event.eventId
  userId := event.userId
  source := event.source
  action := storedAction event.action
  actor := event.actor
  reason := event.reason
  beforeStatus := event.before.map EntitlementSnapshot.status
  beforeStartsAt := event.before.map EntitlementSnapshot.startsAt
  beforeExpiresAt := event.before.bind EntitlementSnapshot.expiresAt
  beforeKind := event.before.map EntitlementSnapshot.kind
  beforePlanId := event.before.bind EntitlementSnapshot.planId
  afterStatus := event.after.status
  afterStartsAt := event.after.startsAt
  afterExpiresAt := event.after.expiresAt
  afterKind := event.after.kind
  afterPlanId := event.after.planId
  occurredAt := event.occurredAt

/-- What a read returns. A NULL date would read as the epoch. -/
def toEvent (row : EventRow) : AccessEvent where
  eventId := row.eventId
  userId := row.userId
  source := row.source
  action := actionFromStored row.action
  actor := row.actor
  reason := row.reason
  before := row.beforeStatus.map fun status =>
    { status := status
      startsAt := row.beforeStartsAt.getD 0
      expiresAt := row.beforeExpiresAt
      kind := row.beforeKind.getD .standard
      planId := row.beforePlanId }
  after :=
    { status := row.afterStatus
      startsAt := row.afterStartsAt
      expiresAt := row.afterExpiresAt
      kind := row.afterKind
      planId := row.afterPlanId }
  occurredAt := row.occurredAt

/-- An event read back is the event, with the trial's action read as a grant. -/
theorem toEvent_eventRow (event : AccessEvent) :
    toEvent (eventRow event) =
      { event with action := actionFromStored (storedAction event.action) } := by
  cases event with
  | mk eventId userId source action actor reason before after occurredAt =>
      cases before with
      | none => rfl
      | some before => rfl

/-! ### Constraints -/

/-- What `timestamptz` reads of the text `toISOString` gives: the years 1 to 9999, which have four digits
    and no sign. -/
def stampAllowed (time : Instant) : Bool :=
  decide (-62135596800000 ≤ time) && decide (time < 253402300800000)

/-- The CHECK constraints of `access_entitlements`, and its times. -/
def rowAllowed (row : Entitlement) : Bool :=
  (row.expiresAt.all fun expiresAt => decide (row.startsAt < expiresAt)) &&
    stampAllowed row.startsAt && row.expiresAt.all stampAllowed && stampAllowed row.updatedAt &&
    (match row.grantedVia with
      | .operator => row.kind != .subscription
      | .billing => row.kind == .subscription || row.kind == .trial) &&
    planIdAllowed row.planId

/-- The CHECK constraints of `access_events`, and what a text parameter can hold. -/
def eventAllowed (event : AccessEvent) : Bool :=
  decide (1 ≤ event.actor.length ∧ event.actor.length ≤ 64) &&
    decide (1 ≤ event.reason.length ∧ event.reason.length ≤ 500) &&
    !hasNul event.actor && !hasNul event.reason &&
    planIdAllowed (event.before.bind EntitlementSnapshot.planId) && planIdAllowed event.after.planId

/-! ### The store -/

/-- The two tables, and the next event id to hand out. -/
structure PostgresAccessStore where
  rows : List Entitlement
  events : List EventRow
  nextEventId : Nat
  distinct : Keyed.Distinct rowKey rows

namespace PostgresAccessStore

/-- A migrated database with no entitlement. -/
def migrated : PostgresAccessStore := ⟨[], [], 1, distinct_no_rows⟩

variable (store : PostgresAccessStore)

def row (userId : String) (source : GrantedVia) : Option Entitlement :=
  Keyed.lookup rowKey (userId, source) store.rows

/-- `ORDER BY granted_via`. -/
def grantsOf (userId : String) : List Entitlement :=
  [GrantedVia.billing, GrantedVia.operator].filterMap (store.row userId)

/-- The upsert and the INSERT of one change. The upsert keeps the `created_at` of a row that is there. -/
def writeChange (input : MutationInput) (now : Instant) (change : RowChange) :
    Except AccessFailure EventRow × PostgresAccessStore :=
  let upserted :=
    { written input.userId now change with
      createdAt := ((store.row input.userId change.source).map Entitlement.createdAt).getD now }
  let event := recorded store.nextEventId input now change
  if !rowAllowed upserted then (.error .driver, store)
  else if !eventAllowed event then
    (.error .driver, { store with nextEventId := store.nextEventId + 1 })
  else
    ( .ok (eventRow event),
      { rows := Keyed.put rowKey upserted store.rows
        events := store.events ++ [eventRow event]
        nextEventId := store.nextEventId + 1
        distinct := store.distinct.put } )

def writeChanges (input : MutationInput) (now : Instant) :
    PostgresAccessStore → List RowChange → Except AccessFailure (List EventRow) × PostgresAccessStore
  | store, [] => (.ok [], store)
  | store, change :: changes =>
      match store.writeChange input now change with
      | (.error failure, store) => (.error failure, store)
      | (.ok event, store) =>
          match writeChanges input now store changes with
          | (.error failure, store) => (.error failure, store)
          | (.ok events, store) => (.ok (event :: events), store)

/-- ROLLBACK: the tables as they were. A sequence is never taken back. -/
def rollback (failed : PostgresAccessStore) : PostgresAccessStore :=
  { store with nextEventId := failed.nextEventId }

/-- `SELECT EXISTS (… after_kind = 'TRIAL')`. -/
def hadTrial (userId : String) : Bool :=
  store.events.any fun event => event.userId == userId && event.afterKind == .trial

def mutate (call : AccessCall) : AccessReply × PostgresAccessStore :=
  if !isUuid call.input.userId then
    (.error (.accessError .userNotFound "No account has that id."), store)
  else if !call.accounts.contains call.input.userId then (.error userNotFound, store)
  else
    let rows := store.grantsOf call.input.userId
    match planAccountMutation rows call.input call.now ⟨store.hadTrial call.input.userId⟩ with
    | .error failure => (.error failure, store)
    | .ok changes =>
        match writeChanges call.input call.now store changes with
        | (.error failure, failed) => (.error failure, store.rollback failed)
        | (.ok events, after) =>
            ( .ok (mutationResult call.input rows changes (events.map toEvent)
                (after.grantsOf call.input.userId)),
              after )

end PostgresAccessStore

/-- The durable store as an object. -/
abbrev postgresAccess : Object AccessCall AccessReply where
  State := PostgresAccessStore
  step := fun store call => store.mutate call

end JumptotechLabs.Access
