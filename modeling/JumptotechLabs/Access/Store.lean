/-
Module: JumptotechLabs.Access.Store
Layer: Access (apps/api/src/access/entitlements.ts)
Purpose: The in-memory access store: the rows of every account under their account and source, and the
  events of every change. Its `mutate` is serialised, so a mutation is one step.
Main exports: rowKey, written, recorded, MutationResult, AccessCall, InMemoryAccessStore, memoryAccess
-/
import JumptotechLabs.Access.Entitlements
import JumptotechLabs.Core.Keyed
import JumptotechLabs.Core.Object

namespace JumptotechLabs.Access

open JumptotechLabs.Core

/-- The key of a row: its account and its source. -/
def rowKey (row : Entitlement) : String × GrantedVia := (row.userId, row.grantedVia)

theorem distinct_no_rows : Keyed.Distinct rowKey [] := .nil

/-- The row a change writes. -/
def written (userId : String) (now : Instant) (change : RowChange) : Entitlement where
  userId := userId
  status := change.next.status
  startsAt := change.next.startsAt
  expiresAt := change.next.expiresAt
  grantedVia := change.source
  kind := change.next.kind
  planId := change.next.planId
  createdAt := (change.before.map Entitlement.createdAt).getD now
  updatedAt := now

/-- The event a change records. -/
def recorded (eventId : Nat) (input : MutationInput) (now : Instant) (change : RowChange) :
    AccessEvent where
  eventId := eventId
  userId := input.userId
  source := change.source
  action := change.action
  actor := input.actor
  reason := input.reason
  before := change.before.map snapshot
  after := change.next
  occurredAt := now

structure MutationResult where
  changed : Bool
  before : Option Entitlement
  after : Option Entitlement
  event : Option AccessEvent
  events : List AccessEvent
  grants : List Entitlement
deriving DecidableEq, Inhabited

/-- A call of `mutate`: its input, what the clock reads, and the accounts there are. -/
structure AccessCall where
  input : MutationInput
  now : Instant
  accounts : List String
deriving DecidableEq, Inhabited

/-- `mutate` returns or throws. -/
abbrev AccessReply := Except AccessFailure MutationResult

/-- `USER_NOT_FOUND`, for an account that is not there. -/
def userNotFound : AccessFailure :=
  .accessError .userNotFound "No account has that id. The student must sign in once first."

/-- What a mutation returns, from what it wrote. -/
def mutationResult (input : MutationInput) (rows : List Entitlement) (changes : List RowChange)
    (events : List AccessEvent) (grants : List Entitlement) : MutationResult where
  changed := !changes.isEmpty
  before := bySource rows (input.source.getD .operator)
  after := bySource grants (input.source.getD .operator)
  event := events.head?
  events := events
  grants := grants

/-- `InMemoryAccessStore`: `#rows`, `#events` and `#nextEvent`. -/
structure InMemoryAccessStore where
  rows : List Entitlement
  events : List AccessEvent
  nextEvent : Nat
  distinct : Keyed.Distinct rowKey rows

namespace InMemoryAccessStore

def empty : InMemoryAccessStore := ⟨[], [], 0, distinct_no_rows⟩

variable (store : InMemoryAccessStore)

/-- The row of an account and a source. -/
def row (userId : String) (source : GrantedVia) : Option Entitlement :=
  Keyed.lookup rowKey (userId, source) store.rows

/-- `#grantsOf`, in the order of `GRANT_SOURCES`. -/
def grantsOf (userId : String) : List Entitlement :=
  [GrantedVia.operator, GrantedVia.billing].filterMap (store.row userId)

/-- Set the row and push its event. -/
def writeChange (input : MutationInput) (now : Instant) (change : RowChange) :
    AccessEvent × InMemoryAccessStore :=
  let event := recorded (store.nextEvent + 1) input now change
  ( event,
    { rows := Keyed.put rowKey (written input.userId now change) store.rows
      events := store.events ++ [event]
      nextEvent := store.nextEvent + 1
      distinct := store.distinct.put } )

def writeChanges (input : MutationInput) (now : Instant) :
    InMemoryAccessStore → List RowChange → List AccessEvent × InMemoryAccessStore
  | store, [] => ([], store)
  | store, change :: changes =>
      let (event, store) := store.writeChange input now change
      let (events, store) := writeChanges input now store changes
      (event :: events, store)

/-- Has the account ever been on a trial? -/
def hadTrial (userId : String) : Bool :=
  store.events.any fun event => event.userId == userId && event.after.kind == .trial

def mutate (call : AccessCall) : AccessReply × InMemoryAccessStore :=
  if !call.accounts.contains call.input.userId then (.error userNotFound, store)
  else
    let rows := store.grantsOf call.input.userId
    match planAccountMutation rows call.input call.now ⟨store.hadTrial call.input.userId⟩ with
    | .error failure => (.error failure, store)
    | .ok changes =>
        let (events, after) := writeChanges call.input call.now store changes
        ( .ok (mutationResult call.input rows changes events (after.grantsOf call.input.userId)),
          after )

end InMemoryAccessStore

/-- The in-memory store as an object. -/
abbrev memoryAccess : Object AccessCall AccessReply where
  State := InMemoryAccessStore
  step := fun store call => store.mutate call

end JumptotechLabs.Access
