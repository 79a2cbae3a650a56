/-
Module: JumptotechLabs.Classroom.SessionEvents
Layer: Classroom (apps/api/src/classroom/session-events.ts, services/progress/migrations/008_session_events.sql)
Purpose: The two stores of session events: a list that is only appended to and purged, and the table `session_events` with
  its constraints, whose event ids follow the order of the INSERTs. A statement whose parameters PostgreSQL cannot take,
  or whose row a constraint refuses, throws.
Main exports: SessionEventInput, SessionEvent, clampLimit, safeCode, normalise, EventCall, EventReply,
  InMemorySessionEventStore, inMemoryEvents, EventRow, PostgresSessionEventStore, postgresEvents
-/
import JumptotechLabs.Access.PostgresStore
import JumptotechLabs.Core.Json
import JumptotechLabs.Core.Object
import JumptotechLabs.Core.Rows
import JumptotechLabs.Core.Text
import Mathlib.Data.Rat.Floor
import Mathlib.Logic.Function.Basic

namespace JumptotechLabs.Classroom

open JumptotechLabs.Core
open JumptotechLabs.Access (isUuid stampAllowed)

/-- A moment, as milliseconds since the epoch. -/
abbrev Instant := Int

/-- What a session was asked to do. -/
inductive SessionOperation where
  | start
  | check
  | reset
  | endLab
  | cleanup
  | staffEnd
deriving DecidableEq

/-- How it ended. -/
inductive SessionOutcome where
  | ok
  | pass
  | fail
  | error
  | refused
  | failed
  | pending
deriving DecidableEq

/-- A text that is empty is falsy, and left out. -/
def present (text : Option String) : Option String := text.filter (· ≠ "")

/-- An event, as it is read. -/
structure SessionEvent where
  eventId : Nat
  sessionId : Option String
  labId : String
  ownerUserId : Option String
  actorUserId : Option String
  operation : SessionOperation
  outcome : SessionOutcome
  code : Option String
  durationMs : Option Int
  occurredAt : Instant
deriving DecidableEq

/-- An event up to its id. -/
def SessionEvent.withoutId (event : SessionEvent) : SessionEvent := { event with eventId := 0 }

/-- What is recorded; a duration is a finite number. -/
structure SessionEventInput where
  sessionId : Option String := none
  labId : String
  ownerUserId : Option String := none
  actorUserId : Option String := none
  operation : SessionOperation
  outcome : SessionOutcome
  code : Option String := none
  durationMs : Option Rat := none
  occurredAt : Option Instant := none

/-- The newest event of each operation for each session; no session is in the map without an event. -/
abbrev LatestEvents := String → SessionOperation → Option SessionEvent

def LatestEvents.set (latest : LatestEvents) (sessionId : String) (operation : SessionOperation) (event : SessionEvent) :
    LatestEvents :=
  fun id kind => if id = sessionId ∧ kind = operation then some event else latest id kind

/-! ### What both stores do to their arguments -/

/-- `MAX_EVENT_READ`. -/
def maxEventRead : Nat := 200

/-- `Math.trunc`. -/
def truncate (value : Rat) : Int := if 0 ≤ value then ⌊value⌋ else ⌈value⌉

/-- `clampLimit`: 50 where the limit is no finite number. -/
def clampLimit : Number → Nat
  | .finite limit => min maxEventRead (max 1 (truncate limit)).toNat
  | .infinite _ | .nan => 50

def isCodeChar (c : Char) : Bool := isAlphanumeric c || c == '_' || c == '.' || c == '-'

/-- `CODE_SHAPE`. -/
def hasCodeShape (code : String) : Bool :=
  decide (1 ≤ code.length ∧ code.length ≤ 64) && code.toList.all isCodeChar

/-- An identifier, or nothing. -/
def safeCode (code : Option String) : Option String :=
  (present code).map fun text => if hasCodeShape text then text else "unknown"

/-- `Math.max(0, Math.min(2_147_483_647, Math.round(value)))`. -/
def clampDuration (value : Rat) : Int := max 0 (min 2147483647 ⌊value + 1 / 2⌋)

/-! ### Calls -/

/-- The calls of an event store. -/
inductive EventCall where
  /-- The store's own clock stands in for an instant that is absent. -/
  | record (input : SessionEventInput) (clock : Instant)
  | listForSession (sessionId : String) (limit : Number)
  | listForOwner (ownerUserId : String) (limit : Number)
  | listRecent (since : Instant) (outcomes : List SessionOutcome) (limit : Number)
  | latestForSessions (sessionIds : List String)
  | purgeOlderThan (before : Instant)

/-- What a call answers. -/
inductive EventReply where
  | done
  | events (list : List SessionEvent)
  | latest (map : LatestEvents)
  | purged (count : Nat)
  /-- What the driver throws. -/
  | failed

/-! ### In memory -/

/-- The events, the oldest first, and how many were ever recorded. -/
structure InMemorySessionEventStore where
  events : List SessionEvent := []
  next : Nat := 0

namespace InMemorySessionEventStore

variable (store : InMemorySessionEventStore)

def record (input : SessionEventInput) (clock : Instant) : InMemorySessionEventStore :=
  let event : SessionEvent :=
    { eventId := store.next + 1
      sessionId := present input.sessionId
      labId := input.labId
      ownerUserId := present input.ownerUserId
      actorUserId := present input.actorUserId
      operation := input.operation
      outcome := input.outcome
      code := safeCode input.code
      durationMs := input.durationMs.map clampDuration
      occurredAt := input.occurredAt.getD clock }
  ⟨store.events ++ [event], store.next + 1⟩

/-- The loop of `#newestFirst`, over the events from the newest on, with the room that is left. -/
def collect (keep : SessionEvent → Bool) : Nat → List SessionEvent → List SessionEvent
  | 0, _ => []
  | _, [] => []
  | room + 1, event :: older =>
      if keep event then event :: collect keep room older else collect keep (room + 1) older

def newestFirst (keep : SessionEvent → Bool) (limit : Number) : List SessionEvent :=
  collect keep (clampLimit limit) store.events.reverse

/-- The loop body of `latestForSessions`: an event is set where there is none of its operation. -/
def noteEvent (sessionIds : List String) (latest : LatestEvents) (event : SessionEvent) : LatestEvents :=
  match event.sessionId with
  | none => latest
  | some sessionId =>
      if sessionId ∉ sessionIds ∨ (latest sessionId event.operation).isSome then latest
      else latest.set sessionId event.operation event

def latestForSessions (sessionIds : List String) : LatestEvents :=
  store.events.reverse.foldl (noteEvent sessionIds) fun _ _ => none

def step : EventCall → EventReply × InMemorySessionEventStore
  | .record input clock => (.done, store.record input clock)
  | .listForSession sessionId limit => (.events (store.newestFirst (·.sessionId = some sessionId) limit), store)
  | .listForOwner ownerUserId limit => (.events (store.newestFirst (·.ownerUserId = some ownerUserId) limit), store)
  | .listRecent since outcomes limit =>
      (.events (store.newestFirst (fun event => since ≤ event.occurredAt && outcomes.contains event.outcome) limit), store)
  | .latestForSessions sessionIds => (.latest (store.latestForSessions sessionIds), store)
  | .purgeOlderThan before =>
      ( .purged (store.events.countP (·.occurredAt < before)),
        { store with events := store.events.filter (before ≤ ·.occurredAt) } )

end InMemorySessionEventStore

/-- The store in memory. -/
abbrev inMemoryEvents : Object EventCall EventReply where
  State := InMemorySessionEventStore
  step := InMemorySessionEventStore.step

/-! ### PostgreSQL -/

/-- One row of `session_events`. -/
structure EventRow where
  eventId : Nat
  sessionId : Option String
  labId : String
  ownerUserId : Option String
  actorUserId : Option String
  operation : SessionOperation
  outcome : SessionOutcome
  code : Option String
  durationMs : Option Int
  occurredAt : Instant
deriving DecidableEq

/-- What a read makes of a row; a text that is empty is left out. -/
def toEvent (row : EventRow) : SessionEvent where
  eventId := row.eventId
  sessionId := present row.sessionId
  labId := row.labId
  ownerUserId := present row.ownerUserId
  actorUserId := present row.actorUserId
  operation := row.operation
  outcome := row.outcome
  code := present row.code
  durationMs := row.durationMs
  occurredAt := row.occurredAt

/-- `text.slice(0, units)`, as it is stored: half of a pair is stored as the replacement character. -/
def sliceChars : Nat → List Char → List Char
  | 0, _ => []
  | _, [] => []
  | 1, c :: _ => if c.toNat < 0x10000 then [c] else ['\uFFFD']
  | units + 2, c :: rest =>
      if c.toNat < 0x10000 then c :: sliceChars (units + 1) rest else c :: sliceChars units rest

def sliceText (units : Nat) (text : String) : String := String.ofList (sliceChars units text.toList)

def lowerText (text : String) : String := String.ofList (text.toList.map Char.toLower)

/-- `uuidOrNull`, as the column holds it: a UUID is written with small letters. -/
def uuidOrNull (value : Option String) : Option String := (value.map lowerText).filter isUuid

/-- The CHECK constraints of `session_events`. -/
def rowAllowed (row : EventRow) : Bool :=
  row.code.all hasCodeShape && decide (1 ≤ row.labId.length ∧ row.labId.length ≤ 64) &&
    row.durationMs.all (decide <| 0 ≤ ·)

/-- Can PostgreSQL take the parameters of the INSERT? -/
def bindable (row : EventRow) : Bool :=
  row.sessionId.all (!hasNul ·) && !hasNul row.labId && stampAllowed row.occurredAt

/-- The rows in the order of their INSERTs, and the next id of the sequence. -/
structure PostgresSessionEventStore where
  rows : List EventRow := []
  nextEventId : Nat := 1

namespace PostgresSessionEventStore

variable (store : PostgresSessionEventStore)

def record (input : SessionEventInput) (clock : Instant) : EventReply × PostgresSessionEventStore :=
  let row : EventRow :=
    { eventId := store.nextEventId
      sessionId := input.sessionId
      labId := sliceText 64 input.labId
      ownerUserId := uuidOrNull input.ownerUserId
      actorUserId := uuidOrNull input.actorUserId
      operation := input.operation
      outcome := input.outcome
      code := safeCode input.code
      durationMs := input.durationMs.map clampDuration
      occurredAt := input.occurredAt.getD clock }
  if !bindable row then (.failed, store)
  else if !rowAllowed row then (.failed, { store with nextEventId := store.nextEventId + 1 })
  else (.done, ⟨store.rows ++ [row], store.nextEventId + 1⟩)

/-- `SELECT … WHERE … ORDER BY event_id DESC LIMIT …`. -/
def newestFirst (keep : EventRow → Bool) (limit : Number) : List SessionEvent :=
  ((orderDesc EventRow.eventId (store.rows.filter keep)).take (clampLimit limit)).map toEvent

/-- The loop body of `latestForSessions`. -/
def noteRow (latest : LatestEvents) (row : EventRow) : LatestEvents :=
  match (toEvent row).sessionId with
  | none => latest
  | some sessionId => latest.set sessionId row.operation (toEvent row)

/-- `SELECT DISTINCT ON (session_id, operation) … WHERE session_id = ANY($1) …`, and the loop over its rows. In which
    order the sessions come shows in no lookup. -/
def latestOf (sessionIds : List String) : LatestEvents :=
  let rows := store.rows.filter fun row => row.sessionId.any (sessionIds.contains ·)
  (distinctOn (fun row => (row.sessionId, row.operation)) (orderDesc EventRow.eventId rows)).foldl noteRow
    fun _ _ => none

/-- `[...new Set(sessionIds)].slice(0, MAX_EVENT_READ)`. -/
def readIds (sessionIds : List String) : List String := (distinctOn id sessionIds).take maxEventRead

def latestForSessions (sessionIds : List String) : EventReply :=
  let ids := readIds sessionIds
  if ids.isEmpty then .latest fun _ _ => none
  else if ids.any hasNul then .failed
  else .latest (store.latestOf ids)

def listForOwner (ownerUserId : String) (limit : Number) : EventReply :=
  match uuidOrNull (some ownerUserId) with
  | none => .events []
  | some owner => .events (store.newestFirst (·.ownerUserId = some owner) limit)

def step : EventCall → EventReply × PostgresSessionEventStore
  | .record input clock => store.record input clock
  | .listForSession sessionId limit =>
      if hasNul sessionId then (.failed, store)
      else (.events (store.newestFirst (·.sessionId = some sessionId) limit), store)
  | .listForOwner ownerUserId limit => (store.listForOwner ownerUserId limit, store)
  | .listRecent since outcomes limit =>
      if !stampAllowed since then (.failed, store)
      else
        (.events (store.newestFirst (fun row => since ≤ row.occurredAt && outcomes.contains row.outcome) limit), store)
  | .latestForSessions sessionIds => (store.latestForSessions sessionIds, store)
  | .purgeOlderThan before =>
      if !stampAllowed before then (.failed, store)
      else
        ( .purged (store.rows.countP (·.occurredAt < before)),
          { store with rows := store.rows.filter (before ≤ ·.occurredAt) } )

end PostgresSessionEventStore

/-- The store in PostgreSQL. -/
abbrev postgresEvents : Object EventCall EventReply where
  State := PostgresSessionEventStore
  step := PostgresSessionEventStore.step

end JumptotechLabs.Classroom
