/-
Module: JumptotechLabs.Session.PostgresStore
Layer: Session (services/lab-orchestrator/src/session/postgres-store.ts,
  services/progress/migrations/002_sessions.sql, 003, 005, 007)
Purpose: The durable session store: the table `lab_sessions` with its constraints and its shell uid
  sequence, and the statements the store sends to it. A statement whose parameters PostgreSQL cannot
  take (a zero character in a text, a number beyond INTEGER, a text that is no UUID) throws and
  changes nothing.
Main exports: SessionRow, SessionRow.toSession, assignments, uuidIn, PostgresSessionStore and its
  operations
-/
import JumptotechLabs.Session.Store
import JumptotechLabs.Core.Text

namespace JumptotechLabs.Session

open JumptotechLabs.Core

/-! ### Parameters -/

/-- Does a number fit a column of type INTEGER? -/
def fitsInteger (number : Nat) : Bool := decide (number < 2147483648)

def isHexDigit (c : Char) : Bool :=
  ('0' ≤ c && c ≤ '9') || ('a' ≤ c && c ≤ 'f') || ('A' ≤ c && c ≤ 'F')

/-- Read `bytes` pairs of hex digits. A hyphen may follow every second byte but the last. -/
def uuidBytes : (bytes : Nat) → List Char → Option (List Char × List Char)
  | 0, rest => some ([], rest)
  | bytes + 1, high :: low :: rest =>
      if isHexDigit high && isHexDigit low then
        let rest :=
          match rest with
          | '-' :: more => if bytes % 2 = 0 && bytes ≠ 0 then more else rest
          | _ => rest
        (uuidBytes bytes rest).map fun read => (high.toLower :: low.toLower :: read.1, read.2)
      else none
  | _ + 1, _ => none

/-- The canonical text of 32 hex digits. -/
def uuidText (digits : List Char) : String :=
  String.ofList (digits.take 8 ++ '-' :: (digits.drop 8).take 4 ++ '-' :: (digits.drop 12).take 4 ++
    '-' :: (digits.drop 16).take 4 ++ '-' :: digits.drop 20)

/-- The input function of type UUID: the canonical text of the value, if there is one. -/
def uuidIn (text : String) : Option String :=
  match text.toList with
  | '{' :: rest =>
      match uuidBytes 16 rest with
      | some (digits, ['}']) => some (uuidText digits)
      | _ => none
  | rest =>
      match uuidBytes 16 rest with
      | some (digits, []) => some (uuidText digits)
      | _ => none

/-! ### Rows -/

/-- One row of `lab_sessions`. -/
structure SessionRow where
  sessionId : String
  labId : String
  provider : LabProviderId
  sandboxKind : SandboxKind
  sandboxRef : String
  /-- `namespace` in the source. -/
  namespaceName : String
  serviceAccountName : String
  status : SessionStatus
  environmentId : String
  ownerUserId : Option String
  createdAt : Instant
  lastActivityAt : Instant
  statusChangedAt : Instant
  expiresAt : Instant
  endedAt : Option Instant
  statusReason : Option String
  idleTimeoutSeconds : Nat
  idleWarningSeconds : Nat
  revision : Nat
  shellUid : Nat
deriving DecidableEq, Inhabited

/-- What a read returns. An empty owner or reason is falsy, and is left out. -/
def SessionRow.toSession (row : SessionRow) : LabSession where
  sessionId := row.sessionId
  labId := row.labId
  provider := row.provider
  sandboxKind := row.sandboxKind
  sandboxRef := row.sandboxRef
  namespaceName := row.namespaceName
  serviceAccountName := row.serviceAccountName
  status := row.status
  environmentId := row.environmentId
  createdAt := row.createdAt
  lastActivityAt := row.lastActivityAt
  statusChangedAt := row.statusChangedAt
  expiresAt := row.expiresAt
  endedAt := row.endedAt
  statusReason := row.statusReason.filter (· ≠ "")
  ownerUserId := row.ownerUserId.filter (· ≠ "")
  shellUid := some row.shellUid
  idleTimeoutSeconds := row.idleTimeoutSeconds
  idleWarningSeconds := row.idleWarningSeconds

@[simp] theorem SessionRow.toSession_sessionId (row : SessionRow) :
    row.toSession.sessionId = row.sessionId := rfl

/-- `assignments`: the fields of a patch that have a column in `PATCHABLE`, written to a row. -/
def SessionPatch.assignments (patch : SessionPatch) (row : SessionRow) : SessionRow :=
  { row with
    status := patch.status.getD row.status
    environmentId := patch.environmentId.getD row.environmentId
    lastActivityAt := patch.lastActivityAt.getD row.lastActivityAt
    statusChangedAt := patch.statusChangedAt.getD row.statusChangedAt
    expiresAt := patch.expiresAt.getD row.expiresAt
    endedAt := patch.endedAt.or row.endedAt
    statusReason := patch.statusReason.or row.statusReason
    idleTimeoutSeconds := patch.idleTimeoutSeconds.getD row.idleTimeoutSeconds
    idleWarningSeconds := patch.idleWarningSeconds.getD row.idleWarningSeconds
    serviceAccountName := patch.serviceAccountName.getD row.serviceAccountName }

/-- Does the patch set any column? -/
def SessionPatch.sets (patch : SessionPatch) : Bool :=
  patch.status.isSome || patch.environmentId.isSome || patch.lastActivityAt.isSome ||
    patch.statusChangedAt.isSome || patch.expiresAt.isSome || patch.endedAt.isSome ||
    patch.statusReason.isSome || patch.idleTimeoutSeconds.isSome ||
    patch.idleWarningSeconds.isSome || patch.serviceAccountName.isSome

/-- Can PostgreSQL take the values of a patch as parameters? -/
def SessionPatch.bindable (patch : SessionPatch) : Bool :=
  patch.environmentId.all (!hasNul ·) && patch.statusReason.all (!hasNul ·) &&
    patch.serviceAccountName.all (!hasNul ·) && patch.idleTimeoutSeconds.all fitsInteger &&
    patch.idleWarningSeconds.all fitsInteger

/-- Can PostgreSQL take the values of a session as the parameters of its INSERT? -/
def LabSession.bindable (session : LabSession) : Bool :=
  [session.sessionId, session.labId, session.sandboxRef, session.namespaceName,
      session.serviceAccountName, session.environmentId].all (!hasNul ·) &&
    session.statusReason.all (!hasNul ·) &&
    (session.ownerUserId.all fun owner => (uuidIn owner).isSome) &&
    fitsInteger session.idleTimeoutSeconds && fitsInteger session.idleWarningSeconds

/-- What the store throws: its own words for a conflict, or the driver's error as it is. -/
inductive SqlFailure where
  | conflict (message : String)
  | driver
deriving DecidableEq, Inhabited

/-! ### The store -/

/-- The database as the session store sees it: `lab_sessions` with its primary key, the sequence of its
    shell uids, and the users its owners refer to. -/
structure PostgresSessionStore where
  rows : List SessionRow
  nextShellUid : Nat
  users : List String
  distinct : Keyed.Distinct SessionRow.sessionId rows

namespace PostgresSessionStore

/-- A migrated database with users and no session. -/
def migrated (users : List String) : PostgresSessionStore :=
  ⟨[], shellUidMin, users, Keyed.Distinct.nil⟩

variable (store : PostgresSessionStore)

/-- `SELECT … WHERE session_id = $1`. -/
def lookup (sessionId : String) : Option SessionRow :=
  Keyed.lookup SessionRow.sessionId sessionId store.rows

/-- `UPDATE … SET …, revision = revision + 1 WHERE session_id = $1`. -/
def updateRow (sessionId : String) (change : SessionRow → SessionRow)
    (stable : ∀ row, (change row).sessionId = row.sessionId) : PostgresSessionStore where
  rows := Keyed.modify SessionRow.sessionId sessionId
    (fun row => { change row with revision := row.revision + 1 }) store.rows
  nextShellUid := store.nextShellUid
  users := store.users
  distinct := store.distinct.modify stable

def get (sessionId : String) : Except SqlFailure (Option LabSession) :=
  if hasNul sessionId then .error .driver
  else .ok ((store.lookup sessionId).map SessionRow.toSession)

def update (sessionId : String) (patch : SessionPatch) :
    Except SqlFailure (Option LabSession) × PostgresSessionStore :=
  if !patch.sets then (store.get sessionId, store)
  else if hasNul sessionId || !patch.bindable then (.error .driver, store)
  else
    match store.lookup sessionId with
    | none => (.ok none, store)
    | some row =>
        ( .ok (some (patch.assignments row).toSession),
          store.updateRow sessionId patch.assignments fun _ => rfl )

/-- `WHERE session_id = $1 AND status = ANY($2)`, with the guards. -/
def claimable (source : List SessionStatus) (guard : TransitionGuard) (row : SessionRow) : Bool :=
  source.contains row.status && guard.statusChangedAt.all (row.statusChangedAt == ·) &&
    guard.lastActivityAt.all (row.lastActivityAt == ·)

/-- The row a transition writes. `status` on the right of SET is the row as it was, so the stamp is
    written only when the status moves. -/
def transitionRow (target : SessionStatus) (patch : SessionPatch) (row : SessionRow) : SessionRow :=
  let written := SessionPatch.assignments
    { patch with status := some target, statusChangedAt := none } row
  { written with
    statusChangedAt :=
      match patch.statusChangedAt with
      | some stamp => if row.status = target then row.statusChangedAt else stamp
      | none => row.statusChangedAt }

def transition (sessionId : String) (source : List SessionStatus) (target : SessionStatus)
    (patch : SessionPatch) (guard : TransitionGuard) :
    Except SqlFailure (Option LabSession) × PostgresSessionStore :=
  if hasNul sessionId || !patch.bindable then (.error .driver, store)
  else
    match store.lookup sessionId with
    | none => (.ok none, store)
    | some row =>
        if claimable source guard row then
          ( .ok (some (transitionRow target patch row).toSession),
            store.updateRow sessionId (transitionRow target patch) fun _ => rfl )
        else (.ok none, store)

def touchActivity (sessionId : String) (atTime : Instant) :
    Except SqlFailure (Option LabSession) × PostgresSessionStore :=
  if hasNul sessionId then (.error .driver, store)
  else
    match store.lookup sessionId with
    | none => (.ok none, store)
    | some row =>
        if activityStatuses.contains row.status then
          ( .ok (some { row with lastActivityAt := atTime }.toSession),
            store.updateRow sessionId ({ · with lastActivityAt := atTime }) fun _ => rfl )
        else (.ok none, store)

def delete (sessionId : String) : Except SqlFailure Unit × PostgresSessionStore :=
  if hasNul sessionId then (.error .driver, store)
  else
    ( .ok (),
      { store with
        rows := Keyed.remove SessionRow.sessionId sessionId store.rows
        distinct := store.distinct.remove } )

/-- `ORDER BY created_at`. -/
def list : List LabSession :=
  (store.rows.mergeSort fun a b => decide (a.createdAt ≤ b.createdAt)).map SessionRow.toSession

/-- `ORDER BY created_at DESC`, over one owner's occupying rows. -/
def listOccupyingForOwner (ownerUserId : String) : Except SqlFailure (List LabSession) :=
  match uuidIn ownerUserId with
  | none => .error .driver
  | some owner =>
      .ok (((store.rows.filter fun row =>
        occupyingStatuses.contains row.status && row.ownerUserId == some owner).mergeSort
          fun a b => decide (b.createdAt ≤ a.createdAt)).map SessionRow.toSession)

/-- Past the absolute deadline, or idle too long; `ORDER BY expires_at`. -/
def listExpirable (now : Instant) : List LabSession :=
  ((store.rows.filter fun row =>
    occupyingStatuses.contains row.status &&
      (decide (row.expiresAt ≤ now) ||
        decide (row.lastActivityAt + row.idleTimeoutSeconds * 1000 ≤ now))).mergeSort
          fun a b => decide (a.expiresAt ≤ b.expiresAt)).map SessionRow.toSession

def countOccupying : Nat := store.rows.countP fun row => occupyingStatuses.contains row.status

/-- `WHERE sandbox_ref = $1`. -/
def findBySandboxRef (sandboxRef : String) : Except SqlFailure (Option LabSession) :=
  if hasNul sandboxRef then .error .driver
  else .ok ((store.rows.find? fun row => row.sandboxRef == sandboxRef).map SessionRow.toSession)

def findByNamespace (namespaceName : String) : Except SqlFailure (Option LabSession) :=
  store.findBySandboxRef namespaceName

/-- `count(*) FILTER (WHERE owner_user_id = $2)` over the occupying rows; NULL equals nothing. -/
def countOwner (owner : Option String) : Nat :=
  store.rows.countP fun row =>
    occupyingStatuses.contains row.status && (owner.isSome && row.ownerUserId == owner)

/-- The row an INSERT adds. -/
def insertedRow (session : LabSession) : SessionRow where
  sessionId := session.sessionId
  labId := session.labId
  provider := session.provider
  sandboxKind := session.sandboxKind
  sandboxRef := session.sandboxRef
  namespaceName := session.namespaceName
  serviceAccountName := session.serviceAccountName
  status := session.status
  environmentId := session.environmentId
  ownerUserId := session.ownerUserId.bind uuidIn
  createdAt := session.createdAt
  lastActivityAt := session.lastActivityAt
  statusChangedAt := session.statusChangedAt
  expiresAt := session.expiresAt
  endedAt := session.endedAt
  statusReason := session.statusReason
  idleTimeoutSeconds := session.idleTimeoutSeconds
  idleWarningSeconds := session.idleWarningSeconds
  revision := 1
  shellUid := store.nextShellUid

/-- `nextval` of the sequence; what it hands out stays handed out when the INSERT fails. -/
def takeShellUid : PostgresSessionStore := { store with nextShellUid := store.nextShellUid + 1 }

/-- `insertSession`. -/
def insertSession (session : LabSession) : Except SqlFailure Unit × PostgresSessionStore :=
  if !session.bindable then (.error .driver, store)
  else if shellUidMax < store.nextShellUid then (.error .driver, store)
  else
    let row := store.insertedRow session
    if isNew : store.lookup row.sessionId = none then
      if store.rows.any fun existing => existing.sandboxRef == row.sandboxRef then
        (.error (.conflict ("session " ++ session.sessionId ++ " already exists")),
          store.takeShellUid)
      else if row.ownerUserId.all store.users.contains then
        ( .ok (),
          { store.takeShellUid with
            rows := store.rows ++ [row]
            distinct := store.distinct.append isNew } )
      else (.error .driver, store.takeShellUid)
    else
      (.error (.conflict ("session " ++ session.sessionId ++ " already exists")),
        store.takeShellUid)

/-- Count, decide and insert, in one transaction under the capacity lock. -/
def createWithinLimits (session : LabSession) (limits : CapacityLimits) :
    Except SqlFailure CapacityDecision × PostgresSessionStore :=
  if !(session.ownerUserId.all fun owner => (uuidIn owner).isSome) then (.error .driver, store)
  else
    let owner := session.ownerUserId.bind uuidIn
    match decideCapacity session limits store.countOccupying (store.countOwner owner) with
    | .refused refusedBy occupying ownerOccupying =>
        (.ok (.refused refusedBy occupying ownerOccupying), store)
    | .admitted =>
        match store.insertSession session with
        | (.error failure, store) => (.error failure, store)
        | (.ok _, store) => (.ok .admitted, store)

end PostgresSessionStore

end JumptotechLabs.Session
