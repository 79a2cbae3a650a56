/-
Module: JumptotechLabs.Progress.Repository
Layer: Progress (services/progress/src/postgres/repository.ts, types.ts, migrations/001_progress.sql)
Purpose: The durable record of what students did: the tables `lab_attempts` and `lab_progress` with their
  constraints, and the calls that write them. Each call is one statement or one transaction, so a refused
  one leaves the tables as they were.
Main exports: LabAttempt, LabProgress, ProgressTables, createAttempt, bindSession, recordCheck, recordReset,
  finishAttempt, expireStaleAttempts, ProgressCall, postgresProgress
-/
import JumptotechLabs.Access.PostgresStore
import JumptotechLabs.Core.Keyed
import JumptotechLabs.Core.Object

namespace JumptotechLabs.Progress

open JumptotechLabs.Access (Instant isUuid stampAllowed)
open JumptotechLabs.Core

/-! ### Rows -/

/-- A value of a `UUID` column, as it is read back: `randomUUID` gives no other text. -/
abbrev Uuid := { text : String // isUuid text = true }

inductive AttemptStatus where
  | inProgress
  | passed
  | failed
  | ended
  | expired
deriving DecidableEq, Inhabited

/-- How an attempt that never passed was closed. -/
inductive AttemptOutcome where
  | ended
  | expired
  | failed
deriving DecidableEq, Inhabited

def AttemptOutcome.toStatus : AttemptOutcome → AttemptStatus
  | .ended => .ended
  | .expired => .expired
  | .failed => .failed

inductive ProgressStatus where
  | inProgress
  | completed
deriving DecidableEq, Inhabited

/-- One attempt at one lab: a row of `lab_attempts`. -/
structure LabAttempt where
  attemptId : Uuid
  studentId : String
  labId : String
  track : String
  sessionId : Option String
  status : AttemptStatus
  statusReason : Option String
  startedAt : Instant
  /-- When the verifier first returned PASS. -/
  completedAt : Option Instant
  /-- When the sandbox went away. -/
  endedAt : Option Instant
  checkCount : Nat
  resetCount : Nat
  updatedAt : Instant
deriving DecidableEq

/-- A student's standing on one lab: a row of `lab_progress`. -/
structure LabProgress where
  studentId : String
  labId : String
  track : String
  status : ProgressStatus
  attemptCount : Nat
  completionCount : Nat
  firstCompletedAt : Option Instant
  lastCompletedAt : Option Instant
  lastAttemptId : Option Uuid
  firstAttemptAt : Instant
  updatedAt : Instant
deriving DecidableEq

/-- The primary key of `lab_progress`. -/
def LabProgress.key (row : LabProgress) : String × String := (row.studentId, row.labId)

/-! ### Tables -/

/-- The students there are, and the two tables; the attempts by `seq`. -/
structure ProgressTables where
  students : List String
  attempts : List LabAttempt
  progress : List LabProgress
  attemptKeys : Keyed.Distinct LabAttempt.attemptId attempts
  progressKeys : Keyed.Distinct LabProgress.key progress

namespace ProgressTables

/-- No attempt was made. -/
def empty (students : List String) : ProgressTables := ⟨students, [], [], .nil, .nil⟩

variable (tables : ProgressTables)

def attempt (attemptId : Uuid) : Option LabAttempt :=
  Keyed.lookup LabAttempt.attemptId attemptId tables.attempts

def progressOf (studentId labId : String) : Option LabProgress :=
  Keyed.lookup LabProgress.key (studentId, labId) tables.progress

def putProgress (row : LabProgress) : ProgressTables :=
  { tables with
    progress := Keyed.put LabProgress.key row tables.progress
    progressKeys := tables.progressKeys.put }

/-- `UPDATE lab_attempts`, of every row: none changes its id. -/
def updateAttempts (change : LabAttempt → LabAttempt)
    (stable : ∀ row, (change row).attemptId = row.attemptId) : ProgressTables :=
  { tables with
    attempts := tables.attempts.map change
    attemptKeys := by
      have sameKeys : (tables.attempts.map change).map LabAttempt.attemptId =
          tables.attempts.map LabAttempt.attemptId := by
        rw [List.map_map]
        exact List.map_congr_left fun row _ => stable row
      rw [Keyed.Distinct, sameKeys]
      exact tables.attemptKeys }

end ProgressTables

/-! ### Failures -/

/-- What a call throws: a `ProgressError`, or the database's error. -/
inductive ProgressFailure where
  | attemptNotFound (message : String)
  | databaseError
deriving DecidableEq, Inhabited

/-- `count + 1` in an `INTEGER` column. -/
def increment (count : Nat) : Except ProgressFailure Nat :=
  if count < 2147483647 then .ok (count + 1) else .error .databaseError

/-! ### Statements -/

/-- `createAttempt`'s argument. -/
structure NewAttempt where
  attemptId : Uuid
  studentId : String
  labId : String
  track : String
  startedAt : Instant
deriving DecidableEq

def NewAttempt.row (input : NewAttempt) : LabAttempt where
  attemptId := input.attemptId
  studentId := input.studentId
  labId := input.labId
  track := input.track
  sessionId := none
  status := .inProgress
  statusReason := none
  startedAt := input.startedAt
  completedAt := none
  endedAt := none
  checkCount := 0
  resetCount := 0
  updatedAt := input.startedAt

/-- The row of a lab that was never started before. -/
def startedRow (studentId labId track : String) (attemptId : Uuid) (time : Instant) :
    LabProgress where
  studentId := studentId
  labId := labId
  track := track
  status := .inProgress
  attemptCount := 1
  completionCount := 0
  firstCompletedAt := none
  lastCompletedAt := none
  lastAttemptId := some attemptId
  firstAttemptAt := time
  updatedAt := time

/-- Starting a lab again counts one attempt more, and never demotes a completed one. -/
def touchProgressOnStart (tables : ProgressTables) (input : NewAttempt) :
    Except ProgressFailure ProgressTables := do
  match tables.progressOf input.studentId input.labId with
  | none =>
      return tables.putProgress
        (startedRow input.studentId input.labId input.track input.attemptId input.startedAt)
  | some row =>
      let attemptCount ← increment row.attemptCount
      return tables.putProgress
        { row with
          attemptCount := attemptCount
          lastAttemptId := some input.attemptId
          status := if row.status = .completed then .completed else .inProgress
          updatedAt := input.startedAt }

/-- A completion: the first one's time stays. -/
def markCompleted (tables : ProgressTables) (attempt : LabAttempt) (time : Instant) :
    Except ProgressFailure (LabProgress × ProgressTables) := do
  match tables.progressOf attempt.studentId attempt.labId with
  | none =>
      let row : LabProgress :=
        { startedRow attempt.studentId attempt.labId attempt.track attempt.attemptId time with
          status := .completed
          completionCount := 1
          firstCompletedAt := some time
          lastCompletedAt := some time }
      return (row, tables.putProgress row)
  | some found =>
      let completionCount ← increment found.completionCount
      let row : LabProgress :=
        { found with
          status := .completed
          completionCount := completionCount
          firstCompletedAt := found.firstCompletedAt.or (some time)
          lastCompletedAt := some time
          updatedAt := time }
      return (row, tables.putProgress row)

/-- The stored row, materialised if it is missing. -/
def readProgress (tables : ProgressTables) (attempt : LabAttempt) : LabProgress × ProgressTables :=
  match tables.progressOf attempt.studentId attempt.labId with
  | some row => (row, tables)
  | none =>
      let row := startedRow attempt.studentId attempt.labId attempt.track attempt.attemptId
        attempt.updatedAt
      (row, tables.putProgress row)

/-! ### Calls -/

/-- The text and the times of a call are ones the columns hold. -/
def paramsAllowed (texts : List String) (times : List Instant) : Bool :=
  (texts.all fun text => !hasNul text) && times.all stampAllowed

/-- The attempt row and the progress row are written together or not at all. -/
def createAttempt (tables : ProgressTables) (input : NewAttempt) :
    Except ProgressFailure (LabAttempt × ProgressTables) :=
  if input.studentId ∉ tables.students ∨
      paramsAllowed [input.labId, input.track] [input.startedAt] = false then
    .error .databaseError
  else if isNew : tables.attempt input.attemptId = none then do
    let inserted : ProgressTables :=
      { tables with
        attempts := tables.attempts ++ [input.row]
        attemptKeys := tables.attemptKeys.append isNew }
    let after ← touchProgressOnStart inserted input
    return (input.row, after)
  else .error .databaseError

/-- `UPDATE lab_attempts … WHERE attempt_id = $1 RETURNING …`. -/
def updateAttempt (tables : ProgressTables) (attemptId : Uuid) (change : LabAttempt → LabAttempt)
    (stable : ∀ row, (change row).attemptId = row.attemptId) :
    Option LabAttempt × ProgressTables :=
  ((tables.attempt attemptId).map change,
    tables.updateAttempts (fun row => if row.attemptId = attemptId then change row else row) (by
      intro row
      split
      · exact stable row
      · rfl))

/-- At most one attempt has a session. -/
def bindSession (tables : ProgressTables) (attemptId : Uuid) (sessionId : String) (time : Instant) :
    Except ProgressFailure (Option LabAttempt × ProgressTables) :=
  if paramsAllowed [sessionId] [time] = false then .error .databaseError
  else if (tables.attempt attemptId).isSome = true ∧ tables.attempts.any (fun row =>
      row.attemptId != attemptId && row.sessionId == some sessionId) = true then
    .error .databaseError
  else
    .ok (updateAttempt tables attemptId
      (fun row => { row with sessionId := some sessionId, updatedAt := time }) fun _ => rfl)

/-- `CheckOutcome`. -/
structure CheckOutcome where
  attempt : LabAttempt
  passed : Bool
  newlyCompleted : Bool
  progress : LabProgress
deriving DecidableEq

/-- What a check writes: the first pass completes the attempt, whatever closed it before. -/
def checkedRow (row : LabAttempt) (passed : Bool) (checkCount : Nat) (time : Instant) : LabAttempt :=
  { row with
    checkCount := checkCount
    updatedAt := time
    status := if passed then .passed else row.status
    completedAt := if passed then row.completedAt.or (some time) else row.completedAt }

/-- The progress row a check answers with. -/
def progressAfter (checked : ProgressTables) (attempt : LabAttempt) (newlyCompleted : Bool)
    (time : Instant) : Except ProgressFailure (LabProgress × ProgressTables) :=
  if newlyCompleted then markCompleted checked attempt time
  else .ok (readProgress checked attempt)

/-- One transaction, one row lock. -/
def recordCheck (tables : ProgressTables) (attemptId : Uuid) (passed : Bool) (time : Instant) :
    Except ProgressFailure (CheckOutcome × ProgressTables) :=
  match tables.attempt attemptId with
  | none => .error (.attemptNotFound ("No lab attempt " ++ attemptId.val))
  | some before =>
      if stampAllowed time = false then .error .databaseError
      else do
        let newlyCompleted := passed && before.completedAt.isNone
        let checkCount ← increment before.checkCount
        let attempt := checkedRow before passed checkCount time
        let checked := (updateAttempt tables attemptId (checkedRow · passed checkCount time)
          fun _ => rfl).2
        let progress ← progressAfter checked attempt newlyCompleted time
        return (⟨attempt, passed, newlyCompleted, progress.1⟩, progress.2)

def recordReset (tables : ProgressTables) (attemptId : Uuid) (time : Instant) :
    Except ProgressFailure (Option LabAttempt × ProgressTables) :=
  if stampAllowed time = false then .error .databaseError
  else
    match tables.attempt attemptId with
    | none => .ok (none, tables)
    | some before => do
        let resetCount ← increment before.resetCount
        return updateAttempt tables attemptId
          (fun row => { row with resetCount := resetCount, updatedAt := time }) fun _ => rfl

/-- The sandbox went away: only an attempt in progress takes the outcome. -/
def finishedRow (row : LabAttempt) (outcome : AttemptOutcome) (reason : Option String)
    (time : Instant) : LabAttempt :=
  { row with
    status := if row.status = .inProgress then outcome.toStatus else row.status
    statusReason := if row.status = .inProgress then reason else row.statusReason
    endedAt := row.endedAt.or (some time)
    updatedAt := time }

def finishAttempt (tables : ProgressTables) (attemptId : Uuid) (outcome : AttemptOutcome)
    (reason : Option String) (time : Instant) : Except ProgressFailure (Option LabAttempt × ProgressTables) :=
  if paramsAllowed reason.toList [time] = false then .error .databaseError
  else .ok (updateAttempt tables attemptId (finishedRow · outcome reason time) fun _ => rfl)

/-- In progress since before an instant, with no live session. -/
def isStale (row : LabAttempt) (startedBefore : Instant) (liveSessionIds : List String) : Bool :=
  row.status == .inProgress && decide (row.startedAt < startedBefore) &&
    row.sessionId.all fun sessionId => !liveSessionIds.contains sessionId

def expiredRow (row : LabAttempt) (reason : String) (time : Instant) : LabAttempt :=
  { row with
    status := .expired
    statusReason := some reason
    endedAt := row.endedAt.or (some time)
    updatedAt := time }

/-- One statement, and only over attempts no sandbox can still back. -/
def expireStaleAttempts (tables : ProgressTables) (startedBefore : Instant) (reason : String)
    (time : Instant) (liveSessionIds : List String) : Except ProgressFailure (Nat × ProgressTables) :=
  if paramsAllowed (reason :: liveSessionIds) [startedBefore, time] = false then
    .error .databaseError
  else
    .ok (tables.attempts.countP (isStale · startedBefore liveSessionIds),
      tables.updateAttempts
        (fun row => if isStale row startedBefore liveSessionIds then expiredRow row reason time else row)
        (by
          intro row
          split
          · rfl
          · rfl))

/-! ### The repository -/

/-- What is asked of the repository. -/
inductive ProgressRequest where
  | createAttempt (input : NewAttempt)
  | bindSession (attemptId : Uuid) (sessionId : String) (time : Instant)
  | recordCheck (attemptId : Uuid) (passed : Bool) (time : Instant)
  | recordReset (attemptId : Uuid) (time : Instant)
  | finishAttempt (attemptId : Uuid) (outcome : AttemptOutcome) (reason : Option String)
      (time : Instant)
  | expireStaleAttempts (startedBefore : Instant) (reason : String) (time : Instant)
      (liveSessionIds : List String)
deriving DecidableEq

/-- One call. The database may be gone, or refuse for a reason of its own. -/
structure ProgressCall where
  request : ProgressRequest
  served : Bool := true
deriving DecidableEq

/-- What it returns. -/
inductive ProgressAnswer where
  | attempt (attempt : Option LabAttempt)
  | check (outcome : CheckOutcome)
  | expired (count : Nat)
deriving DecidableEq

abbrev ProgressReply := Except ProgressFailure ProgressAnswer

/-- A request as one transaction. -/
def perform (tables : ProgressTables) : ProgressRequest → Except ProgressFailure (ProgressAnswer × ProgressTables)
  | .createAttempt input =>
      (createAttempt tables input).map fun written => (.attempt (some written.1), written.2)
  | .bindSession attemptId sessionId time =>
      (bindSession tables attemptId sessionId time).map fun written => (.attempt written.1, written.2)
  | .recordCheck attemptId passed time =>
      (recordCheck tables attemptId passed time).map fun written => (.check written.1, written.2)
  | .recordReset attemptId time =>
      (recordReset tables attemptId time).map fun written => (.attempt written.1, written.2)
  | .finishAttempt attemptId outcome reason time =>
      (finishAttempt tables attemptId outcome reason time).map fun written =>
        (.attempt written.1, written.2)
  | .expireStaleAttempts startedBefore reason time liveSessionIds =>
      (expireStaleAttempts tables startedBefore reason time liveSessionIds).map fun written =>
        (.expired written.1, written.2)

/-- `PostgresProgressRepository` as an object: a call that throws is rolled back. -/
abbrev postgresProgress : Object ProgressCall ProgressReply where
  State := ProgressTables
  step := fun tables call =>
    if call.served then
      match perform tables call.request with
      | .ok (answer, after) => (.ok answer, after)
      | .error failure => (.error failure, tables)
    else (.error .databaseError, tables)

end JumptotechLabs.Progress
