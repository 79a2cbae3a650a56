/-
Module: JumptotechLabs.Progress.Service
Layer: Progress (services/progress/src/service.ts, identity.ts, postgres/repository.ts)
Purpose: The learning-history use cases over the repository. A call that starts with a lookup waits between
  its two statements, and other calls may come in between; the session it was asked for names its attempt
  once, before it waits.
Main exports: assertValidStudentId, ensureStudent, findAttemptBySession, isClosedAttempt, ServiceRequest,
  WaitingCall, ServiceEvent, progressService
-/
import JumptotechLabs.Core.Utf8
import JumptotechLabs.Progress.Repository

namespace JumptotechLabs.Progress

open JumptotechLabs.Access (Instant isUuid stampAllowed)
open JumptotechLabs.Core

/-- What a call of the service throws: a refused student id, a time that is no date, or the repository's failure. -/
inductive ServiceFailure where
  | invalidStudentId (message : String)
  | rangeError
  | progress (failure : ProgressFailure)
deriving DecidableEq

/-! ### Students -/

/-- `value.toLowerCase()`, on the characters whose lower case the pattern of student ids can take: the letters
    `A` to `Z`, and the Kelvin sign. -/
def lowerSlugChar (c : Char) : Char :=
  if 'A' ≤ c ∧ c ≤ 'Z' then Char.ofNat (c.toNat + 32) else if c.toNat = 0x212A then 'k' else c

def isLowerAlphanumeric (c : Char) : Bool := ('a' ≤ c && c ≤ 'z') || ('0' ≤ c && c ≤ '9')

/-- `STUDENT_ID_PATTERN`, `^[a-z0-9][a-z0-9._-]{2,63}$`. -/
def matchesStudentIdPattern : List Char → Bool
  | [] => false
  | first :: rest =>
      isLowerAlphanumeric first && 2 ≤ rest.length && rest.length ≤ 63 &&
        rest.all fun c => isLowerAlphanumeric c || c == '.' || c == '_' || c == '-'

def assertValidStudentId (value : String) : Except ServiceFailure String :=
  let raw := (trimChars value.toList).map lowerSlugChar
  if matchesStudentIdPattern raw then .ok (String.ofList raw)
  else .error (.invalidStudentId
    "Student ids are 3–64 characters of lowercase letters, digits, dot, dash or underscore.")

/-- `INSERT INTO students … ON CONFLICT (student_id) DO UPDATE …`, of the columns that are read. -/
def ensureStudent (tables : ProgressTables) (studentId identitySource : String) (time : Instant) :
    Except ProgressFailure ProgressTables :=
  if paramsAllowed [studentId, identitySource] [time] = false then .error .databaseError
  else if studentId ∈ tables.students then .ok tables
  else .ok { tables with students := tables.students ++ [studentId] }

/-! ### Attempts -/

/-- `CLOSED_ATTEMPT_STATUSES`: statuses from which an attempt can no longer change. -/
def closedAttemptStatuses : List AttemptStatus := [.passed, .failed, .ended, .expired]

def isClosedAttempt (status : AttemptStatus) : Bool := closedAttemptStatuses.contains status

/-- `SELECT … FROM lab_attempts WHERE session_id = $1`. -/
def findAttemptBySession (tables : ProgressTables) (sessionId : String) :
    Except ProgressFailure (Option LabAttempt) :=
  if paramsAllowed [sessionId] [] = false then .error .databaseError
  else .ok (tables.attempts.find? fun row => row.sessionId == some sessionId)

/-! ### Calls -/

/-- `new Date(now).toISOString()`: a date is at most 100 000 000 days from 1970. -/
def timestamp (now : Instant) : Except ServiceFailure Instant :=
  if now.natAbs ≤ 8640000000000000 then .ok now else .error .rangeError

/-- What is asked of the service; `attemptId` is the id `randomUUID` gives. -/
inductive ServiceRequest where
  | startAttempt (studentId labId track identitySource : String) (attemptId : Uuid)
  | bindSession (attemptId : Uuid) (sessionId : String)
  | failAttempt (attemptId : Uuid) (reason : String)
  | recordCheck (sessionId : String) (passed : Bool)
  | recordReset (sessionId : String)
  | closeSession (sessionId : String) (outcome : AttemptOutcome) (reason : Option String)
  | expireAbandonedAttempts (maxSessionSeconds : Int) (graceSeconds : Option Int) (reason : Option String)
      (liveSessionIds : Option (List String))
deriving DecidableEq

/-- A call whose first statement was answered, with what its second one needs. -/
inductive WaitingCall where
  | create (input : NewAttempt)
  | check (attemptId : Uuid) (passed : Bool)
  | reset (attemptId : Uuid)
  | close (attemptId : Uuid) (outcome : AttemptOutcome) (reason : Option String)
deriving DecidableEq

inductive ServiceReply where
  | waits (call : WaitingCall)
  /-- `none` is the answer where the session has no attempt. -/
  | returns (answer : Option ProgressAnswer)
  | throws (failure : ServiceFailure)
deriving DecidableEq

def ServiceReply.ofRepository : ProgressReply → ServiceReply
  | .ok answer => .returns (some answer)
  | .error failure => .throws (.progress failure)

def ServiceReply.waiting : ServiceReply → List WaitingCall
  | .waits call => [call]
  | _ => []

/-- A call that is one statement of the repository, at the time of the clock. -/
def callRepository (tables : ProgressTables) (now : Instant) (served : Bool)
    (request : Instant → ProgressRequest) : ServiceReply × ProgressTables :=
  match timestamp now with
  | .error failure => (.throws failure, tables)
  | .ok time =>
      let called := postgresProgress.step tables ⟨request time, served⟩
      (.ofRepository called.1, called.2)

/-- A call for a session: its attempt is found, and the call goes on with it. -/
def forSession (tables : ProgressTables) (served : Bool) (sessionId : String)
    (goOn : LabAttempt → WaitingCall) : ServiceReply × ProgressTables :=
  if !served then (.throws (.progress .databaseError), tables)
  else
    match findAttemptBySession tables sessionId with
    | .error failure => (.throws (.progress failure), tables)
    | .ok none => (.returns none, tables)
    | .ok (some attempt) => (.waits (goOn attempt), tables)

/-- Open an attempt: the student's row first. -/
def startAttempt (tables : ProgressTables) (now : Instant) (served : Bool)
    (studentId labId track identitySource : String) (attemptId : Uuid) : ServiceReply × ProgressTables :=
  match assertValidStudentId studentId, timestamp now with
  | .error failure, _ => (.throws failure, tables)
  | _, .error failure => (.throws failure, tables)
  | .ok student, .ok time =>
      if !served then (.throws (.progress .databaseError), tables)
      else
        match ensureStudent tables student identitySource time with
        | .error failure => (.throws (.progress failure), tables)
        | .ok ensured => (.waits (.create ⟨attemptId, student, labId, track, time⟩), ensured)

/-- Close attempts whose sandbox cannot possibly exist any more. -/
def expireAbandonedAttempts (tables : ProgressTables) (now : Instant) (served : Bool)
    (maxSessionSeconds : Int) (graceSeconds : Option Int) (reason : Option String)
    (liveSessionIds : Option (List String)) : ServiceReply × ProgressTables :=
  match timestamp (now - (maxSessionSeconds + graceSeconds.getD 300) * 1000) with
  | .error failure => (.throws failure, tables)
  | .ok startedBefore =>
      callRepository tables now served fun time =>
        .expireStaleAttempts startedBefore (reason.getD "the lab environment is no longer running") time
          (liveSessionIds.getD [])

/-- A call up to the answer of its first statement. -/
def ask (tables : ProgressTables) (now : Instant) (served : Bool) : ServiceRequest → ServiceReply × ProgressTables
  | .startAttempt studentId labId track identitySource attemptId =>
      startAttempt tables now served studentId labId track identitySource attemptId
  | .bindSession attemptId sessionId =>
      callRepository tables now served (.bindSession attemptId sessionId)
  | .failAttempt attemptId reason =>
      callRepository tables now served (.finishAttempt attemptId .failed (some reason))
  | .recordCheck sessionId passed =>
      forSession tables served sessionId fun attempt => .check attempt.attemptId passed
  | .recordReset sessionId => forSession tables served sessionId fun attempt => .reset attempt.attemptId
  | .closeSession sessionId outcome reason =>
      forSession tables served sessionId fun attempt => .close attempt.attemptId outcome reason
  | .expireAbandonedAttempts maxSessionSeconds graceSeconds reason liveSessionIds =>
      expireAbandonedAttempts tables now served maxSessionSeconds graceSeconds reason liveSessionIds

/-- The second statement of a call that waits. -/
def resume (tables : ProgressTables) (now : Instant) (served : Bool) : WaitingCall → ServiceReply × ProgressTables
  | .create input =>
      let called := postgresProgress.step tables ⟨.createAttempt input, served⟩
      (.ofRepository called.1, called.2)
  | .check attemptId passed => callRepository tables now served (.recordCheck attemptId passed)
  | .reset attemptId => callRepository tables now served (.recordReset attemptId)
  | .close attemptId outcome reason => callRepository tables now served (.finishAttempt attemptId outcome reason)

/-- The database, and the calls that wait. -/
structure ServiceState where
  tables : ProgressTables
  waiting : List WaitingCall

/-- A call is made, or one that waits goes on. The clock and the database are asked each time. -/
inductive ServiceEvent where
  | asked (request : ServiceRequest) (now : Instant) (served : Bool)
  | resumed (index : Nat) (now : Instant) (served : Bool)
deriving DecidableEq

/-- `ProgressService`, with any number of calls under way. -/
abbrev progressService : Object ServiceEvent ServiceReply where
  State := ServiceState
  step := fun state event =>
    match event with
    | .asked request now served =>
        let answered := ask state.tables now served request
        (answered.1, ⟨answered.2, state.waiting ++ answered.1.waiting⟩)
    | .resumed index now served =>
        match state.waiting[index]? with
        | none => (.returns none, state)
        | some call =>
            let answered := resume state.tables now served call
            (answered.1, ⟨answered.2, state.waiting.eraseIdx index⟩)

end JumptotechLabs.Progress
