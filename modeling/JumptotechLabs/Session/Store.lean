/-
Module: JumptotechLabs.Session.Store
Layer: Session (services/lab-orchestrator/src/session/store.ts, shell-identity.ts)
Purpose: The in-memory session store, operation by operation: insertion under a capacity limit, the
  conditional status write every lifecycle change goes through, activity, listings and lookups. Each
  operation is one indivisible step, as the source's synchronous bodies and its transactions are.
Main exports: TransitionGuard, CapacityLimits, CapacityDecision, decideCapacity,
  InMemorySessionStore and its operations, get_transition, get_touchActivity, get_createWithinLimits,
  get_delete
-/
import JumptotechLabs.Session.Types
import JumptotechLabs.Core.Keyed
import Mathlib.Data.List.Sort

namespace JumptotechLabs.Session

open JumptotechLabs.Core

/-- Extra conditions a `transition` must also satisfy. -/
structure TransitionGuard where
  statusChangedAt : Option Instant := none
  lastActivityAt : Option Instant := none
deriving DecidableEq, Inhabited

/-- The ceilings a new session is admitted against. -/
structure CapacityLimits where
  maxOccupying : Nat
  maxOccupyingPerOwner : Option Nat := none
deriving DecidableEq, Inhabited

/-- Which limit refused. -/
inductive CapacityLimit where
  | global
  | owner
deriving DecidableEq, Inhabited

/-- The outcome of one admission, with the counts it was decided on. -/
inductive CapacityDecision where
  | admitted
  | refused (refusedBy : CapacityLimit) (occupying ownerOccupying : Nat)
deriving DecidableEq, Inhabited

/-- The admission rule both stores apply to the counts they took. -/
def decideCapacity (session : LabSession) (limits : CapacityLimits)
    (occupying ownerOccupying : Nat) : CapacityDecision :=
  if !occupiesCapacity session.status then .admitted
  else
    match session.ownerUserId, limits.maxOccupyingPerOwner with
    | some _, some perOwner =>
        if perOwner ≤ ownerOccupying then .refused .owner occupying ownerOccupying
        else if limits.maxOccupying ≤ occupying then .refused .global occupying ownerOccupying
        else .admitted
    | _, _ =>
        if limits.maxOccupying ≤ occupying then .refused .global occupying ownerOccupying
        else .admitted

/-- `SHELL_UID_MIN`. -/
def shellUidMin : Nat := 1900000000

/-- `SHELL_UID_MAX`. -/
def shellUidMax : Nat := 1900999999

/-- `ShellUidExhaustedError`. -/
def shellUidExhausted : Failure :=
  .error ("every session shell uid from 1900000000 to 1900999999 has been assigned; " ++
    "refusing to reuse one")

/-- The field writes of `update`: identity (the ids, the provider, the sandbox and its owner, the
    shell uid) is not state, and a patch cannot change it. -/
def SessionPatch.apply (patch : SessionPatch) (current : LabSession) : LabSession :=
  { current with
    labId := patch.labId.getD current.labId
    serviceAccountName := patch.serviceAccountName.getD current.serviceAccountName
    status := patch.status.getD current.status
    environmentId := patch.environmentId.getD current.environmentId
    createdAt := patch.createdAt.getD current.createdAt
    lastActivityAt := patch.lastActivityAt.getD current.lastActivityAt
    statusChangedAt := patch.statusChangedAt.getD current.statusChangedAt
    expiresAt := patch.expiresAt.getD current.expiresAt
    endedAt := patch.endedAt.or current.endedAt
    statusReason := patch.statusReason.or current.statusReason
    idleTimeoutSeconds := patch.idleTimeoutSeconds.getD current.idleTimeoutSeconds
    idleWarningSeconds := patch.idleWarningSeconds.getD current.idleWarningSeconds }

@[simp] theorem SessionPatch.apply_sessionId (patch : SessionPatch) (current : LabSession) :
    (patch.apply current).sessionId = current.sessionId := rfl

/-- `InMemorySessionStore`: `#bySessionId` in insertion order, and the next shell uid to assign. A row
    is stored under its own id, so no two rows share one. -/
structure InMemorySessionStore where
  sessions : List LabSession
  nextShellUid : Nat
  distinct : Keyed.Distinct LabSession.sessionId sessions

namespace InMemorySessionStore

/-- A store nobody has written to. -/
def empty : InMemorySessionStore := ⟨[], shellUidMin, Keyed.Distinct.nil⟩

def get (store : InMemorySessionStore) (sessionId : String) : Option LabSession :=
  Keyed.lookup LabSession.sessionId sessionId store.sessions

/-- Rewrite the row of `sessionId` with a patch, if there is one. -/
def patchRow (store : InMemorySessionStore) (sessionId : String) (patch : SessionPatch) :
    InMemorySessionStore where
  sessions := Keyed.modify LabSession.sessionId sessionId patch.apply store.sessions
  nextShellUid := store.nextShellUid
  distinct := store.distinct.modify patch.apply_sessionId

def update (store : InMemorySessionStore) (sessionId : String) (patch : SessionPatch) :
    Option LabSession × InMemorySessionStore :=
  match store.get sessionId with
  | none => (none, store)
  | some current => (some (patch.apply current), store.patchRow sessionId patch)

def delete (store : InMemorySessionStore) (sessionId : String) : InMemorySessionStore where
  sessions := Keyed.remove LabSession.sessionId sessionId store.sessions
  nextShellUid := store.nextShellUid
  distinct := store.distinct.remove

def list (store : InMemorySessionStore) : List LabSession := store.sessions

def listOccupying (store : InMemorySessionStore) : List LabSession :=
  store.list.filter fun session => occupiesCapacity session.status

/-- One student's own live sessions, newest first. -/
def listOccupyingForOwner (store : InMemorySessionStore) (ownerUserId : String) :
    List LabSession :=
  (store.sessions.filter fun session =>
    occupiesCapacity session.status && session.ownerUserId == some ownerUserId).mergeSort
      fun a b => decide (b.createdAt ≤ a.createdAt)

/-- Matches a session by its sandbox handle or by its namespace. -/
def findBySandboxRef (store : InMemorySessionStore) (sandboxRef : String) : Option LabSession :=
  store.sessions.find? fun session =>
    session.sandboxRef == sandboxRef || session.namespaceName == sandboxRef

def findByNamespace (store : InMemorySessionStore) (namespaceName : String) : Option LabSession :=
  store.findBySandboxRef namespaceName

/-- Does the row meet the guard of a conditional write? -/
def meetsGuard (guard : TransitionGuard) (current : LabSession) : Bool :=
  guard.statusChangedAt.all (· == current.statusChangedAt) &&
    guard.lastActivityAt.all (· == current.lastActivityAt)

/-- The patch a transition writes: the status, and the status stamp only when the status moves. -/
def transitionPatch (target : SessionStatus) (patch : SessionPatch) (current : LabSession) :
    SessionPatch :=
  { patch with
    status := some target
    statusChangedAt := if current.status = target then none else patch.statusChangedAt }

/-- Move a session to `target`, but only from one of `source`. -/
def transition (store : InMemorySessionStore) (sessionId : String) (source : List SessionStatus)
    (target : SessionStatus) (patch : SessionPatch) (guard : TransitionGuard) :
    Option LabSession × InMemorySessionStore :=
  match store.get sessionId with
  | none => (none, store)
  | some current =>
      if source.contains current.status && meetsGuard guard current then
        store.update sessionId (transitionPatch target patch current)
      else (none, store)

/-- Record activity, only in the statuses a student can be working in. -/
def touchActivity (store : InMemorySessionStore) (sessionId : String) (atTime : Instant) :
    Option LabSession × InMemorySessionStore :=
  match store.get sessionId with
  | none => (none, store)
  | some current =>
      if acceptsActivity current.status then
        store.update sessionId { lastActivityAt := some atTime }
      else (none, store)

/-- Sessions past their absolute deadline, or idle too long. -/
def listExpirable (store : InMemorySessionStore) (now : Instant) : List LabSession :=
  store.sessions.filter fun session =>
    occupiesCapacity session.status &&
      (decide (session.expiresAt ≤ now) ||
        decide (session.lastActivityAt + session.idleTimeoutSeconds * 1000 ≤ now))

def countOccupying (store : InMemorySessionStore) : Nat := store.listOccupying.length

/-- How many occupying sessions belong to the candidate's owner; nobody's without an owner. -/
def countOwner (store : InMemorySessionStore) (session : LabSession) : Nat :=
  store.sessions.countP fun existing =>
    occupiesCapacity existing.status &&
      (session.ownerUserId.isSome && existing.ownerUserId == session.ownerUserId)

/-- `#assertInsertable`: the two uniqueness rules of the durable schema. Passing it says that the id
    is new. -/
def assertInsertable (store : InMemorySessionStore) (session : LabSession) :
    Except Failure (PLift (store.get session.sessionId = none)) :=
  if isNew : store.get session.sessionId = none then
    match store.sessions.find? fun existing => existing.sandboxRef == session.sandboxRef with
    | some existing =>
        .error (.error ("sandbox " ++ session.sandboxRef ++ " is already held by session " ++
          existing.sessionId))
    | none => .ok ⟨isNew⟩
  else .error (.error ("session " ++ session.sessionId ++ " already exists"))

/-- `#withShellUid`: the row as stored, the caller's session with the uid this store chose. -/
def withShellUid (store : InMemorySessionStore) (session : LabSession) : LabSession :=
  { session with shellUid := some store.nextShellUid }

/-- Insert a row under a new id. -/
def insertRow (store : InMemorySessionStore) (session : LabSession)
    (isNew : store.get session.sessionId = none) : InMemorySessionStore where
  sessions := store.sessions ++ [store.withShellUid session]
  nextShellUid := store.nextShellUid + 1
  distinct := store.distinct.append isNew

/-- Check the uniqueness rules, choose a uid and insert; a throw writes nothing. -/
def create (store : InMemorySessionStore) (session : LabSession) :
    Except Failure Unit × InMemorySessionStore :=
  match store.assertInsertable session with
  | .error failure => (.error failure, store)
  | .ok isNew =>
      if shellUidMax < store.nextShellUid then (.error shellUidExhausted, store)
      else (.ok (), store.insertRow session isNew.down)

/-- Insert a session only if it fits under both ceilings. A refusal writes nothing. -/
def createWithinLimits (store : InMemorySessionStore) (session : LabSession)
    (limits : CapacityLimits) : Except Failure CapacityDecision × InMemorySessionStore :=
  match decideCapacity session limits store.countOccupying (store.countOwner session) with
  | .refused refusedBy occupying ownerOccupying =>
      (.ok (.refused refusedBy occupying ownerOccupying), store)
  | .admitted =>
      match store.create session with
      | (.error failure, store) => (.error failure, store)
      | (.ok _, store) => (.ok .admitted, store)

/-! ### What each operation does to the rows -/

variable {store after : InMemorySessionStore} {sessionId : String}

theorem sessionId_of_get {row : LabSession} (found : store.get sessionId = some row) :
    row.sessionId = sessionId :=
  Keyed.key_of_lookup found

theorem get_patchRow (store : InMemorySessionStore) (sessionId other : String)
    (patch : SessionPatch) :
    (store.patchRow sessionId patch).get other =
      if other = sessionId then (store.get sessionId).map patch.apply else store.get other := by
  simp only [get, patchRow, Keyed.lookup_modify _ _ _ _ patch.apply_sessionId]
  cases found : Keyed.lookup LabSession.sessionId other store.sessions with
  | none =>
      split
      · rename_i same
        rw [← same, found]
        rfl
      · rfl
  | some row =>
      have keyed : row.sessionId = other := Keyed.key_of_lookup found
      by_cases same : other = sessionId
      · subst same
        simp [found, keyed]
      · simp [keyed, same]

theorem get_delete (store : InMemorySessionStore) (sessionId other : String) :
    (store.delete sessionId).get other = if other = sessionId then none else store.get other :=
  Keyed.lookup_remove sessionId other store.sessions

theorem get_insertRow (store : InMemorySessionStore) (session : LabSession)
    (isNew : store.get session.sessionId = none) (other : String) :
    (store.insertRow session isNew).get other =
      if other = session.sessionId then some (store.withShellUid session) else store.get other := by
  simp only [get, insertRow, Keyed.lookup_append]
  by_cases same : other = session.sessionId
  · subst same
    have absent : Keyed.lookup LabSession.sessionId session.sessionId store.sessions = none := isNew
    simp [absent, withShellUid]
  · have differs : ¬ (store.withShellUid session).sessionId = other := fun h => same h.symm
    simp [differs, same]

/-- A transition either does nothing, or moves the one row it names, which was in one of the source
    statuses and met the guard. -/
theorem transition_cases {source : List SessionStatus} {target : SessionStatus}
    {patch : SessionPatch} {guard : TransitionGuard} {result : Option LabSession}
    (ran : store.transition sessionId source target patch guard = (result, after)) :
    (result = none ∧ after = store) ∨
      ∃ current, store.get sessionId = some current ∧ current.status ∈ source ∧
        meetsGuard guard current = true ∧
        result = some ((transitionPatch target patch current).apply current) ∧
        after = store.patchRow sessionId (transitionPatch target patch current) := by
  unfold transition at ran
  split at ran
  · cases ran
    exact .inl ⟨rfl, rfl⟩
  · rename_i current found
    split at ran
    · rename_i allowed
      simp only [Bool.and_eq_true, List.contains_iff_mem] at allowed
      simp only [update, found, Prod.mk.injEq] at ran
      exact .inr ⟨current, found, allowed.1, allowed.2, ran.1.symm, ran.2.symm⟩
    · cases ran
      exact .inl ⟨rfl, rfl⟩

theorem touchActivity_cases {atTime : Instant} {result : Option LabSession}
    (ran : store.touchActivity sessionId atTime = (result, after)) :
    (result = none ∧ after = store) ∨
      ∃ current, store.get sessionId = some current ∧ acceptsActivity current.status = true ∧
        result = some { current with lastActivityAt := atTime } ∧
        after = store.patchRow sessionId { lastActivityAt := some atTime } := by
  unfold touchActivity at ran
  split at ran
  · cases ran
    exact .inl ⟨rfl, rfl⟩
  · rename_i current found
    split at ran
    · rename_i allowed
      simp only [update, found, Prod.mk.injEq] at ran
      exact .inr ⟨current, found, allowed, ran.1.symm, ran.2.symm⟩
    · cases ran
      exact .inl ⟨rfl, rfl⟩

theorem create_cases {session : LabSession} {result : Except Failure Unit}
    (ran : store.create session = (result, after)) :
    (∃ failure, result = .error failure ∧ after = store) ∨
      ∃ isNew, result = .ok () ∧ after = store.insertRow session isNew := by
  unfold create at ran
  split at ran
  · cases ran
    exact .inl ⟨_, rfl, rfl⟩
  · split at ran
    · cases ran
      exact .inl ⟨_, rfl, rfl⟩
    · cases ran
      exact .inr ⟨_, rfl, rfl⟩

/-- An admission either does nothing, or inserts the one new row the decision let in. -/
theorem createWithinLimits_cases {session : LabSession} {limits : CapacityLimits}
    {result : Except Failure CapacityDecision}
    (ran : store.createWithinLimits session limits = (result, after)) :
    (result ≠ .ok .admitted ∧ after = store) ∨
      ∃ isNew, result = .ok .admitted ∧ after = store.insertRow session isNew ∧
        decideCapacity session limits store.countOccupying (store.countOwner session) =
          .admitted := by
  unfold createWithinLimits at ran
  split at ran
  · cases ran
    exact .inl ⟨by simp, rfl⟩
  · rename_i admitted
    split at ran
    · rename_i failure store' created
      cases ran
      rcases create_cases created with ⟨_, _, rfl⟩ | ⟨_, impossible, _⟩
      · exact .inl ⟨by simp, rfl⟩
      · cases impossible
    · rename_i store' created
      cases ran
      rcases create_cases created with ⟨_, impossible, _⟩ | ⟨isNew, _, rfl⟩
      · cases impossible
      · exact .inr ⟨isNew, rfl, rfl, admitted⟩

end InMemorySessionStore

/-- Has this session passed its hard, absolute deadline? -/
def isExpired (session : LabSession) (now : Instant) : Bool := decide (session.expiresAt ≤ now)

/-- Has this session been untouched for longer than its idle budget? -/
def isIdle (session : LabSession) (now : Instant) : Bool :=
  decide ((session.idleTimeoutSeconds : Int) * 1000 ≤ now - session.lastActivityAt)

end JumptotechLabs.Session
