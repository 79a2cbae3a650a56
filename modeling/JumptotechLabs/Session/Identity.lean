/-
Module: JumptotechLabs.Session.Identity
Layer: Session (services/lab-orchestrator/src/session/store.ts, shell-identity.ts)
Purpose: Who a session is. Over any calls of the in-memory store the shell uids it gives out are the next
  numbers one after the other, so none is given twice even after a row is deleted; what identifies a row
  never changes; no two rows share a sandbox; and a call that throws changes nothing.
Main exports: IdentityCall, IdentityHistory, identityOf, effect_of_call, identity_kept, UidsCounted,
  shell_identities_are_kept
-/
import JumptotechLabs.Session.Store
import Mathlib.Data.List.Range

namespace JumptotechLabs.Session

open JumptotechLabs.Core

/-- A call that can change the store. -/
inductive IdentityCall where
  | create (session : LabSession)
  | createWithinLimits (session : LabSession) (limits : CapacityLimits)
  | update (sessionId : String) (patch : SessionPatch)
  | transition (sessionId : String) (source : List SessionStatus) (target : SessionStatus)
      (patch : SessionPatch) (guard : TransitionGuard)
  | touchActivity (sessionId : String) (atTime : Instant)
  | delete (sessionId : String)

namespace IdentityCall

/-- The store after a call. -/
def after (store : InMemorySessionStore) : IdentityCall → InMemorySessionStore
  | create session => (store.create session).2
  | createWithinLimits session limits => (store.createWithinLimits session limits).2
  | update sessionId patch => (store.update sessionId patch).2
  | transition sessionId source target patch guard =>
      (store.transition sessionId source target patch guard).2
  | touchActivity sessionId atTime => (store.touchActivity sessionId atTime).2
  | delete sessionId => store.delete sessionId

/-- The call threw. -/
def throws (store : InMemorySessionStore) : IdentityCall → Bool
  | create session => !(store.create session).1.isOk
  | createWithinLimits session limits => !(store.createWithinLimits session limits).1.isOk
  | _ => false

/-- The session a call created, as the store holds it then. -/
def created (store : InMemorySessionStore) (call : IdentityCall) : Option LabSession :=
  match call with
  | create session =>
      match (store.create session).1 with
      | .ok _ => (call.after store).get session.sessionId
      | .error _ => none
  | createWithinLimits session limits =>
      match (store.createWithinLimits session limits).1 with
      | .ok .admitted => (call.after store).get session.sessionId
      | _ => none
  | _ => none

end IdentityCall

/-- The store, and every session it ever created, deleted ones too. -/
structure IdentityHistory where
  store : InMemorySessionStore
  created : List LabSession

namespace IdentityHistory

/-- `new InMemorySessionStore({ firstShellUid })`. -/
def opened (firstShellUid : Nat := shellUidMin) : IdentityHistory :=
  ⟨⟨[], firstShellUid, Keyed.Distinct.nil⟩, []⟩

def step (history : IdentityHistory) (call : IdentityCall) : IdentityHistory :=
  ⟨call.after history.store, history.created ++ (call.created history.store).toList⟩

def run (history : IdentityHistory) (calls : List IdentityCall) : IdentityHistory :=
  calls.foldl step history

end IdentityHistory

/-- What identifies a row. -/
def identityOf (session : LabSession) :
    String × Option String × LabProviderId × SandboxKind × String × String × Option Nat :=
  (session.sessionId, session.ownerUserId, session.provider, session.sandboxKind, session.sandboxRef,
    session.namespaceName, session.shellUid)

theorem identityOf_apply (patch : SessionPatch) (session : LabSession) :
    identityOf (patch.apply session) = identityOf session := rfl

/-! ### What one call does -/

/-- An insertion throws and changes nothing, or inserts a row under an id and a sandbox that are new. -/
theorem create_spec (store : InMemorySessionStore) (session : LabSession) :
    (∃ failure, store.create session = (.error failure, store)) ∨
      ∃ isNew, store.create session = (.ok (), store.insertRow session isNew) ∧
        (∀ row ∈ store.sessions, row.sandboxRef ≠ session.sandboxRef) ∧
        store.nextShellUid ≤ shellUidMax := by
  cases checked : store.assertInsertable session with
  | error failure => exact .inl ⟨failure, by rw [InMemorySessionStore.create, checked]⟩
  | ok isNew =>
      by_cases exhausted : shellUidMax < store.nextShellUid
      · left
        exact ⟨shellUidExhausted, by simp only [InMemorySessionStore.create, checked, if_pos exhausted]⟩
      · right
        refine ⟨isNew.down, by simp only [InMemorySessionStore.create, checked, if_neg exhausted], ?_,
          by omega⟩
        rw [InMemorySessionStore.assertInsertable, dif_pos isNew.down] at checked
        split at checked
        · cases checked
        · rename_i noneHeld
          simpa using noneHeld

/-- An admission throws or refuses and changes nothing, or inserts a row as a creation does. -/
theorem createWithinLimits_spec (store : InMemorySessionStore) (session : LabSession)
    (limits : CapacityLimits) :
    (∃ result, store.createWithinLimits session limits = (result, store) ∧ result ≠ .ok .admitted) ∨
      ∃ isNew, store.createWithinLimits session limits =
          (.ok .admitted, store.insertRow session isNew) ∧
        (∀ row ∈ store.sessions, row.sandboxRef ≠ session.sandboxRef) ∧
        store.nextShellUid ≤ shellUidMax := by
  rw [InMemorySessionStore.createWithinLimits]
  split
  · exact .inl ⟨_, rfl, by simp⟩
  · rcases create_spec store session with ⟨failure, threw⟩ | ⟨isNew, inserted, apart, bounded⟩
    · exact .inl ⟨.error failure, by rw [threw], by simp⟩
    · exact .inr ⟨isNew, by rw [inserted], apart, bounded⟩

theorem get_insertRow_self (store : InMemorySessionStore) (session : LabSession)
    (isNew : store.get session.sessionId = none) :
    (store.insertRow session isNew).get session.sessionId = some (store.withShellUid session) := by
  rw [InMemorySessionStore.get_insertRow, if_pos rfl]

/-- A call leaves the store alone, rewrites one row with a patch, takes a row away, or inserts a row under
    an id and a sandbox that are new, with the next uid. -/
inductive CallEffect (store : InMemorySessionStore) (call : IdentityCall) : Prop
  | unchanged (same : call.after store = store) (none : call.created store = none)
  | patched (sessionId : String) (patch : SessionPatch)
      (same : call.after store = store.patchRow sessionId patch) (none : call.created store = none)
      (calm : call.throws store = false)
  | removed (sessionId : String) (same : call.after store = store.delete sessionId)
      (none : call.created store = none) (calm : call.throws store = false)
  | inserted (session : LabSession) (isNew : store.get session.sessionId = none)
      (same : call.after store = store.insertRow session isNew)
      (row : call.created store = some (store.withShellUid session)) (calm : call.throws store = false)
      (apart : ∀ row ∈ store.sessions, row.sandboxRef ≠ session.sandboxRef)
      (bounded : store.nextShellUid ≤ shellUidMax)

theorem effect_of_call (store : InMemorySessionStore) (call : IdentityCall) :
    CallEffect store call := by
  cases call with
  | create session =>
      rcases create_spec store session with ⟨failure, threw⟩ | ⟨isNew, inserted, apart, bounded⟩
      · refine .unchanged ?_ ?_
        · simp [IdentityCall.after, threw]
        · simp [IdentityCall.created, threw]
      · refine .inserted session isNew ?_ ?_ ?_ apart bounded
        · simp [IdentityCall.after, inserted]
        · simp [IdentityCall.created, IdentityCall.after, inserted, get_insertRow_self]
        · simp [IdentityCall.throws, inserted, Except.isOk, Except.toBool]
  | createWithinLimits session limits =>
      rcases createWithinLimits_spec store session limits with ⟨result, same, notAdmitted⟩ |
        ⟨isNew, inserted, apart, bounded⟩
      · refine .unchanged ?_ ?_
        · simp [IdentityCall.after, same]
        · rw [IdentityCall.created, same]
          split
          · rename_i admitted
            exact absurd admitted notAdmitted
          · rfl
      · refine .inserted session isNew ?_ ?_ ?_ apart bounded
        · simp [IdentityCall.after, inserted]
        · simp [IdentityCall.created, IdentityCall.after, inserted, get_insertRow_self]
        · simp [IdentityCall.throws, inserted, Except.isOk, Except.toBool]
  | update sessionId patch =>
      cases found : store.get sessionId with
      | none => exact .unchanged (by simp [IdentityCall.after, InMemorySessionStore.update, found]) rfl
      | some current =>
          exact .patched sessionId patch
            (by simp [IdentityCall.after, InMemorySessionStore.update, found]) rfl rfl
  | transition sessionId source target patch guard =>
      rcases InMemorySessionStore.transition_cases
        (rfl : store.transition sessionId source target patch guard = (_, _)) with
        ⟨-, same⟩ | ⟨current, -, -, -, -, same⟩
      · exact .unchanged same rfl
      · exact .patched sessionId _ same rfl rfl
  | touchActivity sessionId atTime =>
      rcases InMemorySessionStore.touchActivity_cases
        (rfl : store.touchActivity sessionId atTime = (_, _)) with ⟨-, same⟩ | ⟨current, -, -, -, same⟩
      · exact .unchanged same rfl
      · exact .patched sessionId _ same rfl rfl
  | delete sessionId => exact .removed sessionId rfl rfl rfl

/-! ### What a call keeps -/

section Steps

variable {store : InMemorySessionStore} {call : IdentityCall}

theorem identities_patchRow (store : InMemorySessionStore) (sessionId : String) (patch : SessionPatch) :
    (store.patchRow sessionId patch).sessions.map identityOf = store.sessions.map identityOf := by
  simp only [InMemorySessionStore.patchRow, Keyed.modify, List.map_map]
  apply List.map_congr_left
  intro row _
  simp only [Function.comp_apply]
  split
  · exact identityOf_apply patch row
  · rfl

/-- A row that is there before a call and after it is the same session. -/
theorem identity_kept (store : InMemorySessionStore) (call : IdentityCall) {sessionId : String}
    {row later : LabSession} (found : store.get sessionId = some row)
    (foundLater : (call.after store).get sessionId = some later) :
    identityOf later = identityOf row := by
  rcases effect_of_call store call with ⟨same, -⟩ | ⟨patched, patch, same, -, -⟩ | ⟨removed, same, -, -⟩ |
    ⟨session, isNew, same, -, -, -, -⟩
  · rw [same, found] at foundLater
    cases foundLater
    rfl
  · rw [same, InMemorySessionStore.get_patchRow] at foundLater
    split at foundLater
    · rename_i isPatched
      rw [← isPatched, found] at foundLater
      cases foundLater
      exact identityOf_apply patch row
    · rw [found] at foundLater
      cases foundLater
      rfl
  · rw [same, InMemorySessionStore.get_delete] at foundLater
    split at foundLater
    · cases foundLater
    · rw [found] at foundLater
      cases foundLater
      rfl
  · rw [same, InMemorySessionStore.get_insertRow] at foundLater
    split at foundLater
    · rename_i isSession
      rw [isSession, isNew] at found
      cases found
    · rw [found] at foundLater
      cases foundLater
      rfl

/-- A call that throws changes nothing. -/
theorem after_eq_of_throws (throws : call.throws store = true) : call.after store = store := by
  rcases effect_of_call store call with ⟨same, -⟩ | ⟨_, _, -, -, calm⟩ | ⟨_, -, -, calm⟩ |
    ⟨_, _, -, -, calm, -, -⟩
  · exact same
  · rw [calm] at throws
    cases throws
  · rw [calm] at throws
    cases throws
  · rw [calm] at throws
    cases throws

/-- No two rows share a sandbox, after a call as before it. -/
theorem distinct_sandboxes_step (distinct : Keyed.Distinct LabSession.sandboxRef store.sessions) :
    Keyed.Distinct LabSession.sandboxRef (call.after store).sessions := by
  rcases effect_of_call store call with ⟨same, -⟩ | ⟨sessionId, patch, same, -, -⟩ |
    ⟨sessionId, same, -, -⟩ | ⟨session, isNew, same, -, -, apart, -⟩
  · rw [same]
    exact distinct
  · have identities := identities_patchRow store sessionId patch
    have sandboxes := congrArg (List.map fun identity => identity.2.2.2.2.1) identities
    simp only [List.map_map] at sandboxes
    rw [same, Keyed.Distinct]
    have kept : (store.patchRow sessionId patch).sessions.map LabSession.sandboxRef =
        store.sessions.map LabSession.sandboxRef := sandboxes
    rw [kept]
    exact distinct
  · rw [same]
    exact distinct.sublist (List.filter_sublist.map _)
  · rw [same]
    exact distinct.append (Keyed.lookup_eq_none.mpr apart)

/-- The uids given out so far are the numbers from the first on, one for each session created, and the
    next is the one behind them. -/
structure UidsCounted (firstShellUid : Nat) (history : IdentityHistory) : Prop where
  uids : history.created.map LabSession.shellUid =
    (List.range' firstShellUid history.created.length).map some
  next : history.store.nextShellUid = firstShellUid + history.created.length
  bounded : ∀ row ∈ history.created, ∀ uid ∈ row.shellUid, uid ≤ shellUidMax

theorem UidsCounted.step {firstShellUid : Nat} {history : IdentityHistory}
    (counted : UidsCounted firstShellUid history) (call : IdentityCall) :
    UidsCounted firstShellUid (history.step call) := by
  have kept : call.created history.store = none →
      (call.after history.store).nextShellUid = history.store.nextShellUid →
      UidsCounted firstShellUid (history.step call) := by
    intro isNone sameNext
    have sameCreated : (history.step call).created = history.created := by
      simp [IdentityHistory.step, isNone]
    constructor
    · rw [sameCreated]
      exact counted.uids
    · rw [sameCreated, ← counted.next]
      exact sameNext
    · rw [sameCreated]
      exact counted.bounded
  rcases effect_of_call history.store call with ⟨same, isNone⟩ | ⟨_, _, same, isNone, -⟩ |
    ⟨_, same, isNone, -⟩ | ⟨session, isNew, same, isRow, -, -, room⟩
  · exact kept isNone (by rw [same])
  · exact kept isNone (by rw [same]; rfl)
  · exact kept isNone (by rw [same]; rfl)
  · have isCreated : (history.step call).created =
        history.created ++ [history.store.withShellUid session] := by
      simp [IdentityHistory.step, isRow]
    have isUid : (history.store.withShellUid session).shellUid =
        some (firstShellUid + history.created.length) := by
      rw [← counted.next]
      rfl
    constructor
    · rw [isCreated, List.map_append, counted.uids, List.length_append, List.length_singleton,
        List.range'_concat]
      simp [isUid]
    · have sameNext : (history.step call).store.nextShellUid = history.store.nextShellUid + 1 := by
        show (call.after history.store).nextShellUid = _
        rw [same]
        rfl
      rw [sameNext, isCreated, counted.next, List.length_append, List.length_singleton]
      omega
    · rw [isCreated]
      intro row isRow uid hasUid
      rcases List.mem_append.mp isRow with before | last
      · exact counted.bounded row before uid hasUid
      · rw [List.mem_singleton.mp last, isUid] at hasUid
        cases hasUid
        rw [← counted.next]
        exact room

end Steps

/-- What holds after any calls. -/
structure Identified (firstShellUid : Nat) (history : IdentityHistory) : Prop where
  counted : UidsCounted firstShellUid history
  sandboxes : Keyed.Distinct LabSession.sandboxRef history.store.sessions

theorem identified_run (firstShellUid : Nat) (calls : List IdentityCall) :
    Identified firstShellUid ((IdentityHistory.opened firstShellUid).run calls) := by
  have opened : Identified firstShellUid (IdentityHistory.opened firstShellUid) :=
    ⟨⟨rfl, rfl, by simp [IdentityHistory.opened]⟩, Keyed.Distinct.nil⟩
  generalize IdentityHistory.opened firstShellUid = history at opened
  induction calls generalizing history with
  | nil => exact opened
  | cons call rest ih =>
      exact ih _ ⟨opened.counted.step call, distinct_sandboxes_step opened.sandboxes⟩

/-- After any calls, those that throw included: the uids of all sessions ever created differ and lie in
    the range; no call changes what identifies a row; no two rows share an id or a sandbox; and a call
    that throws changes nothing. -/
theorem shell_identities_are_kept {firstShellUid : Nat} (inRange : shellUidMin ≤ firstShellUid)
    (calls : List IdentityCall) {history : IdentityHistory}
    (isHistory : history = (IdentityHistory.opened firstShellUid).run calls) :
    (history.created.map LabSession.shellUid).Nodup ∧
      (∀ session ∈ history.created,
        ∃ uid, session.shellUid = some uid ∧ shellUidMin ≤ uid ∧ uid ≤ shellUidMax) ∧
      (∀ (call : IdentityCall) (sessionId : String) (row later : LabSession),
        history.store.get sessionId = some row →
        (call.after history.store).get sessionId = some later → identityOf later = identityOf row) ∧
      (history.store.sessions.map LabSession.sessionId).Nodup ∧
      (history.store.sessions.map LabSession.sandboxRef).Nodup ∧
      ∀ call : IdentityCall, call.throws history.store = true →
        call.after history.store = history.store := by
  subst isHistory
  obtain ⟨counted, sandboxes⟩ := identified_run firstShellUid calls
  refine ⟨?_, ?_, ?_, InMemorySessionStore.distinct _, sandboxes, ?_⟩
  · rw [counted.uids]
    exact List.Nodup.map (Option.some_injective _) List.nodup_range'
  · intro session isSession
    have inUids : session.shellUid ∈ (List.range' firstShellUid
        ((IdentityHistory.opened firstShellUid).run calls).created.length).map some := by
      rw [← counted.uids]
      exact List.mem_map_of_mem isSession
    obtain ⟨uid, inUids, isUid⟩ := List.mem_map.mp inUids
    have lower := (List.mem_range'_1.mp inUids).1
    exact ⟨uid, isUid.symm, by omega, counted.bounded session isSession uid isUid.symm⟩
  · intro call sessionId row later found foundLater
    exact identity_kept _ call found foundLater
  · intro call throws
    exact after_eq_of_throws throws

/-- A session that has just been asked for. -/
def askedSession (sessionId sandboxRef : String) : LabSession :=
  { (default : LabSession) with sessionId := sessionId, sandboxRef := sandboxRef }

/-- A session, deleted and created again, and one in its sandbox. -/
def recreating : List IdentityCall :=
  [.create (askedSession "sess-0000001" "lab-1"), .delete "sess-0000001",
    .create (askedSession "sess-0000001" "lab-1"), .create (askedSession "sess-0000002" "lab-1")]

theorem shell_identities_are_kept_recreating :
    shellUidMin ≤ shellUidMin ∧
      (((IdentityHistory.opened shellUidMin).run recreating).created.map LabSession.shellUid).Nodup ∧
      ((IdentityHistory.opened shellUidMin).run recreating).created.length = 2 :=
  ⟨le_refl _, (shell_identities_are_kept (le_refl _) recreating rfl).1, by decide⟩

end JumptotechLabs.Session
