/-
Module: JumptotechLabs.Session.Undisturbed
Layer: Session (services/lab-orchestrator/src/session)
Purpose: The session layer with one thread running and nobody else: the store, the clock and the object
  fields answer for themselves, the provider's session-scoped destroy leaves nothing of the sessions
  in `gone` and fails for the others, and everybody else outside may answer or throw as they like.
  One rule for each kind of command, then what a teardown does to the row it is driven for.
Main exports: Fair, undisturbed, achieves_own, achieves_outside, achieves_destroy, Reclaimed, Finished,
  achieves_expire, achieves_resumeAbandonedEnd, valid_of_stored
-/
import JumptotechLabs.Session.Lifecycle
import JumptotechLabs.Core.Solo

namespace JumptotechLabs.Session

open JumptotechLabs.Core
open JumptotechLabs.Core.Prog (attempt ensure whenDone whenFailed)

/-- The calls of the session store. -/
def isStoreCall : Cmd → Bool
  | .findBySandboxRef _ | .createWithinLimits _ _ | .get _ | .list | .countOccupying => true
  | .transition _ _ _ _ _ | .touchActivity _ _ | .delete _ => true
  | _ => false

/-- May this command throw? The store does not, and a destroy does only where it leaves something. -/
def MayThrow (gone : String → Prop) : Cmd → Prop
  | .destroy _ context => ¬ gone context.sessionId
  | command => isStoreCall command = false

/-- The replies considered: a session-scoped destroy answers ok and gone exactly for the sessions in
    `gone`. -/
def Fair (gone : String → Prop) : Cmd → Reply → Prop
  | command, .throw _ => MayThrow gone command
  | .destroy _ context, .destroyed result =>
      (result.ok && result.namespaceGone) = true ↔ gone context.sessionId
  | _, _ => True

/-- The answers one thread gets while no other thread runs and no time passes. -/
def undisturbed (gone : String → Prop) : Effects sessionSignature Failure World :=
  fun command world answer after =>
    ∃ reply, respond command world reply = some (answer, after) ∧ Fair gone command reply

variable {gone : String → Prop} {world : World}

/-! ### One rule for each kind of command -/

/-- Nobody outside answers for the store, the clock or a field. -/
theorem ownAnswer_of_outsideAnswer {command : Cmd} {reply : Reply}
    {answered : Except Failure command.Ans × World}
    (outside : outsideAnswer world command reply = some answered) :
    ownAnswer world command = none := by
  unfold outsideAnswer at outside
  split at outside <;> first | rfl | cases outside

theorem not_mayThrow_of_own {command : Cmd} {answered : Except Failure command.Ans × World}
    (owned : ownAnswer world command = some answered) (throws : canThrow command = true) :
    ¬ MayThrow gone command := by
  intro may
  cases command <;> first | (cases throws; done) | (cases may; done) | cases owned

theorem fair_own (gone : String → Prop) (command : Cmd) : Fair gone command .own := by
  cases command <;> trivial

/-- What the store, the clock or a field answers is the only answer there is. -/
theorem achieves_own (command : Cmd) {answer : Except Failure command.Ans} {after : World}
    {post : Except Failure command.Ans → World → Prop}
    (owned : ownAnswer world command = some (answer, after)) :
    (await command).Achieves (undisturbed gone) world post ↔ post answer after := by
  have one : ∀ answer' after', undisturbed gone command world answer' after' →
      answer' = answer ∧ after' = after := by
    rintro answer' after' ⟨reply, responded, fair⟩
    cases reply with
    | own =>
        have same : (answer', after') = (answer, after) := Option.some.inj (responded.symm.trans owned)
        exact Prod.mk.inj same
    | throw failure =>
        simp only [respond] at responded
        split at responded
        · rename_i throws
          exact absurd fair (not_mayThrow_of_own owned throws)
        · cases responded
    | _ =>
        have outside := ownAnswer_of_outsideAnswer responded
        rw [owned] at outside
        cases outside
  have answered : undisturbed gone command world answer after :=
    ⟨.own, owned, fair_own gone command⟩
  unfold await
  rw [Prog.achieves_perform]
  constructor
  · intro achieved
    exact achieved.2 answer after answered
  · intro holds
    refine ⟨⟨answer, after, answered⟩, fun answer' after' answered' => ?_⟩
    obtain ⟨rfl, rfl⟩ := one answer' after' answered'
    exact holds

/-- The parties a sweep asks besides the store, the session-scoped destroy apart. -/
def asksOthers : Cmd → Bool
  | .listManagedSandboxes _ | .destroySandbox _ _ | .terminate _ | .onSessionClosed _ => true
  | _ => false

/-- The parties outside leave the world as it is, whatever they answer. -/
theorem achieves_outside {command : Cmd} {post : Except Failure command.Ans → World → Prop}
    (others : asksOthers command = true) (holds : ∀ answer, post answer world) :
    (await command).Achieves (undisturbed gone) world post := by
  have throws : undisturbed gone command world (.error default) world := by
    refine ⟨.throw default, ?_, ?_⟩ <;> cases command <;> first | rfl | cases others
  have same : ∀ answer after, undisturbed gone command world answer after → after = world := by
    rintro answer after ⟨reply, responded, _⟩
    cases command <;>
      first
      | cases others; done
      | cases reply <;> cases responded <;> rfl
  unfold await
  rw [Prog.achieves_perform]
  refine ⟨⟨_, _, throws⟩, fun answer after answered => ?_⟩
  rw [same answer after answered]
  exact holds answer

/-- The answers of a session-scoped destroy: ok and gone exactly for the sessions in `gone`. -/
def DestroyAnswer (gone : String → Prop) (sessionId : String) : Except Failure DestroyResult → Prop
  | .ok result => (result.ok && result.namespaceGone) = true ↔ gone sessionId
  | .error _ => ¬ gone sessionId

theorem achieves_destroy {provider : LabProviderId} {context : SessionTeardownContext}
    {post : Except Failure DestroyResult → World → Prop}
    (holds : ∀ answer, DestroyAnswer gone context.sessionId answer → post answer world) :
    (await (.destroy provider context)).Achieves (undisturbed gone) world post := by
  unfold await
  rw [Prog.achieves_perform]
  constructor
  · by_cases isGone : gone context.sessionId
    · refine ⟨.ok sandboxGone, world, .destroyed sandboxGone, rfl, ?_⟩
      exact ⟨fun _ => isGone, fun _ => rfl⟩
    · exact ⟨.error default, world, .throw default, rfl, isGone⟩
  · rintro answer after ⟨reply, responded, fair⟩
    cases reply <;> cases responded
    · exact holds _ fair
    · exact holds _ fair

/-! ### The steps of a teardown -/

variable {m : Manager}

theorem achieves_transition {sessionId : String} {source : List SessionStatus}
    {target : SessionStatus} {patch : SessionPatch} {guard : TransitionGuard}
    {post : Except Failure (Option LabSession) → World → Prop} :
    (transition sessionId source target patch guard).Achieves (undisturbed gone) world post ↔
      post (.ok (world.store.transition sessionId source target
          { patch with statusChangedAt := some world.clock } guard).1)
        { world with
          store := (world.store.transition sessionId source target
            { patch with statusChangedAt := some world.clock } guard).2 } := by
  unfold transition
  rw [Prog.achieves_bind, achieves_own .now rfl]
  exact achieves_own _ rfl

theorem achieves_currentOr {session : LabSession} {post : Except Failure LabSession → World → Prop} :
    (currentOr session).Achieves (undisturbed gone) world post ↔
      post (.ok ((world.store.get session.sessionId).getD session)) world := by
  unfold currentOr
  rw [Prog.achieves_bind, achieves_own (.get session.sessionId) rfl]
  exact Iff.rfl

theorem achieves_closeShell {sessionId : String} {post : Except Failure Unit → World → Prop}
    (holds : post (.ok ()) world) :
    (closeShell m sessionId).Achieves (undisturbed gone) world post := by
  unfold closeShell
  split
  · exact Prog.Achieves.swallow (achieves_outside rfl fun _ => holds)
  · exact holds

theorem achieves_notifyClosed {event : SessionClosedEvent}
    {post : Except Failure Unit → World → Prop} (holds : post (.ok ()) world) :
    (notifyClosed m event).Achieves (undisturbed gone) world post := by
  unfold notifyClosed
  split
  · exact Prog.Achieves.swallow (achieves_outside rfl fun _ => holds)
  · exact holds

/-- The destroys of this session answer ok and gone: a manager asks the provider on the row, if it is
    registered there at all. -/
def Reclaimed (m : Manager) (gone : String → Prop) (session : LabSession) : Prop :=
  gone session.sessionId ∧ (m.providers session.provider).isSome = true

/-- A destroy always ends with an answer, and says gone exactly where it is. -/
theorem achieves_destroyOf {session : LabSession} {post : Except Failure DestroyResult → World → Prop}
    (holds : ∀ result : DestroyResult,
      ((result.ok && result.namespaceGone) = true ↔ Reclaimed m gone session) →
        post (.ok result) world) :
    (destroyOf m session).Achieves (undisturbed gone) world post := by
  have failed : ∀ failure : Failure, ¬ Reclaimed m gone session → post
      (.ok { ok := false, namespaceGone := false,
             error := some { code := .destroyFailed, message := describeError failure } }) world := by
    intro failure notReclaimed
    exact holds _ ⟨nofun, fun reclaimed => absurd reclaimed notReclaimed⟩
  unfold destroyOf providerFor
  rw [Prog.achieves_tryCatch]
  cases registered : m.providers session.provider with
  | none =>
      refine failed _ ?_
      rintro ⟨_, isRegistered⟩
      rw [registered] at isRegistered
      cases isRegistered
  | some registration =>
      have reclaimed_iff : Reclaimed m gone session ↔ gone session.sessionId := by
        simp [Reclaimed, registered]
      refine achieves_destroy fun answer answered => ?_
      rcases answer with failure | result
      · exact failed failure fun reclaimed => answered (reclaimed_iff.mp reclaimed)
      · exact holds result (answered.trans reclaimed_iff.symm)

/-! ### A teardown and the row it is driven for -/

/-- A row that may be claimed is moved. -/
theorem transition_of_claimable {store : InMemorySessionStore} {sessionId : String}
    {row : LabSession} {source : List SessionStatus} (target : SessionStatus) (patch : SessionPatch)
    (found : store.get sessionId = some row) (claimable : row.status ∈ source) :
    store.transition sessionId source target patch {} =
      (some ((InMemorySessionStore.transitionPatch target patch row).apply row),
        store.patchRow sessionId (InMemorySessionStore.transitionPatch target patch row)) := by
  simp [InMemorySessionStore.transition, InMemorySessionStore.update, found, claimable,
    InMemorySessionStore.meetsGuard]

theorem get_patchRow_self {store : InMemorySessionStore} {sessionId : String} {row : LabSession}
    (patch : SessionPatch) (found : store.get sessionId = some row) :
    (store.patchRow sessionId patch).get sessionId = some (patch.apply row) := by
  rw [InMemorySessionStore.get_patchRow, if_pos rfl, found]
  rfl

theorem get_patchRow_other {store : InMemorySessionStore} {sessionId other : String}
    (patch : SessionPatch) (differs : other ≠ sessionId) :
    (store.patchRow sessionId patch).get other = store.get other := by
  rw [InMemorySessionStore.get_patchRow, if_neg differs]

/-- A teardown was driven for a session: nothing else changed, and its row is finished exactly if its
    sandbox is verifiably gone. -/
structure Finished (m : Manager) (gone : String → Prop) (inProgress done : SessionStatus)
    (session : LabSession) (world after : World) : Prop where
  clock : after.clock = world.clock
  elsewhere : ∀ other, other ≠ session.sessionId → after.store.get other = world.store.get other
  left : ∃ later, after.store.get session.sessionId = some later ∧
    (Reclaimed m gone session → later.status = done ∧ later.endedAt = some world.clock) ∧
    (¬ Reclaimed m gone session → later.status = inProgress)

section Teardown

variable {inProgress done : SessionStatus} {reason : String}

theorem achieves_recordEnding {marked : LabSession} {destroy : DestroyResult}
    (found : world.store.get marked.sessionId = some marked) (claimed : marked.status = inProgress)
    (reclaimed : Reclaimed m gone marked) :
    (recordEnding m marked inProgress done reason destroy).Achieves (undisturbed gone) world
      fun outcome after => (∃ result, outcome = .ok result) ∧
        Finished m gone inProgress done marked world after := by
  unfold recordEnding
  rw [Prog.achieves_bind, achieves_own .now rfl, Prog.whenDone_ok, Prog.achieves_bind,
    achieves_transition, transition_of_claimable done _ found (by simp [claimed])]
  simp only [Prog.whenDone_ok, Prog.achieves_bind]
  refine achieves_notifyClosed ⟨⟨_, rfl⟩, rfl, fun other differs => get_patchRow_other _ differs, ?_⟩
  refine ⟨_, get_patchRow_self _ found, fun _ => ⟨rfl, rfl⟩, ?_⟩
  exact fun notReclaimed => absurd reclaimed notReclaimed

theorem achieves_finishTeardown {marked : LabSession}
    (found : world.store.get marked.sessionId = some marked)
    (claimed : marked.status = inProgress) :
    (finishTeardown m marked inProgress done reason).Achieves (undisturbed gone) world
      fun outcome after => (∃ result, outcome = .ok result) ∧
        Finished m gone inProgress done marked world after := by
  unfold finishTeardown
  rw [Prog.achieves_bind]
  refine achieves_closeShell ?_
  rw [Prog.whenDone_ok, Prog.achieves_bind]
  refine achieves_destroyOf fun result isGone => ?_
  rw [Prog.whenDone_ok]
  split
  · rename_i answered
    exact achieves_recordEnding found claimed (isGone.mp answered)
  · rename_i notAnswered
    rw [Prog.achieves_bind, achieves_currentOr]
    refine ⟨⟨_, rfl⟩, rfl, fun _ _ => rfl, marked, found, fun reclaimed => ?_, fun _ => claimed⟩
    exact absurd (isGone.mpr reclaimed) notAnswered

theorem achieves_teardown {session : LabSession} {claimable : List SessionStatus}
    (found : world.store.get session.sessionId = some session)
    (live : isTerminalStatus session.status = false) (isClaimable : session.status ∈ claimable) :
    (teardown m session claimable inProgress done reason).Achieves (undisturbed gone) world
      fun outcome after => (∃ result, outcome = .ok result) ∧
        Finished m gone inProgress done session world after := by
  unfold teardown claimTeardown
  rw [if_neg (by simp [live]), if_neg (by simp), Prog.achieves_bind, achieves_transition,
    transition_of_claimable inProgress _ found isClaimable]
  simp only [Prog.whenDone_ok]
  refine (achieves_finishTeardown (get_patchRow_self _ found) rfl).mono ?_
  rintro outcome after ⟨ended, clock, elsewhere, left⟩
  refine ⟨ended, clock, fun other differs => ?_, left⟩
  rw [elsewhere other differs]
  exact get_patchRow_other _ differs

end Teardown

/-- The manager finds the session under a well-formed id. -/
theorem achieves_require {session : LabSession} {post : Except Failure LabSession → World → Prop}
    (found : world.store.get session.sessionId = some session)
    (valid : isValidSessionId session.sessionId = true) (holds : post (.ok session) world) :
    (require session.sessionId).Achieves (undisturbed gone) world post := by
  unfold require
  rw [if_pos valid, Prog.achieves_bind, achieves_own (.get session.sessionId) rfl, found]
  exact holds

/-- What the reaper collects ends as EXPIRED, or stays EXPIRING. -/
theorem achieves_expire {session : LabSession} {reason : String}
    (found : world.store.get session.sessionId = some session)
    (valid : isValidSessionId session.sessionId = true)
    (live : isTerminalStatus session.status = false) (notEnding : session.status ≠ .ending) :
    (expire m session.sessionId reason {}).Achieves (undisturbed gone) world
      fun outcome after => (∃ result, outcome = .ok result) ∧
        Finished m gone .expiring .expired session world after := by
  unfold expire
  rw [Prog.achieves_bind]
  refine achieves_require found valid (achieves_teardown found live ?_)
  revert live notEnding
  cases session.status <;> decide

/-- An abandoned End ends as ENDED, or stays ENDING. -/
theorem achieves_resumeAbandonedEnd {session : LabSession}
    (found : world.store.get session.sessionId = some session)
    (valid : isValidSessionId session.sessionId = true) (ending : session.status = .ending) :
    (resumeAbandonedEnd m session.sessionId).Achieves (undisturbed gone) world
      fun outcome after => (∃ result, outcome = .ok result) ∧
        Finished m gone .ending .ended session world after := by
  unfold resumeAbandonedEnd
  rw [Prog.achieves_bind]
  refine achieves_require found valid (achieves_teardown found ?_ ?_)
  · rw [ending]
    rfl
  · simp [ending]

/-! ### Rows of a run -/

/-- Every row of a run is stored under a well-formed id. -/
theorem valid_of_stored {allowed : SessionConfig → SessionMove → Prop} {clock : Instant}
    {config : SessionConfig} (run : Reaches allowed (boot clock) config) {sessionId : String}
    {row : LabSession} (found : rowOf config sessionId = some row) :
    isValidSessionId sessionId = true := by
  obtain ⟨thread, session, limits, admitted, rfl⟩ := stored_admitted run found
  obtain ⟨later, earlier, split⟩ := List.append_of_mem (drawn_of_admitted run admitted)
  obtain ⟨before, after, op, reply, _, _, happened, _, _, _⟩ := run.moment split
  have drawn := happened.responded
  cases reply with
  | draws drawnId =>
      simp only [sessionMachine, respond, outsideAnswer] at drawn
      split at drawn
      · rename_i valid
        obtain ⟨named, _⟩ := Prod.mk.inj (Option.some.inj drawn)
        simp only [Bool.and_eq_true] at valid
        rw [← Except.ok.inj named]
        exact valid.1
      · cases drawn
  | _ => cases drawn

end JumptotechLabs.Session
