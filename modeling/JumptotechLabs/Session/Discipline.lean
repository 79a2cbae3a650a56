/-
Module: JumptotechLabs.Session.Discipline
Layer: Session (services/lab-orchestrator/src/session/manager.ts, reaper.ts)
Purpose: What each thread may ask, given only what it did itself. `Issued` has one rule for every place
  of the manager at which a row is written, a provider is called or the listener is told; reads and
  bookkeeping are free. No rule mentions another thread, so that a method keeps the discipline is
  proved from its own text.
Main exports: TeardownPair, Known, BuildOver, TeardownClaim, Issued, Credible, discipline, credible
-/
import JumptotechLabs.Session.Effects

namespace JumptotechLabs.Session

open JumptotechLabs.Core

/-- An in-flight teardown status, and the status it ends in. -/
inductive TeardownPair : SessionStatus → SessionStatus → Prop where
  | student : TeardownPair .ending .ended
  | platform : TeardownPair .expiring .expired

/-- The thread has admitted the session or been shown its row. -/
def Known (sessionId : String) (past : History) : Prop :=
  (∃ session limits, Effect.admitted session limits ∈ effects past ∧
      session.sessionId = sessionId) ∨
    ∃ interaction ∈ past, ∃ row ∈ shown interaction, row.sessionId = sessionId

/-- The thread has seen that the session is not being built any more: a read showed another status,
    or its own unguarded write from CREATING found none. -/
def BuildOver (sessionId : String) (past : History) : Prop :=
  (∃ interaction ∈ past, ∃ row ∈ shown interaction,
      row.sessionId = sessionId ∧ row.status ≠ .creating) ∨
    ∃ target patch earlier,
      (⟨.transition sessionId [.creating] target patch {}, .ok none⟩ :: earlier) <:+ past ∧
        Known sessionId earlier

/-- Does this operation run `expire`, the teardown that does not defer to a start? -/
def SessionOp.expires : SessionOp → Bool
  | .expire _ _ _ _ | .sweep _ => true
  | _ => false

/-- Is this a call of the reaper or of a shutdown, rather than of a student or an operator? -/
def SessionOp.byPlatform : SessionOp → Bool
  | .start _ _ _ _ | .reset _ _ | .touch _ | .touchActivity _ => false
  | .endSession _ _ | .endByOperator _ _ | .check _ _ => false
  | _ => true

/-- The claims a teardown makes on its own behalf: which statuses it claims, for which teardown, with
    which reason and guard, and what its thread knew. -/
inductive TeardownClaim (op : SessionOp) (past : History) (sessionId : String) :
    List SessionStatus → SessionStatus → String → TransitionGuard → Prop where
  /-- `end`. -/
  | student (isOver : BuildOver sessionId past) :
      TeardownClaim op past sessionId (liveStatuses ++ [SessionStatus.ending]) .ending studentEndReason {}
  /-- `expire`. -/
  | expiry (reason : String) (claimGuard : TransitionGuard) (expires : op.expires = true) :
      TeardownClaim op past sessionId (liveStatuses ++ [SessionStatus.expiring]) .expiring reason claimGuard
  /-- `endByOperator` on a session nobody is tearing down. -/
  | operator (isOver : BuildOver sessionId past) :
      TeardownClaim op past sessionId liveStatuses .expiring operatorEndReason {}
  /-- `resumeAbandonedEnd`. Its callers have read ENDING before it reads the session again. -/
  | resumed {interaction : SessionInteraction} {earlier : History} {row : LabSession}
      (read : (interaction :: earlier) <:+ past) (isShown : row ∈ shown interaction)
      (named : row.sessionId = sessionId) (unfinished : isTerminalStatus row.status = false)
      (abandoned : (∃ m, op = .resumeAbandonedEnd m sessionId) ∨
        ∃ interaction ∈ earlier, ∃ before ∈ shown interaction,
          before.sessionId = sessionId ∧ before.status = .ending) :
      TeardownClaim op past sessionId [.ending] .ending
        (row.statusReason.getD studentEndReason) {}
  /-- `endByOperator` and `#finishTeardownOfLostStart` on a session that is EXPIRING. -/
  | helped {interaction : SessionInteraction} {row : LabSession} (fallback : String)
      (read : interaction ∈ past) (isShown : row ∈ shown interaction)
      (named : row.sessionId = sessionId) (expiring : row.status = .expiring) :
      TeardownClaim op past sessionId [.expiring] .expiring (row.statusReason.getD fallback) {}

/-- The build came back without a usable sandbox. -/
def buildFailed : Except Failure CreateResult → Bool
  | .ok result => !result.ok
  | .error _ => true

/-- Is this the write that releases a session from RESETTING? -/
def releasesReset (sessionId : String) : Cmd → Bool
  | .transition id [.resetting] _ _ _ => id == sessionId
  | _ => false

/-- The thread has not tried to release the session yet. -/
def Untried (sessionId : String) (past : History) : Prop :=
  ∀ interaction ∈ past, releasesReset sessionId interaction.command = false

/-- Commands that write no status, delete no row, call no provider for a session, and tell nobody. -/
def isQuiet : Cmd → Bool
  | .createWithinLimits _ _ | .transition _ _ _ _ _ | .delete _ => false
  | .create _ _ _ | .reset _ _ _ => false
  | .destroy _ _ | .onSessionClosed _ => false
  | _ => true

/-- What a thread running `op` may ask after `past`, one rule for each place of the source. -/
inductive Issued (op : SessionOp) (past : History) : Cmd → Prop where
  | quiet {command : Cmd} (isFree : isQuiet command = true) : Issued op past command
  /-- `#insertSession`. -/
  | admission {m : Manager} {labId : String} {ownerUserId : Option String} {hooks : StartHooks}
      {lab : Lab} {createdAt : Instant} {sessionId : String}
      (starts : op = .start m labId ownerUserId hooks)
      (first : effects past = [])
      (drawn : ⟨.newSessionId, .ok sessionId⟩ ∈ past) :
      Issued op past (.createWithinLimits (candidate m lab ownerUserId createdAt sessionId)
        { maxOccupying := m.lifetimes.maxActiveSessions
          maxOccupyingPerOwner := perOwnerLimit m.lifetimes hooks.ownerSessionLimit })
  /-- `#buildAdmitted`, the provider call. -/
  | build {session : LabSession} {limits : CapacityLimits} {provider : LabProviderId} {lab : Lab}
      (first : effects past = [.admitted session limits]) :
      Issued op past (.create provider lab (teardownContextFor session))
  /-- `#buildAdmitted`, the write to ACTIVE. -/
  | activate {session : LabSession} {limits : CapacityLimits} {result : CreateResult}
      {activeAt stamp : Instant}
      (built : effects past =
        [.created (teardownContextFor session) (.ok result), .admitted session limits])
      (stands : result.ok = true) :
      Issued op past (.transition session.sessionId [.creating] .active
        { environmentId := some result.environmentId
          lastActivityAt := some activeAt
          statusChangedAt := some stamp } {})
  /-- `#failSession`, the write to FAILED. -/
  | failStart {session : LabSession} {limits : CapacityLimits}
      {answer : Except Failure CreateResult} {cleanup : List Effect} {reason : String}
      {endedAt stamp : Instant}
      (failed : effects past =
        cleanup ++ [Effect.created (teardownContextFor session) answer, .admitted session limits])
      (unusable : buildFailed answer = true)
      (onlyCleanup : ∀ done ∈ cleanup, ∃ answer,
        done = .destroyed (teardownContextFor session) answer) :
      Issued op past (.transition session.sessionId [.creating] .failed
        { statusReason := some reason
          endedAt := some endedAt
          statusChangedAt := some stamp } {})
  /-- `reset`, its claim. -/
  | claimReset {m : Manager} {sessionId : String} {pressedAt stamp : Instant}
      (resets : op = .reset m sessionId) (first : effects past = []) :
      Issued op past (.transition sessionId resettableStatuses .resetting
        { lastActivityAt := some pressedAt, statusChangedAt := some stamp } {})
  /-- `#rebuild`, the provider call. -/
  | rebuild {m : Manager} {sessionId : String} {session row : LabSession} {patch : SessionPatch}
      {guard : TransitionGuard} {provider : LabProviderId} {lab : Lab}
      (resets : op = .reset m sessionId)
      (claimed : effects past = [.moved sessionId resettableStatuses .resetting patch guard row])
      (named : session.sessionId = sessionId) (untried : Untried sessionId past) :
      Issued op past (.reset provider lab (teardownContextFor session))
  /-- `#rebuild` and its `#degrade`: the release, fenced on the claim's own stamp. -/
  | release {m : Manager} {sessionId : String} {row : LabSession} {patch : SessionPatch}
      {guard : TransitionGuard} {rebuilt : List Effect} {target : SessionStatus}
      {reason : Option String} {activity stamp : Instant}
      (resets : op = .reset m sessionId)
      (claimed : effects past =
        rebuilt ++ [Effect.moved sessionId resettableStatuses .resetting patch guard row])
      (onlyRebuilt : ∀ done ∈ rebuilt, ∃ context answer, done = .rebuilt context answer)
      (untried : Untried sessionId past) (releases : target = .active ∨ target = .degraded) :
      Issued op past (.transition sessionId [.resetting] target
        { statusReason := reason
          lastActivityAt := some activity
          statusChangedAt := some stamp } { statusChangedAt := some row.statusChangedAt })
  /-- `#degrade` on behalf of a reset that is gone, fenced on a claim somebody observed. -/
  | recover {sessionId : String} {reason : String} {activity : Option Instant}
      {stamp observed : Instant} (platform : op.byPlatform = true) :
      Issued op past (.transition sessionId [.resetting] .degraded
        { statusReason := some reason
          lastActivityAt := activity
          statusChangedAt := some stamp } { statusChangedAt := some observed })
  /-- `markSandboxStopped`. -/
  | stopped {sessionId : String} {reason : String} {stamp observed : Instant} :
      Issued op past (.transition sessionId [.active] .degraded
        { statusReason := some reason, statusChangedAt := some stamp }
        { statusChangedAt := some observed })
  /-- `interruptInFlight`, on a start. -/
  | handOver {entry : InFlight} {stamp : Instant} (handsOver : op = .handOverStart entry) :
      Issued op past (.transition entry.sessionId [.creating] .expiring
        { statusReason := some abandonedStartReason, statusChangedAt := some stamp }
        { statusChangedAt := some entry.stamp })
  /-- `#teardown`, marking a session whose start is still building. -/
  | defer {sessionId : String} {inProgress : SessionStatus} {reason : String} {stamp : Instant}
      (defers : (∃ m, op = .endSession m sessionId) ∧ inProgress = .ending ∧
          reason = studentEndReason ∨
        (∃ m, op = .endByOperator m sessionId) ∧ inProgress = .expiring ∧
          reason = operatorEndReason) :
      Issued op past (.transition sessionId [.creating] inProgress
        { statusReason := some reason, statusChangedAt := some stamp } {})
  /-- `#teardown`, its claim. -/
  | claim {sessionId : String} {source : List SessionStatus} {inProgress : SessionStatus}
      {reason : String} {claimGuard : TransitionGuard} {stamp : Instant}
      (claims : TeardownClaim op past sessionId source inProgress reason claimGuard) :
      Issued op past (.transition sessionId source inProgress
        { statusReason := some reason, statusChangedAt := some stamp } claimGuard)
  /-- `#teardown`, recording the ending. -/
  | finish {row : LabSession} {result : DestroyResult} {source : List SessionStatus}
      {inProgress done : SessionStatus} {patch : SessionPatch} {guard : TransitionGuard}
      {earlier : List Effect} {reason : String} {endedAt stamp : Instant}
      (destroyed : effects past =
        .destroyed (teardownContextFor row) (.ok result) ::
          .moved row.sessionId source inProgress patch guard row :: earlier)
      (gone : result.ok = true ∧ result.namespaceGone = true)
      (pair : TeardownPair inProgress done) (reasoned : patch.statusReason = some reason)
      (claimed : source ≠ [.creating]) :
      Issued op past (.transition row.sessionId [inProgress] done
        { statusReason := some reason
          endedAt := some endedAt
          statusChangedAt := some stamp } {})
  /-- `forget`. -/
  | forget {sessionId : String} (platform : op.byPlatform = true) :
      Issued op past (.delete sessionId)
  /-- `#failSession`, the cleanup. -/
  | destroyFailed {session : LabSession} {limits : CapacityLimits}
      {answer : Except Failure CreateResult} {provider : LabProviderId}
      (failed : effects past =
        [.created (teardownContextFor session) answer, .admitted session limits])
      (unusable : buildFailed answer = true) :
      Issued op past (.destroy provider (teardownContextFor session))
  /-- `#discardLostWork`. -/
  | destroyLost {session : LabSession} {current : Option LabSession} {earlier : History}
      {provider : LabProviderId}
      (read : past = ⟨.get session.sessionId, .ok current⟩ :: earlier)
      (owned : ∀ row, current = some row → isTeardownOwned row.status = true)
      (known : Known session.sessionId earlier) :
      Issued op past (.destroy provider (teardownContextFor session))
  /-- `#teardown`, once its claim stands. -/
  | destroyMarked {row : LabSession} {source : List SessionStatus}
      {inProgress done : SessionStatus} {patch : SessionPatch} {guard : TransitionGuard}
      {earlier : List Effect} {provider : LabProviderId}
      (marked : effects past = .moved row.sessionId source inProgress patch guard row :: earlier)
      (inFlight : row.status = inProgress) (pair : TeardownPair inProgress done) :
      Issued op past (.destroy provider (teardownContextFor row))
  /-- `reclaimFinishedSandbox`. -/
  | destroyFinished {row : LabSession} {earlier : History} {provider : LabProviderId}
      (read : past = ⟨.get row.sessionId, .ok (some row)⟩ :: earlier)
      (finished : isTerminalStatus row.status = true) :
      Issued op past (.destroy provider (teardownContextFor row))
  /-- `#notifyClosed`. -/
  | notify {sessionId reason : String} {row : LabSession} {inProgress done : SessionStatus}
      {patch : SessionPatch} {earlier : List Effect} (named : row.sessionId = sessionId)
      (recorded : effects past =
        .moved sessionId [inProgress] done patch {} row :: earlier)
      (pair : TeardownPair inProgress done) (reasoned : patch.statusReason = some reason) :
      Issued op past (.onSessionClosed
        { sessionId := row.sessionId
          labId := row.labId
          provider := row.provider
          status := done
          reason := reason })

/-! ### What a command says about its thread -/

section Inversion

variable {op : SessionOp} {past : History}

theorem Issued.of_createWithinLimits {session : LabSession} {limits : CapacityLimits}
    (issued : Issued op past (.createWithinLimits session limits)) :
    ∃ m labId ownerUserId hooks lab createdAt,
      op = .start m labId ownerUserId hooks ∧ effects past = [] ∧
        ⟨.newSessionId, .ok session.sessionId⟩ ∈ past ∧
        session = candidate m lab ownerUserId createdAt session.sessionId ∧
        limits =
          { maxOccupying := m.lifetimes.maxActiveSessions
            maxOccupyingPerOwner := perOwnerLimit m.lifetimes hooks.ownerSessionLimit } := by
  cases issued with
  | quiet isFree => cases isFree
  | admission starts first drawn => exact ⟨_, _, _, _, _, _, starts, first, drawn, rfl, rfl⟩

theorem Issued.of_create {provider : LabProviderId} {lab : Lab} {context : SessionTeardownContext}
    (issued : Issued op past (.create provider lab context)) :
    ∃ session limits, effects past = [.admitted session limits] ∧
      context = teardownContextFor session := by
  cases issued with
  | quiet isFree => cases isFree
  | build first => exact ⟨_, _, first, rfl⟩

theorem Issued.of_reset {provider : LabProviderId} {lab : Lab} {context : SessionTeardownContext}
    (issued : Issued op past (.reset provider lab context)) :
    ∃ m patch guard row, op = .reset m context.sessionId ∧
      effects past = [.moved context.sessionId resettableStatuses .resetting patch guard row] ∧
        Untried context.sessionId past := by
  cases issued with
  | quiet isFree => cases isFree
  | rebuild resets claimed named untried =>
      subst named
      exact ⟨_, _, _, _, resets, claimed, untried⟩

theorem Issued.of_onSessionClosed {event : SessionClosedEvent}
    (issued : Issued op past (.onSessionClosed event)) :
    ∃ row inProgress patch earlier,
      effects past = .moved event.sessionId [inProgress] event.status patch {} row :: earlier ∧
        TeardownPair inProgress event.status ∧ patch.statusReason = some event.reason := by
  cases issued with
  | quiet isFree => cases isFree
  | notify named recorded pair reasoned =>
      subst named
      exact ⟨_, _, _, _, recorded, pair, reasoned⟩

end Inversion

/-- The answers a command can get: a row that is shown under an id carries that id, and a row that
    was moved carries what the move wrote. -/
def Credible : (command : Cmd) → Except Failure command.Ans → Prop
  | .get sessionId, .ok (some row) => row.sessionId = sessionId
  | .transition sessionId _ target patch _, .ok (some row) =>
      row.sessionId = sessionId ∧ row.status = target ∧
        ∀ reason, patch.statusReason = some reason → row.statusReason = some reason
  | _, _ => True

/-- The discipline of a thread that runs `op`. -/
def discipline (op : SessionOp) : Discipline sessionSignature Failure where
  issued := fun past command => Issued op past command
  answered := fun command answer => Credible command answer

/-- The world only gives credible answers. -/
theorem credible_of_respond {command : Cmd} {world world' : World} {reply : Reply}
    {answer : Except Failure command.Ans}
    (responded : respond command world reply = some (answer, world')) :
    Credible command answer := by
  cases command with
  | get sessionId =>
      rcases answer with failure | (_ | row)
      · trivial
      · trivial
      · obtain ⟨_, stored⟩ := respond_get responded
        exact InMemorySessionStore.sessionId_of_get (stored _ rfl)
  | transition sessionId source target patch guard =>
      rcases answer with failure | (_ | row)
      · trivial
      · trivial
      · rcases respond_transition responded with ⟨_, impossible, _⟩ | ⟨found, isRow, ran⟩
        · cases impossible
        · cases isRow
          rcases InMemorySessionStore.transition_cases ran with
            ⟨impossible, _⟩ | ⟨current, stored, _, _, written, _⟩
          · cases impossible
          · cases written
            have named : current.sessionId = sessionId := InMemorySessionStore.sessionId_of_get stored
            refine ⟨named, rfl, fun reason isReason => ?_⟩
            simp [SessionPatch.apply, InMemorySessionStore.transitionPatch, isReason]
  | _ => trivial

end JumptotechLabs.Session
