/-
Module: JumptotechLabs.Session.Reaper
Layer: Session (services/lab-orchestrator/src/session/reaper.ts)
Purpose: `SessionReaper.sweep` and its passes: sessions the store knows about, sandboxes the substrate
  has but no live session owns, stopped containers, and finished records. Each pass threads the
  `SweepResult` the source mutates. Log lines and metric hooks are left out.
Main exports: SweepResult, sweepSession, sweepSessions, sweepOrphan, sweepOrphans,
  reconcileStoppedSandboxes, sweepRetention, sweep
-/
import JumptotechLabs.Session.Manager

namespace JumptotechLabs.Session

open JumptotechLabs.Core
open JumptotechLabs.Core.Prog (attempt ensure)

/-- `SweepReason`. -/
inductive SweepReason where
  | expired
  | idle
  | abandoned
  | orphaned
deriving DecidableEq, Inhabited

/-- `SweepResult`. -/
structure SweepResult where
  removed : List String := []
  reasons : List (String × SweepReason) := []
  pendingRefs : List String := []
  errors : List String := []
  retained : Nat := 0
  recovered : List String := []
  forgotten : List String := []
deriving DecidableEq, Inhabited

namespace SweepResult

/-- A sandbox confirmed gone, and why. -/
def remove (result : SweepResult) (ref : String) (reason : SweepReason) : SweepResult :=
  { result with
    removed := result.removed ++ [ref]
    reasons := result.reasons.filter (·.1 ≠ ref) ++ [(ref, reason)] }

def leavePending (result : SweepResult) (ref : String) : SweepResult :=
  { result with pendingRefs := result.pendingRefs ++ [ref] }

def addError (result : SweepResult) (error : String) : SweepResult :=
  { result with errors := result.errors ++ [error] }

def retain (result : SweepResult) : SweepResult := { result with retained := result.retained + 1 }

def recover (result : SweepResult) (sessionId : String) : SweepResult :=
  { result with recovered := result.recovered ++ [sessionId] }

end SweepResult

namespace Reaper

/-- The grace periods the constructor settles on. A reset's claim is fenced on its status stamp, so
    its recovery grace is never zero. -/
def resetRecoveryGrace (r : Reaper) : Int := max 1 (r.resetRecoveryGraceMs.getD 600000)

def orphanGrace (r : Reaper) : Int := r.orphanGraceMs.getD 60000

def abandonedEndGrace (r : Reaper) : Int := r.abandonedEndGraceMs.getD 300000

def abandonedStartGrace (r : Reaper) : Int := r.abandonedStartGraceMs.getD 600000

def lostSandboxGrace (r : Reaper) : Int := r.lostSandboxGraceMs.getD 120000

def retention (r : Reaper) : Int := r.retentionMs.getD 900000

end Reaper

/-- What one driven teardown adds to the result. -/
def recordTeardown (result : SweepResult) (ref : String) (reason : SweepReason)
    (outcome : TeardownResult) : SweepResult :=
  let status := outcome.session.status
  if !outcome.destroy.namespaceGone && !isTerminalStatus status && status != .expiring &&
      status != .ending then
    -- Not claimed and still live: the student was active after this sweep judged the session.
    result.retain
  else if outcome.destroy.namespaceGone then result.remove ref reason
  else
    match outcome.destroy.error with
    | some error => (result.leavePending ref).addError (ref ++ ": " ++ error.message)
    | none => result.leavePending ref

/-- `#finish`: drive one session teardown and record what it achieved. -/
def finish (result : SweepResult) (session : LabSession) (reason : SweepReason)
    (teardown : SessionM TeardownResult) : SessionM SweepResult := do
  match ← attempt teardown with
  | .ok outcome => pure (recordTeardown result session.sandboxRef reason outcome)
  | .error failure =>
      pure (result.addError (session.sandboxRef ++ ": " ++ describeError failure))

/-- Recover one reset nobody is running any more. -/
def recoverReset (result : SweepResult) (session : LabSession) : SessionM SweepResult := do
  match ← attempt (recoverInterruptedReset session) with
  | .ok (some _) => pure (result.recover session.sessionId)
  | .ok none => pure result.retain
  | .error failure =>
      pure (result.addError (session.sandboxRef ++ ": " ++ describeError failure))

/-- The decimal text of an idle budget. -/
def idleDetail (session : LabSession) : String :=
  "idle for more than " ++ toString session.idleTimeoutSeconds ++ "s"

/-- One round of `#sweepSessions`, decided from the row as this sweep read it. -/
def sweepSession (r : Reaper) (now : Instant) (result : SweepResult) (session : LabSession) :
    SessionM SweepResult :=
  let expired := isExpired session now
  let idle := isIdle session now
  let inStatusMs := now - session.statusChangedAt
  if isTerminalStatus session.status then pure result
  else if session.status = .ending then
    if inStatusMs < r.abandonedEndGrace then pure (result.leavePending session.sandboxRef)
    else finish result session .abandoned (resumeAbandonedEnd r.sessions session.sessionId)
  else if session.status = .creating && !expired && !idle &&
      decide (r.abandonedStartGrace ≤ inStatusMs) then
    -- Fenced on the CREATING stamp this sweep read: a start that reached ACTIVE meanwhile wins.
    finish result session .abandoned
      (expire r.sessions session.sessionId abandonedStartReason
        { statusChangedAt := some session.statusChangedAt })
  else if session.status = .resetting && !expired && !idle &&
      decide (r.resetRecoveryGrace ≤ inStatusMs) then
    recoverReset result session
  else
    let inFlight := session.status == .expiring
    if !inFlight && !expired && !idle then pure result.retain
    else
      let abandonedStart := inFlight && session.statusReason == some abandonedStartReason
      let reason : SweepReason :=
        if abandonedStart then .abandoned else if expired then .expired else .idle
      let detail :=
        if inFlight then session.statusReason.getD "resuming an interrupted teardown"
        else if expired then "absolute session lifetime reached"
        else idleDetail session
      -- An idle expiry is fenced on the activity it judged.
      let fence : TransitionGuard :=
        if !inFlight && !expired then { lastActivityAt := some session.lastActivityAt } else {}
      finish result session reason (expire r.sessions session.sessionId detail fence)

/-- `#sweepSessions`. -/
def sweepSessions (r : Reaper) (result : SweepResult) : SessionM SweepResult := do
  let now ← await .now
  match ← attempt (await .list) with
  | .error failure => pure (result.addError ("listing sessions: " ++ describeError failure))
  | .ok sessions => List.foldlM (sweepSession r now) result sessions

/-- `#recordOrphanOutcome`. -/
def recordOrphanOutcome (result : SweepResult) (sandbox : ManagedSandbox)
    (outcome : DestroyResult) : SweepResult :=
  if outcome.namespaceGone then result.remove sandbox.sandboxRef .orphaned
  else if outcome.ok then result.leavePending sandbox.sandboxRef
  else
    result.addError (sandbox.sandboxRef ++ ": " ++
      (outcome.error.map LabError.message).getD "unknown error")

/-- The handles a session that is still running shields. -/
def liveRefs (sessions : List LabSession) : List String :=
  (sessions.filter fun session => !isTerminalStatus session.status).flatMap fun session =>
    [session.sandboxRef, session.namespaceName]

/-- The finished session a sandbox belonged to; a later row of the listing overrides. -/
def finishedOwner (sessions : List LabSession) (sandboxRef : String) : Option LabSession :=
  sessions.reverse.find? fun session =>
    isTerminalStatus session.status && session.sandboxRef == sandboxRef

/-- One sandbox of the orphan sweep. -/
def sweepOrphan (r : Reaper) (provider : LabProviderId) (sessions : List LabSession)
    (now : Instant) (result : SweepResult) (sandbox : ManagedSandbox) : SessionM SweepResult := do
  if (liveRefs sessions).contains sandbox.sandboxRef then pure result
  else if sandbox.phase == "Terminating" || sandbox.phase == "removing" then pure result
  else
    match finishedOwner sessions sandbox.sandboxRef with
    | some owner =>
        let outcome ← reclaimFinishedSandbox r.sessions owner.sessionId
        pure (recordOrphanOutcome result sandbox outcome)
    | none =>
        -- The platform will not guess a deadline for a sandbox it cannot date.
        if sandbox.expiresAtMs = 0 then pure result
        else if now < sandbox.expiresAtMs + r.orphanGrace then pure result
        else
          let outcome ← await (.destroySandbox provider sandbox.sandboxRef)
          pure (recordOrphanOutcome result sandbox outcome)

/-- What each provider that answered says about the sandboxes it owns. -/
abbrev Phases := List ((LabProviderId × String) × String)

/-- One provider of the orphan sweep; one sick backend must not stop another's cleanup. -/
def sweepProvider (r : Reaper) (sessions : List LabSession) (now : Instant)
    (state : SweepResult × Phases) (provider : LabProviderId) :
    SessionM (SweepResult × Phases) := do
  match ← attempt (await (.listManagedSandboxes provider)) with
  | .error failure =>
      pure (state.1.addError
        ("listing " ++ provider.text ++ " sandboxes: " ++ describeError failure), state.2)
  | .ok managed =>
      let managed : List ManagedSandbox := managed
      let phases := state.2 ++ managed.map fun sandbox =>
        ((provider, sandbox.sandboxRef), sandbox.phase)
      let result ← List.foldlM (sweepOrphan r provider sessions now) state.1 managed
      pure (result, phases)

/-- The last phase reported for a session's sandbox. -/
def phaseOf (phases : Phases) (session : LabSession) : Option String :=
  (phases.reverse.find? fun entry => entry.1 == (session.provider, session.sandboxRef)).map (·.2)

/-- Is this an ACTIVE container session whose container has been stopped for long enough? -/
def sandboxLost (r : Reaper) (phases : Phases) (now : Instant) (session : LabSession) : Bool :=
  session.status == .active && session.sandboxKind == .container &&
    (phaseOf phases session == some "exited" || phaseOf phases session == some "dead") &&
    decide (r.lostSandboxGrace ≤ now - session.statusChangedAt)

/-- One session of `#reconcileStoppedSandboxes`, seen stopped on the previous sweep as well. -/
def reconcileStopped (result : SweepResult) (session : LabSession) : SessionM SweepResult := do
  match ← attempt (markSandboxStopped session) with
  | .ok (some _) => pure (result.recover session.sessionId)
  | .ok none => pure result
  | .error failure =>
      pure (result.addError (session.sandboxRef ++ ": " ++ describeError failure))

/-- `#reconcileStoppedSandboxes`. -/
def reconcileStoppedSandboxes (r : Reaper) (result : SweepResult) (sessions : List LabSession)
    (phases : Phases) (now : Instant) : SessionM SweepResult := do
  let lost := sessions.filter (sandboxLost r phases now)
  let lastSweep : List String ← await (.lostLastSweep r.index)
  let result ← List.foldlM reconcileStopped result
    (lost.filter fun session => lastSweep.contains session.sessionId)
  await (.setLostLastSweep r.index (lost.map LabSession.sessionId))
  pure result

/-- `#sweepOrphans`. -/
def sweepOrphans (r : Reaper) (result : SweepResult) : SessionM SweepResult := do
  let now ← await .now
  match ← attempt (await .list) with
  | .error failure => pure (result.addError ("listing sessions: " ++ describeError failure))
  | .ok sessions =>
      let (result, phases) ← List.foldlM (sweepProvider r sessions now) (result, []) r.providers
      reconcileStoppedSandboxes r result sessions phases now

/-- One record of `#sweepRetention`. -/
def retireSession (r : Reaper) (now : Instant) (result : SweepResult) (session : LabSession) :
    SessionM SweepResult := do
  if !isTerminalStatus session.status then pure result
  else
    let endedAt := session.endedAt.getD 0
    if endedAt = 0 || decide (now - endedAt < r.retention) then pure result
    else
      forget session.sessionId
      pure { result with forgotten := result.forgotten ++ [session.sessionId] }

/-- `#sweepRetention`. -/
def sweepRetention (r : Reaper) (result : SweepResult) : SessionM SweepResult := do
  if r.retention ≤ 0 then pure result
  else
    let now ← await .now
    let sessions ← await .list
    List.foldlM (retireSession r now) result sessions

/-- One reconciliation pass; a pass that overlaps another does nothing. -/
def sweep (r : Reaper) : SessionM SweepResult := do
  let sweeping : Bool ← await (.beginSweep r.index)
  if sweeping then pure {}
  else
    ensure
      (do
        let result ← sweepSessions r {}
        let result ← sweepOrphans r result
        sweepRetention r result)
      (await (.endSweep r.index))

end JumptotechLabs.Session
