/-
Module: JumptotechLabs.Session.Manager
Layer: Session (services/lab-orchestrator/src/session/manager.ts)
Purpose: `SessionManager`, method by method, as programs over the commands it awaits. Log lines and
  metric hooks are left out: they read state and swallow their own failures, so nothing depends on
  them.
Main exports: transition, start, touch, reset, degrade, recoverInterruptedReset, markSandboxStopped, endSession, expire,
  endByOperator, resumeAbandonedEnd, reclaimFinishedSandbox, teardown, interruptInFlight, forget
-/
import JumptotechLabs.Session.Commands

namespace JumptotechLabs.Session

open JumptotechLabs.Core
open JumptotechLabs.Core.Prog (attempt ensure settle)

/-! ### Texts -/

def resetRetryRemediation : String :=
  "The last reset did not finish, so this environment cannot be used as it is. " ++
    "Reset the lab to rebuild it, or End Lab to release it."

/-- What a student can do about a session that is not ACTIVE. -/
def remediationFor (status : SessionStatus) : String :=
  if isTerminalStatus status then "Start the lab again to get a fresh environment."
  else if status = .degraded then resetRetryRemediation
  else "The environment is busy; try again in a moment."

/-- The refusal for acting on a session that is not ACTIVE. -/
def notActive (status : SessionStatus) : Failure :=
  .session
    { code := .sessionNotActive
      message := "This lab session is " ++ status.text ++ "."
      remediation := some (remediationFor status)
      details := .status status }

/-- `restarting('start')`. -/
def restartingStart : Failure :=
  .session
    { code := .labLaunchesPaused
      message := "The platform is restarting, so new labs cannot start for a moment."
      remediation :=
        some "Labs that are already running keep working. Try again in a minute." }

/-- `restarting('reset')`. -/
def restartingReset : Failure :=
  .session
    { code := .sessionNotActive
      message := "The platform is restarting, so this lab cannot be reset for a moment."
      remediation := some "Your lab is unchanged. Try Reset again in a minute." }

def sessionNotFound : Failure :=
  .session
    { code := .sessionNotFound
      message := "That lab session does not exist, or it has already been cleaned up."
      remediation := some "Start the lab again to get a fresh environment." }

/-- `OPERATOR_END_REASON`. -/
def operatorEndReason : String := "ended by operator"

/-- `ABANDONED_START_REASON`. -/
def abandonedStartReason : String := "the lab did not finish starting"

/-- The reason of a student's End. -/
def studentEndReason : String := "ended by student"

/-! ### Shared steps -/

/-- `#transition`: every status change goes through here, stamped with when it happened. -/
def transition (sessionId : String) (source : List SessionStatus) (target : SessionStatus)
    (patch : SessionPatch) (guard : TransitionGuard := {}) : SessionM (Option LabSession) := do
  let stamp ← await .now
  await (.transition sessionId source target { patch with statusChangedAt := some stamp } guard)

/-- Look up a session by id; absent or malformed ids are refused. -/
def require (sessionId : String) : SessionM LabSession := do
  if isValidSessionId sessionId then
    match ← await (.get sessionId) with
    | some session => pure session
    | none => throw sessionNotFound
  else
    throw (.session
      { code := .invalidSessionId, message := "Session ids look like sess-<hex>." })

/-- `#teardownContextFor`. -/
def teardownContextFor (session : LabSession) : SessionTeardownContext where
  sessionId := session.sessionId
  labId := session.labId
  sandboxRef := session.sandboxRef
  namespaceName := session.namespaceName
  serviceAccountName := session.serviceAccountName
  expiresAtMs := session.expiresAt

/-- `#providerFor`: the provider recorded on the session, if it is registered here at all. -/
def providerFor (m : Manager) (session : LabSession) : SessionM LabProviderId :=
  match m.providers session.provider with
  | some _ => pure session.provider
  | none =>
      throw (.providerUnavailable session.provider
        "no implementation is registered for the provider that created this session" none)

/-- `ProviderRegistry.resolve`, with the manager's wrapping of its refusal. -/
def resolve (m : Manager) (lab : Lab) : SessionM Unit :=
  let refuse (reason : String) (remediation : Option String) : SessionM Unit :=
    throw (.session
      { code := .providerUnavailable
        message := describeError (.providerUnavailable lab.provider reason remediation)
        remediation := some (remediation.getD
          "This lab needs a sandbox backend that is not available on this deployment.")
        details := .provider lab.provider })
  match m.providers lab.provider with
  | none =>
      refuse "no implementation is registered for this provider"
        (some "Register the provider in the API composition root (apps/api/src/providers.ts).")
  | some registration =>
      if registration.enabled then pure ()
      else refuse (registration.disabledReason.getD "disabled by configuration")
        registration.remediation

/-- Did a probe answer, and answer no? -/
def saysUnavailable : Option ProviderAvailability → Bool
  | some availability => !availability.available
  | none => false

/-- The refusal of a start whose substrate is down. -/
def substrateDown (lab : Lab) (availability : Option ProviderAvailability) : Failure :=
  .session
    { code := .providerUnavailable
      message :=
        match availability.bind ProviderAvailability.studentReason with
        | some studentReason =>
            "This lab's environment cannot be created right now: " ++ studentReason ++ "."
        | none => "This lab's environment cannot be created right now."
      remediation :=
        some "Try again in a few minutes. If it keeps happening, tell your instructor."
      details := .provider lab.provider }

/-! ### End and expiry -/

/-- `TeardownResult`. -/
structure TeardownResult where
  session : LabSession
  destroy : DestroyResult
deriving DecidableEq, Inhabited

/-- `#notifyClosed`: a listener failure never escapes into the teardown path. -/
def notifyClosed (m : Manager) (event : SessionClosedEvent) : SessionM Unit :=
  if m.hasListener then do
    try await (.onSessionClosed event) catch _ => pure ()
  else pure ()

/-- Close the student's shell; a terminal that fails to is only logged. -/
def closeShell (m : Manager) (sessionId : String) : SessionM Unit :=
  if m.hasTerminal then do
    try await (.terminate sessionId) catch _ => pure ()
  else pure ()

/-- The provider's session-scoped destroy. A throw is a failed delete like any other. -/
def destroyOf (m : Manager) (session : LabSession) : SessionM DestroyResult := do
  try
    let provider ← providerFor m session
    await (.destroy provider (teardownContextFor session))
  catch failure =>
    pure
      { ok := false
        namespaceGone := false
        error := some { code := .destroyFailed, message := describeError failure } }

/-- The session as it now is, or as it was last seen. -/
def currentOr (session : LabSession) : SessionM LabSession := do
  let current ← await (.get session.sessionId)
  pure (current.getD session)

/-- Record the ending of a teardown whose sandbox is verifiably gone. Only the first to move the row
    from `inProgress` does, and tells the listener. -/
def recordEnding (m : Manager) (marked : LabSession) (inProgress done : SessionStatus)
    (reason : String) (destroy : DestroyResult) : SessionM TeardownResult := do
  let endedAt ← await .now
  match ← transition marked.sessionId [inProgress] done
      { statusReason := some reason, endedAt := some endedAt } with
  | some ended =>
      notifyClosed m
        { sessionId := ended.sessionId
          labId := ended.labId
          provider := ended.provider
          status := done
          reason := reason }
      pure ⟨ended, destroy⟩
  | none => pure ⟨← currentOr marked, destroy⟩

/-- The rest of `#teardown` once its claim stands: close the shell, destroy, and only when the sandbox
    is verifiably gone record the ending. -/
def finishTeardown (m : Manager) (marked : LabSession) (inProgress done : SessionStatus)
    (reason : String) : SessionM TeardownResult := do
  closeShell m marked.sessionId
  let destroy ← destroyOf m marked
  if destroy.ok && destroy.namespaceGone then recordEnding m marked inProgress done reason destroy
  else pure ⟨← currentOr marked, destroy⟩

/-- The second half of `#teardown`: claim the session for this teardown, then finish it. -/
def claimTeardown (m : Manager) (session : LabSession) (claimable : List SessionStatus)
    (inProgress done : SessionStatus) (reason : String) (claimGuard : TransitionGuard) :
    SessionM TeardownResult := do
  match ← transition session.sessionId claimable inProgress
      { statusReason := some reason } claimGuard with
  | none =>
      let current ← currentOr session
      pure ⟨current, { ok := true, namespaceGone := isTerminalStatus current.status }⟩
  | some marked => finishTeardown m marked inProgress done reason

/-- `#teardown`. A session that is already finished is returned as it is. With `deferToStart` a
    CREATING session is only marked: the start that is building it finishes the teardown. -/
def teardown (m : Manager) (session : LabSession) (claimable : List SessionStatus)
    (inProgress done : SessionStatus) (reason : String) (claimGuard : TransitionGuard := {})
    (deferToStart : Bool := false) : SessionM TeardownResult :=
  if isTerminalStatus session.status then
    pure ⟨session, { ok := true, namespaceGone := true }⟩
  else if deferToStart && session.status == .creating then do
    match ← transition session.sessionId [.creating] inProgress
        { statusReason := some reason } claimGuard with
    | some claimed => pure ⟨claimed, { ok := true, namespaceGone := false }⟩
    -- It moved on meanwhile, so it is torn down as what it is now.
    | none => claimTeardown m session claimable inProgress done reason claimGuard
  else claimTeardown m session claimable inProgress done reason claimGuard

/-- Student pressed End Lab. -/
def endSession (m : Manager) (sessionId : String) : SessionM TeardownResult := do
  let session ← require sessionId
  teardown m session (liveStatuses ++ [SessionStatus.ending]) .ending .ended studentEndReason {} true

/-- The reaper collected the session; `claimGuard` fences the claim on what it decided from. -/
def expire (m : Manager) (sessionId : String) (reason : String)
    (claimGuard : TransitionGuard := {}) : SessionM TeardownResult := do
  let session ← require sessionId
  teardown m session (liveStatuses ++ [SessionStatus.expiring]) .expiring .expired reason claimGuard

/-- Finish an End whose owner is gone. It claims nothing but ENDING. -/
def resumeAbandonedEnd (m : Manager) (sessionId : String) : SessionM TeardownResult := do
  let session ← require sessionId
  teardown m session [.ending] .ending .ended (session.statusReason.getD studentEndReason)

/-- An operator ended the session. A teardown already in flight is finished as what it is. -/
def endByOperator (m : Manager) (sessionId : String) : SessionM TeardownResult := do
  let session ← require sessionId
  if session.status = .ending then resumeAbandonedEnd m session.sessionId
  else if session.status = .expiring then
    teardown m session [.expiring] .expiring .expired
      (session.statusReason.getD operatorEndReason)
  else
    teardown m session liveStatuses .expiring .expired operatorEndReason {} true

/-- Remove a sandbox that outlived its finished session. -/
def reclaimFinishedSandbox (m : Manager) (sessionId : String) : SessionM DestroyResult := do
  let refuse (status : String) : DestroyResult :=
    { ok := false
      namespaceGone := false
      error := some
        { code := .destroyFailed
          message := "session " ++ sessionId ++ " is " ++ status ++ ", not finished" } }
  match ← await (.get sessionId) with
  | none => pure (refuse "unknown")
  | some session =>
      if isTerminalStatus session.status then destroyOf m session
      else pure (refuse session.status.text)

/-- Forget a finished session record. -/
def forget (sessionId : String) : SessionM Unit := await (.delete sessionId)

/-! ### Start -/

/-- A destroy whose outcome is only logged. -/
def bestEffortDestroy (m : Manager) (session : LabSession) : SessionM Unit := do
  try
    let provider ← providerFor m session
    let _ ← await (.destroy provider (teardownContextFor session))
    pure ()
  catch _ => pure ()

/-- `#discardLostWork`: remove what a start or reset built after it lost its claim, but only when a
    teardown owns the session. -/
def discardLostWork (m : Manager) (session : LabSession) : SessionM Unit := do
  let current ← await (.get session.sessionId)
  if (current.map fun row => isTeardownOwned row.status).getD true then
    bestEffortDestroy m session
  else pure ()

/-- `#finishTeardownOfLostStart`: a failure is only logged, the reaper resumes the teardown. -/
def finishTeardownOfLostStart (m : Manager) (sessionId : String) : SessionM Unit :=
  try
    match ← await (.get sessionId) with
    | none => pure ()
    | some current =>
        if current.status = .ending then
          let _ ← resumeAbandonedEnd m sessionId
          pure ()
        else if current.status = .expiring then
          let _ ← teardown m current [.expiring] .expiring .expired
            (current.statusReason.getD "expired")
          pure ()
        else pure ()
  catch _ => pure ()

/-- `#closedDuringStart`. -/
def closedDuringStart (sessionId : String) : SessionM Failure := do
  let current ← await (.get sessionId)
  pure (.session
    { code := .sessionNotActive
      message :=
        "This lab session was closed while it was starting" ++
          (match current with
            | some row => " (" ++ row.status.text ++ ")"
            | none => "") ++ "."
      remediation := some "Start the lab again to get a fresh environment."
      details :=
        match current with
        | some row => .status row.status
        | none => .absent })

/-- `#failSession`: best-effort cleanup, then FAILED unless a teardown took the session. -/
def failSession (m : Manager) (session : LabSession) (reason : String) : SessionM Unit := do
  bestEffortDestroy m session
  let endedAt ← await .now
  match ← transition session.sessionId [.creating] .failed
      { statusReason := some reason, endedAt := some endedAt } with
  | some _ => pure ()
  | none =>
      let _ ← await (.get session.sessionId)
      finishTeardownOfLostStart m session.sessionId

/-- `StartSessionResult`. -/
structure StartSessionResult where
  session : LabSession
  lab : Lab
  environmentId : String
  steps : List ProvisionStep
deriving DecidableEq, Inhabited

/-- What `#buildAdmitted` does once the provider has answered that the sandbox stands. -/
def activateBuilt (m : Manager) (lab : Lab) (session : LabSession) (result : CreateResult) :
    SessionM StartSessionResult := do
  let activeAt ← await .now
  match ← transition session.sessionId [.creating] .active
      { environmentId := some result.environmentId, lastActivityAt := some activeAt } with
  | some active =>
      -- The count is for a log line only; failing to read it fails nothing.
      let _ ← attempt (await .countOccupying)
      pure ⟨active, lab, result.environmentId, result.steps⟩
  | none =>
      discardLostWork m session
      finishTeardownOfLostStart m session.sessionId
      throw (← closedDuringStart session.sessionId)

/-- The caller's `onAdmitted` hook; its failure is only logged. -/
def tellAdmitted (hooks : StartHooks) (session : LabSession) : SessionM Unit :=
  if hooks.onAdmitted then do
    try await (.onAdmitted session) catch _ => pure ()
  else pure ()

/-- `#buildAdmitted`: the rest of `start`, once the session holds its slot. -/
def buildAdmitted (m : Manager) (lab : Lab) (session : LabSession) (hooks : StartHooks) :
    SessionM StartSessionResult := do
  tellAdmitted hooks session
  match ← attempt (await (.create lab.provider lab (teardownContextFor session))) with
  | .error failure =>
      let message := describeError failure
      failSession m session message
      throw (.session { code := .sessionProvisionFailed, message := message })
  | .ok result =>
      if result.ok then activateBuilt m lab session result
      else
        let message :=
          (result.error.map LabError.message).getD "Failed to create the lab environment"
        failSession m session message
        throw (.session
          { code := .sessionProvisionFailed
            message := message
            remediation := result.error.bind LabError.remediation
            details := .provision result.steps result.environmentId
              (result.error.map LabError.code) })

/-- The per-student limit of one start: the lower of the caller's and the deployment's. -/
def perOwnerLimit (lifetimes : SessionLifetimeConfig) (ownerSessionLimit : Option Int) :
    Option Nat :=
  match ownerSessionLimit with
  | some limit =>
      if 1 ≤ limit then
        some (min limit.toNat (lifetimes.maxActiveSessionsPerStudent.getD limit.toNat))
      else lifetimes.maxActiveSessionsPerStudent
  | none => lifetimes.maxActiveSessionsPerStudent

/-- The candidate row of one attempt to insert a session. -/
def candidate (m : Manager) (lab : Lab) (ownerUserId : Option String) (createdAt : Instant)
    (sessionId : String) : LabSession where
  sessionId := sessionId
  labId := lab.id
  provider := lab.provider
  sandboxKind := providerSandboxKind lab.provider
  sandboxRef :=
    if providerSandboxKind lab.provider = .container then m.deriveSandboxRef sessionId
    else m.deriveNamespace sessionId
  namespaceName := m.deriveNamespace sessionId
  serviceAccountName := m.serviceAccountName
  status := .creating
  environmentId := ""
  createdAt := createdAt
  lastActivityAt := createdAt
  statusChangedAt := createdAt
  expiresAt := createdAt + m.lifetimes.maxSessionSeconds * 1000
  endedAt := none
  statusReason := none
  -- An empty owner is no owner.
  ownerUserId := ownerUserId.filter (· ≠ "")
  shellUid := none
  idleTimeoutSeconds := m.lifetimes.idleTimeoutSeconds
  idleWarningSeconds := m.lifetimes.warningSeconds

/-- The refusal of a start that did not fit. -/
def refusedStart (m : Manager) (limit : Option Nat) :
    CapacityLimit → Nat → Nat → Failure
  | .owner, _, ownerOccupying =>
      let limit := limit.getD ownerOccupying
      .session
        { code := .studentSessionLimitReached
          message :=
            if limit = 1 then "You already have a practice environment running."
            else "You already have " ++ toString ownerOccupying ++
              " practice environments running, the most one student can hold at once."
          remediation := some ("End a lab you have finished before starting another. " ++
            "Idle environments are also released automatically.")
          details := .studentLimit ownerOccupying limit }
  | .global, occupying, _ =>
      .session
        { code := .labCapacityReached
          message := "All " ++ toString m.lifetimes.maxActiveSessions ++
            " practice environments are currently in use."
          remediation := some ("Try again shortly — environments are released automatically when " ++
            "students finish or go idle.")
          details := .capacity occupying m.lifetimes.maxActiveSessions }

/-- The attempt loop of `#insertSession`: a sandbox name that is taken draws another id. -/
def insertAttempts (m : Manager) (lab : Lab) (ownerUserId : Option String) (limit : Option Nat)
    (createdAt : Instant) : Nat → SessionM LabSession
  | 0 =>
      throw (.session
        { code := .sessionProvisionFailed
          message := "Could not allocate a unique lab sandbox after 5 attempts." })
  | attempts + 1 => do
      let sessionId ← await .newSessionId
      let session := candidate m lab ownerUserId createdAt sessionId
      match ← await (.findBySandboxRef session.sandboxRef) with
      | some _ => insertAttempts m lab ownerUserId limit createdAt attempts
      | none =>
          match ← await (.createWithinLimits session
              { maxOccupying := m.lifetimes.maxActiveSessions, maxOccupyingPerOwner := limit }) with
          | .admitted => pure session
          | .refused refusedBy occupying ownerOccupying =>
              throw (refusedStart m limit refusedBy occupying ownerOccupying)

/-- `#insertSession`. -/
def insertSession (m : Manager) (lab : Lab) (ownerUserId : Option String)
    (ownerSessionLimit : Option Int) : SessionM LabSession := do
  let createdAt ← await .now
  insertAttempts m lab ownerUserId (perOwnerLimit m.lifetimes ownerSessionLimit) createdAt 5

/-- The availability a start goes by: a memoised no is asked again, fresh. -/
def probeTwice (provider : LabProviderId) : SessionM (Option ProviderAvailability) := do
  let first ← await (.probe provider)
  if saysUnavailable first then await (.probe provider) else pure first

/-- Start a lab for a specific owner. Every refusal happens before a row exists. -/
def start (m : Manager) (labId : String) (ownerUserId : Option String) (hooks : StartHooks) :
    SessionM StartSessionResult := do
  let lab ← settle (m.registry labId)
  resolve m lab
  let availability ← probeTwice lab.provider
  if saysUnavailable availability then throw (substrateDown lab availability)
  else
    let stopping : Bool ← await (.isStopping m.index)
    if stopping then throw restartingStart
    else
      let session ← insertSession m lab ownerUserId hooks.ownerSessionLimit
      await (.trackStart m.index ⟨session.sessionId, session.statusChangedAt⟩)
      ensure (buildAdmitted m lab session hooks) (await (.untrackStart m.index session.sessionId))

/-! ### Activity -/

/-- Record meaningful activity; when nothing was recorded, show the session as it now is. -/
def touch (sessionId : String) : SessionM (Option LabSession) := do
  let atTime ← await .now
  match ← await (.touchActivity sessionId atTime) with
  | some touched => pure (some touched)
  | none => await (.get sessionId)

/-- Record terminal activity, without the read-back. -/
def touchActivity (sessionId : String) : SessionM (Option LabSession) := do
  let atTime ← await .now
  await (.touchActivity sessionId atTime)

/-! ### Reset -/

/-- When a student's action happened; recovery on the reaper's behalf is no activity. -/
def activityStamp (studentAction : Bool) : SessionM (Option Instant) := do
  if studentAction then
    let atTime ← await .now
    pure (some atTime)
  else pure none

/-- `#degrade`: declare a reset's sandbox unusable. -/
def degrade (sessionId : String) (reason : String) (guard : TransitionGuard)
    (studentAction : Bool) : SessionM (Option LabSession) := do
  let activity ← activityStamp studentAction
  transition sessionId [.resetting] .degraded
    { statusReason := some reason, lastActivityAt := activity } guard

/-- Recover a reset whose owner is gone, fenced on the claim the caller observed. -/
def recoverInterruptedReset (observed : LabSession) : SessionM (Option LabSession) :=
  if observed.status = .resetting then
    degrade observed.sessionId "The last reset was interrupted before it finished."
      { statusChangedAt := some observed.statusChangedAt } false
  else pure none

/-- The runtime reports this ACTIVE session's container stopped. -/
def markSandboxStopped (observed : LabSession) : SessionM (Option LabSession) :=
  if observed.status = .active then
    transition observed.sessionId [.active] .degraded
      { statusReason := some ("The lab environment stopped running, for example because the " ++
          "server restarted.") }
      { statusChangedAt := some observed.statusChangedAt }
  else pure none

/-- `#resetConflict`: the refusal for a reset that did not hold its claim. -/
def resetConflict (sessionId : String) : SessionM Failure := do
  match ← await (.get sessionId) with
  | none => pure sessionNotFound
  | some current =>
      pure (.session
        { code := .sessionNotActive
          message :=
            if current.status = .active then "This lab session was changed by another request."
            else "This lab session is " ++ current.status.text ++ "."
          remediation := some (remediationFor current.status)
          details := .status current.status })

/-- What a reset returns. -/
structure ResetOutcome where
  session : LabSession
  result : ResetResult
deriving DecidableEq, Inhabited

/-- A reset that lost its claim: discard, then refuse. -/
def resetLost (m : Manager) (session : LabSession) : SessionM ResetOutcome := do
  discardLostWork m session
  throw (← resetConflict session.sessionId)

/-- Reconnect the shell of a session whose reset replaced its container; best effort. -/
def reattachShell (m : Manager) (session : LabSession) : SessionM Unit :=
  if session.sandboxKind = .container && m.hasReattach then do
    try await (.reattach session.sessionId) catch _ => pure ()
  else pure ()

/-- `provider.reset` for a session. -/
def resetSandbox (m : Manager) (lab : Lab) (session : LabSession) : SessionM ResetResult := do
  let provider ← providerFor m session
  await (.reset provider lab (teardownContextFor session))

/-- `#rebuild`: the rest of `reset`, once it holds the RESETTING claim `fence` names. -/
def rebuild (m : Manager) (lab : Lab) (session : LabSession) (fence : TransitionGuard) :
    SessionM ResetOutcome := do
  match ← attempt (resetSandbox m lab session) with
  | .error failure =>
      let message := describeError failure
      match ← degrade session.sessionId ("The last reset did not finish: " ++ message) fence
          true with
      | none => resetLost m session
      | some degraded =>
          throw (.session
            { code := .sessionResetFailed
              message := message
              remediation := some resetRetryRemediation
              details := .status degraded.status })
  | .ok result =>
      if result.ok then
        let activeAt ← await .now
        match ← transition session.sessionId [.resetting] .active
            { lastActivityAt := some activeAt } fence with
        | none => resetLost m session
        | some updated =>
            reattachShell m session
            pure ⟨updated, result⟩
      else
        match ← degrade session.sessionId
            ("The last reset did not finish: " ++
              (result.error.map LabError.message).getD "reset failed") fence true with
        | none => resetLost m session
        | some degraded => pure ⟨degraded, result⟩

/-- Reset only the requesting session's sandbox. The claim comes before any runtime work, and every
    release is fenced on the claim's own status stamp. -/
def reset (m : Manager) (sessionId : String) : SessionM ResetOutcome := do
  let session ← require sessionId
  if resettableStatuses.contains session.status then
    let stopping : Bool ← await (.isStopping m.index)
    if stopping then throw restartingReset
    else
      let lab ← settle (m.registry session.labId)
      let pressedAt ← await .now
      match ← transition sessionId resettableStatuses .resetting
          { lastActivityAt := some pressedAt } with
      | none => throw (← resetConflict sessionId)
      | some claimed =>
          await (.trackReset m.index ⟨sessionId, claimed.statusChangedAt⟩)
          ensure (rebuild m lab session { statusChangedAt := some claimed.statusChangedAt })
            (await (.untrackReset m.index sessionId))
  else throw (notActive session.status)

/-! ### Shutdown -/

/-- Hand one interrupted start to the reaper; never throws. -/
def handOverStart (entry : InFlight) : SessionM Unit :=
  try
    let _ ← transition entry.sessionId [.creating] .expiring
      { statusReason := some abandonedStartReason } { statusChangedAt := some entry.stamp }
    pure ()
  catch _ => pure ()

/-- Release one interrupted reset; never throws. -/
def handOverReset (entry : InFlight) : SessionM Unit :=
  try
    let _ ← degrade entry.sessionId "The last reset was interrupted by a platform restart."
      { statusChangedAt := some entry.stamp } true
    pure ()
  catch _ => pure ()

/-- Refuse new starts and resets, and hand over the ones still being built. The hand-overs run side
    by side, each as an operation of its own. -/
def interruptInFlight (m : Manager) : SessionM Unit := do
  await (.setStopping m.index)
  let starts ← await (.startsInFlight m.index)
  let resets ← await (.resetsInFlight m.index)
  await (.handOver m.index starts resets)

end JumptotechLabs.Session
