/-
Module: JumptotechLabs.Session.Types
Layer: Session (services/lab-orchestrator/src/session/types.ts, identifiers.ts, providers/catalog.ts)
Purpose: The lab session record, its lifecycle statuses and the status sets the store, the manager and
  the reaper decide by, the refusals they raise, and what a sandbox provider answers.
Main exports: SessionStatus, LabSession, SessionPatch, occupiesCapacity, isTerminalStatus,
  isTeardownOwned, acceptsActivity, SessionError, Failure, isValidSessionId, CreateResult,
  ResetResult, DestroyResult, ManagedSandbox
-/
import JumptotechLabs.Core.Text
import Mathlib.Data.List.Basic

namespace JumptotechLabs.Session

/-- Milliseconds since the epoch. The source writes every time with `toISOString` and reads it back
    with `Date.parse`, so a stored time is kept here as the instant it names. -/
abbrev Instant := Int

/-! ### Providers and sandboxes -/

/-- `LAB_PROVIDERS`. -/
inductive LabProviderId where
  | kubernetes
  | linux
  | docker
  | terraform
  | aws
  | ansible
  | cicd
deriving DecidableEq, Inhabited

/-- The provider id as it is spelled in `lab.yaml`. -/
def LabProviderId.text : LabProviderId → String
  | .kubernetes => "kubernetes"
  | .linux => "linux"
  | .docker => "docker"
  | .terraform => "terraform"
  | .aws => "aws"
  | .ansible => "ansible"
  | .cicd => "cicd"

/-- `SANDBOX_KINDS`. -/
inductive SandboxKind where
  | namespace
  | container
  | cloudSession
  | none
deriving DecidableEq, Inhabited

/-- `PROVIDER_SANDBOX_KIND`: the sandbox kind each provider produces. -/
def providerSandboxKind : LabProviderId → SandboxKind
  | .kubernetes => .namespace
  | .linux => .container
  | .docker => .container
  | .terraform => .container
  | .aws => .cloudSession
  | .ansible => .container
  | .cicd => .container

/-! ### The lifecycle -/

/-- `SESSION_STATUSES`. -/
inductive SessionStatus where
  | creating
  | active
  | resetting
  | degraded
  | expiring
  | expired
  | ending
  | ended
  | failed
deriving DecidableEq, Inhabited

/-- The status as it is stored and shown. -/
def SessionStatus.text : SessionStatus → String
  | .creating => "CREATING"
  | .active => "ACTIVE"
  | .resetting => "RESETTING"
  | .degraded => "DEGRADED"
  | .expiring => "EXPIRING"
  | .expired => "EXPIRED"
  | .ending => "ENDING"
  | .ended => "ENDED"
  | .failed => "FAILED"

/-- `OCCUPYING_STATUSES`: statuses that hold a live sandbox and therefore consume capacity. -/
def occupyingStatuses : List SessionStatus :=
  [.creating, .active, .resetting, .degraded, .expiring, .ending]

/-- `TERMINAL_STATUSES`. -/
def terminalStatuses : List SessionStatus := [.expired, .ended, .failed]

def isTerminalStatus (status : SessionStatus) : Bool := terminalStatuses.contains status

/-- `RESETTABLE_STATUSES`: a working sandbox, or one a failed reset left behind. -/
def resettableStatuses : List SessionStatus := [.active, .degraded]

/-- Statuses in which a teardown owns the session, or has finished it. -/
def isTeardownOwned (status : SessionStatus) : Bool :=
  status == .ending || status == .expiring || isTerminalStatus status

/-- `ACTIVITY_STATUSES`: statuses in which a student can be working. -/
def activityStatuses : List SessionStatus := [.active, .resetting]

def acceptsActivity (status : SessionStatus) : Bool := activityStatuses.contains status

def occupiesCapacity (status : SessionStatus) : Bool := occupyingStatuses.contains status

/-- `LIVE_STATUSES` of the manager: what a teardown may claim besides its own in-flight state. -/
def liveStatuses : List SessionStatus := [.creating, .active, .resetting, .degraded]

/-- The stored session record. -/
structure LabSession where
  sessionId : String
  labId : String
  provider : LabProviderId
  sandboxKind : SandboxKind
  sandboxRef : String
  /-- `namespace` in the source. -/
  namespaceName : String
  serviceAccountName : String
  status : SessionStatus
  environmentId : String
  createdAt : Instant
  lastActivityAt : Instant
  /-- When `status` last actually changed. -/
  statusChangedAt : Instant
  expiresAt : Instant
  endedAt : Option Instant
  statusReason : Option String
  ownerUserId : Option String
  shellUid : Option Nat
  idleTimeoutSeconds : Nat
  idleWarningSeconds : Nat
deriving DecidableEq, Inhabited

/-- `Partial<LabSession>`: a field that is `none` is absent from the patch. -/
structure SessionPatch where
  sessionId : Option String := none
  labId : Option String := none
  provider : Option LabProviderId := none
  sandboxKind : Option SandboxKind := none
  sandboxRef : Option String := none
  namespaceName : Option String := none
  serviceAccountName : Option String := none
  status : Option SessionStatus := none
  environmentId : Option String := none
  createdAt : Option Instant := none
  lastActivityAt : Option Instant := none
  statusChangedAt : Option Instant := none
  expiresAt : Option Instant := none
  endedAt : Option Instant := none
  statusReason : Option String := none
  ownerUserId : Option String := none
  shellUid : Option Nat := none
  idleTimeoutSeconds : Option Nat := none
  idleWarningSeconds : Option Nat := none
deriving DecidableEq, Inhabited

/-! ### Identifiers -/

/-- `assertValidSessionId` as a test: `sess-` and 7 to 32 lower-case hex digits. -/
def isValidSessionId (input : String) : Bool :=
  match input.toList with
  | 's' :: 'e' :: 's' :: 's' :: '-' :: digits =>
      7 ≤ digits.length && digits.length ≤ 32 && digits.all Core.isLowerHex
  | _ => false

/-! ### Failures -/

inductive SessionErrorCode where
  | providerUnavailable
  | labCapacityReached
  | labLaunchesPaused
  | studentSessionLimitReached
  | sessionNotFound
  | sessionNotActive
  | invalidSessionId
  | sessionProvisionFailed
  | sessionResetFailed
  | sessionCleanupFailed
  | credentialsUnavailable
deriving DecidableEq, Inhabited

/-- `LabErrorCode`, as a provider's result carries it. -/
inductive LabErrorCode where
  | environmentUnreachable
  | environmentNotCreated
  | kubectlUnavailable
  | provisionFailed
  | setupFailed
  | resetFailed
  | destroyFailed
  | execFailed
  | credentialsFailed
  | labNotFound
  | invalidLabId
  | providerUnavailable
  | providerNotRegistered
  | verificationFailed
deriving DecidableEq, Inhabited

/-- `LabError`. -/
structure LabError where
  code : LabErrorCode
  message : String
  remediation : Option String := none
deriving DecidableEq, Inhabited

/-- `ProvisionStep`, with the fields a result hands on. -/
structure ProvisionStep where
  id : String
  label : String
  status : String
  detail : Option String := none
deriving DecidableEq, Inhabited

/-- The `details` each refusal carries. -/
inductive SessionErrorDetails where
  | absent
  | status (status : SessionStatus)
  | provider (provider : LabProviderId)
  | provision (steps : List ProvisionStep) (environmentId : String) (code : Option LabErrorCode)
  | studentLimit (activeSessions maxActiveSessionsPerStudent : Nat)
  | capacity (activeSessions maxActiveSessions : Nat)
deriving DecidableEq, Inhabited

structure SessionError where
  code : SessionErrorCode
  message : String
  remediation : Option String := none
  details : SessionErrorDetails := .absent
deriving DecidableEq, Inhabited

/-- Everything an awaited call can throw. -/
inductive Failure where
  | session (error : SessionError)
  | providerUnavailable (providerId : LabProviderId) (reason : String) (remediation : Option String)
  | error (message : String)
deriving DecidableEq, Inhabited

/-- `describeError`: the message of what was thrown. -/
def describeError : Failure → String
  | .session error => error.message
  | .providerUnavailable providerId reason _ =>
      "Provider '" ++ providerId.text ++ "' is not available: " ++ reason
  | .error message => message

/-! ### What a provider answers -/

/-- `CreateResult`; of `environment` the manager reads the handle. -/
structure CreateResult where
  ok : Bool
  environmentId : String
  steps : List ProvisionStep := []
  error : Option LabError := none
deriving DecidableEq, Inhabited

/-- `ResetResult`. -/
structure ResetResult where
  ok : Bool
  removed : List String := []
  restored : List String := []
  steps : List ProvisionStep := []
  environmentId : String
  error : Option LabError := none
deriving DecidableEq, Inhabited

/-- `DestroyResult`. `namespaceGone` is true only when the sandbox is verifiably absent. -/
structure DestroyResult where
  ok : Bool
  namespaceGone : Bool
  steps : List ProvisionStep := []
  error : Option LabError := none
deriving DecidableEq, Inhabited

/-- `ManagedSandbox`: one sandbox a provider owns, as the orphan sweep sees it. -/
structure ManagedSandbox where
  providerId : LabProviderId
  sandboxRef : String
  sandboxKind : SandboxKind
  sessionId : String
  labId : String
  /-- Zero when the sandbox carries no expiry label. -/
  expiresAtMs : Instant
  phase : String
deriving DecidableEq, Inhabited

/-- `VerificationResult`: the verdict, and the code of what kept the verifier from reading. -/
structure VerificationResult where
  passed : Bool
  error : Option String := none
deriving DecidableEq, Inhabited

/-- `outcome` of a classroom event of a Check. -/
inductive CheckOutcome where
  | pass
  | fail
  | error
  | refused
deriving DecidableEq, Inhabited

/-- `code` of a classroom event of a Check. -/
inductive CheckCode where
  | session (code : SessionErrorCode)
  | internalError
  | sessionChangedDuringCheck
  | verification (code : String)
deriving DecidableEq, Inhabited

/-- `ProviderAvailability`, as `status()` reports it. -/
structure ProviderAvailability where
  available : Bool
  reason : Option String := none
  remediation : Option String := none
  studentReason : Option String := none
deriving DecidableEq, Inhabited

end JumptotechLabs.Session
