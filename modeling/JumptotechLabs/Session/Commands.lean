/-
Module: JumptotechLabs.Session.Commands
Layer: Session (services/lab-orchestrator/src/session/manager.ts, reaper.ts,
  apps/api/src/routes/sessions.ts)
Purpose: Everything a session manager, a reaper or a Check awaits or keeps between awaits: the session
  store, the sandbox providers, the terminal, the lifecycle listener, the verifier, the progress store,
  the clock, random ids, and the fields of the objects themselves. Also their configuration.
Main exports: Cmd, sessionSignature, SessionM, Manager, Reaper, SessionTeardownContext,
  SessionClosedEvent, StartHooks
-/
import JumptotechLabs.Session.Store
import JumptotechLabs.Core.Program

namespace JumptotechLabs.Session

open JumptotechLabs.Core

/-- What the manager reads of a `LoadedLabDefinition`: its id, its track and
    `environment.provider`. -/
structure Lab where
  id : String
  track : String
  provider : LabProviderId
deriving DecidableEq, Inhabited

/-- `SessionTeardownContext`, every field of it from the stored row. The policy, the same for every
    session of a deployment, is left out. -/
structure SessionTeardownContext where
  sessionId : String
  labId : String
  sandboxRef : String
  namespaceName : String
  serviceAccountName : String
  expiresAtMs : Instant
deriving DecidableEq, Inhabited

/-- `SessionClosedEvent`: a session reached the end of its life. -/
structure SessionClosedEvent where
  sessionId : String
  labId : String
  provider : LabProviderId
  status : SessionStatus
  reason : String
deriving DecidableEq, Inhabited

/-- An entry of `#startsInFlight` or `#resetsInFlight`: a session and its claim's status stamp. -/
structure InFlight where
  sessionId : String
  stamp : Instant
deriving DecidableEq, Inhabited

/-- One awaited call, or one read or write of a field of a manager or a reaper. Managers and reapers
    are numbered. -/
inductive Cmd where
  | now
  | newSessionId
  /-- `#probe`: the provider's availability, or nothing when it did not answer in time. -/
  | probe (provider : LabProviderId)
  -- the session store
  | findBySandboxRef (sandboxRef : String)
  | createWithinLimits (session : LabSession) (limits : CapacityLimits)
  | get (sessionId : String)
  | list
  | countOccupying
  | transition (sessionId : String) (source : List SessionStatus) (target : SessionStatus)
      (patch : SessionPatch) (guard : TransitionGuard)
  | touchActivity (sessionId : String) (atTime : Instant)
  | delete (sessionId : String)
  -- the caller's hook, the providers, the terminal and the listener
  | onAdmitted (session : LabSession)
  | create (provider : LabProviderId) (lab : Lab) (context : SessionTeardownContext)
  | reset (provider : LabProviderId) (lab : Lab) (context : SessionTeardownContext)
  | destroy (provider : LabProviderId) (context : SessionTeardownContext)
  | listManagedSandboxes (provider : LabProviderId)
  | destroySandbox (provider : LabProviderId) (sandboxRef : String)
  | terminate (sessionId : String)
  | reattach (sessionId : String)
  | onSessionClosed (event : SessionClosedEvent)
  -- `#stopping`, `#startsInFlight` and `#resetsInFlight` of a manager
  | isStopping (manager : Nat)
  | setStopping (manager : Nat)
  | startsInFlight (manager : Nat)
  | trackStart (manager : Nat) (entry : InFlight)
  | untrackStart (manager : Nat) (sessionId : String)
  | resetsInFlight (manager : Nat)
  | trackReset (manager : Nat) (entry : InFlight)
  | untrackReset (manager : Nat) (sessionId : String)
  /-- `interruptInFlight` starting one hand-over per entry, all at once. -/
  | handOver (manager : Nat) (starts resets : List InFlight)
  -- `#sweeping` and `#lostLastSweep` of a reaper
  | beginSweep (reaper : Nat)
  | endSweep (reaper : Nat)
  | lostLastSweep (reaper : Nat)
  | setLostLastSweep (reaper : Nat) (seen : List String)
  -- the verifier, the classroom events, the progress store and `checksInFlight` of a Check
  | verifyLab (lab : Lab) (session : LabSession)
  | checkEvent (sessionId : String) (outcome : CheckOutcome) (code : Option CheckCode)
  | recordCheck (sessionId : String) (passed : Bool)
  | openAttempt (sessionId : String)
  | beginCheck (manager : Nat) (sessionId : String)
  | endCheck (manager : Nat) (sessionId : String)
deriving DecidableEq

/-- The answer each command gets. -/
@[reducible] def Cmd.Ans : Cmd → Type
  | .now => Instant
  | .newSessionId => String
  | .probe _ => Option ProviderAvailability
  | .findBySandboxRef _ => Option LabSession
  | .createWithinLimits _ _ => CapacityDecision
  | .get _ => Option LabSession
  | .list => List LabSession
  | .countOccupying => Nat
  | .transition _ _ _ _ _ => Option LabSession
  | .touchActivity _ _ => Option LabSession
  | .delete _ => Unit
  | .onAdmitted _ => Unit
  | .create _ _ _ => CreateResult
  | .reset _ _ _ => ResetResult
  | .destroy _ _ => DestroyResult
  | .listManagedSandboxes _ => List ManagedSandbox
  | .destroySandbox _ _ => DestroyResult
  | .terminate _ => Unit
  | .reattach _ => Unit
  | .onSessionClosed _ => Unit
  | .isStopping _ => Bool
  | .setStopping _ => Unit
  | .startsInFlight _ => List InFlight
  | .trackStart _ _ => Unit
  | .untrackStart _ _ => Unit
  | .resetsInFlight _ => List InFlight
  | .trackReset _ _ => Unit
  | .untrackReset _ _ => Unit
  | .handOver _ _ _ => Unit
  | .beginSweep _ => Bool
  | .endSweep _ => Unit
  | .lostLastSweep _ => List String
  | .setLostLastSweep _ _ => Unit
  | .verifyLab _ _ => VerificationResult
  | .checkEvent _ _ _ => Unit
  -- Is an attempt bound to the session?
  | .recordCheck _ _ => Bool
  | .openAttempt _ => Unit
  | .beginCheck _ _ => Bool
  | .endCheck _ _ => Unit

/-- The commands of the session layer. -/
@[reducible] def sessionSignature : Signature := ⟨Cmd, Cmd.Ans⟩

/-- An asynchronous method of the manager or the reaper. -/
abbrev SessionM (α : Type) := Prog sessionSignature Failure α

/-- One finished command of the session layer. -/
abbrev SessionInteraction := Interaction sessionSignature Failure

/-- Await one command. -/
def await (command : Cmd) : SessionM command.Ans := Prog.perform (S := sessionSignature) command

/-! ### Configuration -/

/-- `SessionLifetimeConfig`. -/
structure SessionLifetimeConfig where
  maxSessionSeconds : Nat
  idleTimeoutSeconds : Nat
  warningSeconds : Nat
  maxActiveSessions : Nat
  maxActiveSessionsPerStudent : Option Nat := none
deriving DecidableEq, Inhabited

/-- `ProviderRegistration`, apart from the provider itself. -/
structure ProviderRegistration where
  enabled : Bool := true
  disabledReason : Option String := none
  remediation : Option String := none
deriving DecidableEq, Inhabited

/-- One `SessionManager`: its number, what it was constructed with, and the keyed derivations of the
    sandbox names, which are fixed by its secret. -/
structure Manager where
  index : Nat
  registry : String → Except Failure Lab
  providers : LabProviderId → Option ProviderRegistration
  serviceAccountName : String
  lifetimes : SessionLifetimeConfig
  deriveNamespace : String → String
  deriveSandboxRef : String → String
  hasTerminal : Bool
  hasReattach : Bool
  hasListener : Bool

/-- `StartHooks`: whether the caller gave `onAdmitted`, and its per-student limit. -/
structure StartHooks where
  onAdmitted : Bool := false
  ownerSessionLimit : Option Int := none
deriving DecidableEq, Inhabited

/-- One `SessionReaper`: its number, the manager it drives, the providers it asks, and its grace
    periods in milliseconds as it was given them. -/
structure Reaper where
  index : Nat
  sessions : Manager
  providers : List LabProviderId
  orphanGraceMs : Option Int := none
  resetRecoveryGraceMs : Option Int := none
  abandonedEndGraceMs : Option Int := none
  abandonedStartGraceMs : Option Int := none
  lostSandboxGraceMs : Option Int := none
  retentionMs : Option Int := none

end JumptotechLabs.Session
