/-
Module: JumptotechLabs.Session.System
Layer: Session (services/lab-orchestrator/src/session)
Purpose: Any number of managers and reapers over one session store, as a machine. Every call of a public
  method is a thread; a step answers one awaited command. The store, the clock and the fields of the
  managers and reapers answer for themselves; providers, hooks, the terminal, the listener, the
  verifier and the progress store answer or throw anything, and any awaited store call may throw
  without having written.
Main exports: World, SessionOp, Reply, respond, sessionMachine, SessionConfig, boot, row_step
-/
import JumptotechLabs.Session.Check
import JumptotechLabs.Core.Pool

namespace JumptotechLabs.Session

open JumptotechLabs.Core

/-- The fields a manager keeps between awaits, with the `checksInFlight` of the routes it serves. -/
structure ManagerFields where
  stopping : Bool := false
  startsInFlight : List InFlight := []
  resetsInFlight : List InFlight := []
  checksInFlight : List String := []
deriving DecidableEq, Inhabited

/-- The fields a reaper keeps between sweeps. -/
structure ReaperFields where
  sweeping : Bool := false
  lostLastSweep : List String := []
deriving DecidableEq, Inhabited

/-- What all threads share. `drawn` holds every session id drawn so far: ids are 64 random bits or
    more, and no id is drawn twice. -/
structure World where
  store : InMemorySessionStore
  clock : Instant
  drawn : List String
  managers : Nat → ManagerFields
  reapers : Nat → ReaperFields

/-- How the parties outside the store and the clock resolve a command. -/
inductive Reply where
  /-- The store, the clock or the object's own field answers. -/
  | own
  | throw (failure : Failure)
  | draws (sessionId : String)
  | probed (availability : Option ProviderAvailability)
  | created (result : CreateResult)
  | rebuilt (result : ResetResult)
  | destroyed (result : DestroyResult)
  | managed (sandboxes : List ManagedSandbox)
  | verified (result : VerificationResult)
  | recorded (bound : Bool)
  | done
deriving DecidableEq, Inhabited

/-- `Map.set` on an in-flight map. -/
def setInFlight (entries : List InFlight) (entry : InFlight) : List InFlight :=
  if entries.any (·.sessionId == entry.sessionId) then
    entries.map fun existing => if existing.sessionId = entry.sessionId then entry else existing
  else entries ++ [entry]

/-- `Map.delete` on an in-flight map. -/
def deleteInFlight (entries : List InFlight) (sessionId : String) : List InFlight :=
  entries.filter (·.sessionId ≠ sessionId)

namespace World

/-- Change the fields of one manager. -/
def onManager (world : World) (index : Nat) (change : ManagerFields → ManagerFields) : World :=
  { world with
    managers := fun i => if i = index then change (world.managers i) else world.managers i }

/-- Change the fields of one reaper. -/
def onReaper (world : World) (index : Nat) (change : ReaperFields → ReaperFields) : World :=
  { world with
    reapers := fun i => if i = index then change (world.reapers i) else world.reapers i }

end World

/-! ### Answers -/

/-- What a command answers, and what it leaves behind, when the store, the clock or the object's own
    field answers it. The parties outside answer nothing here. -/
def ownAnswer (world : World) : (command : Cmd) → Option (Except Failure command.Ans × World)
  | .now => some (.ok world.clock, world)
  | .findBySandboxRef sandboxRef => some (.ok (world.store.findBySandboxRef sandboxRef), world)
  | .createWithinLimits session limits =>
      let (answer, store) := world.store.createWithinLimits session limits
      some (answer, { world with store := store })
  | .get sessionId => some (.ok (world.store.get sessionId), world)
  | .list => some (.ok world.store.list, world)
  | .countOccupying => some (.ok world.store.countOccupying, world)
  | .transition sessionId source target patch guard =>
      let (row, store) := world.store.transition sessionId source target patch guard
      some (.ok row, { world with store := store })
  | .touchActivity sessionId atTime =>
      let (row, store) := world.store.touchActivity sessionId atTime
      some (.ok row, { world with store := store })
  | .delete sessionId => some (.ok (), { world with store := world.store.delete sessionId })
  | .isStopping manager => some (.ok (world.managers manager).stopping, world)
  | .setStopping manager =>
      some (.ok (), world.onManager manager fun fields => { fields with stopping := true })
  | .startsInFlight manager => some (.ok (world.managers manager).startsInFlight, world)
  | .trackStart manager entry =>
      some (.ok (), world.onManager manager fun fields =>
        { fields with startsInFlight := setInFlight fields.startsInFlight entry })
  | .untrackStart manager sessionId =>
      some (.ok (), world.onManager manager fun fields =>
        { fields with startsInFlight := deleteInFlight fields.startsInFlight sessionId })
  | .resetsInFlight manager => some (.ok (world.managers manager).resetsInFlight, world)
  | .trackReset manager entry =>
      some (.ok (), world.onManager manager fun fields =>
        { fields with resetsInFlight := setInFlight fields.resetsInFlight entry })
  | .untrackReset manager sessionId =>
      some (.ok (), world.onManager manager fun fields =>
        { fields with resetsInFlight := deleteInFlight fields.resetsInFlight sessionId })
  | .handOver _ _ _ => some (.ok (), world)
  | .beginSweep reaper =>
      some (.ok (world.reapers reaper).sweeping,
        world.onReaper reaper fun fields => { fields with sweeping := true })
  | .endSweep reaper =>
      some (.ok (), world.onReaper reaper fun fields => { fields with sweeping := false })
  | .lostLastSweep reaper => some (.ok (world.reapers reaper).lostLastSweep, world)
  | .setLostLastSweep reaper seen =>
      some (.ok (), world.onReaper reaper fun fields => { fields with lostLastSweep := seen })
  | .beginCheck manager sessionId =>
      let running := (world.managers manager).checksInFlight.contains sessionId
      some (.ok running, world.onManager manager fun fields =>
        if running then fields
        else { fields with checksInFlight := fields.checksInFlight ++ [sessionId] })
  | .endCheck manager sessionId =>
      some (.ok (), world.onManager manager fun fields =>
        { fields with checksInFlight := fields.checksInFlight.filter (· ≠ sessionId) })
  | _ => none

/-- Can awaiting this command throw? The clock, a drawn id, a probe and a field read cannot. -/
def canThrow : Cmd → Bool
  | .findBySandboxRef _ | .createWithinLimits _ _ | .get _ | .list | .countOccupying => true
  | .transition _ _ _ _ _ | .touchActivity _ _ | .delete _ => true
  | .onAdmitted _ | .create _ _ _ | .reset _ _ _ | .destroy _ _ => true
  | .listManagedSandboxes _ | .destroySandbox _ _ | .terminate _ | .reattach _ => true
  | .onSessionClosed _ => true
  | .verifyLab _ _ | .recordCheck _ _ | .openAttempt _ => true
  | _ => false

/-- What the parties outside answer. They leave nothing behind but the ids they draw. -/
def outsideAnswer (world : World) :
    (command : Cmd) → Reply → Option (Except Failure command.Ans × World)
  | .newSessionId, .draws sessionId =>
      if isValidSessionId sessionId && !world.drawn.contains sessionId then
        some (.ok sessionId, { world with drawn := sessionId :: world.drawn })
      else none
  | .probe _, .probed availability => some (.ok availability, world)
  | .onAdmitted _, .done => some (.ok (), world)
  | .create _ _ _, .created result => some (.ok result, world)
  | .reset _ _ _, .rebuilt result => some (.ok result, world)
  | .destroy _ _, .destroyed result => some (.ok result, world)
  | .listManagedSandboxes _, .managed sandboxes => some (.ok sandboxes, world)
  | .destroySandbox _ _, .destroyed result => some (.ok result, world)
  | .terminate _, .done => some (.ok (), world)
  | .reattach _, .done => some (.ok (), world)
  | .onSessionClosed _, .done => some (.ok (), world)
  | .verifyLab _ _, .verified result => some (.ok result, world)
  | .checkEvent _ _ _, .done => some (.ok (), world)
  | .recordCheck _ _, .recorded bound => some (.ok bound, world)
  | .openAttempt _, .done => some (.ok (), world)
  | _, _ => none

/-- How the world answers a command. A call that throws has done nothing. -/
def respond (command : Cmd) (world : World) (reply : Reply) :
    Option (Except Failure command.Ans × World) :=
  match reply with
  | .own => ownAnswer world command
  | .throw failure => if canThrow command then some (.error failure, world) else none
  | reply => outsideAnswer world command reply

/-! ### Operations -/

/-- The calls of public methods that run as threads. A recovery and a stop act on a row the caller
    read some time before. The last two are the hand-overs an `interruptInFlight` starts. -/
inductive SessionOp where
  | start (m : Manager) (labId : String) (ownerUserId : Option String) (hooks : StartHooks)
  | reset (m : Manager) (sessionId : String)
  | touch (sessionId : String)
  | touchActivity (sessionId : String)
  | endSession (m : Manager) (sessionId : String)
  | expire (m : Manager) (sessionId : String) (reason : String) (claimGuard : TransitionGuard)
  | endByOperator (m : Manager) (sessionId : String)
  | resumeAbandonedEnd (m : Manager) (sessionId : String)
  | recoverInterruptedReset (sessionId : String)
  | markSandboxStopped (sessionId : String)
  | reclaimFinishedSandbox (m : Manager) (sessionId : String)
  | forget (sessionId : String)
  | interruptInFlight (m : Manager)
  | check (m : Manager) (sessionId : String)
  | sweep (r : Reaper)
  | handOverStart (entry : InFlight)
  | handOverReset (entry : InFlight)

/-- Read a session and, whenever it suits, act on what was read. -/
def onEarlierRead (sessionId : String) (act : LabSession → SessionM (Option LabSession)) :
    SessionM Unit := do
  match ← await (.get sessionId) with
  | some observed =>
      let _ ← act observed
      pure ()
  | none => pure ()

/-- Run a method for its effects. -/
def forEffect {α : Type} (method : SessionM α) : SessionM Unit := do
  let _ ← method
  pure ()

/-- The program each operation runs. -/
def SessionOp.body : SessionOp → SessionM Unit
  | .start m labId ownerUserId hooks => forEffect (Session.start m labId ownerUserId hooks)
  | .reset m sessionId => forEffect (Session.reset m sessionId)
  | .touch sessionId => forEffect (Session.touch sessionId)
  | .touchActivity sessionId => forEffect (Session.touchActivity sessionId)
  | .endSession m sessionId => forEffect (Session.endSession m sessionId)
  | .expire m sessionId reason claimGuard =>
      forEffect (Session.expire m sessionId reason claimGuard)
  | .endByOperator m sessionId => forEffect (Session.endByOperator m sessionId)
  | .resumeAbandonedEnd m sessionId => forEffect (Session.resumeAbandonedEnd m sessionId)
  | .recoverInterruptedReset sessionId =>
      onEarlierRead sessionId Session.recoverInterruptedReset
  | .markSandboxStopped sessionId => onEarlierRead sessionId Session.markSandboxStopped
  | .reclaimFinishedSandbox m sessionId =>
      forEffect (Session.reclaimFinishedSandbox m sessionId)
  | .forget sessionId => Session.forget sessionId
  | .interruptInFlight m => Session.interruptInFlight m
  | .check m sessionId => Session.check m sessionId
  | .sweep r => forEffect (Session.sweep r)
  | .handOverStart entry => Session.handOverStart entry
  | .handOverReset entry => Session.handOverReset entry

/-- Is this a call anybody may make, rather than a hand-over of a shutdown? -/
def SessionOp.entry : SessionOp → Bool
  | .handOverStart _ | .handOverReset _ => false
  | _ => true

/-- The hand-overs of an `interruptInFlight` run side by side. -/
def forks : Cmd → List SessionOp
  | .handOver _ starts resets =>
      starts.map SessionOp.handOverStart ++ resets.map SessionOp.handOverReset
  | _ => []

/-- Managers and reapers over one store. Time passes by any number of milliseconds, also none. -/
def sessionMachine : Machine sessionSignature Failure where
  World := World
  Op := SessionOp
  Reply := Reply
  Env := Nat
  body := SessionOp.body
  respond := fun _ command world reply => respond command world reply
  evolve := fun elapsed world => { world with clock := world.clock + elapsed }
  forks := forks
  entry := SessionOp.entry

/-- A configuration of the session layer. -/
abbrev SessionConfig := Config sessionMachine

/-- Its moves. -/
abbrev SessionMove := Move sessionMachine

/-- A platform that has just been installed: no session, no thread. -/
def boot (clock : Instant) : SessionConfig :=
  Config.initial (M := sessionMachine)
    { store := InMemorySessionStore.empty
      clock := clock
      drawn := []
      managers := fun _ => {}
      reapers := fun _ => {} }

/-- The row of a session in a configuration. -/
def rowOf (config : SessionConfig) (sessionId : String) : Option LabSession :=
  config.world.store.get sessionId

/-! ### A small deployment

One manager with one slot and container labs, for the concrete runs beside the theorems. -/

/-- The `index`-th instance of the deployment. -/
def labInstance (index : Nat) : Manager where
  index := index
  registry := fun labId => .ok { id := labId, track := "linux", provider := .linux }
  providers := fun _ => some {}
  serviceAccountName := "lab-user"
  lifetimes :=
    { maxSessionSeconds := 7200
      idleTimeoutSeconds := 1800
      warningSeconds := 300
      maxActiveSessions := 1 }
  deriveNamespace := fun sessionId => "lab-" ++ sessionId
  deriveSandboxRef := fun sessionId => "jtt-lab-" ++ sessionId
  hasTerminal := false
  hasReattach := false
  hasListener := true

/-- The reaper of the deployment. -/
def labReaper : Reaper where
  index := 0
  sessions := labInstance 0
  providers := [.linux]

/-- `thread` goes on by itself `times` times. -/
def goOn (thread times : Nat) : List SessionMove := List.replicate times (.resume thread .own)

/-- A provider's plain yes. -/
def sandboxBuilt : CreateResult := { ok := true, environmentId := "env-1" }

/-- A destroy that found nothing left. -/
def sandboxGone : DestroyResult := { ok := true, namespaceGone := true }

/-- Thread 0 starts a lab on instance 0 and is inside `provider.create`. -/
def startUntilCreate (sessionId : String) (hooks : StartHooks := {}) : List SessionMove :=
  ([.spawn (.start (labInstance 0) "lab-1" (some "student-1") hooks), .resume 0 (.probed none)] :
    List SessionMove) ++
    goOn 0 2 ++ ([.resume 0 (.draws sessionId)] : List SessionMove) ++ goOn 0 3

/-- Thread 0 starts a lab on instance 0; the session is ACTIVE. -/
def startUntilActive (sessionId : String) : List SessionMove :=
  startUntilCreate sessionId ++ ([.resume 0 (.created sandboxBuilt)] : List SessionMove) ++ goOn 0 5

end JumptotechLabs.Session
