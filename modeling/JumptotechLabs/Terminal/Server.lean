/-
Module: JumptotechLabs.Terminal.Server
Layer: Terminal (services/terminal/src/server.ts)
Purpose: The terminal service's shells. A socket's attach and a reattach of the control plane take turns
  for their session; each is suspended while it asks the API, writes credentials, waits for the runtime
  broker or discards what it wrote. An event is one piece of code that runs without a pause. Any order of
  events is a run.
Main exports: TerminalConfig, Plan, Session, Attach, Reattach, Entry, TerminalServer, endSession, closeSession,
  authenticate, startSession, reattachSession, TerminalEvent, terminalStep, terminalServer
-/
import JumptotechLabs.Core.Object
import JumptotechLabs.Core.Registry
import JumptotechLabs.Core.Sockets

namespace JumptotechLabs.Terminal

open JumptotechLabs.Core

/-! ### Sessions -/

/-- A shell, by the order it was started in. -/
abbrev ShellId := Nat

/-- An attach claim: each is a new symbol. -/
abbrev Claim := Nat

structure TerminalConfig where
  maxSessions : Nat
  sandboxBrokerEnabled : Bool
  containerExecEnabled : Bool
deriving DecidableEq, Inhabited

/-- The kind of a terminal context: `'container-exec'`, `'docker-daemon'`, or a namespace. -/
inductive ContextKind where
  | containerExec
  | dockerDaemon
  | kubernetes
deriving DecidableEq, Inhabited

/-- `sandboxKind`: `'namespace'` or `'container'`. -/
inductive SandboxKind where
  | kubernetesNamespace
  | container
deriving DecidableEq, Inhabited

/-- The spawn plan of a context, as far as it decides what is started and registered. -/
structure Plan where
  kind : ContextKind
  sandboxRef : String
deriving DecidableEq, Inhabited

def Plan.sandboxKind (plan : Plan) : SandboxKind :=
  match plan.kind with
  | .containerExec | .dockerDaemon => .container
  | .kubernetes => .kubernetesNamespace

/-- `Session`, without its size, its timers and the paths of its credentials. -/
structure Session where
  sid : String
  sandboxRef : String
  sandboxKind : SandboxKind
  term : ShellId
  attachClaim : Claim
deriving DecidableEq, Inhabited

/-! ### Turns -/

/-- What a shell's start gave: the shell and the sandbox it is in, or an error. -/
abbrev Attachment := Except String (ShellId × String)

/-- How far an attach is. -/
inductive AttachStage where
  /-- It waits for its turn; a newer one may have replaced it. -/
  | queued (replaced : Bool)
  /-- It has a slot, and `startSession` begins. -/
  | slotted
  /-- The API is asked, and the credentials are written. -/
  | preparing (claim : Claim)
  /-- The shell is being started. -/
  | connecting (claim : Claim) (plan : Plan)
  /-- The shell's start has an answer, which the attach has not seen. -/
  | answered (claim : Claim) (plan : Plan) (attachment : Attachment)
  /-- The credentials are being discarded; whether the socket is closed then. -/
  | discarding (closes : Bool)
  /-- `startSession` returned, and the slot is about to be given back. -/
  | returned (started : Bool)

/-- A socket's attach that has not finished. While there is one the socket is authenticating. -/
structure Attach where
  ws : Socket
  sessionId : String
  turn : Nat
  stage : AttachStage

/-- How far a reattach is. It keeps the socket and the session it began with. -/
inductive ReattachStage where
  | queued
  | fetching (ws : Socket) (session : Session)
  | connecting (ws : Socket) (session : Session) (plan : Plan)
  | answered (ws : Socket) (session : Session) (plan : Plan) (attachment : Attachment)

/-- A reattach that has not finished. -/
structure Reattach where
  turn : Nat
  sessionId : String
  stage : ReattachStage

def AttachStage.isQueued : AttachStage → Bool
  | .queued _ => true
  | _ => false

def ReattachStage.isQueued : ReattachStage → Bool
  | .queued => true
  | _ => false

/-- The attach holds a slot. -/
def Attach.admitted (attach : Attach) : Bool := !attach.stage.isQueued

/-- What is observed of attaches: one took its claim, a session was closed, a shell was registered. -/
inductive Entry where
  | began (sessionId : String) (claim : Claim)
  | closed (sessionId : String)
  | registered (sessionId : String) (claim : Claim)
deriving DecidableEq

/-- The state of the service: its sockets, each with its `authenticated`; `sessions` and `bySessionId`;
    `attachClaims`, `waitingAttaches` and `startingShells`; the turns that have not finished; and of every
    shell the session it was started for, its exit listener's socket, and whether it was killed. -/
structure TerminalServer where
  sockets : Sockets Bool
  sessions : Registry Socket String Session
  attachClaims : String → Option Claim
  nextClaim : Claim
  waitingAttaches : String → Option Socket
  startingShells : Nat
  nextTurn : Nat
  attaches : List Attach
  attachKeys : Keyed.Distinct Attach.ws attaches
  reattaches : List Reattach
  reattachKeys : Keyed.Distinct Reattach.turn reattaches
  /-- The session of each shell ever started. -/
  started : List String
  listeners : ShellId → Option Socket
  killed : List ShellId
  log : List Entry

namespace TerminalServer

/-- No socket has connected. -/
def initial : TerminalServer where
  sockets := .empty
  sessions := .empty
  attachClaims := fun _ => none
  nextClaim := 0
  waitingAttaches := fun _ => none
  startingShells := 0
  nextTurn := 0
  attaches := []
  attachKeys := .nil
  reattaches := []
  reattachKeys := .nil
  started := []
  listeners := fun _ => none
  killed := []
  log := []

variable (server : TerminalServer) (config : TerminalConfig)

def attaching (ws : Socket) : Option Attach := Keyed.lookup Attach.ws ws server.attaches

def reattaching (turn : Nat) : Option Reattach :=
  Keyed.lookup Reattach.turn turn server.reattaches

def close (ws : Socket) : TerminalServer := { server with sockets := server.sockets.close ws }

def kill (shell : ShellId) : TerminalServer := { server with killed := server.killed ++ [shell] }

/-- `attachClaims.delete(sessionId)`. -/
def deleteClaim (sessionId : String) : TerminalServer :=
  { server with
    attachClaims := fun other => if other = sessionId then none else server.attachClaims other }

/-- Delete the session's claim while it is this one. -/
def releaseClaim (sessionId : String) (claim : Claim) : TerminalServer :=
  { server with
    attachClaims :=
      if server.attachClaims sessionId = some claim then (server.deleteClaim sessionId).attachClaims
      else server.attachClaims }

/-- Drop a socket's session and its claim, and kill its shell. -/
def endSession (ws : Socket) : TerminalServer :=
  match server.sessions.item ws with
  | none => server
  | some session =>
      ({ server with sessions := server.sessions.release Session.sid ws }.releaseClaim
        session.sid session.attachClaim).kill session.term

def closeFor (ws : Socket) : TerminalServer := (server.endSession ws).close ws

/-- Cancel the session's attach in flight, and close its shell. -/
def closeSession (sessionId : String) : TerminalServer :=
  let revoked := { server.deleteClaim sessionId with log := server.log ++ [Entry.closed sessionId] }
  match revoked.sessions.holder sessionId with
  | none => revoked
  | some ws => revoked.closeFor ws

/-! ### Turns of a session -/

/-- The turn before this one has finished: nothing of the session runs, and nothing waits before it. -/
def inTurn (sessionId : String) (turn : Nat) : Bool :=
  server.attaches.all (fun attach =>
    attach.sessionId ≠ sessionId || (attach.stage.isQueued && turn ≤ attach.turn)) &&
  server.reattaches.all fun reattach =>
    reattach.sessionId ≠ sessionId || (reattach.stage.isQueued && turn ≤ reattach.turn)

def setStage (ws : Socket) (stage : AttachStage) : TerminalServer :=
  { server with
    attaches := Keyed.modify Attach.ws ws ({ · with stage := stage }) server.attaches
    attachKeys := server.attachKeys.modify fun _ => rfl }

def finishAttach (ws : Socket) : TerminalServer :=
  { server with
    attaches := Keyed.remove Attach.ws ws server.attaches
    attachKeys := server.attachKeys.remove }

def setReattachStage (turn : Nat) (stage : ReattachStage) : TerminalServer :=
  { server with
    reattaches := Keyed.modify Reattach.turn turn ({ · with stage := stage }) server.reattaches
    reattachKeys := server.reattachKeys.modify fun _ => rfl }

def finishReattach (turn : Nat) : TerminalServer :=
  { server with
    reattaches := Keyed.remove Reattach.turn turn server.reattaches
    reattachKeys := server.reattachKeys.remove }

/-! ### Attaching -/

/-- The attach that waits for the session is replaced: it is not going to run, and its socket is closed. -/
def replaceWaiting (sessionId : String) : TerminalServer :=
  match server.waitingAttaches sessionId with
  | none => server
  | some ws =>
      match server.attaching ws with
      | some ⟨_, _, _, .queued _⟩ => (server.setStage ws (.queued true)).close ws
      | _ => server.close ws

/-- An `auth` frame with a good token, within the budget: the socket's attach waits for its turn, and the
    one that waited for the session is replaced. A socket that is authenticated or authenticating has its
    frame dropped. -/
def authenticate (ws : Socket) (sessionId : String) : TerminalServer :=
  if server.sockets.kept ws = some false ∧ (server.attaching ws).isNone then
    let alone := server.replaceWaiting sessionId
    { alone with
      waitingAttaches := fun other => if other = sessionId then some ws else alone.waitingAttaches other
      nextTurn := alone.nextTurn + 1
      attaches := Keyed.put Attach.ws ⟨ws, sessionId, alone.nextTurn, .queued false⟩ alone.attaches
      attachKeys := alone.attachKeys.put }
  else server

/-- A new claim is the session's. -/
def takeClaim (sessionId : String) : TerminalServer :=
  { server with
    attachClaims := fun other =>
      if other = sessionId then some server.nextClaim else server.attachClaims other
    nextClaim := server.nextClaim + 1
    log := server.log ++ [Entry.began sessionId server.nextClaim] }

/-- `startSession` up to its first wait: the session's shell is closed, and the attach takes its claim. -/
def startSession (ws : Socket) (sessionId : String) : TerminalServer :=
  if server.sockets.readyState ws ≠ .open then server.setStage ws (.returned false)
  else
    let closed := server.closeSession sessionId
    (closed.takeClaim sessionId).setStage ws (.preparing closed.nextClaim)

/-- Refused at the ceiling, unless the session replaces its shell; else the attach takes a slot. -/
def withSessionSlot (ws : Socket) (sessionId : String) : TerminalServer :=
  let replacing := (server.sessions.holder sessionId).isSome
  if !replacing &&
      decide (config.maxSessions ≤ server.sessions.size + server.startingShells) then
    (server.close ws).finishAttach ws
  else
    ({ server with startingShells := server.startingShells + 1 }.setStage ws .slotted).startSession
      ws sessionId

/-- `waitingAttaches.delete(sessionId)`, while it is this socket's attach that waits. -/
def forgetWaiting (ws : Socket) (sessionId : String) : TerminalServer :=
  { server with
    waitingAttaches :=
      if server.waitingAttaches sessionId = some ws then
        fun other => if other = sessionId then none else server.waitingAttaches other
      else server.waitingAttaches }

/-- An attach's turn comes. -/
def takeTurn (ws : Socket) : TerminalServer :=
  match server.attaching ws with
  | some ⟨_, sessionId, turn, .queued replaced⟩ =>
      if server.inTurn sessionId turn then
        let taken := server.forgetWaiting ws sessionId
        if replaced then taken.finishAttach ws else taken.withSessionSlot config ws sessionId
      else server
  | _ => server

/-- The attach's shell is started, or is not. -/
def shellAnswered (ws : Socket) (answer : Except String String) : TerminalServer :=
  match server.attaching ws with
  | some ⟨_, sessionId, _, .connecting claim plan⟩ =>
      match answer with
      | .error message => server.setStage ws (.answered claim plan (.error message))
      | .ok sandboxRef =>
          { server with started := server.started ++ [sessionId] }.setStage ws
            (.answered claim plan (.ok (server.started.length, sandboxRef)))
  | _ => server

/-- A shell is registered for a socket, and wired to it. -/
def register (ws : Socket) (sessionId : String) (claim : Claim) (plan : Plan) (shell : ShellId) :
    TerminalServer :=
  { server with
    sessions := server.sessions.register Session.sid ws
      ⟨sessionId, plan.sandboxRef, plan.sandboxKind, shell, claim⟩
    listeners := fun other => if other = shell then some ws else server.listeners other
    log := server.log ++ [Entry.registered sessionId claim] }

/-- The attach sees its shell: it must be in the sandbox the API named, its socket still open and its claim
    still the session's. -/
def shellReady (ws : Socket) : TerminalServer :=
  match server.attaching ws with
  | some ⟨_, sessionId, _, .answered claim plan attachment⟩ =>
      match attachment with
      | .error _ => (server.releaseClaim sessionId claim).setStage ws (.discarding true)
      | .ok (shell, sandboxRef) =>
          if sandboxRef ≠ plan.sandboxRef then
            ((server.kill shell).releaseClaim sessionId claim).setStage ws (.discarding true)
          else if server.sockets.readyState ws ≠ .open then
            ((server.releaseClaim sessionId claim).kill shell).setStage ws (.discarding false)
          else if server.attachClaims sessionId ≠ some claim then
            (server.kill shell).setStage ws (.discarding true)
          else (server.register ws sessionId claim plan shell).setStage ws (.returned true)
  | _ => server

/-- The API answered and the credentials were written, or one of them failed. A container is reached
    through the broker where there is one; a local shell starts at once, or not at all. -/
def resolved (ws : Socket) (answer : Except String Plan) (starts : Bool) : TerminalServer :=
  match server.attaching ws with
  | some ⟨_, sessionId, _, .preparing claim⟩ =>
      let failed := (server.releaseClaim sessionId claim).setStage ws (.discarding true)
      match answer with
      | .error _ => failed
      | .ok plan =>
          let isContainer := decide (plan.kind = .containerExec)
          if isContainer && !config.sandboxBrokerEnabled && !config.containerExecEnabled then failed
          else if server.sockets.readyState ws ≠ .open then
            (server.releaseClaim sessionId claim).setStage ws (.discarding false)
          else if server.attachClaims sessionId ≠ some claim then
            server.setStage ws (.discarding true)
          else
            let connecting := server.setStage ws (.connecting claim plan)
            if isContainer && config.sandboxBrokerEnabled then connecting
            else
              let answer := if starts then .ok plan.sandboxRef else .error "PTY_SPAWN_FAILED"
              (connecting.shellAnswered ws answer).shellReady ws
  | _ => server

/-- The credentials are discarded, or that failed. -/
def discarded (ws : Socket) (succeeds : Bool) : TerminalServer :=
  match server.attaching ws with
  | some ⟨_, _, _, .discarding closes⟩ =>
      (if succeeds && closes then server.close ws else server).setStage ws (.returned false)
  | _ => server

/-- The `finally` of `withSessionSlot`, and what follows the attach's turn. -/
def settled (ws : Socket) : TerminalServer :=
  match server.attaching ws with
  | some ⟨_, _, _, .returned started⟩ =>
      { server with
        startingShells := server.startingShells - 1
        sockets := if started then server.sockets.keep ws true else server.sockets }.finishAttach ws
  | _ => server

/-! ### Reattaching -/

/-- `/internal/reattach`: in turn with the session's attaches. -/
def requestReattach (sessionId : String) : TerminalServer :=
  { server with
    nextTurn := server.nextTurn + 1
    reattaches := Keyed.put Reattach.turn ⟨server.nextTurn, sessionId, .queued⟩ server.reattaches
    reattachKeys := server.reattachKeys.put }

/-- `reattachSession` up to its first wait: there must be an open socket with a container's shell. -/
def reattachSession (turn : Nat) : TerminalServer :=
  match server.reattaching turn with
  | some ⟨_, sessionId, .queued⟩ =>
      if server.inTurn sessionId turn then
        match server.sessions.holder sessionId with
        | none => server.finishReattach turn
        | some ws =>
            match server.sessions.item ws with
            | none => server.finishReattach turn
            | some session =>
                if server.sockets.readyState ws = .open ∧ session.sandboxKind = .container then
                  server.setReattachStage turn (.fetching ws session)
                else server.finishReattach turn
      else server
  | _ => server

/-- The socket's session while it is still the one the reattach began with, and the socket open. Sessions
    are the same when they were registered under the same claim. -/
def stillLive (ws : Socket) (session : Session) : Option Session :=
  (server.sessions.item ws).filter fun live =>
    live.sid = session.sid && live.attachClaim = session.attachClaim &&
      server.sockets.readyState ws = .open

/-- The old shell is gone and no new one came: the socket is closed. -/
def reattachFailed (turn : Nat) (ws : Socket) : TerminalServer :=
  (server.closeFor ws).finishReattach turn

/-- The reattach's shell is started, or is not. -/
def reattachAnswered (turn : Nat) (answer : Except String String) : TerminalServer :=
  match server.reattaching turn with
  | some ⟨_, _, .connecting ws session plan⟩ =>
      match answer with
      | .error message => server.setReattachStage turn (.answered ws session plan (.error message))
      | .ok sandboxRef =>
          { server with started := server.started ++ [session.sid] }.setReattachStage turn
            (.answered ws session plan (.ok (server.started.length, sandboxRef)))
  | _ => server

/-- A session's shell is replaced, and the new one wired to its socket. -/
def rewire (ws : Socket) (plan : Plan) (shell : ShellId) : TerminalServer :=
  { server with
    sessions := server.sessions.replace ws fun session =>
      { session with term := shell, sandboxRef := plan.sandboxRef }
    listeners := fun other => if other = shell then some ws else server.listeners other }

/-- The reattach sees its shell: it must be in the sandbox the API named, and the session still live. -/
def reattachReady (turn : Nat) : TerminalServer :=
  match server.reattaching turn with
  | some ⟨_, _, .answered ws session plan attachment⟩ =>
      match attachment with
      | .error _ => server.reattachFailed turn ws
      | .ok (shell, sandboxRef) =>
          if sandboxRef ≠ plan.sandboxRef then (server.kill shell).reattachFailed turn ws
          else if (server.stillLive ws session).isSome then
            (server.rewire ws plan shell).finishReattach turn
          else (server.kill shell).finishReattach turn
  | _ => server

/-- The API answered a reattach: while the session is live its old shell is detached and killed, and a new
    one is started. -/
def fetched (turn : Nat) (answer : Except String Plan) (starts : Bool) : TerminalServer :=
  match server.reattaching turn with
  | some ⟨_, _, .fetching ws session⟩ =>
      match answer with
      | .error _ => server.finishReattach turn
      | .ok plan =>
          if plan.kind ≠ .containerExec then server.finishReattach turn
          else if !config.sandboxBrokerEnabled && !config.containerExecEnabled then
            server.finishReattach turn
          else
            match server.stillLive ws session with
            | none => server.finishReattach turn
            | some live =>
                let detached :=
                  { server with
                    listeners := fun other =>
                      if other = live.term then none else server.listeners other }.kill live.term
                let connecting := detached.setReattachStage turn (.connecting ws session plan)
                if config.sandboxBrokerEnabled then connecting
                else
                  let answer := if starts then .ok plan.sandboxRef else .error "PTY_SPAWN_FAILED"
                  (connecting.reattachAnswered turn answer).reattachReady turn
  | _ => server

end TerminalServer

/-! ### Events -/

inductive TerminalEvent where
  | connection (ws : Socket)
  /-- A frame before a good token, a bad token, none in time, or too many attaches. -/
  | refused (ws : Socket)
  | auth (ws : Socket) (sessionId : String)
  | turn (ws : Socket)
  /-- The API and the credentials' files answered, and whether a local shell then starts. -/
  | resolved (ws : Socket) (answer : Except String Plan) (starts : Bool)
  | brokerAnswered (ws : Socket) (answer : Except String String)
  | ready (ws : Socket)
  | discarded (ws : Socket) (succeeds : Bool)
  | settled (ws : Socket)
  | reattach (sessionId : String)
  | reattachTurn (turn : Nat)
  | fetched (turn : Nat) (answer : Except String Plan) (starts : Bool)
  | brokerReanswered (turn : Nat) (answer : Except String String)
  | reattachReady (turn : Nat)
  | terminate (sessionId : String)
  | exited (shell : ShellId)
  /-- A timer, too much input, a backlog, or an authority that ended. -/
  | ends (ws : Socket)
  /-- The other side closes. -/
  | closing (ws : Socket)
  /-- The `close` event. -/
  | closed (ws : Socket)
  | error (ws : Socket)
  /-- The server closes. -/
  | shutdown

/-- One event. One that cannot happen changes nothing. -/
def terminalStep (config : TerminalConfig) (server : TerminalServer) : TerminalEvent → TerminalServer
  | .connection ws =>
      -- at the ceiling the socket is closed and gets no handlers
      if config.maxSessions ≤ server.sessions.size then server
      else { server with sockets := server.sockets.connect ws false }
  | .refused ws => server.close ws
  | .auth ws sessionId => server.authenticate ws sessionId
  | .turn ws => server.takeTurn config ws
  | .resolved ws answer starts => server.resolved config ws answer starts
  | .brokerAnswered ws answer => server.shellAnswered ws answer
  | .ready ws => server.shellReady ws
  | .discarded ws succeeds => server.discarded ws succeeds
  | .settled ws => server.settled ws
  | .reattach sessionId => server.requestReattach sessionId
  | .reattachTurn turn => server.reattachSession turn
  | .fetched turn answer starts => server.fetched config turn answer starts
  | .brokerReanswered turn answer => server.reattachAnswered turn answer
  | .reattachReady turn => server.reattachReady turn
  | .terminate sessionId => server.closeSession sessionId
  | .exited shell =>
      match server.listeners shell with
      | none => server
      | some ws => server.closeFor ws
  | .ends ws => server.closeFor ws
  | .closing ws => server.close ws
  | .closed ws => { server with sockets := server.sockets.setReadyState ws .closed }.endSession ws
  | .error ws => server.endSession ws
  | .shutdown =>
      (server.sessions.items.map Prod.fst).foldl (fun server ws => server.endSession ws) server

/-- The service, event by event. -/
abbrev terminalServer (config : TerminalConfig) : Object TerminalEvent Unit where
  State := TerminalServer
  step := fun state event => ((), terminalStep config state event)

end JumptotechLabs.Terminal
