/-
Module: JumptotechLabs.Sandboxd.Server
Layer: Sandboxd (services/sandboxd/src/server.ts)
Purpose: The runtime broker's shells. Each socket may attach once; an attach is suspended while the
  container is inspected, and its last part (`startingShells -= 1`) runs when it returned. An event is one
  piece of code that runs without a pause: a frame, an answer of the inspector, a PTY's exit, a timer, a
  backlog, a socket's close. Any order of events is a run.
Main exports: LiveShell, Attaching, Broker, openShell, attachShell, endShell, closeFor,
  BrokerEvent, brokerStep, broker
-/
import JumptotechLabs.Core.Object
import JumptotechLabs.Core.Registry
import JumptotechLabs.Core.Sockets

namespace JumptotechLabs.Sandboxd

open JumptotechLabs.Core

/-! ### Sockets and shells -/

/-- A PTY, by the order it was spawned in. -/
abbrev Pty := Nat

/-- `LiveShell`, without its timers and flows. -/
structure LiveShell where
  sessionId : String
  sandboxRef : String
  term : Pty
deriving DecidableEq, Inhabited

/-- How far an attach is: its container is being inspected, or it has returned and its slot is about to
    be given back. -/
inductive AttachPhase where
  | inspecting
  | returned
deriving DecidableEq, Inhabited

/-- An attach that has not finished. -/
structure Attaching where
  ws : Socket
  sessionId : String
  phase : AttachPhase
deriving DecidableEq, Inhabited

/-- The state of the service: its sockets, each with its `attached`; `shells` and `bySessionId`;
    `startingShells`; the attaches that wait; and of every PTY the socket it was spawned for and whether it
    was killed. -/
structure Broker where
  sockets : Sockets Bool
  shells : Registry Socket String LiveShell
  startingShells : Nat
  attaches : List Attaching
  attachKeys : Keyed.Distinct Attaching.ws attaches
  /-- The socket of each PTY ever spawned. -/
  spawned : List Socket
  killed : List Pty

namespace Broker

/-- No socket has connected. -/
def initial : Broker := ⟨.empty, .empty, 0, [], .nil, [], []⟩

variable (broker : Broker)

def attaching (ws : Socket) : Option Attaching :=
  Keyed.lookup Attaching.ws ws broker.attaches

def close (ws : Socket) : Broker := { broker with sockets := broker.sockets.close ws }

/-! ### Shells -/

/-- Drop a socket's shell and kill its PTY. -/
def endShell (ws : Socket) : Broker :=
  match broker.shells.item ws with
  | none => broker
  | some shell =>
      { broker with
        shells := broker.shells.release LiveShell.sessionId ws
        killed := broker.killed ++ [shell.term] }

/-- The runtime broker closes a shell. -/
def closeFor (ws : Socket) : Broker := (broker.endShell ws).close ws

/-- A socket's first frame: refused at the ceiling, unless the session replaces its shell; else the attach
    begins, and waits for the inspector. -/
def openShell (maxSessions : Nat) (ws : Socket) (sessionId : String)
    (isNew : broker.attaching ws = none) : Broker :=
  let replacing := (broker.shells.holder sessionId).isSome
  if !replacing && decide (maxSessions ≤ broker.shells.size + broker.startingShells) then
    broker.close ws
  else
    { broker with
      startingShells := broker.startingShells + 1
      attaches := broker.attaches ++ [⟨ws, sessionId, .inspecting⟩]
      attachKeys := by
        apply broker.attachKeys.append
        exact isNew }

/-- `attachShell` returned. -/
def return_ (ws : Socket) : Broker :=
  { broker with
    attaches := Keyed.modify Attaching.ws ws ({ · with phase := .returned }) broker.attaches
    attachKeys := broker.attachKeys.modify fun _ => rfl }

/-- The session's other shell is closed: a reconnect replaces rather than doubles. -/
def replaceExisting (ws : Socket) (sessionId : String) : Broker :=
  match broker.shells.holder sessionId with
  | none => broker
  | some existing => if existing = ws then broker else (broker.endShell existing).close existing

/-- A PTY is spawned for a socket, and registered. -/
def register (ws : Socket) (sessionId sandboxRef : String) : Broker :=
  { broker with
    shells := broker.shells.register LiveShell.sessionId ws
      ⟨sessionId, sandboxRef, broker.spawned.length⟩
    spawned := broker.spawned ++ [ws] }

/-- `attachShell`, once the container was inspected: the sandbox, or an error. The socket must still be
    open, and the PTY must start. -/
def attachShell (ws : Socket) (sessionId : String) (target : Except String String) (starts : Bool) :
    Broker :=
  match target with
  | .error _ => broker.close ws
  | .ok sandboxRef =>
      if broker.sockets.readyState ws ≠ .open then broker
      else
        let replaced := broker.replaceExisting ws sessionId
        if starts then replaced.register ws sessionId sandboxRef else replaced.close ws

/-- The `finally` of `openShell`. -/
def settle (ws : Socket) : Broker :=
  { broker with
    startingShells := broker.startingShells - 1
    attaches := Keyed.remove Attaching.ws ws broker.attaches
    attachKeys := broker.attachKeys.remove }

end Broker

/-! ### Events -/

inductive BrokerEvent where
  | connection (ws : Socket)
  /-- An attach frame. -/
  | attach (ws : Socket) (sessionId : String)
  /-- A frame that cannot be read, a first frame that is no attach, or none in time. -/
  | refused (ws : Socket)
  /-- `resolveAttachTarget` answered, and whether the PTY then starts. -/
  | inspected (ws : Socket) (target : Except String String) (starts : Bool)
  | settled (ws : Socket)
  | exited (pty : Pty)
  /-- The idle timer, or the one of the longest session. -/
  | timer (ws : Socket)
  /-- An output or an input backlog. -/
  | overflow (ws : Socket)
  /-- The other side closes. -/
  | closing (ws : Socket)
  /-- The `close` event. -/
  | closed (ws : Socket)
  | error (ws : Socket)
  /-- The server closes. -/
  | shutdown

/-- One event. One that cannot happen changes nothing. -/
def brokerStep (maxSessions : Nat) (broker : Broker) : BrokerEvent → Broker
  | .connection ws => { broker with sockets := broker.sockets.connect ws false }
  | .attach ws sessionId =>
      if broker.sockets.kept ws = some false then
        let marked := { broker with sockets := broker.sockets.keep ws true }
        if isNew : marked.attaching ws = none then marked.openShell maxSessions ws sessionId isNew
        else marked
      else broker
  | .refused ws => broker.close ws
  | .inspected ws target starts =>
      match broker.attaching ws with
      | some ⟨_, sessionId, .inspecting⟩ =>
          (broker.attachShell ws sessionId target starts).return_ ws
      | _ => broker
  | .settled ws =>
      match broker.attaching ws with
      | some ⟨_, _, .returned⟩ => broker.settle ws
      | _ => broker
  | .exited pty =>
      match broker.spawned[pty]? with
      | none => broker
      | some ws => (broker.endShell ws).close ws
  | .timer ws => broker.closeFor ws
  | .overflow ws => (broker.endShell ws).close ws
  | .closing ws => broker.close ws
  | .closed ws => { broker with sockets := broker.sockets.setReadyState ws .closed }.endShell ws
  | .error ws => broker.endShell ws
  | .shutdown => (broker.shells.items.map Prod.fst).foldl (fun broker ws => broker.endShell ws) broker

/-- The service, event by event. -/
abbrev broker (maxSessions : Nat) : Object BrokerEvent Unit where
  State := Broker
  step := fun state event => ((), brokerStep maxSessions state event)

end JumptotechLabs.Sandboxd
