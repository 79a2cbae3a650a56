/-
Module: JumptotechLabs.Core.Sockets
Layer: Core (library)
Purpose: The sockets a server has accepted: the ready state of each, and what its handlers keep.
Main exports: ReadyState, Socket, Connection, Sockets, Sockets.readyState, Sockets.kept, Sockets.connect,
  Sockets.close, Sockets.keep, kept_setReadyState, kept_keep, readyState_close_of_ne, Sockets.Follows
-/
import JumptotechLabs.Core.Keyed

namespace JumptotechLabs.Core

/-- A socket, by the order of its connection. -/
abbrev Socket := Nat

/-- `readyState` of a socket that was accepted. -/
inductive ReadyState where
  | open
  | closing
  | closed
deriving DecidableEq, Inhabited

/-- A socket's state, and what its handlers keep. -/
structure Connection (Kept : Type) where
  ws : Socket
  readyState : ReadyState
  kept : Kept
deriving DecidableEq, Inhabited

structure Sockets (Kept : Type) where
  connections : List (Connection Kept)
  distinct : Keyed.Distinct Connection.ws connections

namespace Sockets

variable {Kept : Type}

def empty : Sockets Kept := ⟨[], .nil⟩

variable (sockets : Sockets Kept) (ws : Socket)

def connection : Option (Connection Kept) := Keyed.lookup Connection.ws ws sockets.connections

/-- What the handlers of a socket keep. -/
def kept : Option Kept := (sockets.connection ws).map Connection.kept

/-- The state of a socket; one that is not there is closed. -/
def readyState : ReadyState :=
  match sockets.connection ws with
  | some connection => connection.readyState
  | none => .closed

/-- A socket connects. -/
def connect (kept : Kept) : Sockets Kept :=
  if isNew : sockets.connection ws = none then
    { connections := sockets.connections ++ [⟨ws, .open, kept⟩]
      distinct := by
        apply sockets.distinct.append
        exact isNew }
  else sockets

def setReadyState (readyState : ReadyState) : Sockets Kept where
  connections := Keyed.modify Connection.ws ws ({ · with readyState := readyState })
    sockets.connections
  distinct := sockets.distinct.modify fun _ => rfl

/-- `ws.close(…)` and `ws.terminate()`: an open socket is closing. -/
def close : Sockets Kept :=
  if sockets.readyState ws = .open then sockets.setReadyState ws .closing else sockets

/-- The handlers of a socket keep something else. -/
def keep (kept : Kept) : Sockets Kept where
  connections := Keyed.modify Connection.ws ws ({ · with kept := kept }) sockets.connections
  distinct := sockets.distinct.modify fun _ => rfl

variable {sockets} {ws}

theorem kept_connect {other : Socket} {kept kept' : Kept} (found : sockets.kept other = some kept) :
    (sockets.connect ws kept').kept other = some kept := by
  unfold connect
  split
  · obtain ⟨connection, isConnection, rfl⟩ := Option.map_eq_some_iff.mp found
    rw [Sockets.connection] at isConnection
    rw [Sockets.kept, Sockets.connection, Keyed.lookup_append, isConnection]
    rfl
  · exact found

theorem connection_setReadyState (sockets : Sockets Kept) (ws other : Socket)
    (readyState : ReadyState) :
    (sockets.setReadyState ws readyState).connection other =
      (sockets.connection other).map fun connection =>
        if connection.ws = ws then { connection with readyState := readyState } else connection :=
  Keyed.lookup_modify ws other _ sockets.connections fun _ => rfl

@[simp] theorem kept_setReadyState (sockets : Sockets Kept) (ws other : Socket)
    (readyState : ReadyState) :
    (sockets.setReadyState ws readyState).kept other = sockets.kept other := by
  rw [Sockets.kept, connection_setReadyState, Sockets.kept]
  cases sockets.connection other with
  | none => rfl
  | some connection =>
      simp only [Option.map_some]
      split
      · rfl
      · rfl

@[simp] theorem kept_close (sockets : Sockets Kept) (ws other : Socket) :
    (sockets.close ws).kept other = sockets.kept other := by
  unfold close
  split
  · exact kept_setReadyState sockets ws other .closing
  · rfl

theorem connection_keep (sockets : Sockets Kept) (ws other : Socket) (kept : Kept) :
    (sockets.keep ws kept).connection other =
      (sockets.connection other).map fun connection =>
        if connection.ws = ws then { connection with kept := kept } else connection :=
  Keyed.lookup_modify ws other _ sockets.connections fun _ => rfl

theorem kept_keep (sockets : Sockets Kept) (ws other : Socket) (kept : Kept) :
    (sockets.keep ws kept).kept other =
      (sockets.kept other).map fun before => if other = ws then kept else before := by
  rw [Sockets.kept, connection_keep, Sockets.kept]
  cases found : sockets.connection other with
  | none => rfl
  | some connection =>
      have isOther : connection.ws = other := Keyed.key_of_lookup found
      simp only [Option.map_some, isOther]
      split
      · rfl
      · rfl

/-- Closing one socket leaves every other as it is. -/
theorem readyState_close_of_ne (sockets : Sockets Kept) {ws other : Socket} (isOther : other ≠ ws) :
    (sockets.close ws).readyState other = sockets.readyState other := by
  unfold close
  split
  · rw [Sockets.readyState, connection_setReadyState, Sockets.readyState]
    cases found : sockets.connection other with
    | none => rfl
    | some connection =>
        have isSocket : connection.ws = other := Keyed.key_of_lookup found
        rw [Option.map_some, if_neg (by rw [isSocket]; exact isOther)]
  · rfl

/-! ### Flags that stay up -/

/-- No socket is forgotten, and no flag that is up goes down. -/
def Follows (before after : Sockets Bool) : Prop :=
  ∀ ws flag, before.kept ws = some flag → ∃ still, after.kept ws = some still ∧ (flag = true → still = true)

section Follows

variable {before after : Sockets Bool}

theorem Follows.up (follows : before.Follows after) (isUp : before.kept ws = some true) :
    after.kept ws = some true := by
  obtain ⟨still, isKept, stays⟩ := follows ws true isUp
  rw [isKept, stays rfl]

theorem Follows.there (follows : before.Follows after) (isThere : (before.kept ws).isSome = true) :
    (after.kept ws).isSome = true := by
  obtain ⟨flag, isKept⟩ := Option.isSome_iff_exists.mp isThere
  obtain ⟨still, isStill, _⟩ := follows ws flag isKept
  rw [isStill]
  rfl

theorem Follows.of_kept (same : ∀ ws, after.kept ws = before.kept ws) : before.Follows after := by
  intro ws flag isKept
  exact ⟨flag, by rw [same, isKept], id⟩

theorem Follows.refl (sockets : Sockets Bool) : sockets.Follows sockets := .of_kept fun _ => rfl

theorem follows_close (sockets : Sockets Bool) (ws : Socket) : sockets.Follows (sockets.close ws) :=
  .of_kept (kept_close sockets ws)

theorem follows_setReadyState (sockets : Sockets Bool) (ws : Socket) (readyState : ReadyState) :
    sockets.Follows (sockets.setReadyState ws readyState) :=
  .of_kept fun other => kept_setReadyState sockets ws other readyState

theorem follows_connect (sockets : Sockets Bool) (ws : Socket) (flag : Bool) :
    sockets.Follows (sockets.connect ws flag) := by
  intro other before isKept
  exact ⟨before, kept_connect isKept, id⟩

theorem follows_keep (sockets : Sockets Bool) (ws : Socket) : sockets.Follows (sockets.keep ws true) := by
  intro other flag isKept
  refine ⟨if other = ws then true else flag, ?_, ?_⟩
  · rw [kept_keep, isKept]
    rfl
  · intro isUp
    rw [isUp, ite_self]

end Follows

end Sockets

end JumptotechLabs.Core
