/-
Module: JumptotechLabs.Terminal.Broker
Layer: Terminal (services/terminal/src/shell.ts, services/terminal/src/server.ts)
Purpose: The bridge to the runtime broker: one promise that an attach settles, and a shell whose listeners the terminal
  service installs once its own turn has come. Any order of the socket's events, the connect timeout and that turn is a
  run, and what the listeners are given is told exactly.
Main exports: Frame, Frame.read, BridgeEvent, Bridge, Bridge.fail, Bridge.onMessage, Bridge.step, bridgeAfter,
  LosesNothing, WiredInTime, broker_loses_nothing_iff, output_before_wiring_is_lost
-/
import JumptotechLabs.Core.Json
import Mathlib.Data.List.TakeWhile

namespace JumptotechLabs.Terminal

open JumptotechLabs.Core

/-! ### Frames -/

/-- `ShellExit`; `endedBy` is the code of what ended a shell without an exit. -/
structure ShellExit where
  exitCode : Number
  signal : Option Number
  endedBy : Option String
deriving DecidableEq

/-- What the broker reported of the sandbox it attached to. -/
structure BrokerAttachment where
  sandboxRef : String
  user : String
  workdir : String
deriving DecidableEq

structure ShellStartError where
  code : String
  message : String
deriving DecidableEq

/-- What the `message` listener makes of a frame. -/
inductive Frame where
  /-- `JSON.parse` threw. -/
  | unreadable
  /-- `null`, of which no field can be read. -/
  | nothing
  | attached (attachment : Except String BrokerAttachment)
  | output (data : Option String)
  | exit (event : ShellExit)
  | error (code message : String)
  | other

def textOr (fallback : String) : Value → String
  | .string text => text
  | _ => fallback

def textOf : Value → Option String
  | .string text => some text
  | _ => none

def numberOf : Value → Option Number
  | .number value => some value
  | _ => none

/-- `String(value ?? '')`. -/
def textOrEmpty (numbers : NumberText) : Value → Except String String
  | .undefined | .null => .ok ""
  | value => value.toText numbers

/-- A frame by its `type`; `none` is a text that `JSON.parse` refuses. -/
def Frame.read (numbers : NumberText) : Option Value → Frame
  | none => .unreadable
  | some .null => .nothing
  | some message =>
      match textOf (message.property "type") with
      | some "attached" =>
          .attached do
            let sandboxRef ← textOrEmpty numbers (message.property "sandboxRef")
            let user ← textOrEmpty numbers (message.property "user")
            let workdir ← textOrEmpty numbers (message.property "workdir")
            return ⟨sandboxRef, user, workdir⟩
      | some "output" => .output (textOf (message.property "data"))
      | some "exit" =>
          .exit ⟨(numberOf (message.property "exitCode")).getD (.finite 0), numberOf (message.property "signal"), none⟩
      | some "error" =>
          .error (textOr "BROKER_ERROR" (message.property "code"))
            (textOr "The runtime broker refused this shell." (message.property "message"))
      | _ => .other

/-! ### The bridge -/

inductive SocketCall where
  | sendAttach
  | close
  | terminate
deriving DecidableEq

/-- The promise and the shell of one `brokerShell`. -/
structure Bridge where
  settled : Bool := false
  /-- Whether the broker reported the shell's exit, or something else ended it. -/
  exited : Bool := false
  /-- The calls of `resolve` and `reject`. -/
  settlements : List (Except ShellStartError BrokerAttachment) := []
  /-- Whether the listeners are the terminal service's; until then they do nothing. -/
  wired : Bool := false
  /-- What the installed data listener was given. -/
  data : List String := []
  /-- What the installed exit listener was given. -/
  exits : List ShellExit := []
  calls : List SocketCall := []
  /-- A listener threw: nothing catches it, and the process ends. -/
  crashed : Bool := false

namespace Bridge

/-- `onData(data)`. -/
def onData (bridge : Bridge) (data : String) : Bridge :=
  if bridge.wired then { bridge with data := bridge.data ++ [data] } else bridge

/-- `onExit(event)`. -/
def onExit (bridge : Bridge) (event : ShellExit) : Bridge :=
  if bridge.wired then { bridge with exits := bridge.exits ++ [event] } else bridge

/-- `fail`: a later failure ends the shell rather than failing a start. -/
def fail (bridge : Bridge) (code message : String) : Bridge :=
  if bridge.settled then
    { (if bridge.exited then bridge else bridge.onExit ⟨.finite 1, none, some code⟩) with exited := true }
  else
    { bridge with
      settled := true
      calls := bridge.calls ++ [.close]
      settlements := bridge.settlements ++ [.error ⟨code, message⟩] }

/-- The `message` listener. -/
def onMessage (bridge : Bridge) : Frame → Bridge
  | .unreadable => bridge.fail "BROKER_PROTOCOL" "The runtime broker sent an unreadable frame."
  | .nothing => { bridge with crashed := true }
  | .attached attachment =>
      if bridge.settled then bridge
      else
        match attachment with
        | .ok attachment =>
            { bridge with settled := true, settlements := bridge.settlements ++ [.ok attachment] }
        | .error _ => { bridge with settled := true, crashed := true }
  | .output (some data) => bridge.onData data
  | .output none => bridge
  | .exit event => if bridge.exited then bridge else { bridge with exited := true }.onExit event
  | .error code message => bridge.fail code message
  | .other => bridge

def isResolved (bridge : Bridge) : Bool := bridge.settlements.any Except.isOk

end Bridge

/-- What can happen next: an event of the socket, the connect timeout, or the terminal service's own turn. -/
inductive BridgeEvent where
  | opened
  | message (raw : Option Value)
  | error (message : String)
  | close
  | timeout
  /-- `startSession` goes on behind its `await`, and `wireShell` installs both listeners. -/
  | wireShell

def BridgeEvent.isWiring : BridgeEvent → Bool
  | .wireShell => true
  | _ => false

section Runs

variable (numbers : NumberText)

def Bridge.step (bridge : Bridge) (event : BridgeEvent) : Bridge :=
  if bridge.crashed then bridge
  else
    match event with
    | .opened => { bridge with calls := bridge.calls ++ [.sendAttach] }
    | .message raw => bridge.onMessage (Frame.read numbers raw)
    | .error message =>
        bridge.fail (if bridge.settled then "BROKER_LOST" else "BROKER_UNREACHABLE")
          ("Could not reach the runtime broker: " ++ message)
    | .close =>
        if bridge.settled then bridge.fail "BROKER_LOST" "The connection to the runtime broker was lost."
        else bridge.fail "BROKER_CLOSED" "The runtime broker closed the connection before attaching."
    | .timeout =>
        if bridge.settled then bridge
        else
          { bridge with
            settled := true
            calls := bridge.calls ++ [.terminate]
            settlements := bridge.settlements ++ [.error ⟨"BROKER_UNREACHABLE", "The runtime broker did not respond."⟩] }
    -- There is no shell to wire before the promise has resolved.
    | .wireShell => if bridge.isResolved then { bridge with wired := true } else bridge

/-- The bridge behind a sequence of events. -/
def bridgeAfter (bridge : Bridge) (events : List BridgeEvent) : Bridge := events.foldl (Bridge.step numbers) bridge

/-! ### What was received -/

/-- A shell that was lost, with what ended it. -/
def lostBy (code : String) : ShellExit := ⟨.finite 1, none, some code⟩

def Frame.settles : Frame → Bool
  | .unreadable | .attached _ | .error _ _ => true
  | _ => false

def Frame.output? : Frame → Option String
  | .output data => data
  | _ => none

/-- What a frame reports of the end of a shell. -/
def Frame.ending? : Frame → Option ShellExit
  | .unreadable => some (lostBy "BROKER_PROTOCOL")
  | .exit event => some event
  | .error code _ => some (lostBy code)
  | _ => none

namespace BridgeEvent

/-- The events that settle a promise that waits. -/
def settles : BridgeEvent → Bool
  | .message raw => (Frame.read numbers raw).settles
  | .error _ | .close | .timeout => true
  | .opened | .wireShell => false

/-- The data of an output frame. -/
def output? : BridgeEvent → Option String
  | .message raw => (Frame.read numbers raw).output?
  | _ => none

/-- What an exit frame, an error frame, an unreadable frame, an error of the socket or its close tells. -/
def ending? : BridgeEvent → Option ShellExit
  | .message raw => (Frame.read numbers raw).ending?
  | .error _ | .close => some (lostBy "BROKER_LOST")
  | _ => none

/-- A frame of which no field can be read. -/
def isNothing : BridgeEvent → Bool
  | .message raw => match Frame.read numbers raw with
      | .nothing => true
      | _ => false
  | _ => false

/-- An attached frame with its texts. -/
def attaches : BridgeEvent → Bool
  | .message raw => match Frame.read numbers raw with
      | .attached (.ok _) => true
      | _ => false
  | _ => false

/-- An attached frame that cannot be put into words. -/
def isUnprintable : BridgeEvent → Bool
  | .message raw => match Frame.read numbers raw with
      | .attached (.error _) => true
      | _ => false
  | _ => false

end BridgeEvent

/-- The events before the one that settles the promise. -/
def untilSettled (events : List BridgeEvent) : List BridgeEvent := events.takeWhile fun event => !event.settles numbers

/-- That event and all behind it. -/
def fromSettled (events : List BridgeEvent) : List BridgeEvent := events.dropWhile fun event => !event.settles numbers

/-- What comes behind the event that settles, up to the installation of the listeners. -/
def untilWired (events : List BridgeEvent) : List BridgeEvent :=
  (fromSettled numbers events).tail.takeWhile fun event => !event.isWiring

/-- The installation and all behind it. -/
def fromWired (events : List BridgeEvent) : List BridgeEvent :=
  (fromSettled numbers events).tail.dropWhile fun event => !event.isWiring

/-- The promise resolves, and the terminal service's turn comes. -/
def ComesToWiring (events : List BridgeEvent) : Prop :=
  ((fromSettled numbers events).head?.any (·.attaches numbers)) = true ∧ fromWired numbers events ≠ []

/-- No listener throws; the promise is settled once, as soon as anything settles it; and installed listeners are given
    every output behind the attached frame, in order, and the first ending. -/
structure LosesNothing (events : List BridgeEvent) : Prop where
  runs : (bridgeAfter numbers {} events).crashed = false
  once : (bridgeAfter numbers {} events).settlements.length = if events.any (·.settles numbers) then 1 else 0
  delivers : (bridgeAfter numbers {} events).wired = true →
    (bridgeAfter numbers {} events).data = (fromSettled numbers events).tail.filterMap (·.output? numbers)
  ends : (bridgeAfter numbers {} events).wired = true →
    (bridgeAfter numbers {} events).exits = (events.filterMap (·.ending? numbers)).head?.toList

/-- No frame is `null`, and the attached frame can be put into words. -/
structure Readable (events : List BridgeEvent) : Prop where
  noNothing : ∀ event ∈ events, event.isNothing numbers = false
  printable : ((fromSettled numbers events).head?.any (·.isUnprintable numbers)) = false

/-- Nothing for the listeners arrives before they are installed: no output behind the attached frame, and no ending. -/
structure WiredInTime (events : List BridgeEvent) : Prop where
  noOutput : (untilWired numbers events).filterMap (·.output? numbers) = []
  noEnding : (untilSettled numbers events ++ untilWired numbers events).filterMap (·.ending? numbers) = []

variable {numbers : NumberText}

/-! ### One event -/

/-- What a settled bridge has told its listeners after one more event. -/
def Bridge.told (bridge : Bridge) (outputs : List String) (endings : List ShellExit) (calls : List SocketCall) : Bridge :=
  { bridge with
    exited := bridge.exited || !endings.isEmpty
    data := if bridge.wired then bridge.data ++ outputs else bridge.data
    exits := if bridge.wired && !bridge.exited then bridge.exits ++ endings.head?.toList else bridge.exits
    calls := calls }

theorem told_nothing (bridge : Bridge) : bridge.told [] [] bridge.calls = bridge := by
  simp [Bridge.told]

theorem fail_of_settled {bridge : Bridge} (settled : bridge.settled = true) (code message : String) :
    bridge.fail code message = bridge.told [] [lostBy code] bridge.calls := by
  rw [Bridge.fail, if_pos settled]
  obtain ⟨_, exited, _, wired, _, _, _, _⟩ := bridge
  cases exited <;> cases wired <;> simp [Bridge.onExit, Bridge.told, lostBy]

theorem onMessage_of_settled {bridge : Bridge} (settled : bridge.settled = true) {frame : Frame}
    (readable : frame ≠ .nothing) :
    bridge.onMessage frame = bridge.told frame.output?.toList frame.ending?.toList bridge.calls := by
  cases frame with
  | unreadable => exact fail_of_settled settled _ _
  | nothing => exact absurd rfl readable
  | attached attachment => exact (if_pos settled).trans (told_nothing bridge).symm
  | output data =>
      obtain ⟨_, _, _, wired, _, _, _, _⟩ := bridge
      cases data <;> cases wired <;>
        simp [Bridge.onMessage, Bridge.onData, Bridge.told, Frame.output?, Frame.ending?]
  | exit event =>
      obtain ⟨_, exited, _, wired, _, _, _, _⟩ := bridge
      cases exited <;> cases wired <;>
        simp [Bridge.onMessage, Bridge.onExit, Bridge.told, Frame.output?, Frame.ending?]
  | error code message => exact fail_of_settled settled _ _
  | other => exact (told_nothing bridge).symm

theorem ne_nothing {raw : Option Value} (readable : (BridgeEvent.message raw).isNothing numbers = false) :
    Frame.read numbers raw ≠ .nothing := by
  intro isNothing
  simp [BridgeEvent.isNothing, isNothing] at readable

/-- The step of a settled bridge whose listeners no event changes any more. -/
theorem step_of_settled {bridge : Bridge} (running : bridge.crashed = false) (settled : bridge.settled = true)
    {event : BridgeEvent} (readable : event.isNothing numbers = false)
    (stays : event.isWiring = true → bridge.isResolved = true → bridge.wired = true) :
    ∃ calls, bridge.step numbers event =
      bridge.told (event.output? numbers).toList (event.ending? numbers).toList calls := by
  unfold Bridge.step
  rw [if_neg (by rw [running]; decide)]
  cases event with
  | opened => exact ⟨bridge.calls ++ [.sendAttach], by simp [Bridge.told, BridgeEvent.output?, BridgeEvent.ending?]⟩
  | message raw => exact ⟨bridge.calls, onMessage_of_settled settled (ne_nothing readable)⟩
  | error message =>
      refine ⟨bridge.calls, ?_⟩
      dsimp only
      rw [if_pos settled]
      exact fail_of_settled settled _ _
  | close => exact ⟨bridge.calls, (if_pos settled).trans (fail_of_settled settled _ _)⟩
  | timeout => exact ⟨bridge.calls, (if_pos settled).trans (told_nothing bridge).symm⟩
  | wireShell =>
      refine ⟨bridge.calls, Eq.trans ?_ (told_nothing bridge).symm⟩
      dsimp only
      split
      · rename_i resolved
        have wired := stays rfl resolved
        obtain ⟨_, _, _, _, _, _, _, _⟩ := bridge
        cases wired
        rfl
      · rfl

/-- The step of a bridge that waits, for an event that settles nothing. -/
theorem step_of_waiting (exited : Bool) (calls : List SocketCall) {event : BridgeEvent}
    (readable : event.isNothing numbers = false) (waits : event.settles numbers = false) :
    ∃ later, Bridge.step numbers { exited := exited, calls := calls } event =
      { exited := exited || !(event.ending? numbers).toList.isEmpty, calls := later } := by
  cases event with
  | opened => exact ⟨calls ++ [.sendAttach], by simp [Bridge.step, BridgeEvent.ending?]⟩
  | message raw =>
      refine ⟨calls, ?_⟩
      have isFrame := ne_nothing readable
      show Bridge.onMessage _ (Frame.read numbers raw) = { exited := exited || !(Frame.read numbers raw).ending?.toList.isEmpty, calls := calls }
      rw [BridgeEvent.settles] at waits
      cases frame : Frame.read numbers raw with
      | unreadable | attached _ | error _ _ => simp [frame, Frame.settles] at waits
      | nothing => exact absurd frame isFrame
      | output data => cases data <;> simp [Bridge.onMessage, Bridge.onData, Frame.ending?]
      | exit event => cases exited <;> simp [Bridge.onMessage, Bridge.onExit, Frame.ending?]
      | other => simp [Bridge.onMessage, Frame.ending?]
  | error message => cases waits
  | close => cases waits
  | timeout => cases waits
  | wireShell => exact ⟨calls, by simp [Bridge.step, Bridge.isResolved, BridgeEvent.ending?]⟩

/-- The step that settles a bridge that waits. -/
theorem step_of_settling (exited : Bool) (calls : List SocketCall) {event : BridgeEvent}
    (printable : event.isUnprintable numbers = false) (settles : event.settles numbers = true) :
    ∃ settlement later, Except.isOk settlement = event.attaches numbers ∧
      Bridge.step numbers { exited := exited, calls := calls } event =
        { settled := true, exited := exited, settlements := [settlement], calls := later } := by
  cases event with
  | opened => cases settles
  | message raw =>
      rw [BridgeEvent.settles] at settles
      rw [BridgeEvent.isUnprintable] at printable
      rw [BridgeEvent.attaches]
      show ∃ settlement later, _ ∧ Bridge.onMessage _ (Frame.read numbers raw) = _
      cases frame : Frame.read numbers raw with
      | unreadable => exact ⟨_, _, rfl, rfl⟩
      | attached attachment =>
          cases attachment with
          | ok attachment => exact ⟨.ok attachment, calls, rfl, rfl⟩
          | error message => simp [frame] at printable
      | error code message => exact ⟨_, _, rfl, rfl⟩
      | nothing | output _ | exit _ | other => simp [frame, Frame.settles] at settles
  | error message => exact ⟨_, _, rfl, rfl⟩
  | close => exact ⟨_, _, rfl, rfl⟩
  | timeout => exact ⟨_, _, rfl, rfl⟩
  | wireShell => cases settles

/-- The terminal service's turn, behind a promise that resolved. -/
theorem step_of_wiring (bridge : Bridge) (running : bridge.crashed = false) (resolved : bridge.isResolved = true) :
    bridge.step numbers .wireShell = { bridge with wired := true } := by
  unfold Bridge.step
  rw [if_neg (by rw [running]; decide)]
  exact if_pos resolved

/-! ### Runs -/

theorem bridgeAfter_cons (bridge : Bridge) (event : BridgeEvent) (events : List BridgeEvent) :
    bridgeAfter numbers bridge (event :: events) = bridgeAfter numbers (bridge.step numbers event) events := rfl

theorem bridgeAfter_append (bridge : Bridge) (before behind : List BridgeEvent) :
    bridgeAfter numbers bridge (before ++ behind) = bridgeAfter numbers (bridgeAfter numbers bridge before) behind :=
  List.foldl_append

theorem told_told (bridge : Bridge) (outputs outputs' : List String) (endings endings' : List ShellExit)
    (calls calls' : List SocketCall) :
    (bridge.told outputs endings calls).told outputs' endings' calls' =
      bridge.told (outputs ++ outputs') (endings ++ endings') calls' := by
  obtain ⟨_, exited, _, wired, _, _, _, _⟩ := bridge
  cases exited <;> cases wired <;> cases endings <;> simp [Bridge.told]

/-- What a settled bridge has told its listeners after a run, given that no event of it changes them. -/
theorem run_of_settled (bridge : Bridge) (running : bridge.crashed = false) (settled : bridge.settled = true)
    {events : List BridgeEvent} (readable : ∀ event ∈ events, event.isNothing numbers = false)
    (stays : ∀ event ∈ events, event.isWiring = true → bridge.isResolved = true → bridge.wired = true) :
    ∃ calls, bridgeAfter numbers bridge events =
      bridge.told (events.filterMap (·.output? numbers)) (events.filterMap (·.ending? numbers)) calls := by
  induction events generalizing bridge with
  | nil => exact ⟨bridge.calls, (told_nothing bridge).symm⟩
  | cons event events ih =>
      obtain ⟨between, stepped⟩ := step_of_settled running settled (readable event List.mem_cons_self)
        (stays event List.mem_cons_self)
      obtain ⟨calls, rest⟩ := ih (bridge.told (event.output? numbers).toList (event.ending? numbers).toList between)
        running settled (fun later member => readable later (List.mem_cons_of_mem _ member))
        fun later member => stays later (List.mem_cons_of_mem _ member)
      refine ⟨calls, ?_⟩
      rw [bridgeAfter_cons, stepped, rest, told_told, List.filterMap_cons, List.filterMap_cons]
      cases event.output? numbers <;> cases event.ending? numbers <;> rfl

/-- A bridge that waits has told nobody anything, and remembers whether an ending was reported. -/
theorem run_of_waiting (exited : Bool) (calls : List SocketCall) {events : List BridgeEvent}
    (readable : ∀ event ∈ events, event.isNothing numbers = false)
    (waits : ∀ event ∈ events, event.settles numbers = false) :
    ∃ later, bridgeAfter numbers { exited := exited, calls := calls } events =
      { exited := exited || !(events.filterMap (·.ending? numbers)).isEmpty, calls := later } := by
  induction events generalizing exited calls with
  | nil => exact ⟨calls, by simp [bridgeAfter]⟩
  | cons event events ih =>
      obtain ⟨between, stepped⟩ := step_of_waiting exited calls (readable event List.mem_cons_self)
        (waits event List.mem_cons_self)
      obtain ⟨later, rest⟩ := ih (exited || !(event.ending? numbers).toList.isEmpty) between
        (fun later member => readable later (List.mem_cons_of_mem _ member))
        fun later member => waits later (List.mem_cons_of_mem _ member)
      refine ⟨later, ?_⟩
      rw [bridgeAfter_cons, stepped, rest, List.filterMap_cons]
      cases event.ending? numbers <;> simp

/-! ### Listeners that throw -/

theorem step_of_crashed {bridge : Bridge} (crashed : bridge.crashed = true) (event : BridgeEvent) :
    bridge.step numbers event = bridge := by
  unfold Bridge.step
  exact if_pos crashed

theorem crashed_after {bridge : Bridge} (crashed : bridge.crashed = true) (events : List BridgeEvent) :
    (bridgeAfter numbers bridge events).crashed = true := by
  induction events generalizing bridge with
  | nil => exact crashed
  | cons event events ih =>
      rw [bridgeAfter_cons, step_of_crashed crashed]
      exact ih crashed

theorem crashed_of_nothing (bridge : Bridge) {event : BridgeEvent} (isNothing : event.isNothing numbers = true) :
    (bridge.step numbers event).crashed = true := by
  cases crashed : bridge.crashed with
  | true =>
      rw [step_of_crashed crashed]
      exact crashed
  | false =>
      cases event with
      | message raw =>
          unfold Bridge.step
          rw [if_neg (by rw [crashed]; decide)]
          dsimp only
          rw [BridgeEvent.isNothing] at isNothing
          cases frame : Frame.read numbers raw <;> simp [frame] at isNothing
          rfl
      | opened | error _ | close | timeout | wireShell => cases isNothing

/-- Where no listener has thrown, no frame was `null`. -/
theorem noNothing_of_runs {bridge : Bridge} {events : List BridgeEvent}
    (runs : (bridgeAfter numbers bridge events).crashed = false) :
    ∀ event ∈ events, event.isNothing numbers = false := by
  intro event member
  cases isNothing : event.isNothing numbers with
  | false => rfl
  | true =>
      obtain ⟨before, behind, rfl⟩ := List.append_of_mem member
      rw [bridgeAfter_append, bridgeAfter_cons, crashed_after (crashed_of_nothing _ isNothing)] at runs
      cases runs

theorem crashed_of_unprintable (exited : Bool) (calls : List SocketCall) {event : BridgeEvent}
    (isUnprintable : event.isUnprintable numbers = true) :
    (Bridge.step numbers { exited := exited, calls := calls } event).crashed = true := by
  cases event with
  | message raw =>
      rw [BridgeEvent.isUnprintable] at isUnprintable
      show (Bridge.onMessage _ (Frame.read numbers raw)).crashed = true
      cases frame : Frame.read numbers raw with
      | attached attachment =>
          cases attachment with
          | ok attachment => simp [frame] at isUnprintable
          | error message => rfl
      | _ => simp [frame] at isUnprintable
  | opened | error _ | close | timeout | wireShell => cases isUnprintable

/-! ### The whole run -/

section Split

variable {before tail : List BridgeEvent} {first : BridgeEvent}
  (readable : ∀ event ∈ before ++ first :: tail, event.isNothing numbers = false)
  (waits : ∀ event ∈ before, event.settles numbers = false) (settles : first.settles numbers = true)
  (printable : first.isUnprintable numbers = false)

include readable waits settles printable

/-- Up to the event that settles the promise, and with it. -/
theorem run_to_settled : ∃ settlement calls, Except.isOk settlement = first.attaches numbers ∧
    bridgeAfter numbers {} (before ++ first :: tail) =
      bridgeAfter numbers
        { settled := true
          exited := !(before.filterMap (·.ending? numbers)).isEmpty
          settlements := [settlement]
          calls := calls } tail := by
  obtain ⟨calls, waited⟩ := run_of_waiting false [] (fun event member => readable event (List.mem_append_left _ member))
    waits
  obtain ⟨settlement, later, isOk, settled⟩ := step_of_settling (false || !(before.filterMap
    (·.ending? numbers)).isEmpty) calls printable settles
  refine ⟨settlement, later, isOk, ?_⟩
  rw [bridgeAfter_append, bridgeAfter_cons, waited, settled, Bool.false_or]

/-- Nothing installs the listeners: nobody is told anything. -/
theorem run_unwired (unwired : first.attaches numbers = true → ∀ event ∈ tail, event.isWiring = false) :
    (bridgeAfter numbers {} (before ++ first :: tail)).crashed = false ∧
      (bridgeAfter numbers {} (before ++ first :: tail)).settlements.length = 1 ∧
      (bridgeAfter numbers {} (before ++ first :: tail)).wired = false := by
  obtain ⟨settlement, calls, isOk, same⟩ := run_to_settled readable waits settles printable
  have stays : ∀ event ∈ tail, event.isWiring = true → [settlement].any Except.isOk = true → false = true := by
    intro event member isWiring resolved
    rw [List.any_cons, List.any_nil, Bool.or_false, isOk] at resolved
    rw [unwired resolved event member] at isWiring
    cases isWiring
  obtain ⟨later, told⟩ := run_of_settled
    { settled := true, exited := !(before.filterMap (·.ending? numbers)).isEmpty, settlements := [settlement],
      calls := calls } rfl rfl
    (fun event member => readable event (List.mem_append_right _ (List.mem_cons_of_mem _ member))) stays
  rw [same, told]
  exact ⟨rfl, rfl, rfl⟩

end Split

/-- The listeners are installed, and are told what arrives behind that; an ending that came before is not told. -/
theorem run_wired {before between behind : List BridgeEvent} {first wiring : BridgeEvent}
    (readable : ∀ event ∈ before ++ first :: (between ++ wiring :: behind), event.isNothing numbers = false)
    (waits : ∀ event ∈ before, event.settles numbers = false) (settles : first.settles numbers = true)
    (attaches : first.attaches numbers = true) (unwired : ∀ event ∈ between, event.isWiring = false)
    (isWiring : wiring.isWiring = true) :
    ∃ bridge, bridgeAfter numbers {} (before ++ first :: (between ++ wiring :: behind)) = bridge ∧
      bridge.crashed = false ∧ bridge.settlements.length = 1 ∧ bridge.wired = true ∧
      bridge.data = behind.filterMap (·.output? numbers) ∧
      bridge.exits = if (before ++ between).filterMap (·.ending? numbers) = [] then
        (behind.filterMap (·.ending? numbers)).head?.toList else [] := by
  have printable : first.isUnprintable numbers = false := by
    cases first with
    | message raw =>
        rw [BridgeEvent.attaches] at attaches
        rw [BridgeEvent.isUnprintable]
        cases frame : Frame.read numbers raw with
        | attached attachment =>
            cases attachment with
            | ok attachment => rfl
            | error message => simp [frame] at attaches
        | _ => rfl
    | _ => rfl
  obtain ⟨settlement, calls, isOk, same⟩ := run_to_settled readable waits settles printable
  have resolved : ∀ {outputs endings later}, (Bridge.told
      { settled := true, exited := !(before.filterMap (·.ending? numbers)).isEmpty, settlements := [settlement],
        calls := calls } outputs endings later).isResolved = true := by
    intro outputs endings later
    show [settlement].any Except.isOk = true
    rw [List.any_cons, isOk, attaches]
    rfl
  have inTail : ∀ event ∈ between ++ wiring :: behind, event.isNothing numbers = false := fun event member =>
    readable event (List.mem_append_right _ (List.mem_cons_of_mem _ member))
  obtain ⟨later, told⟩ := run_of_settled
    { settled := true, exited := !(before.filterMap (·.ending? numbers)).isEmpty, settlements := [settlement],
      calls := calls } rfl rfl (fun event member => inTail event (List.mem_append_left _ member))
    fun event member isWiring => by
      rw [unwired event member] at isWiring
      cases isWiring
  obtain rfl : wiring = .wireShell := by cases wiring <;> first | rfl | cases isWiring
  rw [same, bridgeAfter_append, told, bridgeAfter_cons, step_of_wiring _ rfl resolved]
  obtain ⟨last, toldBehind⟩ := run_of_settled
    { settled := true
      exited := !(before.filterMap (·.ending? numbers)).isEmpty || !(between.filterMap (·.ending? numbers)).isEmpty
      settlements := [settlement]
      wired := true
      calls := later } rfl rfl
    (fun event member => inTail event (List.mem_append_right _ (List.mem_cons_of_mem _ member))) fun _ _ _ _ => rfl
  refine ⟨_, toldBehind, rfl, rfl, rfl, rfl, ?_⟩
  rw [List.filterMap_append]
  cases before.filterMap (·.ending? numbers) <;> cases between.filterMap (·.ending? numbers) <;> simp [Bridge.told]

theorem settlements_of_waiting {events : List BridgeEvent}
    (readable : ∀ event ∈ events, event.isNothing numbers = false)
    (waits : ∀ event ∈ events, event.settles numbers = false) :
    (bridgeAfter numbers {} events).crashed = false ∧ (bridgeAfter numbers {} events).settlements = [] ∧
      (bridgeAfter numbers {} events).wired = false := by
  obtain ⟨later, waited⟩ := run_of_waiting false [] readable waits
  rw [waited]
  exact ⟨rfl, rfl, rfl⟩

theorem first_told_iff (early late : List ShellExit) :
    (if early = [] then late.head?.toList else []) = (early ++ late).head?.toList ↔ early = [] := by
  cases early with
  | nil => simp
  | cons first rest => simp

/-- The events around the first that stops. -/
theorem split_at_first (stops : BridgeEvent → Bool) {events : List BridgeEvent} {first : BridgeEvent}
    {tail : List BridgeEvent} (isSplit : (events.dropWhile fun event => !stops event) = first :: tail) :
    events = (events.takeWhile fun event => !stops event) ++ first :: tail ∧ stops first = true ∧
      ∀ event ∈ events.takeWhile fun event => !stops event, stops event = false := by
  refine ⟨?_, ?_, fun event member => ?_⟩
  · rw [← isSplit]
    exact List.takeWhile_append_dropWhile.symm
  · have stopped := List.head?_dropWhile_not (fun event => !stops event) events
    rw [isSplit] at stopped
    simpa using stopped
  · simpa using List.mem_takeWhile_imp member

/-- A run whose listeners are never installed. -/
theorem told_of_unwired {events : List BridgeEvent} (readable : Readable numbers events)
    (unwired : ¬ ComesToWiring numbers events) :
    (bridgeAfter numbers {} events).crashed = false ∧
      (bridgeAfter numbers {} events).settlements.length = (if events.any (·.settles numbers) then 1 else 0) ∧
      (bridgeAfter numbers {} events).wired = false := by
  cases split : fromSettled numbers events with
  | nil =>
      have waits : ∀ event ∈ events, event.settles numbers = false := by
        simpa [fromSettled, List.dropWhile_eq_nil_iff] using split
      have noSettling : events.any (·.settles numbers) = false := by simpa using waits
      obtain ⟨running, unsettled, notWired⟩ := settlements_of_waiting readable.noNothing waits
      exact ⟨running, by rw [unsettled, noSettling]; rfl, notWired⟩
  | cons first tail =>
      obtain ⟨same, settles, waits⟩ := split_at_first (·.settles numbers) split
      have printable : first.isUnprintable numbers = false := by
        have := readable.printable
        rwa [split] at this
      have someSettles : events.any (·.settles numbers) = true :=
        List.any_eq_true.mpr ⟨first, same ▸ List.mem_append_right _ List.mem_cons_self, settles⟩
      have notWiring : first.attaches numbers = true → ∀ event ∈ tail, event.isWiring = false := by
        intro attaches
        have noWiring : fromWired numbers events = [] := by
          by_contra isWired
          exact unwired ⟨by rw [split]; exact attaches, isWired⟩
        simpa [fromWired, split, List.dropWhile_eq_nil_iff] using noWiring
      rw [someSettles]
      have readableSplit := readable.noNothing
      rw [same] at readableSplit ⊢
      exact run_unwired readableSplit waits settles printable notWiring

/-- A run whose listeners come to be installed: what they are told, and what there was to tell. -/
theorem told_of_wired {events : List BridgeEvent} (readable : ∀ event ∈ events, event.isNothing numbers = false)
    (comes : ComesToWiring numbers events) :
    (∃ bridge, bridgeAfter numbers {} events = bridge ∧ bridge.crashed = false ∧ bridge.settlements.length = 1 ∧
      bridge.wired = true ∧ bridge.data = (fromWired numbers events).tail.filterMap (·.output? numbers) ∧
      bridge.exits = if (untilSettled numbers events ++ untilWired numbers events).filterMap (·.ending? numbers) = [] then
        ((fromWired numbers events).tail.filterMap (·.ending? numbers)).head?.toList else []) ∧
      events.any (·.settles numbers) = true ∧
      (fromSettled numbers events).tail.filterMap (·.output? numbers) =
        (untilWired numbers events).filterMap (·.output? numbers) ++
          (fromWired numbers events).tail.filterMap (·.output? numbers) ∧
      events.filterMap (·.ending? numbers) =
        (untilSettled numbers events ++ untilWired numbers events).filterMap (·.ending? numbers) ++
          (fromWired numbers events).tail.filterMap (·.ending? numbers) := by
  obtain ⟨attaches, isWired⟩ := comes
  obtain ⟨first, tail, split⟩ : ∃ first tail, fromSettled numbers events = first :: tail := by
    cases split : fromSettled numbers events with
    | nil =>
        rw [split] at attaches
        cases attaches
    | cons first tail => exact ⟨first, tail, rfl⟩
  obtain ⟨wiring, behind, splitWired⟩ := List.exists_cons_of_ne_nil isWired
  rw [split] at attaches
  obtain ⟨same, settles, waits⟩ := split_at_first (·.settles numbers) split
  have splitTail := splitWired
  rw [fromWired, split, List.tail_cons] at splitTail
  obtain ⟨sameTail, isWiring, unwired⟩ := split_at_first BridgeEvent.isWiring splitTail
  have between : (tail.takeWhile fun event => !event.isWiring) = untilWired numbers events := by
    rw [untilWired, split, List.tail_cons]
  have before : (events.takeWhile fun event => !event.settles numbers) = untilSettled numbers events := rfl
  rw [between] at sameTail unwired
  rw [before] at same waits
  rw [split, splitWired, List.tail_cons, List.tail_cons]
  have silent : first.ending? numbers = none ∧ wiring.output? numbers = none ∧ wiring.ending? numbers = none := by
    refine ⟨?_, ?_, ?_⟩
    · cases first with
      | message raw =>
          rw [List.head?_cons, Option.any_some, BridgeEvent.attaches] at attaches
          rw [BridgeEvent.ending?]
          cases frame : Frame.read numbers raw <;> simp [frame] at attaches
          rfl
      | opened | error _ | close | timeout | wireShell => cases attaches
    · cases wiring <;> first | rfl | cases isWiring
    · cases wiring <;> first | rfl | cases isWiring
  generalize untilWired numbers events = middle at *
  generalize untilSettled numbers events = early at *
  subst sameTail same
  refine ⟨run_wired readable waits settles attaches unwired isWiring, ?_, ?_, ?_⟩
  · exact List.any_eq_true.mpr ⟨first, List.mem_append_right _ List.mem_cons_self, settles⟩
  · rw [List.filterMap_append, List.filterMap_cons_none silent.2.1]
  · rw [List.filterMap_append, List.filterMap_cons_none silent.1, List.filterMap_append,
      List.filterMap_cons_none silent.2.2, List.filterMap_append, List.append_assoc]

theorem printable_of_runs {events : List BridgeEvent} (runs : (bridgeAfter numbers {} events).crashed = false) :
    ((fromSettled numbers events).head?.any (·.isUnprintable numbers)) = false := by
  cases split : fromSettled numbers events with
  | nil => rfl
  | cons first tail =>
      obtain ⟨same, _, waits⟩ := split_at_first (·.settles numbers) split
      have readable := noNothing_of_runs runs
      rw [same] at runs readable
      obtain ⟨calls, waited⟩ := run_of_waiting false []
        (fun event member => readable event (List.mem_append_left _ member)) waits
      rw [bridgeAfter_append, waited, bridgeAfter_cons] at runs
      cases isUnprintable : first.isUnprintable numbers with
      | false => exact isUnprintable
      | true =>
          rw [crashed_after (crashed_of_unprintable _ _ isUnprintable)] at runs
          cases runs

/-- The bridge loses nothing exactly if it can read what it is sent and its listeners are installed in time. -/
theorem broker_loses_nothing_iff (numbers : NumberText) (events : List BridgeEvent) :
    LosesNothing numbers events ↔
      Readable numbers events ∧ (ComesToWiring numbers events → WiredInTime numbers events) := by
  constructor
  · intro holds
    have noNothing := noNothing_of_runs holds.runs
    refine ⟨⟨noNothing, printable_of_runs holds.runs⟩, fun comes => ?_⟩
    obtain ⟨⟨bridge, same, _, _, wired, data, exits⟩, _, outputs, endings⟩ := told_of_wired noNothing comes
    have delivers := holds.delivers (by rw [same, wired])
    have ends := holds.ends (by rw [same, wired])
    rw [same, data, outputs, List.self_eq_append_left] at delivers
    rw [same, exits, endings, first_told_iff] at ends
    exact ⟨delivers, ends⟩
  · rintro ⟨readable, inTime⟩
    by_cases comes : ComesToWiring numbers events
    · obtain ⟨⟨bridge, same, running, once, _, data, exits⟩, settles, outputs, endings⟩ :=
        told_of_wired readable.noNothing comes
      obtain ⟨noOutput, noEnding⟩ := inTime comes
      refine ⟨by rw [same, running], by rw [same, once, settles]; rfl, fun _ => ?_, fun _ => ?_⟩
      · rw [same, data, outputs, noOutput, List.nil_append]
      · rw [same, exits, endings, first_told_iff]
        exact noEnding
    · obtain ⟨running, once, unwired⟩ := told_of_unwired readable comes
      refine ⟨running, once, fun wired => ?_, fun wired => ?_⟩
      all_goals
        rw [unwired] at wired
        cases wired

end Runs

/-! ### A prompt that comes with the attached frame -/

def plainNumbers : NumberText := ⟨fun _ => "0", fun _ => .nan⟩

def attachedFrame : BridgeEvent :=
  .message (some (.object [("type", .string "attached"), ("sandboxRef", .string "jtt-lab-0a1b2c3d")]))

def outputFrame (data : String) : BridgeEvent :=
  .message (some (.object [("type", .string "output"), ("data", .string data)]))

def exitFrame : BridgeEvent := .message (some (.object [("type", .string "exit"), ("exitCode", .number (.finite 0))]))

/-- Output in the packet of the attached frame is lost; and after an exit that came before it, the end of the
    connection is never told. -/
theorem output_before_wiring_is_lost :
    (bridgeAfter plainNumbers {} [.opened, attachedFrame, outputFrame "$ ", .wireShell]).wired = true ∧
      (bridgeAfter plainNumbers {} [.opened, attachedFrame, outputFrame "$ ", .wireShell]).data = [] ∧
      ¬ LosesNothing plainNumbers [.opened, attachedFrame, outputFrame "$ ", .wireShell] ∧
      (bridgeAfter plainNumbers {} [exitFrame, attachedFrame, .wireShell, .close]).wired = true ∧
      (bridgeAfter plainNumbers {} [exitFrame, attachedFrame, .wireShell, .close]).exits = [] ∧
      ¬ LosesNothing plainNumbers [exitFrame, attachedFrame, .wireShell, .close] := by
  refine ⟨by decide, by decide, fun holds => ?_, by decide, by decide, fun holds => ?_⟩
  · have delivered := holds.delivers (by decide)
    revert delivered
    decide
  · have told := holds.ends (by decide)
    revert told
    decide

end JumptotechLabs.Terminal
