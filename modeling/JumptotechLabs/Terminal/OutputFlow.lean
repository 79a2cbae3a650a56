/-
Module: JumptotechLabs.Terminal.OutputFlow
Layer: Terminal (services/lab-orchestrator/src/output-flow.ts)
Purpose: Output flow control for a shell streamed over a WebSocket. The source is paused while the socket holds too
  much, and a timer polls until it has drained; past the hard limit the connection is given up. In every run the
  timer is armed exactly while the source is paused and the flow is neither disposed nor overflowed.
Main exports: OutputFlowOptions, resolveOutputFlowOptions, FlowState, FlowEvent, outputFlow, Unwedged,
  flow_control_never_wedges
-/
import JumptotechLabs.Core.Object
import Mathlib.Algebra.Order.Ring.Unbundled.Rat

namespace JumptotechLabs.Terminal

open JumptotechLabs.Core

/-! ### Options -/

/-- Limits that can work: each is positive, and low water ≤ high water < hard limit. -/
structure OutputFlowOptions where
  highWaterBytes : Rat
  lowWaterBytes : Rat
  hardLimitBytes : Rat
  pollIntervalMs : Rat
  lowWater_pos : 0 < lowWaterBytes
  pollInterval_pos : 0 < pollIntervalMs
  low_le_high : lowWaterBytes ≤ highWaterBytes
  high_lt_hard : highWaterBytes < hardLimitBytes

/-- `Partial<OutputFlowOptions>`: which options are overridden, each with a finite number or with another value. -/
structure OutputFlowOverrides where
  highWaterBytes : Option (Option Rat)
  lowWaterBytes : Option (Option Rat)
  hardLimitBytes : Option (Option Rat)
  pollIntervalMs : Option (Option Rat)

/-- Merge overrides onto the defaults, refusing an ordering that cannot work. -/
def resolveOutputFlowOptions (overrides : OutputFlowOverrides) : Except String OutputFlowOptions :=
  match overrides.highWaterBytes.getD (some 1048576), overrides.lowWaterBytes.getD (some 262144),
    overrides.hardLimitBytes.getD (some 16777216), overrides.pollIntervalMs.getD (some 50) with
  | some high, some low, some hard, some interval =>
      if works : 0 < high ∧ 0 < low ∧ 0 < hard ∧ 0 < interval ∧ low ≤ high ∧ high < hard then
        .ok ⟨high, low, hard, interval, works.2.1, works.2.2.2.1, works.2.2.2.2.1, works.2.2.2.2.2⟩
      else .error "output flow limits must be positive with lowWaterBytes <= highWaterBytes < hardLimitBytes"
  | _, _, _, _ => .error "output flow limits must be positive with lowWaterBytes <= highWaterBytes < hardLimitBytes"

/-! ### The flow -/

/-- The variables of a flow; the timer is there while it is armed, with its interval. -/
structure FlowState where
  paused : Bool
  disposed : Bool
  overflowed : Bool
  timer : Option Rat
deriving DecidableEq

/-- What happens to a flow, with the amounts the socket holds when it is asked, and whether the source throws. -/
inductive FlowEvent where
  | afterSend (buffered : Rat) (pauseThrows : Bool)
  | tick (first second : Rat) (resumeThrows : Bool)
  | dispose
deriving DecidableEq

inductive FlowCall where
  | pause
  | resume
  | onOverflow
deriving DecidableEq

/-- The amounts read, and the calls made, in their order. -/
structure FlowReply where
  reads : List Rat
  calls : List FlowCall
deriving DecidableEq

namespace FlowState

def initial : FlowState := ⟨false, false, false, none⟩

def stopPolling (state : FlowState) : FlowState := { state with timer := none }

def overflow (state : FlowState) (reads : List Rat) : FlowReply × FlowState :=
  if state.overflowed then (⟨reads, []⟩, state)
  else (⟨reads, [.onOverflow]⟩, { state with overflowed := true }.stopPolling)

/-- A tick of the timer. It asks the socket twice. -/
def poll (options : OutputFlowOptions) (state : FlowState) (first second : Rat) : FlowReply × FlowState :=
  if state.disposed then (⟨[], []⟩, state.stopPolling)
  else if options.hardLimitBytes < first then state.overflow [first]
  else if options.lowWaterBytes < second then (⟨[first, second], []⟩, state)
  -- Whether `resume` throws changes nothing: the source is already gone then.
  else (⟨[first, second], [.resume]⟩, { state.stopPolling with paused := false })

def afterSend (options : OutputFlowOptions) (state : FlowState) (buffered : Rat) : FlowReply × FlowState :=
  if state.disposed || state.overflowed then (⟨[], []⟩, state)
  else if options.hardLimitBytes < buffered then state.overflow [buffered]
  else if state.paused || decide (buffered ≤ options.highWaterBytes) then (⟨[buffered], []⟩, state)
  -- A source that cannot pause is bounded by the hard limit instead: the timer is armed all the same.
  else (⟨[buffered], [.pause]⟩, { state with paused := true, timer := some options.pollIntervalMs })

def dispose (state : FlowState) : FlowReply × FlowState :=
  (⟨[], []⟩, { state with disposed := true }.stopPolling)

end FlowState

/-- `createOutputFlow`. -/
abbrev outputFlow (options : OutputFlowOptions) : Object FlowEvent FlowReply where
  State := FlowState
  step := fun state event =>
    match event with
    | .afterSend buffered _ => state.afterSend options buffered
    | .tick first second _ => state.poll options first second
    | .dispose => state.dispose

/-- The timer ticks only while it is armed. -/
def OnlyArmedTicks (state : FlowState) (event : FlowEvent) : Prop :=
  match event with
  | .tick _ _ _ => state.timer.isSome = true
  | _ => True

instance : ∀ (state : FlowState) (event : FlowEvent), Decidable (OnlyArmedTicks state event)
  | state, .tick _ _ _ => inferInstanceAs (Decidable (state.timer.isSome = true))
  | _, .afterSend _ _ => isTrue trivial
  | _, .dispose => isTrue trivial

/-! ### Runs -/

/-- The calls of a transcript. -/
def callsOf (past : List (FlowEvent × FlowReply)) : List FlowCall := past.flatMap fun entry => entry.2.calls

/-- Is the source paused after these calls? None if they do not alternate. -/
def alternate : Bool → List FlowCall → Option Bool
  | paused, [] => some paused
  | paused, .pause :: calls => if paused then none else alternate true calls
  | paused, .resume :: calls => if paused then alternate false calls else none
  | paused, .onOverflow :: calls => alternate paused calls

theorem alternate_append (paused : Bool) (calls more : List FlowCall) :
    alternate paused (calls ++ more) = (alternate paused calls).bind fun paused => alternate paused more := by
  induction calls generalizing paused with
  | nil => rfl
  | cons call calls ih =>
      cases call with
      | pause => cases paused <;> simp [alternate, ih]
      | resume => cases paused <;> simp [alternate, ih]
      | onOverflow => simp [alternate, ih]

/-- The event that ends a flow: it is disposed, or overflows. -/
def Ends (entry : FlowEvent × FlowReply) : Prop := entry.1 = .dispose ∨ .onOverflow ∈ entry.2.calls

/-- What holds of a flow and of what has happened to it. -/
structure Held (options : OutputFlowOptions) (state : FlowState) (past : List (FlowEvent × FlowReply)) : Prop where
  armed : state.timer.isSome = true ↔ state.paused = true ∧ state.disposed = false ∧ state.overflowed = false
  alternates : alternate false (callsOf past) = some state.paused
  overflows : (callsOf past).count .onOverflow = if state.overflowed then 1 else 0
  overLimit : ∀ entry ∈ past, .onOverflow ∈ entry.2.calls → ∃ amount ∈ entry.2.reads, options.hardLimitBytes < amount
  ended : ∀ entry ∈ past, Ends entry → state.disposed = true ∨ state.overflowed = true
  silent : past.Pairwise fun earlier later => Ends earlier → later.2.calls = []

/-- What a step has to show: how the flags, the timer and the calls go together. -/
structure Stepped (options : OutputFlowOptions) (state : FlowState) (event : FlowEvent)
    (result : FlowReply × FlowState) : Prop where
  armed : result.2.timer.isSome = true ↔
    result.2.paused = true ∧ result.2.disposed = false ∧ result.2.overflowed = false
  alternates : alternate state.paused result.1.calls = some result.2.paused
  overflows : result.1.calls.count .onOverflow + (if state.overflowed then 1 else 0) =
    if result.2.overflowed then 1 else 0
  overLimit : .onOverflow ∈ result.1.calls → ∃ amount ∈ result.1.reads, options.hardLimitBytes < amount
  ends : event = .dispose → result.2.disposed = true
  stays : state.disposed = true ∨ state.overflowed = true →
    (result.2.disposed = true ∨ result.2.overflowed = true) ∧ result.1.calls = []

/-- A flow that overflows gives up its timer. -/
theorem stepped_overflow {options : OutputFlowOptions} {state : FlowState} {event : FlowEvent}
    (isOpen : state.overflowed = false) (notDisposed : state.disposed = false) (notDispose : event ≠ .dispose)
    {reads : List Rat} {amount : Rat} (isRead : amount ∈ reads) (tooMuch : options.hardLimitBytes < amount) :
    Stepped options state event (state.overflow reads) := by
  rw [FlowState.overflow, isOpen, if_neg Bool.false_ne_true]
  refine ⟨?_, rfl, ?_, fun _ => ⟨amount, isRead, tooMuch⟩, fun isDispose => absurd isDispose notDispose, ?_⟩
  · simp [FlowState.stopPolling]
  · simp [isOpen, FlowState.stopPolling]
  · simp [isOpen, notDisposed]

/-- An event that calls nothing and changes nothing. -/
theorem stepped_idle {options : OutputFlowOptions} {state : FlowState} {event : FlowEvent}
    (armed : state.timer.isSome = true ↔ state.paused = true ∧ state.disposed = false ∧ state.overflowed = false)
    (notDispose : event ≠ .dispose) (reads : List Rat) : Stepped options state event (⟨reads, []⟩, state) where
  armed := armed
  alternates := rfl
  overflows := Nat.zero_add _
  overLimit := fun impossible => absurd impossible List.not_mem_nil
  ends := fun isDispose => absurd isDispose notDispose
  stays := fun stopped => ⟨stopped, rfl⟩

theorem stepped_afterSend {options : OutputFlowOptions} {state : FlowState}
    (armed : state.timer.isSome = true ↔ state.paused = true ∧ state.disposed = false ∧ state.overflowed = false)
    (buffered : Rat) (throws : Bool) :
    Stepped options state (.afterSend buffered throws) (state.afterSend options buffered) := by
  rw [FlowState.afterSend]
  by_cases isOver : (state.disposed || state.overflowed) = true
  · rw [if_pos isOver]
    exact stepped_idle armed (by simp) []
  · rw [if_neg isOver]
    rw [Bool.not_eq_true, Bool.or_eq_false_iff] at isOver
    obtain ⟨notDisposed, isOpen⟩ := isOver
    by_cases tooMuch : options.hardLimitBytes < buffered
    · rw [if_pos tooMuch]
      exact stepped_overflow isOpen notDisposed (by simp) List.mem_cons_self tooMuch
    · rw [if_neg tooMuch]
      by_cases leave : (state.paused || decide (buffered ≤ options.highWaterBytes)) = true
      · rw [if_pos leave]
        exact stepped_idle armed (by simp) [buffered]
      · rw [if_neg leave]
        rw [Bool.not_eq_true, Bool.or_eq_false_iff] at leave
        refine ⟨?_, ?_, ?_, ?_, ?_, ?_⟩
        · simp [isOpen, notDisposed]
        · simp [leave.1, alternate]
        · simp
        · simp
        · simp
        · simp [isOpen, notDisposed]

theorem stepped_poll {options : OutputFlowOptions} {state : FlowState}
    (armed : state.timer.isSome = true ↔ state.paused = true ∧ state.disposed = false ∧ state.overflowed = false)
    (isArmed : state.timer.isSome = true) (first second : Rat) (throws : Bool) :
    Stepped options state (.tick first second throws) (state.poll options first second) := by
  obtain ⟨isPaused, notDisposed, isOpen⟩ := armed.mp isArmed
  rw [FlowState.poll, notDisposed, if_neg Bool.false_ne_true]
  by_cases tooMuch : options.hardLimitBytes < first
  · rw [if_pos tooMuch]
    exact stepped_overflow isOpen notDisposed (by simp) List.mem_cons_self tooMuch
  · rw [if_neg tooMuch]
    by_cases notDrained : options.lowWaterBytes < second
    · rw [if_pos notDrained]
      exact stepped_idle armed (by simp) [first, second]
    · rw [if_neg notDrained]
      refine ⟨?_, ?_, ?_, ?_, ?_, ?_⟩
      · simp [FlowState.stopPolling]
      · simp [isPaused, alternate]
      · exact Nat.zero_add _
      · simp
      · simp
      · simp [isOpen, notDisposed]

/-- Every event keeps the timer armed exactly while the source is paused and the flow goes on. -/
theorem stepped (options : OutputFlowOptions) {state : FlowState} {event : FlowEvent}
    (armed : state.timer.isSome = true ↔ state.paused = true ∧ state.disposed = false ∧ state.overflowed = false)
    (admitted : OnlyArmedTicks state event) :
    Stepped options state event ((outputFlow options).step state event) := by
  cases event with
  | afterSend buffered throws => exact stepped_afterSend armed buffered throws
  | tick first second throws => exact stepped_poll armed admitted first second throws
  | dispose =>
      refine ⟨?_, rfl, ?_, ?_, fun _ => rfl, fun _ => ⟨.inl rfl, rfl⟩⟩
      · simp [FlowState.dispose, FlowState.stopPolling]
      · exact Nat.zero_add _
      · simp [FlowState.dispose]

theorem Held.step {options : OutputFlowOptions} {state : FlowState} {past : List (FlowEvent × FlowReply)}
    (held : Held options state past) {event : FlowEvent} (admitted : OnlyArmedTicks state event) :
    Held options ((outputFlow options).step state event).2
      (past ++ [(event, ((outputFlow options).step state event).1)]) := by
  have now := stepped options held.armed admitted
  generalize (outputFlow options).step state event = result at now
  have calls : callsOf (past ++ [(event, result.1)]) = callsOf past ++ result.1.calls := by
    rw [callsOf, callsOf, List.flatMap_append, List.flatMap_singleton]
  refine ⟨now.armed, ?_, ?_, ?_, ?_, ?_⟩
  · rw [calls, alternate_append, held.alternates]
    exact now.alternates
  · rw [calls, List.count_append, held.overflows, Nat.add_comm]
    exact now.overflows
  · intro entry isEntry
    rcases List.mem_append.mp isEntry with earlier | isNow
    · exact held.overLimit entry earlier
    · cases List.mem_singleton.mp isNow
      exact now.overLimit
  · intro entry isEntry ends
    rcases List.mem_append.mp isEntry with earlier | isNow
    · exact (now.stays (held.ended entry earlier ends)).1
    · cases List.mem_singleton.mp isNow
      rcases ends with isDispose | overflows
      · exact .inl (now.ends isDispose)
      · right
        by_contra notOverflowed
        have counted := now.overflows
        rw [if_neg notOverflowed] at counted
        have positive : 0 < result.1.calls.count .onOverflow := List.count_pos_iff.mpr overflows
        omega
  · rw [List.pairwise_append]
    refine ⟨held.silent, List.pairwise_singleton _ _, fun entry earlier later isNow ends => ?_⟩
    cases List.mem_singleton.mp isNow
    exact (now.stays (held.ended entry earlier ends)).2

theorem Held.initial (options : OutputFlowOptions) : Held options .initial [] where
  armed := by simp [FlowState.initial]
  alternates := rfl
  overflows := rfl
  overLimit := List.forall_mem_nil _
  ended := List.forall_mem_nil _
  silent := .nil

/-- What a shell can rely on, after any run. -/
structure Unwedged (options : OutputFlowOptions) (events : List FlowEvent) : Prop where
  /-- Pauses and resumes alternate, a pause first. -/
  alternates : (alternate false (callsOf ((outputFlow options).transcript .initial events))).isSome
  /-- At most one overflow, and only on an amount that was read past the hard limit. -/
  overflows : (callsOf ((outputFlow options).transcript .initial events)).count .onOverflow ≤ 1
  overLimit : ∀ entry ∈ (outputFlow options).transcript .initial events, .onOverflow ∈ entry.2.calls →
    ∃ amount ∈ entry.2.reads, options.hardLimitBytes < amount
  /-- After an overflow, or once disposed, nothing is called any more. -/
  silent : ((outputFlow options).transcript .initial events).Pairwise fun earlier later =>
    Ends earlier → later.2.calls = []
  /-- The timer is armed while the source is paused and the flow goes on, and only then. -/
  armed : ((outputFlow options).after .initial events).timer.isSome = true ↔
    ((outputFlow options).after .initial events).paused = true ∧
      ((outputFlow options).after .initial events).disposed = false ∧
      ((outputFlow options).after .initial events).overflowed = false
  /-- A paused flow that goes on is resumed by a tick exactly when it does not read too much, first past the hard
      limit and then above low water. -/
  resumes : ((outputFlow options).after .initial events).paused = true →
    ((outputFlow options).after .initial events).disposed = false →
    ((outputFlow options).after .initial events).overflowed = false → ∀ (first second : Rat) (throws : Bool),
      ((outputFlow options).step ((outputFlow options).after .initial events) (.tick first second throws)).1.calls =
        [.resume] ↔ first ≤ options.hardLimitBytes ∧ second ≤ options.lowWaterBytes
  /-- So the first tick that reads no more than low water resumes it. -/
  drained : ((outputFlow options).after .initial events).timer.isSome = true →
    ∀ (first second : Rat) (throws : Bool), first ≤ options.lowWaterBytes → second ≤ options.lowWaterBytes →
      ((outputFlow options).step ((outputFlow options).after .initial events) (.tick first second throws)).1.calls =
        [.resume]

theorem poll_resumes_iff {options : OutputFlowOptions} {state : FlowState} (notDisposed : state.disposed = false)
    (isOpen : state.overflowed = false) (first second : Rat) :
    (state.poll options first second).1.calls = [.resume] ↔
      first ≤ options.hardLimitBytes ∧ second ≤ options.lowWaterBytes := by
  rw [FlowState.poll, notDisposed, if_neg Bool.false_ne_true, ← not_lt, ← not_lt]
  by_cases tooMuch : options.hardLimitBytes < first
  · rw [if_pos tooMuch, FlowState.overflow, isOpen]
    simp [tooMuch]
  · rw [if_neg tooMuch]
    by_cases notDrained : options.lowWaterBytes < second
    · simp [notDrained]
    · simp [notDrained, tooMuch]

/-- Whatever is sent, read, thrown and disposed, in whatever order: flow control never wedges a shell. -/
theorem flow_control_never_wedges (overrides : OutputFlowOverrides) (options : OutputFlowOptions)
    (_ : resolveOutputFlowOptions overrides = .ok options) (events : List FlowEvent)
    (admits : (outputFlow options).Admits OnlyArmedTicks .initial events) : Unwedged options events := by
  have held : Held options ((outputFlow options).after .initial events)
      ([] ++ (outputFlow options).transcript .initial events) :=
    Object.transcript_keeps (Held options) (fun _ _ _ held admitted => held.step admitted) (Held.initial options)
      admits
  rw [List.nil_append] at held
  refine ⟨?_, ?_, held.overLimit, held.silent, held.armed, ?_, ?_⟩
  · rw [held.alternates]
    rfl
  · rw [held.overflows]
    split <;> decide
  · intro _ notDisposed isOpen first second _
    exact poll_resumes_iff notDisposed isOpen first second
  · intro isArmed first second _ firstLow secondLow
    obtain ⟨-, notDisposed, isOpen⟩ := held.armed.mp isArmed
    refine (poll_resumes_iff notDisposed isOpen first second).mpr ⟨?_, secondLow⟩
    exact firstLow.trans (options.low_le_high.trans options.high_lt_hard.le)

/-- `DEFAULT_OUTPUT_FLOW`. -/
def defaultOutputFlow : OutputFlowOptions :=
  ⟨1048576, 262144, 16777216, 50, by decide, by decide, by decide, by decide⟩

/-- A surge that pauses a source which throws, a tick too early, one that resumes, a second surge, and an overflow
    seen by the timer. -/
theorem flow_control_never_wedges_surges :
    Unwedged defaultOutputFlow [.afterSend 2000000 true, .tick 300000 300000 false, .tick 1000 1000 true,
      .afterSend 2000000 false, .tick 20000000 0 false, .afterSend 30000000 false, .dispose] :=
  flow_control_never_wedges ⟨none, none, none, none⟩ defaultOutputFlow rfl _
    (by decide)

end JumptotechLabs.Terminal
