/-
Module: JumptotechLabs.Core.Object
Layer: Core (library)
Purpose: Objects that are called one call at a time: a state, and a step that answers a call. What an
  admitted call keeps holds after every admitted sequence of calls; and an object that follows another
  step by step gives the same replies to every admitted sequence.
Main exports: Object, Object.after, Object.replies, Object.transcript, Object.Admits, Object.after_keeps,
  Object.transcript_keeps, Object.replies_of_simulation
-/
import Mathlib.Data.List.Forall2

namespace JumptotechLabs.Core

/-- An object that answers calls. -/
structure Object (Call Reply : Type) where
  State : Type
  step : State → Call → Reply × State

namespace Object

variable {Call Reply Reply' : Type}

/-- The state after a sequence of calls. -/
def after (object : Object Call Reply) : object.State → List Call → object.State
  | state, [] => state
  | state, call :: calls => object.after (object.step state call).2 calls

/-- The replies to a sequence of calls. -/
def replies (object : Object Call Reply) : object.State → List Call → List Reply
  | _, [] => []
  | state, call :: calls => (object.step state call).1 :: object.replies (object.step state call).2 calls

/-- Every call with the reply it got. -/
def transcript (object : Object Call Reply) : object.State → List Call → List (Call × Reply)
  | _, [] => []
  | state, call :: calls =>
      (call, (object.step state call).1) :: object.transcript (object.step state call).2 calls

/-- Every call meets the condition in the state it is made in. -/
def Admits (object : Object Call Reply) (admitted : object.State → Call → Prop) :
    object.State → List Call → Prop
  | _, [] => True
  | state, call :: calls => admitted state call ∧ object.Admits admitted (object.step state call).2 calls

instance (object : Object Call Reply) (admitted : object.State → Call → Prop)
    [∀ state call, Decidable (admitted state call)] :
    ∀ state calls, Decidable (object.Admits admitted state calls)
  | _, [] => isTrue trivial
  | state, call :: calls =>
      have := instDecidableAdmits object admitted (object.step state call).2 calls
      inferInstanceAs (Decidable (admitted state call ∧ object.Admits admitted _ calls))

/-- What every admitted call keeps holds after every admitted sequence of calls. -/
theorem after_keeps {object : Object Call Reply} {admitted : object.State → Call → Prop}
    (invariant : object.State → Prop)
    (kept : ∀ state call, invariant state → admitted state call →
      invariant (object.step state call).2)
    {state : object.State} {calls : List Call} (start : invariant state)
    (admits : object.Admits admitted state calls) : invariant (object.after state calls) := by
  induction calls generalizing state with
  | nil => exact start
  | cons call calls ih =>
      obtain ⟨first, rest⟩ := admits
      exact ih (kept state call start first) rest

theorem after_append (object : Object Call Reply) (state : object.State) (calls more : List Call) :
    object.after state (calls ++ more) = object.after (object.after state calls) more := by
  induction calls generalizing state with
  | nil => rfl
  | cons call calls ih => exact ih _

/-- What every call keeps holds after every sequence of calls. -/
theorem after_of_step {object : Object Call Reply} (invariant : object.State → Prop)
    (kept : ∀ state call, invariant state → invariant (object.step state call).2)
    {state : object.State} (start : invariant state) (calls : List Call) :
    invariant (object.after state calls) := by
  induction calls generalizing state with
  | nil => exact start
  | cons call calls ih => exact ih (kept state call start)

theorem transcript_append (object : Object Call Reply) (state : object.State)
    (calls more : List Call) :
    object.transcript state (calls ++ more) =
      object.transcript state calls ++ object.transcript (object.after state calls) more := by
  induction calls generalizing state with
  | nil => rfl
  | cons call calls ih =>
      rw [List.cons_append, transcript, transcript, ih]
      rfl

/-- What every call keeps of the state and of the calls answered so far holds after every sequence of
    calls. -/
theorem transcript_of_step {object : Object Call Reply}
    (invariant : object.State → List (Call × Reply) → Prop)
    (kept : ∀ state past call, invariant state past →
      invariant (object.step state call).2 (past ++ [(call, (object.step state call).1)]))
    {state : object.State} {past : List (Call × Reply)} (start : invariant state past)
    (calls : List Call) :
    invariant (object.after state calls) (past ++ object.transcript state calls) := by
  induction calls generalizing state past with
  | nil =>
      rw [transcript, List.append_nil]
      exact start
  | cons call calls ih =>
      rw [transcript, List.append_cons]
      exact ih (kept state past call start)

/-- What every admitted call keeps of the state and of the calls answered so far holds after every admitted
    sequence of calls. -/
theorem transcript_keeps {object : Object Call Reply} {admitted : object.State → Call → Prop}
    (invariant : object.State → List (Call × Reply) → Prop)
    (kept : ∀ state past call, invariant state past → admitted state call →
      invariant (object.step state call).2 (past ++ [(call, (object.step state call).1)]))
    {state : object.State} {past : List (Call × Reply)} {calls : List Call} (start : invariant state past)
    (admits : object.Admits admitted state calls) :
    invariant (object.after state calls) (past ++ object.transcript state calls) := by
  induction calls generalizing state past with
  | nil =>
      rw [transcript, List.append_nil]
      exact start
  | cons call calls ih =>
      obtain ⟨first, rest⟩ := admits
      rw [transcript, List.append_cons]
      exact ih (kept state past call start first) rest

/-- Related states that stay related and answer alike give related replies to every admitted sequence
    of calls. -/
theorem replies_of_simulation {object : Object Call Reply} {other : Object Call Reply'}
    {admitted : object.State → Call → Prop} (related : object.State → other.State → Prop)
    (same : Reply → Reply' → Prop)
    (follows : ∀ state state' call, related state state' → admitted state call →
      same (object.step state call).1 (other.step state' call).1 ∧
        related (object.step state call).2 (other.step state' call).2)
    {state : object.State} {state' : other.State} {calls : List Call}
    (start : related state state') (admits : object.Admits admitted state calls) :
    List.Forall₂ same (object.replies state calls) (other.replies state' calls) := by
  induction calls generalizing state state' with
  | nil => exact .nil
  | cons call calls ih =>
      obtain ⟨first, rest⟩ := admits
      obtain ⟨answer, next⟩ := follows state state' call start first
      exact .cons answer (ih next rest)

end Object

end JumptotechLabs.Core
