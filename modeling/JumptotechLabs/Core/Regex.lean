/-
Module: JumptotechLabs.Core.Regex
Layer: Core (library)
Purpose: Regular expressions as a backtracking matcher runs them: alternatives from the left, greedy and
  lazy repetition, word boundaries and negative lookahead. The matcher goes on with a continuation and
  backs up where the continuation fails.
Main exports: Cursor, Regex, Regex.run, Regex.matchLength, Regex.replaceAll, Regex.rewritten_replaceAll
-/
import JumptotechLabs.Core.Fragments

namespace JumptotechLabs.Core

variable {α : Type}

/-- Where a match has come to: the unit before, and the units ahead. -/
structure Cursor (α : Type) where
  previous : Option α
  ahead : List α

inductive Regex (α : Type) where
  | empty
  /-- One unit of a class. -/
  | one (holds : α → Bool)
  | seq (first second : Regex α)
  | alt (first second : Regex α)
  /-- `{least,most}`, or `{least,}` without a bound; a lazy one first tries to stop. -/
  | repeated (least : Nat) (most : Option Nat) (greedy : Bool) (body : Regex α)
  /-- `\b`, for the given word units. -/
  | boundary (word : α → Bool)
  /-- `(?!…)`. -/
  | notAhead (body : Regex α)

/-- A matcher goes on with a continuation, from a cursor to the cursor where the match ends. -/
abbrev Matcher (α : Type) := (Cursor α → Option (Cursor α)) → Cursor α → Option (Cursor α)

/-- The repetitions of a matcher. Past the least number, a repetition that takes no unit fails. -/
def repeats (body : Matcher α) (greedy : Bool) (next : Cursor α → Option (Cursor α)) :
    Nat → Nat → Option Nat → Cursor α → Option (Cursor α)
  | 0, _, _, cursor => next cursor
  | fuel + 1, least + 1, most, cursor =>
      body (repeats body greedy next fuel least (most.map (· - 1))) cursor
  | fuel + 1, 0, most, cursor =>
      if most = some 0 then next cursor
      else
        let again := fun _ : Unit => body (fun reached =>
          if reached.ahead.length = cursor.ahead.length then none
          else repeats body greedy next fuel 0 (most.map (· - 1)) reached) cursor
        if greedy then (again ()).orElse fun _ => next cursor
        else (next cursor).orElse again

namespace Regex

def run : Regex α → Matcher α
  | .empty => fun next cursor => next cursor
  | .one holds => fun next cursor =>
      match cursor.ahead with
      | [] => none
      | unit :: rest => if holds unit then next ⟨some unit, rest⟩ else none
  | .seq first second => fun next cursor => first.run (second.run next) cursor
  | .alt first second => fun next cursor =>
      (first.run next cursor).orElse fun _ => second.run next cursor
  | .repeated least most greedy body => fun next cursor =>
      -- Past the least number each repetition takes a unit, so there are no more than that.
      repeats body.run greedy next (least + cursor.ahead.length + 1) least most cursor
  | .boundary word => fun next cursor =>
      if cursor.previous.any word != cursor.ahead.head?.any word then next cursor else none
  | .notAhead body => fun next cursor =>
      if (body.run some cursor).isSome then none else next cursor

/-- How many units the match takes that starts here, if there is one. -/
def matchLength (regex : Regex α) (previous : Option α) (text : List α) : Option Nat :=
  (regex.run some ⟨previous, text⟩).map fun reached => text.length - reached.ahead.length

/-- `text.replace(regex, mark)`, for a global expression. -/
def replaceAll (regex : Regex α) (mark text : List α) : List α :=
  replaceMatches regex.matchLength mark 0 none text

theorem rewritten_replaceAll (regex : Regex α) (mark text : List α) :
    Rewritten mark text (regex.replaceAll mark text) :=
  rewritten_replaceMatches regex.matchLength mark text 0 none

/-! ### How expressions are written -/

/-- One expression after the other. -/
def chain : List (Regex α) → Regex α
  | [] => .empty
  | [only] => only
  | first :: rest => .seq first (chain rest)

/-- `(?:first|second|…)`. -/
def oneOf : List (Regex α) → Regex α
  | [] => .one fun _ => false
  | [only] => only
  | first :: rest => .alt first (oneOf rest)

/-- `body{least,}`. -/
def atLeast (least : Nat) (body : Regex α) : Regex α := .repeated least none true body

/-- `body{least,most}`. -/
def between (least most : Nat) (body : Regex α) : Regex α := .repeated least (some most) true body

/-- `body?`. -/
def optional (body : Regex α) : Regex α := between 0 1 body

end Regex

end JumptotechLabs.Core
