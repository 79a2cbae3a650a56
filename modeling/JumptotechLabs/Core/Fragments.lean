/-
Module: JumptotechLabs.Core.Fragments
Layer: Core (library)
Purpose: Where a fragment of a sequence can lie. A fragment without a separator lies on one side of every
  separator; a fragment of two joined sequences starts in the first or lies in the second; and writing
  enclosed marks over parts of a sequence makes no fragment appear that was not there.
Main exports: infix_append_cons_iff, infix_intercalate_iff, infix_append_iff, Rewritten, Apart,
  Rewritten.infix_before, replaceMatches, rewritten_replaceMatches, replaceLiteral,
  not_infix_replaceLiteral
-/
import Mathlib.Data.List.Infix

namespace JumptotechLabs.Core

variable {α : Type}

/-! ### Separators -/

theorem isPrefix_append_cons_iff {fragment left right : List α} {separator : α}
    (absent : separator ∉ fragment) :
    fragment <+: left ++ separator :: right ↔ fragment <+: left := by
  induction left generalizing fragment with
  | nil =>
      cases fragment with
      | nil => simp
      | cons unit fragment =>
          simp only [List.nil_append, List.cons_prefix_cons, List.prefix_nil, reduceCtorEq,
            iff_false, not_and]
          intro same
          exact absurd (same ▸ List.mem_cons_self) absent
  | cons unit left ih =>
      cases fragment with
      | nil => simp
      | cons first fragment =>
          simp only [List.cons_append, List.cons_prefix_cons]
          rw [ih fun inside => absent (List.mem_cons_of_mem _ inside)]

/-- A fragment without the separator lies on one side of it. -/
theorem infix_append_cons_iff {fragment left right : List α} {separator : α}
    (absent : separator ∉ fragment) (nonempty : fragment ≠ []) :
    fragment <:+: left ++ separator :: right ↔ fragment <:+: left ∨ fragment <:+: right := by
  induction left with
  | nil =>
      have apart : ¬ fragment <+: separator :: right := by
        intro starts
        have none : fragment <+: [] := (isPrefix_append_cons_iff absent).mp starts
        exact nonempty (List.prefix_nil.mp none)
      simp [List.infix_cons_iff, apart, nonempty]
  | cons unit left ih =>
      rw [List.cons_append, List.infix_cons_iff, List.infix_cons_iff, ih, ← List.cons_append,
        isPrefix_append_cons_iff absent, or_assoc]

/-- A fragment without the separator lies in one of the pieces the separator joins. -/
theorem infix_intercalate_iff {fragment : List α} {separator : α} (pieces : List (List α))
    (absent : separator ∉ fragment) (nonempty : fragment ≠ []) :
    fragment <:+: [separator].intercalate pieces ↔ ∃ piece ∈ pieces, fragment <:+: piece := by
  induction pieces with
  | nil => simp [List.intercalate, nonempty]
  | cons piece pieces ih =>
      cases pieces with
      | nil => simp [List.intercalate]
      | cons next pieces =>
          have joined : [separator].intercalate (piece :: next :: pieces) =
              piece ++ separator :: [separator].intercalate (next :: pieces) := by
            simp [List.intercalate]
          rw [joined, infix_append_cons_iff absent nonempty, ih,
            List.exists_mem_cons_iff (a := piece)]

/-- A fragment of two joined sequences starts in the first or lies in the second. -/
theorem infix_append_iff {fragment left right : List α} :
    fragment <:+: left ++ right ↔
      (∃ tail ∈ left.tails, tail ≠ [] ∧ fragment <+: tail ++ right) ∨ fragment <:+: right := by
  induction left with
  | nil => simp
  | cons unit left ih =>
      rw [List.cons_append, List.infix_cons_iff, ih, ← or_assoc]
      simp

/-! ### Marks written over parts of a sequence -/

/-- The first sequence, with the mark in place of some of its parts, is the second. -/
inductive Rewritten (mark : List α) : List α → List α → Prop
  | nil : Rewritten mark [] []
  | keep (unit : α) {before after : List α} (rest : Rewritten mark before after) :
      Rewritten mark (unit :: before) (unit :: after)
  | write (replaced : List α) {before after : List α} (rest : Rewritten mark before after) :
      Rewritten mark (replaced ++ before) (mark ++ after)

/-- The mark stands between two units that the fragment does not have, and does not hold the fragment. -/
structure Apart (fragment mark : List α) : Prop where
  nonempty : fragment ≠ []
  enclosed : ∃ opening body closing, mark = opening :: (body ++ [closing]) ∧
    opening ∉ fragment ∧ closing ∉ fragment
  absent : ¬ fragment <:+: mark

namespace Apart

variable {fragment mark : List α}

theorem infix_append_iff (apart : Apart fragment mark) (left right : List α) :
    fragment <:+: left ++ (mark ++ right) ↔ fragment <:+: left ∨ fragment <:+: right := by
  obtain ⟨opening, body, closing, rfl, opens, closes⟩ := apart.enclosed
  have inside : ¬ fragment <:+: body := by
    intro held
    have grown : body <:+: opening :: (body ++ [closing]) :=
      (List.infix_append [] body [closing]).trans (List.suffix_cons _ _).isInfix
    exact apart.absent (held.trans grown)
  rw [List.cons_append, List.append_assoc, infix_append_cons_iff opens apart.nonempty,
    List.singleton_append, infix_append_cons_iff closes apart.nonempty]
  simp [inside]

end Apart

namespace Rewritten

variable {fragment mark before after : List α}

/-- What starts the rewritten sequence started the sequence. -/
theorem isPrefix_before (rewritten : Rewritten mark before after) (apart : Apart fragment mark)
    {shorter : List α} (part : shorter <:+ fragment) (starts : shorter <+: after) :
    shorter <+: before := by
  induction rewritten generalizing shorter with
  | nil => exact starts
  | keep unit rest ih =>
      cases shorter with
      | nil => exact List.nil_prefix
      | cons first shorter =>
          rw [List.cons_prefix_cons] at starts ⊢
          exact ⟨starts.1, ih ((List.suffix_cons _ _).trans part) starts.2⟩
  | write replaced rest ih =>
      obtain ⟨opening, body, closing, rfl, opens, -⟩ := apart.enclosed
      have none : shorter <+: ([] : List α) :=
        (isPrefix_append_cons_iff fun inside => opens (part.subset inside)).mp starts
      rw [List.prefix_nil.mp none]
      exact List.nil_prefix

/-- What lies in the rewritten sequence lay in the sequence. -/
theorem infix_before (rewritten : Rewritten mark before after) (apart : Apart fragment mark)
    (held : fragment <:+: after) : fragment <:+: before := by
  induction rewritten with
  | nil => exact held
  | keep unit rest ih =>
      rw [List.infix_cons_iff] at held ⊢
      rcases held with starts | inside
      · exact .inl ((Rewritten.keep unit rest).isPrefix_before apart (List.suffix_refl _) starts)
      · exact .inr (ih inside)
  | write replaced rest ih =>
      rcases (apart.infix_append_iff [] _).mp held with empty | inside
      · exact absurd (List.infix_nil.mp empty) apart.nonempty
      · exact (ih inside).trans (List.suffix_append _ _).isInfix

end Rewritten

/-! ### Replacing every match -/

/-- A text with the mark in place of its matches from the left. `found` says how long a match is that
    starts here, after the unit before; `skip` counts the units left of the last match. -/
def replaceMatches (found : Option α → List α → Option Nat) (mark : List α) :
    Nat → Option α → List α → List α
  | 0, previous, [] => if (found previous []).isSome then mark else []
  | _ + 1, _, [] => []
  | skip + 1, _, unit :: rest => replaceMatches found mark skip (some unit) rest
  | 0, previous, unit :: rest =>
      match found previous (unit :: rest) with
      | none => unit :: replaceMatches found mark 0 (some unit) rest
      | some 0 => mark ++ unit :: replaceMatches found mark 0 (some unit) rest
      | some (length + 1) => mark ++ replaceMatches found mark length (some unit) rest

theorem rewritten_replaceMatches (found : Option α → List α → Option Nat) (mark : List α) :
    ∀ (text : List α) (skip : Nat) (previous : Option α),
      Rewritten mark (text.drop skip) (replaceMatches found mark skip previous text)
  | [], 0, previous => by
      rw [replaceMatches]
      split
      · have written : Rewritten mark ([] ++ []) (mark ++ []) := .write [] .nil
        simpa using written
      · exact .nil
  | [], skip + 1, previous => .nil
  | unit :: rest, skip + 1, previous => by
      rw [replaceMatches]
      exact rewritten_replaceMatches found mark rest skip (some unit)
  | unit :: rest, 0, previous => by
      rw [replaceMatches, List.drop_zero]
      split
      · exact .keep unit (rewritten_replaceMatches found mark rest 0 (some unit))
      · exact .write [] (.keep unit (rewritten_replaceMatches found mark rest 0 (some unit)))
      · rename_i length _
        have replaced := Rewritten.write (unit :: rest.take length)
          (rewritten_replaceMatches found mark rest length (some unit))
        simpa using replaced

/-- A literal, found wherever the text goes on with it. -/
def literalLength [DecidableEq α] (literal : List α) (_previous : Option α) (text : List α) :
    Option Nat :=
  if literal.isPrefixOf text then some literal.length else none

/-- `text.split(literal).join(mark)`, for a literal that is not empty. -/
def replaceLiteral [DecidableEq α] (literal mark text : List α) : List α :=
  replaceMatches (literalLength literal) mark 0 none text

section Literal

variable [DecidableEq α] {literal mark : List α}

theorem rewritten_replaceLiteral (literal mark text : List α) :
    Rewritten mark text (replaceLiteral literal mark text) :=
  rewritten_replaceMatches (literalLength literal) mark text 0 none

theorem not_infix_replaceMatches (apart : Apart literal mark) :
    ∀ (text : List α) (skip : Nat) (previous : Option α),
      ¬ literal <:+: replaceMatches (literalLength literal) mark skip previous text
  | [], 0, previous => by
      have nothing : literalLength literal previous [] = none := by
        simp [literalLength, apart.nonempty]
      simp [replaceMatches, nothing, apart.nonempty]
  | [], skip + 1, previous => by simp [replaceMatches, apart.nonempty]
  | unit :: rest, skip + 1, previous => by
      rw [replaceMatches]
      exact not_infix_replaceMatches apart rest skip (some unit)
  | unit :: rest, 0, previous => by
      rw [replaceMatches]
      have later := fun skip => not_infix_replaceMatches apart rest skip (some unit)
      have here := Rewritten.keep unit
        (rewritten_replaceMatches (literalLength literal) mark rest 0 (some unit))
      by_cases starts : literal <+: unit :: rest
      · -- The match is replaced, and what follows it is searched from its end.
        obtain ⟨length, long⟩ : ∃ length, literal.length = length + 1 :=
          Nat.exists_eq_succ_of_ne_zero (by simpa using apart.nonempty)
        have found : literalLength literal previous (unit :: rest) = some (length + 1) := by
          simp [literalLength, starts, long]
        rw [found]
        intro held
        rcases (apart.infix_append_iff [] _).mp held with empty | inside
        · exact apart.nonempty (List.infix_nil.mp empty)
        · exact later length inside
      · have noMatch : literalLength literal previous (unit :: rest) = none := by
          simp [literalLength, starts]
        rw [noMatch]
        intro held
        rcases List.infix_cons_iff.mp held with whole | inside
        · exact starts (here.isPrefix_before apart (List.suffix_refl _) whole)
        · exact later 0 inside

/-- A literal that was replaced is nowhere in the text. -/
theorem not_infix_replaceLiteral (apart : Apart literal mark) (text : List α) :
    ¬ literal <:+: replaceLiteral literal mark text :=
  not_infix_replaceMatches apart text 0 none

end Literal

end JumptotechLabs.Core
