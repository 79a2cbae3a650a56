/-
Module: JumptotechLabs.Core.Comments
Layer: Core (library)
Purpose: Readers of a text that find comments in it, each up to the end of its line. Two readers leave the same text
  exactly if they find every comment at the same place.
Main exports: CommentReader, CommentReader.strip, CommentReader.BeginsAt, CommentReader.strip_append,
  CommentReader.strip_eq_strip_iff, CommentReader.places_agree
-/
import Mathlib.Data.List.Basic

namespace JumptotechLabs.Core

/-- A reader: where it starts, what begins a comment, and where it goes on behind a unit and behind a comment. No line
    feed begins a comment. -/
structure CommentReader (α σ : Type) where
  newline : α
  start : σ
  begins : σ → α → Bool
  next : σ → α → σ
  resumed : σ
  newline_stays : ∀ state, begins state newline = false

namespace CommentReader

variable {α σ τ : Type} [DecidableEq α]

/-- Behind one more unit; within a comment there is no state. -/
def step (reader : CommentReader α σ) : Option σ → α → Option σ
  | none, unit => if unit = reader.newline then some reader.resumed else none
  | some state, unit => if reader.begins state unit then none else some (reader.next state unit)

def keeps (reader : CommentReader α σ) : Option σ → α → Bool
  | none, unit => unit = reader.newline
  | some state, unit => !reader.begins state unit

/-- The text without its comments. -/
def strip (reader : CommentReader α σ) : Option σ → List α → List α
  | _, [] => []
  | state, unit :: rest =>
      if reader.keeps state unit then unit :: reader.strip (reader.step state unit) rest
      else reader.strip (reader.step state unit) rest

/-- Where the reader has come to. -/
def after (reader : CommentReader α σ) (state : Option σ) (before : List α) : Option σ := before.foldl reader.step state

/-- The unit behind a text begins a comment. -/
def BeginsAt (reader : CommentReader α σ) (state : Option σ) (before : List α) (unit : α) : Prop :=
  ∃ reached, reader.after state before = some reached ∧ reader.begins reached unit = true

variable {one : CommentReader α σ} {other : CommentReader α τ}

@[simp] theorem beginsAt_nil {state : σ} {unit : α} :
    one.BeginsAt (some state) [] unit ↔ one.begins state unit = true := by
  constructor
  · rintro ⟨reached, same, begins⟩
    cases same
    exact begins
  · exact fun begins => ⟨state, rfl, begins⟩

@[simp] theorem beginsAt_cons {state : Option σ} {first unit : α} {before : List α} :
    one.BeginsAt state (first :: before) unit ↔ one.BeginsAt (one.step state first) before unit := Iff.rfl

theorem not_beginsAt_none {unit : α} : ¬ one.BeginsAt none [] unit := by
  rintro ⟨reached, impossible, _⟩
  cases impossible

/-- Behind a comment nothing is left but from the end of its line on. -/
theorem head?_strip_none (text : List α) : ∀ unit ∈ (one.strip none text).head?, unit = one.newline := by
  induction text with
  | nil => exact fun unit impossible => nomatch impossible
  | cons first rest ih =>
      intro unit member
      by_cases ends : first = one.newline
      · have kept : one.keeps none first = true := decide_eq_true ends
        rw [strip, if_pos kept, List.head?_cons, Option.mem_some_iff] at member
        exact member ▸ ends
      · have dropped : one.keeps none first = false := decide_eq_false ends
        rw [strip, dropped, step, if_neg ends] at member
        exact ih unit member

omit [DecidableEq α] in
/-- What holds at every place of a text holds at its head and at every place behind it. -/
theorem forall_places_cons {holds : List α → α → Prop} {first : α} {rest : List α} :
    (∀ before unit behind, first :: rest = before ++ unit :: behind → holds before unit) ↔
      holds [] first ∧ ∀ before unit behind, rest = before ++ unit :: behind → holds (first :: before) unit := by
  constructor
  · intro all
    exact ⟨all [] first rest rfl, fun before unit behind same => all (first :: before) unit behind (same ▸ rfl)⟩
  · rintro ⟨here, behind⟩ before unit tail same
    cases before with
    | nil =>
        cases same
        exact here
    | cons head before =>
        rw [List.cons_append, List.cons.injEq] at same
        obtain ⟨rfl, same⟩ := same
        exact behind before unit tail same

/-- A text in which no comment begins is left as it is. -/
theorem strip_append {text : List α} {state : σ}
    (stays : ∀ before unit behind, text = before ++ unit :: behind → ¬ one.BeginsAt (some state) before unit) :
    ∃ reached, ∀ rest, one.strip (some state) (text ++ rest) = text ++ one.strip (some reached) rest := by
  induction text generalizing state with
  | nil => exact ⟨state, fun rest => rfl⟩
  | cons first text ih =>
      obtain ⟨here, behind⟩ := forall_places_cons.mp stays
      have kept : one.begins state first = false := by
        rw [beginsAt_nil] at here
        exact Bool.eq_false_iff.mpr here
      have next : one.step (some state) first = some (one.next state first) := if_neg (by rw [kept]; decide)
      have staysBehind : ∀ before unit rest, text = before ++ unit :: rest →
          ¬ one.BeginsAt (some (one.next state first)) before unit := by
        intro before unit rest isPlace
        rw [← next, ← beginsAt_cons]
        exact behind before unit rest isPlace
      obtain ⟨reached, same⟩ := ih staysBehind
      refine ⟨reached, fun rest => ?_⟩
      rw [List.cons_append, strip, keeps, kept, next, Bool.not_false, if_pos rfl, same]
      rfl

/-- Both readers are in a comment, or neither is. -/
def Together : Option σ → Option τ → Prop
  | none, none => True
  | some _, some _ => True
  | _, _ => False

/-- By induction on the text, the readers being in a comment together. -/
theorem strip_eq_strip_iff (same : one.newline = other.newline) (text : List α) {state : Option σ} {state' : Option τ}
    (together : Together state state') :
    one.strip state text = other.strip state' text ↔
      ∀ before unit behind, text = before ++ unit :: behind →
        (one.BeginsAt state before unit ↔ other.BeginsAt state' before unit) := by
  induction text generalizing state state' with
  | nil =>
      refine ⟨fun _ before unit behind impossible => ?_, fun _ => rfl⟩
      cases before <;> cases impossible
  | cons first rest ih =>
      rw [forall_places_cons, strip, strip]
      simp only [beginsAt_cons]
      match state, state', together with
      | none, none, _ =>
          have here : one.BeginsAt none [] first ↔ other.BeginsAt none [] first :=
            iff_of_false not_beginsAt_none not_beginsAt_none
          by_cases ends : first = one.newline
          · have ends' : first = other.newline := same ▸ ends
            have next : Together (one.step none first) (other.step none first) := by
              rw [step, step, if_pos ends, if_pos ends']
              exact trivial
            rw [keeps, keeps, if_pos (decide_eq_true ends), if_pos (decide_eq_true ends'), List.cons.injEq, ih next]
            exact ⟨fun both => ⟨here, both.2⟩, fun both => ⟨rfl, both.2⟩⟩
          · have ends' : first ≠ other.newline := same ▸ ends
            have next : Together (one.step none first) (other.step none first) := by
              rw [step, step, if_neg ends, if_neg ends']
              exact trivial
            rw [keeps, keeps, decide_eq_false ends, decide_eq_false ends', if_neg (by decide), if_neg (by decide), ih next]
            exact ⟨fun all => ⟨here, all⟩, fun both => both.2⟩
      | some state, some state', _ =>
          rw [beginsAt_nil, beginsAt_nil, keeps, keeps]
          cases begins : one.begins state first <;> cases begins' : other.begins state' first
          · have next : Together (one.step (some state) first) (other.step (some state') first) := by
              rw [step, step, begins, begins']
              exact trivial
            rw [Bool.not_false, if_pos rfl, if_pos rfl, List.cons.injEq, ih next]
            exact ⟨fun both => ⟨Iff.rfl, both.2⟩, fun both => ⟨rfl, both.2⟩⟩
          · refine iff_of_false (fun equal => ?_) fun both => ?_
            · have isHead : first ∈ (other.strip (other.step (some state') first) rest).head? := by
                rw [Bool.not_true, Bool.not_false, if_pos rfl, if_neg (by decide)] at equal
                rw [← equal]
                rfl
              rw [step, begins', if_pos rfl] at isHead
              have ends := head?_strip_none rest first isHead
              rw [ends, other.newline_stays] at begins'
              cases begins'
            · exact absurd (both.1.mpr rfl) (by decide)
          · refine iff_of_false (fun equal => ?_) fun both => ?_
            · have isHead : first ∈ (one.strip (one.step (some state) first) rest).head? := by
                rw [Bool.not_true, Bool.not_false, if_pos rfl, if_neg (by decide)] at equal
                rw [equal]
                rfl
              rw [step, begins, if_pos rfl] at isHead
              have ends := head?_strip_none rest first isHead
              rw [ends, one.newline_stays] at begins
              cases begins
            · exact absurd (both.1.mp rfl) (by decide)
          · have next : Together (one.step (some state) first) (other.step (some state') first) := by
              rw [step, step, begins, begins']
              exact trivial
            rw [Bool.not_true, if_neg (by decide), if_neg (by decide), ih next]
            exact ⟨fun all => ⟨Iff.rfl, all⟩, fun both => both.2⟩

theorem together_step (same : one.newline = other.newline) {state : Option σ} {state' : Option τ} {unit : α}
    (together : Together state state') (agree : one.BeginsAt state [] unit ↔ other.BeginsAt state' [] unit) :
    Together (one.step state unit) (other.step state' unit) := by
  match state, state', together with
  | none, none, _ =>
      rw [step, step, same]
      split <;> exact trivial
  | some state, some state', _ =>
      rw [beginsAt_nil, beginsAt_nil] at agree
      rw [step, step]
      cases begins : one.begins state unit with
      | true =>
          rw [agree.mp begins]
          exact trivial
      | false =>
          have stays : other.begins state' unit = false := by
            cases begins' : other.begins state' unit with
            | false => rfl
            | true => exact absurd (agree.mpr begins') (by rw [begins]; decide)
          rw [stays]
          exact trivial

/-- Readers that find every comment at the same place are in a comment together. -/
theorem together_after (same : one.newline = other.newline) {before : List α} {state : Option σ} {state' : Option τ}
    (together : Together state state')
    (agree : ∀ front unit behind, before = front ++ unit :: behind →
      (one.BeginsAt state front unit ↔ other.BeginsAt state' front unit)) :
    Together (one.after state before) (other.after state' before) := by
  induction before generalizing state state' with
  | nil => exact together
  | cons first rest ih =>
      obtain ⟨here, further⟩ := forall_places_cons.mp agree
      exact ih (together_step same together here) further

/-- It suffices to agree where both readers are in a comment or neither is. -/
theorem places_agree (same : one.newline = other.newline) {text : List α} {state : Option σ} {state' : Option τ}
    (together : Together state state')
    (agree : ∀ before unit behind, text = before ++ unit :: behind →
      Together (one.after state before) (other.after state' before) →
        (one.BeginsAt state before unit ↔ other.BeginsAt state' before unit)) :
    ∀ before unit behind, text = before ++ unit :: behind →
      (one.BeginsAt state before unit ↔ other.BeginsAt state' before unit) := by
  induction text generalizing state state' with
  | nil =>
      intro before unit behind impossible
      cases before <;> cases impossible
  | cons first rest ih =>
      have here := agree [] first rest rfl together
      exact forall_places_cons.mpr ⟨here, ih (together_step same together here) fun before unit behind isPlace =>
        agree (first :: before) unit behind (isPlace ▸ rfl)⟩

end CommentReader

end JumptotechLabs.Core
