/-
Module: JumptotechLabs.Core.Program
Layer: Core (library)
Purpose: Interaction programs with failures. A program is a finite tree of commands, each followed by
  a continuation on its answer or on the failure that was thrown instead. `Keeps` reads a program
  sequentially: given what its thread has done so far, every command it issues is allowed by a
  `Discipline`, whatever credible answers come back.
Main exports: Signature, Interaction, Prog, Discipline, Prog.Keeps, keeps_bind, keeps_perform, keeps_tryCatch,
  Keeps.mono, keeps_foldlM, Prog.Always, Always.bind, Always.tryCatch, Always.foldlM
-/
import Mathlib.Data.List.Basic

namespace JumptotechLabs.Core

/-- The commands a program may issue, and the type of each one's answer. -/
structure Signature where
  Cmd : Type
  Ans : Cmd → Type

/-- One finished command: what was asked, and the answer or failure that came back. -/
structure Interaction (S : Signature) (ε : Type) where
  command : S.Cmd
  answer : Except ε (S.Ans command)

/-- A program over `S` that may fail with `ε`. Between two commands nothing happens: a command is
    the only point at which other threads can run. -/
inductive Prog (S : Signature) (ε α : Type) where
  | ret (value : α)
  | fail (failure : ε)
  | call (command : S.Cmd) (resume : Except ε (S.Ans command) → Prog S ε α)

namespace Prog

variable {S : Signature} {ε α β γ : Type}

/-- Sequencing; a failure skips the rest. -/
def bind : Prog S ε α → (α → Prog S ε β) → Prog S ε β
  | .ret value, f => f value
  | .fail failure, _ => .fail failure
  | .call command resume, f => .call command fun answer => bind (resume answer) f

instance : Monad (Prog S ε) where
  pure := .ret
  bind := bind

/-- Hand a finished outcome on: its value, or its failure again. -/
def settle : Except ε α → Prog S ε α
  | .ok value => .ret value
  | .error failure => .fail failure

/-- Issue one command and continue with its answer. -/
def perform (command : S.Cmd) : Prog S ε (S.Ans command) :=
  .call command settle

/-- Run a program to its end and return how it ended. -/
def attempt : Prog S ε α → Prog S ε (Except ε α)
  | .ret value => .ret (.ok value)
  | .fail failure => .ret (.error failure)
  | .call command resume => .call command fun answer => attempt (resume answer)

instance : MonadExcept ε (Prog S ε) where
  throw := .fail
  tryCatch body handler := do
    match ← attempt body with
    | .ok value => .ret value
    | .error failure => handler failure

/-- `try body finally after`: `after` runs whichever way `body` ended. -/
def ensure (body : Prog S ε α) (after : Prog S ε β) : Prog S ε α := do
  let outcome ← attempt body
  let _ ← after
  settle outcome

end Prog

/-- What a thread may ask, given its own finished interactions (newest first), and which answers a
    command can get at all. -/
structure Discipline (S : Signature) (ε : Type) where
  issued : List (Interaction S ε) → S.Cmd → Prop
  answered : (command : S.Cmd) → Except ε (S.Ans command) → Prop

namespace Prog

variable {S : Signature} {ε α β : Type} {D : Discipline S ε}

/-- Started after the interactions `past`, the program only issues commands that `D` allows, and it
    ends in `post` of its outcome and of everything its thread has then done. -/
def Keeps (D : Discipline S ε) :
    Prog S ε α → List (Interaction S ε) →
      (Except ε α → List (Interaction S ε) → Prop) → Prop
  | .ret value, past, post => post (.ok value) past
  | .fail failure, past, post => post (.error failure) past
  | .call command resume, past, post =>
      D.issued past command ∧
        ∀ answer, D.answered command answer →
          Keeps D (resume answer) (⟨command, answer⟩ :: past) post

/-- How a postcondition continues through a sequencing: on success with the rest of the program. -/
def andThen (D : Discipline S ε) (f : α → Prog S ε β)
    (post : Except ε β → List (Interaction S ε) → Prop) :
    Except ε α → List (Interaction S ε) → Prop
  | .ok value, past => (f value).Keeps D past post
  | .error failure, past => post (.error failure) past

/-- How a postcondition continues through a handler: on failure with the handler. -/
def orElse (D : Discipline S ε) (handler : ε → Prog S ε α)
    (post : Except ε α → List (Interaction S ε) → Prop) :
    Except ε α → List (Interaction S ε) → Prop
  | .ok value, past => post (.ok value) past
  | .error failure, past => (handler failure).Keeps D past post

@[simp] theorem andThen_ok (f : α → Prog S ε β)
    (post : Except ε β → List (Interaction S ε) → Prop) (value : α)
    (past : List (Interaction S ε)) :
    andThen D f post (.ok value) past ↔ (f value).Keeps D past post := Iff.rfl

@[simp] theorem orElse_error (handler : ε → Prog S ε α)
    (post : Except ε α → List (Interaction S ε) → Prop) (failure : ε)
    (past : List (Interaction S ε)) :
    orElse D handler post (.error failure) past ↔ (handler failure).Keeps D past post := Iff.rfl

@[simp] theorem keeps_pure (value : α) (past : List (Interaction S ε))
    (post : Except ε α → List (Interaction S ε) → Prop) :
    (pure value : Prog S ε α).Keeps D past post ↔ post (.ok value) past := Iff.rfl

@[simp] theorem keeps_settle (outcome : Except ε α) (past : List (Interaction S ε))
    (post : Except ε α → List (Interaction S ε) → Prop) :
    (settle outcome : Prog S ε α).Keeps D past post ↔ post outcome past := by
  cases outcome <;> exact Iff.rfl

@[simp] theorem keeps_perform (command : S.Cmd) (past : List (Interaction S ε))
    (post : Except ε (S.Ans command) → List (Interaction S ε) → Prop) :
    (perform command : Prog S ε _).Keeps D past post ↔
      D.issued past command ∧
        ∀ answer, D.answered command answer → post answer (⟨command, answer⟩ :: past) := by
  simp [perform, Keeps]

@[simp] theorem keeps_bind (body : Prog S ε α) (f : α → Prog S ε β)
    (past : List (Interaction S ε)) (post : Except ε β → List (Interaction S ε) → Prop) :
    (body >>= f).Keeps D past post ↔ body.Keeps D past (andThen D f post) := by
  induction body generalizing past with
  | ret value => exact Iff.rfl
  | fail failure => exact Iff.rfl
  | call command resume ih =>
      refine and_congr_right fun _ => forall_congr' fun answer => ?_
      exact imp_congr_right fun _ => ih answer _

@[simp] theorem keeps_attempt (body : Prog S ε α) (past : List (Interaction S ε))
    (post : Except ε (Except ε α) → List (Interaction S ε) → Prop) :
    (attempt body).Keeps D past post ↔
      body.Keeps D past fun outcome after => post (.ok outcome) after := by
  induction body generalizing past with
  | ret value => exact Iff.rfl
  | fail failure => exact Iff.rfl
  | call command resume ih =>
      refine and_congr_right fun _ => forall_congr' fun answer => ?_
      exact imp_congr_right fun _ => ih answer _

/-- A larger postcondition is kept as well. -/
theorem Keeps.mono {body : Prog S ε α} {past : List (Interaction S ε)}
    {small large : Except ε α → List (Interaction S ε) → Prop}
    (kept : body.Keeps D past small)
    (weaker : ∀ outcome after, small outcome after → large outcome after) :
    body.Keeps D past large := by
  induction body generalizing past with
  | ret value => exact weaker _ _ kept
  | fail failure => exact weaker _ _ kept
  | call command resume ih =>
      exact ⟨kept.1, fun answer credible => ih answer (kept.2 answer credible)⟩

/-- A thread's history only grows. -/
theorem Keeps.grows {body : Prog S ε α} {past : List (Interaction S ε)}
    {post : Except ε α → List (Interaction S ε) → Prop} (kept : body.Keeps D past post) :
    body.Keeps D past fun outcome after => post outcome after ∧ past <:+ after := by
  induction body generalizing past with
  | ret value => exact ⟨kept, List.suffix_refl _⟩
  | fail failure => exact ⟨kept, List.suffix_refl _⟩
  | call command resume ih =>
      refine ⟨kept.1, fun answer credible => (ih answer (kept.2 answer credible)).mono ?_⟩
      rintro outcome after ⟨holds, later⟩
      exact ⟨holds, (List.suffix_cons _ _).trans later⟩

@[simp] theorem keeps_tryCatch (body : Prog S ε α) (handler : ε → Prog S ε α)
    (past : List (Interaction S ε)) (post : Except ε α → List (Interaction S ε) → Prop) :
    (MonadExcept.tryCatch body handler).Keeps D past post ↔
      body.Keeps D past (orElse D handler post) := by
  have unfolded :
      (MonadExcept.tryCatch body handler).Keeps D past post ↔
        body.Keeps D past fun outcome after =>
          (match outcome with
            | .ok value => (.ret value : Prog S ε α)
            | .error failure => handler failure).Keeps D after post := by
    change (attempt body >>= _).Keeps D past post ↔ _
    rw [keeps_bind, keeps_attempt]
    exact Iff.rfl
  rw [unfolded]
  refine ⟨fun kept => kept.mono ?_, fun kept => kept.mono ?_⟩
  all_goals
    intro outcome after holds
    cases outcome <;> exact holds

@[simp] theorem keeps_ensure (body : Prog S ε α) (after : Prog S ε β)
    (past : List (Interaction S ε)) (post : Except ε α → List (Interaction S ε) → Prop) :
    (ensure body after).Keeps D past post ↔
      body.Keeps D past fun outcome done =>
        after.Keeps D done (andThen D (fun _ => settle outcome) post) := by
  simp [ensure, andThen]

/-- An invariant of the interactions that every round keeps is kept by the whole loop. -/
theorem keeps_foldlM {σ : Type} {round : σ → β → Prog S ε σ} {items : List β}
    (invariant : List (Interaction S ε) → Prop)
    (kept : ∀ state, ∀ item ∈ items, ∀ past, invariant past →
      (round state item).Keeps D past fun _ after => invariant after)
    (state : σ) {past : List (Interaction S ε)} (start : invariant past) :
    (items.foldlM round state).Keeps D past fun _ after => invariant after := by
  induction items generalizing state past with
  | nil => exact start
  | cons item rest ih =>
      rw [List.foldlM_cons, keeps_bind]
      refine (kept state item List.mem_cons_self past start).mono ?_
      rintro (failure | next) after holds
      · exact holds
      · exact ih (fun state' item' member => kept state' item' (List.mem_cons_of_mem _ member))
          next holds

/-- What a program may ask under one discipline it may ask under another that allows as much from here
    on. -/
theorem Keeps.imply {D' : Discipline S ε} {body : Prog S ε α} {past : List (Interaction S ε)}
    {post : Except ε α → List (Interaction S ε) → Prop} (kept : body.Keeps D past post)
    (allows : ∀ later command, past <:+ later → D.issued later command → D'.issued later command)
    (credible : ∀ command answer, D'.answered command answer → D.answered command answer) :
    body.Keeps D' past post := by
  induction body generalizing past with
  | ret value => exact kept
  | fail failure => exact kept
  | call command resume ih =>
      constructor
      · exact allows past command (List.suffix_refl past) kept.1
      · intro answer isCredible
        apply ih answer (kept.2 answer (credible command answer isCredible))
        intro later command' further
        exact allows later command' ((List.suffix_cons _ _).trans further)

/-! ### Programs that keep a discipline whatever their thread did before -/

/-- The program issues only commands that `D` allows, after any history. -/
def Always (D : Discipline S ε) (body : Prog S ε α) : Prop :=
  ∀ past, body.Keeps D past fun _ _ => True

theorem Always.pure (value : α) : Always D (Pure.pure value : Prog S ε α) := fun _ => trivial

theorem Always.throw (failure : ε) : Always D (MonadExcept.throw failure : Prog S ε α) :=
  fun _ => trivial

theorem Always.settle (outcome : Except ε α) : Always D (settle outcome : Prog S ε α) := by
  intro past
  rw [keeps_settle]
  trivial

theorem Always.perform {command : S.Cmd} (allowed : ∀ past, D.issued past command) :
    Always D (perform command : Prog S ε _) := by
  intro past
  rw [keeps_perform]
  exact ⟨allowed past, fun _ _ => trivial⟩

/-- A discipline that allows everything is kept by every program. -/
theorem Always.free (allowed : ∀ past command, D.issued past command) (body : Prog S ε α) :
    Always D body := by
  induction body with
  | ret value => exact fun _ => trivial
  | fail failure => exact fun _ => trivial
  | call command resume ih => exact fun past => ⟨allowed past command, fun answer _ => ih answer _⟩

theorem Always.bind {body : Prog S ε α} {f : α → Prog S ε β} (first : Always D body)
    (next : ∀ value, Always D (f value)) : Always D (body >>= f) := by
  intro past
  rw [keeps_bind]
  apply (first past).mono
  intro outcome after _
  cases outcome with
  | error failure => trivial
  | ok value => exact next value after

theorem Always.attempt {body : Prog S ε α} (kept : Always D body) : Always D (attempt body) := by
  intro past
  rw [keeps_attempt]
  exact kept past

theorem Always.tryCatch {body : Prog S ε α} {handler : ε → Prog S ε α} (kept : Always D body)
    (handled : ∀ failure, Always D (handler failure)) :
    Always D (MonadExcept.tryCatch body handler) := by
  intro past
  rw [keeps_tryCatch]
  apply (kept past).mono
  intro outcome after _
  cases outcome with
  | error failure => exact handled failure after
  | ok value => trivial

theorem Always.ensure {body : Prog S ε α} {after : Prog S ε β} (kept : Always D body)
    (closed : Always D after) : Always D (ensure body after) :=
  kept.attempt.bind fun outcome => closed.bind fun _ => .settle outcome

theorem Always.foldlM {σ : Type} {round : σ → β → Prog S ε σ} {items : List β}
    (kept : ∀ state, ∀ item ∈ items, Always D (round state item)) (state : σ) :
    Always D (items.foldlM round state) := by
  intro past
  exact keeps_foldlM (fun _ => True) (fun state item member past _ => kept state item member past)
    state trivial

end Prog

end JumptotechLabs.Core
