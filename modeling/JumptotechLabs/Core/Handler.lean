/-
Module: JumptotechLabs.Core.Handler
Layer: Core (library)
Purpose: Programs run alone against a state: a handler answers each command and moves the state on.
  `Ensures` reads a program forwards under what is known of its commands, so that what a program does is
  found command by command; it holds of every handler that behaves as is known.
Main exports: Handler, Prog.run, Effects, Prog.Ensures, ensures_bind, ensures_perform, ensures_tryCatch,
  Ensures.of_invariant, Ensures.run, Ends, ensures_iff_ends, serve, ensures_serve
-/
import JumptotechLabs.Core.Program

namespace JumptotechLabs.Core

/-- What answers commands: from each state, the answer or failure of a command and the next state. -/
abbrev Handler (S : Signature) (ε σ : Type) : Type :=
  σ → (command : S.Cmd) → Except ε (S.Ans command) × σ

/-- What is known of each command: which answers and next states it can have. -/
abbrev Effects (S : Signature) (ε σ : Type) : Type :=
  (command : S.Cmd) → σ → Except ε (S.Ans command) → σ → Prop

/-- What a handler does is all that is known of its commands. -/
def Handler.effects {S : Signature} {ε σ : Type} (handler : Handler S ε σ) : Effects S ε σ :=
  fun command state answer next => (answer, next) = handler state command

namespace Prog

variable {S : Signature} {ε α β σ : Type}

/-- Run a program to its end. -/
def run (handler : Handler S ε σ) : Prog S ε α → σ → Except ε α × σ
  | .ret value, state => (.ok value, state)
  | .fail failure, state => (.error failure, state)
  | .call command resume, state =>
      run handler (resume (handler state command).1) (handler state command).2

/-- Run from a state, under what is known of the commands, the program ends in `post` of its outcome and
    of the state then. -/
def Ensures (effects : Effects S ε σ) : Prog S ε α → σ → (Except ε α → σ → Prop) → Prop
  | .ret value, state, post => post (.ok value) state
  | .fail failure, state, post => post (.error failure) state
  | .call command resume, state, post =>
      ∀ answer next, effects command state answer next → Ensures effects (resume answer) next post

/-- How a postcondition continues through a sequencing. -/
def thenEnsures (effects : Effects S ε σ) (f : α → Prog S ε β) (post : Except ε β → σ → Prop) :
    Except ε α → σ → Prop
  | .ok value, state => (f value).Ensures effects state post
  | .error failure, state => post (.error failure) state

variable {effects : Effects S ε σ} {state : σ}

@[simp] theorem thenEnsures_ok (f : α → Prog S ε β) (post : Except ε β → σ → Prop) (value : α) :
    thenEnsures effects f post (.ok value) state ↔ (f value).Ensures effects state post := Iff.rfl

@[simp] theorem thenEnsures_error (f : α → Prog S ε β) (post : Except ε β → σ → Prop)
    (failure : ε) :
    thenEnsures effects f post (.error failure) state ↔ post (.error failure) state := Iff.rfl

@[simp] theorem ensures_pure (value : α) (post : Except ε α → σ → Prop) :
    (pure value : Prog S ε α).Ensures effects state post ↔ post (.ok value) state := Iff.rfl

@[simp] theorem ensures_throw (failure : ε) (post : Except ε α → σ → Prop) :
    (MonadExcept.throw failure : Prog S ε α).Ensures effects state post ↔
      post (.error failure) state := Iff.rfl

@[simp] theorem ensures_settle (outcome : Except ε α) (post : Except ε α → σ → Prop) :
    (settle outcome : Prog S ε α).Ensures effects state post ↔ post outcome state := by
  cases outcome with
  | ok value => exact Iff.rfl
  | error failure => exact Iff.rfl

@[simp] theorem ensures_perform (command : S.Cmd) (post : Except ε (S.Ans command) → σ → Prop) :
    (perform command : Prog S ε _).Ensures effects state post ↔
      ∀ answer next, effects command state answer next → post answer next := by
  simp [perform, Ensures]

@[simp] theorem ensures_bind (body : Prog S ε α) (f : α → Prog S ε β)
    (post : Except ε β → σ → Prop) :
    (body >>= f).Ensures effects state post ↔
      body.Ensures effects state (thenEnsures effects f post) := by
  induction body generalizing state with
  | ret value => exact Iff.rfl
  | fail failure => exact Iff.rfl
  | call command resume ih =>
      apply forall_congr'
      intro answer
      apply forall_congr'
      intro next
      apply imp_congr_right
      intro _
      exact ih answer

@[simp] theorem ensures_attempt (body : Prog S ε α) (post : Except ε (Except ε α) → σ → Prop) :
    (attempt body).Ensures effects state post ↔
      body.Ensures effects state fun outcome after => post (.ok outcome) after := by
  induction body generalizing state with
  | ret value => exact Iff.rfl
  | fail failure => exact Iff.rfl
  | call command resume ih =>
      apply forall_congr'
      intro answer
      apply forall_congr'
      intro next
      apply imp_congr_right
      intro _
      exact ih answer

/-- A larger postcondition is ensured as well. -/
theorem Ensures.mono {body : Prog S ε α} {small large : Except ε α → σ → Prop}
    (ensures : body.Ensures effects state small)
    (weaker : ∀ outcome after, small outcome after → large outcome after) :
    body.Ensures effects state large := by
  induction body generalizing state with
  | ret value => exact weaker _ _ ensures
  | fail failure => exact weaker _ _ ensures
  | call command resume ih =>
      intro answer next known
      exact ih answer (ensures answer next known)

/-- How a postcondition continues through a handler of failures. -/
def orEnsures (effects : Effects S ε σ) (handler : ε → Prog S ε α) (post : Except ε α → σ → Prop) :
    Except ε α → σ → Prop
  | .ok value, state => post (.ok value) state
  | .error failure, state => (handler failure).Ensures effects state post

@[simp] theorem orEnsures_ok (handler : ε → Prog S ε α) (post : Except ε α → σ → Prop) (value : α) :
    orEnsures effects handler post (.ok value) state ↔ post (.ok value) state := Iff.rfl

@[simp] theorem orEnsures_error (handler : ε → Prog S ε α) (post : Except ε α → σ → Prop)
    (failure : ε) :
    orEnsures effects handler post (.error failure) state ↔
      (handler failure).Ensures effects state post := Iff.rfl

@[simp] theorem ensures_tryCatch (body : Prog S ε α) (handler : ε → Prog S ε α)
    (post : Except ε α → σ → Prop) :
    (MonadExcept.tryCatch body handler).Ensures effects state post ↔
      body.Ensures effects state (orEnsures effects handler post) := by
  change (attempt body >>= _).Ensures effects state post ↔ _
  rw [ensures_bind, ensures_attempt]
  constructor
  all_goals
    intro ensures
    apply ensures.mono
    intro outcome after holds
    cases outcome with
    | ok value => exact holds
    | error failure => exact holds

/-- Two postconditions that are ensured are ensured together. -/
theorem Ensures.both {body : Prog S ε α} {one other : Except ε α → σ → Prop} (first : body.Ensures effects state one)
    (second : body.Ensures effects state other) :
    body.Ensures effects state fun outcome last => one outcome last ∧ other outcome last := by
  induction body generalizing state with
  | ret value => exact ⟨first, second⟩
  | fail failure => exact ⟨first, second⟩
  | call command resume ih =>
      intro answer next isEffect
      exact ih answer (first answer next isEffect) (second answer next isEffect)

/-- What every command keeps is kept by every program. -/
theorem Ensures.of_invariant {body : Prog S ε α} (invariant : σ → Prop)
    (kept : ∀ command state answer next, effects command state answer next → invariant state → invariant next)
    (start : invariant state) : body.Ensures effects state fun _ last => invariant last := by
  induction body generalizing state with
  | ret value => exact start
  | fail failure => exact start
  | call command resume ih =>
      intro answer next isEffect
      exact ih answer (kept command state answer next isEffect start)

/-- What is ensured of every handler that behaves as known is true of the run. -/
theorem Ensures.run {handler : Handler S ε σ} {body : Prog S ε α}
    {post : Except ε α → σ → Prop} (ensures : body.Ensures effects state post)
    (known : ∀ state command, effects command state (handler state command).1
      (handler state command).2) :
    post (body.run handler state).1 (body.run handler state).2 := by
  induction body generalizing state with
  | ret value => exact ensures
  | fail failure => exact ensures
  | call command resume ih => exact ih _ (ensures _ _ (known state command))

@[simp] theorem ensures_perform_effects (handler : Handler S ε σ) (command : S.Cmd)
    (post : Except ε (S.Ans command) → σ → Prop) :
    (perform command : Prog S ε _).Ensures handler.effects state post ↔
      post (handler state command).1 (handler state command).2 := by
  rw [ensures_perform]
  constructor
  · intro all
    exact all _ _ rfl
  · intro holds answer next known
    rw [Handler.effects] at known
    rw [← known] at holds
    exact holds

/-- Where a program asks nothing but what is allowed, what those commands keep is kept by all of it. -/
theorem Keeps.ensures {D : Discipline S ε} {body : Prog S ε α} {past : List (Interaction S ε)}
    {post : Except ε α → List (Interaction S ε) → Prop} (asks : body.Keeps D past post) (invariant : σ → Prop)
    (credible : ∀ command answer, D.answered command answer)
    (kept : ∀ past command state answer next, D.issued past command → effects command state answer next →
      invariant state → invariant next)
    (start : invariant state) : body.Ensures effects state fun _ last => invariant last := by
  induction body generalizing past state with
  | ret value => exact start
  | fail failure => exact start
  | call command resume ih =>
      intro answer next isEffect
      exact ih answer (asks.2 answer (credible command answer))
        (kept past command state answer next asks.1 isEffect start)

theorem Ensures.run_effects {handler : Handler S ε σ} {body : Prog S ε α}
    {post : Except ε α → σ → Prop} (ensures : body.Ensures handler.effects state post) :
    post (body.run handler state).1 (body.run handler state).2 :=
  ensures.run fun _ _ => rfl

/-! ### How a program can end, and commands that are programs -/

/-- From the state, under what is known of the commands, the program can end so. -/
def Ends (effects : Effects S ε σ) : Prog S ε α → σ → Except ε α → σ → Prop
  | .ret value, state, outcome, last => outcome = .ok value ∧ last = state
  | .fail failure, state, outcome, last => outcome = .error failure ∧ last = state
  | .call command resume, state, outcome, last =>
      ∃ answer next, effects command state answer next ∧ Ends effects (resume answer) next outcome last

theorem ensures_iff_ends {body : Prog S ε α} {post : Except ε α → σ → Prop} :
    body.Ensures effects state post ↔ ∀ outcome last, body.Ends effects state outcome last → post outcome last := by
  induction body generalizing state with
  | ret value =>
      constructor
      · rintro holds outcome last ⟨rfl, rfl⟩
        exact holds
      · exact fun all => all _ _ ⟨rfl, rfl⟩
  | fail failure =>
      constructor
      · rintro holds outcome last ⟨rfl, rfl⟩
        exact holds
      · exact fun all => all _ _ ⟨rfl, rfl⟩
  | call command resume ih =>
      constructor
      · rintro holds outcome last ⟨answer, next, isEffect, ends⟩
        exact (ih answer).mp (holds answer next isEffect) outcome last ends
      · intro all answer next isEffect
        exact (ih answer).mpr fun outcome last ends => all outcome last ⟨answer, next, isEffect, ends⟩

theorem ends_perform {command : S.Cmd} {outcome : Except ε (S.Ans command)} {last : σ} :
    (perform command).Ends effects state outcome last ↔ effects command state outcome last := by
  constructor
  · rintro ⟨answer, next, isEffect, ends⟩
    cases answer with
    | ok value =>
        obtain ⟨rfl, rfl⟩ := ends
        exact isEffect
    | error failure =>
        obtain ⟨rfl, rfl⟩ := ends
        exact isEffect
  · intro isEffect
    refine ⟨outcome, last, isEffect, ?_⟩
    cases outcome with
    | ok value => exact ⟨rfl, rfl⟩
    | error failure => exact ⟨rfl, rfl⟩

/-- Every command carried out by a program of its own. -/
def serve {T : Signature} (inner : (command : S.Cmd) → Prog T ε (S.Ans command)) : Prog S ε α → Prog T ε α
  | .ret value => .ret value
  | .fail failure => .fail failure
  | .call command resume => attempt (inner command) >>= fun answer => serve inner (resume answer)

/-- What is ensured of a program whose commands are served is what is ensured of it under what is known of the
    programs that serve them. -/
theorem ensures_serve {T : Signature} {effects : Effects T ε σ} {state : σ}
    (inner : (command : S.Cmd) → Prog T ε (S.Ans command)) (body : Prog S ε α) (post : Except ε α → σ → Prop) :
    (serve inner body).Ensures effects state post ↔
      body.Ensures (fun command state answer next => (inner command).Ends effects state answer next) state post := by
  induction body generalizing state with
  | ret value => exact Iff.rfl
  | fail failure => exact Iff.rfl
  | call command resume ih =>
      rw [serve, ensures_bind, ensures_attempt, ensures_iff_ends]
      exact forall_congr' fun answer => forall_congr' fun next => imp_congr_right fun _ => ih answer

end Prog

end JumptotechLabs.Core
