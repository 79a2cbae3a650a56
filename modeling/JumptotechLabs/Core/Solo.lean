/-
Module: JumptotechLabs.Core.Solo
Layer: Core (library)
Purpose: Programs run alone to their end. Where `Ensures` says nothing of a program that waits for an
  answer no command can have, `Achieves` also demands that there always is one: the program comes to
  its end, and every way it can end meets a postcondition of outcome and world.
Main exports: Prog.Achieves, achieves_bind, achieves_attempt, achieves_tryCatch, achieves_ensure,
  Achieves.mono, Achieves.swallow, achieves_foldlM, achieves_foldlM_items
-/
import JumptotechLabs.Core.Handler

namespace JumptotechLabs.Core

namespace Prog

variable {S : Signature} {ε W α β : Type} {answers : Effects S ε W}

/-- Run alone in a world, the program always gets an answer, and it ends in `post` of its outcome and of
    the world it leaves. -/
def Achieves (answers : Effects S ε W) :
    Prog S ε α → W → (Except ε α → W → Prop) → Prop
  | .ret value, world, post => post (.ok value) world
  | .fail failure, world, post => post (.error failure) world
  | .call command resume, world, post =>
      (∃ answer after, answers command world answer after) ∧
        ∀ answer after, answers command world answer after →
          Achieves answers (resume answer) after post

/-- How a postcondition continues through a sequencing: on success with the rest of the program. -/
def whenDone (answers : Effects S ε W) (f : α → Prog S ε β) (post : Except ε β → W → Prop) :
    Except ε α → W → Prop
  | .ok value, world => (f value).Achieves answers world post
  | .error failure, world => post (.error failure) world

/-- How a postcondition continues through a handler: on failure with the handler. -/
def whenFailed (answers : Effects S ε W) (handler : ε → Prog S ε α)
    (post : Except ε α → W → Prop) : Except ε α → W → Prop
  | .ok value, world => post (.ok value) world
  | .error failure, world => (handler failure).Achieves answers world post

@[simp] theorem whenDone_ok (f : α → Prog S ε β) (post : Except ε β → W → Prop) (value : α)
    (world : W) :
    whenDone answers f post (.ok value) world ↔ (f value).Achieves answers world post := Iff.rfl

@[simp] theorem achieves_pure (value : α) (world : W) (post : Except ε α → W → Prop) :
    (pure value : Prog S ε α).Achieves answers world post ↔ post (.ok value) world := Iff.rfl

@[simp] theorem achieves_settle (outcome : Except ε α) (world : W) (post : Except ε α → W → Prop) :
    (settle outcome : Prog S ε α).Achieves answers world post ↔ post outcome world := by
  cases outcome <;> exact Iff.rfl

theorem achieves_perform (command : S.Cmd) (world : W)
    (post : Except ε (S.Ans command) → W → Prop) :
    (perform command : Prog S ε _).Achieves answers world post ↔
      (∃ answer after, answers command world answer after) ∧
        ∀ answer after, answers command world answer after → post answer after := by
  simp [perform, Achieves]

@[simp] theorem achieves_bind (body : Prog S ε α) (f : α → Prog S ε β) (world : W)
    (post : Except ε β → W → Prop) :
    (body >>= f).Achieves answers world post ↔
      body.Achieves answers world (whenDone answers f post) := by
  induction body generalizing world with
  | ret value => exact Iff.rfl
  | fail failure => exact Iff.rfl
  | call command resume ih =>
      refine and_congr_right fun _ => forall_congr' fun answer => forall_congr' fun after => ?_
      exact imp_congr_right fun _ => ih answer after

@[simp] theorem achieves_attempt (body : Prog S ε α) (world : W)
    (post : Except ε (Except ε α) → W → Prop) :
    (attempt body).Achieves answers world post ↔
      body.Achieves answers world fun outcome after => post (.ok outcome) after := by
  induction body generalizing world with
  | ret value => exact Iff.rfl
  | fail failure => exact Iff.rfl
  | call command resume ih =>
      refine and_congr_right fun _ => forall_congr' fun answer => forall_congr' fun after => ?_
      exact imp_congr_right fun _ => ih answer after

/-- A larger postcondition is achieved as well. -/
theorem Achieves.mono {body : Prog S ε α} {world : W} {small large : Except ε α → W → Prop}
    (achieved : body.Achieves answers world small)
    (weaker : ∀ outcome after, small outcome after → large outcome after) :
    body.Achieves answers world large := by
  induction body generalizing world with
  | ret value => exact weaker _ _ achieved
  | fail failure => exact weaker _ _ achieved
  | call command resume ih =>
      refine ⟨achieved.1, fun answer after answered => ?_⟩
      exact ih answer (achieved.2 answer after answered)

theorem achieves_tryCatch (body : Prog S ε α) (handler : ε → Prog S ε α) (world : W)
    (post : Except ε α → W → Prop) :
    (MonadExcept.tryCatch body handler).Achieves answers world post ↔
      body.Achieves answers world (whenFailed answers handler post) := by
  change (attempt body >>= _).Achieves answers world post ↔ _
  rw [achieves_bind, achieves_attempt]
  refine ⟨fun achieved => achieved.mono ?_, fun achieved => achieved.mono ?_⟩
  all_goals
    intro outcome after holds
    cases outcome <;> exact holds

/-- A failure that is swallowed is no failure. -/
theorem Achieves.swallow {body : Prog S ε Unit} {world : W} {post : Except ε Unit → W → Prop}
    (achieved : body.Achieves answers world fun _ after => post (.ok ()) after) :
    (MonadExcept.tryCatch body fun _ : ε => (pure () : Prog S ε Unit)).Achieves answers world
      post := by
  rw [achieves_tryCatch]
  apply achieved.mono
  intro outcome after holds
  cases outcome <;> exact holds

theorem achieves_ensure (body : Prog S ε α) (closing : Prog S ε β) (world : W)
    (post : Except ε α → W → Prop) :
    (ensure body closing).Achieves answers world post ↔
      body.Achieves answers world fun outcome after =>
        closing.Achieves answers after (whenDone answers (fun _ => settle outcome) post) := by
  simp [ensure]

/-- What every round keeps, however it ends, the whole loop keeps. -/
theorem achieves_foldlM {σ : Type} {round : σ → β → Prog S ε σ} {items : List β}
    (invariant : W → Prop)
    (kept : ∀ state, ∀ item ∈ items, ∀ world, invariant world →
      (round state item).Achieves answers world fun _ after => invariant after)
    (state : σ) {world : W} (start : invariant world) :
    (items.foldlM round state).Achieves answers world fun _ after => invariant after := by
  induction items generalizing state world with
  | nil => exact start
  | cons item rest ih =>
      rw [List.foldlM_cons, achieves_bind]
      refine (kept state item List.mem_cons_self world start).mono ?_
      rintro (failure | next) after holds
      · exact holds
      · exact ih (fun state' item' member => kept state' item' (List.mem_cons_of_mem _ member))
          next holds

/-- A loop none of whose rounds fails handles every item: the invariant speaks of the items handled so
    far. -/
theorem achieves_foldlM_items {σ : Type} {round : σ → β → Prog S ε σ} {items : List β}
    (invariant : List β → W → Prop)
    (handles : ∀ state done item rest world, items = done ++ item :: rest → invariant done world →
      (round state item).Achieves answers world fun outcome after =>
        (∃ next, outcome = .ok next) ∧ invariant (done ++ [item]) after)
    (state : σ) {world : W} (start : invariant [] world) :
    (items.foldlM round state).Achieves answers world fun outcome after =>
      (∃ result, outcome = .ok result) ∧ invariant items after := by
  -- The induction is on the items still to come, `done` being those already handled.
  suffices loop : ∀ rest done state world, items = done ++ rest → invariant done world →
      (rest.foldlM round state).Achieves answers world fun outcome after =>
        (∃ result, outcome = .ok result) ∧ invariant items after from
    loop items [] state world rfl start
  intro rest
  induction rest with
  | nil =>
      intro done state world split holds
      rw [List.append_nil] at split
      exact ⟨⟨state, rfl⟩, split ▸ holds⟩
  | cons item rest ih =>
      intro done state world split holds
      rw [List.foldlM_cons, achieves_bind]
      refine (handles state done item rest world split holds).mono ?_
      rintro _ after ⟨⟨next, rfl⟩, holdsAfter⟩
      exact ih (done ++ [item]) next after (by simp [split]) holdsAfter

end Prog

end JumptotechLabs.Core
