/-
Module: JumptotechLabs.Session.Effects
Layer: Session (services/lab-orchestrator/src/session)
Purpose: What a finished command did. An `Effect` is a successful write, an answered provider call or a
  closing event; everything else a thread does only reads. `row_step` says, for every answer the
  world can give and every session, what became of that session's row.
Main exports: Effect, effect, effects, shown, RowStep, row_step, respond_drawn
-/
import JumptotechLabs.Session.System

namespace JumptotechLabs.Session

open JumptotechLabs.Core

/-- What a thread has done so far, newest first. -/
abbrev History := List SessionInteraction

/-- What all threads have done so far, newest first. -/
abbrev Trace := List (Nat × SessionInteraction)

/-- What a finished command left behind in the store, at a provider or with the listener. -/
inductive Effect where
  | admitted (session : LabSession) (limits : CapacityLimits)
  | moved (sessionId : String) (source : List SessionStatus) (target : SessionStatus)
      (patch : SessionPatch) (guard : TransitionGuard) (row : LabSession)
  | touched (sessionId : String) (row : LabSession)
  | deleted (sessionId : String)
  | created (context : SessionTeardownContext) (answer : Except Failure CreateResult)
  | rebuilt (context : SessionTeardownContext) (answer : Except Failure ResetResult)
  | destroyed (context : SessionTeardownContext) (answer : Except Failure DestroyResult)
  | closed (event : SessionClosedEvent)

/-- The effect of a finished command, if it had one. -/
def effect : SessionInteraction → Option Effect
  | ⟨.createWithinLimits session limits, .ok .admitted⟩ => some (.admitted session limits)
  | ⟨.transition sessionId source target patch guard, .ok (some row)⟩ =>
      some (.moved sessionId source target patch guard row)
  | ⟨.touchActivity sessionId _, .ok (some row)⟩ => some (.touched sessionId row)
  | ⟨.delete sessionId, .ok _⟩ => some (.deleted sessionId)
  | ⟨.create _ _ context, answer⟩ => some (.created context answer)
  | ⟨.reset _ _ context, answer⟩ => some (.rebuilt context answer)
  | ⟨.destroy _ context, answer⟩ => some (.destroyed context answer)
  | ⟨.onSessionClosed event, _⟩ => some (.closed event)
  | _ => none

/-- The effects of a history, newest first. -/
def effects (past : History) : List Effect := past.filterMap effect

theorem effects_cons_none {interaction : SessionInteraction} {past : History}
    (quiet : effect interaction = none) : effects (interaction :: past) = effects past := by
  simp [effects, quiet]

theorem effects_cons_some {interaction : SessionInteraction} {past : History} {done : Effect}
    (left : effect interaction = some done) :
    effects (interaction :: past) = done :: effects past := by
  simp [effects, left]

theorem effects_suffix {earlier past : History} (still : earlier <:+ past) :
    effects earlier <:+ effects past :=
  still.filterMap effect

theorem mem_effects {past : History} {done : Effect} :
    done ∈ effects past ↔ ∃ interaction ∈ past, effect interaction = some done := by
  simp [effects]

theorem countP_effects (counts : Effect → Bool) (past : History) :
    (effects past).countP counts =
      past.countP fun interaction => (effect interaction).any counts := by
  rw [effects, List.countP_filterMap]
  congr 1
  funext interaction
  cases effect interaction <;> rfl

/-! Each effect says which command left it. -/

/-- The interactions that leave an effect behind. -/
def Effect.LeftBy (interaction : SessionInteraction) : Effect → Prop
  | .admitted session limits => interaction = ⟨.createWithinLimits session limits, .ok .admitted⟩
  | .moved sessionId source target patch guard row =>
      interaction = ⟨.transition sessionId source target patch guard, .ok (some row)⟩
  | .touched sessionId row => ∃ moment, interaction = ⟨.touchActivity sessionId moment, .ok (some row)⟩
  | .deleted sessionId => interaction = ⟨.delete sessionId, .ok ()⟩
  | .created context answer => ∃ provider lab, interaction = ⟨.create provider lab context, answer⟩
  | .rebuilt context answer => ∃ provider lab, interaction = ⟨.reset provider lab context, answer⟩
  | .destroyed context answer => ∃ provider, interaction = ⟨.destroy provider context, answer⟩
  | .closed event => ∃ answer, interaction = ⟨.onSessionClosed event, answer⟩

theorem leftBy_of_effect {interaction : SessionInteraction} {done : Effect}
    (left : effect interaction = some done) : done.LeftBy interaction := by
  unfold effect at left
  split at left <;> cases left
  · rfl
  · rfl
  · exact ⟨_, rfl⟩
  · rfl
  · exact ⟨_, _, rfl⟩
  · exact ⟨_, _, rfl⟩
  · exact ⟨_, rfl⟩
  · exact ⟨_, rfl⟩

theorem command_of_admitted {interaction : SessionInteraction} {session : LabSession}
    {limits : CapacityLimits} (left : effect interaction = some (.admitted session limits)) :
    interaction = ⟨.createWithinLimits session limits, .ok .admitted⟩ :=
  leftBy_of_effect left

theorem command_of_moved {interaction : SessionInteraction} {sessionId : String}
    {source : List SessionStatus} {target : SessionStatus} {patch : SessionPatch}
    {guard : TransitionGuard} {row : LabSession}
    (left : effect interaction = some (.moved sessionId source target patch guard row)) :
    interaction = ⟨.transition sessionId source target patch guard, .ok (some row)⟩ :=
  leftBy_of_effect left

theorem command_of_deleted {interaction : SessionInteraction} {sessionId : String}
    (left : effect interaction = some (.deleted sessionId)) :
    interaction = ⟨.delete sessionId, .ok ()⟩ :=
  leftBy_of_effect left

theorem command_of_created {interaction : SessionInteraction} {context : SessionTeardownContext}
    {answer : Except Failure CreateResult}
    (left : effect interaction = some (.created context answer)) :
    ∃ provider lab, interaction = ⟨.create provider lab context, answer⟩ :=
  leftBy_of_effect left

theorem command_of_rebuilt {interaction : SessionInteraction} {context : SessionTeardownContext}
    {answer : Except Failure ResetResult}
    (left : effect interaction = some (.rebuilt context answer)) :
    ∃ provider lab, interaction = ⟨.reset provider lab context, answer⟩ :=
  leftBy_of_effect left

theorem command_of_closed {interaction : SessionInteraction} {event : SessionClosedEvent}
    (left : effect interaction = some (.closed event)) :
    ∃ answer, interaction = ⟨.onSessionClosed event, answer⟩ :=
  leftBy_of_effect left

/-- The rows an answer shows its thread. -/
def shown : SessionInteraction → List LabSession
  | ⟨.get _, .ok (some row)⟩ => [row]
  | ⟨.list, .ok rows⟩ => rows
  | ⟨.transition _ _ _ _ _, .ok (some row)⟩ => [row]
  | ⟨.touchActivity _ _, .ok (some row)⟩ => [row]
  | ⟨.findBySandboxRef _, .ok (some row)⟩ => [row]
  | _ => []

/-! ### What became of a row -/

/-- Does this effect write the row of a session? -/
def Effect.writes (sessionId : String) : Effect → Prop
  | .admitted session _ => session.sessionId = sessionId
  | .moved id _ _ _ _ _ => id = sessionId
  | .touched id _ => id = sessionId
  | .deleted id => id = sessionId
  | _ => False

/-- A session's row before and after one answer, by the effect of that answer. -/
inductive RowStep (sessionId : String) :
    Option Effect → Option LabSession → Option LabSession → Prop where
  | kept {done : Option Effect} {row : Option LabSession}
      (elsewhere : ∀ left, done = some left → ¬ left.writes sessionId) :
      RowStep sessionId done row row
  | inserted {session row : LabSession} {limits : CapacityLimits} (uid : Nat)
      (named : session.sessionId = sessionId)
      (stored : row = { session with shellUid := some uid }) :
      RowStep sessionId (some (.admitted session limits)) none (some row)
  | moved {source : List SessionStatus} {target : SessionStatus} {patch : SessionPatch}
      {guard : TransitionGuard} {current row : LabSession}
      (claimable : current.status ∈ source)
      (guarded : InMemorySessionStore.meetsGuard guard current = true)
      (written : row = (InMemorySessionStore.transitionPatch target patch current).apply current) :
      RowStep sessionId (some (.moved sessionId source target patch guard row))
        (some current) (some row)
  | touched {current row : LabSession} {atTime : Instant}
      (active : acceptsActivity current.status = true)
      (written : row = { current with lastActivityAt := atTime }) :
      RowStep sessionId (some (.touched sessionId row)) (some current) (some row)
  | deleted {row : Option LabSession} :
      RowStep sessionId (some (.deleted sessionId)) row none

/-- An admission inserts the one row it names. -/
theorem row_step_createWithinLimits {store after : InMemorySessionStore} {session : LabSession}
    {limits : CapacityLimits} {answer : Except Failure CapacityDecision}
    (ran : store.createWithinLimits session limits = (answer, after)) (sessionId : String) :
    RowStep sessionId (effect ⟨.createWithinLimits session limits, answer⟩)
      (store.get sessionId) (after.get sessionId) := by
  rcases InMemorySessionStore.createWithinLimits_cases ran with
    ⟨refused, rfl⟩ | ⟨isNew, rfl, rfl, _⟩
  · refine .kept fun left isEffect => ?_
    rcases answer with failure | decision
    · cases isEffect
    · cases decision with
      | admitted => exact absurd rfl refused
      | refused refusedBy occupying ownerOccupying => cases isEffect
  · by_cases same : sessionId = session.sessionId
    · subst same
      rw [InMemorySessionStore.get_insertRow, if_pos rfl, isNew]
      exact .inserted _ rfl rfl
    · rw [InMemorySessionStore.get_insertRow, if_neg same]
      refine .kept fun left isEffect writes => same ?_
      cases isEffect
      exact writes.symm

/-- A transition moves the one row it names, or nothing. -/
theorem row_step_transition {store after : InMemorySessionStore} {id : String}
    {source : List SessionStatus} {target : SessionStatus} {patch : SessionPatch}
    {guard : TransitionGuard} {answer : Option LabSession}
    (ran : store.transition id source target patch guard = (answer, after)) (sessionId : String) :
    RowStep sessionId (effect ⟨.transition id source target patch guard, .ok answer⟩)
      (store.get sessionId) (after.get sessionId) := by
  rcases InMemorySessionStore.transition_cases ran with
    ⟨rfl, rfl⟩ | ⟨current, found, claimable, guarded, rfl, rfl⟩
  · exact .kept fun left isEffect => nomatch isEffect
  · by_cases same : sessionId = id
    · subst same
      rw [InMemorySessionStore.get_patchRow, if_pos rfl, found]
      exact .moved claimable guarded rfl
    · rw [InMemorySessionStore.get_patchRow, if_neg same]
      refine .kept fun left isEffect writes => same ?_
      cases isEffect
      exact writes.symm

/-- Activity touches the one row it names, or nothing. -/
theorem row_step_touchActivity {store after : InMemorySessionStore} {id : String}
    {atTime : Instant} {answer : Option LabSession}
    (ran : store.touchActivity id atTime = (answer, after)) (sessionId : String) :
    RowStep sessionId (effect ⟨.touchActivity id atTime, .ok answer⟩)
      (store.get sessionId) (after.get sessionId) := by
  rcases InMemorySessionStore.touchActivity_cases ran with
    ⟨rfl, rfl⟩ | ⟨current, found, active, rfl, rfl⟩
  · exact .kept fun left isEffect => nomatch isEffect
  · by_cases same : sessionId = id
    · subst same
      rw [InMemorySessionStore.get_patchRow, if_pos rfl, found]
      exact .touched active rfl
    · rw [InMemorySessionStore.get_patchRow, if_neg same]
      refine .kept fun left isEffect writes => same ?_
      cases isEffect
      exact writes.symm

/-- A deletion removes the one row it names. -/
theorem row_step_delete (store : InMemorySessionStore) (id sessionId : String) :
    RowStep sessionId (effect ⟨.delete id, .ok ()⟩) (store.get sessionId)
      ((store.delete id).get sessionId) := by
  rw [InMemorySessionStore.get_delete]
  by_cases same : sessionId = id
  · subst same
    rw [if_pos rfl]
    exact .deleted
  · rw [if_neg same]
    refine .kept fun left isEffect writes => same ?_
    cases isEffect
    exact writes.symm

/-- What became of a session's row when its thread got this answer. -/
theorem row_step {command : Cmd} {world world' : World} {reply : Reply}
    {answer : Except Failure command.Ans}
    (responded : respond command world reply = some (answer, world')) (sessionId : String) :
    RowStep sessionId (effect ⟨command, answer⟩) (world.store.get sessionId)
      (world'.store.get sessionId) := by
  cases reply with
  | own =>
      cases command with
      | createWithinLimits session limits =>
          obtain ⟨rfl, rfl⟩ := Prod.mk.inj (Option.some.inj responded)
          exact row_step_createWithinLimits rfl sessionId
      | transition id source target patch guard =>
          obtain ⟨rfl, rfl⟩ := Prod.mk.inj (Option.some.inj responded)
          exact row_step_transition rfl sessionId
      | touchActivity id atTime =>
          obtain ⟨rfl, rfl⟩ := Prod.mk.inj (Option.some.inj responded)
          exact row_step_touchActivity rfl sessionId
      | delete id =>
          obtain ⟨rfl, rfl⟩ := Prod.mk.inj (Option.some.inj responded)
          exact row_step_delete _ id sessionId
      | _ =>
          first
          | cases responded
            exact .kept fun left isEffect => nomatch isEffect
          | cases responded
  | throw failure =>
      simp only [respond] at responded
      split at responded
      · cases responded
        refine .kept fun left isEffect => ?_
        cases command <;> cases isEffect <;> exact id
      · cases responded
  | draws drawnId =>
      cases command with
      | newSessionId =>
          simp only [respond, outsideAnswer] at responded
          split at responded
          · cases responded
            exact .kept fun left isEffect => nomatch isEffect
          · cases responded
      | _ => cases responded
  | _ =>
      cases command <;>
        first
        | cases responded
          refine .kept fun left isEffect => ?_
          cases isEffect <;> exact id
        | cases responded

/-- What an answer leaves in the store, by the command. -/
inductive StoreStep (store : InMemorySessionStore) : Cmd → InMemorySessionStore → Prop where
  | kept {command : Cmd} : StoreStep store command store
  | createWithinLimits {session : LabSession} {limits : CapacityLimits} :
      StoreStep store (.createWithinLimits session limits)
        (store.createWithinLimits session limits).2
  | transition {sessionId : String} {source : List SessionStatus} {target : SessionStatus}
      {patch : SessionPatch} {guard : TransitionGuard} :
      StoreStep store (.transition sessionId source target patch guard)
        (store.transition sessionId source target patch guard).2
  | touchActivity {sessionId : String} {atTime : Instant} :
      StoreStep store (.touchActivity sessionId atTime) (store.touchActivity sessionId atTime).2
  | delete {sessionId : String} :
      StoreStep store (.delete sessionId) (store.delete sessionId)

theorem store_step {command : Cmd} {world world' : World} {reply : Reply}
    {answer : Except Failure command.Ans}
    (responded : respond command world reply = some (answer, world')) :
    StoreStep world.store command world'.store := by
  cases reply with
  | own =>
      cases command <;>
        first
        | cases responded
          first
          | exact .kept
          | exact .createWithinLimits
          | exact .transition
          | exact .touchActivity
          | exact .delete
        | cases responded
  | throw failure =>
      simp only [respond] at responded
      split at responded
      · cases responded
        exact .kept
      · cases responded
  | draws drawnId =>
      cases command with
      | newSessionId =>
          simp only [respond, outsideAnswer] at responded
          split at responded
          · cases responded
            exact .kept
          · cases responded
      | _ => cases responded
  | _ =>
      cases command <;>
        first
        | cases responded
          exact .kept
        | cases responded

/-! ### What an answer shows -/

/-- The answer of an awaited store read is the stored row, or it threw. -/
theorem respond_get {sessionId : String} {world world' : World} {reply : Reply}
    {answer : Except Failure (Option LabSession)}
    (responded : respond (.get sessionId) world reply = some (answer, world')) :
    world' = world ∧ ∀ row, answer = .ok row → world.store.get sessionId = row := by
  cases reply with
  | own =>
      cases responded
      exact ⟨rfl, fun row isRow => Except.ok.inj isRow⟩
  | throw failure =>
      cases responded
      exact ⟨rfl, fun row isRow => nomatch isRow⟩
  | _ => cases responded

/-- A transition that was answered either moved the row or left the store alone. -/
theorem respond_transition {sessionId : String} {source : List SessionStatus}
    {target : SessionStatus} {patch : SessionPatch} {guard : TransitionGuard}
    {world world' : World} {reply : Reply} {answer : Except Failure (Option LabSession)}
    (responded :
      respond (.transition sessionId source target patch guard) world reply =
        some (answer, world')) :
    (∃ failure, answer = .error failure ∧ world' = world) ∨
      ∃ row, answer = .ok row ∧
        world.store.transition sessionId source target patch guard = (row, world'.store) := by
  cases reply with
  | own =>
      obtain ⟨rfl, rfl⟩ := Prod.mk.inj (Option.some.inj responded)
      exact .inr ⟨_, rfl, rfl⟩
  | throw failure =>
      cases responded
      exact .inl ⟨failure, rfl, rfl⟩
  | _ => cases responded

/-- A transition that moved a row did not throw. -/
theorem own_of_moved {sessionId : String} {source : List SessionStatus} {target : SessionStatus}
    {patch : SessionPatch} {guard : TransitionGuard} {world world' : World} {reply : Reply}
    {row : LabSession}
    (responded :
      respond (.transition sessionId source target patch guard) world reply =
        some (.ok (some row), world')) : reply = .own := by
  cases reply with
  | own => rfl
  | _ => cases responded

/-- A transition that moved nothing found no row, another status, or another claim. -/
theorem get_of_transition_none {store after : InMemorySessionStore} {sessionId : String}
    {source : List SessionStatus} {target : SessionStatus} {patch : SessionPatch}
    (ran : store.transition sessionId source target patch {} = (none, after)) {row : LabSession}
    (found : store.get sessionId = some row) : row.status ∉ source := by
  intro claimable
  have moved : (store.transition sessionId source target patch {}).1.isSome := by
    simp [InMemorySessionStore.transition, found, claimable, InMemorySessionStore.meetsGuard,
      InMemorySessionStore.update]
  rw [ran] at moved
  cases moved

/-- Every row an answer shows is the row stored when the answer was given. -/
theorem shown_stored {command : Cmd} {world world' : World} {reply : Reply}
    {answer : Except Failure command.Ans}
    (responded : respond command world reply = some (answer, world')) {row : LabSession}
    (isShown : row ∈ shown ⟨command, answer⟩) :
    world'.store.get row.sessionId = some row := by
  have isRow : ∀ {sessionId}, world'.store.get sessionId = some row →
      world'.store.get row.sessionId = some row := by
    intro sessionId found
    rw [InMemorySessionStore.sessionId_of_get found]
    exact found
  cases command with
  | get sessionId =>
      obtain ⟨rfl, stored⟩ := respond_get responded
      rcases answer with failure | (_ | found)
      · cases isShown
      · cases isShown
      · cases List.mem_singleton.mp isShown
        exact isRow (stored _ rfl)
  | list =>
      cases reply with
      | own =>
          cases responded
          exact Keyed.lookup_of_mem world.store.distinct isShown
      | throw failure =>
          cases responded
          cases isShown
      | _ => cases responded
  | transition sessionId source target patch guard =>
      rcases answer with failure | (_ | found)
      · cases isShown
      · cases isShown
      · cases List.mem_singleton.mp isShown
        have step := row_step responded sessionId
        revert step
        generalize before : world.store.get sessionId = old
        generalize after : world'.store.get sessionId = new
        intro step
        cases step with
        | kept elsewhere => exact absurd rfl (elsewhere _ rfl)
        | moved claimable guarded written => exact isRow after
  | touchActivity sessionId atTime =>
      rcases answer with failure | (_ | found)
      · cases isShown
      · cases isShown
      · cases List.mem_singleton.mp isShown
        have step := row_step responded sessionId
        revert step
        generalize before : world.store.get sessionId = old
        generalize after : world'.store.get sessionId = new
        intro step
        cases step with
        | kept elsewhere => exact absurd rfl (elsewhere _ rfl)
        | touched active written => exact isRow after
  | findBySandboxRef sandboxRef =>
      cases reply with
      | own =>
          cases responded
          cases found : world.store.findBySandboxRef sandboxRef with
          | none =>
              rw [found] at isShown
              cases isShown
          | some stored =>
              rw [found] at isShown
              cases List.mem_singleton.mp isShown
              exact Keyed.lookup_of_mem world.store.distinct (List.mem_of_find?_eq_some found)
      | throw failure =>
          cases responded
          cases isShown
      | _ => cases responded
  | _ => cases answer <;> cases isShown

/-- Ids are drawn once: only drawing one changes which were drawn, and it draws a new one. -/
theorem respond_drawn {command : Cmd} {world world' : World} {reply : Reply}
    {answer : Except Failure command.Ans}
    (responded : respond command world reply = some (answer, world')) :
    (world'.drawn = world.drawn ∧ ∀ sessionId, (⟨command, answer⟩ : SessionInteraction) ≠
        ⟨.newSessionId, .ok sessionId⟩) ∨
      ∃ sessionId, (⟨command, answer⟩ : SessionInteraction) = ⟨.newSessionId, .ok sessionId⟩ ∧
        sessionId ∉ world.drawn ∧ world'.drawn = sessionId :: world.drawn := by
  cases reply with
  | own =>
      refine .inl ?_
      cases command <;>
        first
        | cases responded
          exact ⟨rfl, fun sessionId same => nomatch same⟩
        | cases responded
  | throw failure =>
      simp only [respond] at responded
      split at responded
      · rename_i throws
        cases responded
        refine .inl ⟨rfl, fun sessionId same => ?_⟩
        cases same
      · cases responded
  | draws drawnId =>
      cases command with
      | newSessionId =>
          simp only [respond, outsideAnswer] at responded
          split at responded
          · rename_i allowed
            cases responded
            simp only [Bool.and_eq_true, Bool.not_eq_true', List.contains_eq_mem,
              decide_eq_false_iff_not] at allowed
            exact .inr ⟨drawnId, rfl, allowed.2, rfl⟩
          · cases responded
      | _ => cases responded
  | _ =>
      refine .inl ?_
      cases command <;>
        first
        | cases responded
          exact ⟨rfl, fun sessionId same => nomatch same⟩
        | cases responded

end JumptotechLabs.Session
