/-
Module: JumptotechLabs.Session.Standing
Layer: Session (services/lab-orchestrator/src/session/manager.ts)
Purpose: Sandboxes and slots. While builds are spared, and no teardown claims a session whose reset the
  provider has not answered, every session that is being built or rebuilt, or whose sandbox stands,
  has a row in an occupying status; so there are no more of them than the ceilings allow.
Main exports: standing, sparesReset, SparesReset, Standing, standing_of_reaches, HoldsSlots,
  build_holds_slot
-/
import JumptotechLabs.Session.Slots
import JumptotechLabs.Session.Capacity
import JumptotechLabs.Session.Fencing
import Mathlib.Data.List.Perm.Subperm

namespace JumptotechLabs.Session

open JumptotechLabs.Core

variable {clock : Instant} {allowed : SessionConfig → SessionMove → Prop}

/-! ### Which sandboxes stand -/

/-- What a provider's answer says about the session's sandbox: it stands, it is gone, or nothing. -/
def Effect.presence (sessionId : String) : Effect → Option Bool
  | .created context (.ok result) =>
      if context.sessionId = sessionId ∧ result.ok = true then some true else none
  | .rebuilt context (.ok result) =>
      if context.sessionId = sessionId ∧ result.ok = true then some true else none
  | .destroyed context (.ok result) =>
      if context.sessionId = sessionId ∧ result.ok = true ∧ result.namespaceGone = true then
        some false
      else none
  | _ => none

/-- Does the session's sandbox stand? It does from a build that succeeded until a destroy found it
    gone. -/
def standing (sessionId : String) : Trace → Bool
  | [] => false
  | event :: earlier =>
      ((effect event.2).bind (Effect.presence sessionId)).getD (standing sessionId earlier)

/-- Has the provider answered the thread's reset of the session? -/
def hasRebuilt (thread : Nat) (sessionId : String) (trace : Trace) : Bool :=
  (effects (own thread trace)).any fun
    | .rebuilt context _ => context.sessionId == sessionId
    | _ => false

theorem hasRebuilt_of_suffix {thread : Nat} {sessionId : String} {earlier trace : Trace}
    (rebuilt : hasRebuilt thread sessionId earlier = true) (still : earlier <:+ trace) :
    hasRebuilt thread sessionId trace = true := by
  rw [hasRebuilt, List.any_eq_true] at rebuilt ⊢
  obtain ⟨done, member, isRebuilt⟩ := rebuilt
  exact ⟨done, (effects_suffix (own_suffix thread still)).subset member, isRebuilt⟩

/-- What makes a sandbox stand: an answer to its build or to a reset of it. -/
theorem presence_true {sessionId : String} {done : Effect}
    (stands : done.presence sessionId = some true) :
    (∃ context result, done = .created context (.ok result) ∧ context.sessionId = sessionId ∧
        result.ok = true) ∨
      ∃ context result, done = .rebuilt context (.ok result) ∧ context.sessionId = sessionId ∧
        result.ok = true := by
  unfold Effect.presence at stands
  split at stands
  · split at stands
    · rename_i meets
      exact .inl ⟨_, _, rfl, meets.1, meets.2⟩
    · cases stands
  · split at stands
    · rename_i meets
      exact .inr ⟨_, _, rfl, meets.1, meets.2⟩
    · cases stands
  · split at stands
    · cases stands
    · cases stands
  · cases stands

/-! ### The condition on resets -/

/-- Does this write leave a reset of its session alone? It claims no teardown of a RESETTING session
    before the provider has answered the reset that holds it. -/
def sparesReset (config : SessionConfig) : SessionMove → Bool
  | .resume thread .own =>
      match config.pending thread with
      | some (.transition sessionId source target _ guard) =>
          !(isInFlight target && (config.world.store.get sessionId).any fun row =>
              row.status == .resetting && source.contains row.status &&
                InMemorySessionStore.meetsGuard guard row) ||
            (lastMove sessionId config.trace).all fun holder =>
              hasRebuilt holder.1 sessionId config.trace
      | _ => true
  | _ => true

/-- No teardown claims the session while a provider is resetting its sandbox. -/
def SparesReset (sessionId : String) (config : SessionConfig) (move : SessionMove) : Prop :=
  actsOn config move = some sessionId → sparesReset config move = true

theorem SparesReset.rebuilt {sessionId : String} {config : SessionConfig} {thread holder : Nat}
    {source : List SessionStatus} {target status : SessionStatus} {patch : SessionPatch}
    {guard : TransitionGuard} {row : LabSession}
    (spares : SparesReset sessionId config (.resume thread .own))
    (pending : config.pending thread = some (.transition sessionId source target patch guard))
    (inFlight : isInFlight target = true) (found : rowOf config sessionId = some row)
    (resetting : row.status = .resetting) (claimable : row.status ∈ source)
    (guarded : InMemorySessionStore.meetsGuard guard row = true)
    (held : lastMove sessionId config.trace = some (holder, status)) :
    hasRebuilt holder sessionId config.trace = true := by
  have meets := spares (by simp [actsOn, pending, subjectOf])
  unfold rowOf at found
  rw [resetting] at claimable
  simpa [sparesReset, pending, inFlight, found, resetting, claimable, guarded, held] using meets

/-! ### A reset holds its session until the provider has answered -/

/-- A reset that has claimed the session and has not tried to release it still holds it; or a teardown
    has taken it over, and then the provider had answered. -/
def ResetHeld (sessionId : String) (world : World) (trace : Trace) : Prop :=
  ∀ thread patch guard claim,
    Effect.moved sessionId resettableStatuses .resetting patch guard claim ∈
      effects (own thread trace) →
    Untried sessionId (own thread trace) →
      ∃ row, world.store.get sessionId = some row ∧
        (row.status = .resetting ∧ lastMove sessionId trace = some (thread, .resetting) ∨
          isTeardownOwned row.status = true ∧ hasRebuilt thread sessionId trace = true)

/-- A reset that has only claimed finds its session RESETTING. -/
theorem ResetHeld.resetting {sessionId : String} {world : World} {trace : Trace} {thread : Nat}
    {patch : SessionPatch} {guard : TransitionGuard} {claim : LabSession}
    (held : ResetHeld sessionId world trace)
    (claimed : effects (own thread trace) =
      [.moved sessionId resettableStatuses .resetting patch guard claim])
    (untried : Untried sessionId (own thread trace)) :
    ∃ row, world.store.get sessionId = some row ∧ row.status = .resetting := by
  obtain ⟨row, found, holds | ⟨_, rebuilt⟩⟩ :=
    held thread patch guard claim (by rw [claimed]; exact List.mem_singleton.mpr rfl) untried
  · exact ⟨row, found, holds.1⟩
  · rw [hasRebuilt, claimed] at rebuilt
    cases rebuilt

/-- What can become of a RESETTING session that a reset holds: its holder releases it, or a teardown
    claims it. -/
theorem released_or_claimed {before after : SessionConfig} {thread holder : Nat} {op : SessionOp}
    {reply : Reply} {sessionId : String} {source : List SessionStatus} {target : SessionStatus}
    {patch : SessionPatch} {guard : TransitionGuard} {current row : LabSession}
    (run : Reaches allowed (boot clock) before)
    (spares : SparesBuild sessionId before (.resume thread reply))
    (happened : Answered before after thread op reply
      ⟨.transition sessionId source target patch guard, .ok (some row)⟩)
    (held : ResetHeld sessionId before.world before.trace)
    (found : rowOf before sessionId = some current) (resetting : current.status = .resetting)
    (last : lastMove sessionId before.trace = some (holder, .resetting))
    (claimable : current.status ∈ source) :
    thread = holder ∧
        releasesReset sessionId (.transition sessionId source target patch guard) = true ∨
      isInFlight target = true := by
  have issued := issued_when_answered run happened
  cases own_of_moved happened.responded
  have users := spares.users happened.opOf happened.pending rfl
  rw [resetting] at claimable
  cases issued with
  | quiet isFree => cases isFree
  | activate isBuilt stands => cases List.mem_singleton.mp claimable
  | failStart failed unusable onlyCleanup => cases List.mem_singleton.mp claimable
  | claimReset resets first => exact absurd claimable (by decide)
  | @release m _ claim claimPatch claimGuard rebuilt _ _ _ _ resets claimed onlyRebuilt untried
      releases =>
      refine .inl ⟨?_, by simp [releasesReset]⟩
      have recorded : Effect.moved sessionId resettableStatuses .resetting claimPatch claimGuard
          claim ∈ effects (own thread before.trace) := by
        rw [claimed]
        exact List.mem_append_right _ (List.mem_singleton.mpr rfl)
      obtain ⟨stored, found', holds | ⟨owned, _⟩⟩ := held thread _ _ _ recorded untried
      · exact (Prod.mk.inj (Option.some.inj (holds.2.symm.trans last))).1
      · rw [show before.world.store.get sessionId = some current from found] at found'
        cases found'
        rw [resetting] at owned
        cases owned
  | recover platform =>
      rw [platform] at users
      cases users
  | stopped => cases List.mem_singleton.mp claimable
  | handOver handsOver => cases List.mem_singleton.mp claimable
  | defer defers => cases List.mem_singleton.mp claimable
  | claim claims => cases claims <;> exact .inr rfl
  | finish destroyed gone pair reasoned => cases pair <;> cases List.mem_singleton.mp claimable

theorem lastMove_cons_of_none {sessionId : String} {trace : Trace}
    {event : Nat × SessionInteraction} (still : moveOf sessionId event.2 = none) :
    lastMove sessionId (event :: trace) = lastMove sessionId trace := by
  obtain ⟨thread, interaction⟩ := event
  simp only [lastMove, still]

/-- The step lemma. -/
theorem resetHeld_step {before after : SessionConfig} {thread : Nat} {op : SessionOp}
    {reply : Reply} {interaction : SessionInteraction} {sessionId : String}
    (run : Reaches allowed (boot clock) before)
    (spares : SparesBuild sessionId before (.resume thread reply))
    (sparesReset : SparesReset sessionId before (.resume thread reply))
    (happened : Answered before after thread op reply interaction)
    (held : ResetHeld sessionId before.world before.trace) :
    ResetHeld sessionId after.world after.trace := by
  intro holder patch guard claim claimed untried
  have grows := own_suffix holder happened.trace_grows
  have stillUntried : Untried sessionId (own holder before.trace) :=
    fun interaction member => untried interaction (grows.subset member)
  have step := row_step happened.responded sessionId
  generalize left : effect interaction = done at step
  generalize stored : before.world.store.get sessionId = old at step
  generalize stored' : after.world.store.get sessionId = new at step
  -- Either this answer is the claim, or the reset had claimed before.
  by_cases isNew : Effect.moved sessionId resettableStatuses .resetting patch guard claim ∈
      effects (own holder before.trace)
  · obtain ⟨current, found, holds⟩ := held holder patch guard claim isNew stillUntried
    rw [stored] at found
    have unmoved : moveOf sessionId interaction = none →
        lastMove sessionId after.trace = lastMove sessionId before.trace := by
      intro still
      rw [happened.recorded]
      exact lastMove_cons_of_none still
    have goesOn : ∀ {row : LabSession}, row.status = current.status →
        moveOf sessionId interaction = none →
        (row.status = .resetting ∧
            lastMove sessionId after.trace = some (holder, .resetting) ∨
          isTeardownOwned row.status = true ∧
            hasRebuilt holder sessionId after.trace = true) := by
      intro row sameStatus still
      rw [sameStatus, unmoved still]
      exact holds.imp_right fun owned =>
        ⟨owned.1, hasRebuilt_of_suffix owned.2 happened.trace_grows⟩
    cases step with
    | kept elsewhere =>
        cases found
        rw [← left] at elsewhere
        exact ⟨current, rfl, goesOn rfl (moveOf_eq_none elsewhere)⟩
    | inserted uid named isRow => cases found
    | @touched _ row atTime active written =>
        cases found
        refine ⟨row, rfl, goesOn (by rw [written]) ?_⟩
        simp only [moveOf, left]
    | deleted =>
        cases command_of_deleted left
        exact (spares.not_deleted run happened).elim
    | @moved source target patch' guard' _ row claimable guarded written =>
        cases found
        cases command_of_moved left
        have isTarget : row.status = target := by
          rw [written]
          rfl
        refine ⟨row, rfl, .inr ?_⟩
        rw [isTarget]
        rcases holds with ⟨resetting, last⟩ | ⟨owned, rebuilt⟩
        · rcases released_or_claimed run spares happened held stored resetting last claimable with
            ⟨rfl, releases⟩ | inFlight
          · -- Its own release: then it has tried.
            have tried := untried _ (mem_own.mpr (by
              rw [happened.recorded]
              exact List.mem_cons_self))
            rw [releases] at tried
            cases tried
          · cases own_of_moved happened.responded
            constructor
            · revert inFlight
              cases target <;> decide
            · refine hasRebuilt_of_suffix ?_ happened.trace_grows
              exact sparesReset.rebuilt happened.pending inFlight stored resetting claimable guarded
                last
        · constructor
          · have onward := (issued_moves_on (issued_when_answered run happened)).1 _ claimable
            exact not_live_of_teardownOwned owned onward
          · exact hasRebuilt_of_suffix rebuilt happened.trace_grows
  · -- The claim is the answer itself: the row is RESETTING and the reset its last mover.
    have isClaim : thread = holder ∧
        effect interaction =
          some (.moved sessionId resettableStatuses .resetting patch guard claim) := by
      obtain ⟨other, member, left'⟩ := mem_effects.mp claimed
      have inTrace := mem_own.mp member
      rw [happened.recorded] at inTrace
      rcases List.mem_cons.mp inTrace with isHead | older
      · obtain ⟨rfl, rfl⟩ := Prod.mk.inj isHead
        exact ⟨rfl, left'⟩
      · exact absurd (mem_effects.mpr ⟨other, mem_own.mpr older, left'⟩) isNew
    obtain ⟨rfl, isEffect⟩ := isClaim
    rw [isEffect] at left
    subst left
    cases step with
    | kept elsewhere => exact absurd rfl (elsewhere _ rfl)
    | moved claimable guarded written =>
        refine ⟨claim, rfl, .inl ⟨?_, ?_⟩⟩
        · rw [written]
          rfl
        · rw [happened.recorded]
          simp [lastMove, moveOf, isEffect]

/-! ### A standing sandbox holds its slot -/

/-- The session's own start saw its build succeed. -/
def BuildSucceeded (sessionId : String) (trace : Trace) : Prop :=
  ∃ thread session limits result, session.sessionId = sessionId ∧ result.ok = true ∧
    [.created (teardownContextFor session) (.ok result), .admitted session limits] <:+
      effects (own thread trace)

theorem BuildSucceeded.of_suffix {sessionId : String} {earlier trace : Trace}
    (succeeded : BuildSucceeded sessionId earlier) (still : earlier <:+ trace) :
    BuildSucceeded sessionId trace := by
  obtain ⟨thread, session, limits, result, named, stands, recorded⟩ := succeeded
  exact ⟨thread, session, limits, result, named, stands,
    recorded.trans (effects_suffix (own_suffix thread still))⟩

/-- A standing sandbox was built, holds its slot, and has not been found gone by a teardown that is about
    to record the ending. -/
structure Standing (sessionId : String) (world : World) (trace : Trace) : Prop where
  gone : ∀ thread source inProgress patch guard row result earlier,
    effects (own thread trace) =
      .destroyed (teardownContextFor row) (.ok result) ::
        .moved sessionId source inProgress patch guard row :: earlier →
    row.sessionId = sessionId → result.ok = true ∧ result.namespaceGone = true →
    isInFlight inProgress = true → source ≠ [.creating] → standing sessionId trace = false
  slot : standing sessionId trace = true →
    ∃ row, world.store.get sessionId = some row ∧ occupiesCapacity row.status = true
  build : standing sessionId trace = true → BuildSucceeded sessionId trace

/-- A teardown that claimed the session owns its row. -/
theorem owned_of_claim {config : SessionConfig} (run : Reaches allowed (boot clock) config)
    {event : Nat × SessionInteraction} {sessionId : String} (member : event ∈ config.trace)
    (claims : claimsTeardown sessionId event.2 = true) {row : LabSession}
    (found : rowOf config sessionId = some row) : isTeardownOwned row.status = true := by
  obtain ⟨thread, interaction⟩ := event
  unfold claimsTeardown at claims
  cases left : effect interaction with
  | none =>
      rw [left] at claims
      cases claims
  | some done =>
      rw [left, Option.any_some] at claims
      cases done with
      | moved id source target patch guard marked =>
          simp only [Effect.claims, Bool.and_eq_true, beq_iff_eq] at claims
          obtain ⟨⟨rfl, inFlight⟩, _⟩ := claims
          cases command_of_moved left
          obtain ⟨named, isStatus, _⟩ := credible_of_trace run member
          have onward := (seen_moves_on run member (List.mem_singleton.mpr rfl)).2 row
            (by rw [named]; exact found)
          refine not_live_of_teardownOwned ?_ onward.1
          rw [isStatus]
          revert inFlight
          cases target <;> decide
      | _ => cases claims

/-- When a provider answers that a sandbox stands, no teardown has claimed the session, and it holds its
    slot. -/
theorem of_answer_stands {before after : SessionConfig} {thread : Nat} {op : SessionOp}
    {reply : Reply} {interaction : SessionInteraction} {sessionId : String} {done : Effect}
    (run : Reaches allowed (boot clock) before)
    (happened : Answered before after thread op reply interaction)
    (holding : Holding sessionId before.world before.trace)
    (held : ResetHeld sessionId before.world before.trace)
    (left : effect interaction = some done) (stands : done.presence sessionId = some true) :
    (∀ event ∈ before.trace, claimsTeardown sessionId event.2 = false) ∧
      (∃ row, after.world.store.get sessionId = some row ∧ occupiesCapacity row.status = true) ∧
      BuildSucceeded sessionId after.trace := by
  have issued := issued_when_answered run happened
  -- An answer of a provider writes no row.
  have sameRow : ¬ done.writes sessionId →
      after.world.store.get sessionId = before.world.store.get sessionId := by
    intro elsewhere
    have step := row_step happened.responded sessionId
    rw [left] at step
    generalize after.world.store.get sessionId = new at step
    generalize before.world.store.get sessionId = old at step
    cases step with
    | kept _ => rfl
    | inserted uid named isRow => exact absurd named elsewhere
    | moved claimable guarded written => exact absurd rfl elsewhere
    | touched active written => exact absurd rfl elsewhere
    | deleted => exact absurd rfl elsewhere
  rcases presence_true stands with ⟨context, result, rfl, rfl, ok⟩ | ⟨context, result, rfl, rfl, ok⟩
  · obtain ⟨provider, lab, rfl⟩ := command_of_created left
    obtain ⟨admitted, unanswered⟩ := unanswered_of_pending run happened.pending
    obtain ⟨row, found, building⟩ := holding.stored admitted
    refine ⟨holding.unclaimed unanswered, ⟨row, (sameRow id).trans found, ?_⟩, ?_⟩
    · exact occupies_of_isBuildStatus (building unanswered)
    · obtain ⟨session, limits, first, rfl⟩ := issued.of_create
      refine ⟨thread, session, limits, result, rfl, ok, ?_⟩
      rewrite [happened.recorded, own_cons_self, effects_cons_some left, first]
      exact List.suffix_refl _
  · obtain ⟨provider, lab, rfl⟩ := command_of_rebuilt left
    obtain ⟨m, patch, guard, claim, _, claimed, untried⟩ := issued.of_reset
    obtain ⟨row, found, resetting⟩ := held.resetting claimed untried
    refine ⟨?_, ⟨row, (sameRow id).trans found, by rw [resetting]; rfl⟩, ?_⟩
    · intro event member
      by_contra claims
      have owned := owned_of_claim run member (Bool.not_eq_false _ ▸ claims) found
      rw [resetting] at owned
      cases owned
    · have live : isLive row.status = true := by
        rw [resetting]
        rfl
      obtain ⟨other, session, limits, result', named, ok', recorded⟩ :=
        activated_by_own_start run (live_activated run found live)
      have succeeded : BuildSucceeded context.sessionId before.trace :=
        ⟨other, session, limits, result', named, ok', recorded⟩
      exact succeeded.of_suffix happened.trace_grows

theorem standing_cons_of_none {sessionId : String} {trace : Trace}
    {event : Nat × SessionInteraction}
    (silent : (effect event.2).bind (Effect.presence sessionId) = none) :
    standing sessionId (event :: trace) = standing sessionId trace := by
  rw [standing, silent, Option.getD_none]

/-- A write that takes the slot of a session whose build succeeded is the ending of a teardown. -/
theorem ending_of_slot_lost {before after : SessionConfig} {thread : Nat} {op : SessionOp}
    {reply : Reply} {sessionId : String} {source : List SessionStatus} {target : SessionStatus}
    {patch : SessionPatch} {guard : TransitionGuard} {row : LabSession}
    (run : Reaches allowed (boot clock) before)
    (happened : Answered before after thread op reply
      ⟨.transition sessionId source target patch guard, .ok (some row)⟩)
    (succeeded : BuildSucceeded sessionId before.trace)
    (lost : occupiesCapacity target = false) :
    ∃ claimable inProgress patch guard marked result earlier,
      effects (own thread before.trace) =
        .destroyed (teardownContextFor marked) (.ok result) ::
          .moved sessionId claimable inProgress patch guard marked :: earlier ∧
      marked.sessionId = sessionId ∧ (result.ok = true ∧ result.namespaceGone = true) ∧
      isInFlight inProgress = true ∧ claimable ≠ [.creating] := by
  have issued := issued_when_answered run happened
  cases issued with
  | quiet isFree => cases isFree
  | activate isBuilt stands => cases lost
  | @failStart failing limits answer cleanup _ _ _ failed unusable onlyCleanup =>
      -- The start that fails is the one that saw the build succeed.
      obtain ⟨other, session, limits', result, named, ok, recorded⟩ := succeeded
      have suffix : [.created (teardownContextFor failing) answer, .admitted failing limits] <:+
          effects (own thread before.trace) := by
        rw [failed]
        exact List.suffix_append cleanup _
      rw [one_build run suffix recorded named.symm, buildFailed, ok] at unusable
      cases unusable
  | claimReset resets first => cases lost
  | release resets claimed onlyRebuilt untried releases =>
      rcases releases with rfl | rfl
      · cases lost
      · cases lost
  | recover platform => cases lost
  | stopped => cases lost
  | handOver handsOver => cases lost
  | defer defers =>
      rcases defers with ⟨_, rfl, _⟩ | ⟨_, rfl, _⟩
      · cases lost
      · cases lost
  | claim claims => cases claims <;> cases lost
  | finish destroyed gone pair reasoned claimed =>
      refine ⟨_, _, _, _, _, _, _, destroyed, rfl, gone, ?_, claimed⟩
      cases pair <;> rfl

/-- The step lemma. -/
theorem standing_step {before after : SessionConfig} {thread : Nat} {op : SessionOp}
    {reply : Reply} {interaction : SessionInteraction} {sessionId : String}
    (run : Reaches allowed (boot clock) before)
    (spares : SparesBuild sessionId before (.resume thread reply))
    (happened : Answered before after thread op reply interaction)
    (holding : Holding sessionId before.world before.trace)
    (held : ResetHeld sessionId before.world before.trace)
    (standing' : Standing sessionId before.world before.trace) :
    Standing sessionId after.world after.trace := by
  have answerStands : (effect interaction).bind (Effect.presence sessionId) = some true →
      (∀ event ∈ before.trace, claimsTeardown sessionId event.2 = false) ∧
        (∃ row, after.world.store.get sessionId = some row ∧
          occupiesCapacity row.status = true) ∧ BuildSucceeded sessionId after.trace := by
    intro stands
    obtain ⟨done, left, present⟩ := Option.bind_eq_some_iff.mp stands
    exact of_answer_stands run happened holding held left present
  constructor
  · intro other source inProgress patch guard row result earlier recorded named gone inFlight claims
    rw [happened.recorded] at recorded ⊢
    by_cases same : thread = other
    · subst same
      rw [own_cons_self] at recorded
      cases left : effect interaction with
      | none =>
          rw [effects_cons_none left] at recorded
          rw [standing_cons_of_none (by rw [left]; rfl)]
          exact standing'.gone _ _ _ _ _ _ _ _ recorded named gone inFlight claims
      | some done =>
          rw [effects_cons_some left] at recorded
          obtain ⟨rfl, _⟩ := List.cons.inj recorded
          simp [standing, left, Effect.presence, teardownContextFor, named, gone]
    · rw [own_cons_of_ne same] at recorded
      have wasGone := standing'.gone _ _ _ _ _ _ _ _ recorded named gone inFlight claims
      cases present : (effect interaction).bind (Effect.presence sessionId) with
      | none =>
          rw [standing_cons_of_none present]
          exact wasGone
      | some stands =>
          rw [standing, present, Option.getD_some]
          cases stands with
          | false => rfl
          | true =>
              -- The teardown's own claim is on record, so no build or reset can be answered now.
              have marked : Effect.moved sessionId source inProgress patch guard row ∈
                  effects (own other before.trace) := by
                rw [recorded]
                exact List.mem_cons_of_mem _ List.mem_cons_self
              obtain ⟨read, member, left⟩ := mem_effects.mp marked
              have none := (answerStands present).1 _ (mem_own.mp member)
              simp [claimsTeardown, left, Effect.claims, inFlight, claims] at none
  · intro stands
    cases present : (effect interaction).bind (Effect.presence sessionId) with
    | some isPresent =>
        rw [happened.recorded, standing, present, Option.getD_some] at stands
        subst stands
        exact (answerStands present).2.1
    | none =>
        rw [happened.recorded, standing_cons_of_none present] at stands
        obtain ⟨current, found, occupying⟩ := standing'.slot stands
        have step := row_step happened.responded sessionId
        generalize left : effect interaction = done at step
        generalize after.world.store.get sessionId = new at step
        rw [found] at step
        cases step with
        | kept elsewhere => exact ⟨current, rfl, occupying⟩
        | @touched _ row atTime active written =>
            refine ⟨row, rfl, ?_⟩
            rw [written]
            exact occupying
        | deleted =>
            cases command_of_deleted left
            exact (spares.not_deleted run happened).elim
        | @moved source target patch guard _ row claimable guarded written =>
            refine ⟨row, rfl, ?_⟩
            have isTarget : row.status = target := by
              rw [written]
              rfl
            rw [isTarget]
            by_contra lost
            cases command_of_moved left
            obtain ⟨claimable', inProgress, patch', guard', marked, result, earlier, recorded, named,
              gone, inFlight, claims⟩ := ending_of_slot_lost run happened (standing'.build stands)
                (Bool.not_eq_true _ ▸ lost)
            rw [standing'.gone _ _ _ _ _ _ _ _ recorded named gone inFlight claims] at stands
            cases stands
  · intro stands
    cases present : (effect interaction).bind (Effect.presence sessionId) with
    | some isPresent =>
        rw [happened.recorded, standing, present, Option.getD_some] at stands
        subst stands
        exact (answerStands present).2.2
    | none =>
        rw [happened.recorded, standing_cons_of_none present] at stands
        exact (standing'.build stands).of_suffix happened.trace_grows

/-- The run lemma. -/
theorem standing_of_reaches {sessionId : String} {config : SessionConfig}
    (spared : ∀ config move, allowed config move →
      SparesBuild sessionId config move ∧ SparesReset sessionId config move)
    (run : Reaches allowed (boot clock) config) :
    ResetHeld sessionId config.world config.trace ∧
      Standing sessionId config.world config.trace := by
  refine Reaches.keeps_state
    (fun (world : World) (trace : Trace) => ResetHeld sessionId world trace ∧
      Standing sessionId world trace)
    (fun _ _ _ kept => ⟨kept.1, kept.2.gone, kept.2.slot, kept.2.build⟩) ?_
    (.refl : Reaches allowed (boot clock) (boot clock)) run ?_
  · intro before after thread op reply interaction reached meets happened kept
    have holding := holding_of_reaches (fun config move meets => (spared config move meets).1)
      reached
    have spares := spared _ _ meets
    constructor
    · exact resetHeld_step reached spares.1 spares.2 happened kept.1
    · exact standing_step reached spares.1 happened holding kept.1 kept.2
  · constructor
    · intro thread patch guard claim claimed
      cases claimed
    · constructor
      · intro thread source inProgress patch guard row result earlier recorded
        cases recorded
      · intro impossible
        cases impossible
      · intro impossible
        cases impossible

/-! ### No more sandboxes than slots -/

/-- A start or a reset of the session is inside its provider. -/
def Building (config : SessionConfig) (sessionId : String) : Prop :=
  ∃ thread provider lab context, context.sessionId = sessionId ∧
    (config.pending thread = some (.create provider lab context) ∨
      config.pending thread = some (.reset provider lab context))

/-- Every session that is being built or rebuilt, or whose sandbox stands, holds its slot. -/
theorem slot_of_sandbox {sessionId : String} {config : SessionConfig}
    (spared : ∀ config move, allowed config move →
      SparesBuild sessionId config move ∧ SparesReset sessionId config move)
    (run : Reaches allowed (boot clock) config)
    (exists' : Building config sessionId ∨ standing sessionId config.trace = true) :
    ∃ row, rowOf config sessionId = some row ∧ occupiesCapacity row.status = true := by
  obtain ⟨held, stands⟩ := standing_of_reaches spared run
  rcases exists' with ⟨thread, provider, lab, context, rfl, building | rebuilding⟩ | isStanding
  · exact slot_of_building (fun config move meets => (spared config move meets).1) run building
  · obtain ⟨op, _, issued⟩ := issued_when_pending run rebuilding
    obtain ⟨m, patch, guard, claim, _, claimed, untried⟩ := issued.of_reset
    obtain ⟨row, found, resetting⟩ := held.resetting claimed untried
    exact ⟨row, found, by rw [resetting]; rfl⟩
  · exact stands.slot isStanding

/-- Distinct sessions with a row that counts are no more than the rows that count. -/
theorem length_le_countP {store : InMemorySessionStore} {counts : LabSession → Bool}
    {sessionIds : List String} (distinct : sessionIds.Nodup)
    (rows : ∀ sessionId ∈ sessionIds, ∃ row, store.get sessionId = some row ∧ counts row = true) :
    sessionIds.length ≤ store.sessions.countP counts := by
  have named : sessionIds ⊆ (store.sessions.filter counts).map LabSession.sessionId := by
    intro sessionId member
    obtain ⟨row, found, isCounted⟩ := rows sessionId member
    rw [List.mem_map]
    refine ⟨row, List.mem_filter.mpr ⟨Keyed.mem_of_lookup found, isCounted⟩, ?_⟩
    exact InMemorySessionStore.sessionId_of_get found
  have bounded := (List.Nodup.subperm distinct named).length_le
  rw [List.length_map] at bounded
  rw [List.countP_eq_length_filter]
  exact bounded

/-- Does this move leave builds and resets alone, and start within the ceilings? -/
def holdsSlots (ceiling : Nat) (limitOf : String → Nat) (config : SessionConfig)
    (move : SessionMove) : Bool :=
  sparesBuild config move && sparesReset config move && startsWithin ceiling limitOf move

/-- Builds and resets are left alone, and every start is within the ceilings. -/
def HoldsSlots (ceiling : Nat) (limitOf : String → Nat) (config : SessionConfig)
    (move : SessionMove) : Prop :=
  holdsSlots ceiling limitOf config move = true

instance (ceiling : Nat) (limitOf : String → Nat) : DecidableRel (HoldsSlots ceiling limitOf) :=
  fun config move => inferInstanceAs (Decidable (holdsSlots ceiling limitOf config move = true))

/-- A build holds its slot. As long as no reaper and no shutdown acts on a session, and nobody joins a
    teardown of it before its build has been answered, its row has an occupying status whenever its start
    is inside `provider.create`. And where that is so of every session, no teardown claims a session
    whose reset the provider has not answered, and all starts share the ceilings, the sandboxes that are
    being built or stand are within the ceilings. -/
theorem build_holds_slot (config : SessionConfig) :
    (∀ sessionId, Reaches (SparesBuild sessionId) (boot clock) config →
      ∀ thread provider lab context,
        config.pending thread = some (.create provider lab context) →
          context.sessionId = sessionId →
            ∃ row, rowOf config sessionId = some row ∧ occupiesCapacity row.status = true) ∧
      ∀ (ceiling : Nat) (limitOf : String → Nat),
        Reaches (HoldsSlots ceiling limitOf) (boot clock) config →
          ∀ sessionIds : List String, sessionIds.Nodup →
            (∀ sessionId ∈ sessionIds,
              Building config sessionId ∨ standing sessionId config.trace = true) →
              sessionIds.length ≤ ceiling ∧
                ∀ owner, (∀ sessionId ∈ sessionIds, ∃ row, rowOf config sessionId = some row ∧
                    row.ownerUserId = some owner) →
                  sessionIds.length ≤ limitOf owner := by
  constructor
  · intro sessionId run thread provider lab context building named
    subst named
    exact slot_of_building (fun _ _ meets => meets) run building
  · intro ceiling limitOf run sessionIds distinct exist
    have parts : ∀ config move, HoldsSlots ceiling limitOf config move →
        sparesBuild config move = true ∧ sparesReset config move = true ∧
          startsWithin ceiling limitOf move = true := by
      intro config move meets
      rw [HoldsSlots, holdsSlots, Bool.and_eq_true, Bool.and_eq_true] at meets
      exact ⟨meets.1.1, meets.1.2, meets.2⟩
    have slots : ∀ sessionId ∈ sessionIds, ∃ row, rowOf config sessionId = some row ∧
        occupiesCapacity row.status = true := by
      intro sessionId member
      refine slot_of_sandbox (fun config move meets => ?_) run (exist sessionId member)
      exact ⟨fun _ => (parts config move meets).1, fun _ => (parts config move meets).2.1⟩
    have within : Within ceiling limitOf config.world.store :=
      within_of_reaches (fun config move meets => (parts config move meets).2.2) run
    constructor
    · have bounded := length_le_countP distinct slots
      rw [← countOccupying_eq_countP] at bounded
      exact bounded.trans within.1
    · intro owner owned
      refine (length_le_countP distinct fun sessionId member => ?_).trans (within.2 owner)
      obtain ⟨row, found, occupying⟩ := slots sessionId member
      obtain ⟨row', found', isOwner⟩ := owned sessionId member
      rw [found] at found'
      cases found'
      exact ⟨row, found, by simp [occupying, isOwner]⟩

/-- Thread 0 starts a lab with a limit of one and is inside `provider.create`; thread 1 presses End, which
    only marks the session. -/
def markedBuild : SessionConfig :=
  (boot 0).after (HoldsSlots 1 fun _ => 1)
    (startUntilCreate "sess-0000001" { ownerSessionLimit := some 1 } ++
      ([.spawn (.endSession (labInstance 0) "sess-0000001")] : List SessionMove) ++ goOn 1 3)

theorem build_holds_slot_markedBuild :
    Building markedBuild "sess-0000001" ∧
      (∃ row, rowOf markedBuild "sess-0000001" = some row ∧ occupiesCapacity row.status = true) ∧
      ["sess-0000001"].length ≤ 1 := by
  have run : Reaches (HoldsSlots 1 fun _ => 1) (boot 0) markedBuild :=
    Config.reaches_after (by decide)
  have spared : Reaches (SparesBuild "sess-0000001") (boot 0) markedBuild := by
    apply run.weaken
    intro config move meets _
    rw [HoldsSlots, holdsSlots, Bool.and_eq_true, Bool.and_eq_true] at meets
    exact meets.1.1
  have inCreate : ∃ lab, markedBuild.pending 0 = some (.create .linux lab endPressedContext) :=
    ⟨{ id := "lab-1", track := "linux", provider := .linux }, by decide⟩
  obtain ⟨lab, pending⟩ := inCreate
  have building : Building markedBuild "sess-0000001" :=
    ⟨0, .linux, lab, endPressedContext, rfl, .inl pending⟩
  refine ⟨building, (build_holds_slot markedBuild).1 _ spared 0 _ _ _ pending rfl, ?_⟩
  have sandboxes : ∀ sessionId ∈ ["sess-0000001"],
      Building markedBuild sessionId ∨ standing sessionId markedBuild.trace = true := by
    intro sessionId member
    rw [List.mem_singleton.mp member]
    exact .inl building
  exact ((build_holds_slot markedBuild).2 1 (fun _ => 1) run _ (List.nodup_singleton _) sandboxes).1

/-- Only students and operators call: starts, resets, touches, Ends and operators' ends. -/
def UsersOnly (_ : SessionConfig) : SessionMove → Prop
  | .spawn op => op.byPlatform = false
  | _ => True

instance : DecidableRel UsersOnly := fun _ move =>
  match move with
  | .spawn op => inferInstanceAs (Decidable (op.byPlatform = false))
  | .resume _ _ => isTrue trivial
  | .evolve _ => isTrue trivial

/-- A student presses End twice while the lab is being built. The first End marks the session; the second
    claims it, destroys nothing, and records ENDED with the build still under way. -/
def endedTwice : SessionConfig :=
  (boot 0).after UsersOnly (startUntilCreate "sess-0000001" ++
    ([.spawn (.endSession (labInstance 0) "sess-0000001")] : List SessionMove) ++ goOn 1 3 ++
    ([.spawn (.endSession (labInstance 0) "sess-0000001")] : List SessionMove) ++ goOn 2 3 ++
    ([.resume 2 (.destroyed sandboxGone)] : List SessionMove) ++ goOn 2 3)

/-- Without the condition a second End releases the slot of a build. -/
theorem second_end_releases_building_slot :
    ¬ ∀ (clock : Instant) (config : SessionConfig), Reaches UsersOnly (boot clock) config →
      ∀ thread provider lab context,
        config.pending thread = some (.create provider lab context) →
          ∃ row, rowOf config context.sessionId = some row ∧
            occupiesCapacity row.status = true := by
  intro holds
  have run : Reaches UsersOnly (boot 0) endedTwice := Config.reaches_after (by decide)
  have pending : endedTwice.pending 0 = some (.create .linux
      { id := "lab-1", track := "linux", provider := .linux } endPressedContext) := by
    decide
  obtain ⟨row, found, occupying⟩ := holds 0 endedTwice run 0 _ _ _ pending
  have ended : (rowOf endedTwice "sess-0000001").map LabSession.status = some .ended := by
    decide
  rw [show rowOf endedTwice "sess-0000001" = some row from found, Option.map_some,
    Option.some.injEq] at ended
  rw [ended] at occupying
  cases occupying

end JumptotechLabs.Session
