/-
Module: JumptotechLabs.Session.Slots
Layer: Session (services/lab-orchestrator/src/session/manager.ts)
Purpose: A build holds its slot. While students and operators alone act on a session, and no End or
  operator's end joins a teardown in flight before the build has been answered, the row of a session
  that is being built keeps an occupying status.
Main exports: built, sparesBuild, SparesBuild, Holding, holding_of_reaches, slot_of_building
-/
import JumptotechLabs.Session.Destroy

namespace JumptotechLabs.Session

open JumptotechLabs.Core

variable {clock : Instant} {allowed : SessionConfig → SessionMove → Prop}

/-! ### Builds and claims on record -/

/-- Is this the answer of the session's `provider.create`? -/
def Effect.builds (sessionId : String) : Effect → Bool
  | .created context _ => context.sessionId == sessionId
  | _ => false

/-- Has the session's `provider.create` returned or thrown? -/
def built (sessionId : String) (trace : Trace) : Bool :=
  trace.any fun event => (effect event.2).any (Effect.builds sessionId)

/-- Is this a teardown's own claim on the session, one that is not left to the start? -/
def Effect.claims (sessionId : String) : Effect → Bool
  | .moved id source target _ _ _ =>
      id == sessionId && isInFlight target && source != [.creating]
  | _ => false

/-- Did this answered command claim a teardown of the session? -/
def claimsTeardown (sessionId : String) (interaction : SessionInteraction) : Bool :=
  (effect interaction).any (Effect.claims sessionId)

theorem built_cons (sessionId : String) (event : Nat × SessionInteraction) (trace : Trace) :
    built sessionId (event :: trace) =
      ((effect event.2).any (Effect.builds sessionId) || built sessionId trace) := rfl

theorem built_of_mem {sessionId : String} {trace : Trace} {thread : Nat}
    {context : SessionTeardownContext} {answer : Except Failure CreateResult}
    (recorded : Effect.created context answer ∈ effects (own thread trace))
    (named : context.sessionId = sessionId) : built sessionId trace = true := by
  obtain ⟨interaction, member, left⟩ := mem_effects.mp recorded
  rw [built, List.any_eq_true]
  refine ⟨(thread, interaction), mem_own.mp member, ?_⟩
  simp [left, Effect.builds, named]

/-! ### The condition -/

/-- The session whose status a command writes, or whose row it deletes. -/
def subjectOf : Cmd → Option String
  | .transition sessionId _ _ _ _ => some sessionId
  | .delete sessionId => some sessionId
  | _ => none

/-- The session whose row a move acts on. -/
def actsOn (config : SessionConfig) : SessionMove → Option String
  | .resume thread .own => (config.pending thread).bind subjectOf
  | _ => none

/-- Would this write claim a teardown that is already in flight? -/
def joinsTeardown (store : InMemorySessionStore) : Cmd → Bool
  | .transition sessionId source target _ guard =>
      isInFlight target && (store.get sessionId).any fun row =>
        row.status == target && source.contains row.status &&
          InMemorySessionStore.meetsGuard guard row
  | _ => false

/-- Does this write leave the build of its session alone? It is a student's or an operator's, and it
    joins no teardown in flight before `provider.create` has been answered. -/
def sparesBuild (config : SessionConfig) : SessionMove → Bool
  | .resume thread .own =>
      match config.opOf thread, config.pending thread with
      | some op, some command =>
          (subjectOf command).all fun sessionId =>
            !op.byPlatform &&
              (!joinsTeardown config.world.store command || built sessionId config.trace)
      | _, _ => true
  | _ => true

/-- No reaper and no shutdown acts on the session, and nobody joins a teardown of it before its build
    has been answered. -/
def SparesBuild (sessionId : String) (config : SessionConfig) (move : SessionMove) : Prop :=
  actsOn config move = some sessionId → sparesBuild config move = true

section Condition

variable {sessionId : String} {config : SessionConfig} {thread : Nat} {op : SessionOp}

theorem SparesBuild.users {command : Cmd}
    (spares : SparesBuild sessionId config (.resume thread .own))
    (runs : config.opOf thread = some op) (pending : config.pending thread = some command)
    (writes : subjectOf command = some sessionId) : op.byPlatform = false := by
  have meets := spares (by simp [actsOn, pending, writes])
  simp only [sparesBuild, runs, pending, writes, Option.all_some, Bool.and_eq_true,
    Bool.not_eq_true'] at meets
  exact meets.1

theorem SparesBuild.answered {source : List SessionStatus} {target : SessionStatus}
    {patch : SessionPatch} {guard : TransitionGuard} {row : LabSession}
    (spares : SparesBuild sessionId config (.resume thread .own))
    (runs : config.opOf thread = some op)
    (pending : config.pending thread = some (.transition sessionId source target patch guard))
    (inFlight : isInFlight target = true) (found : rowOf config sessionId = some row)
    (joins : row.status = target) (claimable : row.status ∈ source)
    (guarded : InMemorySessionStore.meetsGuard guard row = true) :
    built sessionId config.trace = true := by
  have meets := spares (by simp [actsOn, pending, subjectOf])
  unfold rowOf at found
  subst joins
  simp only [sparesBuild, runs, pending, subjectOf, Option.all_some, Bool.and_eq_true] at meets
  simpa [joinsTeardown, inFlight, found, claimable, guarded] using meets.2

end Condition

/-- Only the platform expires. -/
theorem byPlatform_of_expires {op : SessionOp} (expires : op.expires = true) :
    op.byPlatform = true := by
  cases op with
  | expire m sessionId reason claimGuard => rfl
  | sweep r => rfl
  | _ => cases expires

/-! ### The build is over -/

/-- Once a thread has seen that a build is over, the row is not CREATING. -/
theorem not_creating_of_buildOver {config : SessionConfig}
    (run : Reaches allowed (boot clock) config) {thread : Nat} {sessionId : String}
    (isOver : BuildOver sessionId (own thread config.trace)) {row : LabSession}
    (found : rowOf config sessionId = some row) : row.status ≠ .creating := by
  rcases isOver with ⟨read, member, seen, isShown, named, past⟩ | ⟨target, patch, earlier, missed, known⟩
  · have onward := (seen_moves_on run (mem_own.mp member) isShown).2 row (by rw [named]; exact found)
    exact not_creating_later past onward.1
  · obtain ⟨later, split⟩ := missed
    obtain ⟨laterTrace, earlierTrace, traceSplit, isEarlier⟩ := own_split split.symm
    obtain ⟨before, after, op, reply, reached, _, happened, isTrace, step, rest⟩ :=
      run.moment traceSplit
    rw [← isEarlier, ← isTrace] at known
    have admitted := (admitted_of_known reached known).of_suffix happened.trace_grows
    refine settled_along_run (fun row => row.status ≠ .creating) ?_ (reached.trans step) rest
      admitted ?_ row found
    · intro before after thread op reply interaction current next reached _ happened found found'
        past
      rcases onward_step reached happened found with ⟨_, absent⟩ | ⟨row', found'', onward⟩
      · rw [absent] at found'
        cases found'
      · rw [found''] at found'
        cases found'
        exact not_creating_later past onward.1
    · intro current stored
      rcases respond_transition happened.responded with ⟨_, impossible, _⟩ | ⟨moved, isMoved, ran⟩
      · cases impossible
      · cases isMoved
        rcases InMemorySessionStore.transition_cases ran with ⟨_, same⟩ | ⟨_, _, _, _, impossible, _⟩
        · rw [rowOf, same] at stored
          have missed := get_of_transition_none ran stored
          simpa using missed
        · cases impossible

/-! ### The row of a session being built -/

/-- The statuses of a session whose build has not been answered. -/
def isBuildStatus (status : SessionStatus) : Bool := status == .creating || isInFlight status

theorem occupies_of_isBuildStatus {status : SessionStatus} (building : isBuildStatus status = true) :
    occupiesCapacity status = true := by
  revert building
  cases status <;> decide

/-- An admitted session keeps its row; and until its build has been answered the row only says that it
    is being built or marked, and no teardown has claimed it. -/
structure Holding (sessionId : String) (world : World) (trace : Trace) : Prop where
  unclaimed : built sessionId trace = false → ∀ event ∈ trace,
    claimsTeardown sessionId event.2 = false
  stored : Admitted sessionId trace → ∃ row, world.store.get sessionId = some row ∧
    (built sessionId trace = false → isBuildStatus row.status = true)

/-- What a student's or an operator's write can do to a session whose build has not been answered: leave
    a teardown to the start. -/
theorem only_defers {before after : SessionConfig} {thread : Nat} {op : SessionOp} {reply : Reply}
    {sessionId : String} {source : List SessionStatus} {target : SessionStatus}
    {patch : SessionPatch} {guard : TransitionGuard} {current row : LabSession}
    (run : Reaches allowed (boot clock) before)
    (spares : SparesBuild sessionId before (.resume thread reply))
    (happened : Answered before after thread op reply
      ⟨.transition sessionId source target patch guard, .ok (some row)⟩)
    (holding : Holding sessionId before.world before.trace)
    (unanswered : built sessionId before.trace = false)
    (found : rowOf before sessionId = some current)
    (building : isBuildStatus current.status = true) (claimable : current.status ∈ source)
    (guarded : InMemorySessionStore.meetsGuard guard current = true) :
    source = [.creating] ∧ isInFlight target = true := by
  have issued := issued_when_answered run happened
  cases own_of_moved happened.responded
  have users := spares.users happened.opOf happened.pending rfl
  -- A claim that lands on a session in this state joins a teardown in flight.
  have joins : isInFlight target = true → current.status = target → False := by
    intro inFlight same
    have answered := spares.answered happened.opOf happened.pending inFlight found same claimable
      guarded
    rw [unanswered] at answered
    cases answered
  have noBuild : ∀ {context answer}, Effect.created context answer ∈
      effects (own thread before.trace) → context.sessionId = sessionId → False := by
    intro context answer recorded named
    have answered := built_of_mem recorded named
    rw [unanswered] at answered
    cases answered
  have notLive : ∀ {statuses : List SessionStatus}, current.status ∈ statuses →
      (∀ status ∈ statuses, isBuildStatus status = false) → False := by
    intro statuses member others
    have other := others _ member
    rw [building] at other
    cases other
  cases issued with
  | quiet isFree => cases isFree
  | activate isBuilt stands =>
      exact (noBuild (by rw [isBuilt]; exact List.mem_cons_self) rfl).elim
  | failStart failed unusable onlyCleanup =>
      refine (noBuild (by rw [failed]; exact List.mem_append_right _ List.mem_cons_self) rfl).elim
  | claimReset resets first => exact (notLive claimable (by decide)).elim
  | release resets claimed onlyRebuilt untried releases =>
      exact (notLive claimable (by decide)).elim
  | recover platform => exact (notLive claimable (by decide)).elim
  | stopped => exact (notLive claimable (by decide)).elim
  | handOver handsOver =>
      subst handsOver
      cases users
  | defer defers =>
      rcases defers with ⟨_, rfl, _⟩ | ⟨_, rfl, _⟩
      · exact ⟨rfl, rfl⟩
      · exact ⟨rfl, rfl⟩
  | claim claims =>
      cases claims with
      | student isOver =>
          have past := not_creating_of_buildOver run isOver found
          refine (joins rfl ?_).elim
          revert claimable building past
          cases current.status <;> decide
      | expiry _ _ expires =>
          rw [byPlatform_of_expires expires] at users
          cases users
      | operator isOver =>
          have past := not_creating_of_buildOver run isOver found
          refine (past ?_).elim
          revert claimable building
          cases current.status <;> decide
      | resumed read isShown named unfinished abandoned =>
          exact (joins rfl (List.mem_singleton.mp claimable)).elim
      | helped fallback read isShown named expiring =>
          exact (joins rfl (List.mem_singleton.mp claimable)).elim
  | @finish marked _ claimable' inProgress _ patch' guard' _ _ _ _ destroyed gone pair reasoned
      claimed =>
      have recorded : Effect.moved marked.sessionId claimable' inProgress patch' guard' marked ∈
          effects (own thread before.trace) := by
        rw [destroyed]
        exact List.mem_cons_of_mem _ List.mem_cons_self
      obtain ⟨interaction, member, left⟩ := mem_effects.mp recorded
      have none := holding.unclaimed unanswered _ (mem_own.mp member)
      have inFlight : isInFlight inProgress = true := by cases pair <;> rfl
      simp [claimsTeardown, left, Effect.claims, inFlight, claimed] at none

/-- Only the platform deletes rows, and it leaves this one alone. -/
theorem SparesBuild.not_deleted {before after : SessionConfig} {thread : Nat} {op : SessionOp}
    {reply : Reply} {sessionId : String} (run : Reaches allowed (boot clock) before)
    (spares : SparesBuild sessionId before (.resume thread reply))
    (happened : Answered before after thread op reply ⟨.delete sessionId, .ok ()⟩) : False := by
  have issued := issued_when_answered run happened
  have isOwn : reply = .own := by
    have responded := happened.responded
    cases reply with
    | own => rfl
    | _ => cases responded
  subst isOwn
  have users := spares.users happened.opOf happened.pending rfl
  cases issued with
  | quiet isFree => cases isFree
  | forget platform =>
      rw [platform] at users
      cases users

/-- The step lemma. -/
theorem holding_step {before after : SessionConfig} {thread : Nat} {op : SessionOp} {reply : Reply}
    {interaction : SessionInteraction} {sessionId : String}
    (run : Reaches allowed (boot clock) before)
    (spares : SparesBuild sessionId before (.resume thread reply))
    (happened : Answered before after thread op reply interaction)
    (holding : Holding sessionId before.world before.trace) :
    Holding sessionId after.world after.trace := by
  have issued := issued_when_answered run happened
  have unansweredBefore : built sessionId after.trace = false →
      built sessionId before.trace = false := by
    intro unanswered
    rw [happened.recorded, built_cons, Bool.or_eq_false_iff] at unanswered
    exact unanswered.2
  have step := row_step happened.responded sessionId
  generalize left : effect interaction = done at step
  generalize stored : before.world.store.get sessionId = old at step
  generalize stored' : after.world.store.get sessionId = new at step
  -- A command that claims no teardown of the session adds no claim to the record.
  have stillUnclaimed : claimsTeardown sessionId interaction = false →
      built sessionId after.trace = false → ∀ event ∈ after.trace,
        claimsTeardown sessionId event.2 = false := by
    intro quiet unanswered event member
    rw [happened.recorded] at member
    rcases List.mem_cons.mp member with rfl | old
    · exact quiet
    · exact holding.unclaimed (unansweredBefore unanswered) event old
  cases step with
  | kept elsewhere =>
      constructor
      · apply stillUnclaimed
        rw [claimsTeardown, left]
        cases done with
        | none => rfl
        | some done =>
            cases done with
            | moved id source target patch guard row =>
                have differs : id ≠ sessionId := elsewhere _ rfl
                simp [Effect.claims, differs]
            | _ => rfl
      · intro admitted
        have wasAdmitted : Admitted sessionId before.trace := by
          obtain ⟨other, session, limits, member, named⟩ := admitted
          rw [happened.recorded] at member
          rcases List.mem_cons.mp member with isNew | old
          · cases isNew
            cases left
            exact absurd named (elsewhere _ rfl)
          · exact ⟨other, session, limits, old, named⟩
        obtain ⟨row, found, building⟩ := holding.stored wasAdmitted
        refine ⟨row, ?_, fun unanswered => building (unansweredBefore unanswered)⟩
        rw [stored', ← stored]
        exact found
  | @inserted session row limits uid named isRow =>
      constructor
      · apply stillUnclaimed
        simp [claimsTeardown, left, Effect.claims]
      · intro _
        refine ⟨row, stored', fun _ => ?_⟩
        cases command_of_admitted left
        obtain ⟨_, _, _, _, _, _, _, _, _, isCandidate, _⟩ := issued.of_createWithinLimits
        rw [isRow, isCandidate]
        rfl
  | @touched current row atTime active written =>
      constructor
      · apply stillUnclaimed
        simp [claimsTeardown, left, Effect.claims]
      · intro _
        obtain ⟨row', found, building⟩ := holding.stored (stored_admitted run stored)
        rw [stored] at found
        cases found
        refine ⟨row, stored', fun unanswered => ?_⟩
        rw [written]
        exact building (unansweredBefore unanswered)
  | deleted =>
      cases command_of_deleted left
      exact (spares.not_deleted run happened).elim
  | @moved source target patch guard current row claimable guarded written =>
      cases command_of_moved left
      have isTarget : row.status = target := by
        rw [written]
        rfl
      obtain ⟨row', found, building⟩ := holding.stored (stored_admitted run stored)
      rw [stored] at found
      cases found
      have defers : built sessionId after.trace = false →
          source = [.creating] ∧ isInFlight target = true := by
        intro unanswered
        have unanswered' := unansweredBefore unanswered
        exact only_defers run spares happened holding unanswered' stored (building unanswered')
          claimable guarded
      constructor
      · intro unanswered
        refine stillUnclaimed ?_ unanswered
        rw [claimsTeardown, left, (defers unanswered).1]
        simp [Effect.claims]
      · intro _
        refine ⟨row, stored', fun unanswered => ?_⟩
        rw [isTarget, isBuildStatus, (defers unanswered).2, Bool.or_true]

/-- The run lemma. -/
theorem holding_of_reaches {sessionId : String} {config : SessionConfig}
    (spared : ∀ config move, allowed config move → SparesBuild sessionId config move)
    (run : Reaches allowed (boot clock) config) : Holding sessionId config.world config.trace := by
  refine Reaches.keeps_state (Holding sessionId) (fun _ _ _ kept => ⟨kept.unclaimed, kept.stored⟩)
    (fun before after thread op reply interaction reached meets happened =>
      holding_step reached (spared _ _ meets) happened)
    (.refl : Reaches allowed (boot clock) (boot clock)) run ?_
  constructor
  · intro _ event member
    cases member
  · rintro ⟨thread, session, limits, member, _⟩
    cases member

/-- A start that is inside `provider.create` has admitted its session, and no build of that session has
    been answered. -/
theorem unanswered_of_pending {config : SessionConfig} (run : Reaches allowed (boot clock) config)
    {thread : Nat} {provider : LabProviderId} {lab : Lab} {context : SessionTeardownContext}
    (building : config.pending thread = some (.create provider lab context)) :
    Admitted context.sessionId config.trace ∧ built context.sessionId config.trace = false := by
  obtain ⟨op, _, issued⟩ := issued_when_pending run building
  obtain ⟨session, limits, first, rfl⟩ := issued.of_create
  have admitted : (thread, ⟨.createWithinLimits session limits, .ok .admitted⟩) ∈ config.trace := by
    have recorded : Effect.admitted session limits ∈ effects (own thread config.trace) := by
      rw [first]
      exact List.mem_singleton.mpr rfl
    obtain ⟨interaction, member, left⟩ := mem_effects.mp recorded
    cases command_of_admitted left
    exact mem_own.mp member
  constructor
  · exact ⟨thread, session, limits, admitted, rfl⟩
  · -- An answered build of this session would be this thread's own.
    by_contra answered
    rw [Bool.not_eq_false, built, List.any_eq_true] at answered
    obtain ⟨⟨other, interaction⟩, member, builds⟩ := answered
    cases left : effect interaction with
    | none =>
        rw [left] at builds
        cases builds
    | some done =>
        rw [left, Option.any_some] at builds
        cases done with
        | created context answer =>
            have named : context.sessionId = session.sessionId := beq_iff_eq.mp builds
            obtain ⟨later, earlier, split⟩ := List.append_of_mem member
            obtain ⟨before, after, op', reply, reached, _, happened, _, step, rest⟩ :=
              run.moment split
            obtain ⟨provider', lab', rfl⟩ := command_of_created left
            obtain ⟨session', limits', first', rfl⟩ :=
              (issued_when_answered reached happened).of_create
            have recorded : Effect.admitted session' limits' ∈
                effects (own other before.trace) := by
              rw [first']
              exact List.mem_singleton.mpr rfl
            obtain ⟨interaction', member', left'⟩ := mem_effects.mp recorded
            cases command_of_admitted left'
            have still := (step.trans rest).trace_extends.subset (mem_own.mp member')
            cases admitted_by_one run still admitted named
            have mine := mem_effects.mpr ⟨_, mem_own.mpr member, left⟩
            rw [first] at mine
            cases List.mem_singleton.mp mine
        | _ => cases builds

/-- A session that is inside `provider.create` holds its slot. -/
theorem slot_of_building {config : SessionConfig} {thread : Nat} {provider : LabProviderId}
    {lab : Lab} {context : SessionTeardownContext}
    (spared : ∀ config move, allowed config move → SparesBuild context.sessionId config move)
    (run : Reaches allowed (boot clock) config)
    (building : config.pending thread = some (.create provider lab context)) :
    ∃ row, rowOf config context.sessionId = some row ∧ occupiesCapacity row.status = true := by
  obtain ⟨admitted, unanswered⟩ := unanswered_of_pending run building
  obtain ⟨row, found, isBuilding⟩ := (holding_of_reaches spared run).stored admitted
  exact ⟨row, found, occupies_of_isBuildStatus (isBuilding unanswered)⟩

end JumptotechLabs.Session
