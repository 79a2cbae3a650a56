/-
Module: JumptotechLabs.Session.Lifecycle
Layer: Session (services/lab-orchestrator/src/session/manager.ts, store.ts)
Purpose: What a session's row can become, over every run of managers and reapers. Statuses only move
  along `laterStatuses`; a session id is drawn and admitted once; so what was true of a row when a
  thread saw it, and every allowed write keeps, is still true of whatever row there is.
Main exports: issued_when_answered, laterStatuses, issued_moves_on, Admitted, admitted_once,
  stored_admitted, settled_since, settled_along_run, seen_moves_on
-/
import JumptotechLabs.Session.Conduct

namespace JumptotechLabs.Session

open JumptotechLabs.Core

variable {allowed : SessionConfig → SessionMove → Prop} {clock : Instant}

/-! ### The discipline, on runs -/

/-- The command a thread is answered was allowed by the thread's own history. -/
theorem issued_when_answered {before after : SessionConfig} {thread : Nat} {op : SessionOp}
    {reply : Reply} {interaction : SessionInteraction}
    (run : Reaches allowed (boot clock) before)
    (happened : Answered before after thread op reply interaction) :
    Issued op (own thread before.trace) interaction.command := by
  obtain ⟨rest, waiting, _⟩ := happened.resumed
  exact Config.issued_of_reaches (D := discipline) body_keeps
    (fun _ _ _ _ _ _ _ responded => credible_of_respond responded) run waiting

/-- The same for a command a thread still waits on. -/
theorem issued_when_pending {config : SessionConfig} {thread : Nat} {command : Cmd}
    (run : Reaches allowed (boot clock) config)
    (pending : config.pending thread = some command) :
    ∃ op, config.opOf thread = some op ∧ Issued op (own thread config.trace) command := by
  obtain ⟨op, rest, waiting⟩ := Config.waiting_of_pending pending
  refine ⟨op, by simp [Config.opOf, waiting], ?_⟩
  exact Config.issued_of_reaches (D := discipline) body_keeps
    (fun _ _ _ _ _ _ _ responded => credible_of_respond responded) run waiting

/-- Every answer a thread got was credible. -/
theorem credible_of_trace {config : SessionConfig} (run : Reaches allowed (boot clock) config)
    {thread : Nat} {command : Cmd} {answer : Except Failure command.Ans}
    (member : (thread, ⟨command, answer⟩) ∈ config.trace) : Credible command answer := by
  obtain ⟨later, earlier, split⟩ := List.append_of_mem member
  obtain ⟨before, after, op, reply, _, _, happened, _, _, _⟩ := run.moment split
  exact credible_of_respond happened.responded

/-! ### Where a status can go -/

/-- The statuses a row can have from a status on. -/
def laterStatuses : SessionStatus → List SessionStatus
  | .creating =>
      [.creating, .active, .resetting, .degraded, .expiring, .expired, .ending, .ended, .failed]
  | .active | .resetting | .degraded =>
      [.active, .resetting, .degraded, .expiring, .expired, .ending, .ended]
  | .expiring => [.expiring, .expired]
  | .ending => [.ending, .ended]
  | .expired => [.expired]
  | .ended => [.ended]
  | .failed => [.failed]

theorem laterStatuses_refl (status : SessionStatus) : status ∈ laterStatuses status := by
  cases status <;> decide

theorem laterStatuses_trans {first second third : SessionStatus}
    (onward : second ∈ laterStatuses first) (further : third ∈ laterStatuses second) :
    third ∈ laterStatuses first := by
  revert onward further
  cases first <;> cases second <;> cases third <;> decide

/-- From a status a teardown owns, a row is never live again. -/
theorem not_live_of_teardownOwned {status later : SessionStatus}
    (owned : isTeardownOwned status = true) (onward : later ∈ laterStatuses status) :
    isTeardownOwned later = true := by
  revert owned onward
  cases status <;> cases later <;> decide

/-- No status but CREATING leads to CREATING. -/
theorem not_creating_later {status later : SessionStatus} (built : status ≠ .creating)
    (onward : later ∈ laterStatuses status) : later ≠ .creating := by
  revert built onward
  cases status <;> cases later <;> decide

/-- The statuses a teardown claims a session into. -/
def isInFlight (status : SessionStatus) : Bool := status == .ending || status == .expiring

/-- Every status write any thread issues moves a row on, and moves no activity of a row that a
    teardown owns. -/
theorem issued_moves_on {op : SessionOp} {past : History} {sessionId : String}
    {source : List SessionStatus} {target : SessionStatus} {patch : SessionPatch}
    {guard : TransitionGuard}
    (issued : Issued op past (.transition sessionId source target patch guard)) :
    (∀ status ∈ source, target ∈ laterStatuses status) ∧
      ((∀ status ∈ source, isTeardownOwned status = false) ∨ patch.lastActivityAt = none) := by
  generalize isCommand : Cmd.transition sessionId source target patch guard = command at issued
  cases issued with
  | quiet isFree =>
      rw [← isCommand] at isFree
      cases isFree
  | activate built stands =>
      cases isCommand
      exact ⟨by decide, .inl (by decide)⟩
  | failStart failed unusable onlyCleanup =>
      cases isCommand
      exact ⟨by decide, .inr rfl⟩
  | claimReset resets first =>
      cases isCommand
      exact ⟨by decide, .inl (by decide)⟩
  | release resets claimed onlyRebuilt untried releases =>
      cases isCommand
      rcases releases with rfl | rfl
      · exact ⟨by decide, .inl (by decide)⟩
      · exact ⟨by decide, .inl (by decide)⟩
  | recover platform =>
      cases isCommand
      exact ⟨by decide, .inl (by decide)⟩
  | stopped =>
      cases isCommand
      exact ⟨by decide, .inr rfl⟩
  | handOver handsOver =>
      cases isCommand
      exact ⟨by decide, .inr rfl⟩
  | defer defers =>
      cases isCommand
      rcases defers with ⟨_, rfl, _⟩ | ⟨_, rfl, _⟩
      · exact ⟨by decide, .inr rfl⟩
      · exact ⟨by decide, .inr rfl⟩
  | claim claims =>
      cases isCommand
      cases claims <;> exact ⟨by decide, .inr rfl⟩
  | finish destroyed gone pair reasoned =>
      cases isCommand
      cases pair <;> exact ⟨by decide, .inr rfl⟩
  | _ => cases isCommand

/-! ### One row, along a run -/

/-- What a row becomes: its status moves on, and while a teardown owns it its activity stands
    still. -/
def Onward (before after : LabSession) : Prop :=
  after.status ∈ laterStatuses before.status ∧
    (isTeardownOwned before.status = true → after.lastActivityAt = before.lastActivityAt)

theorem Onward.refl (row : LabSession) : Onward row row := ⟨laterStatuses_refl _, fun _ => rfl⟩

theorem Onward.trans {first second third : LabSession} (one : Onward first second)
    (two : Onward second third) : Onward first third := by
  refine ⟨laterStatuses_trans one.1 two.1, fun owned => ?_⟩
  rw [two.2 (not_live_of_teardownOwned owned one.1), one.2 owned]

/-- One answer to any thread moves a row on, or deletes it. -/
theorem onward_step {before after : SessionConfig} {thread : Nat} {op : SessionOp} {reply : Reply}
    {interaction : SessionInteraction} (run : Reaches allowed (boot clock) before)
    (happened : Answered before after thread op reply interaction) {sessionId : String}
    {row : LabSession} (found : rowOf before sessionId = some row) :
    interaction = ⟨.delete sessionId, .ok ()⟩ ∧ rowOf after sessionId = none ∨
      ∃ row', rowOf after sessionId = some row' ∧ Onward row row' := by
  have issued := issued_when_answered run happened
  have step : RowStep sessionId (effect interaction) (rowOf before sessionId)
      (rowOf after sessionId) := row_step happened.responded sessionId
  generalize left : effect interaction = done at step
  generalize rowOf after sessionId = new at step
  rw [found] at step
  cases step with
  | kept elsewhere => exact .inr ⟨row, rfl, .refl row⟩
  | moved claimable guarded written =>
      refine .inr ⟨_, rfl, ?_⟩
      cases command_of_moved left
      obtain ⟨onward, stands⟩ := issued_moves_on issued
      subst written
      refine ⟨onward _ claimable, fun owned => ?_⟩
      rcases stands with unowned | still
      · rw [unowned _ claimable] at owned
        cases owned
      · simp [SessionPatch.apply, InMemorySessionStore.transitionPatch, still]
  | touched active written =>
      refine .inr ⟨_, rfl, ?_⟩
      subst written
      refine ⟨laterStatuses_refl _, fun owned => ?_⟩
      have live : isTeardownOwned row.status = false := by
        revert active
        cases row.status <;> decide
      rw [live] at owned
      cases owned
  | deleted => exact .inl ⟨command_of_deleted left, rfl⟩

/-- A row that exists moves on along every run, until somebody deletes it. -/
theorem onward_along_run {first last : SessionConfig} {sessionId : String} {row : LabSession}
    (reached : Reaches allowed (boot clock) first) (run : Reaches allowed first last)
    (found : rowOf first sessionId = some row) :
    ∃ later, last.trace = later ++ first.trace ∧
      ((∃ thread, (thread, ⟨.delete sessionId, .ok ()⟩) ∈ later) ∨
        ∃ row', rowOf last sessionId = some row' ∧ Onward row row') := by
  refine Reaches.keeps_state
    (fun (world : World) trace => ∃ later, trace = later ++ first.trace ∧
      ((∃ thread, (thread, ⟨.delete sessionId, .ok ()⟩) ∈ later) ∨
        ∃ row', world.store.get sessionId = some row' ∧ Onward row row'))
    (fun _ _ _ kept => kept) ?_ reached run ⟨[], rfl, .inr ⟨row, found, .refl row⟩⟩
  rintro before after thread op reply interaction reached _ happened ⟨later, split, kept⟩
  refine ⟨(thread, interaction) :: later, by rw [happened.recorded, split]; rfl, ?_⟩
  rcases kept with ⟨deleter, deleted⟩ | ⟨row', found', onward⟩
  · exact .inl ⟨deleter, List.mem_cons_of_mem _ deleted⟩
  · rcases onward_step reached happened found' with ⟨rfl, _⟩ | ⟨row'', found'', further⟩
    · exact .inl ⟨thread, List.mem_cons_self⟩
    · exact .inr ⟨row'', found'', onward.trans further⟩

/-- No resurrection and no relabelling. Whatever managers and reapers do, in whatever order, a row that
    is not deleted keeps a finished status for good; from ENDING it only reaches ENDED, from EXPIRING
    only EXPIRED; and nothing moves its activity in any of these statuses. -/
theorem no_resurrection_no_relabelling {first last : SessionConfig} {sessionId : String}
    {row : LabSession} (reached : Reaches anyMove (boot clock) first)
    (run : Reaches anyMove first last) (found : rowOf first sessionId = some row) :
    ∃ later, last.trace = later ++ first.trace ∧
      ((∃ thread, (thread, ⟨.delete sessionId, .ok ()⟩) ∈ later) ∨
        ∃ row', rowOf last sessionId = some row' ∧
          (row.status = .ended ∨ row.status = .expired ∨ row.status = .failed →
            row'.status = row.status) ∧
          (row.status = .ending → row'.status = .ending ∨ row'.status = .ended) ∧
          (row.status = .expiring → row'.status = .expiring ∨ row'.status = .expired) ∧
          (isTeardownOwned row.status = true → row'.lastActivityAt = row.lastActivityAt)) := by
  obtain ⟨later, split, kept⟩ := onward_along_run reached run found
  refine ⟨later, split, kept.imp_right ?_⟩
  rintro ⟨row', found', onward, still⟩
  refine ⟨row', found', ?_, ?_, ?_, still⟩
  · rintro (isStatus | isStatus | isStatus) <;> simpa [isStatus, laterStatuses] using onward
  · intro isStatus
    simpa [isStatus, laterStatuses] using onward
  · intro isStatus
    simpa [isStatus, laterStatuses] using onward

/-- A started session whose student has pressed End: the row is ENDING. -/
def endPressed : SessionConfig :=
  (boot 0).after anyMove (startUntilActive "sess-0000001" ++
    ([.spawn (.endSession (labInstance 0) "sess-0000001")] : List SessionMove) ++ goOn 1 3)

/-- The rest of that End: the sandbox is gone, the row is ENDED. -/
def endFinished : SessionConfig :=
  endPressed.after anyMove (([.resume 1 (.destroyed sandboxGone)] : List SessionMove) ++ goOn 1 3)

theorem no_resurrection_of_ended_session :
    ∃ row, rowOf endPressed "sess-0000001" = some row ∧ row.status = .ending ∧
      ∃ later, endFinished.trace = later ++ endPressed.trace ∧
        ((∃ thread, (thread, ⟨.delete "sess-0000001", .ok ()⟩) ∈ later) ∨
          ∃ row', rowOf endFinished "sess-0000001" = some row' ∧
            (row.status = .ended ∨ row.status = .expired ∨ row.status = .failed →
              row'.status = row.status) ∧
            (row.status = .ending → row'.status = .ending ∨ row'.status = .ended) ∧
            (row.status = .expiring → row'.status = .expiring ∨ row'.status = .expired) ∧
            (isTeardownOwned row.status = true → row'.lastActivityAt = row.lastActivityAt)) := by
  have pressed : Reaches anyMove (boot 0) endPressed := Config.reaches_after (by decide)
  have finished : Reaches anyMove endPressed endFinished :=
    Config.reaches_after (by decide)
  have ending : (rowOf endPressed "sess-0000001").map LabSession.status = some .ending := by
    decide
  obtain ⟨row, found, isEnding⟩ := Option.map_eq_some_iff.mp ending
  exact ⟨row, found, isEnding, no_resurrection_no_relabelling pressed finished found⟩

/-! ### A session id is drawn and admitted once -/

/-- The session was admitted: its row was inserted at some step of the run. -/
def Admitted (sessionId : String) (trace : Trace) : Prop :=
  ∃ thread session limits,
    (thread, ⟨.createWithinLimits session limits, .ok .admitted⟩) ∈ trace ∧
      session.sessionId = sessionId

theorem Admitted.of_suffix {sessionId : String} {earlier trace : Trace}
    (admitted : Admitted sessionId earlier) (still : earlier <:+ trace) :
    Admitted sessionId trace := by
  obtain ⟨thread, session, limits, member, named⟩ := admitted
  exact ⟨thread, session, limits, still.subset member, named⟩

/-- Every id in the trace is among those drawn, and one thread drew it. -/
theorem drawn_once {config : SessionConfig} (run : Reaches allowed (boot clock) config) :
    (∀ thread sessionId, (thread, ⟨.newSessionId, .ok sessionId⟩) ∈ config.trace →
        sessionId ∈ config.world.drawn) ∧
      ∀ thread other sessionId, (thread, ⟨.newSessionId, .ok sessionId⟩) ∈ config.trace →
        (other, ⟨.newSessionId, .ok sessionId⟩) ∈ config.trace → thread = other := by
  refine Reaches.keeps_state
    (fun (world : World) (trace : Trace) =>
      (∀ thread sessionId, (thread, ⟨.newSessionId, .ok sessionId⟩) ∈ trace →
          sessionId ∈ world.drawn) ∧
        ∀ thread other sessionId, (thread, ⟨.newSessionId, .ok sessionId⟩) ∈ trace →
          (other, ⟨.newSessionId, .ok sessionId⟩) ∈ trace → thread = other)
    (fun _ _ _ kept => kept) ?_ (.refl : Reaches allowed (boot clock) (boot clock)) run
    ⟨nofun, nofun⟩
  rintro before after thread op reply ⟨command, answer⟩ _ _ happened ⟨drawn, once⟩
  rw [happened.recorded]
  rcases respond_drawn happened.responded with ⟨same, notDrawing⟩ | ⟨sessionId, draws, new, drew⟩
  · have earlier : ∀ other id, (other, ⟨.newSessionId, .ok id⟩) ∈
        (thread, ⟨command, answer⟩) :: before.trace →
          (other, ⟨.newSessionId, .ok id⟩) ∈ before.trace := by
      intro other id member
      rcases List.mem_cons.mp member with isNew | old
      · cases isNew
        exact absurd rfl (notDrawing id)
      · exact old
    refine ⟨fun other id member => ?_, fun one two id first second => ?_⟩
    · rw [same]
      exact drawn other id (earlier other id member)
    · exact once one two id (earlier one id first) (earlier two id second)
  · cases draws
    have isNew : ∀ other id, (other, ⟨.newSessionId, .ok id⟩) ∈ (thread,
        (⟨.newSessionId, .ok sessionId⟩ : SessionInteraction)) :: before.trace →
          other = thread ∧ id = sessionId ∨
            (other, ⟨.newSessionId, .ok id⟩) ∈ before.trace := by
      intro other id member
      rcases List.mem_cons.mp member with isNew | old
      · cases isNew
        exact .inl ⟨rfl, rfl⟩
      · exact .inr old
    refine ⟨fun other id member => ?_, fun one two id first second => ?_⟩
    · rw [drew]
      rcases isNew other id member with ⟨_, rfl⟩ | old
      · exact List.mem_cons_self
      · exact List.mem_cons_of_mem _ (drawn other id old)
    · rcases isNew one id first with ⟨rfl, rfl⟩ | oldOne
      · rcases isNew two _ second with ⟨rfl, _⟩ | oldTwo
        · rfl
        · exact absurd (drawn two _ oldTwo) new
      · rcases isNew two id second with ⟨rfl, rfl⟩ | oldTwo
        · exact absurd (drawn one _ oldOne) new
        · exact once one two id oldOne oldTwo

/-- The thread that admits a session drew its id. -/
theorem drawn_of_admitted {config : SessionConfig} (run : Reaches allowed (boot clock) config)
    {thread : Nat} {session : LabSession} {limits : CapacityLimits}
    (admitted : (thread, ⟨.createWithinLimits session limits, .ok .admitted⟩) ∈ config.trace) :
    (thread, ⟨.newSessionId, .ok session.sessionId⟩) ∈ config.trace := by
  obtain ⟨later, earlier, split⟩ := List.append_of_mem admitted
  obtain ⟨before, after, op, reply, reached, _, happened, rfl, _, _⟩ := run.moment split
  rw [split]
  refine List.mem_append_right _ (List.mem_cons_of_mem _ (mem_own.mp ?_))
  obtain ⟨_, _, _, _, _, _, _, _, drawn, _⟩ :=
    (issued_when_answered reached happened).of_createWithinLimits
  exact drawn

/-- A session is admitted by one thread only. -/
theorem admitted_by_one {config : SessionConfig} (run : Reaches allowed (boot clock) config)
    {thread other : Nat} {session session' : LabSession} {limits limits' : CapacityLimits}
    (admitted : (thread, ⟨.createWithinLimits session limits, .ok .admitted⟩) ∈ config.trace)
    (admitted' : (other, ⟨.createWithinLimits session' limits', .ok .admitted⟩) ∈ config.trace)
    (same : session.sessionId = session'.sessionId) : thread = other := by
  have drew := drawn_of_admitted run admitted
  rw [same] at drew
  exact (drawn_once run).2 _ _ _ drew (drawn_of_admitted run admitted')

/-- A session that was admitted is not admitted again. -/
theorem not_admitted_again {config : SessionConfig} (run : Reaches allowed (boot clock) config)
    {thread : Nat} {op : SessionOp} {session : LabSession} {limits : CapacityLimits}
    (issued : Issued op (own thread config.trace) (.createWithinLimits session limits)) :
    ¬ Admitted session.sessionId config.trace := by
  rintro ⟨other, session', limits', admitted, same⟩
  obtain ⟨_, _, _, _, _, _, _, first, drawn, _⟩ := issued.of_createWithinLimits
  have drew := drawn_of_admitted run admitted
  rw [same] at drew
  cases (drawn_once run).2 _ _ _ (mem_own.mp drawn) drew
  have recorded : Effect.admitted session' limits' ∈ effects (own thread config.trace) :=
    List.mem_filterMap.mpr ⟨_, mem_own.mpr admitted, rfl⟩
  rw [first] at recorded
  cases recorded

/-- Every stored row was admitted. -/
theorem stored_admitted {config : SessionConfig} (run : Reaches allowed (boot clock) config)
    {sessionId : String} {row : LabSession} (found : rowOf config sessionId = some row) :
    Admitted sessionId config.trace := by
  refine Reaches.keeps_state
    (fun (world : World) (trace : Trace) =>
      ∀ row, world.store.get sessionId = some row → Admitted sessionId trace)
    (fun _ _ _ kept => kept) ?_ (.refl : Reaches allowed (boot clock) (boot clock)) run
    (fun row impossible => nomatch impossible) row found
  rintro before after thread op reply interaction _ _ happened kept row' found'
  have grows : Admitted sessionId before.trace → Admitted sessionId after.trace := by
    intro admitted
    exact admitted.of_suffix happened.trace_grows
  have step := row_step happened.responded sessionId
  generalize left : effect interaction = done at step
  generalize stored : before.world.store.get sessionId = old at step
  rw [found'] at step
  cases step with
  | kept elsewhere => exact grows (kept _ stored)
  | inserted uid named isRow =>
      cases command_of_admitted left
      rw [happened.recorded]
      exact ⟨thread, _, _, List.mem_cons_self, named⟩
  | moved claimable guarded written => exact grows (kept _ stored)
  | touched active written => exact grows (kept _ stored)

/-- A session that was admitted gets no row it did not have before. -/
theorem row_before_of_admitted {before after : SessionConfig} {thread : Nat} {op : SessionOp}
    {reply : Reply} {interaction : SessionInteraction} {sessionId : String} {row : LabSession}
    (reached : Reaches allowed (boot clock) before)
    (happened : Answered before after thread op reply interaction)
    (admitted : Admitted sessionId before.trace) (found : rowOf after sessionId = some row) :
    ∃ current, rowOf before sessionId = some current := by
  cases stored : rowOf before sessionId with
  | some current => exact ⟨current, rfl⟩
  | none =>
      have step := row_step happened.responded sessionId
      generalize left : effect interaction = done at step
      rw [show before.world.store.get sessionId = none from stored,
        show after.world.store.get sessionId = some row from found] at step
      cases step with
      | inserted uid isNamed isRow =>
          cases command_of_admitted left
          rw [← isNamed] at admitted
          exact absurd admitted
            (not_admitted_again reached (issued_when_answered reached happened))

/-- What holds of a session's row now, and of every row a step from here on makes of such a row, holds
    of whatever row the session has later: an admitted session that lost its row never gets
    another. -/
theorem settled_since {first last : SessionConfig} {sessionId : String}
    (holds : LabSession → Prop)
    (kept : ∀ {before after thread op reply interaction current next},
      Reaches allowed first before → allowed before (.resume thread reply) →
        Answered before after thread op reply interaction →
          rowOf before sessionId = some current → rowOf after sessionId = some next →
            holds current → holds next)
    (reached : Reaches allowed (boot clock) first) (run : Reaches allowed first last)
    (admitted : Admitted sessionId first.trace)
    (base : ∀ row, rowOf first sessionId = some row → holds row) :
    ∀ row, rowOf last sessionId = some row → holds row := by
  have settled := Reaches.keeps_state
    (fun (world : World) (trace : Trace) => Admitted sessionId trace ∧
      ∀ row, world.store.get sessionId = some row → holds row)
    (fun _ _ _ still => still) ?_ (.refl : Reaches allowed first first) run ⟨admitted, base⟩
  · exact settled.2
  rintro before after thread op reply interaction since meets happened ⟨admitted, before'⟩
  refine ⟨admitted.of_suffix happened.trace_grows, fun row found => ?_⟩
  obtain ⟨current, stored⟩ :=
    row_before_of_admitted (reached.trans since) happened admitted found
  exact kept since meets happened stored found (before' current stored)

/-- The same for what every step keeps. -/
theorem settled_along_run {first last : SessionConfig} {sessionId : String}
    (holds : LabSession → Prop)
    (kept : ∀ {before after thread op reply interaction current next},
      Reaches allowed (boot clock) before → allowed before (.resume thread reply) →
        Answered before after thread op reply interaction →
          rowOf before sessionId = some current → rowOf after sessionId = some next →
            holds current → holds next)
    (reached : Reaches allowed (boot clock) first) (run : Reaches allowed first last)
    (admitted : Admitted sessionId first.trace)
    (base : ∀ row, rowOf first sessionId = some row → holds row) :
    ∀ row, rowOf last sessionId = some row → holds row :=
  settled_since holds (fun since => kept (reached.trans since)) reached run admitted base

/-- A row a thread was shown has moved on from what was shown, if it is still there. -/
theorem seen_moves_on {config : SessionConfig} (run : Reaches allowed (boot clock) config)
    {thread : Nat} {interaction : SessionInteraction} {seen : LabSession}
    (member : (thread, interaction) ∈ config.trace) (isShown : seen ∈ shown interaction) :
    Admitted seen.sessionId config.trace ∧
      ∀ row, rowOf config seen.sessionId = some row → Onward seen row := by
  obtain ⟨later, earlier, split⟩ := List.append_of_mem member
  obtain ⟨before, after, op, reply, reached, _, happened, _, step, rest⟩ := run.moment split
  have stored : rowOf after seen.sessionId = some seen :=
    shown_stored happened.responded isShown
  have admitted := stored_admitted (reached.trans step) stored
  constructor
  · exact admitted.of_suffix rest.trace_extends
  · refine settled_along_run (Onward seen) ?_ (reached.trans step) rest admitted ?_
    · intro before after thread op reply interaction current next reached _ happened found found'
        onward
      rcases onward_step reached happened found with ⟨_, absent⟩ | ⟨row', found'', further⟩
      · rw [absent] at found'
        cases found'
      · rw [found''] at found'
        cases found'
        exact onward.trans further
    · intro row found
      rw [stored] at found
      cases found
      exact .refl seen

end JumptotechLabs.Session
