/-
Module: JumptotechLabs.Session.Destroy
Layer: Session (services/lab-orchestrator/src/session/manager.ts)
Purpose: When a session-scoped `provider.destroy` may be under way. A live row was activated, and only
  the start that admitted the session and saw its build succeed activates it; a thread that destroys
  has either seen a teardown own the session, or is that start with a failed build. Either way the row
  is never live again.
Main exports: isLive, live_activated, activated_by_own_start, destroy_discipline
-/
import JumptotechLabs.Session.Lifecycle

namespace JumptotechLabs.Session

open JumptotechLabs.Core

variable {allowed : SessionConfig → SessionMove → Prop} {clock : Instant}

/-- Statuses of a session somebody may be using: ACTIVE, RESETTING and DEGRADED. -/
def isLive (status : SessionStatus) : Bool :=
  status == .active || status == .resetting || status == .degraded

theorem not_isLive_of_teardownOwned {status : SessionStatus}
    (owned : isTeardownOwned status = true) : isLive status = false := by
  revert owned
  cases status <;> decide

theorem creating_or_owned {status : SessionStatus} (unused : isLive status = false) :
    status = .creating ∨ isTeardownOwned status = true := by
  revert unused
  cases status <;> decide

/-! ### Who activates -/

/-- Some thread moved the session from CREATING to ACTIVE. -/
def Activated (sessionId : String) (trace : Trace) : Prop :=
  ∃ thread patch row,
    (thread, ⟨.transition sessionId [.creating] .active patch {}, .ok (some row)⟩) ∈ trace

/-- A write that makes a row live finds it live already, or is the write to ACTIVE of a start. -/
theorem Issued.of_live_target {op : SessionOp} {past : History} {sessionId : String}
    {source : List SessionStatus} {target : SessionStatus} {patch : SessionPatch}
    {guard : TransitionGuard}
    (issued : Issued op past (.transition sessionId source target patch guard))
    (live : isLive target = true) :
    (∀ status ∈ source, isLive status = true) ∨
      source = [.creating] ∧ target = .active ∧ guard = {} := by
  cases issued with
  | quiet isFree => cases isFree
  | activate built stands => exact .inr ⟨rfl, rfl, rfl⟩
  | failStart failed unusable onlyCleanup => cases live
  | claimReset resets first => exact .inl (by decide)
  | release resets claimed onlyRebuilt untried releases => exact .inl (by decide)
  | recover platform => exact .inl (by decide)
  | stopped => exact .inl (by decide)
  | handOver handsOver => cases live
  | defer defers =>
      rcases defers with ⟨_, rfl, _⟩ | ⟨_, rfl, _⟩
      · cases live
      · cases live
  | claim claims => cases claims <;> cases live
  | finish destroyed gone pair reasoned => cases pair <;> cases live

/-- Every live row was activated. -/
theorem live_activated {config : SessionConfig} (run : Reaches allowed (boot clock) config)
    {sessionId : String} {row : LabSession} (found : rowOf config sessionId = some row)
    (live : isLive row.status = true) : Activated sessionId config.trace := by
  refine Reaches.keeps_state
    (fun (world : World) (trace : Trace) => ∀ row, world.store.get sessionId = some row →
      isLive row.status = true → Activated sessionId trace)
    (fun _ _ _ kept => kept) ?_ (.refl : Reaches allowed (boot clock) (boot clock)) run
    (fun row impossible => nomatch impossible) row found live
  intro before after thread op reply interaction reached _ happened kept row' found' live'
  have grows : Activated sessionId before.trace → Activated sessionId after.trace := by
    rintro ⟨other, patch, activated, member⟩
    rw [happened.recorded]
    exact ⟨other, patch, activated, List.mem_cons_of_mem _ member⟩
  have issued := issued_when_answered reached happened
  have step := row_step happened.responded sessionId
  generalize left : effect interaction = done at step
  generalize stored : before.world.store.get sessionId = old at step
  rw [found'] at step
  cases step with
  | kept elsewhere => exact grows (kept _ stored live')
  | inserted uid named isRow =>
      -- An admitted row is CREATING.
      cases command_of_admitted left
      obtain ⟨_, _, _, _, _, _, _, _, _, isCandidate, _⟩ := issued.of_createWithinLimits
      rw [isRow, isCandidate] at live'
      cases live'
  | @moved source target patch guard current _ claimable guarded written =>
      cases command_of_moved left
      have isTarget : row'.status = target := by
        rw [written]
        rfl
      rw [isTarget] at live'
      rcases issued.of_live_target live' with liveBefore | ⟨rfl, rfl, rfl⟩
      · exact grows (kept _ stored (liveBefore _ claimable))
      · rw [happened.recorded]
        exact ⟨thread, patch, row', List.mem_cons_self⟩
  | touched active written =>
      rw [written] at live'
      exact grows (kept _ stored live')

/-- What a start had done when it wrote ACTIVE. -/
theorem Issued.of_activation {op : SessionOp} {past : History} {sessionId : String}
    {patch : SessionPatch}
    (issued : Issued op past (.transition sessionId [.creating] .active patch {})) :
    ∃ session limits result, session.sessionId = sessionId ∧ result.ok = true ∧
      effects past =
        [.created (teardownContextFor session) (.ok result), .admitted session limits] := by
  cases issued with
  | quiet isFree => cases isFree
  | activate built stands => exact ⟨_, _, _, rfl, stands, built⟩
  | defer defers =>
      rcases defers with ⟨_, impossible, _⟩ | ⟨_, impossible, _⟩
      · cases impossible
      · cases impossible
  | claim claims => cases claims
  | finish destroyed gone pair reasoned => cases pair

/-- The thread that activated a session is the start that admitted it and saw its build succeed. -/
theorem activated_by_own_start {config : SessionConfig} (run : Reaches allowed (boot clock) config)
    {sessionId : String} (activated : Activated sessionId config.trace) :
    ∃ thread session limits result, session.sessionId = sessionId ∧ result.ok = true ∧
      [.created (teardownContextFor session) (.ok result), .admitted session limits] <:+
        effects (own thread config.trace) := by
  obtain ⟨thread, patch, row, member⟩ := activated
  obtain ⟨later, earlier, split⟩ := List.append_of_mem member
  obtain ⟨before, after, op, reply, reached, _, happened, _, step, rest⟩ := run.moment split
  obtain ⟨session, limits, result, named, stands, built⟩ :=
    (issued_when_answered reached happened).of_activation
  refine ⟨thread, session, limits, result, named, stands, ?_⟩
  rw [← built]
  exact effects_suffix (own_suffix thread (step.trans rest).trace_extends)

/-! ### Who destroys -/

/-- A session a thread knows was admitted. -/
theorem admitted_of_known {config : SessionConfig} (run : Reaches allowed (boot clock) config)
    {thread : Nat} {sessionId : String} (known : Known sessionId (own thread config.trace)) :
    Admitted sessionId config.trace := by
  rcases known with ⟨session, limits, recorded, named⟩ | ⟨read, member, row, isShown, named⟩
  · obtain ⟨interaction, member, left⟩ := mem_effects.mp recorded
    cases command_of_admitted left
    exact ⟨thread, session, limits, mem_own.mp member, named⟩
  · rw [← named]
    exact (seen_moves_on run (mem_own.mp member) isShown).1

/-- The start of the session failed, and this thread runs it. -/
def OwnFailedStart (thread : Nat) (sessionId : String) (trace : Trace) : Prop :=
  ∃ session limits answer, session.sessionId = sessionId ∧ buildFailed answer = true ∧
    [.created (teardownContextFor session) answer, .admitted session limits] <:+
      effects (own thread trace)

/-- A session is built once: two answers of its build are one. -/
theorem one_build {config : SessionConfig} (run : Reaches allowed (boot clock) config)
    {thread other : Nat} {session session' : LabSession} {limits limits' : CapacityLimits}
    {answer answer' : Except Failure CreateResult}
    (recorded : [.created (teardownContextFor session) answer, .admitted session limits] <:+
      effects (own thread config.trace))
    (recorded' : [.created (teardownContextFor session') answer', .admitted session' limits'] <:+
      effects (own other config.trace))
    (same : session.sessionId = session'.sessionId) : answer = answer' := by
  have admittedBy : ∀ {thread session limits answer},
      [Effect.created (teardownContextFor session) answer, .admitted session limits] <:+
        effects (own thread config.trace) →
      (thread, ⟨.createWithinLimits session limits, .ok .admitted⟩) ∈ config.trace := by
    intro thread session limits answer suffix
    have member : Effect.admitted session limits ∈ effects (own thread config.trace) :=
      suffix.subset (by simp)
    obtain ⟨interaction, inHistory, left⟩ := mem_effects.mp member
    cases command_of_admitted left
    exact mem_own.mp inHistory
  cases admitted_by_one run (admittedBy recorded) (admittedBy recorded') same
  -- One thread's history ends in one of them only.
  have isSame := (List.suffix_or_suffix_of_suffix recorded recorded').elim
    (fun suffix => suffix.eq_of_length rfl) (fun suffix => (suffix.eq_of_length rfl).symm)
  exact (Effect.created.inj (List.cons.inj isSame).1).2

/-- A session whose start failed is never live. -/
theorem not_live_of_failedStart {config : SessionConfig}
    (run : Reaches allowed (boot clock) config) {thread : Nat} {sessionId : String}
    (failed : OwnFailedStart thread sessionId config.trace) {row : LabSession}
    (found : rowOf config sessionId = some row) : isLive row.status = false := by
  by_contra live
  obtain ⟨session, limits, answer, named, unusable, recorded⟩ := failed
  obtain ⟨other, session', limits', result, named', stands, built⟩ :=
    activated_by_own_start run (live_activated run found (by simpa using live))
  rw [one_build run recorded built (named.trans named'.symm), buildFailed, stands] at unusable
  cases unusable

/-- A session that a thread saw in the hands of a teardown stays in them. -/
theorem owned_along_run {config : SessionConfig} (run : Reaches allowed (boot clock) config)
    {thread : Nat} {interaction : SessionInteraction} {seen : LabSession}
    (member : interaction ∈ own thread config.trace) (isShown : seen ∈ shown interaction)
    (owned : isTeardownOwned seen.status = true) {last : SessionConfig}
    (later : Reaches allowed config last) {row : LabSession}
    (found : rowOf last seen.sessionId = some row) : isTeardownOwned row.status = true := by
  have still : (thread, interaction) ∈ last.trace :=
    later.trace_extends.subset (mem_own.mp member)
  have onward := (seen_moves_on (run.trans later) still isShown).2 row found
  exact not_live_of_teardownOwned owned onward.1

/-- A session a thread knew and found gone stays gone. -/
theorem gone_along_run {config : SessionConfig} (run : Reaches allowed (boot clock) config)
    {thread : Nat} {sessionId : String} {earlier : History}
    (read : own thread config.trace = ⟨.get sessionId, .ok none⟩ :: earlier)
    (known : Known sessionId earlier) {last : SessionConfig}
    (later : Reaches allowed config last) : rowOf last sessionId = none := by
  have split : own thread config.trace = [] ++ ⟨.get sessionId, .ok none⟩ :: earlier := read
  obtain ⟨laterTrace, earlierTrace, traceSplit, isEarlier⟩ := own_split split
  obtain ⟨before, after, op, reply, reached, _, happened, isTrace, step, rest⟩ :=
    run.moment traceSplit
  obtain ⟨unchanged, stored⟩ := respond_get happened.responded
  have absent : rowOf after sessionId = none := by
    unfold rowOf
    rw [unchanged]
    exact stored none rfl
  rw [← isEarlier, ← isTrace] at known
  have admitted := (admitted_of_known reached known).of_suffix happened.trace_grows
  have settled := settled_along_run (fun _ => False)
    (fun _ _ _ _ _ impossible => impossible) (reached.trans step) (rest.trans later) admitted
    (fun row found => by rw [absent] at found; cases found)
  cases found : rowOf last sessionId with
  | none => rfl
  | some row => exact (settled row found).elim

/-- The destroy discipline. Whenever a thread is in a session-scoped destroy, the session's row is gone,
    or a teardown owns it, or it is CREATING and the thread is its own failed start; and from then on
    the row is never ACTIVE, RESETTING or DEGRADED. -/
theorem destroy_discipline {config : SessionConfig} {thread : Nat} {provider : LabProviderId}
    {context : SessionTeardownContext} (run : Reaches anyMove (boot clock) config)
    (destroying : config.pending thread = some (.destroy provider context)) :
    (∀ row, rowOf config context.sessionId = some row →
      row.status = .creating ∧ OwnFailedStart thread context.sessionId config.trace ∨
        isTeardownOwned row.status = true) ∧
      ∀ last, Reaches anyMove config last → ∀ row, rowOf last context.sessionId = some row →
        row.status ≠ .active ∧ row.status ≠ .resetting ∧ row.status ≠ .degraded := by
  -- Either the thread is the failed start, or the row is in a teardown's hands for good.
  have cause : OwnFailedStart thread context.sessionId config.trace ∨
      ∀ last, Reaches anyMove config last → ∀ row, rowOf last context.sessionId = some row →
        isTeardownOwned row.status = true := by
    obtain ⟨op, _, issued⟩ := issued_when_pending run destroying
    generalize history : own thread config.trace = past at issued
    cases issued with
    | quiet isFree => cases isFree
    | @destroyFailed session limits answer _ failed unusable =>
        have recorded : [.created (teardownContextFor session) answer, .admitted session limits] <:+
            effects (own thread config.trace) := by
          rewrite [history, failed]
          exact List.suffix_refl _
        exact .inl ⟨session, limits, answer, rfl, unusable, recorded⟩
    | @destroyLost session current earlier _ read owned known =>
        refine .inr fun last later row found => ?_
        rw [read] at history
        cases current with
        | none =>
            have absent := gone_along_run run history known later
            exact nomatch absent.symm.trans found
        | some seen =>
            have member : ⟨.get session.sessionId, .ok (some seen)⟩ ∈ own thread config.trace := by
              rw [history]
              exact List.mem_cons_self
            have named : seen.sessionId = session.sessionId :=
              credible_of_trace run (mem_own.mp member)
            refine owned_along_run run member (List.mem_singleton.mpr rfl) (owned seen rfl) later ?_
            rw [named]
            exact found
    | @destroyMarked marked source inProgress done patch guard earlier _ claimed inFlight pair =>
        refine .inr fun last later row found => ?_
        have recorded : Effect.moved marked.sessionId source inProgress patch guard marked ∈
            effects (own thread config.trace) := by
          rw [history, claimed]
          exact List.mem_cons_self
        obtain ⟨interaction, member, left⟩ := mem_effects.mp recorded
        cases command_of_moved left
        have owned : isTeardownOwned marked.status = true := by
          rw [inFlight]
          cases pair <;> rfl
        exact owned_along_run run member (List.mem_singleton.mpr rfl) owned later found
    | @destroyFinished seen earlier _ read finished =>
        refine .inr fun last later row found => ?_
        have member : ⟨.get seen.sessionId, .ok (some seen)⟩ ∈ own thread config.trace := by
          rw [history, read]
          exact List.mem_cons_self
        have owned : isTeardownOwned seen.status = true := by
          rw [isTeardownOwned, finished, Bool.or_true]
        exact owned_along_run run member (List.mem_singleton.mpr rfl) owned later found
  have unused : ∀ last, Reaches anyMove config last →
      ∀ row, rowOf last context.sessionId = some row → isLive row.status = false := by
    intro last later row found
    rcases cause with failed | owned
    · have stillFailed : OwnFailedStart thread context.sessionId last.trace := by
        obtain ⟨session, limits, answer, named, unusable, recorded⟩ := failed
        exact ⟨session, limits, answer, named, unusable,
          recorded.trans (effects_suffix (own_suffix thread later.trace_extends))⟩
      exact not_live_of_failedStart (run.trans later) stillFailed found
    · exact not_isLive_of_teardownOwned (owned last later row found)
  constructor
  · intro row found
    rcases cause with failed | owned
    · rcases creating_or_owned (unused config .refl row found) with creating | owned
      · exact .inl ⟨creating, failed⟩
      · exact .inr owned
    · exact .inr (owned config .refl row found)
  · intro last later row found
    have notLive := unused last later row found
    refine ⟨?_, ?_, ?_⟩ <;> (intro isStatus; rw [isStatus] at notLive; cases notLive)

/-- What the End of `endPressed` destroys. -/
def endPressedContext : SessionTeardownContext where
  sessionId := "sess-0000001"
  labId := "lab-1"
  sandboxRef := "jtt-lab-sess-0000001"
  namespaceName := "lab-sess-0000001"
  serviceAccountName := "lab-user"
  expiresAtMs := 7200000

theorem destroy_discipline_of_end :
    endPressed.pending 1 = some (.destroy .linux endPressedContext) ∧
      (∀ row, rowOf endPressed "sess-0000001" = some row →
        row.status = .creating ∧ OwnFailedStart 1 "sess-0000001" endPressed.trace ∨
          isTeardownOwned row.status = true) ∧
      ∀ last, Reaches anyMove endPressed last → ∀ row, rowOf last "sess-0000001" = some row →
        row.status ≠ .active ∧ row.status ≠ .resetting ∧ row.status ≠ .degraded := by
  have destroying : endPressed.pending 1 = some (.destroy .linux endPressedContext) := by
    decide
  have pressed : Reaches anyMove (boot 0) endPressed := Config.reaches_after (by decide)
  exact ⟨destroying, destroy_discipline pressed destroying⟩

end JumptotechLabs.Session
