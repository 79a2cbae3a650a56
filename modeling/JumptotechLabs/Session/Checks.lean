/-
Module: JumptotechLabs.Session.Checks
Layer: Session (apps/api/src/routes/sessions.ts, services/lab-orchestrator/src/session/manager.ts)
Purpose: A Check grades one unchanged sandbox. It holds no claim; its only fence is that the row it
  reads back is ACTIVE with the status stamp it started from. Every status change stamps the row with
  a reading no older than the stamp it replaces, and the only way back to ACTIVE is a reset, whose
  rebuild takes time; so a row that was anything but ACTIVE never again shows both.
Main exports: CheckRun, upToReadBack, Changed, changed_stays, check_grades_one_sandbox
-/
import JumptotechLabs.Session.Clock

namespace JumptotechLabs.Session

open JumptotechLabs.Core
open JumptotechLabs.Core.Prog (attempt ensure settle)

variable {clock : Instant}

/-! ### What a Check has read -/

/-- The answer that shows the row as it is now: a touch that was recorded, or a read. -/
inductive ReadsBack (sessionId : String) : SessionInteraction → Option LabSession → Prop where
  | touched (atTime : Instant) (row : LabSession) :
      ReadsBack sessionId ⟨.touchActivity sessionId atTime, .ok (some row)⟩ (some row)
  | read (row : Option LabSession) : ReadsBack sessionId ⟨.get sessionId, .ok row⟩ row

/-- The Check read the session as ACTIVE first of all, and has just read it back. -/
def ReadBack (past : History) (sessionId : String) (session : LabSession)
    (now : Option LabSession) : Prop :=
  ∃ readBack middle,
    past = readBack :: (middle ++ [⟨.get sessionId, .ok (some session)⟩]) ∧
      session.status = .active ∧ ReadsBack sessionId readBack now

/-- Does this command look at a session's row? -/
def readsRow : Cmd → Bool
  | .get _ | .touchActivity _ _ => true
  | _ => false

/-- What a Check of `sessionId` may ask after `past`. -/
def CheckAsks (sessionId : String) (past : History) : Cmd → Prop
  | .recordCheck id _ =>
      id = sessionId ∧ ∃ newer older session now, past = newer ++ older ∧
        (∀ interaction ∈ newer, readsRow interaction.command = false) ∧
        ReadBack older sessionId session now ∧ unchangedSince session now = true
  | .checkEvent _ .refused (some .sessionChangedDuringCheck) =>
      ∃ session now, ReadBack past sessionId session now ∧ unchangedSince session now = false
  | _ => True

/-- The discipline of a Check. -/
def checkDiscipline (sessionId : String) : Discipline sessionSignature Failure where
  issued := fun past command => CheckAsks sessionId past command
  answered := fun command answer => Credible command answer

/-- Commands no rule is about. -/
def isUngraded : Cmd → Bool
  | .recordCheck _ _ => false
  | .checkEvent _ .refused (some .sessionChangedDuringCheck) => false
  | _ => true

section Route

variable {sessionId : String}

theorem check_ungraded {command : Cmd} (plain : isUngraded command = true) :
    (await command).Always (checkDiscipline sessionId) := by
  apply Prog.Always.perform
  intro past
  change CheckAsks sessionId past command
  unfold CheckAsks
  split
  · cases plain
  · cases plain
  · trivial

/-- `touch` ends with the answer that shows the row. -/
theorem check_touch {past : History} :
    (touch sessionId).Keeps (checkDiscipline sessionId) past fun outcome after =>
      ∀ now, outcome = .ok now → ∃ readBack middle,
        after = readBack :: (middle ++ past) ∧ ReadsBack sessionId readBack now := by
  unfold touch
  rw [Prog.keeps_bind]
  apply (Prog.keeps_perform (S := sessionSignature) _ _ _).mpr
  constructor
  · trivial
  intro reading _
  cases reading with
  | error failure => exact fun _ impossible => by cases impossible
  | ok atTime =>
      rw [Prog.andThen_ok, Prog.keeps_bind]
      apply (Prog.keeps_perform (S := sessionSignature) _ _ _).mpr
      constructor
      · trivial
      intro touched _
      rcases touched with failure | (_ | row)
      · exact fun _ impossible => by cases impossible
      · apply (Prog.keeps_perform (S := sessionSignature) _ _ _).mpr
        constructor
        · trivial
        · intro found _ now isNow
          subst isNow
          exact ⟨_, [⟨.touchActivity sessionId atTime, .ok none⟩, ⟨.now, .ok atTime⟩], rfl, .read now⟩
      · intro now isNow
        cases isNow
        exact ⟨_, [⟨.now, .ok atTime⟩], rfl, .touched atTime row⟩

/-- Recording, once the row was read back unchanged. -/
theorem check_recordVerdict {passed : Bool} {past : History}
    (graded : ∃ newer older session now, past = newer ++ older ∧
      (∀ interaction ∈ newer, readsRow interaction.command = false) ∧
      ReadBack older sessionId session now ∧ unchangedSince session now = true) :
    (recordVerdict sessionId passed).Keeps (checkDiscipline sessionId) past fun _ _ => True := by
  obtain ⟨newer, older, session, now, rfl, quiet, readBack, unchanged⟩ := graded
  have later : ∀ interaction : SessionInteraction, readsRow interaction.command = false →
      ∀ other ∈ interaction :: newer, readsRow other.command = false := by
    intro interaction isQuiet other member
    rcases List.mem_cons.mp member with rfl | old
    · exact isQuiet
    · exact quiet other old
  unfold recordVerdict
  rw [Prog.keeps_bind, Prog.keeps_attempt]
  apply (Prog.keeps_perform (S := sessionSignature) _ _ _).mpr
  constructor
  · exact ⟨rfl, newer, older, session, now, rfl, quiet, readBack, unchanged⟩
  intro recorded _
  rcases recorded with failure | (_ | _)
  · trivial
  · rw [Prog.andThen_ok]
    dsimp only
    rw [Prog.keeps_bind, Prog.keeps_attempt, Prog.keeps_bind]
    apply (Prog.keeps_perform (S := sessionSignature) _ _ _).mpr
    constructor
    · trivial
    intro opened _
    cases opened with
    | error failure => trivial
    | ok _ =>
        rw [Prog.andThen_ok]
        apply (Prog.keeps_perform (S := sessionSignature) _ _ _).mpr
        constructor
        · refine ⟨rfl, ⟨.openAttempt sessionId, .ok ()⟩ :: ⟨.recordCheck sessionId passed, .ok false⟩ ::
            newer, older, session, now, rfl, ?_, readBack, unchanged⟩
          intro other member
          rcases List.mem_cons.mp member with rfl | old
          · rfl
          · exact later ⟨.recordCheck sessionId passed, .ok false⟩ rfl other old
        · intro answer _
          cases answer <;> trivial
  · trivial

/-- `runCheck` grades what it read back. -/
theorem check_runCheck {m : Manager} {session : LabSession}
    (named : session.sessionId = sessionId) (active : session.status = .active) {newer : History} :
    (runCheck m session).Keeps (checkDiscipline sessionId)
      (newer ++ [⟨.get sessionId, .ok (some session)⟩]) fun _ _ => True := by
  subst named
  unfold runCheck
  rw [Prog.keeps_bind, Prog.keeps_settle]
  cases m.registry session.labId with
  | error failure => trivial
  | ok lab =>
      rw [Prog.andThen_ok, Prog.keeps_bind]
      apply check_touch.mono
      intro touched after shownFirst
      cases touched with
      | error failure => trivial
      | ok first =>
          obtain ⟨begun, middle, rfl, _⟩ := shownFirst first rfl
          rw [Prog.andThen_ok, Prog.keeps_bind]
          apply (Prog.keeps_perform (S := sessionSignature) _ _ _).mpr
          constructor
          · trivial
          intro verified _
          cases verified with
          | error failure => trivial
          | ok result =>
              rw [Prog.andThen_ok, Prog.keeps_bind]
              apply check_touch.mono
              intro touched after shownLast
              cases touched with
              | error failure => trivial
              | ok now =>
                  obtain ⟨readBack, between, rfl, shows⟩ := shownLast now rfl
                  have back : ReadBack (readBack :: (between ++
                      ⟨.verifyLab lab session, .ok result⟩ :: begun :: (middle ++
                        (newer ++ [⟨.get session.sessionId, .ok (some session)⟩]))))
                      session.sessionId session now :=
                    ⟨readBack, between ++ ⟨.verifyLab lab session, .ok result⟩ :: begun ::
                      (middle ++ newer), by simp, active, shows⟩
                  rw [Prog.andThen_ok]
                  split
                  · rename_i unchanged
                    split
                    · exact check_ungraded rfl _
                    · rw [Prog.keeps_bind]
                      apply (Prog.keeps_perform (S := sessionSignature) _ _ _).mpr
                      constructor
                      · cases result.passed <;> trivial
                      intro told _
                      cases told with
                      | error failure => trivial
                      | ok _ =>
                          rw [Prog.andThen_ok]
                          apply check_recordVerdict
                          exact ⟨[⟨.checkEvent session.sessionId
                            (if result.passed = true then .pass else .fail) none, .ok ()⟩], _,
                            session, now, rfl, by simp [readsRow], back, unchanged⟩
                  · rename_i changed
                    apply (Prog.keeps_perform (S := sessionSignature) _ _ _).mpr
                    constructor
                    · exact ⟨session, now, back, by simpa using changed⟩
                    · exact fun _ _ => trivial

/-- The route reads the session first of all. -/
theorem check_asks {m : Manager} :
    (check m sessionId).Keeps (checkDiscipline sessionId) [] fun _ _ => True := by
  have refuses : ∀ failure, (await (.checkEvent sessionId .refused
      (some (refusalCode failure)))).Always (checkDiscipline sessionId) := by
    intro failure
    apply check_ungraded
    cases failure <;> rfl
  unfold check
  rw [Prog.keeps_bind, Prog.keeps_attempt]
  have reads : (requireActive m sessionId).Keeps (checkDiscipline sessionId) [] fun outcome after =>
      ∀ session, outcome = .ok session → session.sessionId = sessionId ∧
        session.status = .active ∧ after = [⟨.get sessionId, .ok (some session)⟩] := by
    unfold requireActive require
    rw [Prog.keeps_bind]
    split
    · rw [Prog.keeps_bind]
      apply (Prog.keeps_perform (S := sessionSignature) _ _ _).mpr
      constructor
      · trivial
      intro found credible
      rcases found with failure | (_ | session)
      · exact fun _ impossible => by cases impossible
      · exact fun _ impossible => by cases impossible
      · rw [Prog.andThen_ok, Prog.keeps_pure, Prog.andThen_ok]
        split
        · rename_i active
          rw [Prog.keeps_bind, Prog.keeps_settle]
          cases m.registry session.labId with
          | error failure => exact fun _ impossible => by cases impossible
          | ok lab =>
              intro read isRead
              cases isRead
              exact ⟨credible, active, rfl⟩
        · exact fun _ impossible => by cases impossible
    · exact fun _ impossible => by cases impossible
  apply reads.mono
  intro outcome after read
  rw [Prog.andThen_ok]
  cases outcome with
  | error failure => exact refuses failure after
  | ok session =>
      obtain ⟨named, active, rfl⟩ := read session rfl
      dsimp only
      rw [Prog.keeps_bind]
      apply (Prog.keeps_perform (S := sessionSignature) _ _ _).mpr
      constructor
      · trivial
      intro running _
      rcases running with failure | (_ | _)
      · trivial
      · rw [Prog.andThen_ok, if_neg Bool.false_ne_true, Prog.keeps_ensure, Prog.keeps_tryCatch]
        have closes : ∀ (outcome : Except Failure Unit) done,
            (await (.endCheck m.index session.sessionId)).Keeps (checkDiscipline sessionId) done
              (Prog.andThen (checkDiscipline sessionId) (fun _ => settle outcome)
                fun _ _ => True) := by
          intro outcome done
          have ends : (await (.endCheck m.index session.sessionId)).Always
              (checkDiscipline sessionId) := check_ungraded rfl
          apply (ends done).mono
          intro ended after _
          cases ended with
          | error failure => trivial
          | ok _ => exact Prog.Always.settle outcome after
        have runs : (runCheck m session).Keeps (checkDiscipline sessionId)
            ([⟨.beginCheck m.index session.sessionId, .ok false⟩] ++
              [⟨.get sessionId, .ok (some session)⟩]) fun _ _ => True :=
          check_runCheck named active
        apply runs.mono
        intro outcome after _
        cases outcome with
        | ok _ => exact closes _ _
        | error failure =>
            rw [Prog.orElse_error, Prog.keeps_bind]
            apply (Prog.keeps_perform (S := sessionSignature) _ _ _).mpr
            constructor
            · trivial
            · intro told _
              cases told <;> exact closes _ _
      · trivial

end Route

/-- A Check keeps its discipline; of the other operations nothing is asked. -/
def checkRules : SessionOp → Discipline sessionSignature Failure
  | .check _ sessionId => checkDiscipline sessionId
  | _ =>
      { issued := fun _ _ => True
        answered := fun command answer => Credible command answer }

theorem body_checkRules (op : SessionOp) :
    op.body.Keeps (checkRules op) [] fun _ _ => True := by
  cases op with
  | check m sessionId => exact check_asks
  | _ => exact Prog.Always.free (fun _ _ => trivial) _ []

/-- What a Check waits on, it may ask. -/
theorem check_when_pending {allowed : SessionConfig → SessionMove → Prop} {config : SessionConfig}
    {thread : Nat} {m : Manager} {sessionId : String} {command : Cmd}
    (run : Reaches allowed (boot clock) config)
    (checks : config.opOf thread = some (.check m sessionId))
    (pending : config.pending thread = some command) :
    CheckAsks sessionId (own thread config.trace) command := by
  obtain ⟨op, rest, waiting⟩ := Config.waiting_of_pending pending
  have isCheck : op = .check m sessionId := by
    have runs : config.opOf thread = some op := by simp [Config.opOf, waiting]
    rw [checks] at runs
    exact (Option.some.inj runs).symm
  subst isCheck
  exact Config.issued_of_reaches (D := checkRules) body_checkRules
    (fun op _ _ _ _ _ _ responded => by
      cases op <;> exact credible_of_respond responded) run waiting

/-! ### Rebuilds take time -/

/-- What an answered look at the clock showed. -/
def readingOf : SessionInteraction → Option Instant
  | ⟨.now, .ok reading⟩ => some reading
  | _ => none

/-- Is a provider's rebuild answered at a later millisecond than any its thread read before? -/
def rebuildTakesTime (config : SessionConfig) : SessionMove → Bool
  | .resume thread _ =>
      match config.pending thread with
      | some (.reset _ _ _) =>
          (own thread config.trace).all fun interaction =>
            (readingOf interaction).all fun reading => decide (reading < config.world.clock)
      | _ => true
  | _ => true

/-- The runs a Check is looked at in: the clock is read where it is written, and every rebuild takes
    at least a millisecond. -/
def CheckRun (config : SessionConfig) (move : SessionMove) : Prop :=
  Prompt config move ∧ rebuildTakesTime config move = true

instance : DecidableRel CheckRun := fun _ _ => instDecidableAnd

theorem prompt_of_checkRun (config : SessionConfig) (move : SessionMove)
    (meets : CheckRun config move) : Prompt config move := meets.1

/-- What a thread read before a rebuild is earlier than what it read since. -/
def Paced (world : World) (trace : Trace) : Prop :=
  ∀ thread later rebuilt earlier, own thread trace = later ++ rebuilt :: earlier →
    isRebuild rebuilt.command = true → ∀ old, ⟨.now, .ok old⟩ ∈ earlier →
      old < world.clock ∧ ∀ new, ⟨.now, .ok new⟩ ∈ later → old < new

theorem paced_of_reaches {config : SessionConfig} (run : Reaches CheckRun (boot clock) config) :
    Paced config.world config.trace := by
  apply Reaches.keeps_state Paced _ _ (.refl : Reaches CheckRun (boot clock) (boot clock)) run
  · intro thread later rebuilt earlier split
    cases later <;> cases split
  · intro elapsed world trace paced thread later rebuilt earlier split isRebuilt old read
    obtain ⟨before, since⟩ := paced thread later rebuilt earlier split isRebuilt old read
    exact ⟨Int.lt_of_lt_of_le before (clock_le_evolve elapsed world), since⟩
  · intro before after thread op reply interaction _ meets happened paced other later rebuilt earlier
      split isRebuilt old read
    rw [respond_clock happened.responded]
    rw [happened.recorded] at split
    by_cases same : other = thread
    · subst same
      rw [own_cons_self] at split
      cases later with
      | nil =>
          obtain ⟨rfl, rfl⟩ := List.cons.inj split
          refine ⟨?_, fun new impossible => by cases impossible⟩
          have takesTime := meets.2
          obtain ⟨command, answer⟩ := interaction
          cases command with
          | reset provider lab context =>
              simp only [rebuildTakesTime, happened.pending, List.all_eq_true] at takesTime
              simpa [readingOf] using takesTime _ read
          | _ => cases isRebuilt
      | cons latest later =>
          obtain ⟨rfl, rest⟩ := List.cons.inj split
          obtain ⟨passed, since⟩ := paced other later rebuilt earlier rest isRebuilt old read
          refine ⟨passed, fun new isNew => ?_⟩
          rcases List.mem_cons.mp isNew with isLatest | older
          · subst isLatest
            rw [respond_now happened.responded]
            exact passed
          · exact since new older
    · rw [own_cons_of_ne (Ne.symm same)] at split
      exact paced other later rebuilt earlier split isRebuilt old read

/-- The readings a thread has not used yet were taken after whatever else it did. -/
theorem fresh_after {later earlier : History} {other : SessionInteraction} {reading : Instant}
    (used : isReading other = false)
    (fresh : reading ∈ freshReadings (later ++ other :: earlier)) : ⟨.now, .ok reading⟩ ∈ later := by
  induction later with
  | nil =>
      rw [List.nil_append, freshReadings_other used] at fresh
      cases fresh
  | cons interaction later ih =>
      cases reads : isReading interaction with
      | false =>
          rw [List.cons_append, freshReadings_other reads] at fresh
          cases fresh
      | true =>
          obtain ⟨command, answer⟩ := interaction
          cases command with
          | now =>
              cases answer with
              | error failure => cases fresh
              | ok latest =>
                  rcases List.mem_cons.mp fresh with rfl | older
                  · exact List.mem_cons_self
                  · exact List.mem_cons_of_mem _ (ih older)
          | _ => cases reads

/-- A session that was built before comes back to ACTIVE with a later stamp only. -/
theorem reactivated_later {before after : SessionConfig} {thread : Nat} {op : SessionOp}
    {reply : Reply} {interaction : SessionInteraction} {sessionId : String} {row row' : LabSession}
    (reached : Reaches CheckRun (boot clock) before)
    (happened : Answered before after thread op reply interaction)
    (found : rowOf before sessionId = some row) (found' : rowOf after sessionId = some row')
    (built : row.status ≠ .creating) (inactive : row.status ≠ .active)
    (active : row'.status = .active) : row.statusChangedAt < row'.statusChangedAt := by
  have asks := stamps_when_answered reached happened
  have timed := timed_step reached happened found found'
  have step := row_step happened.responded sessionId
  generalize left : effect interaction = done at step
  rw [show before.world.store.get sessionId = some row from found,
    show after.world.store.get sessionId = some row' from found'] at step
  cases step with
  | kept elsewhere => exact absurd active inactive
  | touched _ written =>
      rw [written] at active
      exact absurd active inactive
  | @moved source target patch guard _ _ claimable guarded written =>
      cases command_of_moved left
      have isTarget : target = .active := by
        rw [← active, written]
        rfl
      have isFresh : row'.statusChangedAt ∈ freshReadings (own thread before.trace) := by
        rcases timed.stamp with ⟨same, _⟩ | ⟨_, fresh⟩
        · exact absurd (same.symm.trans active) inactive
        · exact fresh
      rcases asks.2.2 isTarget with fromCreating | ⟨later, rebuilt, earlier, claimed, split,
        isRebuilt, isFence, read⟩
      · rw [fromCreating] at claimable
        exact absurd (List.mem_singleton.mp claimable) built
      · have held : claimed = row.statusChangedAt := by
          simp only [InMemorySessionStore.meetsGuard, isFence, Bool.and_eq_true] at guarded
          simpa using guarded.1
        have used : isReading rebuilt = false := by
          obtain ⟨command, answer⟩ := rebuilt
          cases command with
          | reset provider lab context => rfl
          | _ => cases isRebuilt
        rw [split] at isFresh
        rw [← held]
        exact (paced_of_reaches reached thread later rebuilt earlier split isRebuilt claimed read).2 _
          (fresh_after used isFresh)

/-! ### Once changed, changed for good -/

/-- The row is not what it was when it was ACTIVE with this stamp. -/
def Changed (stamp : Instant) (row : LabSession) : Prop :=
  stamp ≤ row.statusChangedAt ∧ (row.status = .active → stamp < row.statusChangedAt)

/-- A row that changed never looks unchanged again. -/
theorem changed_step {before after : SessionConfig} {thread : Nat} {op : SessionOp}
    {reply : Reply} {interaction : SessionInteraction} {sessionId : String} {row row' : LabSession}
    {stamp : Instant} (reached : Reaches CheckRun (boot clock) before)
    (happened : Answered before after thread op reply interaction)
    (found : rowOf before sessionId = some row) (found' : rowOf after sessionId = some row')
    (built : row.status ≠ .creating) (changed : Changed stamp row) : Changed stamp row' := by
  have forward := (times_move_forward prompt_of_checkRun reached happened found found').1
  constructor
  · exact Int.le_trans changed.1 forward
  · intro active
    by_cases same : row.status = .active
    · exact Int.lt_of_lt_of_le (changed.2 same) forward
    · exact Int.lt_of_le_of_lt changed.1
        (reactivated_later reached happened found found' built same active)

/-- A row that leaves ACTIVE has changed. -/
theorem changed_of_left {before after : SessionConfig} {thread : Nat} {op : SessionOp}
    {reply : Reply} {interaction : SessionInteraction} {sessionId : String} {row row' : LabSession}
    (reached : Reaches CheckRun (boot clock) before)
    (happened : Answered before after thread op reply interaction)
    (found : rowOf before sessionId = some row) (found' : rowOf after sessionId = some row')
    (left : row'.status ≠ .active) : Changed row.statusChangedAt row' :=
  ⟨(times_move_forward prompt_of_checkRun reached happened found found').1,
    fun active => absurd active left⟩

/-! ### The status of a session, read off the trace -/

/-- The status of a session after an effect. -/
def statusAfter (sessionId : String) (status : Option SessionStatus) :
    Option Effect → Option SessionStatus
  | some (.admitted session _) => if session.sessionId = sessionId then some session.status else status
  | some (.moved id _ target _ _ _) => if id = sessionId then some target else status
  | some (.deleted id) => if id = sessionId then none else status
  | _ => status

/-- The status of a session at a moment of the run, given by what has happened until then. -/
def statusIn (sessionId : String) : Trace → Option SessionStatus
  | [] => none
  | event :: earlier => statusAfter sessionId (statusIn sessionId earlier) (effect event.2)

/-- A command that does not write the row leaves its status. -/
theorem statusAfter_elsewhere {sessionId : String} {status : Option SessionStatus}
    {done : Option Effect} (elsewhere : ∀ left, done = some left → ¬ left.writes sessionId) :
    statusAfter sessionId status done = status := by
  cases done with
  | none => rfl
  | some left =>
      have apart := elsewhere left rfl
      cases left with
      | admitted session limits => exact if_neg apart
      | moved id source target patch guard row => exact if_neg apart
      | deleted id => exact if_neg apart
      | _ => rfl

/-- What the trace says is what is stored. -/
theorem statusIn_eq {allowed : SessionConfig → SessionMove → Prop} {config : SessionConfig}
    (run : Reaches allowed (boot clock) config) (sessionId : String) :
    (rowOf config sessionId).map LabSession.status = statusIn sessionId config.trace := by
  apply Reaches.keeps_state
    (fun (world : World) (trace : Trace) =>
      (world.store.get sessionId).map LabSession.status = statusIn sessionId trace)
    (fun _ _ _ kept => kept) _ (.refl : Reaches allowed (boot clock) (boot clock)) run rfl
  intro before after thread op reply interaction _ _ happened kept
  rw [happened.recorded]
  change _ = statusAfter sessionId (statusIn sessionId before.trace) (effect interaction)
  rw [← kept]
  have step := row_step happened.responded sessionId
  generalize effect interaction = done at step
  generalize before.world.store.get sessionId = old at step
  generalize after.world.store.get sessionId = new at step
  cases step with
  | kept elsewhere => rw [statusAfter_elsewhere elsewhere]
  | inserted uid named isRow =>
      rw [isRow]
      simp [statusAfter, named]
  | moved claimable guarded written =>
      rw [written]
      simp [statusAfter, SessionPatch.apply, InMemorySessionStore.transitionPatch]
  | touched active written =>
      rw [written]
      rfl
  | deleted => simp [statusAfter]

/-! ### From the first read on -/

/-- A session that was read ACTIVE, at a later moment of the run: either it was ACTIVE all along and
    carries the stamp it was read with, or it was not, and whatever row there is has changed. -/
inductive Watched (sessionId : String) (since : Trace) (stamp : Instant) (world : World)
    (trace : Trace) : Prop where
  | unchanged (row : LabSession) (found : world.store.get sessionId = some row)
      (active : row.status = .active) (stamped : row.statusChangedAt = stamp)
      (throughout : ∀ moment, since <:+ moment → moment <:+ trace →
        statusIn sessionId moment = some .active)
  | changed (moment : Trace) (after : since <:+ moment) (before : moment <:+ trace)
      (left : statusIn sessionId moment ≠ some .active)
      (rows : ∀ row, world.store.get sessionId = some row → Changed stamp row)

/-- No row that was read as built is CREATING later. -/
theorem built_since {allowed : SessionConfig → SessionMove → Prop} {first last : SessionConfig}
    {sessionId : String} {session row : LabSession} (reached : Reaches allowed (boot clock) first)
    (run : Reaches allowed first last) (stored : rowOf first sessionId = some session)
    (built : session.status ≠ .creating) (found : rowOf last sessionId = some row) :
    row.status ≠ .creating := by
  apply settled_along_run (fun row => row.status ≠ .creating) _ reached run
    (stored_admitted reached stored) _ row found
  · intro before after thread op reply interaction current next reached _ happened old new kept
    rcases onward_step reached happened old with ⟨_, absent⟩ | ⟨later, found', onward⟩
    · rw [absent] at new
      cases new
    · rw [found'] at new
      cases new
      exact not_creating_later kept onward.1
  · intro row' found'
    rw [stored] at found'
    cases found'
    exact built

theorem watched_along_run {first last : SessionConfig} {sessionId : String} {session : LabSession}
    (reached : Reaches CheckRun (boot clock) first) (run : Reaches CheckRun first last)
    (stored : rowOf first sessionId = some session) (active : session.status = .active) :
    Watched sessionId first.trace session.statusChangedAt last.world last.trace := by
  have admitted := stored_admitted reached stored
  have statusFirst : statusIn sessionId first.trace = some .active := by
    rw [← statusIn_eq reached sessionId, stored, Option.map_some, active]
  have watched := Reaches.keeps_state
    (fun (world : World) (trace : Trace) => first.trace <:+ trace ∧
      Watched sessionId first.trace session.statusChangedAt world trace)
    ?_ ?_ (.refl : Reaches CheckRun first first) run ?_
  · exact watched.2
  · intro elapsed world trace kept
    refine ⟨kept.1, ?_⟩
    cases kept.2 with
    | unchanged row found active stamped throughout =>
        exact .unchanged row found active stamped throughout
    | changed moment after before left rows => exact .changed moment after before left rows
  · intro before after thread op reply interaction since meets happened kept
    obtain ⟨grown, kept⟩ := kept
    have reachedBefore := reached.trans since
    have moved : after.trace = (thread, interaction) :: before.trace := happened.recorded
    have grows := happened.trace_grows
    have statusNow := statusIn_eq
      (reachedBefore.trans (.step _ .refl meets (Config.next_of_answered happened))) sessionId
    refine ⟨grown.trans grows, ?_⟩
    cases kept with
    | unchanged row found isActive stamped throughout =>
        by_cases still : statusIn sessionId after.trace = some .active
        · rw [still] at statusNow
          obtain ⟨row', found', active'⟩ := Option.map_eq_some_iff.mp statusNow
          have step := timed_step reachedBefore happened found found'
          refine .unchanged row' found' active' ?_ ?_
          · rcases step.stamp with ⟨_, same⟩ | ⟨differs, _⟩
            · exact same.trans stamped
            · exact absurd (active'.trans isActive.symm) differs
          · intro moment from' upTo
            rw [moved] at upTo
            rcases List.suffix_cons_iff.mp upTo with isNow | earlier
            · rw [isNow, ← moved]
              exact still
            · exact throughout moment from' earlier
        · refine .changed after.trace (grown.trans grows) (List.suffix_refl _) still ?_
          intro row' found'
          have inactive : row'.status ≠ .active := by
            intro active'
            apply still
            rw [← statusNow, show rowOf after sessionId = some row' from found', Option.map_some,
              active']
          rw [← stamped]
          exact changed_of_left reachedBefore happened found found' inactive
    | changed moment from' upTo left rows =>
        refine .changed moment from' (upTo.trans grows) left ?_
        intro row' found'
        obtain ⟨row, found⟩ := row_before_of_admitted reachedBefore happened
          (admitted.of_suffix grown) found'
        have built : row.status ≠ .creating :=
          built_since reached since stored (by rw [active]; decide) found
        exact changed_step reachedBefore happened found found' built (rows row found)
  · refine ⟨List.suffix_refl _, .unchanged session stored active rfl ?_⟩
    intro moment from' upTo
    rw [upTo.eq_of_length_le from'.length_le]
    exact statusFirst

/-! ### The Check -/

/-- The trace as it was when the thread last looked at the row. -/
def upToReadBack (thread : Nat) (trace : Trace) : Trace :=
  trace.dropWhile fun event => !(event.1 == thread && readsRow event.2.command)

/-- The trace as it was at the thread's last look, split off. -/
theorem upToReadBack_eq {thread : Nat} {later earlier : Trace} {readBack : SessionInteraction}
    (quiet : ∀ interaction ∈ own thread later, readsRow interaction.command = false)
    (looks : readsRow readBack.command = true) :
    upToReadBack thread (later ++ (thread, readBack) :: earlier) =
      (thread, readBack) :: earlier := by
  unfold upToReadBack
  rw [List.dropWhile_append_of_pos]
  · simp [looks]
  · intro event member
    by_cases same : event.1 = thread
    · have isOwn : event.2 ∈ own thread later := by
        rw [mem_own, ← same]
        exact member
      simp [quiet _ isOwn]
    · simp [same]

theorem readsRow_of_readsBack {sessionId : String} {readBack : SessionInteraction}
    {now : Option LabSession} (shows : ReadsBack sessionId readBack now) :
    readsRow readBack.command = true := by
  cases shows <;> rfl

/-- What was read back is what was stored. -/
theorem stored_of_readsBack {before after : SessionConfig} {thread : Nat} {op : SessionOp}
    {reply : Reply} {sessionId : String} {readBack : SessionInteraction} {now : Option LabSession}
    (shows : ReadsBack sessionId readBack now)
    (happened : Answered before after thread op reply readBack) : rowOf after sessionId = now := by
  cases shows with
  | touched atTime row =>
      have step := row_step happened.responded sessionId
      change after.world.store.get sessionId = some row
      generalize before.world.store.get sessionId = old at step
      generalize after.world.store.get sessionId = new at step
      change RowStep sessionId (some (.touched sessionId row)) old new at step
      cases step with
      | kept elsewhere => exact absurd rfl (elsewhere _ rfl)
      | touched active written => rfl
  | read =>
      obtain ⟨sameWorld, stored⟩ := respond_get happened.responded
      rw [rowOf, sameWorld]
      exact stored _ rfl

/-- Two configurations of the run of a Check: just after it read the session, and just after it read
    it back; and what became of the session in between. -/
structure CheckSpan (config : SessionConfig) (thread : Nat) (sessionId : String)
    (session : LabSession) (now : Option LabSession) where
  first : Trace
  last : SessionConfig
  span : last.trace = upToReadBack thread config.trace
  within : last.trace <:+ config.trace
  nonempty : first ≠ []
  begins : ∀ moment, moment <:+ last.trace → (own thread moment ≠ [] ↔ first <:+ moment)
  stored : rowOf last sessionId = now
  watched : Watched sessionId first session.statusChangedAt last.world last.trace

/-- The span of a Check that has read the session back. -/
theorem span_of_readBack {config : SessionConfig} {thread : Nat} {sessionId : String}
    {newer older : History} {session : LabSession} {now : Option LabSession}
    (run : Reaches CheckRun (boot clock) config) (isPast : own thread config.trace = newer ++ older)
    (quiet : ∀ interaction ∈ newer, readsRow interaction.command = false)
    (back : ReadBack older sessionId session now) :
    Nonempty (CheckSpan config thread sessionId session now) := by
  obtain ⟨readBack, middle, rfl, active, shows⟩ := back
  obtain ⟨laterTrace, earlierTrace, split, isEarlier⟩ := own_split isPast
  obtain ⟨beforeLast, last, op, reply, reachedBefore, _, happenedLast, rfl, stepLast, rest⟩ :=
    run.moment split
  obtain ⟨between, beginning, splitFirst, unread⟩ := own_split isEarlier
  obtain ⟨beforeFirst, first, op', reply', reachedFirst, _, happenedFirst, rfl, stepFirst, toLast⟩ :=
    reachedBefore.moment splitFirst
  have reachedA := reachedFirst.trans stepFirst
  have firstRow : rowOf first sessionId = some session :=
    stored_of_readsBack (.read (some session)) happenedFirst
  have newerOwn : own thread laterTrace = newer := by
    have whole := isPast
    rw [split, own, List.filterMap_append] at whole
    change own thread laterTrace ++ own thread ((thread, readBack) :: beforeLast.trace) = _ at whole
    rw [own_cons_self, isEarlier] at whole
    exact List.append_cancel_right whole
  have isSpan : last.trace = upToReadBack thread config.trace := by
    rw [happenedLast.recorded, split]
    symm
    apply upToReadBack_eq _ (readsRow_of_readsBack shows)
    rw [newerOwn]
    exact quiet
  refine ⟨first.trace, last, isSpan, rest.trace_extends, ?_, ?_,
    stored_of_readsBack shows happenedLast,
    watched_along_run reachedA (toLast.trans stepLast) firstRow active⟩
  · rw [happenedFirst.recorded]
    exact List.cons_ne_nil _ _
  · intro moment upTo
    have firstWithin : first.trace <:+ last.trace := (toLast.trans stepLast).trace_extends
    constructor
    · intro begun
      rcases List.suffix_or_suffix_of_suffix firstWithin upTo with inside | shorter
      · exact inside
      · rw [happenedFirst.recorded] at shorter ⊢
        rcases List.suffix_cons_iff.mp shorter with isFirst | earlier
        · rewrite [isFirst]
          exact List.suffix_refl _
        · have nothing := own_suffix thread earlier
          rw [unread] at nothing
          exact absurd (List.suffix_nil.mp nothing) begun
    · intro inside empty
      have contains := own_suffix thread inside
      rw [empty, happenedFirst.recorded, own_cons_self] at contains
      cases List.suffix_nil.mp contains

/-- A Check grades one unchanged sandbox. Whatever managers, reapers and other Checks do in between, in
    whatever order: a Check that is about to record its verdict found the row ACTIVE at every moment
    from its first read to its read-back; and one that is about to discard its verdict did not. -/
theorem check_grades_one_sandbox {config : SessionConfig} {thread : Nat} {m : Manager}
    {sessionId : String} (run : Reaches CheckRun (boot clock) config)
    (checks : config.opOf thread = some (.check m sessionId)) :
    (∀ id passed, config.pending thread = some (.recordCheck id passed) →
      id = sessionId ∧
        ∀ moment, Reaches CheckRun (boot clock) moment → own thread moment.trace ≠ [] →
          moment.trace <:+ upToReadBack thread config.trace →
            ∃ row, rowOf moment sessionId = some row ∧ row.status = .active) ∧
    (∀ id, config.pending thread =
        some (.checkEvent id .refused (some .sessionChangedDuringCheck)) →
      ∃ moment, Reaches CheckRun (boot clock) moment ∧ Reaches CheckRun moment config ∧
        own thread moment.trace ≠ [] ∧ moment.trace <:+ upToReadBack thread config.trace ∧
          ∀ row, rowOf moment sessionId = some row → row.status ≠ .active) := by
  constructor
  · intro id passed pending
    obtain ⟨rfl, newer, older, session, now, isPast, quiet, back, unchanged⟩ :=
      check_when_pending run checks pending
    refine ⟨rfl, fun moment reached begun upTo => ?_⟩
    obtain ⟨check⟩ := span_of_readBack run isPast quiet back
    rw [← check.span] at upTo
    cases check.watched with
    | unchanged row found active stamped throughout =>
        have isActive := throughout moment.trace ((check.begins _ upTo).mp begun) upTo
        rw [← statusIn_eq reached] at isActive
        exact Option.map_eq_some_iff.mp isActive
    | changed _ _ _ _ rows =>
        -- The row that was read back would have changed.
        cases isNow : now with
        | none =>
            rw [isNow] at unchanged
            cases unchanged
        | some row =>
            rw [isNow] at unchanged
            simp only [unchangedSince, Option.any_some, Bool.and_eq_true, beq_iff_eq] at unchanged
            have later := (rows row (check.stored.trans isNow)).2 unchanged.1
            rw [unchanged.2] at later
            exact absurd later (Int.lt_irrefl _)
  · intro id pending
    obtain ⟨session, now, back, changed⟩ := check_when_pending run checks pending
    obtain ⟨check⟩ := span_of_readBack run (List.nil_append _).symm
      (fun _ impossible => by cases impossible) back
    cases check.watched with
    | unchanged row found active stamped throughout =>
        have stored : now = some row := check.stored.symm.trans found
        rw [stored] at changed
        simp [unchangedSince, active, stamped] at changed
    | changed moment after before left rows =>
        cases moment with
        | nil => exact absurd (List.suffix_nil.mp after) check.nonempty
        | cons event earlier =>
            obtain ⟨later, split⟩ := before.trans check.within
            obtain ⟨beforeMoment, atMoment, op, reply, reached, _, happened, isTrace, step, rest⟩ :=
              run.moment split.symm
            have traceAt : atMoment.trace = event :: earlier := by
              rw [happened.recorded, isTrace]
            refine ⟨atMoment, reached.trans step, rest, ?_, ?_, ?_⟩
            · rw [traceAt]
              exact (check.begins _ before).mpr after
            · rw [traceAt, ← check.span]
              exact before
            · intro row found active
              apply left
              rw [← traceAt, ← statusIn_eq (reached.trans step), found, Option.map_some, active]

/-- A student checks a lab, types in the terminal while the verifier reads, and passes. -/
def passingCheck : SessionConfig :=
  (boot 0).after CheckRun (startUntilActive "sess-0000001" ++
    ([.spawn (.check (labInstance 0) "sess-0000001")] : List SessionMove) ++ goOn 1 4 ++
    ([.evolve (2 : Nat), .spawn (.touchActivity "sess-0000001")] : List SessionMove) ++ goOn 2 2 ++
    ([.resume 1 (.verified { passed := true })] : List SessionMove) ++ goOn 1 2 ++
    ([.resume 1 .done] : List SessionMove))

theorem check_grades_one_sandbox_passingCheck :
    passingCheck.pending 1 = some (.recordCheck "sess-0000001" true) ∧
      ∀ moment, Reaches CheckRun (boot 0) moment → own 1 moment.trace ≠ [] →
        moment.trace <:+ upToReadBack 1 passingCheck.trace →
          ∃ row, rowOf moment "sess-0000001" = some row ∧ row.status = .active := by
  have run : Reaches CheckRun (boot 0) passingCheck := Config.reaches_after (by decide)
  have pending : passingCheck.pending 1 = some (.recordCheck "sess-0000001" true) := by
    decide
  have checks : passingCheck.opOf 1 = some (.check (labInstance 0) "sess-0000001") := rfl
  exact ⟨pending, ((check_grades_one_sandbox run checks).1 _ _ pending).2⟩

end JumptotechLabs.Session
