/-
Module: JumptotechLabs.Progress.ClosedAttempts
Layer: Progress (services/progress/src/service.ts, types.ts, postgres/repository.ts)
Purpose: A closed attempt keeps its status and its reason. Every statement guards the status but one: a check
  that passes writes PASSED over ENDED, EXPIRED and FAILED too, and it may land after the close.
Main exports: KeepsResults, LandsOpen, checksLandOpen, keepsResults_perform, keepsResults_event,
  closed_attempts_change, closed_attempts_stay_closed
-/
import JumptotechLabs.Progress.Service
import JumptotechLabs.Progress.Summary

namespace JumptotechLabs.Progress

open JumptotechLabs.Access (Instant stampAllowed)
open JumptotechLabs.Core

theorem isClosedAttempt_iff {status : AttemptStatus} : isClosedAttempt status = true ↔ status ≠ .inProgress := by
  cases status <;> decide

/-! ### Results -/

/-- The status of a closed attempt, and why it has it, are the same in both. -/
def SameResult (before after : LabAttempt) : Prop :=
  isClosedAttempt before.status = true → after.status = before.status ∧ after.statusReason = before.statusReason

/-- The attempts stay, the closed ones with their results. -/
def KeepsResults (before after : ProgressTables) : Prop :=
  ∀ attemptId row, before.attempt attemptId = some row →
    ∃ next, after.attempt attemptId = some next ∧ SameResult row next

theorem KeepsResults.of_attempts {before after : ProgressTables} (same : after.attempts = before.attempts) :
    KeepsResults before after := by
  intro attemptId row found
  refine ⟨row, ?_, fun _ => ⟨rfl, rfl⟩⟩
  rw [ProgressTables.attempt, same]
  exact found

theorem KeepsResults.refl (tables : ProgressTables) : KeepsResults tables tables := .of_attempts rfl

theorem KeepsResults.trans {a b c : ProgressTables} (first : KeepsResults a b) (second : KeepsResults b c) :
    KeepsResults a c := by
  intro attemptId row found
  obtain ⟨next, isNext, same⟩ := first attemptId row found
  obtain ⟨last, isLast, later⟩ := second attemptId next isNext
  refine ⟨last, isLast, fun closed => ?_⟩
  obtain ⟨status, reason⟩ := same closed
  obtain ⟨status', reason'⟩ := later (status ▸ closed)
  exact ⟨status'.trans status, reason'.trans reason⟩

/-- A change of every attempt that keeps the result of each. -/
theorem KeepsResults.of_map {before after : ProgressTables} (change : LabAttempt → LabAttempt)
    (attempts : after.attempts = before.attempts.map change) (stable : ∀ row, (change row).attemptId = row.attemptId)
    (kept : ∀ row, before.attempt row.attemptId = some row → SameResult row (change row)) :
    KeepsResults before after := by
  intro attemptId row found
  have isId : row.attemptId = attemptId := Keyed.key_of_lookup found
  refine ⟨change row, ?_, kept row (isId ▸ found)⟩
  rw [ProgressTables.attempt, attempts, Keyed.lookup_map stable]
  exact congrArg (Option.map change) found

/-- A change of the attempt under an id. -/
theorem KeepsResults.of_updateAttempt (tables : ProgressTables) (attemptId : Uuid)
    (change : LabAttempt → LabAttempt) (stable : ∀ row, (change row).attemptId = row.attemptId)
    (kept : ∀ row, tables.attempt attemptId = some row → SameResult row (change row)) :
    KeepsResults tables (updateAttempt tables attemptId change stable).2 := by
  refine .of_map (fun row => if row.attemptId = attemptId then change row else row) rfl ?_ ?_
  · intro row
    split
    · exact stable row
    · rfl
  · intro row found
    split
    · rename_i isId
      exact kept row (isId ▸ found)
    · exact fun _ => ⟨rfl, rfl⟩

/-! ### Statements -/

theorem sameResult_finishedRow (row : LabAttempt) (outcome : AttemptOutcome) (reason : Option String)
    (time : Instant) : SameResult row (finishedRow row outcome reason time) := by
  intro closed
  have notOpen := isClosedAttempt_iff.mp closed
  exact ⟨if_neg notOpen, if_neg notOpen⟩

/-- A check leaves a result alone when it fails, or when the attempt has passed before. -/
theorem sameResult_checkedRow {row : LabAttempt} {passed : Bool}
    (lands : passed = true → row.status = .inProgress ∨ row.status = .passed) (checkCount : Nat)
    (time : Instant) : SameResult row (checkedRow row passed checkCount time) := by
  intro closed
  cases passed with
  | false => exact ⟨rfl, rfl⟩
  | true =>
      rcases lands rfl with inProgress | already
      · exact absurd inProgress (isClosedAttempt_iff.mp closed)
      · exact ⟨already.symm, rfl⟩

theorem attempts_touchProgressOnStart {tables after : ProgressTables} {input : NewAttempt}
    (touched : touchProgressOnStart tables input = .ok after) : after.attempts = tables.attempts := by
  obtain ⟨row, rfl, -⟩ := touchProgressOnStart_ok touched
  rfl

theorem attempts_markCompleted {tables after : ProgressTables} {attempt : LabAttempt} {time : Instant}
    {progress : LabProgress} (marked : markCompleted tables attempt time = .ok (progress, after)) :
    after.attempts = tables.attempts := by
  unfold markCompleted at marked
  split at marked
  · cases marked
    rfl
  · obtain ⟨completionCount, -, returned⟩ := bind_ok marked
    cases returned
    rfl

theorem attempts_progressAfter {tables after : ProgressTables} {attempt : LabAttempt} {newlyCompleted : Bool}
    {time : Instant} {progress : LabProgress}
    (ran : progressAfter tables attempt newlyCompleted time = .ok (progress, after)) :
    after.attempts = tables.attempts := by
  unfold progressAfter at ran
  split at ran
  · exact attempts_markCompleted ran
  · unfold readProgress at ran
    split at ran
    · cases ran
      rfl
    · cases ran
      rfl

/-- A passing check finds its attempt in progress, or passed before. -/
def LandsOpen (tables : ProgressTables) : ProgressRequest → Prop
  | .recordCheck attemptId true _ =>
      ∀ row, tables.attempt attemptId = some row → row.status = .inProgress ∨ row.status = .passed
  | _ => True

theorem keepsResults_recordCheck {tables after : ProgressTables} {attemptId : Uuid} {passed : Bool}
    {time : Instant} {outcome : CheckOutcome}
    (lands : passed = true → ∀ row, tables.attempt attemptId = some row →
      row.status = .inProgress ∨ row.status = .passed)
    (ran : recordCheck tables attemptId passed time = .ok (outcome, after)) : KeepsResults tables after := by
  unfold recordCheck at ran
  split at ran
  · cases ran
  rename_i row found
  split at ran
  · cases ran
  obtain ⟨checkCount, -, counted⟩ := bind_ok ran
  obtain ⟨⟨progress, next⟩, read, returned⟩ := bind_ok counted
  cases returned
  have written : KeepsResults tables
      (updateAttempt tables attemptId (checkedRow · passed checkCount time) fun _ => rfl).2 :=
    .of_updateAttempt _ _ _ _ fun other isOther =>
      sameResult_checkedRow (fun isPassed => lands isPassed other isOther) checkCount time
  exact written.trans (.of_attempts (attempts_progressAfter read))

/-- The insert of an attempt: its id is new, so the attempts there stay. -/
theorem keepsResults_createAttempt {tables after : ProgressTables} {input : NewAttempt} {row : LabAttempt}
    (ran : createAttempt tables input = .ok (row, after)) : KeepsResults tables after := by
  unfold createAttempt at ran
  split at ran
  · cases ran
  split at ran
  · obtain ⟨next, touched, returned⟩ := bind_ok ran
    cases returned
    intro attemptId other found
    refine ⟨other, ?_, fun _ => ⟨rfl, rfl⟩⟩
    rw [ProgressTables.attempt, attempts_touchProgressOnStart touched, Keyed.lookup_append]
    have isThere : Keyed.lookup LabAttempt.attemptId attemptId tables.attempts = some other := found
    rw [isThere]
    rfl
  · cases ran

theorem keepsResults_expireStaleAttempts {tables after : ProgressTables} {startedBefore : Instant}
    {reason : String} {time : Instant} {liveSessionIds : List String} {count : Nat}
    (ran : expireStaleAttempts tables startedBefore reason time liveSessionIds = .ok (count, after)) :
    KeepsResults tables after := by
  unfold expireStaleAttempts at ran
  split at ran
  · cases ran
  cases ran
  refine .of_map (fun row =>
    if isStale row startedBefore liveSessionIds then expiredRow row reason time else row) rfl ?_ ?_
  · intro row
    split
    · rfl
    · rfl
  · intro row _ closed
    split
    · rename_i stale
      simp only [isStale, Bool.and_eq_true, beq_iff_eq] at stale
      exact absurd stale.1.1 (isClosedAttempt_iff.mp closed)
    · exact ⟨rfl, rfl⟩

/-- A request that lands open keeps every result. -/
theorem keepsResults_perform {tables after : ProgressTables} {request : ProgressRequest}
    {answer : ProgressAnswer} (lands : LandsOpen tables request)
    (ran : perform tables request = .ok (answer, after)) : KeepsResults tables after := by
  cases request with
  | createAttempt input =>
      obtain ⟨value, made, returned⟩ := map_ok ran
      cases returned
      exact keepsResults_createAttempt made
  | bindSession attemptId sessionId time =>
      obtain ⟨value, made, returned⟩ := map_ok ran
      cases returned
      unfold bindSession at made
      split at made
      · cases made
      split at made
      · cases made
      cases made
      exact .of_updateAttempt _ _ _ _ fun _ _ _ => ⟨rfl, rfl⟩
  | recordCheck attemptId passed time =>
      obtain ⟨value, made, returned⟩ := map_ok ran
      cases returned
      refine keepsResults_recordCheck ?_ made
      intro isPassed
      subst isPassed
      exact lands
  | recordReset attemptId time =>
      obtain ⟨value, made, returned⟩ := map_ok ran
      cases returned
      unfold recordReset at made
      split at made
      · cases made
      split at made
      · cases made
        exact .refl tables
      · obtain ⟨resetCount, -, written⟩ := bind_ok made
        cases written
        exact .of_updateAttempt _ _ _ _ fun _ _ _ => ⟨rfl, rfl⟩
  | finishAttempt attemptId outcome reason time =>
      obtain ⟨value, made, returned⟩ := map_ok ran
      cases returned
      unfold finishAttempt at made
      split at made
      · cases made
      cases made
      exact .of_updateAttempt _ _ _ _ fun row _ => sameResult_finishedRow row outcome reason time
  | expireStaleAttempts startedBefore reason time liveSessionIds =>
      obtain ⟨value, made, returned⟩ := map_ok ran
      cases returned
      exact keepsResults_expireStaleAttempts made

/-- A call of the repository, refused or not. -/
theorem keepsResults_call {tables : ProgressTables} {call : ProgressCall}
    (lands : call.served = true → LandsOpen tables call.request) :
    KeepsResults tables (postgresProgress.step tables call).2 := by
  simp only
  split
  · rename_i served
    split
    · rename_i ran
      exact keepsResults_perform (lands served) ran
    · exact .refl tables
  · exact .refl tables

/-! ### Runs of the service -/

theorem keepsResults_callRepository {tables : ProgressTables} {now : Instant} {served : Bool}
    {request : Instant → ProgressRequest} (lands : served = true → ∀ time, LandsOpen tables (request time)) :
    KeepsResults tables (callRepository tables now served request).2 := by
  unfold callRepository
  split
  · exact .refl tables
  · rename_i time _
    have landsCall : served = true → LandsOpen tables (request time) := fun isServed => lands isServed time
    exact keepsResults_call landsCall

theorem tables_forSession (tables : ProgressTables) (served : Bool) (sessionId : String)
    (goOn : LabAttempt → WaitingCall) : (forSession tables served sessionId goOn).2 = tables := by
  unfold forSession
  split
  · rfl
  · split <;> rfl

theorem keepsResults_startAttempt (tables : ProgressTables) (now : Instant) (served : Bool)
    (studentId labId track identitySource : String) (attemptId : Uuid) :
    KeepsResults tables (startAttempt tables now served studentId labId track identitySource attemptId).2 := by
  unfold startAttempt
  split
  · exact .refl tables
  · exact .refl tables
  split
  · exact .refl tables
  split
  · exact .refl tables
  · rename_i ensured isEnsured
    unfold ensureStudent at isEnsured
    split at isEnsured
    · cases isEnsured
    split at isEnsured
    · cases isEnsured
      exact .refl tables
    · cases isEnsured
      exact .of_attempts rfl

/-- No first statement changes a result. -/
theorem keepsResults_ask (tables : ProgressTables) (now : Instant) (served : Bool) (request : ServiceRequest) :
    KeepsResults tables (ask tables now served request).2 := by
  cases request with
  | startAttempt studentId labId track identitySource attemptId =>
      exact keepsResults_startAttempt tables now served studentId labId track identitySource attemptId
  | bindSession attemptId sessionId => exact keepsResults_callRepository fun _ _ => trivial
  | failAttempt attemptId reason => exact keepsResults_callRepository fun _ _ => trivial
  | recordCheck sessionId passed => exact .of_attempts (congrArg _ (tables_forSession ..))
  | recordReset sessionId => exact .of_attempts (congrArg _ (tables_forSession ..))
  | closeSession sessionId outcome reason => exact .of_attempts (congrArg _ (tables_forSession ..))
  | expireAbandonedAttempts maxSessionSeconds graceSeconds reason liveSessionIds =>
      rw [ask, expireAbandonedAttempts]
      split
      · exact .refl tables
      · exact keepsResults_callRepository fun _ _ => trivial

/-- Where a passing check is written, its attempt is in progress, or has passed before. -/
def checksLandOpen (state : ServiceState) : ServiceEvent → Bool
  | .resumed index _ true =>
      match state.waiting[index]? with
      | some (.check attemptId true) =>
          (state.tables.attempt attemptId).all fun row => row.status == .inProgress || row.status == .passed
      | _ => true
  | _ => true

/-- An event keeps every result when the check it writes lands open. -/
theorem keepsResults_event {state : ServiceState} {event : ServiceEvent} (lands : checksLandOpen state event = true) :
    KeepsResults state.tables (progressService.step state event).2.tables := by
  cases event with
  | asked request now served => exact keepsResults_ask state.tables now served request
  | resumed index now served =>
      simp only
      split
      · exact .refl state.tables
      rename_i call waits
      cases call with
      | create input =>
          have landsCall : served = true → LandsOpen state.tables (.createAttempt input) := fun _ => trivial
          exact keepsResults_call landsCall
      | check attemptId passed =>
          refine keepsResults_callRepository fun isServed time => ?_
          subst isServed
          cases passed with
          | false => trivial
          | true =>
              intro row found
              simpa [checksLandOpen, waits, found] using lands
      | reset attemptId => exact keepsResults_callRepository fun _ _ => trivial
      | close attemptId outcome reason => exact keepsResults_callRepository fun _ _ => trivial

/-- A passing check that is recorded makes its attempt PASSED, whatever closed it before. -/
theorem recordCheck_passes {tables after : ProgressTables} {attemptId : Uuid} {time : Instant}
    {outcome : CheckOutcome} (ran : recordCheck tables attemptId true time = .ok (outcome, after)) :
    ∃ row, after.attempt attemptId = some row ∧ row.status = .passed := by
  unfold recordCheck at ran
  split at ran
  · cases ran
  rename_i before found
  split at ran
  · cases ran
  obtain ⟨checkCount, -, counted⟩ := bind_ok ran
  obtain ⟨⟨progress, next⟩, read, returned⟩ := bind_ok counted
  cases returned
  refine ⟨checkedRow before true checkCount time, ?_, rfl⟩
  have isId : before.attemptId = attemptId := Keyed.key_of_lookup found
  have stable : ∀ row : LabAttempt, (completing attemptId checkCount time row).attemptId = row.attemptId :=
    fun row => (evolves_completing attemptId checkCount time row).attemptId
  have changed : next.attempts = tables.attempts.map (completing attemptId checkCount time) :=
    attempts_progressAfter read
  have isThere : Keyed.lookup LabAttempt.attemptId attemptId tables.attempts = some before := found
  rw [ProgressTables.attempt, changed, Keyed.lookup_map stable, isThere]
  simp [completing, isId]

/-- An attempt is started, and checked; the session is closed before the check is written. -/
def closedWhileChecking (attemptId : Uuid) : List ServiceEvent :=
  [.asked (.startAttempt "student-1" "LINUX-001" "linux" "authenticated" attemptId) 1000 true,
    .resumed 0 1000 true, .asked (.bindSession attemptId "sess-1") 2000 true,
    .asked (.recordCheck "sess-1" true) 3000 true,
    .asked (.closeSession "sess-1" .ended none) 4000 true, .resumed 1 4000 true]

/-- The ended attempt passes, when the check is written. -/
theorem closed_attempts_change :
    ¬ ∀ (students : List String) (events more : List ServiceEvent) (attemptId : Uuid) (row : LabAttempt),
      (progressService.after ⟨.empty students, []⟩ events).tables.attempt attemptId = some row →
      isClosedAttempt row.status = true →
      ∃ later, (progressService.after ⟨.empty students, []⟩ (events ++ more)).tables.attempt attemptId =
        some later ∧ later.status = row.status ∧ later.statusReason = row.statusReason := by
  intro stays
  let attemptId : Uuid := ⟨"00000000-0000-4000-8000-000000000001", by decide⟩
  have before : ((progressService.after ⟨.empty [], []⟩ (closedWhileChecking attemptId)).tables.attempt
      attemptId).map LabAttempt.status = some .ended := by decide
  have after : ((progressService.after ⟨.empty [], []⟩
      (closedWhileChecking attemptId ++ [.resumed 0 5000 true])).tables.attempt attemptId).map
        LabAttempt.status = some .passed := by decide
  obtain ⟨row, found, isEnded⟩ := Option.map_eq_some_iff.mp before
  obtain ⟨later, isLater, same, -⟩ :=
    stays [] (closedWhileChecking attemptId) [.resumed 0 5000 true] attemptId row found (by rw [isEnded]; rfl)
  rw [isLater, Option.map_some, same, isEnded] at after
  exact absurd after (by decide)

/-- In every run, from every state that it reaches, a closed attempt keeps its status and its reason as long as
    no passing check is written over an attempt that was ended, expired or failed. -/
theorem closed_attempts_stay_closed (students : List String) (events more : List ServiceEvent)
    (lands : progressService.Admits (fun state event => checksLandOpen state event = true)
      (progressService.after ⟨.empty students, []⟩ events) more)
    (attemptId : Uuid) (row : LabAttempt)
    (found : (progressService.after ⟨.empty students, []⟩ events).tables.attempt attemptId = some row)
    (closed : isClosedAttempt row.status = true) :
    ∃ later, (progressService.after ⟨.empty students, []⟩ (events ++ more)).tables.attempt attemptId =
      some later ∧ later.status = row.status ∧ later.statusReason = row.statusReason := by
  rw [Object.after_append]
  have kept : KeepsResults (progressService.after ⟨.empty students, []⟩ events).tables
      (progressService.after (progressService.after ⟨.empty students, []⟩ events) more).tables := by
    refine Object.after_keeps (fun state : ServiceState =>
      KeepsResults (progressService.after ⟨.empty students, []⟩ events).tables state.tables) ?_ (.refl _) lands
    intro state event before landsHere
    exact before.trans (keepsResults_event landsHere)
  obtain ⟨later, isLater, same⟩ := kept attemptId row found
  exact ⟨later, isLater, same closed⟩

theorem closed_attempts_stay_closed_ended :
    let attemptId : Uuid := ⟨"00000000-0000-4000-8000-000000000001", by decide⟩
    let start : ServiceState := ⟨.empty [], []⟩
    let more : List ServiceEvent :=
      [.asked (.recordReset "sess-1") 5000 true, .resumed 1 5000 true,
        .asked (.closeSession "sess-1" .expired (some "idle")) 6000 true, .resumed 1 6000 true]
    ∃ row later, (progressService.after start (closedWhileChecking attemptId)).tables.attempt attemptId = some row ∧
      row.status = .ended ∧
      (progressService.after start (closedWhileChecking attemptId ++ more)).tables.attempt attemptId = some later ∧
      later.status = row.status ∧ later.statusReason = row.statusReason := by
  intro attemptId start more
  have before : ((progressService.after start (closedWhileChecking attemptId)).tables.attempt
      attemptId).map LabAttempt.status = some .ended := by decide
  obtain ⟨row, found, isEnded⟩ := Option.map_eq_some_iff.mp before
  have lands : progressService.Admits (fun state event => checksLandOpen state event = true)
      (progressService.after start (closedWhileChecking attemptId)) more := by decide
  obtain ⟨later, isLater, same⟩ :=
    closed_attempts_stay_closed [] (closedWhileChecking attemptId) more lands attemptId row found
      (by rw [isEnded]; rfl)
  exact ⟨row, later, found, isEnded, isLater, same⟩

end JumptotechLabs.Progress
