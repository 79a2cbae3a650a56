/-
Module: JumptotechLabs.Progress.Summary
Layer: Progress (services/progress/src/postgres/repository.ts)
Purpose: The progress row of a student and a lab is the exact summary of the attempts at it. What one call
  does is said once (`Recorded`); that the summary stays exact, and that an attempt's result never changes,
  follows for every sequence of calls.
Main exports: Evolves, completions, Recorded, recorded_step, Summarised, summarised_step,
  progress_is_exact_summary
-/
import JumptotechLabs.Progress.Repository
import Mathlib.Data.List.Perm.Basic

namespace JumptotechLabs.Progress

open JumptotechLabs.Access (Instant isUuid stampAllowed)
open JumptotechLabs.Core

/-! ### What a call does to an attempt -/

/-- An attempt that is passed stays so, its times stay once set, and it is completed when it is passed. -/
structure Evolves (before after : LabAttempt) : Prop where
  attemptId : after.attemptId = before.attemptId
  studentId : after.studentId = before.studentId
  labId : after.labId = before.labId
  passed : before.status = .passed → after.status = .passed
  completedAt : ∀ time, before.completedAt = some time → after.completedAt = some time
  endedAt : ∀ time, before.endedAt = some time → after.endedAt = some time
  wellFormed : (before.status = .passed ↔ before.completedAt.isSome = true) →
    (after.status = .passed ↔ after.completedAt.isSome = true)

theorem Evolves.refl (row : LabAttempt) : Evolves row row :=
  ⟨rfl, rfl, rfl, id, fun _ => id, fun _ => id, id⟩

theorem Evolves.trans {a b c : LabAttempt} (first : Evolves a b) (second : Evolves b c) :
    Evolves a c where
  attemptId := second.attemptId.trans first.attemptId
  studentId := second.studentId.trans first.studentId
  labId := second.labId.trans first.labId
  passed isPassed := second.passed (first.passed isPassed)
  completedAt time isSet := second.completedAt time (first.completedAt time isSet)
  endedAt time isSet := second.endedAt time (first.endedAt time isSet)
  wellFormed isWellFormed := second.wellFormed (first.wellFormed isWellFormed)

/-- A change of other columns. -/
theorem evolves_of_same {before after : LabAttempt} (attemptId : after.attemptId = before.attemptId)
    (studentId : after.studentId = before.studentId) (labId : after.labId = before.labId)
    (status : after.status = before.status) (completedAt : after.completedAt = before.completedAt)
    (endedAt : after.endedAt = before.endedAt) : Evolves before after := by
  constructor
  · exact attemptId
  · exact studentId
  · exact labId
  · intro isPassed
    exact status.trans isPassed
  · intro time isSet
    exact completedAt.trans isSet
  · intro time isSet
    exact endedAt.trans isSet
  · intro isWellFormed
    rw [status, completedAt]
    exact isWellFormed

theorem or_of_isSet {value other : Option Instant} {time : Instant} (isSet : value = some time) :
    value.or other = some time := by
  rw [isSet]
  rfl

theorem evolves_checkedRow (row : LabAttempt) (passed : Bool) (checkCount : Nat) (time : Instant) :
    Evolves row (checkedRow row passed checkCount time) := by
  cases passed with
  | false => exact evolves_of_same rfl rfl rfl rfl rfl rfl
  | true =>
      constructor
      · rfl
      · rfl
      · rfl
      · intro _
        rfl
      · intro completed isSet
        exact or_of_isSet isSet
      · intro ended isSet
        exact isSet
      · intro _
        simp [checkedRow]

theorem evolves_finishedRow (row : LabAttempt) (outcome : AttemptOutcome) (reason : Option String)
    (time : Instant) : Evolves row (finishedRow row outcome reason time) := by
  constructor
  · rfl
  · rfl
  · rfl
  · intro isPassed
    simp [finishedRow, isPassed]
  · intro completed isSet
    exact isSet
  · intro ended isSet
    exact or_of_isSet isSet
  · intro isWellFormed
    by_cases inProgress : row.status = .inProgress
    · have notCompleted : row.completedAt.isSome ≠ true := by
        intro isCompleted
        have isPassed := isWellFormed.mpr isCompleted
        rw [inProgress] at isPassed
        cases isPassed
      simp only [finishedRow, inProgress, if_true]
      cases outcome with
      | ended => simpa [AttemptOutcome.toStatus] using notCompleted
      | expired => simpa [AttemptOutcome.toStatus] using notCompleted
      | failed => simpa [AttemptOutcome.toStatus] using notCompleted
    · simpa [finishedRow, inProgress] using isWellFormed

/-- Expiring is finishing an attempt in progress. -/
theorem expiredRow_eq {row : LabAttempt} (inProgress : row.status = .inProgress) (reason : String)
    (time : Instant) : expiredRow row reason time = finishedRow row .expired (some reason) time := by
  simp [expiredRow, finishedRow, inProgress, AttemptOutcome.toStatus]

/-! ### What a call does to the tables -/

/-- The attempt that a call newly completed. -/
def completionOf : ProgressReply → Option LabAttempt
  | .ok (.check outcome) => if outcome.newlyCompleted then some outcome.attempt else none
  | _ => none

/-- The recorded completions, in order. -/
def completions (transcript : List (ProgressCall × ProgressReply)) : List LabAttempt :=
  transcript.filterMap fun entry => completionOf entry.2

/-- A passed check of the attempt under an id. -/
def completing (attemptId : Uuid) (checkCount : Nat) (time : Instant) (row : LabAttempt) :
    LabAttempt :=
  if row.attemptId = attemptId then checkedRow row true checkCount time else row

theorem evolves_completing (attemptId : Uuid) (checkCount : Nat) (time : Instant)
    (row : LabAttempt) : Evolves row (completing attemptId checkCount time row) := by
  unfold completing
  split
  · exact evolves_checkedRow ..
  · exact .refl row

/-- Of one student and one lab. -/
def about (studentId labId : String) (row : LabAttempt) : Bool :=
  row.studentId == studentId && row.labId == labId

/-- Everything a call can do to the tables: nothing; one attempt more, and its lab started; attempts
    changed that are not completed by it; one attempt completed, and its lab; or a missing progress
    row added. -/
inductive Recorded (before : ProgressTables) : ProgressReply → ProgressTables → Prop where
  | refused (failure : ProgressFailure) : Recorded before (.error failure) before
  | created (input : NewAttempt) {inserted after : ProgressTables}
      (attempts : inserted.attempts = before.attempts ++ [input.row])
      (progress : inserted.progress = before.progress)
      (isNew : before.attempt input.attemptId = none)
      (touched : touchProgressOnStart inserted input = .ok after) :
      Recorded before (.ok (.attempt (some input.row))) after
  | updated {answer : ProgressAnswer} {after : ProgressTables} (change : LabAttempt → LabAttempt)
      (evolves : ∀ row, Evolves row (change row))
      (sameCompletion : ∀ row ∈ before.attempts, (change row).completedAt = row.completedAt)
      (attempts : after.attempts = before.attempts.map change)
      (progress : after.progress = before.progress)
      (noCompletion : completionOf (.ok answer) = none) : Recorded before (.ok answer) after
  | completed {row : LabAttempt} {checked after : ProgressTables} {progress : LabProgress}
      (checkCount : Nat) (time : Instant)
      (found : before.attempt row.attemptId = some row) (open_ : row.completedAt = none)
      (attempts : checked.attempts =
        before.attempts.map (completing row.attemptId checkCount time))
      (sameProgress : checked.progress = before.progress)
      (marked : markCompleted checked (checkedRow row true checkCount time) time =
        .ok (progress, after)) :
      Recorded before (.ok (.check ⟨checkedRow row true checkCount time, true, true, progress⟩)) after
  | materialised {row : LabAttempt} {answer : ProgressAnswer} {after : ProgressTables}
      (found : row ∈ before.attempts)
      (missing : before.progressOf row.studentId row.labId = none)
      (noCompletion : completionOf (.ok answer) = none) : Recorded before (.ok answer) after

section Step

variable {tables : ProgressTables}

/-- The attempt under an id is the only one with it. -/
theorem eq_of_attempt {attemptId : Uuid} {row other : LabAttempt}
    (found : tables.attempt attemptId = some row) (member : other ∈ tables.attempts)
    (sameId : other.attemptId = attemptId) : other = row := by
  have isOther : tables.attempt other.attemptId = some other :=
    Keyed.lookup_of_mem tables.attemptKeys member
  rw [sameId, found] at isOther
  exact (Option.some.inj isOther).symm

/-- A change of the attempt under an id that completes nothing. -/
theorem recorded_updateAttempt {attemptId : Uuid} (change : LabAttempt → LabAttempt)
    {answer : ProgressAnswer} {after : ProgressTables}
    (attempts : after.attempts = tables.attempts.map fun row =>
      if row.attemptId = attemptId then change row else row)
    (progress : after.progress = tables.progress)
    (evolves : ∀ row, Evolves row (change row))
    (sameCompletion : ∀ row, tables.attempt attemptId = some row →
      (change row).completedAt = row.completedAt)
    (noCompletion : completionOf (.ok answer) = none) : Recorded tables (.ok answer) after := by
  apply Recorded.updated (fun row => if row.attemptId = attemptId then change row else row)
  · intro row
    split
    · exact evolves row
    · exact .refl row
  · intro row member
    split
    · rename_i sameId
      have found : tables.attempt row.attemptId = some row :=
        Keyed.lookup_of_mem tables.attemptKeys member
      rw [sameId] at found
      exact sameCompletion row found
    · rfl
  · exact attempts
  · exact progress
  · exact noCompletion

/-- A sequencing returns when both its parts do. -/
theorem bind_ok {α β : Type} {first : Except ProgressFailure α}
    {rest : α → Except ProgressFailure β} {result : β} (ran : (first >>= rest) = .ok result) :
    ∃ value, first = .ok value ∧ rest value = .ok result := by
  cases first with
  | error failure => cases ran
  | ok value => exact ⟨value, rfl, ran⟩

theorem map_ok {α β : Type} {first : Except ProgressFailure α} {read : α → β} {result : β}
    (ran : first.map read = .ok result) : ∃ value, first = .ok value ∧ read value = result := by
  cases first with
  | error failure => cases ran
  | ok value => exact ⟨value, rfl, Except.ok.inj ran⟩

theorem recorded_createAttempt {input : NewAttempt} {row : LabAttempt} {after : ProgressTables}
    (ran : createAttempt tables input = .ok (row, after)) :
    Recorded tables (.ok (.attempt (some row))) after := by
  unfold createAttempt at ran
  split at ran
  · cases ran
  split at ran
  · rename_i isNew
    obtain ⟨next, touched, returned⟩ := bind_ok ran
    cases returned
    refine .created input ?_ ?_ isNew touched
    · rfl
    · rfl
  · cases ran

theorem recorded_recordCheck {attemptId : Uuid} {passed : Bool} {time : Instant}
    {outcome : CheckOutcome} {after : ProgressTables}
    (ran : recordCheck tables attemptId passed time = .ok (outcome, after)) :
    Recorded tables (.ok (.check outcome)) after := by
  unfold recordCheck at ran
  split at ran
  · cases ran
  rename_i row found
  split at ran
  · cases ran
  obtain ⟨checkCount, _, counted⟩ := bind_ok ran
  obtain ⟨⟨progress, next⟩, marked, returned⟩ := bind_ok counted
  cases returned
  have sameId : row.attemptId = attemptId := Keyed.key_of_lookup found
  cases isNew : passed && row.completedAt.isNone with
  | true =>
      rw [isNew, progressAfter, if_pos rfl] at marked
      obtain ⟨isPassed, isOpen⟩ := Bool.and_eq_true_iff.mp isNew
      subst isPassed sameId
      refine .completed checkCount time found (Option.isNone_iff_eq_none.mp isOpen) ?_ ?_ marked
      · rfl
      · rfl
  | false =>
      rw [isNew, progressAfter, if_neg Bool.false_ne_true] at marked
      unfold readProgress at marked
      split at marked
      · cases marked
        refine recorded_updateAttempt (checkedRow · passed checkCount time) rfl rfl ?_ ?_ rfl
        · intro other
          exact evolves_checkedRow ..
        · intro other isOther
          rw [found] at isOther
          cases isOther
          cases isPassed : passed with
          | false => rfl
          | true =>
              rw [isPassed, Bool.true_and] at isNew
              cases completed : row.completedAt with
              | none =>
                  rw [completed] at isNew
                  cases isNew
              | some time => simp [checkedRow, completed]
      · rename_i missing
        exact .materialised (Keyed.mem_of_lookup found) missing rfl

theorem recorded_bindSession {attemptId : Uuid} {sessionId : String} {time : Instant}
    {found : Option LabAttempt} {after : ProgressTables}
    (ran : bindSession tables attemptId sessionId time = .ok (found, after)) :
    Recorded tables (.ok (.attempt found)) after := by
  unfold bindSession at ran
  split at ran
  · cases ran
  split at ran
  · cases ran
  cases ran
  refine recorded_updateAttempt
    (fun row => { row with sessionId := some sessionId, updatedAt := time }) rfl rfl ?_ ?_ rfl
  · intro row
    exact evolves_of_same rfl rfl rfl rfl rfl rfl
  · intro row _
    rfl

theorem recorded_finishAttempt {attemptId : Uuid} {outcome : AttemptOutcome}
    {reason : Option String} {time : Instant} {found : Option LabAttempt} {after : ProgressTables}
    (ran : finishAttempt tables attemptId outcome reason time = .ok (found, after)) :
    Recorded tables (.ok (.attempt found)) after := by
  unfold finishAttempt at ran
  split at ran
  · cases ran
  cases ran
  refine recorded_updateAttempt (finishedRow · outcome reason time) rfl rfl ?_ ?_ rfl
  · intro row
    exact evolves_finishedRow ..
  · intro row _
    rfl

theorem recorded_recordReset {attemptId : Uuid} {time : Instant} {found : Option LabAttempt}
    {after : ProgressTables} (ran : recordReset tables attemptId time = .ok (found, after)) :
    Recorded tables (.ok (.attempt found)) after := by
  unfold recordReset at ran
  split at ran
  · cases ran
  split at ran
  · cases ran
    exact .updated id Evolves.refl (fun _ _ => rfl) (List.map_id _).symm rfl rfl
  · obtain ⟨resetCount, _, returned⟩ := bind_ok ran
    cases returned
    refine recorded_updateAttempt
      (fun row => { row with resetCount := resetCount, updatedAt := time }) rfl rfl ?_ ?_ rfl
    · intro row
      exact evolves_of_same rfl rfl rfl rfl rfl rfl
    · intro row _
      rfl

theorem recorded_expireStaleAttempts {startedBefore : Instant} {reason : String} {time : Instant}
    {liveSessionIds : List String} {count : Nat} {after : ProgressTables}
    (ran : expireStaleAttempts tables startedBefore reason time liveSessionIds =
      .ok (count, after)) : Recorded tables (.ok (.expired count)) after := by
  unfold expireStaleAttempts at ran
  split at ran
  · cases ran
  cases ran
  apply Recorded.updated fun row =>
    if isStale row startedBefore liveSessionIds then expiredRow row reason time else row
  · intro row
    split
    · rename_i stale
      have inProgress : row.status = .inProgress := by
        simp only [isStale, Bool.and_eq_true, beq_iff_eq] at stale
        exact stale.1.1
      rw [expiredRow_eq inProgress]
      exact evolves_finishedRow ..
    · exact .refl row
  · intro row _
    split
    · rfl
    · rfl
  · rfl
  · rfl
  · rfl

/-- Every call does one of these. -/
theorem recorded_step (tables : ProgressTables) (call : ProgressCall) :
    Recorded tables (postgresProgress.step tables call).1 (postgresProgress.step tables call).2 := by
  simp only
  split
  · cases ran : perform tables call.request with
    | error failure => exact .refused failure
    | ok written =>
        simp only
        cases request : call.request with
        | createAttempt input =>
            rw [request] at ran
            obtain ⟨value, made, rfl⟩ := map_ok ran
            exact recorded_createAttempt made
        | bindSession attemptId sessionId time =>
            rw [request] at ran
            obtain ⟨value, made, rfl⟩ := map_ok ran
            exact recorded_bindSession made
        | recordCheck attemptId passed time =>
            rw [request] at ran
            obtain ⟨value, made, rfl⟩ := map_ok ran
            exact recorded_recordCheck made
        | recordReset attemptId time =>
            rw [request] at ran
            obtain ⟨value, made, rfl⟩ := map_ok ran
            exact recorded_recordReset made
        | finishAttempt attemptId outcome reason time =>
            rw [request] at ran
            obtain ⟨value, made, rfl⟩ := map_ok ran
            exact recorded_finishAttempt made
        | expireStaleAttempts startedBefore reason time liveSessionIds =>
            rw [request] at ran
            obtain ⟨value, made, rfl⟩ := map_ok ran
            exact recorded_expireStaleAttempts made
  · exact .refused _

end Step

/-! ### The summary -/

/-- The attempts of a student at a lab, in the order they were made. -/
def ProgressTables.triesOf (tables : ProgressTables) (studentId labId : String) : List LabAttempt :=
  tables.attempts.filter (about studentId labId)

/-- A progress row is the summary of these attempts and these completions. -/
structure Sums (tries : List Uuid) (done : List LabAttempt) (row : LabProgress) : Prop where
  tried : tries ≠ []
  attemptCount : row.attemptCount = tries.length
  completionCount : row.completionCount = done.length
  status : row.status = .completed ↔ done ≠ []
  first : row.firstCompletedAt = done.head?.bind LabAttempt.completedAt
  last : row.lastCompletedAt = done.getLast?.bind LabAttempt.completedAt
  lastAttemptId : row.lastAttemptId = tries.getLast?

/-- There is a row when there is an attempt, and it is their summary. -/
def Summary (tries : List Uuid) (done : List LabAttempt) (row : Option LabProgress) : Prop :=
  (row = none → tries = []) ∧ ∀ found, row = some found → Sums tries done found

/-- The tables and the completions recorded so far. -/
structure Summarised (tables : ProgressTables) (done : List LabAttempt) : Prop where
  wellFormed : ∀ row ∈ tables.attempts, row.status = .passed ↔ row.completedAt.isSome = true
  recorded : ∀ row ∈ tables.attempts, row.completedAt.isSome = true →
    row.attemptId ∈ done.map LabAttempt.attemptId
  stored : ∀ entry ∈ done, entry.completedAt.isSome = true ∧ ∃ row ∈ tables.attempts,
    row.attemptId = entry.attemptId ∧ row.studentId = entry.studentId ∧
      row.labId = entry.labId ∧ row.completedAt = entry.completedAt
  once : (done.map LabAttempt.attemptId).Nodup
  summary : ∀ studentId labId,
    Summary ((tables.triesOf studentId labId).map LabAttempt.attemptId)
      (done.filter (about studentId labId)) (tables.progressOf studentId labId)

theorem about_iff {studentId labId : String} {row : LabAttempt} :
    about studentId labId row = true ↔ row.studentId = studentId ∧ row.labId = labId := by
  simp [about]

theorem summarised_empty (students : List String) : Summarised (.empty students) [] := by
  constructor
  · intro row member
    exact absurd member List.not_mem_nil
  · intro row member
    exact absurd member List.not_mem_nil
  · intro row member
    exact absurd member List.not_mem_nil
  · exact List.nodup_nil
  · intro studentId labId
    constructor
    · intro _
      rfl
    · intro found impossible
      cases impossible

/-- Changes that keep an attempt's student and lab keep the list of attempts. -/
theorem triesOf_map {tables after : ProgressTables} {change : LabAttempt → LabAttempt}
    (evolves : ∀ row, Evolves row (change row)) (attempts : after.attempts = tables.attempts.map change)
    (studentId labId : String) :
    (after.triesOf studentId labId).map LabAttempt.attemptId =
      (tables.triesOf studentId labId).map LabAttempt.attemptId := by
  have sameAbout : about studentId labId ∘ change = about studentId labId := by
    funext row
    simp only [Function.comp_apply, about, (evolves row).studentId, (evolves row).labId]
  rw [ProgressTables.triesOf, ProgressTables.triesOf, attempts, List.filter_map, List.map_map,
    sameAbout]
  apply List.map_congr_left
  intro row _
  exact (evolves row).attemptId

section Kept

variable {tables after : ProgressTables} {done : List LabAttempt}

/-- Where there is no attempt there is no completion. -/
theorem Summarised.done_of_untried (summarised : Summarised tables done) {studentId labId : String}
    (untried : (tables.triesOf studentId labId).map LabAttempt.attemptId = []) :
    done.filter (about studentId labId) = [] := by
  apply List.filter_eq_nil_iff.mpr
  intro entry member isAbout
  obtain ⟨_, row, inTables, _, sameStudent, sameLab, _⟩ := summarised.stored entry member
  have inTries : row ∈ tables.triesOf studentId labId := by
    apply List.mem_filter.mpr
    refine ⟨inTables, about_iff.mpr ?_⟩
    rw [sameStudent, sameLab]
    exact about_iff.mp isAbout
  rw [List.map_eq_nil_iff.mp untried] at inTries
  exact absurd inTries List.not_mem_nil

theorem Summarised.updated (summarised : Summarised tables done) {change : LabAttempt → LabAttempt}
    (evolves : ∀ row, Evolves row (change row))
    (sameCompletion : ∀ row ∈ tables.attempts, (change row).completedAt = row.completedAt)
    (attempts : after.attempts = tables.attempts.map change)
    (progress : after.progress = tables.progress) : Summarised after done := by
  constructor
  · intro row member
    rw [attempts] at member
    obtain ⟨old, inTables, rfl⟩ := List.mem_map.mp member
    exact (evolves old).wellFormed (summarised.wellFormed old inTables)
  · intro row member isCompleted
    rw [attempts] at member
    obtain ⟨old, inTables, rfl⟩ := List.mem_map.mp member
    rw [sameCompletion old inTables] at isCompleted
    rw [(evolves old).attemptId]
    exact summarised.recorded old inTables isCompleted
  · intro entry member
    obtain ⟨isCompleted, row, inTables, sameId, sameStudent, sameLab, sameTime⟩ :=
      summarised.stored entry member
    refine ⟨isCompleted, change row, ?_, ?_, ?_, ?_, ?_⟩
    · rw [attempts]
      exact List.mem_map_of_mem inTables
    · exact (evolves row).attemptId.trans sameId
    · exact (evolves row).studentId.trans sameStudent
    · exact (evolves row).labId.trans sameLab
    · exact (sameCompletion row inTables).trans sameTime
  · exact summarised.once
  · intro studentId labId
    rw [triesOf_map evolves attempts, ProgressTables.progressOf, progress]
    exact summarised.summary studentId labId

theorem progressOf_putProgress (row : LabProgress) (studentId labId : String) :
    (tables.putProgress row).progressOf studentId labId =
      if row.studentId = studentId ∧ row.labId = labId then some row
      else tables.progressOf studentId labId := by
  rw [ProgressTables.progressOf, ProgressTables.putProgress, Keyed.lookup_put]
  simp only [LabProgress.key, Prod.mk.injEq]
  rfl

theorem increment_ok {count next : Nat} (counted : increment count = .ok next) :
    next = count + 1 := by
  unfold increment at counted
  split at counted
  · exact (Except.ok.inj counted).symm
  · cases counted

/-- What starting a lab does to the tables: one row is put, the summary of one attempt more. -/
theorem touchProgressOnStart_ok {input : NewAttempt}
    (touched : touchProgressOnStart tables input = .ok after) :
    ∃ row : LabProgress, after = tables.putProgress row ∧ row.studentId = input.studentId ∧
      row.labId = input.labId ∧
      ∀ tries done, Summary tries done (tables.progressOf input.studentId input.labId) →
        (tries = [] → done = []) → Sums (tries ++ [input.attemptId]) done row := by
  unfold touchProgressOnStart at touched
  cases found : tables.progressOf input.studentId input.labId with
  | none =>
      rw [found] at touched
      cases touched
      refine ⟨_, rfl, rfl, rfl, ?_⟩
      intro tries done summary undone
      have isEmpty := summary.1 rfl
      rw [isEmpty, undone isEmpty]
      constructor
      all_goals simp [startedRow]
  | some row =>
      rw [found] at touched
      obtain ⟨attemptCount, counted, returned⟩ := bind_ok touched
      cases returned
      have key : row.studentId = input.studentId ∧ row.labId = input.labId := by
        have isKey := Keyed.key_of_lookup found
        simpa [LabProgress.key] using isKey
      refine ⟨_, rfl, key.1, key.2, ?_⟩
      intro tries done summary _
      have sums := summary.2 row rfl
      have isNext := increment_ok counted
      constructor
      · simp
      · simp [isNext, sums.attemptCount]
      · exact sums.completionCount
      · rw [← sums.status]
        by_cases isCompleted : row.status = .completed
        · simp [isCompleted]
        · simp [isCompleted]
      · exact sums.first
      · exact sums.last
      · simp

/-- What a completion does to the tables, when the lab was started: one row is put, the summary of one
    completion more. -/
theorem markCompleted_ok {attempt : LabAttempt} {time : Instant} {progress : LabProgress}
    (marked : markCompleted tables attempt time = .ok (progress, after))
    (isCompleted : attempt.completedAt = some time) :
    ∃ row : LabProgress, after = tables.putProgress row ∧ row.studentId = attempt.studentId ∧
      row.labId = attempt.labId ∧
      ∀ tries done, Summary tries done (tables.progressOf attempt.studentId attempt.labId) →
        tries ≠ [] → (∀ entry ∈ done, entry.completedAt.isSome = true) →
        Sums tries (done ++ [attempt]) row := by
  unfold markCompleted at marked
  cases found : tables.progressOf attempt.studentId attempt.labId with
  | none =>
      rw [found] at marked
      cases marked
      refine ⟨_, rfl, rfl, rfl, ?_⟩
      intro tries done summary tried
      exact absurd (summary.1 rfl) tried
  | some row =>
      rw [found] at marked
      obtain ⟨completionCount, counted, returned⟩ := bind_ok marked
      cases returned
      have key : row.studentId = attempt.studentId ∧ row.labId = attempt.labId := by
        have isKey := Keyed.key_of_lookup found
        simpa [LabProgress.key] using isKey
      refine ⟨_, rfl, key.1, key.2, ?_⟩
      intro tries done summary tried completed
      have sums := summary.2 row rfl
      have isNext := increment_ok counted
      constructor
      · exact tried
      · exact sums.attemptCount
      · simp [isNext, sums.completionCount]
      · simp
      · cases done with
        | nil => simp [sums.first, isCompleted]
        | cons entry rest =>
            obtain ⟨first, isFirst⟩ :=
              Option.isSome_iff_exists.mp (completed entry List.mem_cons_self)
            simp [sums.first, isFirst]
      · simp [isCompleted]
      · exact sums.lastAttemptId

theorem Summarised.created (summarised : Summarised tables done) {input : NewAttempt}
    {inserted : ProgressTables} (attempts : inserted.attempts = tables.attempts ++ [input.row])
    (progress : inserted.progress = tables.progress)
    (touched : touchProgressOnStart inserted input = .ok after) : Summarised after done := by
  obtain ⟨row, isPut, isStudent, isLab, sums⟩ := touchProgressOnStart_ok touched
  have isAttempts : after.attempts = tables.attempts ++ [input.row] := by
    rw [isPut]
    exact attempts
  have sameProgress : ∀ studentId labId, inserted.progressOf studentId labId =
      tables.progressOf studentId labId := by
    intro studentId labId
    rw [ProgressTables.progressOf, ProgressTables.progressOf, progress]
  constructor
  · intro other member
    rw [isAttempts] at member
    rcases List.mem_append.mp member with inTables | isNew
    · exact summarised.wellFormed other inTables
    · rw [List.mem_singleton.mp isNew]
      simp [NewAttempt.row]
  · intro other member isCompleted
    rw [isAttempts] at member
    rcases List.mem_append.mp member with inTables | isNew
    · exact summarised.recorded other inTables isCompleted
    · rw [List.mem_singleton.mp isNew] at isCompleted
      cases isCompleted
  · intro entry member
    obtain ⟨isCompleted, other, inTables, same⟩ := summarised.stored entry member
    refine ⟨isCompleted, other, ?_, same⟩
    rw [isAttempts]
    exact List.mem_append_left _ inTables
  · exact summarised.once
  · intro studentId labId
    have summary := summarised.summary studentId labId
    rw [ProgressTables.triesOf, isAttempts, List.filter_append, isPut, progressOf_putProgress]
    by_cases here : row.studentId = studentId ∧ row.labId = labId
    · rw [if_pos here]
      obtain ⟨rfl, rfl⟩ := here
      have isAbout : about row.studentId row.labId input.row = true :=
        about_iff.mpr ⟨isStudent.symm, isLab.symm⟩
      rw [isStudent, isLab] at summary isAbout ⊢
      rw [List.filter_cons_of_pos isAbout, List.filter_nil, List.map_append]
      constructor
      · intro impossible
        cases impossible
      · intro found isFound
        cases isFound
        rw [← sameProgress] at summary
        exact sums _ _ summary summarised.done_of_untried
    · rw [if_neg here, sameProgress]
      have notAbout : ¬ about studentId labId input.row = true := by
        intro isAbout
        obtain ⟨sameStudent, sameLab⟩ := about_iff.mp isAbout
        exact here ⟨isStudent.trans sameStudent, isLab.trans sameLab⟩
      rw [List.filter_cons_of_neg notAbout, List.filter_nil, List.append_nil]
      exact summary

theorem Summarised.completed (summarised : Summarised tables done) {row : LabAttempt}
    {checked : ProgressTables} {progress : LabProgress} {checkCount : Nat} {time : Instant}
    (found : tables.attempt row.attemptId = some row) (isOpen : row.completedAt = none)
    (attempts : checked.attempts = tables.attempts.map (completing row.attemptId checkCount time))
    (sameProgress : checked.progress = tables.progress)
    (marked : markCompleted checked (checkedRow row true checkCount time) time =
      .ok (progress, after)) :
    Summarised after (done ++ [checkedRow row true checkCount time]) := by
  have isCompleted : (checkedRow row true checkCount time).completedAt = some time := by
    simp [checkedRow, isOpen]
  obtain ⟨next, isPut, isStudent, isLab, sums⟩ := markCompleted_ok marked isCompleted
  have isAttempts : after.attempts = _ := (congrArg ProgressTables.attempts isPut).trans attempts
  have evolves := evolves_completing row.attemptId checkCount time
  have inTables : row ∈ tables.attempts := Keyed.mem_of_lookup found
  constructor
  · intro other member
    rw [isAttempts] at member
    obtain ⟨old, wasThere, rfl⟩ := List.mem_map.mp member
    exact (evolves old).wellFormed (summarised.wellFormed old wasThere)
  · intro other member isSet
    rw [isAttempts] at member
    obtain ⟨old, wasThere, rfl⟩ := List.mem_map.mp member
    rw [List.map_append, (evolves old).attemptId]
    by_cases same : old.attemptId = row.attemptId
    · rw [same]
      exact List.mem_append_right _ List.mem_cons_self
    · rw [completing, if_neg same] at isSet
      exact List.mem_append_left _ (summarised.recorded old wasThere isSet)
  · intro entry member
    rcases List.mem_append.mp member with wasDone | isNew
    · obtain ⟨isSet, old, wasThere, sameId, sameStudent, sameLab, sameTime⟩ :=
        summarised.stored entry wasDone
      refine ⟨isSet, completing row.attemptId checkCount time old, ?_, ?_, ?_, ?_, ?_⟩
      · rw [isAttempts]
        exact List.mem_map_of_mem wasThere
      · exact (evolves old).attemptId.trans sameId
      · exact (evolves old).studentId.trans sameStudent
      · exact (evolves old).labId.trans sameLab
      · obtain ⟨set, isTime⟩ := Option.isSome_iff_exists.mp isSet
        rw [isTime] at sameTime ⊢
        exact (evolves old).completedAt set sameTime
    · rw [List.mem_singleton.mp isNew]
      refine ⟨by rw [isCompleted]; rfl, checkedRow row true checkCount time, ?_, rfl, rfl, rfl, rfl⟩
      rw [isAttempts]
      exact List.mem_map.mpr ⟨row, inTables, if_pos rfl⟩
  · rw [List.map_append]
    refine List.nodup_append.mpr ⟨summarised.once, List.nodup_singleton _, ?_⟩
    intro earlier wasDone last isNew same
    obtain ⟨entry, member, rfl⟩ := List.mem_map.mp wasDone
    obtain ⟨isSet, old, wasThere, sameId, _, _, sameTime⟩ := summarised.stored entry member
    have isRow : old = row := by
      apply eq_of_attempt found wasThere
      rw [sameId, same]
      exact List.mem_singleton.mp isNew
    rw [isRow, isOpen] at sameTime
    rw [← sameTime] at isSet
    cases isSet
  · intro studentId labId
    have summary := summarised.summary studentId labId
    have sameRow : checked.progressOf studentId labId = tables.progressOf studentId labId := by
      rw [ProgressTables.progressOf, ProgressTables.progressOf, sameProgress]
    rw [triesOf_map evolves isAttempts, List.filter_append, isPut, progressOf_putProgress]
    by_cases here : next.studentId = studentId ∧ next.labId = labId
    · rw [if_pos here]
      obtain ⟨rfl, rfl⟩ := here
      have isAbout : about next.studentId next.labId (checkedRow row true checkCount time) = true :=
        about_iff.mpr ⟨isStudent.symm, isLab.symm⟩
      have tried : (tables.triesOf next.studentId next.labId).map LabAttempt.attemptId ≠ [] := by
        rw [ne_eq, List.map_eq_nil_iff]
        exact List.ne_nil_of_mem (List.mem_filter.mpr ⟨inTables, isAbout⟩)
      rw [List.filter_cons_of_pos isAbout, List.filter_nil]
      constructor
      · intro impossible
        cases impossible
      · intro other isOther
        cases isOther
        rw [← sameRow, isStudent, isLab] at summary
        rw [isStudent, isLab] at tried ⊢
        apply sums _ _ summary tried
        intro entry member
        exact (summarised.stored entry (List.mem_filter.mp member).1).1
    · rw [if_neg here, sameRow]
      have notAbout : ¬ about studentId labId (checkedRow row true checkCount time) = true := by
        intro isAbout
        obtain ⟨sameStudent, sameLab⟩ := about_iff.mp isAbout
        exact here ⟨isStudent.trans sameStudent, isLab.trans sameLab⟩
      rw [List.filter_cons_of_neg notAbout, List.filter_nil, List.append_nil]
      exact summary

/-- A lab with an attempt has a progress row. -/
theorem Summarised.started (summarised : Summarised tables done) {row : LabAttempt}
    (member : row ∈ tables.attempts) : tables.progressOf row.studentId row.labId ≠ none := by
  intro missing
  have untried := (summarised.summary _ _).1 missing
  rw [List.map_eq_nil_iff] at untried
  have inTries : row ∈ tables.triesOf row.studentId row.labId :=
    List.mem_filter.mpr ⟨member, about_iff.mpr ⟨rfl, rfl⟩⟩
  rw [untried] at inTries
  exact absurd inTries List.not_mem_nil

/-- Every call keeps the summary exact. -/
theorem summarised_step {reply : ProgressReply} (summarised : Summarised tables done)
    (recorded : Recorded tables reply after) :
    Summarised after (done ++ (completionOf reply).toList) := by
  cases recorded with
  | refused failure =>
      have none : completionOf (.error failure) = none := rfl
      rw [none, Option.toList_none, List.append_nil]
      exact summarised
  | created input attempts progress isNew touched =>
      have none : completionOf (.ok (.attempt (some input.row))) = none := rfl
      rw [none, Option.toList_none, List.append_nil]
      exact summarised.created attempts progress touched
  | updated change evolves sameCompletion attempts progress noCompletion =>
      rw [noCompletion, Option.toList_none, List.append_nil]
      exact summarised.updated evolves sameCompletion attempts progress
  | completed checkCount time found isOpen attempts sameProgress marked =>
      exact summarised.completed found isOpen attempts sameProgress marked
  | materialised found missing noCompletion => exact absurd missing (summarised.started found)

/-- An attempt's result never changes. -/
theorem evolves_step {reply : ProgressReply} (recorded : Recorded tables reply after)
    (summarised : Summarised tables done) {attemptId : Uuid} {row : LabAttempt}
    (found : tables.attempt attemptId = some row) :
    ∃ next, after.attempt attemptId = some next ∧ Evolves row next := by
  have member : row ∈ tables.attempts := Keyed.mem_of_lookup found
  have isId : row.attemptId = attemptId := Keyed.key_of_lookup found
  have changed : ∀ {change : LabAttempt → LabAttempt}, (∀ row, Evolves row (change row)) →
      after.attempts = tables.attempts.map change →
      ∃ next, after.attempt attemptId = some next ∧ Evolves row next := by
    intro change evolves attempts
    refine ⟨change row, ?_, evolves row⟩
    rw [← isId, ← (evolves row).attemptId]
    apply Keyed.lookup_of_mem after.attemptKeys
    rw [attempts]
    exact List.mem_map_of_mem member
  cases recorded with
  | refused failure => exact ⟨row, found, .refl row⟩
  | created input attempts progress isNew touched =>
      obtain ⟨_, isPut, _⟩ := touchProgressOnStart_ok touched
      refine ⟨row, ?_, .refl row⟩
      rw [← isId]
      apply Keyed.lookup_of_mem after.attemptKeys
      rw [isPut]
      have stays : row ∈ tables.attempts ++ [input.row] := List.mem_append_left _ member
      rw [← attempts] at stays
      exact stays
  | updated change evolves sameCompletion attempts progress noCompletion =>
      exact changed evolves attempts
  | completed checkCount time isFound isOpen attempts sameProgress marked =>
      obtain ⟨_, isPut, _⟩ := markCompleted_ok marked (by simp [checkedRow, isOpen])
      exact changed (evolves_completing _ checkCount time)
        ((congrArg ProgressTables.attempts isPut).trans attempts)
  | materialised isFound missing noCompletion =>
      exact absurd missing (summarised.started isFound)

end Kept

/-! ### Every run -/

theorem summarised_after (students : List String) (calls : List ProgressCall) :
    Summarised (postgresProgress.after (.empty students) calls)
      (completions (postgresProgress.transcript (.empty students) calls)) := by
  have start : Summarised (.empty students) (completions []) := summarised_empty students
  apply Object.transcript_of_step
    (fun (tables : postgresProgress.State) transcript => Summarised tables (completions transcript))
    _ start calls
  intro tables past call summarised
  have next := summarised_step summarised (recorded_step tables call)
  have grows : completions (past ++ [(call, (postgresProgress.step tables call).1)]) =
      completions past ++ (completionOf (postgresProgress.step tables call).1).toList := by
    rw [completions, List.filterMap_append, List.filterMap_cons, List.filterMap_nil]
    cases completionOf (postgresProgress.step tables call).1 with
    | none => rfl
    | some entry => rfl
  rw [grows]
  exact next

/-- As many attempts are completed as completions were recorded. -/
theorem Summarised.countP_completed {tables : ProgressTables} {done : List LabAttempt}
    (summarised : Summarised tables done) (studentId labId : String) :
    (tables.triesOf studentId labId).countP (·.completedAt.isSome) =
      (done.filter (about studentId labId)).length := by
  have sameIds : (((tables.triesOf studentId labId).filter (·.completedAt.isSome)).map
      LabAttempt.attemptId).Perm
        ((done.filter (about studentId labId)).map LabAttempt.attemptId) := by
    apply (List.perm_ext_iff_of_nodup ?_ ?_).mpr
    · intro attemptId
      constructor
      · intro member
        obtain ⟨row, inFiltered, rfl⟩ := List.mem_map.mp member
        obtain ⟨inTries, isCompleted⟩ := List.mem_filter.mp inFiltered
        obtain ⟨inTables, isAbout⟩ := List.mem_filter.mp inTries
        obtain ⟨entry, inDone, sameId⟩ :=
          List.mem_map.mp (summarised.recorded row inTables isCompleted)
        refine List.mem_map.mpr ⟨entry, List.mem_filter.mpr ⟨inDone, ?_⟩, sameId⟩
        obtain ⟨_, stored, inStored, isStored, sameStudent, sameLab, _⟩ :=
          summarised.stored entry inDone
        have isRow : stored = row := by
          apply eq_of_attempt (Keyed.lookup_of_mem tables.attemptKeys inTables) inStored
          exact isStored.trans sameId
        rw [about_iff, ← sameStudent, ← sameLab, isRow]
        exact about_iff.mp isAbout
      · intro member
        obtain ⟨entry, inFiltered, rfl⟩ := List.mem_map.mp member
        obtain ⟨inDone, isAbout⟩ := List.mem_filter.mp inFiltered
        obtain ⟨isCompleted, row, inTables, sameId, sameStudent, sameLab, sameTime⟩ :=
          summarised.stored entry inDone
        refine List.mem_map.mpr ⟨row, List.mem_filter.mpr ⟨List.mem_filter.mpr ⟨inTables, ?_⟩, ?_⟩,
          sameId⟩
        · rw [about_iff, sameStudent, sameLab]
          exact about_iff.mp isAbout
        · rw [sameTime]
          exact isCompleted
    · exact List.Nodup.sublist ((List.filter_sublist.trans List.filter_sublist).map _)
        tables.attemptKeys
    · exact List.Nodup.sublist (List.filter_sublist.map _) summarised.once
  have sameLength := sameIds.length_eq
  rw [List.length_map, List.length_map] at sameLength
  rw [List.countP_eq_length_filter]
  exact sameLength

theorem evolves_after {tables : ProgressTables} {done : List LabAttempt}
    (summarised : Summarised tables done) {attemptId : Uuid} {row : LabAttempt}
    (found : tables.attempt attemptId = some row) (later : List ProgressCall) :
    ∃ next, (postgresProgress.after tables later).attempt attemptId = some next ∧
      Evolves row next := by
  induction later generalizing tables done row with
  | nil => exact ⟨row, found, .refl row⟩
  | cons call later ih =>
      have recorded := recorded_step tables call
      obtain ⟨next, isNext, first⟩ := evolves_step recorded summarised found
      obtain ⟨last, isLast, rest⟩ := ih (summarised_step summarised recorded) isNext
      exact ⟨last, isLast, first.trans rest⟩

/-- The attempt under a recorded completion's id has its time. -/
theorem Summarised.completedAt_of_mem {tables : ProgressTables} {done : List LabAttempt}
    (summarised : Summarised tables done) {entry : LabAttempt} (member : entry ∈ done) :
    (tables.attempt entry.attemptId).bind LabAttempt.completedAt = entry.completedAt := by
  obtain ⟨_, row, inTables, sameId, _, _, sameTime⟩ := summarised.stored entry member
  have found : tables.attempt row.attemptId = some row :=
    Keyed.lookup_of_mem tables.attemptKeys inTables
  rw [← sameId, found]
  exact sameTime

/-- In every run, the progress row of a student and a lab is the exact summary of the attempts at it, the
    completions being those that `recordCheck` answered with. An attempt's result never changes, it has
    a time of completion when it is passed, and it is newly completed at most once. -/
theorem progress_is_exact_summary (students : List String) (calls : List ProgressCall) :
    let tables := postgresProgress.after (.empty students) calls
    let done := completions (postgresProgress.transcript (.empty students) calls)
    let completedAt := fun entry : LabAttempt =>
      (tables.attempt entry.attemptId).bind LabAttempt.completedAt
    (∀ studentId labId,
        let tries := tables.attempts.filter (about studentId labId)
        let completed := tries.countP (·.completedAt.isSome)
        ((tables.progressOf studentId labId).isSome = true ↔ tries ≠ []) ∧
          ∀ row, tables.progressOf studentId labId = some row →
            row.attemptCount = tries.length ∧ row.completionCount = completed ∧
              (row.status = .completed ↔ 0 < completed) ∧
              row.firstCompletedAt = (done.filter (about studentId labId)).head?.bind completedAt ∧
              row.lastCompletedAt = (done.filter (about studentId labId)).getLast?.bind completedAt ∧
              row.lastAttemptId = tries.getLast?.map LabAttempt.attemptId) ∧
      (∀ attemptId row later, tables.attempt attemptId = some row →
        ∃ next, (postgresProgress.after tables later).attempt attemptId = some next ∧
          (row.status = .passed → next.status = .passed) ∧
          (∀ time, row.completedAt = some time → next.completedAt = some time) ∧
          ∀ time, row.endedAt = some time → next.endedAt = some time) ∧
      (∀ row ∈ tables.attempts, row.completedAt.isSome = true ↔ row.status = .passed) ∧
      (done.map LabAttempt.attemptId).Nodup := by
  intro tables done completedAt
  have summarised : Summarised tables done := summarised_after students calls
  refine ⟨?_, ?_, ?_, summarised.once⟩
  · intro studentId labId tries completed
    have summary := summarised.summary studentId labId
    have counted : completed = (done.filter (about studentId labId)).length :=
      summarised.countP_completed studentId labId
    constructor
    · cases found : tables.progressOf studentId labId with
      | none =>
          have untried : tries = [] := List.map_eq_nil_iff.mp (summary.1 found)
          simp [untried]
      | some row =>
          have tried : tries.map LabAttempt.attemptId ≠ [] := (summary.2 row found).tried
          simpa using tried
    · intro row found
      have sums := summary.2 row found
      refine ⟨?_, ?_, ?_, ?_, ?_, ?_⟩
      · rw [sums.attemptCount, List.length_map]
        rfl
      · rw [sums.completionCount, counted]
      · rw [sums.status, counted, List.length_pos_iff]
      · rw [sums.first]
        cases isHead : (done.filter (about studentId labId)).head? with
        | none => rfl
        | some entry =>
            have member := (List.mem_filter.mp (List.mem_of_mem_head? isHead)).1
            exact (summarised.completedAt_of_mem member).symm
      · rw [sums.last]
        cases isLast : (done.filter (about studentId labId)).getLast? with
        | none => rfl
        | some entry =>
            have member := (List.mem_filter.mp (List.mem_of_getLast? isLast)).1
            exact (summarised.completedAt_of_mem member).symm
      · rw [sums.lastAttemptId, List.getLast?_map]
        rfl
  · intro attemptId row later found
    obtain ⟨next, isNext, evolves⟩ := evolves_after summarised found later
    exact ⟨next, isNext, evolves.passed, evolves.completedAt, evolves.endedAt⟩
  · intro row member
    exact (summarised.wellFormed row member).symm

end JumptotechLabs.Progress
