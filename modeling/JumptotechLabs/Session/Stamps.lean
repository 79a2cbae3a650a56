/-
Module: JumptotechLabs.Session.Stamps
Layer: Session (services/lab-orchestrator/src/session/manager.ts, reaper.ts,
  apps/api/src/routes/sessions.ts)
Purpose: Where the times a method writes come from. Every status stamp and every activity is a reading
  the thread has just taken, and the release of a reset to ACTIVE comes after the provider's rebuild,
  behind a fence that was read before it. One lemma for each method, read sequentially.
Main exports: freshReadings, isReading, AfterRebuild, StampAsks, StampCredible, body_stamps
-/
import JumptotechLabs.Session.Lifecycle

namespace JumptotechLabs.Session

open JumptotechLabs.Core
open JumptotechLabs.Core.Prog (attempt ensure settle)

variable {α : Type}

/-! ### Readings nothing has been done with yet -/

/-- The readings a history ends in. -/
def freshReadings : History → List Instant
  | ⟨.now, .ok reading⟩ :: past => reading :: freshReadings past
  | _ => []

/-- Is this the answer to a look at the clock? -/
def isReading (interaction : SessionInteraction) : Bool :=
  match interaction.command with
  | .now => true
  | _ => false

/-- Any other command uses the readings up. -/
theorem freshReadings_other {interaction : SessionInteraction} {past : History}
    (other : isReading interaction = false) : freshReadings (interaction :: past) = [] := by
  obtain ⟨command, answer⟩ := interaction
  cases command with
  | now => cases other
  | _ => rfl

theorem read_of_fresh {reading : Instant} {past : History}
    (fresh : reading ∈ freshReadings past) : ⟨.now, .ok reading⟩ ∈ past := by
  induction past with
  | nil => cases fresh
  | cons interaction past ih =>
      cases isNow : isReading interaction with
      | false =>
          rw [freshReadings_other isNow] at fresh
          cases fresh
      | true =>
          obtain ⟨command, answer⟩ := interaction
          cases command with
          | now =>
              cases answer with
              | error failure => cases fresh
              | ok latest =>
                  rcases List.mem_cons.mp fresh with rfl | older
                  · exact List.mem_cons_self
                  · exact List.mem_cons_of_mem _ (ih older)
          | _ => cases isNow

/-! ### What is stamped with what -/

/-- Is this a provider's rebuild? -/
def isRebuild : Cmd → Bool
  | .reset _ _ _ => true
  | _ => false

/-- The fence names a stamp the thread read before the provider rebuilt the sandbox. -/
def AfterRebuild (past : History) (guard : TransitionGuard) : Prop :=
  ∃ later rebuilt earlier claimed,
    past = later ++ rebuilt :: earlier ∧ isRebuild rebuilt.command = true ∧
      guard.statusChangedAt = some claimed ∧ ⟨.now, .ok claimed⟩ ∈ earlier

/-- What a thread may write after `past`: the times it has just read, and nothing older. -/
def StampAsks (past : History) : Cmd → Prop
  | .transition _ source target patch guard =>
      (∃ stamp ∈ freshReadings past, patch.statusChangedAt = some stamp) ∧
        (∀ activity, patch.lastActivityAt = some activity → activity ∈ freshReadings past) ∧
        (target = .active → source = [.creating] ∨ AfterRebuild past guard)
  | .touchActivity _ atTime => atTime ∈ freshReadings past
  | .createWithinLimits session _ =>
      ⟨.now, .ok session.statusChangedAt⟩ ∈ past ∧ ⟨.now, .ok session.lastActivityAt⟩ ∈ past
  | _ => True

/-- A row whose status was moved carries the stamp it was moved with. -/
def StampCredible : (command : Cmd) → Except Failure command.Ans → Prop
  | .transition _ source target patch _, .ok (some row) =>
      target ∉ source → ∀ stamp, patch.statusChangedAt = some stamp → row.statusChangedAt = stamp
  | _, _ => True

/-- The discipline of stamps, the same for every operation. -/
def stampDiscipline : Discipline sessionSignature Failure where
  issued := fun past command => StampAsks past command
  answered := fun command answer => StampCredible command answer

theorem stampCredible_of_respond {command : Cmd} {world world' : World} {reply : Reply}
    {answer : Except Failure command.Ans}
    (responded : respond command world reply = some (answer, world')) :
    StampCredible command answer := by
  cases command with
  | transition sessionId source target patch guard =>
      rcases answer with failure | (_ | row)
      · trivial
      · trivial
      · rcases respond_transition responded with ⟨_, impossible, _⟩ | ⟨found, isRow, ran⟩
        · cases impossible
        · cases isRow
          rcases InMemorySessionStore.transition_cases ran with
            ⟨impossible, _⟩ | ⟨current, stored, claimable, _, written, _⟩
          · cases impossible
          · cases written
            intro moves stamp isStamp
            have differs : current.status ≠ target := fun same => moves (same ▸ claimable)
            simp [SessionPatch.apply, InMemorySessionStore.transitionPatch, isStamp, differs]
  | _ => trivial

/-! ### Every method writes the times it has just read -/

/-- Commands that carry no time of their own. -/
def isUnstamped : Cmd → Bool
  | .transition _ _ _ _ _ | .touchActivity _ _ | .createWithinLimits _ _ => false
  | _ => true

theorem StampAsks.unstamped {past : History} {command : Cmd} (plain : isUnstamped command = true) :
    StampAsks past command := by
  unfold StampAsks
  split
  · cases plain
  · cases plain
  · cases plain
  · trivial

theorem stamps_unstamped {command : Cmd} (plain : isUnstamped command = true) :
    (await command).Always stampDiscipline :=
  Prog.Always.perform fun _ => .unstamped plain

/-- Read the clock, and go on with what was read at the head of the history. -/
theorem stamps_now {next : Instant → SessionM α} {past : History}
    {post : Except Failure α → History → Prop}
    (failed : ∀ failure after, post (.error failure) after)
    (kept : ∀ reading : Instant,
      (next reading).Keeps stampDiscipline (⟨.now, .ok reading⟩ :: past) post) :
    (await .now >>= next).Keeps stampDiscipline past post := by
  rw [Prog.keeps_bind]
  apply (Prog.keeps_perform (S := sessionSignature) _ _ _).mpr
  constructor
  · trivial
  · intro answer _
    cases answer with
    | error failure => exact failed failure _
    | ok reading => exact kept reading

/-- `#transition` stamps the row with a reading of its own; the activity it may carry was read just
    before. -/
theorem stamps_transition {sessionId : String} {source : List SessionStatus}
    {target : SessionStatus} {patch : SessionPatch} {guard : TransitionGuard} {past : History}
    {post : Except Failure (Option LabSession) → History → Prop}
    (recent : ∀ activity, patch.lastActivityAt = some activity → activity ∈ freshReadings past)
    (fenced : target = .active → source = [.creating] ∨ AfterRebuild past guard)
    (failed : ∀ failure after, post (.error failure) after)
    (written : ∀ (stamp : Instant) (row : Option LabSession) (after : History),
      (target ∉ source → ∀ moved, row = some moved → moved.statusChangedAt = stamp) →
      after = ⟨.transition sessionId source target
          { patch with statusChangedAt := some stamp } guard, .ok row⟩ ::
        ⟨.now, .ok stamp⟩ :: past → post (.ok row) after) :
    (transition sessionId source target patch guard).Keeps stampDiscipline past post := by
  apply stamps_now failed
  intro stamp
  apply (Prog.keeps_perform (S := sessionSignature) _ _ _).mpr
  constructor
  · refine ⟨⟨stamp, List.mem_cons_self, rfl⟩, ?_, ?_⟩
    · exact fun activity isActivity => List.mem_cons_of_mem _ (recent activity isActivity)
    · intro activates
      apply (fenced activates).imp_right
      rintro ⟨later, rebuilt, earlier, claimed, split, rest⟩
      exact ⟨⟨.now, .ok stamp⟩ :: later, rebuilt, earlier, claimed,
        congrArg (List.cons _) split, rest⟩
  · intro answer credible
    cases answer with
    | error failure => exact failed failure _
    | ok row =>
        apply written stamp row _ _ rfl
        intro moves moved isMoved
        subst isMoved
        exact credible moves stamp rfl

/-- A transition that carries no activity, to any status but ACTIVE. -/
theorem stamps_plain {sessionId : String} {source : List SessionStatus} {target : SessionStatus}
    {patch : SessionPatch} {guard : TransitionGuard} (inactive : patch.lastActivityAt = none)
    (plain : target ≠ .active) :
    (transition sessionId source target patch guard).Always stampDiscipline := by
  intro past
  apply stamps_transition
  · intro activity isActivity
    rw [inactive] at isActivity
    cases isActivity
  · exact fun activates => absurd activates plain
  · exact fun _ _ => trivial
  · exact fun _ _ _ _ _ => trivial

/-! Teardown. -/

theorem stamps_require {sessionId : String} : (require sessionId).Always stampDiscipline := by
  unfold require
  split
  · apply (stamps_unstamped rfl).bind
    intro found
    cases found with
    | none => exact .throw _
    | some session => exact .pure session
  · exact .throw _

theorem stamps_currentOr {session : LabSession} :
    (currentOr session).Always stampDiscipline :=
  (stamps_unstamped rfl).bind fun _ => .pure _

theorem stamps_destroyOf {m : Manager} {session : LabSession} :
    (destroyOf m session).Always stampDiscipline := by
  unfold destroyOf providerFor
  apply Prog.Always.tryCatch
  · split
    · exact (Prog.Always.pure _).bind fun _ => stamps_unstamped rfl
    · exact (Prog.Always.throw _).bind fun _ => stamps_unstamped rfl
  · exact fun _ => .pure _

theorem stamps_recordEnding {m : Manager} {marked : LabSession} {inProgress done : SessionStatus}
    {reason : String} {result : DestroyResult} (ends : done ≠ .active) :
    (recordEnding m marked inProgress done reason result).Always stampDiscipline := by
  apply (stamps_unstamped rfl).bind
  intro endedAt
  apply (stamps_plain rfl ends).bind
  intro written
  cases written with
  | none => exact stamps_currentOr.bind fun _ => .pure _
  | some ended =>
      apply Prog.Always.bind
      · unfold notifyClosed
        split
        · exact (stamps_unstamped rfl).tryCatch fun _ => .pure _
        · exact .pure _
      · exact fun _ => .pure _

theorem stamps_finishTeardown {m : Manager} {marked : LabSession}
    {inProgress done : SessionStatus} {reason : String} (ends : done ≠ .active) :
    (finishTeardown m marked inProgress done reason).Always stampDiscipline := by
  apply Prog.Always.bind
  · unfold closeShell
    split
    · exact (stamps_unstamped rfl).tryCatch fun _ => .pure _
    · exact .pure _
  · intro _
    apply stamps_destroyOf.bind
    intro destroy
    split
    · exact stamps_recordEnding ends
    · exact stamps_currentOr.bind fun _ => .pure _

theorem stamps_teardown {m : Manager} {session : LabSession} {claimable : List SessionStatus}
    {inProgress done : SessionStatus} {reason : String} {claimGuard : TransitionGuard}
    {deferToStart : Bool} (marks : inProgress ≠ .active) (ends : done ≠ .active) :
    (teardown m session claimable inProgress done reason claimGuard deferToStart).Always
      stampDiscipline := by
  have claims : (claimTeardown m session claimable inProgress done reason claimGuard).Always
      stampDiscipline := by
    apply (stamps_plain rfl marks).bind
    intro claimed
    cases claimed with
    | none => exact stamps_currentOr.bind fun _ => .pure _
    | some marked => exact stamps_finishTeardown ends
  unfold teardown
  split
  · exact .pure _
  split
  · apply (stamps_plain rfl marks).bind
    intro claimed
    cases claimed with
    | none => exact claims
    | some marked => exact .pure _
  · exact claims

theorem stamps_endSession {m : Manager} {sessionId : String} :
    (endSession m sessionId).Always stampDiscipline :=
  stamps_require.bind fun _ => stamps_teardown nofun nofun

theorem stamps_expire {m : Manager} {sessionId reason : String} {claimGuard : TransitionGuard} :
    (expire m sessionId reason claimGuard).Always stampDiscipline :=
  stamps_require.bind fun _ => stamps_teardown nofun nofun

theorem stamps_resumeAbandonedEnd {m : Manager} {sessionId : String} :
    (resumeAbandonedEnd m sessionId).Always stampDiscipline :=
  stamps_require.bind fun _ => stamps_teardown nofun nofun

theorem stamps_endByOperator {m : Manager} {sessionId : String} :
    (endByOperator m sessionId).Always stampDiscipline := by
  apply stamps_require.bind
  intro session
  split
  · exact stamps_resumeAbandonedEnd
  split
  · exact stamps_teardown nofun nofun
  · exact stamps_teardown nofun nofun

theorem stamps_reclaimFinishedSandbox {m : Manager} {sessionId : String} :
    (reclaimFinishedSandbox m sessionId).Always stampDiscipline := by
  apply (stamps_unstamped rfl).bind
  intro found
  cases found with
  | none => exact .pure _
  | some session =>
      dsimp only
      split
      · exact stamps_destroyOf
      · exact .pure _

/-! Start. -/

theorem stamps_bestEffortDestroy {m : Manager} {session : LabSession} :
    (bestEffortDestroy m session).Always stampDiscipline := by
  unfold bestEffortDestroy providerFor
  apply Prog.Always.tryCatch
  · split
    · exact (Prog.Always.pure _).bind fun _ => (stamps_unstamped rfl).bind fun _ => .pure _
    · exact (Prog.Always.throw _).bind fun _ => (stamps_unstamped rfl).bind fun _ => .pure _
  · exact fun _ => .pure _

theorem stamps_discardLostWork {m : Manager} {session : LabSession} :
    (discardLostWork m session).Always stampDiscipline := by
  apply (stamps_unstamped rfl).bind
  intro current
  split
  · exact stamps_bestEffortDestroy
  · exact .pure _

theorem stamps_finishTeardownOfLostStart {m : Manager} {sessionId : String} :
    (finishTeardownOfLostStart m sessionId).Always stampDiscipline := by
  apply Prog.Always.tryCatch
  · apply (stamps_unstamped rfl).bind
    intro found
    cases found with
    | none => exact .pure _
    | some current =>
        dsimp only
        split
        · exact stamps_resumeAbandonedEnd.bind fun _ => .pure _
        split
        · apply Prog.Always.bind
          · exact stamps_teardown nofun nofun
          · exact fun _ => .pure _
        · exact .pure _
  · exact fun _ => .pure _

theorem stamps_failSession {m : Manager} {session : LabSession} {reason : String} :
    (failSession m session reason).Always stampDiscipline := by
  apply stamps_bestEffortDestroy.bind
  intro _
  apply (stamps_unstamped rfl).bind
  intro endedAt
  apply Prog.Always.bind
  · exact stamps_plain rfl nofun
  intro written
  cases written with
  | none => exact (stamps_unstamped rfl).bind fun _ => stamps_finishTeardownOfLostStart
  | some _ => exact .pure _

/-- The activity an activation carries was read just before its stamp. -/
theorem stamps_activateBuilt {m : Manager} {lab : Lab} {session : LabSession}
    {result : CreateResult} :
    (activateBuilt m lab session result).Always stampDiscipline := by
  intro past
  apply stamps_now (fun _ _ => trivial)
  intro activeAt
  rw [Prog.keeps_bind]
  apply stamps_transition
  · intro activity isActivity
    cases isActivity
    exact List.mem_cons_self
  · exact fun _ => .inl rfl
  · exact fun _ _ => trivial
  · intro stamp row after _ _
    rw [Prog.andThen_ok]
    cases row with
    | some active =>
        exact ((stamps_unstamped rfl).attempt.bind fun _ => .pure _) after
    | none =>
        have gone : (do
            discardLostWork m session
            finishTeardownOfLostStart m session.sessionId
            throw (← closedDuringStart session.sessionId) :
              SessionM StartSessionResult).Always stampDiscipline := by
          apply stamps_discardLostWork.bind
          intro _
          apply stamps_finishTeardownOfLostStart.bind
          intro _
          apply Prog.Always.bind
          · exact (stamps_unstamped rfl).bind fun _ => .pure _
          · exact fun _ => .throw _
        exact gone after

theorem stamps_buildAdmitted {m : Manager} {lab : Lab} {session : LabSession}
    {hooks : StartHooks} : (buildAdmitted m lab session hooks).Always stampDiscipline := by
  apply Prog.Always.bind
  · unfold tellAdmitted
    split
    · exact (stamps_unstamped rfl).tryCatch fun _ => .pure _
    · exact .pure _
  · intro _
    apply (stamps_unstamped rfl).attempt.bind
    intro outcome
    cases outcome with
    | error failure => exact stamps_failSession.bind fun _ => .throw _
    | ok result =>
        dsimp only
        split
        · exact stamps_activateBuilt
        · exact stamps_failSession.bind fun _ => .throw _

/-- A candidate row carries the one reading its start took. -/
theorem stamps_insertAttempts {m : Manager} {lab : Lab} {ownerUserId : Option String}
    {limit : Option Nat} {createdAt : Instant} {attempts : Nat} {past : History}
    (read : ⟨.now, .ok createdAt⟩ ∈ past) :
    (insertAttempts m lab ownerUserId limit createdAt attempts).Keeps stampDiscipline past
      fun _ _ => True := by
  induction attempts generalizing past with
  | zero => trivial
  | succ attempts ih =>
      unfold insertAttempts
      rw [Prog.keeps_bind]
      apply (Prog.keeps_perform (S := sessionSignature) _ _ _).mpr
      constructor
      · trivial
      intro drawn _
      cases drawn with
      | error failure => trivial
      | ok sessionId =>
          rw [Prog.andThen_ok]
          dsimp only
          rw [Prog.keeps_bind]
          apply (Prog.keeps_perform (S := sessionSignature) _ _ _).mpr
          constructor
          · trivial
          intro found _
          rcases found with failure | (_ | taken)
          · trivial
          · rw [Prog.andThen_ok]
            dsimp only
            rw [Prog.keeps_bind]
            apply (Prog.keeps_perform (S := sessionSignature) _ _ _).mpr
            have still := List.mem_cons_of_mem ⟨.findBySandboxRef (candidate m lab ownerUserId
              createdAt sessionId).sandboxRef, .ok none⟩
              (List.mem_cons_of_mem ⟨.newSessionId, .ok sessionId⟩ read)
            constructor
            · exact ⟨still, still⟩
            · intro decision _
              rcases decision with failure | (_ | _) <;> trivial
          · exact ih (List.mem_cons_of_mem _ (List.mem_cons_of_mem _ read))

theorem stamps_insertSession {m : Manager} {lab : Lab} {ownerUserId : Option String}
    {ownerSessionLimit : Option Int} :
    (insertSession m lab ownerUserId ownerSessionLimit).Always stampDiscipline := by
  intro past
  apply stamps_now (fun _ _ => trivial)
  intro createdAt
  exact stamps_insertAttempts List.mem_cons_self

theorem stamps_start {m : Manager} {labId : String} {ownerUserId : Option String}
    {hooks : StartHooks} : (start m labId ownerUserId hooks).Always stampDiscipline := by
  apply (Prog.Always.settle _).bind
  intro lab
  apply Prog.Always.bind
  · unfold resolve
    dsimp only
    split
    · exact .throw _
    · split
      · exact .pure _
      · exact .throw _
  intro _
  apply Prog.Always.bind
  · apply (stamps_unstamped rfl).bind
    intro first
    split
    · exact stamps_unstamped rfl
    · exact .pure _
  intro availability
  split
  · exact .throw _
  · apply (stamps_unstamped rfl).bind
    intro stopping
    split
    · exact .throw _
    · apply stamps_insertSession.bind
      intro session
      apply (stamps_unstamped rfl).bind
      intro _
      exact stamps_buildAdmitted.ensure (stamps_unstamped rfl)

/-! Activity. -/

theorem stamps_touchActivity {sessionId : String} :
    (touchActivity sessionId).Always stampDiscipline := by
  intro past
  apply stamps_now (fun _ _ => trivial)
  intro atTime
  apply (Prog.keeps_perform (S := sessionSignature) _ _ _).mpr
  exact ⟨List.mem_cons_self, fun _ _ => trivial⟩

theorem stamps_touch {sessionId : String} : (touch sessionId).Always stampDiscipline := by
  intro past
  apply stamps_now (fun _ _ => trivial)
  intro atTime
  rw [Prog.keeps_bind]
  apply (Prog.keeps_perform (S := sessionSignature) _ _ _).mpr
  constructor
  · exact List.mem_cons_self
  · intro touched _
    rcases touched with failure | (_ | row)
    · trivial
    · exact stamps_unstamped rfl _
    · trivial

/-! Reset. -/

theorem stamps_degrade {sessionId reason : String} {guard : TransitionGuard}
    {studentAction : Bool} :
    (degrade sessionId reason guard studentAction).Always stampDiscipline := by
  intro past
  unfold degrade activityStamp
  cases studentAction with
  | true =>
      rw [if_pos rfl, Prog.keeps_bind]
      apply stamps_now (fun _ _ => trivial)
      intro atTime
      rw [Prog.keeps_pure, Prog.andThen_ok]
      apply stamps_transition
      · intro activity isActivity
        cases isActivity
        exact List.mem_cons_self
      · exact nofun
      · exact fun _ _ => trivial
      · exact fun _ _ _ _ _ => trivial
  | false =>
      have plain : (transition sessionId [.resetting] .degraded
          { statusReason := some reason, lastActivityAt := none } guard).Always stampDiscipline :=
        stamps_plain rfl nofun
      exact plain past

theorem stamps_recoverInterruptedReset {observed : LabSession} :
    (recoverInterruptedReset observed).Always stampDiscipline := by
  unfold recoverInterruptedReset
  split
  · exact stamps_degrade
  · exact .pure _

theorem stamps_markSandboxStopped {observed : LabSession} :
    (markSandboxStopped observed).Always stampDiscipline := by
  unfold markSandboxStopped
  split
  · exact stamps_plain rfl nofun
  · exact .pure _

theorem stamps_resetConflict {sessionId : String} :
    (resetConflict sessionId).Always stampDiscipline := by
  apply (stamps_unstamped rfl).bind
  intro found
  cases found <;> exact .pure _

theorem stamps_resetLost {m : Manager} {session : LabSession} :
    (resetLost m session).Always stampDiscipline :=
  stamps_discardLostWork.bind fun _ => stamps_resetConflict.bind fun _ => .throw _

/-- The release to ACTIVE comes after the provider's rebuild, and its fence was read before. -/
theorem stamps_rebuild {m : Manager} {lab : Lab} {session : LabSession} {fence : TransitionGuard}
    {claimed : Instant} {past : History} (isFence : fence.statusChangedAt = some claimed)
    (read : ⟨.now, .ok claimed⟩ ∈ past) :
    (rebuild m lab session fence).Keeps stampDiscipline past fun _ _ => True := by
  have rebuilds : (resetSandbox m lab session).Keeps stampDiscipline past fun outcome after =>
      ∀ result, outcome = .ok result →
        ∃ rebuilt, after = rebuilt :: past ∧ isRebuild rebuilt.command = true := by
    unfold resetSandbox providerFor
    split
    · apply (Prog.keeps_perform (S := sessionSignature) _ _ _).mpr
      constructor
      · trivial
      · exact fun answer _ result _ => ⟨_, rfl, rfl⟩
    · exact nofun
  have degrades : ∀ reason (next : Option LabSession → SessionM ResetOutcome),
      (∀ degraded, (next degraded).Always stampDiscipline) →
        (degrade session.sessionId reason fence true >>= next).Always stampDiscipline :=
    fun reason next kept => stamps_degrade.bind kept
  unfold rebuild
  rw [Prog.keeps_bind, Prog.keeps_attempt]
  apply rebuilds.mono
  intro outcome after stood
  rw [Prog.andThen_ok]
  cases outcome with
  | error failure =>
      apply degrades
      intro degraded
      cases degraded with
      | none => exact stamps_resetLost
      | some row => exact .throw _
  | ok result =>
      obtain ⟨rebuilt, rfl, isRebuilt⟩ := stood result rfl
      dsimp only
      split
      · apply stamps_now (fun _ _ => trivial)
        intro activeAt
        rw [Prog.keeps_bind]
        apply stamps_transition
        · intro activity isActivity
          cases isActivity
          exact List.mem_cons_self
        · exact fun _ => .inr ⟨[⟨.now, .ok activeAt⟩], rebuilt, past, claimed, rfl, isRebuilt,
            isFence, read⟩
        · exact fun _ _ => trivial
        · intro stamp row after _ _
          rw [Prog.andThen_ok]
          cases row with
          | none => exact stamps_resetLost after
          | some updated =>
              have reattaches : (reattachShell m session).Always stampDiscipline := by
                unfold reattachShell
                split
                · exact (stamps_unstamped rfl).tryCatch fun _ => .pure _
                · exact .pure _
              exact (reattaches.bind fun _ => .pure _) after
      · apply degrades
        intro degraded
        cases degraded with
        | none => exact stamps_resetLost
        | some row => exact .pure _

theorem stamps_reset {m : Manager} {sessionId : String} :
    (reset m sessionId).Always stampDiscipline := by
  apply stamps_require.bind
  intro session
  split
  · apply (stamps_unstamped rfl).bind
    intro stopping
    split
    · exact .throw _
    · apply (Prog.Always.settle _).bind
      intro lab past
      apply stamps_now (fun _ _ => trivial)
      intro pressedAt
      rw [Prog.keeps_bind]
      apply stamps_transition
      · intro activity isActivity
        cases isActivity
        exact List.mem_cons_self
      · exact nofun
      · exact fun _ _ => trivial
      · intro stamp row after carries isAfter
        rw [Prog.andThen_ok]
        cases row with
        | none => exact (stamps_resetConflict.bind fun _ => .throw _) after
        | some claimed =>
            have stamped : claimed.statusChangedAt = stamp := carries (by decide) claimed rfl
            have read : ⟨.now, .ok claimed.statusChangedAt⟩ ∈ after := by
              rw [isAfter, stamped]
              exact List.mem_cons_of_mem _ List.mem_cons_self
            dsimp only
            rw [Prog.keeps_bind]
            apply (Prog.keeps_perform (S := sessionSignature) _ _ _).mpr
            constructor
            · trivial
            intro tracked _
            cases tracked with
            | error failure => trivial
            | ok _ =>
                rw [Prog.andThen_ok, Prog.keeps_ensure]
                apply (stamps_rebuild rfl (List.mem_cons_of_mem _ read)).mono
                intro outcome done _
                have ends : (await (.untrackReset m.index sessionId)).Always stampDiscipline :=
                  stamps_unstamped rfl
                apply (ends done).mono
                intro ended after _
                cases ended with
                | error failure => trivial
                | ok _ => exact Prog.Always.settle outcome after
  · exact .throw _

/-! Shutdown. -/

theorem stamps_handOverStart {entry : InFlight} :
    (handOverStart entry).Always stampDiscipline := by
  apply Prog.Always.tryCatch
  · apply Prog.Always.bind
    · exact stamps_plain rfl nofun
    · exact fun _ => .pure _
  · exact fun _ => .pure _

theorem stamps_handOverReset {entry : InFlight} :
    (handOverReset entry).Always stampDiscipline :=
  (stamps_degrade.bind fun _ => .pure _).tryCatch fun _ => .pure _

theorem stamps_interruptInFlight {m : Manager} :
    (interruptInFlight m).Always stampDiscipline := by
  apply (stamps_unstamped rfl).bind
  intro _
  apply (stamps_unstamped rfl).bind
  intro starts
  apply (stamps_unstamped rfl).bind
  intro resets
  exact stamps_unstamped rfl

/-! The reaper. -/

theorem stamps_finish {result : SweepResult} {session : LabSession} {reason : SweepReason}
    {teardown : SessionM TeardownResult} (kept : teardown.Always stampDiscipline) :
    (finish result session reason teardown).Always stampDiscipline := by
  apply kept.attempt.bind
  intro outcome
  cases outcome <;> exact .pure _

theorem stamps_sweepSession {r : Reaper} {now : Instant} {result : SweepResult}
    {session : LabSession} : (sweepSession r now result session).Always stampDiscipline := by
  unfold sweepSession
  dsimp only
  split
  · exact .pure _
  split
  · split
    · exact .pure _
    · exact stamps_finish stamps_resumeAbandonedEnd
  split
  · exact stamps_finish stamps_expire
  split
  · apply stamps_recoverInterruptedReset.attempt.bind
    intro outcome
    rcases outcome with failure | (_ | _) <;> exact .pure _
  split
  · exact .pure _
  · exact stamps_finish stamps_expire

theorem stamps_sweepSessions {r : Reaper} {result : SweepResult} :
    (sweepSessions r result).Always stampDiscipline := by
  apply (stamps_unstamped rfl).bind
  intro now
  apply (stamps_unstamped rfl).attempt.bind
  intro listing
  cases listing with
  | error failure => exact .pure _
  | ok sessions => exact Prog.Always.foldlM (fun _ _ _ => stamps_sweepSession) _

theorem stamps_sweepOrphan {r : Reaper} {provider : LabProviderId} {sessions : List LabSession}
    {now : Instant} {result : SweepResult} {sandbox : ManagedSandbox} :
    (sweepOrphan r provider sessions now result sandbox).Always stampDiscipline := by
  unfold sweepOrphan
  split
  · exact .pure _
  split
  · exact .pure _
  split
  · exact stamps_reclaimFinishedSandbox.bind fun _ => .pure _
  split
  · exact .pure _
  split
  · exact .pure _
  · exact (stamps_unstamped rfl).bind fun _ => .pure _

theorem stamps_sweepOrphans {r : Reaper} {result : SweepResult} :
    (sweepOrphans r result).Always stampDiscipline := by
  apply (stamps_unstamped rfl).bind
  intro now
  apply (stamps_unstamped rfl).attempt.bind
  intro listing
  cases listing with
  | error failure => exact .pure _
  | ok sessions =>
      apply Prog.Always.bind
      · apply Prog.Always.foldlM
        intro state provider _
        apply (stamps_unstamped rfl).attempt.bind
        intro managed
        cases managed with
        | error failure => exact .pure _
        | ok sandboxes =>
            exact (Prog.Always.foldlM (fun _ _ _ => stamps_sweepOrphan) _).bind fun _ => .pure _
      · intro state
        apply (stamps_unstamped rfl).bind
        intro lastSweep
        apply Prog.Always.bind
        · apply Prog.Always.foldlM
          intro result session _
          apply stamps_markSandboxStopped.attempt.bind
          intro outcome
          rcases outcome with failure | (_ | _) <;> exact .pure _
        · exact fun _ => (stamps_unstamped rfl).bind fun _ => .pure _

theorem stamps_sweepRetention {r : Reaper} {result : SweepResult} :
    (sweepRetention r result).Always stampDiscipline := by
  unfold sweepRetention
  split
  · exact .pure _
  · apply (stamps_unstamped rfl).bind
    intro now
    apply (stamps_unstamped rfl).bind
    intro sessions
    apply Prog.Always.foldlM
    intro result session _
    unfold retireSession
    split
    · exact .pure _
    · dsimp only
      split
      · exact .pure _
      · exact (stamps_unstamped rfl).bind fun _ => .pure _

theorem stamps_sweep {r : Reaper} : (sweep r).Always stampDiscipline := by
  apply (stamps_unstamped rfl).bind
  intro sweeping
  split
  · exact .pure _
  · apply Prog.Always.ensure
    · apply stamps_sweepSessions.bind
      intro result
      apply stamps_sweepOrphans.bind
      intro result
      exact stamps_sweepRetention
    · exact stamps_unstamped rfl

/-! The check route. -/

theorem stamps_runCheck {m : Manager} {session : LabSession} :
    (runCheck m session).Always stampDiscipline := by
  apply (Prog.Always.settle _).bind
  intro lab
  apply stamps_touch.bind
  intro _
  apply (stamps_unstamped rfl).bind
  intro result
  apply stamps_touch.bind
  intro now
  split
  · split
    · exact stamps_unstamped rfl
    · apply (stamps_unstamped rfl).bind
      intro _
      apply (stamps_unstamped rfl).attempt.bind
      intro outcome
      rcases outcome with failure | (_ | _)
      · exact .pure _
      · apply Prog.Always.bind
        · exact ((stamps_unstamped rfl).bind fun _ => stamps_unstamped rfl).attempt
        · exact fun _ => .pure _
      · exact .pure _
  · exact stamps_unstamped rfl

theorem stamps_check {m : Manager} {sessionId : String} :
    (check m sessionId).Always stampDiscipline := by
  apply Prog.Always.bind
  · apply Prog.Always.attempt
    apply stamps_require.bind
    intro session
    split
    · exact (Prog.Always.settle _).bind fun _ => .pure session
    · exact .throw _
  intro outcome
  cases outcome with
  | error failure => exact stamps_unstamped rfl
  | ok session =>
      apply (stamps_unstamped rfl).bind
      intro running
      split
      · exact .pure _
      · apply Prog.Always.ensure
        · exact stamps_runCheck.tryCatch fun failure =>
            (stamps_unstamped rfl).bind fun _ => .throw failure
        · exact stamps_unstamped rfl

/-- Every operation writes the times it has just read. -/
theorem body_stamps (op : SessionOp) : op.body.Keeps stampDiscipline [] fun _ _ => True := by
  have runs : ∀ {γ : Type} {method : SessionM γ}, method.Always stampDiscipline →
      (forEffect method).Keeps stampDiscipline [] fun _ _ => True :=
    fun kept => (kept.bind fun _ => .pure _) []
  have observes : ∀ {sessionId} {act : LabSession → SessionM (Option LabSession)},
      (∀ observed, (act observed).Always stampDiscipline) →
        (onEarlierRead sessionId act).Keeps stampDiscipline [] fun _ _ => True := by
    intro sessionId act kept
    have reads : (onEarlierRead sessionId act).Always stampDiscipline := by
      apply (stamps_unstamped rfl).bind
      intro found
      cases found with
      | none => exact .pure _
      | some observed => exact (kept observed).bind fun _ => .pure _
    exact reads []
  cases op with
  | start m labId ownerUserId hooks => exact runs stamps_start
  | reset m sessionId => exact runs stamps_reset
  | touch sessionId => exact runs stamps_touch
  | touchActivity sessionId => exact runs stamps_touchActivity
  | endSession m sessionId => exact runs stamps_endSession
  | expire m sessionId reason claimGuard => exact runs stamps_expire
  | endByOperator m sessionId => exact runs stamps_endByOperator
  | resumeAbandonedEnd m sessionId => exact runs stamps_resumeAbandonedEnd
  | recoverInterruptedReset sessionId => exact observes fun _ => stamps_recoverInterruptedReset
  | markSandboxStopped sessionId => exact observes fun _ => stamps_markSandboxStopped
  | reclaimFinishedSandbox m sessionId => exact runs stamps_reclaimFinishedSandbox
  | forget sessionId => exact stamps_unstamped rfl []
  | interruptInFlight m => exact stamps_interruptInFlight []
  | check m sessionId => exact stamps_check []
  | sweep r => exact runs stamps_sweep
  | handOverStart entry => exact stamps_handOverStart []
  | handOverReset entry => exact stamps_handOverReset []

end JumptotechLabs.Session
