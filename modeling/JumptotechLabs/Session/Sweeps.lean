/-
Module: JumptotechLabs.Session.Sweeps
Layer: Session (services/lab-orchestrator/src/session/reaper.ts)
Purpose: What a sweep of the reaper decided from, at each of its irrevocable calls. A claim of
  EXPIRING is made for a listed session, under the judgement that session called for; a
  `destroySandbox` for a sandbox that no listed session shields and whose label is past its grace;
  and a `destroy` either by a teardown, right after its own claim, or on a row just read as finished.
Main exports: sweepStart, Judgement, Unclaimed, SweepAsks, sweepDiscipline, sweep_asks
-/
import JumptotechLabs.Session.Lifecycle

namespace JumptotechLabs.Session

open JumptotechLabs.Core
open JumptotechLabs.Core.Prog (attempt ensure settle)

variable {r : Reaper} {α : Type}

/-! ### What a sweep may ask -/

/-- What every sweep does first: it was not overlapped, it read the clock, it listed the sessions. -/
def sweepStart (r : Reaper) (now : Instant) (sessions : List LabSession) : History :=
  [⟨.list, .ok sessions⟩, ⟨.now, .ok now⟩, ⟨.beginSweep r.index, .ok false⟩]

/-- The reason and the fence a listed session is expired with. -/
inductive Judgement (r : Reaper) (now : Instant) (session : LabSession) :
    String → TransitionGuard → Prop where
  /-- A start nobody is running any more, fenced on the CREATING stamp that was read. -/
  | abandoned (creating : session.status = .creating) (alive : isExpired session now = false)
      (used : isIdle session now = false)
      (overdue : r.abandonedStartGrace ≤ now - session.statusChangedAt) :
      Judgement r now session abandonedStartReason
        { statusChangedAt := some session.statusChangedAt }
  /-- A teardown in flight is entered again as what it is. -/
  | inFlight (expiring : session.status = .expiring) :
      Judgement r now session (session.statusReason.getD "resuming an interrupted teardown") {}
  /-- The absolute deadline has passed. -/
  | expired (live : session.status ≠ .expiring) (past : isExpired session now = true) :
      Judgement r now session "absolute session lifetime reached" {}
  /-- Idle, fenced on the activity that was judged. -/
  | idle (live : session.status ≠ .expiring) (alive : isExpired session now = false)
      (unused : isIdle session now = true) :
      Judgement r now session (idleDetail session)
        { lastActivityAt := some session.lastActivityAt }

/-- The sweep listed the session and judged it so. -/
def Judged (r : Reaper) (past : History) (sessionId reason : String) (guard : TransitionGuard) :
    Prop :=
  ∃ now sessions session,
    sweepStart r now sessions <:+ past ∧ session ∈ sessions ∧ session.sessionId = sessionId ∧
      Judgement r now session reason guard

/-- The sweep read the clock, listed the sessions, then asked the provider; no listed session shields
    the sandbox, and its label is past its grace. -/
def Unclaimed (r : Reaper) (past : History) (provider : LabProviderId) (sandboxRef : String) :
    Prop :=
  ∃ now sessions sandboxes sandbox earlier,
    (⟨.list, .ok sessions⟩ :: ⟨.now, .ok now⟩ :: earlier) <:+ past ∧
      ⟨.listManagedSandboxes provider, .ok sandboxes⟩ ∈ past ∧ sandbox ∈ sandboxes ∧
      sandbox.sandboxRef = sandboxRef ∧ sandboxRef ∉ liveRefs sessions ∧
      sandbox.expiresAtMs + r.orphanGrace ≤ now

/-- Is the thread inside a teardown whose claim it has just made, or whose shell it has just closed? -/
def ofTeardown : History → Bool
  | ⟨.transition _ _ _ _ _, _⟩ :: _ => true
  | ⟨.terminate _, _⟩ :: _ => true
  | _ => false

/-- The thread has just read the session, and it is finished. -/
def ReadFinished (past : History) (sessionId : String) : Prop :=
  ∃ row earlier, past = ⟨.get sessionId, .ok (some row)⟩ :: earlier ∧
    isTerminalStatus row.status = true

/-- What a sweep may ask after `past`. -/
def SweepAsks (r : Reaper) (past : History) : Cmd → Prop
  | .transition sessionId _ .expiring patch guard =>
      ∃ reason, patch.statusReason = some reason ∧ Judged r past sessionId reason guard
  | .destroySandbox provider sandboxRef => Unclaimed r past provider sandboxRef
  | .destroy _ context => ofTeardown past = true ∨ ReadFinished past context.sessionId
  | _ => True

/-- The discipline of a sweep. -/
def sweepDiscipline (r : Reaper) : Discipline sessionSignature Failure where
  issued := fun past command => SweepAsks r past command
  answered := fun command answer => Credible command answer

/-- Commands no rule is about. -/
def isOrdinary : Cmd → Bool
  | .transition _ _ target _ _ => target != .expiring
  | .destroySandbox _ _ | .destroy _ _ => false
  | _ => true

theorem SweepAsks.ordinary {past : History} {command : Cmd} (plain : isOrdinary command = true) :
    SweepAsks r past command := by
  unfold SweepAsks
  split
  · cases plain
  · cases plain
  · cases plain
  · trivial

/-! ### A teardown on its own

A teardown claims EXPIRING only for the session, the reason and the fence it was started with, and
destroys right after its claim. -/

/-- What a teardown may ask, if `mayExpire` says what it was started with. -/
def TeardownAsks (mayExpire : String → String → TransitionGuard → Prop) (past : History) :
    Cmd → Prop
  | .transition sessionId _ .expiring patch guard =>
      ∃ reason, patch.statusReason = some reason ∧ mayExpire sessionId reason guard
  | .destroySandbox _ _ => False
  | .destroy _ _ => ofTeardown past = true
  | _ => True

/-- The discipline of one teardown. -/
def teardownDiscipline (mayExpire : String → String → TransitionGuard → Prop) :
    Discipline sessionSignature Failure where
  issued := fun past command => TeardownAsks mayExpire past command
  answered := fun command answer => Credible command answer

section Teardown

variable {mayExpire : String → String → TransitionGuard → Prop}

theorem teardown_ordinary {command : Cmd} (plain : isOrdinary command = true) :
    (await command).Always (teardownDiscipline mayExpire) := by
  apply Prog.Always.perform
  intro past
  change TeardownAsks mayExpire past command
  unfold TeardownAsks
  split
  · cases plain
  · cases plain
  · cases plain
  · trivial

theorem teardown_currentOr {session : LabSession} :
    (currentOr session).Always (teardownDiscipline mayExpire) :=
  (teardown_ordinary rfl).bind fun _ => .pure _

/-- An ending is recorded with a write to a finished status. -/
theorem teardown_recordEnding {m : Manager} {marked : LabSession}
    {inProgress done : SessionStatus} {text : String} {result : DestroyResult}
    (finished : (done != .expiring) = true) :
    (recordEnding m marked inProgress done text result).Always
      (teardownDiscipline mayExpire) := by
  apply (teardown_ordinary rfl).bind
  intro endedAt
  apply Prog.Always.bind
  · exact (teardown_ordinary rfl).bind fun stamp => teardown_ordinary finished
  · intro written
    cases written with
    | none => exact teardown_currentOr.bind fun _ => .pure _
    | some ended =>
        apply Prog.Always.bind
        · unfold notifyClosed
          split
          · exact (teardown_ordinary rfl).tryCatch fun _ => .pure _
          · exact .pure _
        · exact fun _ => .pure _

/-- The destroy follows the claim, or the closing of the shell. -/
theorem teardown_finishTeardown {m : Manager} {marked : LabSession}
    {inProgress done : SessionStatus} {text : String} {past : History}
    (finished : (done != .expiring) = true) (claimed : ofTeardown past = true) :
    (finishTeardown m marked inProgress done text).Keeps
      (teardownDiscipline mayExpire) past fun _ _ => True := by
  have closes : (closeShell m marked.sessionId).Keeps (teardownDiscipline mayExpire)
      past fun outcome after => outcome = .ok () ∧ ofTeardown after = true := by
    unfold closeShell
    split
    · rw [Prog.keeps_tryCatch]
      apply (Prog.keeps_perform (S := sessionSignature) _ _ _).mpr
      constructor
      · trivial
      · intro answer _
        cases answer <;> exact ⟨rfl, rfl⟩
    · exact ⟨rfl, claimed⟩
  unfold finishTeardown
  rw [Prog.keeps_bind]
  apply closes.mono
  rintro _ closed ⟨rfl, marks⟩
  rw [Prog.andThen_ok, Prog.keeps_bind]
  have destroys : (destroyOf m marked).Keeps (teardownDiscipline mayExpire) closed
      fun _ _ => True := by
    unfold destroyOf providerFor
    rw [Prog.keeps_tryCatch, Prog.keeps_bind]
    split
    · apply (Prog.keeps_perform (S := sessionSignature) _ _ _).mpr
      constructor
      · exact marks
      · intro answer _
        cases answer <;> trivial
    · trivial
  apply destroys.mono
  intro outcome after _
  cases outcome with
  | error failure => trivial
  | ok result =>
      rw [Prog.andThen_ok]
      split
      · exact teardown_recordEnding finished after
      · exact (teardown_currentOr.bind fun _ => .pure _) after

/-- The claim of a teardown that expires the session it was started for. -/
theorem teardown_claimTeardown {m : Manager} {session : LabSession}
    {claimable : List SessionStatus} {inProgress done : SessionStatus} {text : String}
    {claimGuard : TransitionGuard} (finished : (done != .expiring) = true)
    (claims : ∀ past stamp, TeardownAsks mayExpire past
      (.transition session.sessionId claimable inProgress
        { statusReason := some text, statusChangedAt := some stamp } claimGuard)) :
    (claimTeardown m session claimable inProgress done text claimGuard).Always
      (teardownDiscipline mayExpire) := by
  intro past
  unfold claimTeardown transition
  rw [Prog.keeps_bind, Prog.keeps_bind]
  apply (Prog.keeps_perform (S := sessionSignature) _ _ _).mpr
  constructor
  · trivial
  intro reading _
  cases reading with
  | error failure => trivial
  | ok stamp =>
      rw [Prog.andThen_ok]
      apply (Prog.keeps_perform (S := sessionSignature) _ _ _).mpr
      constructor
      · exact claims _ stamp
      · intro answer _
        rcases answer with failure | (_ | marked)
        · trivial
        · exact (teardown_currentOr.bind fun _ => .pure _) _
        · exact teardown_finishTeardown finished rfl

/-- `expire` claims the session it names, for its reason, behind its fence. -/
theorem expire_asks {m : Manager} {sessionId reason : String} {guard : TransitionGuard}
    (allowed : mayExpire sessionId reason guard) :
    (expire m sessionId reason guard).Always (teardownDiscipline mayExpire) := by
  intro past
  unfold expire require
  rw [Prog.keeps_bind]
  split
  · rw [Prog.keeps_bind]
    apply (Prog.keeps_perform (S := sessionSignature) _ _ _).mpr
    constructor
    · trivial
    intro found credible
    rcases found with failure | (_ | session)
    · trivial
    · trivial
    · have named : session.sessionId = sessionId := credible
      change (teardown m session (liveStatuses ++ [SessionStatus.expiring]) .expiring .expired reason guard).Keeps
        _ _ _
      unfold teardown
      split
      · trivial
      · have claims : ∀ past stamp, TeardownAsks mayExpire past
            (.transition session.sessionId (liveStatuses ++ [SessionStatus.expiring]) .expiring
              { statusReason := some reason, statusChangedAt := some stamp } guard) :=
          fun _ _ => ⟨reason, rfl, named ▸ allowed⟩
        exact teardown_claimTeardown rfl claims _
  · trivial

/-- `resumeAbandonedEnd` claims nothing but ENDING. -/
theorem resumeAbandonedEnd_asks {m : Manager} {sessionId : String} :
    (resumeAbandonedEnd m sessionId).Always (teardownDiscipline mayExpire) := by
  unfold resumeAbandonedEnd require
  apply Prog.Always.bind
  · split
    · apply (teardown_ordinary rfl).bind
      intro found
      cases found with
      | none => exact .throw _
      | some session => exact .pure session
    · exact .throw _
  · intro session
    unfold teardown
    split
    · exact .pure _
    · exact teardown_claimTeardown rfl fun past stamp => trivial

end Teardown

/-! ### The passes of a sweep -/

theorem sweep_ordinary {command : Cmd} (plain : isOrdinary command = true) :
    (await command).Always (sweepDiscipline r) :=
  Prog.Always.perform fun _ => .ordinary plain

/-- `#transition` to any status but EXPIRING. -/
theorem sweep_transition {sessionId : String} {source : List SessionStatus}
    {target : SessionStatus} {patch : SessionPatch} {guard : TransitionGuard}
    (plain : (target != .expiring) = true) :
    (transition sessionId source target patch guard).Always (sweepDiscipline r) :=
  (sweep_ordinary rfl).bind fun _ => sweep_ordinary plain

theorem sweep_finish {result : SweepResult} {session : LabSession} {reason : SweepReason}
    {teardown : SessionM TeardownResult} {past : History}
    (kept : teardown.Keeps (sweepDiscipline r) past fun _ _ => True) :
    (finish result session reason teardown).Keeps (sweepDiscipline r) past fun _ _ => True := by
  unfold finish
  rw [Prog.keeps_bind, Prog.keeps_attempt]
  apply kept.mono
  intro outcome after _
  cases outcome <;> trivial

/-- A teardown inside a sweep, if the sweep judged what the teardown may claim. -/
theorem sweep_teardown {mayExpire : String → String → TransitionGuard → Prop} {body : SessionM α}
    {past : History} (asks : body.Always (teardownDiscipline mayExpire))
    (judged : ∀ later sessionId reason guard, past <:+ later → mayExpire sessionId reason guard →
      Judged r later sessionId reason guard) :
    body.Keeps (sweepDiscipline r) past fun _ _ => True := by
  apply (asks past).imply
  · intro later command further asked
    change SweepAsks r later command
    change TeardownAsks mayExpire later command at asked
    unfold SweepAsks
    split
    · obtain ⟨reason, reasoned, may⟩ := asked
      exact ⟨reason, reasoned, judged later _ _ _ further may⟩
    · exact asked.elim
    · exact .inl asked
    · trivial
  · exact fun _ _ credible => credible

/-- A listed session is expired under its judgement. -/
theorem sweep_expire {m : Manager} {now : Instant} {sessions : List LabSession}
    {session : LabSession} {reason : String} {guard : TransitionGuard} {past : History}
    (started : sweepStart r now sessions <:+ past) (member : session ∈ sessions)
    (judged : Judgement r now session reason guard) :
    (expire m session.sessionId reason guard).Keeps (sweepDiscipline r) past fun _ _ => True := by
  have asks : (expire m session.sessionId reason guard).Always
      (teardownDiscipline fun sessionId text fence =>
        session.sessionId = sessionId ∧ Judgement r now session text fence) :=
    expire_asks ⟨rfl, judged⟩
  apply sweep_teardown asks
  intro later sessionId text fence further may
  exact ⟨now, sessions, session, started.trans further, member, may.1, may.2⟩

/-- One session of the first pass. -/
theorem sweep_sweepSession {now : Instant} {sessions : List LabSession} {session : LabSession}
    {result : SweepResult} {past : History} (started : sweepStart r now sessions <:+ past)
    (member : session ∈ sessions) :
    (sweepSession r now result session).Keeps (sweepDiscipline r) past fun _ _ => True := by
  unfold sweepSession
  dsimp only
  split
  · trivial
  split
  · split
    · trivial
    · have asks : (resumeAbandonedEnd r.sessions session.sessionId).Always
          (teardownDiscipline fun _ _ _ => False) := resumeAbandonedEnd_asks
      exact sweep_finish (sweep_teardown asks fun _ _ _ _ _ never => never.elim)
  split
  · rename_i abandoned
    simp only [Bool.and_eq_true, decide_eq_true_eq, Bool.not_eq_true'] at abandoned
    obtain ⟨⟨⟨creating, alive⟩, used⟩, overdue⟩ := abandoned
    exact sweep_finish (sweep_expire started member (.abandoned creating alive used overdue))
  split
  · apply Prog.Always.bind
    · apply Prog.Always.attempt
      unfold recoverInterruptedReset degrade activityStamp
      split
      · exact (Prog.Always.pure _).bind fun _ => sweep_transition rfl
      · exact .pure _
    · intro outcome
      rcases outcome with failure | (_ | _) <;> exact .pure _
  split
  · trivial
  · rename_i collected
    apply sweep_finish
    by_cases expiring : session.status = .expiring
    · simp only [expiring, beq_self_eq_true, if_true, Bool.not_true, Bool.false_and]
      exact sweep_expire started member (.inFlight expiring)
    · have notBeq : (session.status == .expiring) = false := by simpa using expiring
      cases past : isExpired session now with
      | true =>
          simp only [notBeq, Bool.not_true, Bool.and_false]
          exact sweep_expire started member (.expired expiring past)
      | false =>
          have unused : isIdle session now = true := by
            simpa [notBeq, past] using collected
          simp only [notBeq, Bool.not_false, Bool.and_self]
          exact sweep_expire started member (.idle expiring past unused)

/-- The first pass. -/
theorem sweep_sweepSessions {result : SweepResult} :
    (sweepSessions r result).Keeps (sweepDiscipline r) [⟨.beginSweep r.index, .ok false⟩]
      fun _ _ => True := by
  unfold sweepSessions
  rw [Prog.keeps_bind]
  apply (Prog.keeps_perform (S := sessionSignature) _ _ _).mpr
  constructor
  · trivial
  intro reading _
  cases reading with
  | error failure => trivial
  | ok now =>
      rw [Prog.andThen_ok, Prog.keeps_bind, Prog.keeps_attempt]
      apply (Prog.keeps_perform (S := sessionSignature) _ _ _).mpr
      constructor
      · trivial
      intro listing _
      cases listing with
      | error failure => trivial
      | ok sessions =>
          have rounds : (List.foldlM (sweepSession r now) result sessions).Keeps
              (sweepDiscipline r) (sweepStart r now sessions)
              fun _ past => sweepStart r now sessions <:+ past := by
            apply Prog.keeps_foldlM (fun past => sweepStart r now sessions <:+ past)
            · intro state session member past started
              apply (sweep_sweepSession started member).grows.mono
              exact fun _ _ grown => started.trans grown.2
            · exact List.suffix_refl _
          exact rounds.mono fun _ _ _ => trivial

/-- What the orphan pass has read when it comes to a provider's sandboxes. -/
structure OrphansRead (past : History) (now : Instant) (sessions : List LabSession) : Prop where
  listed : ∃ earlier, (⟨.list, .ok sessions⟩ :: ⟨.now, .ok now⟩ :: earlier) <:+ past

theorem OrphansRead.later {past later : History} {now : Instant} {sessions : List LabSession}
    (read : OrphansRead past now sessions) (further : past <:+ later) :
    OrphansRead later now sessions := by
  obtain ⟨earlier, listed⟩ := read.listed
  exact ⟨earlier, listed.trans further⟩

/-- `reclaimFinishedSandbox` destroys right after it read the session as finished. -/
theorem sweep_reclaimFinishedSandbox {m : Manager} {sessionId : String} :
    (reclaimFinishedSandbox m sessionId).Always (sweepDiscipline r) := by
  intro past
  unfold reclaimFinishedSandbox
  rw [Prog.keeps_bind]
  apply (Prog.keeps_perform (S := sessionSignature) _ _ _).mpr
  constructor
  · trivial
  intro found credible
  rcases found with failure | (_ | session)
  · trivial
  · trivial
  · have named : session.sessionId = sessionId := credible
    subst named
    rw [Prog.andThen_ok]
    dsimp only
    split
    · rename_i finished
      unfold destroyOf providerFor
      rw [Prog.keeps_tryCatch, Prog.keeps_bind]
      split
      · apply (Prog.keeps_perform (S := sessionSignature) _ _ _).mpr
        constructor
        · exact .inr ⟨session, past, rfl, finished⟩
        · intro answer _
          cases answer <;> trivial
      · trivial
    · trivial

/-- One sandbox of the orphan pass. -/
theorem sweep_sweepOrphan {provider : LabProviderId} {sessions : List LabSession} {now : Instant}
    {sandboxes : List ManagedSandbox} {sandbox : ManagedSandbox} {result : SweepResult}
    {past : History} (read : OrphansRead past now sessions)
    (answered : ⟨.listManagedSandboxes provider, .ok sandboxes⟩ ∈ past)
    (member : sandbox ∈ sandboxes) :
    (sweepOrphan r provider sessions now result sandbox).Keeps (sweepDiscipline r) past
      fun _ _ => True := by
  unfold sweepOrphan
  split
  · trivial
  rename_i unshielded
  split
  · trivial
  split
  · exact (sweep_reclaimFinishedSandbox.bind fun _ => .pure _) past
  split
  · trivial
  split
  · trivial
  · rename_i overdue
    rw [Prog.keeps_bind]
    apply (Prog.keeps_perform (S := sessionSignature) _ _ _).mpr
    constructor
    · obtain ⟨earlier, listed⟩ := read.listed
      exact ⟨now, sessions, sandboxes, sandbox, earlier, listed, answered, member, rfl,
        by simpa using unshielded, Int.not_lt.mp overdue⟩
    · intro answer _
      cases answer <;> trivial

/-- One provider of the orphan pass. -/
theorem sweep_sweepProvider {sessions : List LabSession} {now : Instant}
    {state : SweepResult × Phases} {provider : LabProviderId} {past : History}
    (read : OrphansRead past now sessions) :
    (sweepProvider r sessions now state provider).Keeps (sweepDiscipline r) past
      fun _ _ => True := by
  unfold sweepProvider
  rw [Prog.keeps_bind, Prog.keeps_attempt]
  apply (Prog.keeps_perform (S := sessionSignature) _ _ _).mpr
  constructor
  · trivial
  intro listing _
  cases listing with
  | error failure => trivial
  | ok sandboxes =>
      rw [Prog.andThen_ok]
      dsimp only
      rw [Prog.keeps_bind]
      have rounds : (List.foldlM (sweepOrphan r provider sessions now) state.1 sandboxes).Keeps
          (sweepDiscipline r) (⟨.listManagedSandboxes provider, .ok sandboxes⟩ :: past)
          fun _ past => OrphansRead past now sessions ∧
            ⟨.listManagedSandboxes provider, .ok sandboxes⟩ ∈ past := by
        apply Prog.keeps_foldlM fun past => OrphansRead past now sessions ∧
          ⟨.listManagedSandboxes provider, .ok sandboxes⟩ ∈ past
        · intro state sandbox member past known
          apply (sweep_sweepOrphan known.1 known.2 member).grows.mono
          exact fun _ _ grown => ⟨known.1.later grown.2, grown.2.subset known.2⟩
        · exact ⟨read.later (List.suffix_cons _ _), List.mem_cons_self⟩
      apply rounds.mono
      intro outcome after _
      cases outcome <;> trivial

/-- `#reconcileStoppedSandboxes` writes DEGRADED only. -/
theorem sweep_reconcileStoppedSandboxes {result : SweepResult} {sessions : List LabSession}
    {phases : Phases} {now : Instant} :
    (reconcileStoppedSandboxes r result sessions phases now).Always (sweepDiscipline r) := by
  apply (sweep_ordinary rfl).bind
  intro lastSweep
  apply Prog.Always.bind
  · apply Prog.Always.foldlM
    intro state session _
    apply Prog.Always.bind
    · apply Prog.Always.attempt
      unfold markSandboxStopped
      split
      · exact sweep_transition rfl
      · exact .pure _
    · intro outcome
      rcases outcome with failure | (_ | _) <;> exact .pure _
  · intro result
    exact (sweep_ordinary rfl).bind fun _ => .pure _

/-- The orphan pass. -/
theorem sweep_sweepOrphans {result : SweepResult} :
    (sweepOrphans r result).Always (sweepDiscipline r) := by
  intro past
  unfold sweepOrphans
  rw [Prog.keeps_bind]
  apply (Prog.keeps_perform (S := sessionSignature) _ _ _).mpr
  constructor
  · trivial
  intro reading _
  cases reading with
  | error failure => trivial
  | ok now =>
      rw [Prog.andThen_ok, Prog.keeps_bind, Prog.keeps_attempt]
      apply (Prog.keeps_perform (S := sessionSignature) _ _ _).mpr
      constructor
      · trivial
      intro listing _
      cases listing with
      | error failure => trivial
      | ok sessions =>
          rw [Prog.andThen_ok]
          dsimp only
          rw [Prog.keeps_bind]
          have rounds : (List.foldlM (sweepProvider r sessions now) (result, []) r.providers).Keeps
              (sweepDiscipline r) (⟨.list, .ok sessions⟩ :: ⟨.now, .ok now⟩ :: past)
              fun _ past => OrphansRead past now sessions := by
            apply Prog.keeps_foldlM fun past => OrphansRead past now sessions
            · intro state provider _ past read
              apply (sweep_sweepProvider read).grows.mono
              exact fun _ _ grown => read.later grown.2
            · exact ⟨past, List.suffix_refl _⟩
          apply rounds.mono
          intro outcome after _
          cases outcome with
          | error failure => trivial
          | ok state => exact sweep_reconcileStoppedSandboxes after

/-- The retention pass only deletes records. -/
theorem sweep_sweepRetention {result : SweepResult} :
    (sweepRetention r result).Always (sweepDiscipline r) := by
  unfold sweepRetention
  split
  · exact .pure _
  · apply (sweep_ordinary rfl).bind
    intro now
    apply (sweep_ordinary rfl).bind
    intro sessions
    apply Prog.Always.foldlM
    intro state session _
    unfold retireSession forget
    split
    · exact .pure _
    · dsimp only
      split
      · exact .pure _
      · exact (sweep_ordinary rfl).bind fun _ => .pure _

/-- A sweep keeps its discipline. -/
theorem sweep_asks : (sweep r).Keeps (sweepDiscipline r) [] fun _ _ => True := by
  unfold sweep
  rw [Prog.keeps_bind]
  apply (Prog.keeps_perform (S := sessionSignature) _ _ _).mpr
  constructor
  · trivial
  intro answer _
  rcases answer with failure | (_ | _)
  · trivial
  · rw [Prog.andThen_ok, if_neg Bool.false_ne_true, Prog.keeps_ensure, Prog.keeps_bind]
    have closes : ∀ (outcome : Except Failure SweepResult) done,
        (await (.endSweep r.index)).Keeps (sweepDiscipline r) done
          (Prog.andThen (sweepDiscipline r) (fun _ => settle outcome) fun _ _ => True) := by
      intro outcome done
      have ends : (await (.endSweep r.index)).Always (sweepDiscipline r) := sweep_ordinary rfl
      apply (ends done).mono
      intro ended after _
      cases ended with
      | error failure => trivial
      | ok _ => exact Prog.Always.settle outcome after
    apply sweep_sweepSessions.mono
    intro outcome after _
    cases outcome with
    | error failure => exact closes _ _
    | ok result =>
        rw [Prog.andThen_ok, Prog.keeps_bind]
        apply (sweep_sweepOrphans after).mono
        intro outcome after _
        cases outcome with
        | error failure => exact closes _ _
        | ok result =>
            apply (sweep_sweepRetention after).mono
            intro outcome after _
            exact closes _ _
  · trivial

/-! ### On runs -/

/-- A sweep keeps its discipline; of the other operations nothing is asked. -/
def sweepRules : SessionOp → Discipline sessionSignature Failure
  | .sweep r => sweepDiscipline r
  | _ =>
      { issued := fun _ _ => True
        answered := fun command answer => Credible command answer }

theorem body_sweepRules (op : SessionOp) :
    op.body.Keeps (sweepRules op) [] fun _ _ => True := by
  cases op with
  | sweep r =>
      change (forEffect (sweep r)).Keeps (sweepDiscipline r) [] fun _ _ => True
      unfold forEffect
      rw [Prog.keeps_bind]
      apply sweep_asks.mono
      intro outcome after _
      cases outcome <;> trivial
  | _ => exact Prog.Always.free (fun _ _ => trivial) _ []

/-- What a sweep waits on, it may ask. -/
theorem asks_when_pending {allowed : SessionConfig → SessionMove → Prop} {clock : Instant}
    {config : SessionConfig} {thread : Nat} {command : Cmd}
    (run : Reaches allowed (boot clock) config) (sweeps : config.opOf thread = some (.sweep r))
    (pending : config.pending thread = some command) :
    SweepAsks r (own thread config.trace) command := by
  obtain ⟨op, rest, waiting⟩ := Config.waiting_of_pending pending
  have isSweep : op = .sweep r := by
    have runs : config.opOf thread = some op := by simp [Config.opOf, waiting]
    rw [sweeps] at runs
    exact (Option.some.inj runs).symm
  subst isSweep
  exact Config.issued_of_reaches (D := sweepRules) body_sweepRules
    (fun op _ _ _ _ _ _ responded => by
      cases op <;> exact credible_of_respond responded) run waiting

end JumptotechLabs.Session
