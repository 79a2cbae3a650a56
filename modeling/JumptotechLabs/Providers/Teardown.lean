/-
Module: JumptotechLabs.Providers.Teardown
Layer: Providers (services/lab-orchestrator/src/session/manager.ts)
Purpose: A teardown with the destroy of its provider, against any answers. It records an ending only behind a destroy
  that calls the sandbox gone, so what that destroy has seen is what a finished session rests on.
Main exports: Ending, served, EndRecorded, ClaimedAs, finishTeardown_fair, teardownHistory,
  finished_teardown_read_absence_iff, failed_read_ends_session
-/
import JumptotechLabs.Providers.Absence

namespace JumptotechLabs.Providers

open JumptotechLabs.Core
open JumptotechLabs.Core.Prog (attempt settle)
open JumptotechLabs.Session (Cmd DestroyResult Failure Instant LabProviderId LabSession Manager SessionM
  SessionStatus SessionTeardownContext TeardownResult TransitionGuard sessionSignature
  teardownContextFor)

/-- The two ends of a session, and the status it has until it is there. -/
inductive Ending where
  | ended
  | expired
deriving DecidableEq

def Ending.inProgress : Ending → SessionStatus
  | .ended => .ending
  | .expired => .expiring

def Ending.done : Ending → SessionStatus
  | .ended => .ended
  | .expired => .expired

/-- What is known of the commands of the session layer, with the providers behind `destroy`. -/
def served (deployment : Deployment) (rounds : Nat) : Effects sessionSignature Failure TeardownHistory :=
  fun command past answer next => (carriedOut deployment rounds command).Ends recorded past answer next

/-- Some write of ENDED or EXPIRED moved a row. -/
def EndRecorded (history : TeardownHistory) : Prop := history.any recordsEnd = true

/-- The row that the teardown claimed. -/
def ClaimedAs (ending : Ending) (history : TeardownHistory) (marked : LabSession) : Prop :=
  ∃ sessionId source patch guard,
    (⟨.inl (.transition sessionId source ending.inProgress patch guard), .ok (some marked)⟩ : TeardownInteraction) ∈
      history

variable {deployment : Deployment} {rounds : Nat} {context : SessionTeardownContext} {past : TeardownHistory}

/-! ### Commands of the session layer -/

def isDestroy : Cmd → Bool
  | .destroy _ _ => true
  | _ => false

/-- Every other command is asked as it is. -/
theorem served_of_other {command : Cmd} (other : isDestroy command = false) {answer : Except Failure command.Ans}
    {next : TeardownHistory} (isServed : served deployment rounds command past answer next) :
    next = ⟨.inl command, answer⟩ :: past := by
  cases command <;> first
    | exact Prog.ends_perform.mp isServed
    | cases other

/-- A history only grows. -/
theorem served_grows {command : Cmd} {answer : Except Failure command.Ans} {next : TeardownHistory}
    (isServed : served deployment rounds command past answer next) : past <:+ next := by
  have grows : (carriedOut deployment rounds command).Ensures recorded past fun _ last => past <:+ last := by
    refine Prog.Ensures.of_invariant (past <:+ ·) ?_ (List.suffix_refl past)
    rintro command state answer next rfl grown
    exact grown.trans (List.suffix_cons _ _)
  exact Prog.ensures_iff_ends.mp grows answer next isServed

theorem told_of_served {provider : LabProviderId} (creates : provider ≠ .aws) (fresh : factsOf context past = .none)
    {answer : Except Failure DestroyResult} {next : TeardownHistory}
    (isServed : served deployment rounds (.destroy provider context) past answer next) : Told context answer next :=
  Prog.ensures_iff_ends.mp (told_by_destroyOfProvider deployment rounds creates fresh) answer next isServed

/-- Programs that neither destroy nor end anything. -/
def quiet (context : SessionTeardownContext) : Discipline sessionSignature Failure :=
  ⟨fun _ command => isDestroy command = false ∧ tells context (.inl command) = false, fun _ _ => True⟩

/-- Programs that destroy nothing. -/
def keeping : Discipline sessionSignature Failure := ⟨fun _ command => isDestroy command = false, fun _ _ => True⟩

theorem ensures_of_quiet {α : Type} {body : SessionM α} (isQuiet : body.Always (quiet context)) :
    body.Ensures (served deployment rounds) past fun _ after => factsOf context after = factsOf context past := by
  refine (isQuiet []).ensures (fun history => factsOf context history = factsOf context past) (fun _ _ => trivial) ?_ rfl
  rintro _ command history answer next ⟨other, silent⟩ isServed same
  rw [served_of_other other isServed]
  exact (factsOf_cons_of_silent silent answer).trans same

/-- What was read of a sandbox is as fair after commands of the session layer. -/
theorem fair_of_keeping {α : Type} {body : SessionM α} (keeps : body.Always keeping)
    (fair : (factsOf context past).Fair) :
    body.Ensures (served deployment rounds) past fun _ after => (factsOf context after).Fair := by
  refine (keeps []).ensures (fun history => (factsOf context history).Fair) (fun _ _ => trivial) ?_ fair
  rintro _ command history answer next other isServed isFair
  rw [served_of_other other isServed]
  exact isFair

theorem quiet_await {command : Cmd} (other : isDestroy command = false) (silent : tells context (.inl command) = false) :
    (Session.await command).Always (quiet context) :=
  Prog.Always.perform fun _ => ⟨other, silent⟩

theorem keeping_await {command : Cmd} (other : isDestroy command = false) : (Session.await command).Always keeping :=
  Prog.Always.perform fun _ => other

theorem quiet_closeShell (m : Manager) (sessionId : String) :
    (Session.closeShell m sessionId).Always (quiet context) := by
  unfold Session.closeShell
  split
  · exact (quiet_await rfl rfl).tryCatch fun _ => .pure ()
  · exact .pure ()

theorem quiet_currentOr (session : LabSession) : (Session.currentOr session).Always (quiet context) :=
  (quiet_await rfl rfl).bind fun _ => .pure _

theorem keeping_transition (sessionId : String) (source : List SessionStatus) (target : SessionStatus)
    (patch : Session.SessionPatch) (guard : TransitionGuard) :
    (Session.transition sessionId source target patch guard).Always keeping :=
  (keeping_await rfl).bind fun _ => keeping_await rfl

theorem keeping_recordEnding (m : Manager) (marked : LabSession) (inProgress done : SessionStatus) (reason : String)
    (destroy : DestroyResult) : (Session.recordEnding m marked inProgress done reason destroy).Always keeping := by
  refine (keeping_await rfl).bind fun endedAt => (keeping_transition _ _ _ _ _).bind fun ended => ?_
  cases ended with
  | some ended =>
      refine Prog.Always.bind ?_ fun _ => .pure _
      unfold Session.notifyClosed
      split
      · exact (keeping_await rfl).tryCatch fun _ => .pure ()
      · exact .pure ()
  | none => exact ((keeping_await rfl).bind fun _ => .pure _).bind fun _ => .pure _

/-! ### A teardown from its claim on -/

/-- The destroy of a session, with its failure caught. -/
theorem told_by_destroyOf (m : Manager) {marked : LabSession} (creates : marked.provider ≠ .aws)
    (fresh : factsOf (teardownContextFor marked) past = .none) :
    (Session.destroyOf m marked).Ensures (served deployment rounds) past (Told (teardownContextFor marked)) := by
  have caught : ∀ {failure : Failure} {after : TeardownHistory} {result : DestroyResult}, result.ok = false →
      Told (teardownContextFor marked) (.error failure) after → Told (teardownContextFor marked) (.ok result) after := by
    intro failure after result notOk told
    refine told_of_not_gone told.1 fun given isGiven => ?_
    cases isGiven
    exact .inl notOk
  unfold Session.destroyOf
  rw [Prog.ensures_tryCatch, Prog.ensures_bind]
  unfold Session.providerFor
  split
  · rw [Prog.ensures_pure, Prog.thenEnsures_ok]
    refine (Prog.ensures_perform (S := sessionSignature) (.destroy marked.provider (teardownContextFor marked)) _).mpr ?_
    intro answer next isServed
    have told := told_of_served creates fresh isServed
    cases answer with
    | ok result => exact told
    | error failure => exact caught rfl told
  · have untold : Told (teardownContextFor marked) (.error (.error "")) past :=
      told_of_not_gone (by rw [fresh]; rfl) fun result impossible => nomatch impossible
    exact caught rfl untold

theorem not_endRecorded_of_fresh (fresh : factsOf context past = .none) : ¬ EndRecorded past := by
  intro ended
  have recordedEnd : (factsOf context past).recordedEnd = true := ended
  rw [fresh] at recordedEnd
  cases recordedEnd

/-- Where an ending is recorded, what the destroy has read of the sandbox is fair. -/
theorem finishTeardown_fair (m : Manager) {marked : LabSession} (inProgress done : SessionStatus) (reason : String)
    (creates : marked.provider ≠ .aws) (fresh : factsOf (teardownContextFor marked) past = .none) :
    (Session.finishTeardown m marked inProgress done reason).Ensures (served deployment rounds) past fun _ after =>
      EndRecorded after → (factsOf (teardownContextFor marked) after).Fair := by
  unfold Session.finishTeardown
  rw [Prog.ensures_bind]
  have closing : (Session.closeShell m marked.sessionId).Always (quiet (teardownContextFor marked)) :=
    quiet_closeShell m marked.sessionId
  refine (ensures_of_quiet closing).mono fun closed behind same => ?_
  have fresh := same.trans fresh
  cases closed with
  | error failure => exact fun ended => absurd ended (not_endRecorded_of_fresh fresh)
  | ok _ =>
      rw [Prog.thenEnsures_ok, Prog.ensures_bind]
      refine (told_by_destroyOf m creates fresh).mono fun outcome after told => ?_
      have unended : ∀ {later : TeardownHistory}, factsOf (teardownContextFor marked) later =
          factsOf (teardownContextFor marked) after → ¬ EndRecorded later := by
        intro later same ended
        have recordedEnd : (factsOf (teardownContextFor marked) later).recordedEnd = true := ended
        rw [same, told.1] at recordedEnd
        cases recordedEnd
      cases outcome with
      | error failure => exact fun ended => absurd ended (unended rfl)
      | ok result =>
          rw [Prog.thenEnsures_ok]
          split
          · rename_i isGone
            obtain ⟨ok, gone⟩ := Bool.and_eq_true_iff.mp isGone
            exact (fair_of_keeping (keeping_recordEnding m marked inProgress done reason result)
              (told.2 result rfl ok gone)).mono fun _ _ fair _ => fair
          · have isQuiet : (Session.currentOr marked >>= fun current => pure ⟨current, result⟩ :
                SessionM TeardownResult).Always (quiet (teardownContextFor marked)) :=
              (quiet_currentOr marked).bind fun _ => .pure _
            exact (ensures_of_quiet isQuiet).mono fun _ later same ended => absurd ended (unended same)

/-! ### The whole teardown -/

/-- The row that was claimed, and that what was read of its sandbox is fair. -/
def Accounted (ending : Ending) (history : TeardownHistory) : Prop :=
  EndRecorded history → ∃ marked, ClaimedAs ending history marked ∧
    (marked.provider ≠ .aws → (factsOf (teardownContextFor marked) history).Fair)

/-- Nothing was asked of a provider, and no session has ended. -/
def Untouched (history : TeardownHistory) : Prop := ∀ context, factsOf context history = .none

theorem Untouched.accounted {ending : Ending} {history : TeardownHistory} (untouched : Untouched history) :
    Accounted ending history :=
  fun ended => absurd ended (not_endRecorded_of_fresh (untouched default))

theorem Untouched.cons {history : TeardownHistory} (untouched : Untouched history) (command : Cmd)
    (silent : ∀ context, tells context (.inl command) = false) (answer : Except Failure command.Ans) :
    Untouched (⟨.inl command, answer⟩ :: history) :=
  fun context => (factsOf_cons_of_silent (silent context) answer).trans (untouched context)

theorem Ending.silent (ending : Ending) (sessionId : String) (source : List SessionStatus)
    (patch : Session.SessionPatch) (guard : TransitionGuard) (context : SessionTeardownContext) :
    tells context (.inl (.transition sessionId source ending.inProgress patch guard)) = false := by
  cases ending <;> rfl

/-- The write that claims a session, and what goes on from its answer. -/
theorem ensures_claim {α : Type} {ending : Ending} {sessionId : String} {source : List SessionStatus}
    {patch : Session.SessionPatch} {guard : TransitionGuard} {rest : Option LabSession → SessionM α}
    {post : TeardownHistory → Prop} (untouched : Untouched past) (failed : ∀ after, Untouched after → post after)
    (refused : ∀ after, Untouched after → (rest none).Ensures (served deployment rounds) after fun _ => post)
    (claimed : ∀ after marked, Untouched after → ClaimedAs ending after marked →
      (rest (some marked)).Ensures (served deployment rounds) after fun _ => post) :
    (Session.transition sessionId source ending.inProgress patch guard >>= rest).Ensures (served deployment rounds) past
      fun _ => post := by
  unfold Session.transition
  rw [Prog.ensures_bind, Prog.ensures_bind]
  refine (Prog.ensures_perform (S := sessionSignature) .now _).mpr fun stamp behind isServed => ?_
  rw [served_of_other rfl isServed]
  have untouched := untouched.cons .now (fun _ => rfl) stamp
  cases stamp with
  | error failure => exact failed _ untouched
  | ok stamp =>
      refine (Prog.ensures_perform (S := sessionSignature) (.transition sessionId source ending.inProgress
        { patch with statusChangedAt := some stamp } guard) _).mpr fun moved after isServed => ?_
      rw [served_of_other rfl isServed]
      have untouched := untouched.cons (.transition sessionId source ending.inProgress
        { patch with statusChangedAt := some stamp } guard) (ending.silent sessionId source _ guard) moved
      rcases moved with failure | (none | marked)
      · exact failed _ untouched
      · exact refused _ untouched
      · exact claimed _ marked untouched ⟨sessionId, source, _, guard, List.mem_cons_self⟩

/-- A session that was claimed is torn down. -/
theorem accounted_finishTeardown (m : Manager) {ending : Ending} {marked : LabSession} (reason : String)
    (untouched : Untouched past) (claimed : ClaimedAs ending past marked) :
    (Session.finishTeardown m marked ending.inProgress ending.done reason).Ensures (served deployment rounds) past
      fun _ after => Accounted ending after := by
  have grows : (Session.finishTeardown m marked ending.inProgress ending.done reason).Ensures (served deployment rounds)
      past fun _ after => past <:+ after :=
    .of_invariant (past <:+ ·) (fun _ _ _ _ isServed grown => grown.trans (served_grows isServed))
      (List.suffix_refl past)
  have stays : ∀ {after : TeardownHistory}, past <:+ after → ClaimedAs ending after marked := by
    intro after grown
    obtain ⟨sessionId, source, patch, guard, member⟩ := claimed
    exact ⟨sessionId, source, patch, guard, grown.subset member⟩
  by_cases creates : marked.provider ≠ .aws
  · refine ((finishTeardown_fair m _ _ reason creates (untouched _)).both grows).mono ?_
    rintro _ after ⟨fair, grown⟩ ended
    exact ⟨marked, stays grown, fun _ => fair ended⟩
  · exact grows.mono fun _ after grown _ => ⟨marked, stays grown, fun impossible => absurd impossible creates⟩

theorem accounted_currentOr {ending : Ending} (session : LabSession) {result : LabSession → TeardownResult}
    (untouched : Untouched past) :
    (Session.currentOr session >>= fun current => pure (result current)).Ensures (served deployment rounds) past
      fun _ after => Accounted ending after := by
  have same : ∀ context, (Session.currentOr session >>= fun current => pure (result current)).Ensures
      (served deployment rounds) past fun _ after => factsOf context after = factsOf context past :=
    fun context => ensures_of_quiet ((quiet_currentOr session).bind fun _ => .pure _)
  refine (same default).mono fun _ after unchanged ended => ?_
  exact absurd ended (not_endRecorded_of_fresh (unchanged.trans (untouched default)))

theorem accounted_claimTeardown (m : Manager) (session : LabSession) (claimable : List SessionStatus) (ending : Ending)
    (reason : String) (guard : TransitionGuard) (untouched : Untouched past) :
    (Session.claimTeardown m session claimable ending.inProgress ending.done reason guard).Ensures
      (served deployment rounds) past fun _ after => Accounted ending after := by
  unfold Session.claimTeardown
  refine ensures_claim untouched (fun after untouched => untouched.accounted) (fun after untouched => ?_)
    fun after marked untouched claimed => accounted_finishTeardown m reason untouched claimed
  exact accounted_currentOr session untouched

theorem accounted_teardown (m : Manager) (session : LabSession) (claimable : List SessionStatus) (ending : Ending)
    (reason : String) (guard : TransitionGuard) (deferToStart : Bool) (untouched : Untouched past) :
    (Session.teardown m session claimable ending.inProgress ending.done reason guard deferToStart).Ensures
      (served deployment rounds) past fun _ after => Accounted ending after := by
  unfold Session.teardown
  split
  · exact untouched.accounted
  · split
    · refine ensures_claim untouched (fun after untouched => untouched.accounted) (fun after untouched => ?_)
        fun after marked untouched _ => untouched.accounted
      exact accounted_claimTeardown m session claimable ending reason guard untouched
    · exact accounted_claimTeardown m session claimable ending reason guard untouched

/-- What a teardown with its provider asks and is answered. -/
def teardownHistory (deployment : Deployment) (rounds : Nat) (m : Manager) (session : LabSession)
    (claimable : List SessionStatus) (ending : Ending) (reason : String) (guard : TransitionGuard) (deferToStart : Bool)
    (answers : Answers) : TeardownHistory :=
  ((carried deployment rounds (Session.teardown m session claimable ending.inProgress ending.done reason guard
    deferToStart)).run (answering answers) []).2

/-- A teardown that records an ending has read that its sandbox is absent, unless the read behind an accepted delete
    failed: then it has not, and records the ending all the same. -/
theorem finished_teardown_read_absence_iff (deployment : Deployment) (rounds : Nat) (m : Manager) (session : LabSession)
    (claimable : List SessionStatus) (ending : Ending) (reason : String) (guard : TransitionGuard) (deferToStart : Bool)
    (answers : Answers)
    (ended : EndRecorded (teardownHistory deployment rounds m session claimable ending reason guard deferToStart
      answers)) :
    let history := teardownHistory deployment rounds m session claimable ending reason guard deferToStart answers
    ∃ marked, ClaimedAs ending history marked ∧ (marked.provider ≠ .aws →
      ((factsOf (teardownContextFor marked) history).foundAbsent = true ↔
        ¬ ((factsOf (teardownContextFor marked) history).acceptedDelete = true ∧
          (factsOf (teardownContextFor marked) history).failedToRead = true))) := by
  intro history
  have untouched : Untouched [] := fun _ => rfl
  have accounted : (Session.teardown m session claimable ending.inProgress ending.done reason guard
      deferToStart).Ensures (served deployment rounds) [] fun _ after => Accounted ending after :=
    accounted_teardown m session claimable ending reason guard deferToStart untouched
  have ensures : (carried deployment rounds (Session.teardown m session claimable ending.inProgress ending.done reason
      guard deferToStart)).Ensures recorded [] fun _ after => Accounted ending after :=
    (Prog.ensures_serve (S := sessionSignature) (carriedOut deployment rounds) _ _).mpr accounted
  have known : ∀ past command, recorded command past (answering answers past command).1
      (answering answers past command).2 := fun _ _ => rfl
  exact ensures.run known ended

/-! ### A container session whose last read fails -/

def labDeployment : Deployment := ⟨"prod", 60000, fun _ => .destroyFailed⟩

def labManager : Manager where
  index := 0
  registry := fun _ => .error (.error "not registered")
  providers := fun provider => if provider = .linux then some { enabled := true } else none
  serviceAccountName := "student"
  lifetimes := default
  deriveNamespace := id
  deriveSandboxRef := id
  hasTerminal := false
  hasReattach := false
  hasListener := false

def linuxSession : LabSession :=
  { (default : LabSession) with
    sessionId := "sess-0a1b2c3d", provider := .linux, sandboxRef := "jtt-lab-0a1b2c3d", status := .active }

def ownedContainer : ContainerInfo where
  name := "jtt-lab-0a1b2c3d"
  id := units "c0ffee"
  state := units "running"
  image := units "lab"
  labels := [(Session.managedLabel, "true"), (Session.sessionLabel, "sess-0a1b2c3d")]

/-- Every write moves its row, and the container that a read finds is answered as `reread` says once it was deleted. -/
def runtimeAnswers (reread : Except Failure (Option ContainerInfo)) : Answers := fun past command =>
  match command with
  | .inl .now => .ok (0 : Instant)
  | .inl (.transition _ _ target _ _) => .ok (some { linuxSession with status := target })
  | .inr (.inspect name) =>
      if name ≠ linuxSession.sandboxRef then .ok none
      else if past.any (acceptsDelete (teardownContextFor linuxSession)) then reread
      else .ok (some ownedContainer)
  | .inr (.remove _) => .ok ()
  | .inr (.networkInspect _) => .ok none
  | _ => .error (.error "not asked")

def endOf (reread : Except Failure (Option ContainerInfo)) : TeardownHistory :=
  teardownHistory labDeployment 0 labManager linuxSession [.active] .ended "ended by student" {} false
    (runtimeAnswers reread)

theorem finished_teardown_read_absence_iff_sample :
    EndRecorded (endOf (.ok none)) ∧
      ∃ marked, ClaimedAs .ended (endOf (.ok none)) marked ∧ (marked.provider ≠ .aws →
        ((factsOf (teardownContextFor marked) (endOf (.ok none))).foundAbsent = true ↔
          ¬ ((factsOf (teardownContextFor marked) (endOf (.ok none))).acceptedDelete = true ∧
            (factsOf (teardownContextFor marked) (endOf (.ok none))).failedToRead = true))) := by
  have ended : EndRecorded (endOf (.ok none)) := by
    unfold EndRecorded
    decide
  exact ⟨ended, finished_teardown_read_absence_iff labDeployment 0 labManager linuxSession [.active] .ended
    "ended by student" {} false (runtimeAnswers (.ok none)) ended⟩

/-- The delete is accepted, the read behind it fails, and the session is recorded as ENDED though no read of the
    container ever answered that it is absent. -/
theorem failed_read_ends_session :
    EndRecorded (endOf (.error (.error "docker inspect did not answer in time"))) ∧
      factsOf (teardownContextFor linuxSession) (endOf (.error (.error "docker inspect did not answer in time"))) =
        { foundAbsent := false, acceptedDelete := true, failedToRead := true, recordedEnd := true } := by
  unfold EndRecorded
  decide

end JumptotechLabs.Providers
