/-
Module: JumptotechLabs.Session.Conduct
Layer: Session (services/lab-orchestrator/src/session/manager.ts, reaper.ts)
Purpose: Every method of the manager and the reaper keeps the discipline, read sequentially. One lemma
  for each method; a caller uses its callees' lemmas and never their text.
Main exports: body_keeps
-/
import JumptotechLabs.Session.Discipline

namespace JumptotechLabs.Session

open JumptotechLabs.Core
open JumptotechLabs.Core.Prog (attempt ensure settle andThen orElse)

variable {op : SessionOp} {α : Type}

/-! ### Commands -/

theorem keeps_await {command : Cmd} {past : History}
    {post : Except Failure command.Ans → History → Prop}
    (allowed : Issued op past command)
    (next : ∀ answer, Credible command answer → post answer (⟨command, answer⟩ :: past)) :
    (await command).Keeps (discipline op) past post :=
  (Prog.keeps_perform (S := sessionSignature) command past post).mpr ⟨allowed, next⟩

/-- Reads and bookkeeping are free. -/
theorem keeps_quiet {command : Cmd} {past : History}
    {post : Except Failure command.Ans → History → Prop} (isFree : isQuiet command = true)
    (next : ∀ answer, Credible command answer → post answer (⟨command, answer⟩ :: past)) :
    (await command).Keeps (discipline op) past post :=
  keeps_await (.quiet isFree) next

/-- `#transition`: the clock is read, then the row is written, if it still qualifies. -/
theorem keeps_transition {sessionId : String} {source : List SessionStatus}
    {target : SessionStatus} {patch : SessionPatch} {guard : TransitionGuard} {past : History}
    {post : Except Failure (Option LabSession) → History → Prop}
    (allowed : ∀ stamp : Instant, Issued op (⟨.now, .ok stamp⟩ :: past)
      (.transition sessionId source target { patch with statusChangedAt := some stamp } guard))
    (failed : ∀ failure after, post (.error failure) after)
    (written : ∀ (stamp : Instant) (answer : Option LabSession),
      Credible (.transition sessionId source target { patch with statusChangedAt := some stamp }
        guard) (.ok answer) →
      post (.ok answer)
        (⟨.transition sessionId source target { patch with statusChangedAt := some stamp } guard,
          .ok answer⟩ :: ⟨.now, .ok stamp⟩ :: past)) :
    (transition sessionId source target patch guard).Keeps (discipline op) past post := by
  unfold transition
  rw [Prog.keeps_bind]
  refine keeps_quiet rfl ?_
  rintro (failure | stamp) _
  · exact failed failure _
  · refine keeps_await (allowed stamp) ?_
    rintro (failure | answer) credible
    · exact failed failure _
    · exact written stamp answer credible

/-- `#notifyClosed`. -/
theorem keeps_notifyClosed {m : Manager} {event : SessionClosedEvent} {past : History}
    (allowed : Issued op past (.onSessionClosed event)) :
    (notifyClosed m event).Keeps (discipline op) past fun _ _ => True := by
  unfold notifyClosed
  split
  · rw [Prog.keeps_tryCatch]
    refine keeps_await allowed ?_
    rintro (failure | _) _ <;> trivial
  · trivial

/-! ### Teardown -/

theorem keeps_currentOr {session : LabSession} {past : History} :
    (currentOr session).Keeps (discipline op) past fun _ _ => True := by
  unfold currentOr
  rw [Prog.keeps_bind]
  refine keeps_quiet rfl ?_
  rintro (failure | current) _ <;> trivial

theorem keeps_closeShell {m : Manager} {sessionId : String} {past : History} :
    (closeShell m sessionId).Keeps (discipline op) past fun outcome after =>
      outcome = .ok () ∧ effects after = effects past := by
  unfold closeShell
  split
  · rw [Prog.keeps_tryCatch]
    refine keeps_quiet rfl ?_
    rintro (failure | _) _
    · exact ⟨rfl, effects_cons_none rfl⟩
    · exact ⟨rfl, effects_cons_none rfl⟩
  · exact ⟨rfl, rfl⟩

/-- The session-scoped destroy: what was answered is on record, unless no provider is registered. -/
theorem keeps_destroyOf {m : Manager} {session : LabSession} {past : History}
    (allowed : ∀ provider, Issued op past (.destroy provider (teardownContextFor session))) :
    (destroyOf m session).Keeps (discipline op) past fun outcome after =>
      ∃ result, outcome = .ok result ∧
        (result.ok = true → effects after =
          .destroyed (teardownContextFor session) (.ok result) :: effects past) := by
  unfold destroyOf providerFor
  rw [Prog.keeps_tryCatch, Prog.keeps_bind]
  split
  · refine keeps_await (allowed _) ?_
    rintro (failure | result) _
    · exact ⟨_, rfl, fun impossible => nomatch impossible⟩
    · exact ⟨result, rfl, fun _ => effects_cons_some rfl⟩
  · exact ⟨_, rfl, fun impossible => nomatch impossible⟩

/-- Recording an ending, once the sandbox is verifiably gone. -/
theorem keeps_recordEnding {m : Manager} {marked : LabSession} {source : List SessionStatus}
    {inProgress done : SessionStatus} {reason : String} {patch : SessionPatch}
    {guard : TransitionGuard} {result : DestroyResult} {past : History} {earlier : List Effect}
    (pair : TeardownPair inProgress done)
    (destroyed : effects past =
      .destroyed (teardownContextFor marked) (.ok result) ::
        .moved marked.sessionId source inProgress patch guard marked :: earlier)
    (gone : result.ok = true ∧ result.namespaceGone = true)
    (reasoned : patch.statusReason = some reason) (claims : source ≠ [.creating]) :
    (recordEnding m marked inProgress done reason result).Keeps (discipline op) past
      fun _ _ => True := by
  unfold recordEnding
  rw [Prog.keeps_bind]
  refine keeps_quiet rfl ?_
  rintro (failure | endedAt) _
  · trivial
  rw [Prog.andThen_ok, Prog.keeps_bind]
  refine keeps_transition (fun stamp => ?_) (fun _ _ => trivial) ?_
  · exact .finish ((effects_cons_none rfl).trans ((effects_cons_none rfl).trans destroyed)) gone
      pair reasoned claims
  · rintro stamp (_ | ended) credible
    · rw [Prog.andThen_ok, Prog.keeps_bind]
      refine keeps_currentOr.mono ?_
      rintro (failure | current) after _ <;> trivial
    · rw [Prog.andThen_ok, Prog.keeps_bind]
      refine (keeps_notifyClosed (.notify credible.1 (effects_cons_some rfl) pair rfl)).mono ?_
      rintro (failure | _) after _ <;> trivial

/-- The rest of a teardown, once its claim stands. -/
theorem keeps_finishTeardown {m : Manager} {marked : LabSession} {source : List SessionStatus}
    {inProgress done : SessionStatus} {reason : String} {patch : SessionPatch}
    {guard : TransitionGuard} {past : History} {earlier : List Effect} {sessionId : String}
    (pair : TeardownPair inProgress done) (named : marked.sessionId = sessionId)
    (claimed : effects past = .moved sessionId source inProgress patch guard marked :: earlier)
    (inFlight : marked.status = inProgress) (reasoned : patch.statusReason = some reason)
    (claims : source ≠ [.creating]) :
    (finishTeardown m marked inProgress done reason).Keeps (discipline op) past
      fun _ _ => True := by
  subst named
  unfold finishTeardown
  rw [Prog.keeps_bind]
  refine keeps_closeShell.mono ?_
  rintro _ closed ⟨rfl, same⟩
  rw [Prog.andThen_ok, Prog.keeps_bind]
  rw [← same] at claimed
  refine (keeps_destroyOf fun provider => .destroyMarked claimed inFlight pair).mono ?_
  rintro _ after ⟨result, rfl, recorded⟩
  rw [Prog.andThen_ok]
  split
  · rename_i gone
    rw [Bool.and_eq_true] at gone
    exact keeps_recordEnding pair ((recorded gone.1).trans (congrArg _ claimed)) gone reasoned
      claims
  · rw [Prog.keeps_bind]
    refine keeps_currentOr.mono ?_
    rintro (failure | current) after _ <;> trivial

/-- What a thread knew it still knows. -/
theorem BuildOver.cons {sessionId : String} {past : History} (isOver : BuildOver sessionId past)
    (interaction : SessionInteraction) : BuildOver sessionId (interaction :: past) := by
  rcases isOver with ⟨read, member, row, isShown, named, past⟩ | ⟨target, patch, earlier, missed, known⟩
  · exact .inl ⟨read, List.mem_cons_of_mem _ member, row, isShown, named, past⟩
  · exact .inr ⟨target, patch, earlier, missed.trans (List.suffix_cons _ _), known⟩

theorem TeardownClaim.cons {past : History} {sessionId : String} {source : List SessionStatus}
    {inProgress : SessionStatus} {reason : String} {claimGuard : TransitionGuard}
    (claims : TeardownClaim op past sessionId source inProgress reason claimGuard)
    (interaction : SessionInteraction) :
    TeardownClaim op (interaction :: past) sessionId source inProgress reason claimGuard := by
  cases claims with
  | student isOver => exact .student (isOver.cons _)
  | expiry _ _ expires => exact .expiry _ _ expires
  | operator isOver => exact .operator (isOver.cons _)
  | resumed read isShown named unfinished abandoned =>
      exact .resumed (read.trans (List.suffix_cons _ _)) isShown named unfinished abandoned
  | helped fallback read isShown named expiring =>
      exact .helped fallback (List.mem_cons_of_mem _ read) isShown named expiring

/-- A teardown's own claim never claims CREATING alone. -/
theorem TeardownClaim.source_ne {past : History} {sessionId : String}
    {source : List SessionStatus} {inProgress : SessionStatus} {reason : String}
    {claimGuard : TransitionGuard}
    (claims : TeardownClaim op past sessionId source inProgress reason claimGuard) :
    source ≠ [.creating] := by
  cases claims <;> decide

/-- The claim of a teardown, and the teardown if it stands. -/
theorem keeps_claimTeardown {m : Manager} {session : LabSession} {source : List SessionStatus}
    {inProgress done : SessionStatus} {reason : String} {claimGuard : TransitionGuard}
    {past : History} (pair : TeardownPair inProgress done)
    (claims : TeardownClaim op past session.sessionId source inProgress reason claimGuard) :
    (claimTeardown m session source inProgress done reason claimGuard).Keeps (discipline op) past
      fun _ _ => True := by
  unfold claimTeardown
  rw [Prog.keeps_bind]
  refine keeps_transition (fun stamp => .claim (claims.cons _)) (fun _ _ => trivial) ?_
  rintro stamp (_ | marked) credible
  · rw [Prog.andThen_ok, Prog.keeps_bind]
    refine keeps_currentOr.mono ?_
    rintro (failure | current) after _ <;> trivial
  · obtain ⟨named, inFlight, _⟩ := credible
    exact keeps_finishTeardown pair named (effects_cons_some rfl) inFlight rfl claims.source_ne

/-- `#teardown` that does not defer. -/
theorem keeps_teardown {m : Manager} {session : LabSession} {source : List SessionStatus}
    {inProgress done : SessionStatus} {reason : String} {claimGuard : TransitionGuard}
    {past : History} (pair : TeardownPair inProgress done)
    (claims : isTerminalStatus session.status = false →
      TeardownClaim op past session.sessionId source inProgress reason claimGuard) :
    (teardown m session source inProgress done reason claimGuard).Keeps (discipline op) past
      fun _ _ => True := by
  unfold teardown
  split
  · trivial
  · rename_i unfinished
    rw [if_neg (by simp)]
    exact keeps_claimTeardown pair (claims (by simpa using unfinished))

/-- `#teardown` that leaves a session being built to its start. -/
theorem keeps_teardown_deferring {m : Manager} {session : LabSession}
    {source : List SessionStatus} {inProgress done : SessionStatus} {reason : String}
    {past : History} {read : SessionInteraction} (pair : TeardownPair inProgress done)
    (seen : read ∈ past) (isShown : session ∈ shown read)
    (defers : (∃ m, op = .endSession m session.sessionId) ∧ inProgress = .ending ∧
        reason = studentEndReason ∨
      (∃ m, op = .endByOperator m session.sessionId) ∧ inProgress = .expiring ∧
        reason = operatorEndReason)
    (claims : ∀ {after}, BuildOver session.sessionId after →
      TeardownClaim op after session.sessionId source inProgress reason {}) :
    (teardown m session source inProgress done reason {} true).Keeps (discipline op) past
      fun _ _ => True := by
  unfold teardown
  split
  · trivial
  split
  · rw [Prog.keeps_bind]
    refine keeps_transition (fun stamp => .defer defers) (fun _ _ => trivial) ?_
    rintro stamp (_ | claimed) _
    · refine keeps_claimTeardown pair (claims (.inr ⟨_, _, _, List.suffix_refl _, .inr ?_⟩))
      exact ⟨read, List.mem_cons_of_mem _ seen, session, isShown, rfl⟩
    · trivial
  · rename_i building
    refine keeps_claimTeardown pair (claims (.inl ⟨read, seen, session, isShown, rfl, ?_⟩))
    simpa using building

/-- `require`: the row as stored. -/
theorem keeps_require {sessionId : String} {past : History} :
    (require sessionId).Keeps (discipline op) past fun outcome after =>
      ∀ session, outcome = .ok session →
        session.sessionId = sessionId ∧
          after = ⟨.get sessionId, .ok (some session)⟩ :: past := by
  unfold require
  split
  · rw [Prog.keeps_bind]
    refine keeps_quiet rfl ?_
    rintro (failure | _ | session) credible
    · exact fun _ impossible => nomatch impossible
    · exact fun _ impossible => nomatch impossible
    · rintro _ ⟨⟩
      exact ⟨credible, rfl⟩
  · exact fun _ impossible => nomatch impossible

/-- Go on with the row `require` found; a refusal ends the call. -/
theorem keeps_require_bind {sessionId : String} {past : History} {rest : LabSession → SessionM α}
    (next : ∀ session : LabSession, session.sessionId = sessionId →
      (rest session).Keeps (discipline op) (⟨.get sessionId, .ok (some session)⟩ :: past)
        fun _ _ => True) :
    (require sessionId >>= rest).Keeps (discipline op) past fun _ _ => True := by
  rw [Prog.keeps_bind]
  refine keeps_require.mono ?_
  rintro (failure | session) after found
  · trivial
  · obtain ⟨named, rfl⟩ := found session rfl
    exact next session named

theorem keeps_endSession {m : Manager} {sessionId : String} {past : History}
    (ends : ∃ m, op = .endSession m sessionId) :
    (endSession m sessionId).Keeps (discipline op) past fun _ _ => True := by
  refine keeps_require_bind ?_
  rintro session rfl
  exact keeps_teardown_deferring .student List.mem_cons_self (List.mem_singleton.mpr rfl)
    (.inl ⟨ends, rfl, rfl⟩) fun isOver => .student isOver

theorem keeps_expire {m : Manager} {sessionId reason : String} {claimGuard : TransitionGuard}
    {past : History} (expires : op.expires = true) :
    (expire m sessionId reason claimGuard).Keeps (discipline op) past fun _ _ => True := by
  refine keeps_require_bind ?_
  rintro session rfl
  exact keeps_teardown .platform fun _ => .expiry _ _ expires

theorem keeps_resumeAbandonedEnd {m : Manager} {sessionId : String} {past : History}
    (abandoned : (∃ m, op = .resumeAbandonedEnd m sessionId) ∨
      ∃ interaction ∈ past, ∃ before ∈ shown interaction,
        before.sessionId = sessionId ∧ before.status = .ending) :
    (resumeAbandonedEnd m sessionId).Keeps (discipline op) past fun _ _ => True := by
  refine keeps_require_bind ?_
  rintro session rfl
  refine keeps_teardown .student fun unfinished => ?_
  exact .resumed (List.suffix_refl _) (List.mem_singleton.mpr rfl) rfl unfinished abandoned

theorem keeps_endByOperator {m : Manager} {sessionId : String} {past : History}
    (ends : ∃ m, op = .endByOperator m sessionId) :
    (endByOperator m sessionId).Keeps (discipline op) past fun _ _ => True := by
  refine keeps_require_bind ?_
  rintro session rfl
  split
  · rename_i ending
    refine keeps_resumeAbandonedEnd (.inr ⟨_, List.mem_cons_self, session, ?_, rfl, ending⟩)
    exact List.mem_singleton.mpr rfl
  split
  · rename_i expiring
    refine keeps_teardown .platform fun _ => ?_
    exact .helped _ List.mem_cons_self (List.mem_singleton.mpr rfl) rfl expiring
  · exact keeps_teardown_deferring .platform List.mem_cons_self (List.mem_singleton.mpr rfl)
      (.inr ⟨ends, rfl, rfl⟩) fun isOver => .operator isOver

theorem keeps_reclaimFinishedSandbox {m : Manager} {sessionId : String} {past : History} :
    (reclaimFinishedSandbox m sessionId).Keeps (discipline op) past fun _ _ => True := by
  unfold reclaimFinishedSandbox
  rw [Prog.keeps_bind]
  refine keeps_quiet rfl ?_
  rintro (failure | _ | session) credible
  · trivial
  · trivial
  · cases (credible : session.sessionId = sessionId)
    rw [Prog.andThen_ok]
    dsimp only
    split
    · rename_i finished
      refine (keeps_destroyOf fun provider => .destroyFinished rfl finished).mono ?_
      exact fun _ _ _ => trivial
    · trivial

theorem keeps_finishTeardownOfLostStart {m : Manager} {sessionId : String} {past : History} :
    (finishTeardownOfLostStart m sessionId).Keeps (discipline op) past fun _ _ => True := by
  unfold finishTeardownOfLostStart
  rw [Prog.keeps_tryCatch, Prog.keeps_bind]
  refine keeps_quiet rfl ?_
  rintro (failure | _ | current) credible
  · trivial
  · trivial
  · cases (credible : current.sessionId = sessionId)
    rw [Prog.andThen_ok]
    dsimp only
    split
    · rename_i ending
      rw [Prog.keeps_bind]
      refine (keeps_resumeAbandonedEnd
        (.inr ⟨_, List.mem_cons_self, current, List.mem_singleton.mpr rfl, rfl, ending⟩)).mono ?_
      rintro (failure | _) after _ <;> trivial
    split
    · rename_i expiring
      rw [Prog.keeps_bind]
      refine (keeps_teardown .platform fun _ =>
        .helped _ List.mem_cons_self (List.mem_singleton.mpr rfl) rfl expiring).mono ?_
      rintro (failure | _) after _ <;> trivial
    · trivial

/-! ### Start -/

/-- A destroy whose outcome is only logged leaves at most its own answer on record. -/
theorem keeps_bestEffortDestroy {m : Manager} {session : LabSession} {past : History}
    (allowed : ∀ provider, Issued op past (.destroy provider (teardownContextFor session))) :
    (bestEffortDestroy m session).Keeps (discipline op) past fun outcome after =>
      outcome = .ok () ∧ ∃ cleanup, effects after = cleanup ++ effects past ∧
        ∀ done ∈ cleanup, ∃ answer, done = .destroyed (teardownContextFor session) answer := by
  unfold bestEffortDestroy providerFor
  rw [Prog.keeps_tryCatch, Prog.keeps_bind]
  split
  · rw [Prog.keeps_pure, Prog.andThen_ok, Prog.keeps_bind]
    refine keeps_await (allowed _) ?_
    rintro (failure | result) _
    · exact ⟨rfl, [.destroyed _ (.error failure)], effects_cons_some rfl, by simp⟩
    · exact ⟨rfl, [.destroyed _ (.ok result)], effects_cons_some rfl, by simp⟩
  · exact ⟨rfl, [], rfl, by simp⟩

/-- `#discardLostWork`, for a session the thread knows. -/
theorem keeps_discardLostWork {m : Manager} {session : LabSession} {past : History}
    (known : Known session.sessionId past) :
    (discardLostWork m session).Keeps (discipline op) past fun _ _ => True := by
  unfold discardLostWork
  rw [Prog.keeps_bind]
  refine keeps_quiet rfl ?_
  rintro (failure | current) credible
  · trivial
  rw [Prog.andThen_ok]
  split
  · rename_i owned
    refine (keeps_bestEffortDestroy fun provider => .destroyLost rfl ?_ known).mono ?_
    · rintro row rfl
      simpa using owned
    · exact fun _ _ _ => trivial
  · trivial

/-- `#failSession`, after a build that came back without a usable sandbox. -/
theorem keeps_failSession {m : Manager} {session : LabSession} {limits : CapacityLimits}
    {answer : Except Failure CreateResult} {reason : String} {past : History}
    (failed : effects past =
      [.created (teardownContextFor session) answer, .admitted session limits])
    (unusable : buildFailed answer = true) :
    (failSession m session reason).Keeps (discipline op) past fun _ _ => True := by
  unfold failSession
  rw [Prog.keeps_bind]
  refine (keeps_bestEffortDestroy fun provider => .destroyFailed failed unusable).mono ?_
  rintro _ cleaned ⟨rfl, cleanup, recorded, onlyCleanup⟩
  rw [Prog.andThen_ok, Prog.keeps_bind]
  refine keeps_quiet rfl ?_
  rintro (failure | endedAt) _
  · trivial
  rw [Prog.andThen_ok, Prog.keeps_bind]
  rw [failed] at recorded
  refine keeps_transition (fun stamp => ?_) (fun _ _ => trivial) ?_
  · exact .failStart ((effects_cons_none rfl).trans ((effects_cons_none rfl).trans recorded))
      unusable onlyCleanup
  · rintro stamp (_ | row) _
    · rw [Prog.andThen_ok, Prog.keeps_bind]
      refine keeps_quiet rfl ?_
      rintro (failure | current) _
      · trivial
      · exact keeps_finishTeardownOfLostStart
    · trivial

theorem keeps_closedDuringStart {sessionId : String} {past : History} :
    (closedDuringStart sessionId).Keeps (discipline op) past fun _ _ => True := by
  unfold closedDuringStart
  rw [Prog.keeps_bind]
  refine keeps_quiet rfl ?_
  rintro (failure | current) _ <;> trivial

/-- `#buildAdmitted`, once the provider answered that the sandbox stands. -/
theorem keeps_activateBuilt {m : Manager} {lab : Lab} {session : LabSession}
    {limits : CapacityLimits} {result : CreateResult} {past : History}
    (built : effects past =
      [.created (teardownContextFor session) (.ok result), .admitted session limits])
    (stands : result.ok = true) :
    (activateBuilt m lab session result).Keeps (discipline op) past fun _ _ => True := by
  unfold activateBuilt
  rw [Prog.keeps_bind]
  refine keeps_quiet rfl ?_
  rintro (failure | activeAt) _
  · trivial
  rw [Prog.andThen_ok, Prog.keeps_bind]
  have builtStill : ∀ stamp : Instant,
      effects (⟨.now, .ok stamp⟩ :: ⟨.now, .ok activeAt⟩ :: past) =
        [.created (teardownContextFor session) (.ok result), .admitted session limits] :=
    fun stamp => (effects_cons_none rfl).trans ((effects_cons_none rfl).trans built)
  refine keeps_transition (fun stamp => .activate (builtStill stamp) stands)
    (fun _ _ => trivial) ?_
  rintro stamp (_ | active) _
  · rw [Prog.andThen_ok, Prog.keeps_bind]
    refine (keeps_discardLostWork (.inl ⟨session, limits, ?_, rfl⟩)).mono ?_
    · rw [effects_cons_none rfl, builtStill]
      simp
    rintro (failure | _) discarded _
    · trivial
    rw [Prog.andThen_ok, Prog.keeps_bind]
    refine keeps_finishTeardownOfLostStart.mono ?_
    rintro (failure | _) finished _
    · trivial
    rw [Prog.andThen_ok, Prog.keeps_bind]
    refine keeps_closedDuringStart.mono ?_
    rintro (failure | conflict) after _ <;> trivial
  · rw [Prog.andThen_ok, Prog.keeps_bind, Prog.keeps_attempt]
    refine keeps_quiet rfl ?_
    rintro (failure | count) _ <;> trivial

theorem keeps_tellAdmitted {hooks : StartHooks} {session : LabSession} {past : History} :
    (tellAdmitted hooks session).Keeps (discipline op) past fun outcome after =>
      outcome = .ok () ∧ effects after = effects past := by
  unfold tellAdmitted
  split
  · rw [Prog.keeps_tryCatch]
    refine keeps_quiet rfl ?_
    rintro (failure | _) _
    · exact ⟨rfl, effects_cons_none rfl⟩
    · exact ⟨rfl, effects_cons_none rfl⟩
  · exact ⟨rfl, rfl⟩

theorem keeps_buildAdmitted {m : Manager} {lab : Lab} {session : LabSession}
    {limits : CapacityLimits} {hooks : StartHooks} {past : History}
    (first : effects past = [.admitted session limits]) :
    (buildAdmitted m lab session hooks).Keeps (discipline op) past fun _ _ => True := by
  unfold buildAdmitted
  rw [Prog.keeps_bind]
  refine keeps_tellAdmitted.mono ?_
  rintro _ told ⟨rfl, same⟩
  rw [Prog.andThen_ok, Prog.keeps_bind, Prog.keeps_attempt]
  rw [← same] at first
  refine keeps_await (.build first) ?_
  rintro (failure | result) _
  · rw [Prog.andThen_ok, Prog.keeps_bind]
    refine (keeps_failSession ((effects_cons_some rfl).trans (congrArg _ first)) rfl).mono ?_
    rintro (failure | _) after _ <;> trivial
  · rw [Prog.andThen_ok]
    dsimp only
    split
    · rename_i stands
      exact keeps_activateBuilt ((effects_cons_some rfl).trans (congrArg _ first)) stands
    · rename_i unusable
      rw [Prog.keeps_bind]
      refine (keeps_failSession ((effects_cons_some rfl).trans (congrArg _ first)) ?_).mono ?_
      · simpa [buildFailed] using unusable
      rintro (failure | _) after _ <;> trivial

/-- `#insertSession`'s loop: nothing is on record until the one admission. -/
theorem keeps_insertAttempts {m : Manager} {labId : String} {lab : Lab}
    {ownerUserId : Option String} {hooks : StartHooks} {createdAt : Instant} {attempts : Nat}
    {past : History} (starts : op = .start m labId ownerUserId hooks)
    (first : effects past = []) :
    (insertAttempts m lab ownerUserId (perOwnerLimit m.lifetimes hooks.ownerSessionLimit)
        createdAt attempts).Keeps (discipline op) past fun outcome after =>
      ∀ session, outcome = .ok session →
        ∃ limits, effects after = [.admitted session limits] := by
  induction attempts generalizing past with
  | zero => exact fun _ impossible => nomatch impossible
  | succ attempts ih =>
      unfold insertAttempts
      rw [Prog.keeps_bind]
      refine keeps_quiet rfl ?_
      rintro (failure | sessionId) _
      · exact fun _ impossible => nomatch impossible
      rw [Prog.andThen_ok, Prog.keeps_bind]
      refine keeps_quiet rfl ?_
      rintro (failure | _ | taken) _
      · exact fun _ impossible => nomatch impossible
      · rw [Prog.andThen_ok, Prog.keeps_bind]
        have nothingYet (ref : String) :
            effects (⟨.findBySandboxRef ref, .ok none⟩ :: ⟨.newSessionId, .ok sessionId⟩ :: past) =
              [] :=
          (effects_cons_none rfl).trans ((effects_cons_none rfl).trans first)
        refine keeps_await (.admission starts (nothingYet _) ?_) ?_
        · exact List.mem_cons_of_mem _ List.mem_cons_self
        rintro (failure | _ | _) _
        · exact fun _ impossible => nomatch impossible
        · rintro session ⟨⟩
          exact ⟨_, (effects_cons_some rfl).trans (congrArg _ (nothingYet _))⟩
        · exact fun _ impossible => nomatch impossible
      · exact ih ((effects_cons_none rfl).trans ((effects_cons_none rfl).trans first))

theorem keeps_probeTwice {provider : LabProviderId} {past : History} :
    (probeTwice provider).Keeps (discipline op) past fun _ after =>
      effects after = effects past := by
  unfold probeTwice
  rw [Prog.keeps_bind]
  refine keeps_quiet rfl ?_
  rintro (failure | first) _
  · exact effects_cons_none rfl
  rw [Prog.andThen_ok]
  split
  · refine keeps_quiet rfl ?_
    intro second _
    exact (effects_cons_none rfl).trans (effects_cons_none rfl)
  · exact effects_cons_none rfl

/-- `resolve` reads the registry and nothing else. -/
theorem keeps_resolve {m : Manager} {lab : Lab} {past : History} :
    (resolve m lab).Keeps (discipline op) past fun _ after => after = past := by
  unfold resolve
  split
  · rfl
  · split <;> rfl

theorem keeps_start {m : Manager} {labId : String} {ownerUserId : Option String}
    {hooks : StartHooks} {past : History} (starts : op = .start m labId ownerUserId hooks)
    (first : effects past = []) :
    (start m labId ownerUserId hooks).Keeps (discipline op) past fun _ _ => True := by
  unfold start
  rw [Prog.keeps_bind, Prog.keeps_settle]
  rcases m.registry labId with failure | lab
  · trivial
  rw [Prog.andThen_ok, Prog.keeps_bind]
  refine keeps_resolve.mono ?_
  rintro (failure | _) _ rfl
  · trivial
  rw [Prog.andThen_ok, Prog.keeps_bind]
  refine keeps_probeTwice.mono ?_
  rintro (failure | availability) probed same
  · trivial
  rw [Prog.andThen_ok]
  split
  · trivial
  rw [Prog.keeps_bind]
  refine keeps_quiet rfl ?_
  rintro (failure | stopping) _
  · trivial
  rw [Prog.andThen_ok]
  split
  · trivial
  rw [Prog.keeps_bind]
  unfold insertSession
  rw [Prog.keeps_bind]
  refine keeps_quiet rfl ?_
  rintro (failure | createdAt) _
  · trivial
  rw [Prog.andThen_ok]
  refine (keeps_insertAttempts starts ?_).mono ?_
  · exact (effects_cons_none rfl).trans ((effects_cons_none rfl).trans (same.trans first))
  rintro (failure | session) inserted recorded
  · trivial
  obtain ⟨limits, recorded⟩ := recorded session rfl
  rw [Prog.andThen_ok, Prog.keeps_bind]
  refine keeps_quiet rfl ?_
  rintro (failure | _) _
  · trivial
  rw [Prog.andThen_ok, Prog.keeps_ensure]
  refine (keeps_buildAdmitted ((effects_cons_none rfl).trans recorded)).mono ?_
  rintro outcome after _
  refine keeps_quiet rfl ?_
  rintro (failure | _) _
  · trivial
  · rw [Prog.andThen_ok, Prog.keeps_settle]
    trivial

/-! ### Activity and reset -/

theorem keeps_touchActivity {sessionId : String} {past : History} :
    (touchActivity sessionId).Keeps (discipline op) past fun _ _ => True := by
  unfold touchActivity
  rw [Prog.keeps_bind]
  refine keeps_quiet rfl ?_
  rintro (failure | atTime) _
  · trivial
  · exact keeps_quiet rfl fun _ _ => trivial

theorem Untried.cons {sessionId : String} {past : History} (untried : Untried sessionId past)
    {interaction : SessionInteraction}
    (harmless : releasesReset sessionId interaction.command = false) :
    Untried sessionId (interaction :: past) := by
  intro other member
  rcases List.mem_cons.mp member with rfl | old
  · exact harmless
  · exact untried other old

/-- The history went on by nothing but looking at the clock. -/
def OnlyClock (past after : History) : Prop :=
  past <:+ after ∧ effects after = effects past ∧
    ∀ sessionId, Untried sessionId past → Untried sessionId after

theorem OnlyClock.refl (past : History) : OnlyClock past past :=
  ⟨List.suffix_refl _, rfl, fun _ untried => untried⟩

theorem OnlyClock.now {past after : History} (still : OnlyClock past after)
    (answer : Except Failure Instant) : OnlyClock past (⟨.now, answer⟩ :: after) := by
  obtain ⟨suffix, same, untried⟩ := still
  refine ⟨suffix.trans (List.suffix_cons _ _), (effects_cons_none ?_).trans same, ?_⟩
  · cases answer <;> rfl
  · exact fun sessionId before => (untried sessionId before).cons rfl

theorem keeps_activityStamp {studentAction : Bool} {past : History} :
    (activityStamp studentAction).Keeps (discipline op) past fun outcome after =>
      OnlyClock past after ∧
        ∀ activity, outcome = .ok activity → activity.isSome = studentAction := by
  unfold activityStamp
  split
  · rename_i acts
    rw [Prog.keeps_bind]
    refine keeps_quiet rfl ?_
    rintro (failure | atTime) _
    · exact ⟨(OnlyClock.refl past).now _, fun _ impossible => nomatch impossible⟩
    · refine ⟨(OnlyClock.refl past).now _, ?_⟩
      rintro activity ⟨⟩
      exact acts.symm
  · rename_i idle
    refine ⟨.refl past, ?_⟩
    rintro activity ⟨⟩
    simpa using idle

/-- `#degrade`, fenced on somebody's claim. -/
theorem keeps_degrade {sessionId reason : String} {observed : Instant} {studentAction : Bool}
    {past : History} {post : Except Failure (Option LabSession) → History → Prop}
    (allowed : ∀ activity stamp after, OnlyClock past after →
      Option.isSome activity = studentAction →
      Issued op after (.transition sessionId [.resetting] .degraded
        { statusReason := some reason
          lastActivityAt := activity
          statusChangedAt := some stamp } { statusChangedAt := some observed }))
    (failed : ∀ failure after, post (.error failure) after)
    (missed : ∀ after, past <:+ after → post (.ok none) after)
    (moved : ∀ row after, post (.ok (some row)) after) :
    (degrade sessionId reason { statusChangedAt := some observed } studentAction).Keeps
      (discipline op) past post := by
  unfold degrade
  rw [Prog.keeps_bind]
  refine keeps_activityStamp.mono ?_
  rintro (failure | activity) after ⟨still, acts⟩
  · exact failed failure after
  rw [Prog.andThen_ok]
  refine keeps_transition (fun stamp => ?_) failed ?_
  · exact allowed activity stamp _ (still.now _) (acts activity rfl)
  · rintro stamp (_ | row) _
    · exact missed _ (still.1.trans ((List.suffix_cons _ _).trans (List.suffix_cons _ _)))
    · exact moved row _

theorem Known.of_suffix {sessionId : String} {past after : History}
    (known : Known sessionId past) (still : past <:+ after) : Known sessionId after := by
  rcases known with ⟨session, limits, admitted, named⟩ | ⟨read, member, row, isShown, named⟩
  · exact .inl ⟨session, limits, (effects_suffix still).subset admitted, named⟩
  · exact .inr ⟨read, still.subset member, row, isShown, named⟩

theorem keeps_resetConflict {sessionId : String} {past : History} :
    (resetConflict sessionId).Keeps (discipline op) past fun _ _ => True := by
  unfold resetConflict
  rw [Prog.keeps_bind]
  refine keeps_quiet rfl ?_
  rintro (failure | _ | current) _ <;> trivial

theorem keeps_resetLost {m : Manager} {session : LabSession} {past : History}
    (known : Known session.sessionId past) :
    (resetLost m session).Keeps (discipline op) past fun _ _ => True := by
  unfold resetLost
  rw [Prog.keeps_bind]
  refine (keeps_discardLostWork known).mono ?_
  rintro (failure | _) after _
  · trivial
  rw [Prog.andThen_ok, Prog.keeps_bind]
  refine keeps_resetConflict.mono ?_
  rintro (failure | conflict) after _ <;> trivial

theorem keeps_reattachShell {m : Manager} {session : LabSession} {past : History} :
    (reattachShell m session).Keeps (discipline op) past fun _ _ => True := by
  unfold reattachShell
  split
  · rw [Prog.keeps_tryCatch]
    refine keeps_quiet rfl ?_
    rintro (failure | _) _ <;> trivial
  · trivial

/-- `provider.reset`, right after the claim. -/
theorem keeps_resetSandbox {m m' : Manager} {lab : Lab} {session row : LabSession}
    {patch : SessionPatch} {guard : TransitionGuard} {past : History}
    (resets : op = .reset m' session.sessionId)
    (claimed : effects past =
      [.moved session.sessionId resettableStatuses .resetting patch guard row])
    (untried : Untried session.sessionId past) :
    (resetSandbox m lab session).Keeps (discipline op) past fun _ after =>
      past <:+ after ∧ Untried session.sessionId after ∧ ∃ rebuilt,
        effects after = rebuilt ++
          [.moved session.sessionId resettableStatuses .resetting patch guard row] ∧
        ∀ done ∈ rebuilt, ∃ context answer, done = .rebuilt context answer := by
  unfold resetSandbox providerFor
  rw [Prog.keeps_bind]
  split
  · rw [Prog.keeps_pure, Prog.andThen_ok]
    refine keeps_await (.rebuild resets claimed rfl untried) ?_
    intro answer _
    refine ⟨List.suffix_cons _ _, untried.cons rfl,
      [.rebuilt (teardownContextFor session) answer], ?_, by simp⟩
    exact (effects_cons_some rfl).trans (congrArg _ claimed)
  · exact ⟨List.suffix_refl _, untried, [], claimed, by simp⟩

/-- `#rebuild`, once the thread holds its claim. -/
theorem keeps_rebuild {m m' : Manager} {lab : Lab} {session row : LabSession}
    {patch : SessionPatch} {guard : TransitionGuard} {past : History}
    (resets : op = .reset m' session.sessionId)
    (claimed : effects past =
      [.moved session.sessionId resettableStatuses .resetting patch guard row])
    (untried : Untried session.sessionId past) (known : Known session.sessionId past) :
    (rebuild m lab session { statusChangedAt := some row.statusChangedAt }).Keeps (discipline op)
      past fun _ _ => True := by
  unfold rebuild
  rw [Prog.keeps_bind, Prog.keeps_attempt]
  refine (keeps_resetSandbox resets claimed untried).mono ?_
  rintro outcome tried ⟨still, untried, rebuilt, recorded, onlyRebuilt⟩
  have degrading : ∀ (reason : String) (activity : Option Instant) (stamp : Instant) after,
      OnlyClock tried after → activity.isSome = true →
      Issued op after (.transition session.sessionId [.resetting] .degraded
        { statusReason := some reason
          lastActivityAt := activity
          statusChangedAt := some stamp } { statusChangedAt := some row.statusChangedAt }) := by
    intro reason activity stamp after clocked acts
    obtain ⟨atTime, rfl⟩ := Option.isSome_iff_exists.mp acts
    exact .release resets (clocked.2.1.trans recorded) onlyRebuilt (clocked.2.2 _ untried) (.inr rfl)
  rcases outcome with failure | result
  · rw [Prog.andThen_ok, Prog.keeps_bind]
    refine keeps_degrade (degrading _) (fun _ _ => trivial) (fun after later => ?_) ?_
    · exact keeps_resetLost (known.of_suffix (still.trans later))
    · exact fun _ _ => trivial
  · rw [Prog.andThen_ok]
    dsimp only
    split
    · rw [Prog.keeps_bind]
      refine keeps_quiet rfl ?_
      rintro (failure | activeAt) _
      · trivial
      rw [Prog.andThen_ok, Prog.keeps_bind]
      refine keeps_transition (fun stamp => ?_) (fun _ _ => trivial) ?_
      · have clocked := ((OnlyClock.refl tried).now (.ok activeAt)).now (.ok stamp)
        exact .release resets (clocked.2.1.trans recorded) onlyRebuilt (clocked.2.2 _ untried)
          (.inl rfl)
      · rintro stamp (_ | updated) _
        · refine keeps_resetLost (known.of_suffix (still.trans ?_))
          exact (List.suffix_cons _ _).trans ((List.suffix_cons _ _).trans (List.suffix_cons _ _))
        · rw [Prog.andThen_ok, Prog.keeps_bind]
          refine keeps_reattachShell.mono ?_
          rintro (failure | _) after _ <;> trivial
    · rw [Prog.keeps_bind]
      refine keeps_degrade (degrading _) (fun _ _ => trivial) (fun after later => ?_) ?_
      · exact keeps_resetLost (known.of_suffix (still.trans later))
      · exact fun _ _ => trivial

theorem keeps_reset {m : Manager} {sessionId : String} (resets : op = .reset m sessionId) :
    (reset m sessionId).Keeps (discipline op) [] fun _ _ => True := by
  refine keeps_require_bind ?_
  rintro session rfl
  split
  · rw [Prog.keeps_bind]
    refine keeps_quiet rfl ?_
    rintro (failure | stopping) _
    · trivial
    rw [Prog.andThen_ok]
    split
    · trivial
    rw [Prog.keeps_bind, Prog.keeps_settle]
    rcases m.registry session.labId with failure | lab
    · trivial
    rw [Prog.andThen_ok, Prog.keeps_bind]
    refine keeps_quiet rfl ?_
    rintro (failure | pressedAt) _
    · trivial
    rw [Prog.andThen_ok, Prog.keeps_bind]
    have nothingYet (stamp : Instant) : effects (⟨.now, .ok stamp⟩ :: ⟨.now, .ok pressedAt⟩ ::
        ⟨.isStopping m.index, .ok stopping⟩ ::
          [⟨.get session.sessionId, .ok (some session)⟩]) = [] := rfl
    refine keeps_transition (fun stamp => .claimReset resets (nothingYet stamp))
      (fun _ _ => trivial) ?_
    rintro stamp (_ | claimed) _
    · rw [Prog.andThen_ok, Prog.keeps_bind]
      refine keeps_resetConflict.mono ?_
      rintro (failure | conflict) after _ <;> trivial
    · rw [Prog.andThen_ok, Prog.keeps_bind]
      refine keeps_quiet rfl ?_
      rintro (failure | _) _
      · trivial
      rw [Prog.andThen_ok, Prog.keeps_ensure]
      refine (keeps_rebuild resets ((effects_cons_none rfl).trans
        ((effects_cons_some rfl).trans (congrArg _ (nothingYet stamp)))) ?_ (.inr ?_)).mono ?_
      · simp [Untried, releasesReset, resettableStatuses]
      · exact ⟨⟨.get session.sessionId, .ok (some session)⟩, by simp, session,
          List.mem_singleton.mpr rfl, rfl⟩
      · intro outcome after _
        refine keeps_quiet rfl ?_
        rintro (failure | _) _
        · trivial
        · rw [Prog.andThen_ok, Prog.keeps_settle]
          trivial
  · trivial

theorem keeps_recoverInterruptedReset {observed : LabSession} {past : History}
    (platform : op.byPlatform = true) :
    (recoverInterruptedReset observed).Keeps (discipline op) past fun _ _ => True := by
  unfold recoverInterruptedReset
  split
  · exact keeps_degrade (fun _ _ _ _ _ => .recover platform) (fun _ _ => trivial)
      (fun _ _ => trivial) fun _ _ => trivial
  · trivial

theorem keeps_markSandboxStopped {observed : LabSession} {past : History} :
    (markSandboxStopped observed).Keeps (discipline op) past fun _ _ => True := by
  unfold markSandboxStopped
  split
  · exact keeps_transition (fun stamp => .stopped) (fun _ _ => trivial) fun _ _ _ => trivial
  · trivial

/-! ### Shutdown -/

theorem keeps_handOverStart {entry : InFlight} {past : History}
    (handsOver : op = .handOverStart entry) :
    (handOverStart entry).Keeps (discipline op) past fun _ _ => True := by
  unfold handOverStart
  rw [Prog.keeps_tryCatch, Prog.keeps_bind]
  exact keeps_transition (fun stamp => .handOver handsOver) (fun _ _ => trivial)
    fun _ _ _ => trivial

theorem keeps_handOverReset {entry : InFlight} {past : History}
    (platform : op.byPlatform = true) :
    (handOverReset entry).Keeps (discipline op) past fun _ _ => True := by
  unfold handOverReset
  rw [Prog.keeps_tryCatch, Prog.keeps_bind]
  exact keeps_degrade (fun _ _ _ _ _ => .recover platform) (fun _ _ => trivial)
    (fun _ _ => trivial) fun _ _ => trivial

theorem keeps_interruptInFlight {m : Manager} {past : History} :
    (interruptInFlight m).Keeps (discipline op) past fun _ _ => True := by
  unfold interruptInFlight
  rw [Prog.keeps_bind]
  refine keeps_quiet rfl ?_
  rintro (failure | _) _
  · trivial
  rw [Prog.andThen_ok, Prog.keeps_bind]
  refine keeps_quiet rfl ?_
  rintro (failure | starts) _
  · trivial
  rw [Prog.andThen_ok, Prog.keeps_bind]
  refine keeps_quiet rfl ?_
  rintro (failure | resets) _
  · trivial
  · exact keeps_quiet rfl fun _ _ => trivial

/-! ### Sweeps -/

theorem keeps_finish {result : SweepResult} {session : LabSession} {reason : SweepReason}
    {driven : SessionM TeardownResult} {past : History}
    (kept : driven.Keeps (discipline op) past fun _ _ => True) :
    (finish result session reason driven).Keeps (discipline op) past fun _ _ => True := by
  unfold finish
  rw [Prog.keeps_bind, Prog.keeps_attempt]
  refine kept.mono ?_
  rintro (failure | outcome) after _ <;> trivial

theorem keeps_recoverReset {result : SweepResult} {session : LabSession} {past : History}
    (platform : op.byPlatform = true) :
    (recoverReset result session).Keeps (discipline op) past fun _ _ => True := by
  unfold recoverReset
  rw [Prog.keeps_bind, Prog.keeps_attempt]
  refine (keeps_recoverInterruptedReset platform).mono ?_
  rintro (failure | _ | recovered) after _ <;> trivial

/-- One round of the session sweep, on a row the thread was shown. -/
theorem keeps_sweepSession {r : Reaper} {now : Instant} {result : SweepResult}
    {session : LabSession} {past : History} (sweeps : op = .sweep r)
    (seen : ∃ interaction ∈ past, session ∈ shown interaction) :
    (sweepSession r now result session).Keeps (discipline op) past fun _ _ => True := by
  have expires : op.expires = true := by
    rw [sweeps]
    rfl
  have platform : op.byPlatform = true := by
    rw [sweeps]
    rfl
  unfold sweepSession
  dsimp only
  split
  · trivial
  split
  · rename_i ending
    split
    · trivial
    · obtain ⟨interaction, member, isShown⟩ := seen
      exact keeps_finish (keeps_resumeAbandonedEnd
        (.inr ⟨interaction, member, session, isShown, rfl, ending⟩))
  split
  · exact keeps_finish (keeps_expire expires)
  split
  · exact keeps_recoverReset platform
  split
  · trivial
  · exact keeps_finish (keeps_expire expires)

theorem keeps_sweepSessions {r : Reaper} {result : SweepResult} {past : History}
    (sweeps : op = .sweep r) :
    (sweepSessions r result).Keeps (discipline op) past fun _ _ => True := by
  unfold sweepSessions
  rw [Prog.keeps_bind]
  refine keeps_quiet rfl ?_
  rintro (failure | now) _
  · trivial
  rw [Prog.andThen_ok, Prog.keeps_bind, Prog.keeps_attempt]
  refine keeps_quiet rfl ?_
  rintro (failure | sessions) _
  · trivial
  rw [Prog.andThen_ok]
  -- The listing stays in the history, so every round still knows where its row came from.
  let listed : SessionInteraction := ⟨.list, .ok sessions⟩
  refine (Prog.keeps_foldlM (fun past => listed ∈ past) ?_ _ ?_).mono ?_
  · intro state session member after still
    refine (keeps_sweepSession sweeps ⟨listed, still, member⟩).grows.mono ?_
    exact fun _ _ later => later.2.subset still
  · exact List.mem_cons_self
  · exact fun _ _ _ => trivial

/-- A loop whose rounds need nothing. -/
theorem keeps_loop {σ β : Type} {round : σ → β → SessionM σ} {items : List β}
    (kept : ∀ state, ∀ item ∈ items, ∀ past : History,
      (round state item).Keeps (discipline op) past fun _ _ => True)
    (state : σ) (past : History) :
    (items.foldlM round state).Keeps (discipline op) past fun _ _ => True :=
  Prog.keeps_foldlM (fun _ => True)
    (fun state item member past _ => kept state item member past) state trivial

theorem keeps_sweepOrphan {r : Reaper} {provider : LabProviderId} {sessions : List LabSession}
    {now : Instant} {result : SweepResult} {sandbox : ManagedSandbox} {past : History} :
    (sweepOrphan r provider sessions now result sandbox).Keeps (discipline op) past
      fun _ _ => True := by
  unfold sweepOrphan
  split
  · trivial
  split
  · trivial
  split
  · rw [Prog.keeps_bind]
    refine keeps_reclaimFinishedSandbox.mono ?_
    rintro (failure | outcome) after _ <;> trivial
  split
  · trivial
  split
  · trivial
  · rw [Prog.keeps_bind]
    refine keeps_quiet rfl ?_
    rintro (failure | outcome) _ <;> trivial

theorem keeps_sweepProvider {r : Reaper} {sessions : List LabSession} {now : Instant}
    {state : SweepResult × Phases} {provider : LabProviderId} {past : History} :
    (sweepProvider r sessions now state provider).Keeps (discipline op) past fun _ _ => True := by
  unfold sweepProvider
  rw [Prog.keeps_bind, Prog.keeps_attempt]
  refine keeps_quiet rfl ?_
  rintro (failure | managed) _
  · trivial
  rw [Prog.andThen_ok]
  dsimp only
  rw [Prog.keeps_bind]
  refine (keeps_loop (fun _ _ _ _ => keeps_sweepOrphan) _ _).mono ?_
  rintro (failure | result) after _ <;> trivial

theorem keeps_reconcileStoppedSandboxes {r : Reaper} {result : SweepResult}
    {sessions : List LabSession} {phases : Phases} {now : Instant} {past : History} :
    (reconcileStoppedSandboxes r result sessions phases now).Keeps (discipline op) past
      fun _ _ => True := by
  have round : ∀ (state : SweepResult) (session : LabSession) (past : History),
      (reconcileStopped state session).Keeps (discipline op) past fun _ _ => True := by
    intro state session past
    unfold reconcileStopped
    rw [Prog.keeps_bind, Prog.keeps_attempt]
    refine keeps_markSandboxStopped.mono ?_
    rintro (failure | _ | degraded) after _ <;> trivial
  unfold reconcileStoppedSandboxes
  rw [Prog.keeps_bind]
  refine keeps_quiet rfl ?_
  rintro (failure | lastSweep) _
  · trivial
  rw [Prog.andThen_ok, Prog.keeps_bind]
  refine (keeps_loop (fun state session _ past => round state session past) _ _).mono ?_
  rintro (failure | reconciled) after _
  · trivial
  rw [Prog.andThen_ok, Prog.keeps_bind]
  refine keeps_quiet rfl ?_
  rintro (failure | _) _ <;> trivial

theorem keeps_sweepOrphans {r : Reaper} {result : SweepResult} {past : History} :
    (sweepOrphans r result).Keeps (discipline op) past fun _ _ => True := by
  unfold sweepOrphans
  rw [Prog.keeps_bind]
  refine keeps_quiet rfl ?_
  rintro (failure | now) _
  · trivial
  rw [Prog.andThen_ok, Prog.keeps_bind, Prog.keeps_attempt]
  refine keeps_quiet rfl ?_
  rintro (failure | sessions) _
  · trivial
  rw [Prog.andThen_ok]
  dsimp only
  rw [Prog.keeps_bind]
  refine (keeps_loop (fun _ _ _ _ => keeps_sweepProvider) _ _).mono ?_
  rintro (failure | ⟨swept, phases⟩) after _
  · trivial
  · exact keeps_reconcileStoppedSandboxes

theorem keeps_sweepRetention {r : Reaper} {result : SweepResult} {past : History}
    (platform : op.byPlatform = true) :
    (sweepRetention r result).Keeps (discipline op) past fun _ _ => True := by
  have round : ∀ (now : Instant) (state : SweepResult) (session : LabSession) (past : History),
      (retireSession r now state session).Keeps (discipline op) past fun _ _ => True := by
    intro now state session past
    unfold retireSession
    split
    · trivial
    dsimp only
    split
    · trivial
    · rw [Prog.keeps_bind]
      refine keeps_await (.forget platform) ?_
      rintro (failure | _) _ <;> trivial
  unfold sweepRetention
  split
  · trivial
  rw [Prog.keeps_bind]
  refine keeps_quiet rfl ?_
  rintro (failure | now) _
  · trivial
  rw [Prog.andThen_ok, Prog.keeps_bind]
  refine keeps_quiet rfl ?_
  rintro (failure | sessions) _
  · trivial
  · exact keeps_loop (fun state session _ past => round now state session past) _ _

theorem keeps_sweep {r : Reaper} {past : History} (sweeps : op = .sweep r) :
    (sweep r).Keeps (discipline op) past fun _ _ => True := by
  unfold sweep
  rw [Prog.keeps_bind]
  refine keeps_quiet rfl ?_
  rintro (failure | sweeping) _
  · trivial
  rw [Prog.andThen_ok]
  split
  · trivial
  rw [Prog.keeps_ensure, Prog.keeps_bind]
  have afterwards : ∀ (outcome : Except Failure SweepResult) (done : History),
      (await (.endSweep r.index)).Keeps (discipline op) done
        (andThen (discipline op) (fun _ => settle outcome) fun _ _ => True) := by
    intro outcome done
    refine keeps_quiet rfl ?_
    rintro (failure | _) _
    · trivial
    · rw [Prog.andThen_ok, Prog.keeps_settle]
      trivial
  refine (keeps_sweepSessions sweeps).mono ?_
  rintro (failure | swept) done _
  · exact afterwards _ _
  rw [Prog.andThen_ok, Prog.keeps_bind]
  refine keeps_sweepOrphans.mono ?_
  rintro (failure | cleaned) done _
  · exact afterwards _ _
  rw [Prog.andThen_ok]
  have platform : op.byPlatform = true := by
    rw [sweeps]
    rfl
  refine (keeps_sweepRetention platform).mono ?_
  exact fun outcome done _ => afterwards outcome done

/-! ### Every operation -/

theorem keeps_forEffect {method : SessionM α} {past : History}
    (kept : method.Keeps (discipline op) past fun _ _ => True) :
    (forEffect method).Keeps (discipline op) past fun _ _ => True := by
  unfold forEffect
  rw [Prog.keeps_bind]
  refine kept.mono ?_
  rintro (failure | _) after _ <;> trivial

theorem keeps_onEarlierRead {sessionId : String} {act : LabSession → SessionM (Option LabSession)}
    {past : History}
    (kept : ∀ observed past, (act observed).Keeps (discipline op) past fun _ _ => True) :
    (onEarlierRead sessionId act).Keeps (discipline op) past fun _ _ => True := by
  unfold onEarlierRead
  rw [Prog.keeps_bind]
  refine keeps_quiet rfl ?_
  rintro (failure | _ | observed) _
  · trivial
  · trivial
  · rw [Prog.andThen_ok, Prog.keeps_bind]
    refine (kept observed _).mono ?_
    rintro (failure | _) after _ <;> trivial

/-! ### Check

A Check writes no status, calls no provider and tells no listener, whatever it reads. -/

theorem always_quiet {command : Cmd} (isFree : isQuiet command = true) :
    (await command).Always (discipline op) :=
  Prog.Always.perform fun _ => .quiet isFree

theorem always_require {sessionId : String} : (require sessionId).Always (discipline op) := by
  unfold require
  split
  · apply (always_quiet rfl).bind
    intro found
    cases found with
    | none => exact .throw _
    | some session => exact .pure session
  · exact .throw _

theorem always_touch {sessionId : String} : (touch sessionId).Always (discipline op) := by
  apply (always_quiet rfl).bind
  intro atTime
  apply (always_quiet rfl).bind
  intro touched
  cases touched with
  | none => exact always_quiet rfl
  | some row => exact .pure _

theorem always_recordVerdict {sessionId : String} {passed : Bool} :
    (recordVerdict sessionId passed).Always (discipline op) := by
  apply (always_quiet rfl).attempt.bind
  intro outcome
  rcases outcome with failure | (_ | _)
  · exact .pure ()
  · apply Prog.Always.bind
    · exact ((always_quiet rfl).bind fun _ => always_quiet rfl).attempt
    · exact fun _ => .pure ()
  · exact .pure ()

theorem always_runCheck {m : Manager} {session : LabSession} :
    (runCheck m session).Always (discipline op) := by
  apply (Prog.Always.settle _).bind
  intro lab
  apply always_touch.bind
  intro _
  apply (always_quiet rfl).bind
  intro result
  apply always_touch.bind
  intro now
  split
  · split
    · exact always_quiet rfl
    · exact (always_quiet rfl).bind fun _ => always_recordVerdict
  · exact always_quiet rfl

theorem always_check {m : Manager} {sessionId : String} :
    (check m sessionId).Always (discipline op) := by
  have reads : (requireActive m sessionId).Always (discipline op) := by
    apply always_require.bind
    intro session
    split
    · exact (Prog.Always.settle _).bind fun _ => .pure session
    · exact .throw _
  apply reads.attempt.bind
  intro outcome
  cases outcome with
  | error failure => exact always_quiet rfl
  | ok session =>
      apply (always_quiet rfl).bind
      intro running
      split
      · exact .pure ()
      · apply Prog.Always.ensure
        · exact always_runCheck.tryCatch fun failure => (always_quiet rfl).bind fun _ => .throw failure
        · exact always_quiet rfl

/-- Every operation keeps its discipline. -/
theorem body_keeps (op : SessionOp) :
    op.body.Keeps (discipline op) [] fun _ _ => True := by
  cases op with
  | start m labId ownerUserId hooks => exact keeps_forEffect (keeps_start rfl rfl)
  | reset m sessionId => exact keeps_forEffect (keeps_reset rfl)
  | touch sessionId => exact keeps_forEffect (always_touch _)
  | touchActivity sessionId => exact keeps_forEffect keeps_touchActivity
  | endSession m sessionId => exact keeps_forEffect (keeps_endSession ⟨m, rfl⟩)
  | expire m sessionId reason claimGuard => exact keeps_forEffect (keeps_expire rfl)
  | endByOperator m sessionId => exact keeps_forEffect (keeps_endByOperator ⟨m, rfl⟩)
  | resumeAbandonedEnd m sessionId =>
      exact keeps_forEffect (keeps_resumeAbandonedEnd (.inl ⟨m, rfl⟩))
  | recoverInterruptedReset sessionId =>
      exact keeps_onEarlierRead fun _ _ => keeps_recoverInterruptedReset rfl
  | markSandboxStopped sessionId => exact keeps_onEarlierRead fun _ _ => keeps_markSandboxStopped
  | reclaimFinishedSandbox m sessionId => exact keeps_forEffect keeps_reclaimFinishedSandbox
  | forget sessionId => exact keeps_await (.forget rfl) fun _ _ => trivial
  | interruptInFlight m => exact keeps_interruptInFlight
  | check m sessionId => exact always_check []
  | sweep r => exact keeps_forEffect (keeps_sweep rfl)
  | handOverStart entry => exact keeps_handOverStart rfl
  | handOverReset entry => exact keeps_handOverReset rfl

end JumptotechLabs.Session
