/-
Module: JumptotechLabs.Session.Reasons
Layer: Session (services/lab-orchestrator/src/session/manager.ts, reaper.ts)
Purpose: Why a session ended. The first teardown claim on a session gives it its reason; every later
  claim either repeats what it read of a teardown in flight, or is a student's End of an End. The
  exceptions are an expiry that claims a session somebody else is already expiring, and a
  `resumeAbandonedEnd` that was started on a session nobody was ending.
Main exports: firstClaim, KeepsReason, Reasoned, reasoned_of_reaches, one_closing_event
-/
import JumptotechLabs.Session.Closing

namespace JumptotechLabs.Session

open JumptotechLabs.Core

variable {allowed : SessionConfig → SessionMove → Prop} {clock : Instant}

/-! ### The first claim -/

/-- The statuses of a session a teardown has claimed, finished or not. -/
def isClosing (status : SessionStatus) : Bool :=
  isInFlight status || status == .ended || status == .expired

theorem not_closing_of_live {status : SessionStatus} (live : status ∈ liveStatuses) :
    isClosing status = false := by
  revert live
  cases status <;> decide

theorem TeardownPair.isClosing {inProgress done : SessionStatus}
    (pair : TeardownPair inProgress done) : isClosing done = true := by
  cases pair <;> rfl

/-- The reason of a teardown claim on the session, if the answered command was one. -/
def claimReason (sessionId : String) (interaction : SessionInteraction) : Option String :=
  match effect interaction with
  | some (.moved id _ target patch _ _) =>
      if id = sessionId ∧ isInFlight target = true then patch.statusReason else none
  | _ => none

/-- The reason of the first teardown claim on the session. -/
def firstClaim (sessionId : String) : Trace → Option String
  | [] => none
  | event :: earlier => (firstClaim sessionId earlier).or (claimReason sessionId event.2)

theorem firstClaim_cons_of_some {sessionId reason : String} {trace : Trace}
    {event : Nat × SessionInteraction} (first : firstClaim sessionId trace = some reason) :
    firstClaim sessionId (event :: trace) = some reason := by
  rw [firstClaim, first, Option.some_or]

theorem firstClaim_cons_of_none {sessionId : String} {trace : Trace}
    {event : Nat × SessionInteraction} (claimsNothing : claimReason sessionId event.2 = none) :
    firstClaim sessionId (event :: trace) = firstClaim sessionId trace := by
  rw [firstClaim, claimsNothing, Option.or_none]

theorem claimReason_of_elsewhere {sessionId : String} {interaction : SessionInteraction}
    (elsewhere : ∀ left, effect interaction = some left → ¬ left.writes sessionId) :
    claimReason sessionId interaction = none := by
  unfold claimReason
  cases left : effect interaction with
  | none => rfl
  | some done =>
      cases done with
      | moved id source target patch guard row =>
          exact if_neg fun claims => elsewhere _ left claims.1
      | _ => rfl

/-! ### The condition -/

/-- The teardowns that do not read the reason of the teardown they join: an expiry, and a
    `resumeAbandonedEnd` somebody calls directly. -/
def SessionOp.givesOwnReason : SessionOp → SessionStatus → Bool
  | .resumeAbandonedEnd _ _, .ending => true
  | op, .expiring => op.expires
  | _, _ => false

/-- Would this write claim a teardown that is already in flight under another reason? -/
def relabels (store : InMemorySessionStore) : Cmd → Bool
  | .transition sessionId source target patch guard =>
      (store.get sessionId).any fun row =>
        row.status == target && source.contains target &&
          InMemorySessionStore.meetsGuard guard row && patch.statusReason != row.statusReason
  | _ => false

/-- The status a write moves to. -/
def targetOf : Cmd → Option SessionStatus
  | .transition _ _ target _ _ => some target
  | _ => none

/-- Does this move leave the reason of a teardown in flight alone, as far as expiries and direct calls
    of `resumeAbandonedEnd` go? -/
def keepsReason (config : SessionConfig) : SessionMove → Bool
  | .resume thread .own =>
      match config.opOf thread, config.pending thread with
      | some op, some command =>
          !((targetOf command).any (SessionOp.givesOwnReason op) &&
            relabels config.world.store command)
      | _, _ => true
  | _ => true

/-- No expiry, and no direct call of `resumeAbandonedEnd`, claims a session that is already in that
    teardown with another reason than its own. -/
def KeepsReason (config : SessionConfig) (move : SessionMove) : Prop :=
  keepsReason config move = true

instance : DecidableRel KeepsReason := fun config move =>
  inferInstanceAs (Decidable (keepsReason config move = true))

theorem KeepsReason.same {config : SessionConfig} {thread : Nat} {op : SessionOp}
    {sessionId : String} {source : List SessionStatus} {target : SessionStatus}
    {patch : SessionPatch} {guard : TransitionGuard} {row : LabSession}
    (keeps : KeepsReason config (.resume thread .own)) (runs : config.opOf thread = some op)
    (claiming : config.pending thread = some (.transition sessionId source target patch guard))
    (own : op.givesOwnReason target = true) (found : rowOf config sessionId = some row)
    (joins : row.status = target) (claimable : row.status ∈ source)
    (guarded : InMemorySessionStore.meetsGuard guard row = true) :
    patch.statusReason = row.statusReason := by
  unfold rowOf at found
  subst joins
  simpa [KeepsReason, keepsReason, runs, claiming, targetOf, own, relabels, found, claimable,
    guarded] using keeps

/-! ### The reason stays -/

/-- The row carries the reason of the first claim on its session. -/
def CarriesFirst (sessionId : String) (trace : Trace) (row : LabSession) : Prop :=
  ∃ reason, row.statusReason = some reason ∧ firstClaim sessionId trace = some reason

theorem CarriesFirst.cons {sessionId : String} {trace : Trace} {row : LabSession}
    (carries : CarriesFirst sessionId trace row) (event : Nat × SessionInteraction) :
    CarriesFirst sessionId (event :: trace) row := by
  obtain ⟨reason, isReason, first⟩ := carries
  exact ⟨reason, isReason, firstClaim_cons_of_some first⟩

/-- Rows that carry the first claim's reason carry the same reason. -/
theorem CarriesFirst.eq {sessionId : String} {trace : Trace} {row other : LabSession}
    (carries : CarriesFirst sessionId trace row) (carries' : CarriesFirst sessionId trace other) :
    row.statusReason = other.statusReason := by
  obtain ⟨reason, isReason, first⟩ := carries
  obtain ⟨reason', isReason', first'⟩ := carries'
  rw [first] at first'
  cases first'
  rw [isReason, isReason']

/-- What the first claim on a session says about its row, and about every row of it that was shown. -/
structure Reasoned (sessionId : String) (world : World) (trace : Trace) : Prop where
  admitted : firstClaim sessionId trace ≠ none → Admitted sessionId trace
  unclaimed : ∀ row, world.store.get sessionId = some row → isClosing row.status = false →
    firstClaim sessionId trace = none
  carried : ∀ row, world.store.get sessionId = some row → isClosing row.status = true →
    CarriesFirst sessionId trace row
  student : ∀ row, world.store.get sessionId = some row → row.status = .ending →
    row.statusReason = some studentEndReason
  seen : ∀ thread interaction row, (thread, interaction) ∈ trace → row ∈ shown interaction →
    row.sessionId = sessionId → isClosing row.status = true → CarriesFirst sessionId trace row

/-- An End that is resumed was ENDING when it was read again. -/
theorem ending_of_resumed {config : SessionConfig} (run : Reaches allowed (boot clock) config)
    {thread : Nat} {interaction : SessionInteraction} {earlier : History} {row : LabSession}
    (read : (interaction :: earlier) <:+ own thread config.trace) (isShown : row ∈ shown interaction)
    (unfinished : isTerminalStatus row.status = false)
    (wasEnding : ∃ interaction ∈ earlier, ∃ before ∈ shown interaction,
      before.sessionId = row.sessionId ∧ before.status = .ending) : row.status = .ending := by
  obtain ⟨later, split⟩ := read
  obtain ⟨laterTrace, earlierTrace, traceSplit, isEarlier⟩ := own_split split.symm
  obtain ⟨first, second, op, reply, reached, _, happened, isTrace, step, rest⟩ :=
    run.moment traceSplit
  obtain ⟨before, member, seen, wasShown, named, ending⟩ := wasEnding
  rw [← isEarlier, ← isTrace] at member
  have still := happened.trace_grows.subset (mem_own.mp member)
  have stored : rowOf second seen.sessionId = some row := by
    rw [named]
    exact shown_stored happened.responded isShown
  have onward := ((seen_moves_on (reached.trans step) still wasShown).2 row stored).1
  rw [ending] at onward
  rcases List.mem_pair.mp onward with isEnding | ended
  · exact isEnding
  · rw [ended] at unfinished
    cases unfinished

/-- The reason of a claim: on a session nobody has claimed it is the claim's own, on a teardown in
    flight it is the one the row carries; and an End is always the student's. -/
theorem reason_of_claim {before after : SessionConfig} {thread : Nat} {op : SessionOp}
    {reply : Reply} {sessionId : String} {source : List SessionStatus} {target : SessionStatus}
    {patch : SessionPatch} {guard : TransitionGuard} {current row : LabSession}
    (run : Reaches KeepsReason (boot clock) before)
    (keeps : KeepsReason before (.resume thread reply))
    (happened : Answered before after thread op reply
      ⟨.transition sessionId source target patch guard, .ok (some row)⟩)
    (inFlight : isInFlight target = true) (reasoned : Reasoned sessionId before.world before.trace)
    (found : rowOf before sessionId = some current) (claimable : current.status ∈ source)
    (guarded : InMemorySessionStore.meetsGuard guard current = true) :
    ∃ reason, patch.statusReason = some reason ∧
      (isClosing current.status = true → current.statusReason = some reason) ∧
      (target = .ending → reason = studentEndReason) := by
  have issued := issued_when_answered run happened
  cases own_of_moved happened.responded
  have pending := happened.pending
  have seenReason : ∀ {interaction row} {fallback : String}, interaction ∈ own thread before.trace →
      row ∈ shown interaction → row.sessionId = sessionId → isClosing row.status = true →
        isClosing current.status = true →
          current.statusReason = some (row.statusReason.getD fallback) := by
    intro interaction row fallback member isShown named closing closing'
    have carries := reasoned.seen thread interaction row (mem_own.mp member) isShown named closing
    rw [(reasoned.carried current found closing').eq carries]
    obtain ⟨reason, isReason, first⟩ := carries
    rw [isReason]
    rfl
  cases issued with
  | quiet isFree => cases isFree
  | activate built stands => cases inFlight
  | failStart failed unusable onlyCleanup => cases inFlight
  | claimReset resets first => cases inFlight
  | release resets claimed onlyRebuilt untried releases =>
      rcases releases with rfl | rfl
      · cases inFlight
      · cases inFlight
  | recover platform => cases inFlight
  | stopped => cases inFlight
  | handOver handsOver =>
      refine ⟨_, rfl, fun closing => ?_, fun impossible => nomatch impossible⟩
      rw [List.mem_singleton.mp claimable] at closing
      cases closing
  | defer defers =>
      refine ⟨_, rfl, fun closing => ?_, fun isEnding => ?_⟩
      · rw [List.mem_singleton.mp claimable] at closing
        cases closing
      · rcases defers with ⟨_, _, rfl⟩ | ⟨_, isExpiring, _⟩
        · rfl
        · rw [isEnding] at isExpiring
          cases isExpiring
  | claim claims =>
      cases claims with
      | student isOver =>
          refine ⟨_, rfl, fun closing => ?_, fun _ => rfl⟩
          refine reasoned.student current found ?_
          revert claimable closing
          cases current.status <;> decide
      | expiry reason claimGuard expires =>
          refine ⟨_, rfl, fun closing => ?_, fun impossible => nomatch impossible⟩
          have isExpiring : current.status = .expiring := by
            revert claimable closing
            cases current.status <;> decide
          have own : op.givesOwnReason .expiring = true := by
            cases op <;> exact expires
          exact (keeps.same happened.opOf pending own found isExpiring claimable guarded).symm
      | operator isOver =>
          refine ⟨_, rfl, fun closing => ?_, fun impossible => nomatch impossible⟩
          rw [not_closing_of_live claimable] at closing
          cases closing
      | @resumed read earlier row isRead isShown named unfinished abandoned =>
          have isEnding := List.mem_singleton.mp claimable
          have reasonOf : current.statusReason = some (row.statusReason.getD studentEndReason) := by
            rcases abandoned with ⟨m, rfl⟩ | wasEnding
            · exact (keeps.same happened.opOf pending rfl found isEnding claimable guarded).symm
            · rw [← named] at wasEnding
              have ending := ending_of_resumed run isRead isShown unfinished wasEnding
              refine seenReason (isRead.subset List.mem_cons_self) isShown named ?_ ?_
              · rw [ending]
                rfl
              · rw [isEnding]
                rfl
          refine ⟨_, rfl, fun _ => reasonOf, fun _ => ?_⟩
          rw [reasoned.student current found isEnding] at reasonOf
          exact (Option.some.inj reasonOf).symm
      | helped fallback isRead isShown named expiring =>
          refine ⟨_, rfl, fun closing => ?_, fun impossible => nomatch impossible⟩
          refine seenReason isRead isShown named ?_ closing
          rw [expiring]
          rfl
  | finish destroyed gone pair reasoned => cases pair <;> cases inFlight

/-- The reason a teardown records at its end is the one of its own claim, which its thread was shown. -/
theorem reason_of_ending {before : SessionConfig} {thread : Nat} {op : SessionOp}
    {sessionId : String} {source : List SessionStatus} {target : SessionStatus}
    {patch : SessionPatch} {guard : TransitionGuard} (run : Reaches allowed (boot clock) before)
    (issued : Issued op (own thread before.trace)
      (.transition sessionId source target patch guard))
    (ends : target = .ended ∨ target = .expired) :
    ∃ inProgress interaction row, TeardownPair inProgress target ∧ source = [inProgress] ∧
      interaction ∈ own thread before.trace ∧ row ∈ shown interaction ∧
      row.sessionId = sessionId ∧ row.status = inProgress ∧
      ∃ reason, patch.statusReason = some reason ∧ row.statusReason = some reason := by
  cases issued with
  | quiet isFree => cases isFree
  | @finish row _ claimable inProgress _ claimPatch claimGuard _ _ _ _ destroyed gone pair
      reasoned =>
      have recorded : Effect.moved row.sessionId claimable inProgress claimPatch claimGuard row ∈
          effects (own thread before.trace) := by
        rw [destroyed]
        exact List.mem_cons_of_mem _ List.mem_cons_self
      obtain ⟨interaction, member, left⟩ := mem_effects.mp recorded
      cases command_of_moved left
      obtain ⟨named, isStatus, reasons⟩ := credible_of_trace run (mem_own.mp member)
      exact ⟨_, _, _, pair, rfl, member, List.mem_singleton.mpr rfl, rfl, isStatus, _, rfl,
        reasons _ reasoned⟩
  | release resets claimed onlyRebuilt untried releases =>
      rcases ends with rfl | rfl <;> rcases releases with impossible | impossible <;>
        cases impossible
  | defer defers =>
      rcases ends with rfl | rfl <;> rcases defers with ⟨_, impossible, _⟩ | ⟨_, impossible, _⟩ <;>
        cases impossible
  | claim claims =>
      rcases ends with rfl | rfl <;> cases claims
  | _ => rcases ends with impossible | impossible <;> cases impossible

/-- The step lemma: an answer to any thread keeps the first claim's reason on the row. -/
theorem reasoned_step {before after : SessionConfig} {thread : Nat} {op : SessionOp}
    {reply : Reply} {interaction : SessionInteraction} {sessionId : String}
    (run : Reaches KeepsReason (boot clock) before)
    (keeps : KeepsReason before (.resume thread reply))
    (happened : Answered before after thread op reply interaction)
    (reasoned : Reasoned sessionId before.world before.trace) :
    Reasoned sessionId after.world after.trace := by
  have issued := issued_when_answered run happened
  -- What is new about the row decides; what was shown before stays as it was.
  have fromRow : (firstClaim sessionId after.trace ≠ none → Admitted sessionId after.trace) →
      (∀ row, after.world.store.get sessionId = some row →
        (isClosing row.status = false → firstClaim sessionId after.trace = none) ∧
          (isClosing row.status = true → CarriesFirst sessionId after.trace row) ∧
          (row.status = .ending → row.statusReason = some studentEndReason)) →
        Reasoned sessionId after.world after.trace := by
    intro admitted rows
    refine ⟨admitted, fun row found => (rows row found).1, fun row found => (rows row found).2.1,
      fun row found => (rows row found).2.2, ?_⟩
    intro other read row member isShown named closing
    rw [happened.recorded] at member
    rcases List.mem_cons.mp member with isNew | old
    · cases isNew
      have stored := shown_stored happened.responded isShown
      rw [named] at stored
      exact (rows row stored).2.1 closing
    · rw [happened.recorded]
      exact (reasoned.seen other read row old isShown named closing).cons _
  have step := row_step happened.responded sessionId
  generalize left : effect interaction = done at step
  generalize stored : before.world.store.get sessionId = old at step
  generalize stored' : after.world.store.get sessionId = new at step
  -- Commands that claim no teardown of this session.
  have noClaim : claimReason sessionId interaction = none →
      firstClaim sessionId after.trace = firstClaim sessionId before.trace := by
    intro claimsNothing
    rw [happened.recorded]
    exact firstClaim_cons_of_none claimsNothing
  have stillAdmitted : firstClaim sessionId after.trace = firstClaim sessionId before.trace →
      firstClaim sessionId after.trace ≠ none → Admitted sessionId after.trace := by
    intro same first
    rw [same] at first
    exact (reasoned.admitted first).of_suffix happened.trace_grows
  have sameCarries : ∀ {row row'}, firstClaim sessionId after.trace =
      firstClaim sessionId before.trace → row'.statusReason = row.statusReason →
        CarriesFirst sessionId before.trace row → CarriesFirst sessionId after.trace row' := by
    intro row row' same sameReason carries
    obtain ⟨reason, isReason, first⟩ := carries
    exact ⟨reason, sameReason.trans isReason, same.trans first⟩
  cases step with
  | kept elsewhere =>
      rw [← left] at elsewhere
      have same := noClaim (claimReason_of_elsewhere elsewhere)
      apply fromRow (stillAdmitted same)
      intro row found
      rw [stored', ← stored] at found
      refine ⟨fun open' => same.trans (reasoned.unclaimed row found open'), fun closing => ?_,
        reasoned.student row found⟩
      exact sameCarries same rfl (reasoned.carried row found closing)
  | inserted uid named isRow =>
      cases command_of_admitted left
      have isNew := not_admitted_again run issued
      rw [named] at isNew
      have unclaimed : firstClaim sessionId before.trace = none := by
        by_contra first
        exact isNew (reasoned.admitted first)
      have same := noClaim rfl
      apply fromRow (stillAdmitted same)
      intro row found
      rw [stored'] at found
      cases found
      obtain ⟨_, _, _, _, _, _, _, _, _, isCandidate, _⟩ := issued.of_createWithinLimits
      rw [isRow, isCandidate]
      exact ⟨fun _ => same.trans unclaimed, fun impossible => (nomatch impossible),
        fun impossible => (nomatch impossible)⟩
  | @touched current row' atTime active written =>
      have same : firstClaim sessionId after.trace = firstClaim sessionId before.trace := by
        apply noClaim
        simp only [claimReason, left]
      apply fromRow (stillAdmitted same)
      intro row found
      rw [stored'] at found
      cases found
      have sameStatus : row'.status = current.status := by rw [written]
      have sameReason : row'.statusReason = current.statusReason := by rw [written]
      rw [sameStatus, sameReason]
      refine ⟨fun open' => same.trans (reasoned.unclaimed current stored open'), fun closing => ?_,
        reasoned.student current stored⟩
      exact sameCarries same sameReason (reasoned.carried current stored closing)
  | deleted =>
      have same : firstClaim sessionId after.trace = firstClaim sessionId before.trace := by
        apply noClaim
        simp only [claimReason, left]
      apply fromRow (stillAdmitted same)
      intro row found
      rw [stored'] at found
      cases found
  | @moved source target patch guard current row' claimable guarded written =>
      cases command_of_moved left
      have isTarget : row'.status = target := by
        rw [written]
        rfl
      have reasonOf : ∀ reason, patch.statusReason = some reason →
          row'.statusReason = some reason := by
        intro reason isReason
        rw [written]
        simp [SessionPatch.apply, InMemorySessionStore.transitionPatch, isReason]
      have admitted : Admitted sessionId after.trace :=
        (stored_admitted run stored).of_suffix happened.trace_grows
      apply fromRow (fun _ => admitted)
      intro row found
      rw [stored'] at found
      cases found
      rw [isTarget]
      by_cases inFlight : isInFlight target = true
      · -- A claim: the first one, or one that repeats the reason the row carries.
        obtain ⟨reason, isReason, repeats, student⟩ :=
          reason_of_claim run keeps happened inFlight reasoned stored claimable guarded
        have first : firstClaim sessionId after.trace = some reason := by
          rw [happened.recorded]
          cases closing : isClosing current.status with
          | true =>
              obtain ⟨reason', isReason', first⟩ := reasoned.carried current stored closing
              rw [repeats closing] at isReason'
              cases isReason'
              exact firstClaim_cons_of_some first
          | false =>
              rw [firstClaim, reasoned.unclaimed current stored closing, Option.none_or]
              simp [claimReason, effect, inFlight, isReason]
        have closing : isClosing target = true := by
          rw [isClosing, inFlight]
          rfl
        refine ⟨fun impossible => ?_, fun _ => ⟨reason, reasonOf reason isReason, first⟩,
          fun isEnding => ?_⟩
        · rw [closing] at impossible
          cases impossible
        · rw [← student isEnding]
          exact reasonOf reason isReason
      · have same : firstClaim sessionId after.trace = firstClaim sessionId before.trace := by
          apply noClaim
          simp [claimReason, effect, inFlight]
        have notEnding : target ≠ .ending := by
          rintro rfl
          exact inFlight rfl
        by_cases ends : target = .ended ∨ target = .expired
        · -- The ending carries the reason of its own claim, which the row carried.
          obtain ⟨inProgress, read, marked, pair, rfl, member, isShown, named, isStatus, reason,
            isReason, markedReason⟩ := reason_of_ending run issued ends
          have closing : isClosing marked.status = true := by
            rw [isStatus]
            cases pair <;> rfl
          have carries := reasoned.seen thread read marked (mem_own.mp member) isShown named closing
          refine ⟨fun impossible => ?_, fun _ => ?_, fun isEnding => absurd isEnding notEnding⟩
          · rcases ends with rfl | rfl
            · cases impossible
            · cases impossible
          · exact sameCarries same ((reasonOf reason isReason).trans markedReason.symm) carries
        · have open' : isClosing current.status = false := by
            have onward := (issued_moves_on issued).1 current.status claimable
            revert onward inFlight ends
            cases current.status <;> cases target <;> decide
          have closes : isClosing target = false := by
            revert inFlight ends
            cases target <;> decide
          refine ⟨fun _ => same.trans (reasoned.unclaimed current stored open'),
            fun impossible => ?_, fun isEnding => absurd isEnding notEnding⟩
          rw [closes] at impossible
          cases impossible

/-- The run lemma. -/
theorem reasoned_of_reaches {config : SessionConfig} (run : Reaches KeepsReason (boot clock) config)
    (sessionId : String) : Reasoned sessionId config.world config.trace := by
  refine Reaches.keeps_state (Reasoned sessionId)
    (fun _ _ _ kept => ⟨kept.admitted, kept.unclaimed, kept.carried, kept.student, kept.seen⟩)
    (fun before after thread op reply interaction reached keeps happened =>
      reasoned_step reached keeps happened)
    (.refl : Reaches KeepsReason (boot clock) (boot clock)) run ?_
  have noRow : ∀ row, (boot clock).world.store.get sessionId ≠ some row :=
    fun row impossible => nomatch impossible
  exact ⟨fun impossible => absurd rfl impossible, fun row found => absurd found (noRow row),
    fun row found => absurd found (noRow row), fun row found => absurd found (noRow row),
    fun _ _ _ member => absurd member List.not_mem_nil⟩

/-! ### One closing event -/

/-- The thread has called the listener with the event, or is in that call. -/
def TellsClosed (config : SessionConfig) (thread : Nat) (event : SessionClosedEvent) : Prop :=
  config.pending thread = some (.onSessionClosed event) ∨
    ∃ answer, (thread, ⟨.onSessionClosed event, answer⟩) ∈ config.trace

/-- Who tells the listener has recorded the ending, with the status and the reason it tells. -/
theorem closing_event_recorded {config : SessionConfig} {thread : Nat} {event : SessionClosedEvent}
    (run : Reaches allowed (boot clock) config) (tells : TellsClosed config thread event) :
    ∃ inProgress patch row, TeardownPair inProgress event.status ∧
      (thread, ⟨.transition event.sessionId [inProgress] event.status patch {}, .ok (some row)⟩) ∈
        config.trace ∧
      row.sessionId = event.sessionId ∧ row.status = event.status ∧
      row.statusReason = some event.reason := by
  have underWay : ∀ {now : SessionConfig}, Reaches allowed (boot clock) now →
      now.pending thread = some (.onSessionClosed event) →
        ∃ inProgress patch row, TeardownPair inProgress event.status ∧
          (thread, ⟨.transition event.sessionId [inProgress] event.status patch {},
            .ok (some row)⟩) ∈ now.trace ∧
          row.sessionId = event.sessionId ∧ row.status = event.status ∧
          row.statusReason = some event.reason := by
    intro now reached pending
    obtain ⟨op, _, issued⟩ := issued_when_pending reached pending
    obtain ⟨row, inProgress, patch, earlier, recorded, pair, reasoned⟩ := issued.of_onSessionClosed
    have member : Effect.moved event.sessionId [inProgress] event.status patch {} row ∈
        effects (own thread now.trace) := by
      rw [recorded]
      exact List.mem_cons_self
    obtain ⟨interaction, inOwn, left⟩ := mem_effects.mp member
    cases command_of_moved left
    obtain ⟨named, isStatus, reasons⟩ := credible_of_trace reached (mem_own.mp inOwn)
    exact ⟨inProgress, patch, row, pair, mem_own.mp inOwn, named, isStatus, reasons _ reasoned⟩
  rcases tells with pending | ⟨answer, member⟩
  · exact underWay run pending
  · obtain ⟨later, earlier, split⟩ := List.append_of_mem member
    obtain ⟨before, after, op, reply, reached, _, happened, _, step, rest⟩ := run.moment split
    obtain ⟨inProgress, patch, row, pair, recorded, facts⟩ := underWay reached happened.pending
    exact ⟨inProgress, patch, row, pair, (step.trans rest).trace_extends.subset recorded, facts⟩

/-- One closing event. In every run the listener is called at most once for a session, by the thread
    whose write recorded the ending, with the status and the reason of that write. In every run in which
    no expiry and no direct `resumeAbandonedEnd` joins a teardown in flight under another reason, the
    reason told, and the one on a row that is being torn down or is finished, is that of the first
    teardown claim. -/
theorem one_closing_event (config : SessionConfig) :
    (Reaches anyMove (boot clock) config →
      (∀ sessionId, closingCalls sessionId config ≤ 1) ∧
        ∀ thread event, TellsClosed config thread event →
          ∃ inProgress patch row, TeardownPair inProgress event.status ∧
            (thread, ⟨.transition event.sessionId [inProgress] event.status patch {},
              .ok (some row)⟩) ∈ config.trace ∧
            row.sessionId = event.sessionId ∧ row.status = event.status ∧
            row.statusReason = some event.reason) ∧
      (Reaches KeepsReason (boot clock) config →
        (∀ thread event, TellsClosed config thread event →
          firstClaim event.sessionId config.trace = some event.reason) ∧
        ∀ sessionId row, rowOf config sessionId = some row → isClosing row.status = true →
          row.statusReason = firstClaim sessionId config.trace) := by
  constructor
  · intro run
    exact ⟨closing_calls_le_one run, fun thread event tells => closing_event_recorded run tells⟩
  · intro run
    constructor
    · intro thread event tells
      obtain ⟨inProgress, patch, row, pair, recorded, named, isStatus, isReason⟩ :=
        closing_event_recorded run tells
      have closing : isClosing row.status = true := by
        rw [isStatus]
        exact pair.isClosing
      obtain ⟨reason, isReason', first⟩ := (reasoned_of_reaches run event.sessionId).seen thread _
        row recorded (List.mem_singleton.mpr rfl) named closing
      rw [isReason] at isReason'
      cases isReason'
      exact first
    · intro sessionId row found closing
      obtain ⟨reason, isReason, first⟩ :=
        (reasoned_of_reaches run sessionId).carried row found closing
      rw [isReason, first]

/-- A student ends an ACTIVE session; the ending is recorded and thread 1 is telling the listener. -/
def quietEnd : SessionConfig :=
  (boot 0).after KeepsReason (startUntilActive "sess-0000001" ++
    ([.spawn (.endSession (labInstance 0) "sess-0000001")] : List SessionMove) ++ goOn 1 3 ++
    ([.resume 1 (.destroyed sandboxGone)] : List SessionMove) ++ goOn 1 3)

/-- What it tells. -/
def quietEndEvent : SessionClosedEvent where
  sessionId := "sess-0000001"
  labId := "lab-1"
  provider := .linux
  status := .ended
  reason := "ended by student"

theorem one_closing_event_quietEnd :
    TellsClosed quietEnd 1 quietEndEvent ∧ closingCalls "sess-0000001" quietEnd ≤ 1 ∧
      firstClaim "sess-0000001" quietEnd.trace = some "ended by student" := by
  have run : Reaches KeepsReason (boot 0) quietEnd := Config.reaches_after (by decide)
  have tells : TellsClosed quietEnd 1 quietEndEvent := .inl (by decide)
  have everyRun := (one_closing_event quietEnd).1 (run.weaken fun _ _ _ => trivial)
  exact ⟨tells, everyRun.1 "sess-0000001", ((one_closing_event quietEnd).2 run).1 1 _ tells⟩

/-- A session has reached its absolute lifetime. Thread 1, a sweep, has listed it as ACTIVE; thread 2, an
    operator's end, claims it; then the sweep claims it as well, finishes and tells the listener. -/
def relabelledExpiry : SessionConfig :=
  (boot 0).after anyMove (startUntilActive "sess-0000001" ++
    ([.evolve (7200000 : Nat), .spawn (.sweep labReaper)] : List SessionMove) ++ goOn 1 3 ++
    ([.spawn (.endByOperator (labInstance 0) "sess-0000001")] : List SessionMove) ++ goOn 2 3 ++ goOn 1 3 ++
    ([.resume 1 (.destroyed sandboxGone)] : List SessionMove) ++ goOn 1 3)

/-- What it tells. -/
def relabelledExpiryEvent : SessionClosedEvent where
  sessionId := "sess-0000001"
  labId := "lab-1"
  provider := .linux
  status := .expired
  reason := "absolute session lifetime reached"

/-- Without the condition a raced expiry relabels the session: the first claim said
    "ended by operator". -/
theorem expiry_relabels_operator_end :
    ¬ ∀ (clock : Instant) (config : SessionConfig), Reaches anyMove (boot clock) config →
      ∀ (thread : Nat) (event : SessionClosedEvent), TellsClosed config thread event →
        firstClaim event.sessionId config.trace = some event.reason := by
  intro keeps
  have run : Reaches anyMove (boot 0) relabelledExpiry := Config.reaches_after (by decide)
  have tells : TellsClosed relabelledExpiry 1 relabelledExpiryEvent := .inl (by decide)
  have told := keeps 0 relabelledExpiry run 1 relabelledExpiryEvent tells
  have first : firstClaim "sess-0000001" relabelledExpiry.trace = some "ended by operator" := by
    decide
  have differ := first.symm.trans told
  revert differ
  decide

end JumptotechLabs.Session
