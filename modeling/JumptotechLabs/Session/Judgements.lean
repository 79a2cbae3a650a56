/-
Module: JumptotechLabs.Session.Judgements
Layer: Session (services/lab-orchestrator/src/session/reaper.ts, manager.ts, store.ts)
Purpose: A sweep acts on a list that may be minutes old. An idle session is expired behind a fence on
  the activity that was judged, an abandoned start behind one on the CREATING stamp that was read;
  since neither time of a row ever goes back, a claim that lands found the row as it was listed, at
  every moment in between.
Main exports: sweep_fences_hold
-/
import JumptotechLabs.Session.Sweeps
import JumptotechLabs.Session.Clock

namespace JumptotechLabs.Session

open JumptotechLabs.Core

variable {clock : Instant} {r : Reaper} {thread : Nat} {now : Instant} {sessions : List LabSession}

/-! ### The listing of a sweep -/

/-- A sweep lists once before it claims. -/
theorem sweepStart_unique {past : History} {now' : Instant} {sessions' : List LabSession}
    (started : sweepStart r now sessions <:+ past) (started' : sweepStart r now' sessions' <:+ past) :
    now' = now ∧ sessions' = sessions := by
  have within : sweepStart r now' sessions' <:+ sweepStart r now sessions :=
    List.suffix_of_suffix_length_le started' started (Nat.le_refl 3)
  have same : sweepStart r now' sessions' = sweepStart r now sessions :=
    within.eq_of_length (Eq.refl 3)
  simp only [sweepStart, List.cons.injEq, Interaction.mk.injEq, heq_eq_eq, true_and, and_true,
    Except.ok.injEq] at same
  exact ⟨same.2, same.1⟩

/-- The moment of the listing: what was listed is what was stored, nobody holds a reading that has
    not been used, and the clock shows no less than what the sweep read. -/
theorem listing_moment {config : SessionConfig} (run : Reaches Prompt (boot clock) config)
    (started : sweepStart r now sessions <:+ own thread config.trace) :
    ∃ listing, Reaches Prompt (boot clock) listing ∧ Reaches Prompt listing config ∧
      (∀ session ∈ sessions, rowOf listing session.sessionId = some session) ∧
      (∀ other, freshReadings (own other listing.trace) = []) ∧ now ≤ listing.world.clock := by
  obtain ⟨newer, isPast⟩ := started
  obtain ⟨laterTrace, earlierTrace, split, isEarlier⟩ := own_split isPast.symm
  obtain ⟨before, listing, op, reply, reached, _, happened, rfl, step, rest⟩ := run.moment split
  have reachedListing := reached.trans step
  refine ⟨listing, reachedListing, rest, ?_, ?_, ?_⟩
  · exact fun session member => shown_stored happened.responded member
  · intro other
    by_contra waiting
    obtain ⟨latest, earlier, isTrace, reads⟩ :=
      (timely_of_reaches (fun _ _ meets => meets) reachedListing).first other waiting
    rw [happened.recorded] at isTrace
    cases isTrace
    cases reads
  · have read : (thread, ⟨.now, .ok now⟩) ∈ listing.trace := by
      rw [happened.recorded]
      apply List.mem_cons_of_mem
      apply mem_own.mp
      rw [isEarlier]
      exact List.mem_cons_self
    exact readings_le_clock reachedListing read

/-- Does the row a claim is for still meet it? -/
def claimLands (config : SessionConfig) (sessionId : String) (source : List SessionStatus)
    (target : SessionStatus) (patch : SessionPatch) (guard : TransitionGuard) : Bool :=
  (config.world.store.transition sessionId source target patch guard).1.isSome

/-- A claim of EXPIRING a sweep is about to make, if it lands: it is made under the judgement the
    listed session called for, and the row meets its fence. -/
theorem claim_of_sweep {config : SessionConfig} {source : List SessionStatus}
    {patch : SessionPatch} {guard : TransitionGuard} {listed : LabSession}
    (run : Reaches Prompt (boot clock) config) (sweeps : config.opOf thread = some (.sweep r))
    (pending : config.pending thread =
      some (.transition listed.sessionId source .expiring patch guard))
    (landed : claimLands config listed.sessionId source .expiring patch guard = true)
    (started : sweepStart r now sessions <:+ own thread config.trace)
    (member : listed ∈ sessions) :
    ∃ reason current, Judgement r now listed reason guard ∧
      rowOf config listed.sessionId = some current ∧
        InMemorySessionStore.meetsGuard guard current = true := by
  obtain ⟨reason, _, now', sessions', session, started', member', named, judged⟩ :=
    asks_when_pending run sweeps pending
  obtain ⟨rfl, rfl⟩ := sweepStart_unique started started'
  obtain ⟨listing, _, _, stored, _⟩ := listing_moment run started
  have sameSession : session = listed := by
    have first := stored session member'
    rw [named, stored listed member] at first
    exact (Option.some.inj first).symm
  subst sameSession
  cases ran : config.world.store.transition session.sessionId source .expiring patch guard with
  | mk written store =>
      rcases InMemorySessionStore.transition_cases ran with
        ⟨missed, _⟩ | ⟨current, found, _, guarded, _, _⟩
      · rw [claimLands, ran, missed] at landed
        cases landed
      · exact ⟨reason, current, judged, found, guarded⟩

/-! ### Between the listing and the claim -/

theorem overdue_before_clock {grace now stamp clock : Int} (positive : 1 ≤ grace)
    (overdue : grace ≤ now - stamp) (read : now ≤ clock) : stamp < clock := by
  omega

/-- A session that was listed CREATING and left CREATING since carries a later stamp than the one that
    was listed, if the sweep read a later instant than that stamp. -/
theorem restamped_since {listing config : SessionConfig} {listed row : LabSession}
    (reached : Reaches Prompt (boot clock) listing) (run : Reaches Prompt listing config)
    (unread : ∀ other, freshReadings (own other listing.trace) = [])
    (stored : rowOf listing listed.sessionId = some listed)
    (newer : listed.statusChangedAt < listing.world.clock)
    (creating : listed.status = .creating)
    (found : rowOf config listed.sessionId = some row) :
    (row.status = .creating ∧ row.statusChangedAt = listed.statusChangedAt) ∨
      listed.statusChangedAt < row.statusChangedAt := by
  apply settled_since (fun row =>
    (row.status = .creating ∧ row.statusChangedAt = listed.statusChangedAt) ∨
      listed.statusChangedAt < row.statusChangedAt) _ reached run
    (stored_admitted reached stored) _ row found
  · intro before after thread op reply interaction current next since meets happened old new kept
    have step := timed_step (reached.trans since) happened old new
    rcases step.stamp with ⟨sameStatus, sameStamp⟩ | ⟨_, fresh⟩
    · rw [sameStatus, sameStamp]
      exact kept
    · right
      exact Int.lt_of_lt_of_le newer (fresh_since since unread fresh)
  · intro row' found'
    rw [stored] at found'
    cases found'
    exact .inl ⟨creating, rfl⟩

/-- The fences of a sweep hold. Take any moment after the sweep listed the sessions, and the row a
    listed session then had. If the sweep judged the session idle and not past its deadline, and the
    row's activity is not the listed one; or if it listed the session CREATING and judged it
    abandoned, and the row is not CREATING: no claim of EXPIRING this sweep makes from then on
    lands. -/
theorem sweep_fences_hold {moment config : SessionConfig} {source : List SessionStatus}
    {patch : SessionPatch} {guard : TransitionGuard} {listed row : LabSession}
    (reached : Reaches Prompt (boot clock) moment)
    (started : sweepStart r now sessions <:+ own thread moment.trace) (member : listed ∈ sessions)
    (found : rowOf moment listed.sessionId = some row) (run : Reaches Prompt moment config)
    (sweeps : config.opOf thread = some (.sweep r))
    (pending : config.pending thread =
      some (.transition listed.sessionId source .expiring patch guard)) :
    (isIdle listed now = true → isExpired listed now = false →
      row.lastActivityAt ≠ listed.lastActivityAt →
        claimLands config listed.sessionId source .expiring patch guard = false) ∧
    (listed.status = .creating → isExpired listed now = false → isIdle listed now = false →
      1 ≤ r.abandonedStartGrace → r.abandonedStartGrace ≤ now - listed.statusChangedAt →
      row.status ≠ .creating →
        claimLands config listed.sessionId source .expiring patch guard = false) := by
  have startedConfig := started.trans (own_suffix thread run.trace_extends)
  have reachedConfig := reached.trans run
  obtain ⟨listing, reachedListing, runListing, stored, unread, read⟩ := listing_moment reached started
  have listedRow := stored listed member
  cases landed : claimLands config listed.sessionId source .expiring patch guard with
  | false => exact ⟨fun _ _ _ => rfl, fun _ _ _ _ _ _ => rfl⟩
  | true =>
      obtain ⟨reason, current, judged, foundCurrent, guarded⟩ :=
        claim_of_sweep reachedConfig sweeps pending landed startedConfig member
      have toMoment := times_forward_along_run (fun _ _ meets => meets) reachedListing runListing
        listedRow found
      have toClaim := times_forward_along_run (fun _ _ meets => meets) reached run found foundCurrent
      constructor
      · intro idle alive changed
        exfalso
        cases judged with
        | abandoned creating _ used _ =>
            rw [used] at idle
            cases idle
        | inFlight expiring =>
            -- Nothing moves the activity of a session a teardown owns.
            have shownListed : (thread, ⟨.list, .ok sessions⟩) ∈ moment.trace :=
              mem_own.mp (started.subset List.mem_cons_self)
            have onward := (seen_moves_on reached shownListed member).2 row found
            exact changed (onward.2 (by rw [expiring]; rfl))
        | expired _ past =>
            rw [past] at alive
            cases alive
        | idle _ _ _ =>
            have unmoved : listed.lastActivityAt = current.lastActivityAt := by
              simpa [InMemorySessionStore.meetsGuard] using guarded
            rw [← unmoved] at toClaim
            exact changed (Int.le_antisymm toClaim.2 toMoment.2)
      · intro creating alive used grace overdue left
        exfalso
        cases judged with
        | inFlight expiring =>
            rw [creating] at expiring
            cases expiring
        | expired _ past =>
            rw [past] at alive
            cases alive
        | idle _ _ unused =>
            rw [unused] at used
            cases used
        | abandoned _ _ _ _ =>
            have unmoved : listed.statusChangedAt = current.statusChangedAt := by
              simpa [InMemorySessionStore.meetsGuard] using guarded
            rw [← unmoved] at toClaim
            have newer : listed.statusChangedAt < listing.world.clock :=
              overdue_before_clock grace overdue read
            rcases restamped_since reachedListing runListing unread listedRow newer creating found with
              ⟨still, _⟩ | later
            · exact left still
            · exact absurd (Int.lt_of_lt_of_le later toClaim.1) (Int.lt_irrefl _)

/-- A session nobody has used for half an hour, and a sweep that has listed it. -/
def listedIdle : SessionConfig :=
  (boot 0).after Prompt (startUntilActive "sess-0000001" ++
    ([.evolve (1800000 : Nat), .spawn (.sweep labReaper)] : List SessionMove) ++ goOn 1 3)

/-- The student comes back before the sweep gets to the session. -/
def cameBack : SessionConfig :=
  listedIdle.after Prompt
    (([.evolve (5 : Nat), .spawn (.touchActivity "sess-0000001")] : List SessionMove) ++ goOn 2 2)

/-- The sweep is about to claim it. -/
def claimsIdle : SessionConfig := cameBack.after Prompt (goOn 1 2)

/-- The session as the sweep listed it. -/
def idleRow : LabSession :=
  { candidate (labInstance 0) { id := "lab-1", track := "linux", provider := .linux }
      (some "student-1") 0 "sess-0000001" with
    status := .active
    environmentId := "env-1"
    shellUid := some shellUidMin }

theorem sweep_fences_hold_cameBack :
    claimsIdle.pending 1 = some (.transition "sess-0000001" (liveStatuses ++ [SessionStatus.expiring]) .expiring
        { statusReason := some (idleDetail idleRow), statusChangedAt := some 1800005 }
        { lastActivityAt := some 0 }) ∧
      claimLands claimsIdle "sess-0000001" (liveStatuses ++ [SessionStatus.expiring]) .expiring
        { statusReason := some (idleDetail idleRow), statusChangedAt := some 1800005 }
        { lastActivityAt := some 0 } = false := by
  have reached : Reaches Prompt (boot 0) listedIdle := Config.reaches_after (by decide)
  have returns : Reaches Prompt listedIdle cameBack := Config.reaches_after (by decide)
  have claims : Reaches Prompt cameBack claimsIdle := Config.reaches_after (by decide)
  have started : sweepStart labReaper 1800000 [idleRow] <:+ own 1 cameBack.trace := ⟨[], rfl⟩
  have found : rowOf cameBack "sess-0000001" = some { idleRow with lastActivityAt := 1800005 } := by
    decide
  have pending : claimsIdle.pending 1 =
      some (.transition "sess-0000001" (liveStatuses ++ [SessionStatus.expiring]) .expiring
        { statusReason := some (idleDetail idleRow), statusChangedAt := some 1800005 }
        { lastActivityAt := some 0 }) := by
    decide
  exact ⟨pending, (sweep_fences_hold (reached.trans returns) started List.mem_cons_self found claims
    rfl pending).1 (by decide) (by decide) (by decide)⟩

end JumptotechLabs.Session
