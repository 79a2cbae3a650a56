/-
Module: JumptotechLabs.Session.Reclaiming
Layer: Session (services/lab-orchestrator/src/session/reaper.ts)
Purpose: No row is stuck. One sweep that nobody disturbs, after every deadline and grace period, finishes
  every session whose destroy leaves nothing and leaves the others in the teardown it started,
  whatever fails on the way: one session's failure never keeps another from being finished.
Main exports: Handled, achieves_sweepSession, Swept, achieves_sweepSessions, achieves_sweepOrphans,
  achieves_sweepRetention, no_stuck_row
-/
import JumptotechLabs.Session.Undisturbed

namespace JumptotechLabs.Session

open JumptotechLabs.Core
open JumptotechLabs.Core.Prog (attempt ensure whenDone whenFailed)

variable {gone : String → Prop} {world : World} {r : Reaper}

/-! ### One session -/

/-- The status a sweep's teardown claims a session with. -/
def claimedAs (status : SessionStatus) : SessionStatus :=
  if status = .ending then .ending else .expiring

/-- The status a sweep's teardown ends a session with: an End is never relabelled. -/
def endedAs (status : SessionStatus) : SessionStatus :=
  if status = .ending then .ended else .expired

/-- What a sweep makes of a row: a finished one stays, any other is torn down. -/
structure Handled (m : Manager) (gone : String → Prop) (clock : Instant) (row later : LabSession) :
    Prop where
  finished : isTerminalStatus row.status = true → later = row
  reclaimed : isTerminalStatus row.status = false → Reclaimed m gone row →
    later.status = endedAs row.status ∧ later.endedAt = some clock
  pending : isTerminalStatus row.status = false → ¬ Reclaimed m gone row →
    later.status = claimedAs row.status

/-- A sweep handled one row, and touched no other. -/
structure HandledAlone (m : Manager) (gone : String → Prop) (row : LabSession)
    (world after : World) : Prop where
  clock : after.clock = world.clock
  elsewhere : ∀ other, other ≠ row.sessionId → after.store.get other = world.store.get other
  left : ∃ later, after.store.get row.sessionId = some later ∧ Handled m gone world.clock row later

theorem handledAlone_of_finished {m : Manager} {row : LabSession} {after : World}
    (live : isTerminalStatus row.status = false)
    (ended : Finished m gone (claimedAs row.status) (endedAs row.status) row world after) :
    HandledAlone m gone row world after := by
  obtain ⟨later, found, reclaimed, pending⟩ := ended.left
  refine ⟨ended.clock, ended.elsewhere, later, found, ?_, fun _ => reclaimed, fun _ => pending⟩
  intro terminal
  rw [live] at terminal
  cases terminal

/-- A driven teardown that ended is recorded, and nothing more happens. -/
theorem achieves_finish {result : SweepResult} {session : LabSession} {reason : SweepReason}
    {teardown : SessionM TeardownResult} {holds : World → Prop}
    (driven : teardown.Achieves (undisturbed gone) world fun outcome after =>
      (∃ ended, outcome = .ok ended) ∧ holds after) :
    (finish result session reason teardown).Achieves (undisturbed gone) world fun outcome after =>
      (∃ next, outcome = .ok next) ∧ holds after := by
  unfold finish
  rw [Prog.achieves_bind, Prog.achieves_attempt]
  apply driven.mono
  rintro _ after ⟨⟨ended, rfl⟩, held⟩
  exact ⟨⟨_, rfl⟩, held⟩

/-- One round of the sweep handles its row, whatever the status. -/
theorem achieves_sweepSession {row : LabSession} (result : SweepResult)
    (found : world.store.get row.sessionId = some row)
    (valid : isValidSessionId row.sessionId = true) (expired : row.expiresAt ≤ world.clock)
    (settled : r.abandonedEndGrace ≤ world.clock - row.statusChangedAt) :
    (sweepSession r world.clock result row).Achieves (undisturbed gone) world fun outcome after =>
      (∃ next, outcome = .ok next) ∧ HandledAlone r.sessions gone row world after := by
  have isExpired : isExpired row world.clock = true := by simp [Session.isExpired, expired]
  unfold sweepSession
  by_cases terminal : isTerminalStatus row.status = true
  · rw [if_pos terminal]
    refine ⟨⟨result, rfl⟩, rfl, fun _ _ => rfl, row, found, fun _ => rfl, ?_, ?_⟩
    · intro live
      rw [terminal] at live
      cases live
    · intro live
      rw [terminal] at live
      cases live
  · have live : isTerminalStatus row.status = false := by simpa using terminal
    rw [if_neg terminal]
    by_cases ending : row.status = .ending
    · rw [if_pos ending, if_neg (not_lt.mpr settled)]
      refine achieves_finish ((achieves_resumeAbandonedEnd found valid ending).mono ?_)
      rintro outcome after ⟨ended, finished⟩
      refine ⟨ended, handledAlone_of_finished live ?_⟩
      rw [ending]
      exact finished
    · -- The deadline passed, so whatever the status, the last branch expires it without a fence.
      rw [if_neg ending]
      simp only [isExpired, Bool.not_true, Bool.and_false, Bool.false_and, Bool.false_eq_true,
        ↓reduceIte]
      refine achieves_finish ((achieves_expire found valid live ending).mono ?_)
      rintro outcome after ⟨ended, finished⟩
      refine ⟨ended, handledAlone_of_finished live ?_⟩
      unfold claimedAs endedAs
      rw [if_neg ending, if_neg ending]
      exact finished

/-! ### Every session -/

/-- What every row must meet for a sweep to leave none stuck. -/
structure Overdue (r : Reaper) (world : World) : Prop where
  valid : ∀ row ∈ world.store.sessions, isValidSessionId row.sessionId = true
  expired : ∀ row ∈ world.store.sessions, row.expiresAt ≤ world.clock
  settled : ∀ row ∈ world.store.sessions, r.abandonedEndGrace ≤ world.clock - row.statusChangedAt

/-- The rows `done` have been handled, the others not yet. -/
structure Swept (m : Manager) (gone : String → Prop) (before : World) (done : List LabSession)
    (after : World) : Prop where
  clock : after.clock = before.clock
  absent : ∀ sessionId, before.store.get sessionId = none → after.store.get sessionId = none
  waiting : ∀ row ∈ before.store.sessions, row ∉ done → after.store.get row.sessionId = some row
  handled : ∀ row ∈ done, ∃ later, after.store.get row.sessionId = some later ∧
    Handled m gone before.clock row later

theorem get_of_stored {store : InMemorySessionStore} {row : LabSession}
    (stored : row ∈ store.sessions) : store.get row.sessionId = some row :=
  Keyed.lookup_of_mem store.distinct stored

theorem stored_of_get {store : InMemorySessionStore} {sessionId : String} {row : LabSession}
    (found : store.get sessionId = some row) : row ∈ store.sessions :=
  Keyed.mem_of_lookup found

/-- Two rows of one store under one id are one row. -/
theorem eq_of_sessionId {store : InMemorySessionStore} {row other : LabSession}
    (stored : row ∈ store.sessions) (storedToo : other ∈ store.sessions)
    (same : row.sessionId = other.sessionId) : row = other := by
  have found := get_of_stored stored
  rw [same, get_of_stored storedToo] at found
  exact (Option.some.inj found).symm

/-- A row is listed once. -/
theorem listed_once {store : InMemorySessionStore} {done rest : List LabSession} {row : LabSession}
    (split : store.sessions = done ++ row :: rest) : row ∉ done := by
  have distinct := List.Nodup.of_map _ store.distinct
  rw [split] at distinct
  intro already
  exact List.disjoint_of_nodup_append distinct already List.mem_cons_self

theorem Swept.start (m : Manager) (world : World) : Swept m gone world [] world where
  clock := rfl
  absent := fun _ missing => missing
  waiting := fun _ stored _ => get_of_stored stored
  handled := fun _ isDone => absurd isDone List.not_mem_nil

/-- One more row is handled; the rows before it stay as they were left. -/
theorem Swept.step {m : Manager} {before between after : World} {done rest : List LabSession}
    {row : LabSession} (split : before.store.sessions = done ++ row :: rest)
    (swept : Swept m gone before done between) (alone : HandledAlone m gone row between after) :
    Swept m gone before (done ++ [row]) after := by
  have stored : row ∈ before.store.sessions := by simp [split]
  have otherThan : ∀ {other : LabSession}, other ∈ before.store.sessions → other ≠ row →
      other.sessionId ≠ row.sessionId :=
    fun isStored differs same => differs (eq_of_sessionId isStored stored same)
  have notYet : row ∉ done := listed_once split
  refine ⟨alone.clock.trans swept.clock, fun sessionId missing => ?_, fun other isStored waits => ?_,
    fun other isDone => ?_⟩
  · have differs : sessionId ≠ row.sessionId := by
      rintro rfl
      rw [get_of_stored stored] at missing
      cases missing
    rw [alone.elsewhere sessionId differs]
    exact swept.absent sessionId missing
  · simp only [List.mem_append, List.mem_singleton, not_or] at waits
    rw [alone.elsewhere _ (otherThan isStored waits.2)]
    exact swept.waiting other isStored waits.1
  · rcases List.mem_append.mp isDone with isEarlier | isRow
    · have isStored : other ∈ before.store.sessions := by simp [split, isEarlier]
      have differs : other ≠ row := fun same => notYet (same ▸ isEarlier)
      rw [alone.elsewhere _ (otherThan isStored differs)]
      exact swept.handled other isEarlier
    · cases List.mem_singleton.mp isRow
      obtain ⟨later, found, handled⟩ := alone.left
      rw [swept.clock] at handled
      exact ⟨later, found, handled⟩

/-- The first pass handles every row there is. -/
theorem achieves_sweepSessions (result : SweepResult) (overdue : Overdue r world) :
    (sweepSessions r result).Achieves (undisturbed gone) world fun outcome after =>
      (∃ next, outcome = .ok next) ∧ Swept r.sessions gone world world.store.sessions after := by
  unfold sweepSessions
  rw [Prog.achieves_bind, achieves_own .now rfl, Prog.whenDone_ok, Prog.achieves_bind,
    Prog.achieves_attempt, achieves_own .list rfl]
  refine Prog.achieves_foldlM_items (Swept r.sessions gone world) ?_ result (.start _ _)
  intro state done row rest between split swept
  change world.store.sessions = done ++ row :: rest at split
  have stored : row ∈ world.store.sessions := by simp [split]
  rw [← swept.clock]
  refine (achieves_sweepSession state (swept.waiting row stored (listed_once split))
    (overdue.valid row stored) ?_ ?_).mono ?_
  · rw [swept.clock]
    exact overdue.expired row stored
  · rw [swept.clock]
    exact overdue.settled row stored
  · rintro outcome after ⟨ended, alone⟩
    exact ⟨ended, swept.step split alone⟩

/-- No session is ACTIVE any more. -/
theorem Swept.not_active {m : Manager} {before after : World}
    (swept : Swept m gone before before.store.sessions after) :
    ∀ row ∈ after.store.sessions, row.status ≠ .active := by
  intro row stored active
  cases found : before.store.get row.sessionId with
  | none =>
      have missing := swept.absent _ found
      rw [get_of_stored stored] at missing
      cases missing
  | some earlier =>
      have named := InMemorySessionStore.sessionId_of_get found
      obtain ⟨later, foundLater, handled⟩ := swept.handled earlier (stored_of_get found)
      rw [named, get_of_stored stored] at foundLater
      cases foundLater
      cases terminal : isTerminalStatus earlier.status with
      | true =>
          rw [← handled.finished terminal, active] at terminal
          cases terminal
      | false =>
          by_cases reclaimed : Reclaimed m gone earlier
          · have ended := (handled.reclaimed terminal reclaimed).1
            rw [active] at ended
            unfold endedAs at ended
            split at ended <;> cases ended
          · have claimed := handled.pending terminal reclaimed
            rw [active] at claimed
            unfold claimedAs at claimed
            split at claimed <;> cases claimed

/-! ### The sandboxes nobody owns -/

theorem achieves_reclaimFinishedSandbox (m : Manager) (sessionId : String) (world : World) :
    (reclaimFinishedSandbox m sessionId).Achieves (undisturbed gone) world
      fun _ after => after = world := by
  unfold reclaimFinishedSandbox
  rw [Prog.achieves_bind, achieves_own (.get sessionId) rfl, Prog.whenDone_ok]
  split
  · rfl
  · split
    · exact achieves_destroyOf fun _ _ => rfl
    · rfl

theorem achieves_sweepOrphan (provider : LabProviderId) (sessions : List LabSession) (now : Instant)
    (result : SweepResult) (sandbox : ManagedSandbox) (world : World) :
    (sweepOrphan r provider sessions now result sandbox).Achieves (undisturbed gone) world
      fun _ after => after = world := by
  unfold sweepOrphan
  split
  · rfl
  split
  · rfl
  split
  · rw [Prog.achieves_bind]
    apply (achieves_reclaimFinishedSandbox r.sessions _ world).mono
    rintro (failure | outcome) after rfl <;> rfl
  split
  · rfl
  split
  · rfl
  · rw [Prog.achieves_bind]
    refine achieves_outside rfl fun answer => ?_
    cases answer <;> rfl

theorem achieves_sweepProvider (sessions : List LabSession) (now : Instant)
    (state : SweepResult × Phases) (provider : LabProviderId) (world : World) :
    (sweepProvider r sessions now state provider).Achieves (undisturbed gone) world
      fun _ after => after = world := by
  unfold sweepProvider
  rw [Prog.achieves_bind, Prog.achieves_attempt]
  refine achieves_outside rfl fun answer => ?_
  rcases answer with failure | managed
  · rfl
  · rw [Prog.whenDone_ok, Prog.achieves_bind]
    refine (Prog.achieves_foldlM (· = world) ?_ _ rfl).mono ?_
    · rintro state' sandbox _ _ rfl
      exact achieves_sweepOrphan provider sessions now state' sandbox _
    · rintro (failure | result) after rfl <;> rfl

/-- With no session ACTIVE, the pass over the sandboxes leaves every row alone. -/
theorem achieves_sweepOrphans (result : SweepResult)
    (noneActive : ∀ row ∈ world.store.sessions, row.status ≠ .active) :
    (sweepOrphans r result).Achieves (undisturbed gone) world fun _ after =>
      after.store = world.store ∧ after.clock = world.clock := by
  unfold sweepOrphans
  rw [Prog.achieves_bind, achieves_own .now rfl, Prog.whenDone_ok, Prog.achieves_bind,
    Prog.achieves_attempt, achieves_own .list rfl]
  simp only [Prog.whenDone_ok, Prog.achieves_bind]
  refine (Prog.achieves_foldlM (· = world) ?_ _ rfl).mono ?_
  · rintro state provider _ _ rfl
    exact achieves_sweepProvider _ _ state provider _
  · rintro (failure | ⟨swept, phases⟩) after rfl
    · exact ⟨rfl, rfl⟩
    · have noneLost : after.store.list.filter (sandboxLost r phases after.clock) = [] := by
        refine List.filter_eq_nil_iff.mpr fun row stored lost => ?_
        simp only [sandboxLost, Bool.and_eq_true, beq_iff_eq] at lost
        exact noneActive row stored lost.1.1.1
      simp only [Prog.whenDone_ok, reconcileStoppedSandboxes, noneLost, Prog.achieves_bind]
      rw [achieves_own (.lostLastSweep r.index) rfl]
      simp only [Prog.whenDone_ok, Prog.achieves_bind, List.filter_nil, List.foldlM_nil,
        Prog.achieves_pure]
      rw [achieves_own (.setLostLastSweep r.index _) rfl]
      exact ⟨rfl, rfl⟩

/-! ### Finished records -/

/-- A row the retention pass keeps: it is not finished, or it finished just now. -/
def Stays (clock : Instant) (row : LabSession) : Prop :=
  isTerminalStatus row.status = false ∨ row.endedAt = some clock

/-- The retention pass only forgets, and only what does not stay. -/
structure Retained (before after : World) : Prop where
  old : ∀ sessionId row, after.store.get sessionId = some row →
    before.store.get sessionId = some row
  kept : ∀ row ∈ before.store.sessions, Stays before.clock row →
    after.store.get row.sessionId = some row

theorem Retained.refl (world : World) : Retained world world :=
  ⟨fun _ _ found => found, fun _ stored _ => get_of_stored stored⟩

/-- Only the rows and the time matter. -/
theorem Retained.since {before between after : World} (store : between.store = before.store)
    (clock : between.clock = before.clock) (retained : Retained between after) :
    Retained before after := by
  obtain ⟨old, kept⟩ := retained
  rw [store] at old kept
  rw [clock] at kept
  exact ⟨old, kept⟩

theorem achieves_retireSession {before : World} {row : LabSession} (result : SweepResult)
    (retains : 0 < r.retention) (stored : row ∈ before.store.sessions)
    (retained : Retained before world) :
    (retireSession r before.clock result row).Achieves (undisturbed gone) world
      fun _ after => Retained before after := by
  unfold retireSession
  split
  · exact retained
  · rename_i terminal
    dsimp only
    split
    · exact retained
    · rename_i overdue
      have leaves : ¬ Stays before.clock row := by
        rintro (live | justEnded)
        · simp [live] at terminal
        · simp only [justEnded, Option.getD_some, Int.sub_self, Bool.or_eq_true, decide_eq_true_eq,
            not_or] at overdue
          exact overdue.2 retains
      unfold forget
      rw [Prog.achieves_bind, achieves_own (.delete row.sessionId) rfl]
      refine ⟨fun sessionId other found => ?_, fun other isStored stays => ?_⟩
      · rw [InMemorySessionStore.get_delete] at found
        split at found
        · cases found
        · exact retained.old sessionId other found
      · have differs : other.sessionId ≠ row.sessionId := by
          intro same
          rw [eq_of_sessionId isStored stored same] at stays
          exact leaves stays
        rw [InMemorySessionStore.get_delete, if_neg differs]
        exact retained.kept other isStored stays

theorem achieves_sweepRetention (result : SweepResult) (world : World) :
    (sweepRetention r result).Achieves (undisturbed gone) world
      fun _ after => Retained world after := by
  unfold sweepRetention
  split
  · exact .refl world
  · rename_i retains
    rw [Prog.achieves_bind, achieves_own .now rfl, Prog.whenDone_ok, Prog.achieves_bind,
      achieves_own .list rfl]
    refine Prog.achieves_foldlM (Retained world) ?_ result (.refl world)
    intro state row stored between retained
    exact achieves_retireSession state (not_le.mp retains) stored retained

/-! ### The whole sweep -/

/-- What the rows of a store have become once a sweep is over: every session that was not finished is
    finished as what it was if its destroy left nothing, and in its teardown if not; a finished
    record is as it was, if it is still kept. -/
def NoneStuck (m : Manager) (gone : String → Prop) (before after : World) : Prop :=
  ∀ row ∈ before.store.sessions,
    (isTerminalStatus row.status = false → ∃ later, after.store.get row.sessionId = some later ∧
      (Reclaimed m gone row →
        later.status = if row.status = .ending then .ended else .expired) ∧
      (¬ Reclaimed m gone row → later.status = .ending ∨ later.status = .expiring)) ∧
    (isTerminalStatus row.status = true → ∀ later, after.store.get row.sessionId = some later →
      later = row)

theorem Swept.noneStuck {m : Manager} {before between after : World}
    (swept : Swept m gone before before.store.sessions between)
    (retained : Retained between after) : NoneStuck m gone before after := by
  intro row stored
  obtain ⟨later, found, handled⟩ := swept.handled row stored
  have named := InMemorySessionStore.sessionId_of_get found
  constructor
  · intro live
    have stays : Stays between.clock later := by
      by_cases reclaimed : Reclaimed m gone row
      · rw [swept.clock]
        exact .inr (handled.reclaimed live reclaimed).2
      · left
        rw [handled.pending live reclaimed]
        unfold claimedAs
        split <;> rfl
    have kept := retained.kept later (stored_of_get found) stays
    rw [named] at kept
    refine ⟨later, kept, fun reclaimed => (handled.reclaimed live reclaimed).1, ?_⟩
    intro notReclaimed
    rw [handled.pending live notReclaimed]
    unfold claimedAs
    split
    · exact .inl rfl
    · exact .inr rfl
  · intro terminal last foundLast
    have same := retained.old _ _ foundLast
    rw [found] at same
    cases same
    exact handled.finished terminal

theorem achieves_sweep {world : World} (gone : String → Prop) (overdue : Overdue r world)
    (notSweeping : (world.reapers r.index).sweeping = false) :
    (sweep r).Achieves (undisturbed gone) world fun _ after =>
      NoneStuck r.sessions gone world after := by
  have closes : ∀ (outcome : Except Failure SweepResult) (after : World),
      NoneStuck r.sessions gone world after →
        (await (.endSweep r.index)).Achieves (undisturbed gone) after
          (whenDone (undisturbed gone) (fun _ => Prog.settle outcome) fun _ last =>
            NoneStuck r.sessions gone world last) := by
    intro outcome after holds
    rw [achieves_own (.endSweep r.index) rfl, Prog.whenDone_ok, Prog.achieves_settle]
    exact holds
  unfold sweep
  rw [Prog.achieves_bind, achieves_own (.beginSweep r.index) rfl, Prog.whenDone_ok,
    notSweeping, if_neg Bool.false_ne_true, Prog.achieves_ensure, Prog.achieves_bind]
  have started : Overdue r (world.onReaper r.index fun fields =>
      { fields with sweeping := true }) := ⟨overdue.valid, overdue.expired, overdue.settled⟩
  refine (achieves_sweepSessions {} started).mono ?_
  rintro _ swept ⟨⟨result, rfl⟩, isSwept⟩
  rw [Prog.whenDone_ok, Prog.achieves_bind]
  refine (achieves_sweepOrphans result isSwept.not_active).mono ?_
  rintro outcome between ⟨store, isClock⟩
  rcases outcome with failure | result
  · exact closes _ _ (isSwept.noneStuck (.since store isClock (.refl between)))
  · refine (achieves_sweepRetention result between).mono ?_
    intro outcome after retained
    exact closes _ _ (isSwept.noneStuck (.since store isClock retained))

/-- In every run: a sweep that nobody disturbs, at or after every deadline and at least the End grace
    after every status change, with session-scoped destroys that leave nothing of the sessions in `gone`
    and fail or throw for the others, always comes to its end and leaves no row stuck. -/
theorem no_stuck_row {allowed : SessionConfig → SessionMove → Prop} {clock : Instant}
    {config : SessionConfig} (run : Reaches allowed (boot clock) config) (r : Reaper)
    (gone : String → Prop) (notSweeping : (config.world.reapers r.index).sweeping = false)
    (expired : ∀ row ∈ config.world.store.sessions, row.expiresAt ≤ config.world.clock)
    (settled : ∀ row ∈ config.world.store.sessions,
      r.abandonedEndGrace ≤ config.world.clock - row.statusChangedAt) :
    (sweep r).Achieves (undisturbed gone) config.world fun _ after =>
      NoneStuck r.sessions gone config.world after := by
  refine achieves_sweep gone ⟨fun row stored => ?_, expired, settled⟩ notSweeping
  exact valid_of_stored run (get_of_stored stored)

/-- A lab nobody ended, three hours after its start. -/
def leftBehind : SessionConfig :=
  (boot 0).after anyMove (startUntilActive "sess-0000001" ++ ([.evolve (10800000 : Nat)] : List SessionMove))

theorem no_stuck_row_left_behind :
    leftBehind.world.store.sessions.map LabSession.status = [.active] ∧
      (sweep labReaper).Achieves (undisturbed (· = "sess-0000001")) leftBehind.world fun _ after =>
        NoneStuck (labInstance 0) (· = "sess-0000001") leftBehind.world after := by
  have run : Reaches anyMove (boot 0) leftBehind := Config.reaches_after (by decide)
  refine ⟨by decide, no_stuck_row run labReaper _ ?_ ?_ ?_⟩
  · decide
  · decide
  · decide

end JumptotechLabs.Session
