/-
Module: JumptotechLabs.Session.Orphans
Layer: Session (services/lab-orchestrator/src/session/reaper.ts, manager.ts)
Purpose: The orphan sweep never takes a sandbox from a session that is not over. A sweep lists the
  sessions before it asks the providers, so the sandbox of a session that started in between looks
  unknown; what protects it is its expiry label, which is later than every instant at which its row
  can have been inserted, and so later than the instant the sweep compares it with.
Main exports: InsertsInTime, Labelled, orphan_sweep_spares_live
-/
import JumptotechLabs.Session.Sweeps
import JumptotechLabs.Session.Clock

namespace JumptotechLabs.Session

open JumptotechLabs.Core

variable {allowed : SessionConfig → SessionMove → Prop} {clock : Instant}

/-! ### What is assumed of starts and of labels -/

/-- Does a start that is about to insert its row do so within a session's lifetime of the instant it
    read as `createdAt`? -/
def insertsInTime (config : SessionConfig) : SessionMove → Bool
  | .resume thread .own =>
      match config.opOf thread, config.pending thread with
      | some (.start m _ _ _), some (.createWithinLimits session _) =>
          decide (config.world.clock <
            session.createdAt + (m.lifetimes.maxSessionSeconds : Int) * 1000)
      | _, _ => true
  | _ => true

/-- Every start inserts its row less than `maxSessionSeconds` after it read `createdAt`. -/
def InsertsInTime (config : SessionConfig) (move : SessionMove) : Prop :=
  insertsInTime config move = true

instance : DecidableRel InsertsInTime := fun config move =>
  inferInstanceAs (Decidable (insertsInTime config move = true))

/-- The session an answered command admitted. -/
def admittedBy : SessionInteraction → Option LabSession
  | ⟨.createWithinLimits session _, .ok .admitted⟩ => some session
  | _ => none

/-- The sandboxes an answered command listed. -/
def sandboxesOf : SessionInteraction → List ManagedSandbox
  | ⟨.listManagedSandboxes _, .ok sandboxes⟩ => sandboxes
  | _ => []

/-- Each provider labels a sandbox with its session's `expiresAt`. -/
def Labelled (trace : Trace) : Prop :=
  ∀ listing ∈ trace, ∀ sandbox ∈ sandboxesOf listing.2, ∀ admission ∈ trace,
    ∀ session ∈ admittedBy admission.2, session.sandboxRef = sandbox.sandboxRef →
      sandbox.expiresAtMs = session.expiresAt

instance (trace : Trace) : Decidable (Labelled trace) := by
  unfold Labelled
  infer_instance

/-! ### The handle of a session never changes -/

/-- A row keeps its handle. -/
theorem sandboxRef_kept {first last : SessionConfig} {sessionId : String} {handle : String}
    (reached : Reaches allowed (boot clock) first) (run : Reaches allowed first last)
    (admitted : Admitted sessionId first.trace)
    (base : ∀ row, rowOf first sessionId = some row → row.sandboxRef = handle) :
    ∀ row, rowOf last sessionId = some row → row.sandboxRef = handle := by
  apply settled_along_run (fun row => row.sandboxRef = handle) _ reached run admitted base
  intro before after thread op reply interaction current next _ _ happened found found' kept
  have step := row_step happened.responded sessionId
  generalize effect interaction = done at step
  rw [show before.world.store.get sessionId = some current from found,
    show after.world.store.get sessionId = some next from found'] at step
  cases step with
  | kept elsewhere => exact kept
  | moved claimable guarded written => rw [written]; exact kept
  | touched active written => rw [written]; exact kept

/-- The admission that put a session's row there, and that the row still carries its handle. -/
theorem admission_of_row {config : SessionConfig} (run : Reaches allowed (boot clock) config)
    {sessionId : String} {row : LabSession} (found : rowOf config sessionId = some row) :
    ∃ thread session limits,
      (thread, ⟨.createWithinLimits session limits, .ok .admitted⟩) ∈ config.trace ∧
        session.sessionId = sessionId ∧ session.sandboxRef = row.sandboxRef := by
  obtain ⟨thread, session, limits, member, named⟩ := stored_admitted run found
  obtain ⟨later, earlier, split⟩ := List.append_of_mem member
  obtain ⟨before, after, op, reply, reached, _, happened, _, step, rest⟩ := run.moment split
  refine ⟨thread, session, limits, member, named, ?_⟩
  have reachedAfter := reached.trans step
  have admitted : Admitted sessionId after.trace :=
    ⟨thread, session, limits, by rw [happened.recorded]; exact List.mem_cons_self, named⟩
  symm
  apply sandboxRef_kept reachedAfter rest admitted _ row found
  intro inserted found'
  have change := row_step happened.responded sessionId
  generalize stored : before.world.store.get sessionId = old at change
  rw [show after.world.store.get sessionId = some inserted from found'] at change
  change RowStep sessionId (some (.admitted session limits)) old (some inserted) at change
  cases change with
  | kept elsewhere => exact absurd named (elsewhere _ rfl)
  | inserted uid _ isRow => rw [isRow]

/-! ### A session the sweep could have listed -/

/-- A finished session stays finished. -/
theorem finished_later {status later : SessionStatus} (finished : isTerminalStatus status = true)
    (onward : later ∈ laterStatuses status) : isTerminalStatus later = true := by
  revert finished onward
  cases status <;> cases later <;> decide

/-- A row a thread was shown as finished is finished for good. -/
theorem finished_since {config : SessionConfig} (run : Reaches allowed (boot clock) config)
    {thread : Nat} {interaction : SessionInteraction} {seen row : LabSession}
    (member : (thread, interaction) ∈ config.trace) (isShown : seen ∈ shown interaction)
    (finished : isTerminalStatus seen.status = true)
    (found : rowOf config seen.sessionId = some row) : isTerminalStatus row.status = true :=
  finished_later finished ((seen_moves_on run member isShown).2 row found).1

/-- A listing shows what is stored. -/
theorem respond_list {world world' : World} {reply : Reply} {sessions : List LabSession}
    (responded : respond .list world reply = some (.ok sessions, world')) :
    world' = world ∧ sessions = world.store.list := by
  cases reply with
  | own =>
      cases responded
      exact ⟨rfl, rfl⟩
  | _ => cases responded

/-- A listing that does not shield a handle has every earlier session of that handle finished. -/
theorem finished_of_unshielded {config before after : SessionConfig} {thread : Nat}
    {op : SessionOp} {reply : Reply} {sessions : List LabSession} {sessionId : String}
    {row : LabSession} (reached : Reaches allowed (boot clock) before)
    (happened : Answered before after thread op reply ⟨.list, .ok sessions⟩)
    (step : Reaches allowed before after) (rest : Reaches allowed after config)
    (admitted : Admitted sessionId before.trace) (found : rowOf config sessionId = some row)
    (unshielded : row.sandboxRef ∉ liveRefs sessions) : isTerminalStatus row.status = true := by
  have reachedAfter := reached.trans step
  have admittedAfter := admitted.of_suffix happened.trace_grows
  have run := reachedAfter.trans rest
  cases listed : rowOf after sessionId with
  | none =>
      have never := settled_along_run (fun _ => False) (fun _ _ _ _ _ gone => gone) reachedAfter rest
        admittedAfter (fun row found => by rw [listed] at found; cases found)
      exact (never row found).elim
  | some seen =>
      have named : seen.sessionId = sessionId := InMemorySessionStore.sessionId_of_get listed
      obtain ⟨sameWorld, rfl⟩ := respond_list happened.responded
      have isListed : seen ∈ before.world.store.list := by
        rw [rowOf, sameWorld] at listed
        exact Keyed.mem_of_lookup listed
      have sameHandle : row.sandboxRef = seen.sandboxRef := by
        apply sandboxRef_kept reachedAfter rest admittedAfter _ row found
        intro row' found'
        rw [listed] at found'
        cases found'
        rfl
      have finished : isTerminalStatus seen.status = true := by
        by_contra running
        apply unshielded
        apply List.mem_flatMap.mpr
        refine ⟨seen, List.mem_filter.mpr ⟨isListed, by simpa using running⟩, ?_⟩
        rw [sameHandle]
        exact List.mem_cons_self
      have member : (thread, ⟨.list, .ok before.world.store.list⟩) ∈ config.trace := by
        apply rest.trace_extends.subset
        rw [happened.recorded]
        exact List.mem_cons_self
      subst named
      exact finished_since run member isListed finished found

/-- A session that was admitted at some step was admitted before its label's deadline, and no reading
    taken before that step reaches the deadline. -/
theorem reading_lt_expiresAt {config : SessionConfig}
    (run : Reaches InsertsInTime (boot clock) config) {later earlier : Trace} {thread other : Nat}
    {session : LabSession} {limits : CapacityLimits} {reading : Instant}
    (split : config.trace =
      later ++ (thread, ⟨.createWithinLimits session limits, .ok .admitted⟩) :: earlier)
    (read : (other, ⟨.now, .ok reading⟩) ∈ earlier) : reading < session.expiresAt := by
  obtain ⟨before, after, op, reply, reached, meets, happened, rfl, _, _⟩ := run.moment split
  have notLater := readings_le_clock reached read
  have isOwn : reply = .own := by
    have answered := happened.responded
    cases reply with
    | own => rfl
    | _ => cases answered
  subst isOwn
  obtain ⟨m, labId, ownerUserId, hooks, lab, createdAt, rfl, _, _, isCandidate, _⟩ :=
    (issued_when_answered reached happened).of_createWithinLimits
  have inTime : before.world.clock <
      session.createdAt + (m.lifetimes.maxSessionSeconds : Int) * 1000 := by
    simpa [InsertsInTime, insertsInTime, happened.opOf, happened.pending] using meets
  have deadline : session.expiresAt =
      session.createdAt + (m.lifetimes.maxSessionSeconds : Int) * 1000 := by
    rw [isCandidate]
    rfl
  rw [deadline]
  exact Int.lt_of_le_of_lt notLater inTime

/-! ### The sweep -/

/-- The sandbox a sweep is about to destroy belongs to no session that is not over: a session it could
    have listed was finished when it listed them, and the label of any other one is not past. -/
theorem finished_of_unclaimed {config : SessionConfig} {thread : Nat} {r : Reaper}
    {provider : LabProviderId} {sandboxRef sessionId : String} {row : LabSession}
    (run : Reaches InsertsInTime (boot clock) config) (labelled : Labelled config.trace)
    (grace : 0 ≤ r.orphanGrace)
    (unclaimed : Unclaimed r (own thread config.trace) provider sandboxRef)
    (found : rowOf config sessionId = some row) (handle : row.sandboxRef = sandboxRef) :
    isTerminalStatus row.status = true := by
  obtain ⟨now, sessions, sandboxes, sandbox, earlier, ⟨newer, isPast⟩, listing, member, isRef,
    unshielded, overdue⟩ := unclaimed
  obtain ⟨laterTrace, earlierTrace, split, isEarlier⟩ := own_split isPast.symm
  obtain ⟨before, after, op, reply, reached, _, happened, isTrace, step, rest⟩ := run.moment split
  have readNow : (thread, ⟨.now, .ok now⟩) ∈ earlierTrace := by
    apply mem_own.mp
    rw [isEarlier]
    exact List.mem_cons_self
  obtain ⟨starter, session, limits, admitted, named, sameHandle⟩ := admission_of_row run found
  by_cases known : (starter, ⟨.createWithinLimits session limits, .ok .admitted⟩) ∈ earlierTrace
  · have admittedBefore : Admitted sessionId before.trace :=
      ⟨starter, session, limits, isTrace ▸ known, named⟩
    exact finished_of_unshielded reached happened step rest admittedBefore found
      (handle ▸ unshielded)
  · exfalso
    have between : (starter, ⟨.createWithinLimits session limits, .ok .admitted⟩) ∈
        laterTrace := by
      rw [split] at admitted
      rcases List.mem_append.mp admitted with newer | older
      · exact newer
      · rcases List.mem_cons.mp older with isListing | older
        · cases isListing
        · exact absurd older known
    obtain ⟨newest, middle, isLater⟩ := List.append_of_mem between
    have notPast : now < session.expiresAt := by
      apply reading_lt_expiresAt run
      · rw [split, isLater, List.append_assoc]
        rfl
      · exact List.mem_append_right _ (List.mem_cons_of_mem _ readNow)
    have label : sandbox.expiresAtMs = session.expiresAt :=
      labelled _ (mem_own.mp listing) sandbox member _ admitted session rfl
        (sameHandle.trans (handle.trans isRef.symm))
    rw [label] at overdue
    exact absurd (Int.lt_of_lt_of_le notPast (Int.le_trans (Int.le_add_of_nonneg_right grace) overdue))
      (Int.lt_irrefl _)

/-- Whatever managers and reapers do, in whatever order: when a sweep calls `destroySandbox`, no row
    that names the sandbox is anything but finished; and when it calls `destroy` other than in a
    teardown it has claimed itself, which is `reclaimFinishedSandbox`, the session's row is finished. -/
theorem orphan_sweep_spares_live {config : SessionConfig} {thread : Nat} {r : Reaper}
    (run : Reaches InsertsInTime (boot clock) config) (labelled : Labelled config.trace)
    (sweeps : config.opOf thread = some (.sweep r)) (grace : 0 ≤ r.orphanGrace) :
    (∀ provider sandboxRef,
      config.pending thread = some (.destroySandbox provider sandboxRef) →
        ∀ sessionId row, rowOf config sessionId = some row → row.sandboxRef = sandboxRef →
          isTerminalStatus row.status = true) ∧
      ∀ provider context, config.pending thread = some (.destroy provider context) →
        ofTeardown (own thread config.trace) = false →
          ∀ row, rowOf config context.sessionId = some row → isTerminalStatus row.status = true := by
  constructor
  · intro provider sandboxRef pending sessionId row found handle
    exact finished_of_unclaimed run labelled grace (asks_when_pending run sweeps pending) found handle
  · intro provider context pending reclaims row found
    rcases asks_when_pending run sweeps pending with torn | ⟨seen, earlier, isPast, finished⟩
    · rw [torn] at reclaims
      cases reclaims
    · have member : (thread, ⟨.get context.sessionId, .ok (some seen)⟩) ∈ config.trace := by
        apply mem_own.mp
        rw [isPast]
        exact List.mem_cons_self
      have named : seen.sessionId = context.sessionId := credible_of_trace run member
      apply finished_since run member List.mem_cons_self finished
      rw [named]
      exact found

/-- A container of the provider, as it is listed. -/
def listedSandbox (sessionId : String) (expiresAtMs : Instant) : ManagedSandbox where
  providerId := .linux
  sandboxRef := "jtt-lab-" ++ sessionId
  sandboxKind := .container
  sessionId := sessionId
  labId := "lab-1"
  expiresAtMs := expiresAtMs
  phase := "running"

/-- A session starts after a sweep listed the sessions and before it asks the provider, which reports
    that session's sandbox and one nobody knows whose label is long past. -/
def strayListed : SessionConfig :=
  (boot 60001).after InsertsInTime
    ((startUntilActive "sess-0000001").take 1 ++ ([.spawn (.sweep labReaper)] : List SessionMove) ++ goOn 1 5 ++
      (startUntilActive "sess-0000001").drop 1 ++
      ([.resume 1 (.managed
        [listedSandbox "sess-0000001" 7260001, listedSandbox "sess-0000002" 1])] : List SessionMove))

theorem orphan_sweep_spares_live_strayListed :
    strayListed.pending 1 = some (.destroySandbox .linux "jtt-lab-sess-0000002") ∧
      ∀ sessionId row, rowOf strayListed sessionId = some row →
        row.sandboxRef = "jtt-lab-sess-0000002" → isTerminalStatus row.status = true := by
  have run : Reaches InsertsInTime (boot 60001) strayListed :=
    Config.reaches_after (by decide)
  have pending : strayListed.pending 1 =
      some (.destroySandbox .linux "jtt-lab-sess-0000002") := by decide
  have sweeps : strayListed.opOf 1 = some (.sweep labReaper) := rfl
  exact ⟨pending, (orphan_sweep_spares_live run (by decide) sweeps (by decide)).1
    .linux _ pending⟩

end JumptotechLabs.Session
