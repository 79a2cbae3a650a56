/-
Module: JumptotechLabs.Session.Clock
Layer: Session (services/lab-orchestrator/src/session/manager.ts, reaper.ts)
Purpose: What the stamps of a row say about time. The manager reads its clock in the argument of the
  store call that writes the reading, so in the source nothing happens between the two; `Prompt` is
  that condition on runs. On prompt runs every write carries a reading at least as new as the row it
  changes, so neither `statusChangedAt` nor `lastActivityAt` of a row ever goes back.
Main exports: readings_le_clock, Prompt, TimedStep, timed_step, Timely, timely_of_reaches,
  times_move_forward, times_forward_along_run, fresh_since
-/
import JumptotechLabs.Session.Stamps

namespace JumptotechLabs.Session

open JumptotechLabs.Core

variable {allowed : SessionConfig → SessionMove → Prop} {clock : Instant}

/-! ### The clock -/

/-- Only the passing of time moves the clock. -/
theorem respond_clock {command : Cmd} {world world' : World} {reply : Reply}
    {answer : Except Failure command.Ans}
    (responded : respond command world reply = some (answer, world')) :
    world'.clock = world.clock := by
  cases reply with
  | own =>
      cases command <;>
        first
        | cases responded
          rfl
        | cases responded
  | throw failure =>
      simp only [respond] at responded
      split at responded
      · cases responded
        rfl
      · cases responded
  | draws drawnId =>
      cases command with
      | newSessionId =>
          simp only [respond, outsideAnswer] at responded
          split at responded
          · cases responded
            rfl
          · cases responded
      | _ => cases responded
  | _ =>
      cases command <;>
        first
        | cases responded
          rfl
        | cases responded

/-- A reading is what the clock shows. -/
theorem respond_now {world world' : World} {reply : Reply} {reading : Instant}
    (responded : respond .now world reply = some (.ok reading, world')) :
    reading = world.clock := by
  cases reply with
  | own =>
      cases responded
      rfl
  | _ => cases responded

/-- Time passes forward. -/
theorem clock_le_evolve (elapsed : Nat) (world : World) :
    world.clock ≤ (sessionMachine.evolve elapsed world).clock :=
  Int.le_add_of_nonneg_right (Int.natCast_nonneg elapsed)

/-- The clock has not gone back since anybody read it. -/
theorem readings_le_clock {config : SessionConfig} (run : Reaches allowed (boot clock) config)
    {thread : Nat} {reading : Instant}
    (read : (thread, ⟨.now, .ok reading⟩) ∈ config.trace) : reading ≤ config.world.clock := by
  have all := Reaches.keeps_state
    (fun (world : World) (trace : Trace) =>
      ∀ thread reading, (thread, ⟨.now, .ok reading⟩) ∈ trace → reading ≤ world.clock)
    ?_ ?_ (.refl : Reaches allowed (boot clock) (boot clock)) run nofun
  · exact all thread reading read
  · intro elapsed world trace before thread reading read
    exact Int.le_trans (before thread reading read) (clock_le_evolve elapsed world)
  · intro before after thread op reply interaction _ _ happened kept other reading read
    rw [respond_clock happened.responded]
    rw [happened.recorded] at read
    rcases List.mem_cons.mp read with isNew | old
    · cases isNew
      exact Int.le_of_eq (respond_now happened.responded)
    · exact kept other reading old

/-! ### Reading and writing without a gap -/

/-- May `thread` go on? Whoever has just read the clock goes on first. -/
def mayGoOn (thread : Nat) : Trace → Bool
  | (other, interaction) :: _ => !isReading interaction || other == thread
  | [] => true

/-- Nothing happens between a look at the clock and the call the reading is an argument of. Time may
    pass. -/
def Prompt (config : SessionConfig) : SessionMove → Prop
  | .resume thread _ => mayGoOn thread config.trace = true
  | _ => True

instance : DecidableRel Prompt
  | config, .resume thread _ => inferInstanceAs (Decidable (mayGoOn thread config.trace = true))
  | _, .spawn _ => isTrue trivial
  | _, .evolve _ => isTrue trivial

/-- The command a thread is answered carried times it had just read. -/
theorem stamps_when_answered {before after : SessionConfig} {thread : Nat} {op : SessionOp}
    {reply : Reply} {interaction : SessionInteraction}
    (run : Reaches allowed (boot clock) before)
    (happened : Answered before after thread op reply interaction) :
    StampAsks (own thread before.trace) interaction.command := by
  obtain ⟨rest, waiting, _⟩ := happened.resumed
  exact Config.issued_of_reaches (D := fun _ => stampDiscipline) body_stamps
    (fun _ _ _ _ _ _ _ responded => stampCredible_of_respond responded) run waiting

/-! ### The times of a row -/

/-- A time of a row that was kept, or written with one of the readings. -/
def KeptOrRead (readings : List Instant) (old new : Instant) : Prop := new = old ∨ new ∈ readings

/-- What one answer makes of the times of a row: the status stamp moves exactly with the status. -/
structure TimedStep (readings : List Instant) (row row' : LabSession) : Prop where
  stamp : row'.status = row.status ∧ row'.statusChangedAt = row.statusChangedAt ∨
    row'.status ≠ row.status ∧ row'.statusChangedAt ∈ readings
  activity : KeptOrRead readings row.lastActivityAt row'.lastActivityAt

/-- A touch that was recorded shows the row with the time it was given. -/
theorem touched_at {world world' : World} {reply : Reply} {sessionId : String} {atTime : Instant}
    {row : LabSession}
    (responded : respond (.touchActivity sessionId atTime) world reply =
      some (.ok (some row), world')) : row.lastActivityAt = atTime := by
  cases reply with
  | own =>
      have answered : (world.store.touchActivity sessionId atTime).1 = some row :=
        Except.ok.inj (congrArg Prod.fst (Option.some.inj responded))
      cases ran : world.store.touchActivity sessionId atTime with
      | mk shownRow after =>
          rw [ran] at answered
          rcases InMemorySessionStore.touchActivity_cases ran with
            ⟨missed, _⟩ | ⟨current, _, _, written, _⟩
          · cases answered.symm.trans missed
          · cases answered.symm.trans written
            rfl
  | _ => cases responded

theorem command_of_touched {interaction : SessionInteraction} {sessionId : String}
    {row : LabSession} (left : effect interaction = some (.touched sessionId row)) :
    ∃ atTime, interaction = ⟨.touchActivity sessionId atTime, .ok (some row)⟩ := by
  unfold effect at left
  split at left <;> cases left
  exact ⟨_, rfl⟩

/-- Every row that is still there after an answer has had its times kept or written so. -/
theorem timed_step {before after : SessionConfig} {thread : Nat} {op : SessionOp} {reply : Reply}
    {interaction : SessionInteraction} {sessionId : String} {row row' : LabSession}
    (reached : Reaches allowed (boot clock) before)
    (happened : Answered before after thread op reply interaction)
    (found : rowOf before sessionId = some row) (found' : rowOf after sessionId = some row') :
    TimedStep (freshReadings (own thread before.trace)) row row' := by
  have asks := stamps_when_answered reached happened
  have step := row_step happened.responded sessionId
  generalize left : effect interaction = done at step
  rw [show before.world.store.get sessionId = some row from found,
    show after.world.store.get sessionId = some row' from found'] at step
  cases step with
  | kept elsewhere => exact ⟨.inl ⟨rfl, rfl⟩, .inl rfl⟩
  | @moved source target patch guard _ _ claimable guarded written =>
      cases command_of_moved left
      obtain ⟨⟨stamp, fresh, isStamp⟩, recent, _⟩ := asks
      have isStatus : row'.status = target := by
        rw [written]
        rfl
      have isActivity : row'.lastActivityAt = patch.lastActivityAt.getD row.lastActivityAt := by
        rw [written]
        rfl
      constructor
      · by_cases same : row.status = target
        · left
          constructor
          · rw [isStatus, same]
          · rw [written]
            simp [SessionPatch.apply, InMemorySessionStore.transitionPatch, same]
        · right
          constructor
          · rw [isStatus]
            exact Ne.symm same
          · rw [written]
            simpa [SessionPatch.apply, InMemorySessionStore.transitionPatch, same, isStamp]
              using fresh
      · cases carried : patch.lastActivityAt with
        | none =>
            left
            rw [isActivity, carried]
            rfl
        | some activity =>
            right
            rw [isActivity, carried]
            exact recent activity carried
  | touched active written =>
      obtain ⟨atTime, rfl⟩ := command_of_touched left
      have isTime := touched_at happened.responded
      constructor
      · exact .inl (by simp [written])
      · exact .inr (isTime ▸ asks)

/-- A row that was inserted carries readings of the thread that inserted it. -/
theorem timed_insertion {before after : SessionConfig} {thread : Nat} {op : SessionOp}
    {reply : Reply} {interaction : SessionInteraction} {sessionId : String} {row : LabSession}
    (reached : Reaches allowed (boot clock) before)
    (happened : Answered before after thread op reply interaction)
    (absent : rowOf before sessionId = none) (found : rowOf after sessionId = some row) :
    (thread, ⟨.now, .ok row.statusChangedAt⟩) ∈ before.trace ∧
      (thread, ⟨.now, .ok row.lastActivityAt⟩) ∈ before.trace := by
  have asks := stamps_when_answered reached happened
  have step := row_step happened.responded sessionId
  generalize left : effect interaction = done at step
  rw [show before.world.store.get sessionId = none from absent,
    show after.world.store.get sessionId = some row from found] at step
  cases step with
  | inserted uid named isRow =>
      cases command_of_admitted left
      subst isRow
      exact ⟨mem_own.mp asks.1, mem_own.mp asks.2⟩

/-! ### Prompt runs -/

/-- A row's times are no later than an instant. -/
def TimedBy (row : LabSession) (instant : Instant) : Prop :=
  row.statusChangedAt ≤ instant ∧ row.lastActivityAt ≤ instant

/-- What holds throughout a prompt run: only the thread that read the clock last has a reading it has
    not used yet, and no row has been written since with a newer one, or with one yet to come. -/
structure Timely (world : World) (trace : Trace) : Prop where
  first : ∀ thread, freshReadings (own thread trace) ≠ [] →
    ∃ interaction earlier, trace = (thread, interaction) :: earlier ∧ isReading interaction = true
  fresh : ∀ thread, ∀ reading ∈ freshReadings (own thread trace),
    ∀ sessionId row, world.store.get sessionId = some row → TimedBy row reading
  stored : ∀ sessionId row, world.store.get sessionId = some row → TimedBy row world.clock

/-- A row that was kept or written with one of the readings is bounded by whatever bounds both. -/
theorem TimedStep.timedBy {readings : List Instant} {row row' : LabSession} {instant : Instant}
    (step : TimedStep readings row row') (before : TimedBy row instant)
    (bounded : ∀ reading ∈ readings, reading ≤ instant) : TimedBy row' instant := by
  constructor
  · rcases step.stamp with ⟨_, same⟩ | ⟨_, read⟩
    · exact same ▸ before.1
    · exact bounded _ read
  · rcases step.activity with same | read
    · exact same ▸ before.2
    · exact bounded _ read

/-- The rows after an answer, if no reading of the thread is later than the clock. -/
theorem stored_step {before after : SessionConfig} {thread : Nat} {op : SessionOp} {reply : Reply}
    {interaction : SessionInteraction} (reached : Reaches allowed (boot clock) before)
    (happened : Answered before after thread op reply interaction)
    (timely : Timely before.world before.trace) {sessionId : String} {row : LabSession}
    (found : rowOf after sessionId = some row) : TimedBy row before.world.clock := by
  cases stored : rowOf before sessionId with
  | none =>
      obtain ⟨stamped, active⟩ := timed_insertion reached happened stored found
      exact ⟨readings_le_clock reached stamped, readings_le_clock reached active⟩
  | some current =>
      apply (timed_step reached happened stored found).timedBy (timely.stored _ _ stored)
      intro reading fresh
      exact readings_le_clock reached (mem_own.mp (read_of_fresh fresh))

/-- Looking at the clock changes no row. -/
theorem store_of_reading {command : Cmd} {world world' : World} {reply : Reply}
    {answer : Except Failure command.Ans} (reads : isReading ⟨command, answer⟩ = true)
    (responded : respond command world reply = some (answer, world')) :
    world'.store = world.store := by
  cases command with
  | now =>
      have step := store_step responded
      generalize world'.store = after at step
      cases step
      rfl
  | _ => cases reads

/-- The readings a thread has not used yet once it looks at the clock. -/
theorem freshReadings_of_reading {world world' : World} {reply : Reply}
    {interaction : SessionInteraction} {past : History} (reads : isReading interaction = true)
    (responded : respond interaction.command world reply = some (interaction.answer, world')) :
    freshReadings (interaction :: past) = world.clock :: freshReadings past := by
  obtain ⟨command, answer⟩ := interaction
  cases command with
  | now =>
      cases reply with
      | own =>
          cases responded
          rfl
      | _ => cases responded
  | _ => cases reads

theorem timely_step {before after : SessionConfig} {thread : Nat} {op : SessionOp} {reply : Reply}
    {interaction : SessionInteraction} (reached : Reaches allowed (boot clock) before)
    (prompt : Prompt before (.resume thread reply))
    (happened : Answered before after thread op reply interaction)
    (timely : Timely before.world before.trace) : Timely after.world after.trace := by
  have others : ∀ other, other ≠ thread → freshReadings (own other before.trace) = [] := by
    intro other differs
    by_contra waiting
    obtain ⟨latest, earlier, isTrace, reads⟩ := timely.first other waiting
    have goesOn : mayGoOn thread before.trace = true := prompt
    rw [isTrace] at goesOn
    simp [mayGoOn, reads, differs] at goesOn
  have recorded := happened.recorded
  have sameClock := respond_clock happened.responded
  constructor
  · intro other waiting
    by_cases same : other = thread
    · subst same
      refine ⟨interaction, before.trace, recorded, ?_⟩
      rw [recorded, own_cons_self] at waiting
      cases reads : isReading interaction with
      | true => rfl
      | false => exact absurd (freshReadings_other reads) waiting
    · rw [recorded, own_cons_of_ne (Ne.symm same)] at waiting
      exact absurd (others other same) waiting
  · intro other reading fresh sessionId row found
    by_cases same : other = thread
    · subst same
      rw [recorded, own_cons_self] at fresh
      cases reads : isReading interaction with
      | false =>
          rw [freshReadings_other reads] at fresh
          cases fresh
      | true =>
          rw [store_of_reading reads happened.responded] at found
          rw [freshReadings_of_reading reads happened.responded] at fresh
          rcases List.mem_cons.mp fresh with rfl | older
          · exact timely.stored sessionId row found
          · exact timely.fresh other reading older sessionId row found
    · rw [recorded, own_cons_of_ne (Ne.symm same), others other same] at fresh
      cases fresh
  · intro sessionId row found
    rw [sameClock]
    exact stored_step reached happened timely found

/-- Prompt runs are timely. -/
theorem timely_of_reaches {config : SessionConfig}
    (prompt : ∀ config move, allowed config move → Prompt config move)
    (run : Reaches allowed (boot clock) config) : Timely config.world config.trace := by
  apply Reaches.keeps_state Timely _ _ (.refl : Reaches allowed (boot clock) (boot clock)) run
  · constructor
    · exact fun thread waiting => absurd rfl waiting
    · exact fun thread reading fresh => nomatch fresh
    · exact fun sessionId row found => nomatch found
  · intro elapsed world trace timely
    refine ⟨timely.first, timely.fresh, fun sessionId row found => ?_⟩
    have bound := timely.stored sessionId row found
    have forward := clock_le_evolve elapsed world
    exact ⟨Int.le_trans bound.1 forward, Int.le_trans bound.2 forward⟩
  · intro before after thread op reply interaction reached meets happened timely
    exact timely_step reached (prompt _ _ meets) happened timely

/-- On a prompt run no answer takes the times of a row back. -/
theorem times_move_forward {before after : SessionConfig} {thread : Nat} {op : SessionOp}
    {reply : Reply} {interaction : SessionInteraction} {sessionId : String} {row row' : LabSession}
    (prompt : ∀ config move, allowed config move → Prompt config move)
    (reached : Reaches allowed (boot clock) before)
    (happened : Answered before after thread op reply interaction)
    (found : rowOf before sessionId = some row) (found' : rowOf after sessionId = some row') :
    row.statusChangedAt ≤ row'.statusChangedAt ∧ row.lastActivityAt ≤ row'.lastActivityAt := by
  have timely := timely_of_reaches prompt reached
  have step := timed_step reached happened found found'
  constructor
  · rcases step.stamp with ⟨_, same⟩ | ⟨_, read⟩
    · exact Int.le_of_eq same.symm
    · exact (timely.fresh _ _ read _ _ found).1
  · rcases step.activity with same | read
    · exact Int.le_of_eq same.symm
    · exact (timely.fresh _ _ read _ _ found).2

/-- Nor does a whole run. -/
theorem times_forward_along_run {first last : SessionConfig} {sessionId : String}
    {row row' : LabSession} (prompt : ∀ config move, allowed config move → Prompt config move)
    (reached : Reaches allowed (boot clock) first) (run : Reaches allowed first last)
    (found : rowOf first sessionId = some row) (found' : rowOf last sessionId = some row') :
    row.statusChangedAt ≤ row'.statusChangedAt ∧ row.lastActivityAt ≤ row'.lastActivityAt := by
  have admitted := stored_admitted reached found
  apply settled_along_run (fun later =>
    row.statusChangedAt ≤ later.statusChangedAt ∧ row.lastActivityAt ≤ later.lastActivityAt)
    _ reached run admitted _ row' found'
  · intro before after thread op reply interaction current next reached _ happened stored stored'
      kept
    have forward := times_move_forward prompt reached happened stored stored'
    exact ⟨Int.le_trans kept.1 forward.1, Int.le_trans kept.2 forward.2⟩
  · intro row'' found''
    rw [found] at found''
    cases found''
    exact ⟨Int.le_refl _, Int.le_refl _⟩

/-- From a moment at which nobody holds a reading, every reading that is used was taken later. -/
theorem fresh_since {first last : SessionConfig} (run : Reaches allowed first last)
    (unread : ∀ thread, freshReadings (own thread first.trace) = []) {thread : Nat}
    {reading : Instant} (fresh : reading ∈ freshReadings (own thread last.trace)) :
    first.world.clock ≤ reading := by
  have since := Reaches.keeps_state
    (fun (world : World) (trace : Trace) => first.world.clock ≤ world.clock ∧
      ∀ thread, ∀ reading ∈ freshReadings (own thread trace), first.world.clock ≤ reading)
    ?_ ?_ (.refl : Reaches allowed first first) run ?_
  · exact since.2 thread reading fresh
  · intro elapsed world trace kept
    exact ⟨Int.le_trans kept.1 (clock_le_evolve elapsed world), kept.2⟩
  · intro before after thread op reply interaction _ _ happened kept
    refine ⟨by rw [respond_clock happened.responded]; exact kept.1, fun other reading fresh => ?_⟩
    rw [happened.recorded] at fresh
    by_cases same : other = thread
    · subst same
      rw [own_cons_self] at fresh
      cases reads : isReading interaction with
      | false =>
          rw [freshReadings_other reads] at fresh
          cases fresh
      | true =>
          rw [freshReadings_of_reading reads happened.responded] at fresh
          rcases List.mem_cons.mp fresh with rfl | older
          · exact kept.1
          · exact kept.2 other reading older
    · rw [own_cons_of_ne (Ne.symm same)] at fresh
      exact kept.2 other reading fresh
  · constructor
    · exact Int.le_refl _
    · intro thread reading fresh
      rw [unread thread] at fresh
      cases fresh

end JumptotechLabs.Session
