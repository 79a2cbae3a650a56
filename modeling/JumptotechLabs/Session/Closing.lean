/-
Module: JumptotechLabs.Session.Closing
Layer: Session (services/lab-orchestrator/src/session/manager.ts, reaper.ts)
Purpose: The closing event of a session. An ending is recorded once, only the thread that recorded it
  tells the listener, and it tells it once.
Main exports: recordsEnding, endings_le_one, closingCalls, closing_calls_le_one
-/
import JumptotechLabs.Session.Lifecycle

namespace JumptotechLabs.Session

open JumptotechLabs.Core

variable {allowed : SessionConfig → SessionMove → Prop} {clock : Instant}

/-! ### Endings and closing events -/

/-- Is this the write that records the ending of a teardown of the session? -/
def Effect.finishes (sessionId : String) : Effect → Bool
  | .moved id [.ending] .ended _ _ _ => id == sessionId
  | .moved id [.expiring] .expired _ _ _ => id == sessionId
  | _ => false

/-- Is this the session's closing event? -/
def Effect.closes (sessionId : String) : Effect → Bool
  | .closed event => event.sessionId == sessionId
  | _ => false

/-- Does this command tell the listener that the session closed? -/
def tellsClosed (sessionId : String) : Cmd → Bool
  | .onSessionClosed event => event.sessionId == sessionId
  | _ => false

/-- Did this answered command record the session's ending? -/
def recordsEnding (sessionId : String) (interaction : SessionInteraction) : Bool :=
  (effect interaction).any (Effect.finishes sessionId)

/-- Is the thread in a call of the listener for the session? -/
def tellingClosed (sessionId : String) (config : SessionConfig) (thread : Nat) : Bool :=
  (config.pending thread).any (tellsClosed sessionId)

/-- The calls of the listener for a session: those that came back, and those under way. -/
def closingCalls (sessionId : String) (config : SessionConfig) : Nat :=
  config.trace.countP (fun event => tellsClosed sessionId event.2.command) +
    (List.range config.threads.length).countP (tellingClosed sessionId config)

theorem recordsEnding_of_pair {sessionId : String} {inProgress done : SessionStatus}
    {patch : SessionPatch} {row : LabSession} (pair : TeardownPair inProgress done) :
    (Effect.moved sessionId [inProgress] done patch {} row).finishes sessionId = true := by
  cases pair <;> simp [Effect.finishes]

/-- The ending of a session is recorded by a write from its in-flight status. -/
theorem moved_of_recordsEnding {sessionId : String} {interaction : SessionInteraction}
    (records : recordsEnding sessionId interaction = true) :
    ∃ inProgress done patch guard row, TeardownPair inProgress done ∧
      interaction = ⟨.transition sessionId [inProgress] done patch guard, .ok (some row)⟩ := by
  unfold recordsEnding at records
  cases left : effect interaction with
  | none =>
      rw [left] at records
      cases records
  | some done =>
      rw [left, Option.any_some] at records
      unfold Effect.finishes at records
      split at records
      · rw [beq_iff_eq] at records
        subst records
        exact ⟨_, _, _, _, _, .student, command_of_moved left⟩
      · rw [beq_iff_eq] at records
        subst records
        exact ⟨_, _, _, _, _, .platform, command_of_moved left⟩
      · cases records

/-- An ending is recorded once: after the first, the row is finished for good. -/
theorem ending_not_recorded_again {before after : SessionConfig} {thread : Nat} {op : SessionOp}
    {reply : Reply} {interaction : SessionInteraction} {sessionId : String}
    (run : Reaches allowed (boot clock) before)
    (happened : Answered before after thread op reply interaction)
    (records : recordsEnding sessionId interaction = true) :
    ∀ event ∈ before.trace, recordsEnding sessionId event.2 = false := by
  intro event member
  by_contra again
  obtain ⟨inProgress, done, patch, guard, row, pair, rfl⟩ := moved_of_recordsEnding records
  obtain ⟨other, interaction⟩ := event
  obtain ⟨inProgress', done', patch', guard', row', pair', rfl⟩ :=
    moved_of_recordsEnding (Bool.not_eq_false _ ▸ again)
  obtain ⟨named, isDone, _⟩ := credible_of_trace run member
  have finished := (seen_moves_on run member (List.mem_singleton.mpr rfl)).2
  have step := row_step happened.responded sessionId
  generalize stored : before.world.store.get sessionId = old at step
  generalize after.world.store.get sessionId = new at step
  cases step with
  | kept elsewhere => exact absurd rfl (elsewhere _ rfl)
  | @moved _ _ _ _ current _ claimable guarded written =>
      rw [named] at finished
      have onward := (finished current stored).1
      rw [List.mem_singleton.mp claimable, isDone] at onward
      revert onward
      cases pair <;> cases pair' <;> decide

/-- At most one write of a run records the ending of a session. -/
theorem endings_le_one {config : SessionConfig} (run : Reaches allowed (boot clock) config)
    (sessionId : String) :
    config.trace.countP (fun event => recordsEnding sessionId event.2) ≤ 1 := by
  refine Reaches.keeps_state
    (fun _ (trace : Trace) => trace.countP (fun event => recordsEnding sessionId event.2) ≤ 1)
    (fun _ _ _ kept => kept) ?_ (.refl : Reaches allowed (boot clock) (boot clock)) run
    (Nat.zero_le _)
  intro before after thread op reply interaction reached _ happened atMost
  rw [happened.recorded, List.countP_cons]
  by_cases records : recordsEnding sessionId interaction = true
  · have none : before.trace.countP (fun event => recordsEnding sessionId event.2) = 0 := by
      rw [List.countP_eq_zero]
      intro event member
      rw [ending_not_recorded_again reached happened records event member]
      exact Bool.false_ne_true
    rw [none]
    split <;> omega
  · rw [if_neg records]
    exact atMost

/-! ### Only the recorder tells the listener -/

theorem tellsClosed_eq (sessionId : String) (interaction : SessionInteraction) :
    tellsClosed sessionId interaction.command =
      (effect interaction).any (Effect.closes sessionId) := by
  obtain ⟨command, answer⟩ := interaction
  cases command with
  | onSessionClosed event => rfl
  | createWithinLimits session limits => rcases answer with failure | (_ | _) <;> rfl
  | transition id source target patch guard => rcases answer with failure | (_ | _) <;> rfl
  | touchActivity id atTime => rcases answer with failure | (_ | _) <;> rfl
  | delete id => cases answer <;> rfl
  | _ => rfl

/-- Every closing event directly follows the write that recorded the ending. -/
def ClosesAfterEnding : List Effect → Prop
  | [] => True
  | done :: earlier =>
      ClosesAfterEnding earlier ∧
        ∀ sessionId, done.closes sessionId = true →
          ∃ recorded rest, earlier = recorded :: rest ∧ recorded.finishes sessionId = true

theorem closesAfterEnding_of_disciplined {op : SessionOp} {past : History}
    (disciplined : ∀ later interaction earlier, past = later ++ interaction :: earlier →
      Issued op earlier interaction.command) : ClosesAfterEnding (effects past) := by
  induction past with
  | nil => trivial
  | cons interaction earlier ih =>
      have before : ClosesAfterEnding (effects earlier) := by
        apply ih
        intro later other rest split
        exact disciplined (interaction :: later) other rest (by rw [split]; rfl)
      cases left : effect interaction with
      | none =>
          rw [effects_cons_none left]
          exact before
      | some done =>
          rw [effects_cons_some left]
          refine ⟨before, fun sessionId closes => ?_⟩
          cases done with
          | closed event =>
              obtain ⟨answer, rfl⟩ := command_of_closed left
              obtain ⟨row, inProgress, patch, rest, recorded, pair, _⟩ :=
                (disciplined [] _ earlier rfl).of_onSessionClosed
              rw [Effect.closes, beq_iff_eq] at closes
              subst closes
              exact ⟨_, rest, recorded, recordsEnding_of_pair pair⟩
          | _ => cases closes

/-- So a thread has told the listener at most as often as it recorded an ending, and less often while
    the ending is the last thing it did. -/
theorem closes_le_finishes {done : List Effect} (paired : ClosesAfterEnding done)
    (sessionId : String) :
    done.countP (Effect.closes sessionId) ≤ done.countP (Effect.finishes sessionId) ∧
      ∀ recorded rest, done = recorded :: rest → recorded.finishes sessionId = true →
        done.countP (Effect.closes sessionId) < done.countP (Effect.finishes sessionId) := by
  have exclusive : ∀ left : Effect, left.finishes sessionId = true →
      left.closes sessionId = false := by
    intro left finishes
    cases left with
    | closed event => cases finishes
    | _ => rfl
  induction done with
  | nil => exact ⟨Nat.le_refl _, fun _ _ impossible => nomatch impossible⟩
  | cons head earlier ih =>
      obtain ⟨before, follows⟩ := paired
      obtain ⟨atMost, strict⟩ := ih before
      have headFinishes : head.finishes sessionId = true →
          (head :: earlier).countP (Effect.closes sessionId) <
            (head :: earlier).countP (Effect.finishes sessionId) := by
        intro finishes
        rw [List.countP_cons_of_pos finishes,
          List.countP_cons_of_neg (by rw [exclusive head finishes]; exact Bool.false_ne_true)]
        omega
      constructor
      · by_cases closes : head.closes sessionId = true
        · obtain ⟨recorded, rest, isEarlier, finishes⟩ := follows sessionId closes
          have less := strict recorded rest isEarlier finishes
          rw [List.countP_cons_of_pos closes]
          have grows : earlier.countP (Effect.finishes sessionId) ≤
              (head :: earlier).countP (Effect.finishes sessionId) := by
            rw [List.countP_cons]
            exact Nat.le_add_right _ _
          omega
        · rw [List.countP_cons_of_neg closes]
          by_cases finishes : head.finishes sessionId = true
          · rw [List.countP_cons_of_pos finishes]
            omega
          · rw [List.countP_cons_of_neg finishes]
            exact atMost
      · intro recorded rest isList finishes
        cases isList
        exact headFinishes finishes

theorem pending_of_tellingClosed {sessionId : String} {config : SessionConfig} {thread : Nat}
    (telling : tellingClosed sessionId config thread = true) :
    ∃ event, config.pending thread = some (.onSessionClosed event) ∧
      event.sessionId = sessionId := by
  unfold tellingClosed at telling
  cases pending : config.pending thread with
  | none =>
      rw [pending] at telling
      cases telling
  | some command =>
      rw [pending, Option.any_some] at telling
      cases command with
      | onSessionClosed event => exact ⟨event, rfl, beq_iff_eq.mp telling⟩
      | _ => cases telling

/-- The calls of one thread, those under way included, are no more than the endings it recorded. -/
theorem own_calls_le_endings {config : SessionConfig} (run : Reaches allowed (boot clock) config)
    (sessionId : String) (thread : Nat) :
    (own thread config.trace).countP (fun done => tellsClosed sessionId done.command) +
        (if tellingClosed sessionId config thread = true then 1 else 0) ≤
      (own thread config.trace).countP (recordsEnding sessionId) := by
  have asEffects : ∀ past : History,
      past.countP (fun done => tellsClosed sessionId done.command) =
          (effects past).countP (Effect.closes sessionId) ∧
        past.countP (recordsEnding sessionId) =
          (effects past).countP (Effect.finishes sessionId) := by
    intro past
    rw [countP_effects, countP_effects]
    refine ⟨?_, rfl⟩
    congr 1
    funext done
    exact tellsClosed_eq sessionId done
  rw [(asEffects _).1, (asEffects _).2]
  cases runs : config.opOf thread with
  | none =>
      -- A thread that does not exist has done nothing and waits on nothing.
      have beyond : config.threads.length ≤ thread := by
        rw [Config.opOf, Option.map_eq_none_iff, List.getElem?_eq_none_iff] at runs
        exact runs
      have idle : config.pending thread = none := by
        rw [Config.pending, List.getElem?_eq_none_iff.mpr beyond]
      rw [Config.numbered_of_reaches run thread beyond, tellingClosed, idle]
      exact Nat.le_refl _
  | some op =>
      have paired : ClosesAfterEnding (effects (own thread config.trace)) := by
        apply closesAfterEnding_of_disciplined
        intro later interaction earlier split
        exact Config.disciplined_of_reaches (D := discipline) body_keeps
          (fun _ _ _ _ _ _ _ responded => credible_of_respond responded) run runs split
      obtain ⟨atMost, strict⟩ := closes_le_finishes paired sessionId
      split
      · rename_i telling
        obtain ⟨event, pending, rfl⟩ := pending_of_tellingClosed telling
        obtain ⟨op', _, issued⟩ := issued_when_pending run pending
        obtain ⟨row, inProgress, patch, rest, recorded, pair, _⟩ := issued.of_onSessionClosed
        exact strict _ rest recorded (recordsEnding_of_pair pair)
      · exact atMost

/-- Two entries that count are one entry, where at most one counts. -/
theorem eq_of_countP_le_one {α : Type} {counts : α → Bool} {items : List α}
    (atMost : items.countP counts ≤ 1) {one two : α} (inOne : one ∈ items) (inTwo : two ∈ items)
    (countsOne : counts one = true) (countsTwo : counts two = true) : one = two := by
  rw [List.countP_eq_length_filter] at atMost
  have first := List.mem_filter.mpr ⟨inOne, countsOne⟩
  have second := List.mem_filter.mpr ⟨inTwo, countsTwo⟩
  generalize items.filter counts = counted at atMost first second
  match counted, atMost with
  | [], _ => cases first
  | [single], _ => rw [List.mem_singleton.mp first, List.mem_singleton.mp second]

/-- The listener is called at most once for a session. -/
theorem closing_calls_le_one {config : SessionConfig} (run : Reaches allowed (boot clock) config)
    (sessionId : String) : closingCalls sessionId config ≤ 1 := by
  have endings := endings_le_one run sessionId
  -- At most one thread has recorded the ending, so at most one calls.
  obtain ⟨recorder, others⟩ : ∃ recorder, ∀ thread, thread ≠ recorder →
      (own thread config.trace).countP (recordsEnding sessionId) = 0 := by
    by_cases recorded : ∃ event ∈ config.trace, recordsEnding sessionId event.2 = true
    · obtain ⟨event, member, records⟩ := recorded
      refine ⟨event.1, fun thread differs => ?_⟩
      rw [List.countP_eq_zero]
      intro interaction inOwn again
      have same := eq_of_countP_le_one endings (mem_own.mp inOwn) member again records
      exact differs (congrArg Prod.fst same)
    · refine ⟨0, fun thread _ => ?_⟩
      rw [List.countP_eq_zero]
      intro interaction inOwn records
      exact recorded ⟨(thread, interaction), mem_own.mp inOwn, records⟩
  have silent : ∀ thread, thread ≠ recorder →
      (own thread config.trace).countP (fun done => tellsClosed sessionId done.command) = 0 ∧
        tellingClosed sessionId config thread = false := by
    intro thread differs
    have bounded := own_calls_le_endings run sessionId thread
    rw [others thread differs] at bounded
    cases telling : tellingClosed sessionId config thread with
    | true =>
        rw [telling, if_pos rfl] at bounded
        omega
    | false => exact ⟨by omega, rfl⟩
  have answered : config.trace.countP (fun event => tellsClosed sessionId event.2.command) =
      (own recorder config.trace).countP (fun done => tellsClosed sessionId done.command) := by
    rw [countP_own]
    refine List.countP_congr fun event member => ?_
    by_cases same : event.1 = recorder
    · simp [same]
    · have none := List.countP_eq_zero.mp (silent event.1 same).1 event.2 (mem_own.mpr member)
      simp [same, none]
  have underWay : (List.range config.threads.length).countP (tellingClosed sessionId config) ≤
      if tellingClosed sessionId config recorder = true then 1 else 0 := by
    have onlyRecorder : (List.range config.threads.length).countP
        (tellingClosed sessionId config) ≤ (List.range config.threads.length).countP
          fun thread => thread == recorder && tellingClosed sessionId config recorder := by
      refine List.countP_mono_left fun thread _ telling => ?_
      by_cases same : thread = recorder
      · simpa [same] using telling
      · rw [(silent thread same).2] at telling
        cases telling
    refine le_trans onlyRecorder ?_
    cases tellingClosed sessionId config recorder with
    | true =>
        simp only [Bool.and_true, if_true]
        exact List.nodup_iff_count_le_one.mp List.nodup_range recorder
    | false => simp
  have bounded := own_calls_le_endings run sessionId recorder
  have few : (own recorder config.trace).countP (recordsEnding sessionId) ≤ 1 := by
    rw [countP_own]
    refine le_trans (List.countP_mono_left fun event _ counted => ?_) endings
    exact (Bool.and_eq_true _ _ ▸ counted).2
  rw [closingCalls, answered]
  omega

end JumptotechLabs.Session
