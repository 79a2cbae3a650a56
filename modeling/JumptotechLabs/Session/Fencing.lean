/-
Module: JumptotechLabs.Session.Fencing
Layer: Session (services/lab-orchestrator/src/session/manager.ts)
Purpose: The fence of a reset. A reset claims RESETTING and releases it with a write that is guarded by
  the claim's own status stamp. The stamp is a time in milliseconds, not a token: the fence holds as
  long as no reset claims a session with the stamp of another reset of it that is still rebuilding,
  and a shutdown's hand-over within one millisecond breaks it.
Main exports: lastMove, Rebuilding, FreshStamp, reset_release_holds_claim
-/
import JumptotechLabs.Session.Lifecycle

namespace JumptotechLabs.Session

open JumptotechLabs.Core

variable {allowed : SessionConfig → SessionMove → Prop} {clock : Instant}

/-! ### Who moved a session last -/

/-- The move an answered command made of a session's status. -/
def moveOf (sessionId : String) (interaction : SessionInteraction) : Option SessionStatus :=
  match effect interaction with
  | some (.moved id _ target _ _ _) => if id = sessionId then some target else none
  | _ => none

/-- A command that does not write the row moves nothing. -/
theorem moveOf_eq_none {sessionId : String} {interaction : SessionInteraction}
    (elsewhere : ∀ left, effect interaction = some left → ¬ left.writes sessionId) :
    moveOf sessionId interaction = none := by
  unfold moveOf
  cases left : effect interaction with
  | none => rfl
  | some done =>
      cases done with
      | moved id source target patch guard row => exact if_neg (elsewhere _ left)
      | _ => rfl

/-- The thread that moved a session's status last, and where to. -/
def lastMove (sessionId : String) : Trace → Option (Nat × SessionStatus)
  | [] => none
  | (thread, interaction) :: earlier =>
      match moveOf sessionId interaction with
      | some target => some (thread, target)
      | none => lastMove sessionId earlier

/-- The session whose reset an operation is. -/
def resets : SessionOp → Option String
  | .reset _ sessionId => some sessionId
  | _ => none

/-- The session an answered command released from RESETTING. -/
def released (interaction : SessionInteraction) : Option String :=
  match effect interaction with
  | some (.moved id [.resetting] _ _ _ _) => some id
  | _ => none

/-- The stamp of a reset's claim, if the effects are those of a reset that has claimed the session and
    at most called the provider since. -/
def claimStamp (sessionId : String) : List Effect → Option Instant
  | [.moved id _ .resetting _ _ claimed] =>
      if id = sessionId then some claimed.statusChangedAt else none
  | .rebuilt _ _ :: earlier => claimStamp sessionId earlier
  | _ => none

/-- The stamp of a reset that is still rebuilding: it has claimed the session and has not tried to
    release it. -/
def rebuildingSince (thread : Nat) (sessionId : String) (trace : Trace) : Option Instant :=
  if (own thread trace).all fun interaction => !releasesReset sessionId interaction.command then
    claimStamp sessionId (effects (own thread trace))
  else none

/-- Does this move keep every reset's stamp to itself? It does unless it lets a reset claim a session
    with the stamp of another reset of it that is still rebuilding. -/
def claimsFreshStamp (config : SessionConfig) : SessionMove → Bool
  | .resume thread .own =>
      match config.pending thread with
      | some (.transition sessionId _ .resetting patch _) =>
          config.trace.all fun event =>
            event.1 == thread ||
              !(rebuildingSince event.1 sessionId config.trace).any
                (patch.statusChangedAt == some ·)
      | _ => true
  | _ => true

/-- No reset claims a session with the stamp of another reset of it that is still rebuilding. -/
def FreshStamp (config : SessionConfig) (move : SessionMove) : Prop :=
  claimsFreshStamp config move = true

instance : DecidableRel FreshStamp := fun config move =>
  inferInstanceAs (Decidable (claimsFreshStamp config move = true))

theorem FreshStamp.ne {config : SessionConfig} {thread other : Nat}
    {sessionId : String} {source : List SessionStatus} {patch : SessionPatch}
    {guard : TransitionGuard} {interaction : SessionInteraction} {stamp : Instant}
    (fresh : FreshStamp config (.resume thread .own))
    (claiming : config.pending thread = some (.transition sessionId source .resetting patch guard))
    (member : (other, interaction) ∈ config.trace) (differs : other ≠ thread)
    (rebuilding : rebuildingSince other sessionId config.trace = some stamp) :
    patch.statusChangedAt ≠ some stamp := by
  simp only [FreshStamp, claimsFreshStamp, claiming, List.all_eq_true] at fresh
  have apart := fresh _ member
  simpa [differs, rebuilding] using apart

theorem claimStamp_of_rebuilt {sessionId : String} {rebuilt : List Effect}
    {source : List SessionStatus} {patch : SessionPatch} {guard : TransitionGuard}
    {claimed : LabSession}
    (onlyRebuilt : ∀ done ∈ rebuilt, ∃ context answer, done = .rebuilt context answer) :
    claimStamp sessionId (rebuilt ++ [Effect.moved sessionId source .resetting patch guard claimed]) =
      some claimed.statusChangedAt := by
  induction rebuilt with
  | nil => simp [claimStamp]
  | cons done rest ih =>
      obtain ⟨context, answer, rfl⟩ := onlyRebuilt done List.mem_cons_self
      exact ih fun other member => onlyRebuilt other (List.mem_cons_of_mem _ member)

/-! ### The claim a RESETTING row stands for -/

/-- A write to RESETTING is a reset's claim. -/
theorem Issued.of_resetting {op : SessionOp} {past : History} {sessionId : String}
    {source : List SessionStatus} {patch : SessionPatch} {guard : TransitionGuard}
    (issued : Issued op past (.transition sessionId source .resetting patch guard)) :
    source = resettableStatuses ∧ ∃ m stamp, op = .reset m sessionId ∧ effects past = [] ∧
      patch.statusChangedAt = some stamp := by
  cases issued with
  | quiet isFree => cases isFree
  | claimReset resets first => exact ⟨rfl, _, _, resets, first, rfl⟩
  | release resets claimed onlyRebuilt untried releases =>
      rcases releases with impossible | impossible
      · cases impossible
      · cases impossible
  | defer defers =>
      rcases defers with ⟨_, impossible, _⟩ | ⟨_, impossible, _⟩
      · cases impossible
      · cases impossible
  | claim claims => cases claims
  | finish destroyed gone pair reasoned => cases pair

/-- The thread's claim is the last move of the session, and the row carries that claim's stamp. -/
def HeldBy (thread : Nat) (sessionId : String) (row : LabSession) (trace : Trace) : Prop :=
  ∃ later earlier source patch guard claimed,
    trace = later ++
        (thread, ⟨.transition sessionId source .resetting patch guard, .ok (some claimed)⟩) ::
          earlier ∧
      (∀ event ∈ later, moveOf sessionId event.2 = none) ∧
      claimed.statusChangedAt = row.statusChangedAt

theorem HeldBy.cons {thread : Nat} {sessionId : String} {row row' : LabSession} {trace : Trace}
    (held : HeldBy thread sessionId row trace) {event : Nat × SessionInteraction}
    (still : moveOf sessionId event.2 = none)
    (sameStamp : row'.statusChangedAt = row.statusChangedAt) :
    HeldBy thread sessionId row' (event :: trace) := by
  obtain ⟨later, earlier, source, patch, guard, claimed, split, unmoved, stamped⟩ := held
  refine ⟨event :: later, earlier, source, patch, guard, claimed, ?_, ?_, ?_⟩
  · rw [split]
    rfl
  · intro other member
    rcases List.mem_cons.mp member with rfl | old
    · exact still
    · exact unmoved other old
  · rw [stamped, sameStamp]

/-- A row that is RESETTING is held by the last claim on it. -/
theorem held_of_resetting {config : SessionConfig} (run : Reaches allowed (boot clock) config)
    {sessionId : String} {row : LabSession} (found : rowOf config sessionId = some row)
    (resetting : row.status = .resetting) : ∃ thread, HeldBy thread sessionId row config.trace := by
  refine Reaches.keeps_state
    (fun (world : World) (trace : Trace) => ∀ row, world.store.get sessionId = some row →
      row.status = .resetting → ∃ thread, HeldBy thread sessionId row trace)
    (fun _ _ _ kept => kept) ?_ (.refl : Reaches allowed (boot clock) (boot clock)) run
    (fun row impossible => nomatch impossible) row found resetting
  intro before after thread op reply interaction reached _ happened kept row' found' resetting'
  have issued := issued_when_answered reached happened
  have step := row_step happened.responded sessionId
  generalize left : effect interaction = done at step
  generalize stored : before.world.store.get sessionId = old at step
  rw [found'] at step
  rw [happened.recorded]
  cases step with
  | kept elsewhere =>
      obtain ⟨holder, held⟩ := kept row' stored resetting'
      refine ⟨holder, held.cons (moveOf_eq_none ?_) rfl⟩
      rw [left]
      exact elsewhere
  | inserted uid named isRow =>
      cases command_of_admitted left
      obtain ⟨_, _, _, _, _, _, _, _, _, isCandidate, _⟩ := issued.of_createWithinLimits
      rw [isRow, isCandidate] at resetting'
      cases resetting'
  | @moved source target patch guard current _ claimable guarded written =>
      cases command_of_moved left
      have isTarget : row'.status = target := by
        rw [written]
        rfl
      rw [isTarget] at resetting'
      subst resetting'
      have unmoved : ∀ event ∈ ([] : Trace), moveOf sessionId event.2 = none := by
        intro event impossible
        cases impossible
      exact ⟨thread, [], before.trace, source, patch, guard, row', rfl, unmoved, rfl⟩
  | @touched current _ atTime active written =>
      obtain ⟨holder, held⟩ := kept current stored (by rw [written] at resetting'; exact resetting')
      refine ⟨holder, held.cons ?_ (by rw [written])⟩
      simp only [moveOf, left]

theorem HeldBy.lastMove {thread : Nat} {sessionId : String} {row : LabSession} {trace : Trace}
    (held : HeldBy thread sessionId row trace) :
    lastMove sessionId trace = some (thread, .resetting) := by
  obtain ⟨later, earlier, source, patch, guard, claimed, rfl, unmoved, _⟩ := held
  induction later with
  | nil => simp [Session.lastMove, moveOf, effect]
  | cons event later ih =>
      have still := unmoved event List.mem_cons_self
      have rest := ih fun other member => unmoved other (List.mem_cons_of_mem _ member)
      simp only [List.cons_append, Session.lastMove, still]
      exact rest

/-! ### The fence -/

/-- What a reset had done when it issued its release. -/
theorem Issued.of_release {m : Manager} {own : String} {past : History} {sessionId : String}
    {target : SessionStatus} {patch : SessionPatch} {guard : TransitionGuard}
    (issued : Issued (.reset m own) past (.transition sessionId [.resetting] target patch guard)) :
    ∃ rebuilt patch' guard' row,
      effects past =
        rebuilt ++ [Effect.moved sessionId resettableStatuses .resetting patch' guard' row] ∧
        (∀ done ∈ rebuilt, ∃ context answer, done = .rebuilt context answer) ∧
        Untried sessionId past ∧ guard = { statusChangedAt := some row.statusChangedAt } := by
  generalize isSource : [SessionStatus.resetting] = source at issued
  cases issued with
  | quiet isFree => cases isFree
  | release resets claimed onlyRebuilt untried releases =>
      exact ⟨_, _, _, _, claimed, onlyRebuilt, untried, rfl⟩
  | recover platform => cases platform
  | claim claims => cases claims <;> cases isSource
  | finish destroyed gone pair reasoned => cases pair <;> cases isSource
  | _ => cases isSource

/-- A claim's stamp is the stamp it writes. -/
theorem stamp_of_claim {before after : SessionConfig} {thread : Nat} {op : SessionOp}
    {reply : Reply} {sessionId : String} {source : List SessionStatus} {patch : SessionPatch}
    {guard : TransitionGuard} {claimed : LabSession} (run : Reaches allowed (boot clock) before)
    (happened : Answered before after thread op reply
      ⟨.transition sessionId source .resetting patch guard, .ok (some claimed)⟩) :
    patch.statusChangedAt = some claimed.statusChangedAt := by
  obtain ⟨rfl, m, stamp, _, _, stamped⟩ := (issued_when_answered run happened).of_resetting
  have step := row_step happened.responded sessionId
  generalize before.world.store.get sessionId = old at step
  generalize after.world.store.get sessionId = new at step
  cases step with
  | kept elsewhere => exact absurd rfl (elsewhere _ rfl)
  | @moved _ _ _ _ current _ claimable guarded written =>
      have moves : current.status ≠ .resetting := by
        intro same
        rw [same] at claimable
        exact absurd claimable (by decide)
      rw [written, stamped]
      simp [SessionPatch.apply, InMemorySessionStore.transitionPatch, moves, stamped]

/-- A reset that is about to release was rebuilding at every earlier point at which it had claimed. -/
theorem rebuildingSince_of_suffix {thread : Nat} {sessionId : String} {earlier trace : Trace}
    {rebuilt : List Effect} {source : List SessionStatus} {patch : SessionPatch}
    {guard : TransitionGuard} {claimed : LabSession} (still : earlier <:+ trace)
    (recorded : effects (own thread trace) =
      rebuilt ++ [Effect.moved sessionId source .resetting patch guard claimed])
    (onlyRebuilt : ∀ done ∈ rebuilt, ∃ context answer, done = .rebuilt context answer)
    (untried : Untried sessionId (own thread trace))
    (hasClaimed : effects (own thread earlier) ≠ []) :
    rebuildingSince thread sessionId earlier = some claimed.statusChangedAt := by
  have suffix := effects_suffix (own_suffix thread still)
  rw [recorded, List.suffix_concat_iff] at suffix
  rcases suffix with none | ⟨rebuilt', isRest, rest⟩
  · exact absurd none hasClaimed
  · have unreleased : ((own thread earlier).all fun interaction =>
        !releasesReset sessionId interaction.command) = true := by
      rw [List.all_eq_true]
      intro interaction member
      rw [untried interaction ((own_suffix thread still).subset member)]
      rfl
    rw [rebuildingSince, if_pos unreleased, isRest]
    exact claimStamp_of_rebuilt fun done member => onlyRebuilt done (rest.subset member)

/-- Reset fencing. In every run in which no reset claims a session with the stamp of another reset of it
    that is still rebuilding, a reset's own release, to ACTIVE or to DEGRADED, only succeeds while its
    own claim is the last move of the session. -/
theorem reset_release_holds_claim {config : SessionConfig}
    (run : Reaches FreshStamp (boot clock) config) {later earlier : Trace} {thread : Nat}
    {interaction : SessionInteraction} {sessionId : String}
    (split : config.trace = later ++ (thread, interaction) :: earlier)
    (ownReset : (config.opOf thread).bind resets = some sessionId)
    (release : released interaction = some sessionId) :
    lastMove sessionId earlier = some (thread, .resetting) := by
  obtain ⟨before, after, op, reply, reached, _, happened, rfl, step, rest⟩ := run.moment split
  rw [(step.trans rest).opOf_kept happened.opOf] at ownReset
  obtain ⟨m, rfl⟩ : ∃ m, op = .reset m sessionId := by
    cases op with
    | reset m id =>
        cases ownReset
        exact ⟨m, rfl⟩
    | _ => cases ownReset
  obtain ⟨target, patch, guard, row, rfl⟩ : ∃ target patch guard row,
      interaction = ⟨.transition sessionId [.resetting] target patch guard, .ok (some row)⟩ := by
    unfold released at release
    split at release
    · rename_i left
      cases release
      exact ⟨_, _, _, _, command_of_moved left⟩
    · cases release
  obtain ⟨rebuilt, patch', guard', claim, recorded, onlyRebuilt, untried, rfl⟩ :=
    (issued_when_answered reached happened).of_release
  obtain ⟨current, found, resetting, stamped⟩ : ∃ current, rowOf before sessionId = some current ∧
      current.status = .resetting ∧ current.statusChangedAt = claim.statusChangedAt := by
    have moved := row_step happened.responded sessionId
    generalize stored : before.world.store.get sessionId = old at moved
    generalize after.world.store.get sessionId = new at moved
    cases moved with
    | kept elsewhere => exact absurd rfl (elsewhere _ rfl)
    | @moved _ _ _ _ current _ claimable guarded written =>
        refine ⟨current, stored, List.mem_singleton.mp claimable, ?_⟩
        simp only [InMemorySessionStore.meetsGuard, Option.all_some, Option.all_none,
          Bool.and_true, beq_iff_eq] at guarded
        exact guarded.symm
  obtain ⟨holder, held⟩ := held_of_resetting reached found resetting
  by_cases same : thread = holder
  · rw [same]
    exact held.lastMove
  -- Another reset holds the row with this reset's stamp: it claimed while this one was rebuilding.
  obtain ⟨later', earlier', source, patch'', guard'', claimed, split', unmoved, sameStamp⟩ := held
  obtain ⟨before', after', op', reply', reached', fresh, happened', isEarlier, step', rest'⟩ :=
    reached.moment split'
  cases own_of_moved happened'.responded
  have stamp := stamp_of_claim reached' happened'
  rw [sameStamp, stamped] at stamp
  -- This reset's own claim is a move, so it stands before the holder's.
  have inEffects : Effect.moved sessionId resettableStatuses .resetting patch' guard' claim ∈
      effects (own thread before.trace) := by
    rw [recorded]
    simp
  obtain ⟨ownClaim, inOwn, left⟩ := mem_effects.mp inEffects
  have moves : moveOf sessionId ownClaim = some .resetting := by
    simp [moveOf, left]
  have inTrace := mem_own.mp inOwn
  rw [split'] at inTrace
  have old : (thread, ownClaim) ∈ before'.trace := by
    rcases List.mem_append.mp inTrace with afterHolder | beforeHolder
    · rw [unmoved _ afterHolder] at moves
      cases moves
    · rcases List.mem_cons.mp beforeHolder with isHolder | old
      · exact absurd (Prod.mk.inj isHolder).1 same
      · rw [isEarlier]
        exact old
  have hadClaimed : effects (own thread before'.trace) ≠ [] := by
    intro nothing
    have recorded' := mem_effects.mpr ⟨ownClaim, mem_own.mpr old, left⟩
    rw [nothing] at recorded'
    cases recorded'
  have rebuilding := rebuildingSince_of_suffix (step'.trans rest').trace_extends recorded
    onlyRebuilt untried hadClaimed
  exact absurd stamp (fresh.ne happened'.pending old same rebuilding)

/-- A provider's plain yes to a reset. -/
def sandboxRebuilt : ResetResult := { ok := true, environmentId := "env-1" }

/-- Thread 1 resets an ACTIVE session and releases it, with nobody else about. -/
def quietReset : SessionConfig :=
  (boot 0).after FreshStamp (startUntilActive "sess-0000001" ++
    ([.spawn (.reset (labInstance 0) "sess-0000001")] : List SessionMove) ++ goOn 1 6 ++
    ([.resume 1 (.rebuilt sandboxRebuilt)] : List SessionMove) ++ goOn 1 3)

theorem reset_release_holds_claim_quietReset :
    ∃ interaction earlier, quietReset.trace = [] ++ (1, interaction) :: earlier ∧
      released interaction = some "sess-0000001" ∧
      lastMove "sess-0000001" earlier = some (1, .resetting) := by
  have run : Reaches FreshStamp (boot 0) quietReset := Config.reaches_after (by decide)
  have isHead : quietReset.trace.head?.map (fun event => (event.1, released event.2)) =
      some (1, some "sess-0000001") := by
    decide
  have ownReset : (quietReset.opOf 1).bind resets = some "sess-0000001" := by decide
  cases split : quietReset.trace with
  | nil =>
      rw [split] at isHead
      cases isHead
  | cons event earlier =>
      rw [split] at isHead
      obtain ⟨isThread, release⟩ := Prod.mk.inj (Option.some.inj isHead)
      obtain ⟨thread, interaction⟩ := event
      cases isThread
      have isSplit : quietReset.trace = [] ++ (1, interaction) :: earlier := split
      exact ⟨interaction, earlier, rfl, release,
        reset_release_holds_claim run isSplit ownReset release⟩

/-- Thread 1 claims a reset on instance 0, whose shutdown hands it over in the same millisecond; still in
    that millisecond thread 4 claims a reset on instance 1. Then the provider answers thread 1. -/
def stolenRelease : SessionConfig :=
  (boot 0).after anyMove (startUntilActive "sess-0000001" ++
    ([.spawn (.reset (labInstance 0) "sess-0000001")] : List SessionMove) ++ goOn 1 6 ++
    ([.spawn (.interruptInFlight (labInstance 0))] : List SessionMove) ++ goOn 2 4 ++ goOn 3 3 ++
    ([.spawn (.reset (labInstance 1) "sess-0000001")] : List SessionMove) ++ goOn 4 6 ++
    ([.resume 1 (.rebuilt sandboxRebuilt)] : List SessionMove) ++ goOn 1 3)

/-- Without the condition on stamps the fence does not hold: thread 1 makes the session ACTIVE while
    thread 4 holds it and is rebuilding its sandbox. -/
theorem reset_fence_fails_within_a_millisecond :
    ¬ ∀ (clock : Instant) (config : SessionConfig), Reaches anyMove (boot clock) config →
      ∀ (later earlier : Trace) (thread : Nat) (interaction : SessionInteraction)
        (sessionId : String), config.trace = later ++ (thread, interaction) :: earlier →
          (config.opOf thread).bind resets = some sessionId →
            released interaction = some sessionId →
              lastMove sessionId earlier = some (thread, .resetting) := by
  intro fenced
  have run : Reaches anyMove (boot 0) stolenRelease := Config.reaches_after (by decide)
  have isHead : stolenRelease.trace.head?.map (fun event => (event.1, released event.2)) =
      some (1, some "sess-0000001") := by
    decide
  have ownReset : (stolenRelease.opOf 1).bind resets = some "sess-0000001" := by decide
  have holder : lastMove "sess-0000001" stolenRelease.trace.tail = some (4, .resetting) := by
    decide
  cases split : stolenRelease.trace with
  | nil =>
      rw [split] at isHead
      cases isHead
  | cons event earlier =>
      rw [split] at isHead holder
      obtain ⟨isThread, release⟩ := Prod.mk.inj (Option.some.inj isHead)
      obtain ⟨thread, interaction⟩ := event
      cases isThread
      have claimed := fenced 0 stolenRelease run [] earlier 1 interaction "sess-0000001" split
        ownReset release
      rw [List.tail_cons, claimed] at holder
      cases holder

end JumptotechLabs.Session
