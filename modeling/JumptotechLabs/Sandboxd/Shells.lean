/-
Module: JumptotechLabs.Sandboxd.Shells
Layer: Sandboxd (services/sandboxd/src/server.ts)
Purpose: What holds of the broker's shells in every order of events: the ceiling, one shell for each session,
  no PTY for a socket that is not open, and no PTY that nobody would kill.
Main exports: Sound, sound_step, spawned_step, broker_shells
-/
import JumptotechLabs.Sandboxd.Server

namespace JumptotechLabs.Sandboxd

open JumptotechLabs.Core

/-! ### The invariant -/

/-- The maps mirror each other; the counter is the number of attaches that have not finished; the sessions
    with a shell or an attach are within the ceiling; a socket attaches once, and has no shell while its
    attach waits; and every PTY is some shell's or was killed. -/
structure Sound (maxSessions : Nat) (state : Broker) : Prop where
  mirrored : Mirrored LiveShell.sessionId state.shells
  starting : state.startingShells = state.attaches.length
  within : Within maxSessions (state.shells.keys LiveShell.sessionId)
    (state.attaches.map Attaching.sessionId)
  shellAttached : ∀ ws shell, state.shells.item ws = some shell → state.sockets.kept ws = some true
  waitingAttached : ∀ attaching ∈ state.attaches, state.sockets.kept attaching.ws = some true
  idle : ∀ attaching ∈ state.attaches, attaching.phase = .inspecting →
    state.shells.item attaching.ws = none
  accounted : ∀ pty, pty < state.spawned.length → pty ∈ state.killed ∨
    ∃ ws shell, state.shells.item ws = some shell ∧ shell.term = pty

section Steps

variable {maxSessions : Nat} {state : Broker}

theorem sound_initial (maxSessions : Nat) : Sound maxSessions .initial := by
  constructor
  · exact mirrored_empty
  · rfl
  · exact Nat.zero_le _
  · intro ws shell impossible
    cases impossible
  · intro attaching member
    exact absurd member List.not_mem_nil
  · intro attaching member
    exact absurd member List.not_mem_nil
  · intro pty impossible
    exact absurd impossible (Nat.not_lt_zero pty)

/-- A change of the sockets only, in which none is asked to attach again. -/
theorem Sound.sockets (sound : Sound maxSessions state) {sockets : Sockets Bool}
    (follows : state.sockets.Follows sockets) :
    Sound maxSessions { state with sockets := sockets } := by
  constructor
  · exact sound.mirrored
  · exact sound.starting
  · exact sound.within
  · intro ws shell found
    exact follows.up (sound.shellAttached ws shell found)
  · intro attaching member
    exact follows.up (sound.waitingAttached attaching member)
  · exact sound.idle
  · exact sound.accounted

theorem Sound.close (sound : Sound maxSessions state) (ws : Socket) :
    Sound maxSessions (state.close ws) := sound.sockets (Sockets.follows_close state.sockets ws)

/-- A shell is dropped and its PTY killed. -/
theorem Sound.endShell (sound : Sound maxSessions state) (ws : Socket) :
    Sound maxSessions (state.endShell ws) := by
  unfold Broker.endShell
  cases found : state.shells.item ws with
  | none => exact sound
  | some shell =>
      have kept : ∀ {other item}, (state.shells.release LiveShell.sessionId ws).item other =
          some item → state.shells.item other = some item := by
        intro other item isItem
        rw [Registry.item_release] at isItem
        split at isItem
        · cases isItem
        · exact isItem
      constructor
      · exact mirrored_release sound.mirrored ws
      · exact sound.starting
      · apply sound.within.mono
        intro key member
        rcases member with isHeld | isStarting
        · obtain ⟨other, item, isItem, isKey⟩ := Registry.mem_keys.mp isHeld
          exact .inl (Registry.mem_keys.mpr ⟨other, item, kept isItem, isKey⟩)
        · exact .inr isStarting
      · intro other item isItem
        exact sound.shellAttached other item (kept isItem)
      · exact sound.waitingAttached
      · intro attaching member isInspecting
        simp only
        rw [Registry.item_release]
        split
        · rfl
        · exact sound.idle attaching member isInspecting
      · intro pty isSpawned
        rcases sound.accounted pty isSpawned with isKilled | ⟨other, item, isItem, isTerm⟩
        · exact .inl (List.mem_append_left _ isKilled)
        · by_cases same : other = ws
          · rw [same, found] at isItem
            cases isItem
            rw [← isTerm]
            exact .inl (List.mem_append_right _ List.mem_cons_self)
          · refine .inr ⟨other, item, ?_, isTerm⟩
            simp only
            rw [Registry.item_release, if_neg same]
            exact isItem

/-! ### Attaches -/

/-- What an attach was before another returned. -/
theorem mem_return_ {ws : Socket} {attaching : Attaching}
    (member : attaching ∈ (state.return_ ws).attaches) :
    ∃ before ∈ state.attaches, attaching.ws = before.ws ∧
      attaching.sessionId = before.sessionId ∧
      (attaching.phase = .inspecting → before.ws ≠ ws ∧ before.phase = .inspecting) := by
  obtain ⟨before, isBefore, rfl⟩ := List.mem_map.mp member
  refine ⟨before, isBefore, ?_⟩
  split
  · refine ⟨rfl, rfl, ?_⟩
    intro impossible
    cases impossible
  · rename_i isOther
    exact ⟨rfl, rfl, fun isInspecting => ⟨isOther, isInspecting⟩⟩

theorem sessionIds_return_ (state : Broker) (ws : Socket) :
    (state.return_ ws).attaches.map Attaching.sessionId =
      state.attaches.map Attaching.sessionId := by
  simp only [Broker.return_, Keyed.modify, List.map_map]
  apply List.map_congr_left
  intro attaching _
  simp only [Function.comp_apply]
  split
  · rfl
  · rfl

theorem length_return_ (state : Broker) (ws : Socket) :
    (state.return_ ws).attaches.length = state.attaches.length := List.length_map ..

theorem Sound.return_ (sound : Sound maxSessions state) (ws : Socket) :
    Sound maxSessions (state.return_ ws) := by
  constructor
  · exact sound.mirrored
  · rw [length_return_]
    exact sound.starting
  · rw [sessionIds_return_]
    exact sound.within
  · exact sound.shellAttached
  · intro attaching member
    obtain ⟨before, isBefore, sameSocket, _⟩ := mem_return_ member
    rw [sameSocket]
    exact sound.waitingAttached before isBefore
  · intro attaching member isInspecting
    obtain ⟨before, isBefore, sameSocket, _, wasInspecting⟩ := mem_return_ member
    rw [sameSocket]
    exact sound.idle before isBefore (wasInspecting isInspecting).2
  · exact sound.accounted

/-- An attach is admitted below the ceiling, or in the place of its session's shell. -/
theorem Sound.admitted (sound : Sound maxSessions state) (sessionId : String)
    (admitted : ¬ (!(state.shells.holder sessionId).isSome &&
      decide (maxSessions ≤ state.shells.size + state.startingShells)) = true) :
    Within maxSessions (state.shells.keys LiveShell.sessionId)
      (sessionId :: state.attaches.map Attaching.sessionId) := by
  by_cases replacing : (state.shells.holder sessionId).isSome = true
  · apply sound.within.readmit
    exact sound.mirrored.mem_keys_iff.mpr replacing
  · apply Within.admit
    rw [Registry.keys, List.length_map, List.length_map, ← sound.starting]
    simp only [replacing, Bool.not_false, Bool.true_and, decide_eq_true_eq, Nat.not_le] at admitted
    exact admitted

theorem Sound.openShell (sound : Sound maxSessions state) {ws : Socket} (sessionId : String)
    (attached : state.sockets.kept ws = some true) (noShell : state.shells.item ws = none)
    (isNew : state.attaching ws = none) :
    Sound maxSessions (state.openShell maxSessions ws sessionId isNew) := by
  unfold Broker.openShell
  simp only
  split
  · exact sound.close ws
  · rename_i admitted
    constructor
    · exact sound.mirrored
    · simp only [List.length_append, List.length_cons, List.length_nil]
      rw [sound.starting]
    · apply (sound.admitted sessionId admitted).mono
      intro key member
      rcases member with isHeld | isStarting
      · exact .inl isHeld
      · rw [List.map_append, List.mem_append] at isStarting
        rcases isStarting with wasStarting | isNewKey
        · exact .inr (List.mem_cons_of_mem _ wasStarting)
        · rw [List.mem_singleton.mp isNewKey]
          exact .inr List.mem_cons_self
    · exact sound.shellAttached
    · intro attaching member
      rcases List.mem_append.mp member with wasWaiting | isNewAttach
      · exact sound.waitingAttached attaching wasWaiting
      · rw [List.mem_singleton.mp isNewAttach]
        exact attached
    · intro attaching member isInspecting
      rcases List.mem_append.mp member with wasWaiting | isNewAttach
      · exact sound.idle attaching wasWaiting isInspecting
      · rw [List.mem_singleton.mp isNewAttach]
        exact noShell
    · exact sound.accounted

theorem Sound.replaceExisting (sound : Sound maxSessions state) (ws : Socket) (sessionId : String) :
    Sound maxSessions (state.replaceExisting ws sessionId) := by
  unfold Broker.replaceExisting
  split
  · exact sound
  · split
    · exact sound
    · exact (sound.endShell _).close _

theorem shells_endShell (state : Broker) (ws : Socket) :
    (state.endShell ws).shells = state.shells.release LiveShell.sessionId ws := by
  unfold Broker.endShell
  cases found : state.shells.item ws with
  | none =>
      rw [Registry.release, found]
  | some shell => rfl

/-- A socket without a shell stays without one when its session's other shell is closed, and the session
    then has none. -/
theorem Sound.replaced (sound : Sound maxSessions state) {ws : Socket} (sessionId : String)
    (noShell : state.shells.item ws = none) :
    (state.replaceExisting ws sessionId).shells.item ws = none ∧
      (state.replaceExisting ws sessionId).shells.holder sessionId = none := by
  unfold Broker.replaceExisting
  cases isHolder : state.shells.holder sessionId with
  | none => exact ⟨noShell, isHolder⟩
  | some existing =>
      by_cases same : existing = ws
      · obtain ⟨shell, found, _⟩ := sound.mirrored.held sessionId existing isHolder
        rw [same, noShell] at found
        cases found
      · simp only [same, if_false, Broker.close, shells_endShell]
        constructor
        · rw [Registry.item_release, if_neg (Ne.symm same)]
          exact noShell
        · rw [sound.mirrored.holder_release, if_pos isHolder]

@[simp] theorem attaches_endShell (state : Broker) (ws : Socket) :
    (state.endShell ws).attaches = state.attaches := by
  unfold Broker.endShell
  split
  · rfl
  · rfl

@[simp] theorem attaches_replaceExisting (state : Broker) (ws : Socket) (sessionId : String) :
    (state.replaceExisting ws sessionId).attaches = state.attaches := by
  unfold Broker.replaceExisting
  split
  · rfl
  · split
    · rfl
    · exact attaches_endShell state _

/-- The attach of a socket without a shell spawns a PTY, registers it and returns. -/
theorem Sound.registered (sound : Sound maxSessions state) {ws : Socket} {attaching : Attaching}
    (waits : state.attaching ws = some attaching) (noShell : state.shells.item ws = none)
    (free : state.shells.holder attaching.sessionId = none) (sandboxRef : String) :
    Sound maxSessions ((state.register ws attaching.sessionId sandboxRef).return_ ws) := by
  have isWaiting : attaching ∈ state.attaches := Keyed.mem_of_lookup waits
  have isSocket : attaching.ws = ws := Keyed.key_of_lookup waits
  constructor
  · apply mirrored_register sound.mirrored noShell
    exact free
  · rw [length_return_]
    exact sound.starting
  · rw [sessionIds_return_]
    apply sound.within.mono
    intro key member
    rcases member with isHeld | isStarting
    · obtain ⟨other, shell, found, rfl⟩ := Registry.mem_keys.mp isHeld
      simp only [Broker.return_, Broker.register] at found
      rw [Registry.item_register] at found
      split at found
      · cases found
        exact .inr (List.mem_map_of_mem isWaiting)
      · exact .inl (Registry.mem_keys.mpr ⟨other, shell, found, rfl⟩)
    · exact .inr isStarting
  · intro other shell found
    simp only [Broker.return_, Broker.register] at found
    rw [Registry.item_register] at found
    split at found
    · rename_i same
      rw [← same, ← isSocket]
      exact sound.waitingAttached attaching isWaiting
    · exact sound.shellAttached other shell found
  · intro other member
    obtain ⟨before, isBefore, sameSocket, _⟩ := mem_return_ member
    rw [sameSocket]
    exact sound.waitingAttached before isBefore
  · intro other member isInspecting
    obtain ⟨before, isBefore, sameSocket, _, wasInspecting⟩ := mem_return_ member
    obtain ⟨isOther, stillInspecting⟩ := wasInspecting isInspecting
    rw [sameSocket]
    simp only [Broker.return_, Broker.register]
    rw [Registry.item_register, if_neg (Ne.symm isOther)]
    exact sound.idle before isBefore stillInspecting
  · intro pty isSpawned
    simp only [Broker.return_, Broker.register, List.length_append, List.length_cons,
      List.length_nil] at isSpawned ⊢
    by_cases isNewest : pty = state.spawned.length
    · refine .inr ⟨ws, ⟨attaching.sessionId, sandboxRef, state.spawned.length⟩, ?_, isNewest.symm⟩
      rw [Registry.item_register, if_pos rfl]
    · have wasSpawned : pty < state.spawned.length := by omega
      rcases sound.accounted pty wasSpawned with isKilled | ⟨other, shell, found, isTerm⟩
      · exact .inl isKilled
      · refine .inr ⟨other, shell, ?_, isTerm⟩
        rw [Registry.item_register, if_neg]
        · exact found
        · intro same
          rw [← same, noShell] at found
          cases found

/-- An attach whose container was inspected. -/
theorem Sound.attachShell (sound : Sound maxSessions state) {ws : Socket} {attaching : Attaching}
    (waits : state.attaching ws = some attaching) (inspecting : attaching.phase = .inspecting)
    (target : Except String String) (starts : Bool) :
    Sound maxSessions
      ((state.attachShell ws attaching.sessionId target starts).return_ ws) := by
  have noShell : state.shells.item ws = none := by
    have idle := sound.idle attaching (Keyed.mem_of_lookup waits) inspecting
    rw [show attaching.ws = ws from Keyed.key_of_lookup waits] at idle
    exact idle
  unfold Broker.attachShell
  split
  · exact (sound.close ws).return_ ws
  · split
    · exact sound.return_ ws
    · have replaced := sound.replaceExisting ws attaching.sessionId
      simp only
      split
      · obtain ⟨stillNoShell, free⟩ := sound.replaced attaching.sessionId noShell
        have stillWaits : (state.replaceExisting ws attaching.sessionId).attaching ws =
            some attaching := by
          rw [Broker.attaching, attaches_replaceExisting]
          exact waits
        exact replaced.registered stillWaits stillNoShell free _
      · exact (replaced.close ws).return_ ws

theorem Sound.settle (sound : Sound maxSessions state) {ws : Socket} {attaching : Attaching}
    (waits : state.attaching ws = some attaching) : Sound maxSessions (state.settle ws) := by
  have kept : ∀ {other}, other ∈ Keyed.remove Attaching.ws ws state.attaches →
      other ∈ state.attaches := by
    intro other member
    exact List.mem_of_mem_filter member
  constructor
  · exact sound.mirrored
  · have oneFewer := Keyed.length_remove state.attachKeys waits
    rw [← sound.starting] at oneFewer
    simp only [Broker.settle]
    omega
  · apply sound.within.mono
    intro key member
    rcases member with isHeld | isStarting
    · exact .inl isHeld
    · obtain ⟨other, inRest, rfl⟩ := List.mem_map.mp isStarting
      exact .inr (List.mem_map_of_mem (kept inRest))
  · exact sound.shellAttached
  · intro other member
    exact sound.waitingAttached other (kept member)
  · intro other member
    exact sound.idle other (kept member)
  · exact sound.accounted

theorem Sound.endShells (sound : Sound maxSessions state) (sockets : List Socket) :
    Sound maxSessions (sockets.foldl (fun broker ws => broker.endShell ws) state) := by
  induction sockets generalizing state with
  | nil => exact sound
  | cons ws rest ih => exact ih (sound.endShell ws)

/-- A socket that has not attached has no shell. -/
theorem Sound.noShell (sound : Sound maxSessions state) {ws : Socket}
    (notAttached : state.sockets.kept ws = some false) : state.shells.item ws = none := by
  cases found : state.shells.item ws with
  | none => rfl
  | some shell =>
      have attached := sound.shellAttached ws shell found
      rw [notAttached] at attached
      cases attached

/-- A socket's attach frame. -/
theorem Sound.attach (sound : Sound maxSessions state) (ws : Socket) (sessionId : String) :
    Sound maxSessions (brokerStep maxSessions state (.attach ws sessionId)) := by
  simp only [brokerStep]
  split
  · rename_i notAttached
    have marked : Sound maxSessions { state with sockets := state.sockets.keep ws true } :=
      sound.sockets (Sockets.follows_keep state.sockets ws)
    split
    · rename_i isNew
      apply marked.openShell sessionId _ (sound.noShell notAttached) isNew
      rw [Sockets.kept_keep, notAttached, Option.map_some, if_pos rfl]
    · exact marked
  · exact sound

/-! ### Runs -/

/-- Every event keeps the invariant. -/
theorem sound_step (event : BrokerEvent) (sound : Sound maxSessions state) :
    Sound maxSessions (brokerStep maxSessions state event) := by
  cases event with
  | connection ws => exact sound.sockets (Sockets.follows_connect state.sockets ws false)
  | attach ws sessionId => exact sound.attach ws sessionId
  | refused ws => exact sound.close ws
  | inspected ws target starts =>
      simp only [brokerStep]
      split
      · rename_i waits
        exact sound.attachShell waits rfl target starts
      · exact sound
  | settled ws =>
      simp only [brokerStep]
      split
      · rename_i waits
        exact sound.settle waits
      · exact sound
  | exited pty =>
      simp only [brokerStep]
      split
      · exact sound
      · exact (sound.endShell _).close _
  | timer ws => exact (sound.endShell ws).close ws
  | overflow ws => exact (sound.endShell ws).close ws
  | closing ws => exact sound.close ws
  | closed ws =>
      have marked : Sound maxSessions
          { state with sockets := state.sockets.setReadyState ws .closed } :=
        sound.sockets (Sockets.follows_setReadyState state.sockets ws .closed)
      exact marked.endShell ws
  | error ws => exact sound.endShell ws
  | shutdown => exact sound.endShells _

/-! ### What an event spawns -/

theorem sockets_endShell (state : Broker) (ws : Socket) :
    (state.endShell ws).sockets = state.sockets := by
  unfold Broker.endShell
  split
  · rfl
  · rfl

theorem readyState_replaceExisting (state : Broker) (ws : Socket) (sessionId : String) :
    (state.replaceExisting ws sessionId).sockets.readyState ws = state.sockets.readyState ws := by
  unfold Broker.replaceExisting
  split
  · rfl
  · split
    · rfl
    · rename_i isOther
      rw [Broker.close, Sockets.readyState_close_of_ne _ (Ne.symm isOther), sockets_endShell]

@[simp] theorem spawned_endShell (state : Broker) (ws : Socket) :
    (state.endShell ws).spawned = state.spawned := by
  unfold Broker.endShell
  split
  · rfl
  · rfl

theorem spawned_closeFor (state : Broker) (ws : Socket) :
    (state.closeFor ws).spawned = state.spawned := by
  exact spawned_endShell state ws

@[simp] theorem spawned_replaceExisting (state : Broker) (ws : Socket) (sessionId : String) :
    (state.replaceExisting ws sessionId).spawned = state.spawned := by
  unfold Broker.replaceExisting
  split
  · rfl
  · split
    · rfl
    · exact spawned_endShell state _

theorem spawned_endShells (state : Broker) (sockets : List Socket) :
    (sockets.foldl (fun broker ws => broker.endShell ws) state).spawned = state.spawned := by
  induction sockets generalizing state with
  | nil => rfl
  | cons ws rest ih => rw [List.foldl_cons, ih, spawned_endShell]

/-- The PTYs of an attach whose container was inspected: none, or one for a socket that was open, and is
    when the PTY is there. -/
theorem spawned_attachShell (state : Broker) (ws : Socket) (sessionId : String)
    (target : Except String String) (starts : Bool) :
    (state.attachShell ws sessionId target starts).spawned = state.spawned ∨
      (state.attachShell ws sessionId target starts).spawned = state.spawned ++ [ws] ∧
        state.sockets.readyState ws = .open ∧
        (state.attachShell ws sessionId target starts).sockets.readyState ws = .open := by
  unfold Broker.attachShell
  split
  · exact .inl rfl
  · split
    · exact .inl rfl
    · rename_i isOpen
      rw [Decidable.not_not] at isOpen
      simp only
      split
      · refine .inr ⟨?_, isOpen, ?_⟩
        · rw [Broker.register, spawned_replaceExisting]
        · rw [← isOpen, ← readyState_replaceExisting state ws sessionId]
          rfl
      · exact .inl (spawned_replaceExisting state ws sessionId)

theorem spawned_openShell (state : Broker) (ws : Socket) (sessionId : String)
    (isNew : state.attaching ws = none) :
    (state.openShell maxSessions ws sessionId isNew).spawned = state.spawned := by
  unfold Broker.openShell
  simp only
  split
  · rfl
  · rfl

/-- An event spawns no PTY, or one for a socket that is open before it and after it. -/
theorem spawned_step (event : BrokerEvent) (state : Broker) :
    (brokerStep maxSessions state event).spawned = state.spawned ∨
      ∃ ws, (brokerStep maxSessions state event).spawned = state.spawned ++ [ws] ∧
        state.sockets.readyState ws = .open ∧
        (brokerStep maxSessions state event).sockets.readyState ws = .open := by
  cases event with
  | connection ws => exact .inl rfl
  | attach ws sessionId =>
      simp only [brokerStep]
      split
      · split
        · exact .inl (spawned_openShell _ ws sessionId _)
        · exact .inl rfl
      · exact .inl rfl
  | refused ws => exact .inl rfl
  | inspected ws target starts =>
      simp only [brokerStep]
      split
      · rcases spawned_attachShell state ws _ target starts with none | ⟨one, isOpen, stillOpen⟩
        · exact .inl none
        · exact .inr ⟨ws, one, isOpen, stillOpen⟩
      · exact .inl rfl
  | settled ws =>
      simp only [brokerStep]
      split
      · exact .inl rfl
      · exact .inl rfl
  | exited pty =>
      simp only [brokerStep]
      split
      · exact .inl rfl
      · exact .inl (spawned_closeFor state _)
  | timer ws => exact .inl (spawned_closeFor state ws)
  | overflow ws => exact .inl (spawned_closeFor state ws)
  | closing ws => exact .inl rfl
  | closed ws =>
      exact .inl (spawned_endShell _ ws)
  | error ws => exact .inl (spawned_endShell state ws)
  | shutdown => exact .inl (spawned_endShells state _)

/-- After every order of events: no more shells than the ceiling, no two for one session, the session of a
    shell names its socket, every PTY is killed or a registered shell's; and whatever comes next spawns at
    most one PTY, for a socket that is open. -/
theorem broker_shells (maxSessions : Nat) (events : List BrokerEvent) :
    let state := (broker maxSessions).after Broker.initial events
    state.shells.size ≤ maxSessions ∧
    (∀ ws other shell shell', state.shells.item ws = some shell →
      state.shells.item other = some shell' → shell.sessionId = shell'.sessionId → ws = other) ∧
    (∀ ws shell, state.shells.item ws = some shell →
      state.shells.holder shell.sessionId = some ws) ∧
    (∀ pty, pty < state.spawned.length → pty ∈ state.killed ∨
      ∃ ws shell, state.shells.item ws = some shell ∧ shell.term = pty) ∧
    ∀ event, (brokerStep maxSessions state event).spawned = state.spawned ∨
      ∃ ws, (brokerStep maxSessions state event).spawned = state.spawned ++ [ws] ∧
        state.sockets.readyState ws = .open ∧
        (brokerStep maxSessions state event).sockets.readyState ws = .open := by
  intro state
  have sound : Sound maxSessions state :=
    Object.after_of_step (fun state : (broker maxSessions).State => Sound maxSessions state)
      (fun _ event => sound_step event) (sound_initial maxSessions) events
  have ceiling : state.shells.size ≤ maxSessions := by
    have atMost := sound.within.length_le sound.mirrored.nodup_keys
    rw [Registry.keys, List.length_map] at atMost
    exact atMost
  have unique : ∀ ws other shell shell', state.shells.item ws = some shell →
      state.shells.item other = some shell' → shell.sessionId = shell'.sessionId → ws = other := by
    intro ws other shell shell' found found' sameSession
    exact sound.mirrored.unique found found' sameSession
  exact ⟨ceiling, unique, sound.mirrored.holds, sound.accounted, fun event => spawned_step event state⟩

end Steps

end JumptotechLabs.Sandboxd
