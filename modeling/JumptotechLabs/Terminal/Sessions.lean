/-
Module: JumptotechLabs.Terminal.Sessions
Layer: Terminal (services/terminal/src/server.ts)
Purpose: What the end of a session and the steps of an attach keep: one socket for each session, the
  ceiling on sessions, the count of the shells being started, and who answers for each shell. The ceiling
  is on the sessions that have a shell or an attach with a slot, taken together.
Main exports: Sound, Accounted, Sound.frame, Sound.endSession, Sound.closeSession, Sound.setStage,
  Sound.authenticate, Sound.takeTurn, Sound.resolved, Sound.shellAnswered, Sound.shellReady,
  Sound.discarded, Sound.settled
-/
import JumptotechLabs.Terminal.Server

namespace JumptotechLabs.Terminal

open JumptotechLabs.Core

/-! ### The invariant -/

/-- The attach has its claim and has not registered. -/
def AttachStage.attempting : AttachStage → Bool
  | .preparing _ | .connecting .. | .answered .. => true
  | _ => false

/-- The shell an attach has in hand. -/
def AttachStage.shell? : AttachStage → Option ShellId
  | .answered _ _ (.ok (shell, _)) => some shell
  | _ => none

/-- The session a reattach began with, and its socket. -/
def ReattachStage.bound? : ReattachStage → Option (Socket × Session)
  | .queued => none
  | .fetching ws session => some (ws, session)
  | .connecting ws session _ => some (ws, session)
  | .answered ws session _ _ => some (ws, session)

/-- The old shell was detached. -/
def ReattachStage.detaches : ReattachStage → Bool
  | .connecting .. | .answered .. => true
  | _ => false

/-- The shell a reattach has in hand. -/
def ReattachStage.shell? : ReattachStage → Option ShellId
  | .answered _ _ _ (.ok (shell, _)) => some shell
  | _ => none

/-- The sessions of the attaches that hold a slot. -/
def TerminalServer.startingIds (server : TerminalServer) : List String :=
  (server.attaches.filter Attach.admitted).map Attach.sessionId

theorem mem_startingIds {server : TerminalServer} {sessionId : String} :
    sessionId ∈ server.startingIds ↔
      ∃ attach ∈ server.attaches, attach.admitted = true ∧ attach.sessionId = sessionId := by
  simp only [TerminalServer.startingIds, List.mem_map, List.mem_filter, and_assoc]

/-- A shell of a session was killed, or is a registered socket's, or in the hands of a turn of the
    session. -/
def Accounted (server : TerminalServer) (sessionId : String) (shell : ShellId) : Prop :=
  shell ∈ server.killed ∨
  (∃ ws session, server.sessions.item ws = some session ∧ session.sid = sessionId ∧
    session.term = shell) ∨
  (∃ attach ∈ server.attaches, attach.sessionId = sessionId ∧ attach.stage.shell? = some shell) ∨
  ∃ reattach ∈ server.reattaches, reattach.sessionId = sessionId ∧
    reattach.stage.shell? = some shell

/-- The maps mirror each other; the counter is the number of slots; the sessions with a shell or a slot are
    within the ceiling; turns of a session exclude each other; while an attach has its claim the session
    has no shell, and until it has registered its socket has none; a socket with a shell will not
    authenticate again; a session whose shell was detached has a killed one; every shell is accounted
    for. -/
structure Sound (maxSessions : Nat) (server : TerminalServer) : Prop where
  mirrored : Mirrored Session.sid server.sessions
  starting : server.startingShells = server.attaches.countP Attach.admitted
  within : Within maxSessions (server.sessions.keys Session.sid) server.startingIds
  alone : ∀ attach ∈ server.attaches, ∀ other ∈ server.attaches, attach.admitted = true →
    other.admitted = true → attach.sessionId = other.sessionId → attach.ws = other.ws
  free : ∀ attach ∈ server.attaches, attach.stage.attempting = true →
    server.sessions.holder attach.sessionId = none
  idle : ∀ attach ∈ server.attaches, attach.stage ≠ .returned true →
    server.sessions.item attach.ws = none
  connected : ∀ attach ∈ server.attaches, (server.sockets.kept attach.ws).isSome = true
  marked : ∀ ws session, server.sessions.item ws = some session →
    server.sockets.kept ws = some true ∨ ∃ attach ∈ server.attaches, attach.ws = ws
  reattachAlone : ∀ reattach ∈ server.reattaches, ∀ other ∈ server.reattaches,
    reattach.stage.isQueued = false → other.stage.isQueued = false →
    reattach.sessionId = other.sessionId → reattach.turn = other.turn
  exclusive : ∀ attach ∈ server.attaches, ∀ reattach ∈ server.reattaches, attach.admitted = true →
    reattach.stage.isQueued = false → attach.sessionId ≠ reattach.sessionId
  bound : ∀ reattach ∈ server.reattaches, ∀ ws session, reattach.stage.bound? = some (ws, session) →
    session.sid = reattach.sessionId
  detached : ∀ reattach ∈ server.reattaches, ∀ ws session,
    reattach.stage.bound? = some (ws, session) → reattach.stage.detaches = true →
    ∀ live, server.sessions.item ws = some live → live.sid = session.sid →
      live.attachClaim = session.attachClaim → live.term ∈ server.killed
  turns : ∀ reattach ∈ server.reattaches, reattach.turn < server.nextTurn
  accounted : ∀ shell sessionId, server.started[shell]? = some sessionId →
    Accounted server sessionId shell

section Steps

variable {maxSessions : Nat} {server : TerminalServer}

theorem sound_initial (maxSessions : Nat) : Sound maxSessions .initial := by
  constructor
  · exact mirrored_empty
  · rfl
  · exact Nat.zero_le _
  · intro attach member
    exact absurd member List.not_mem_nil
  · intro attach member
    exact absurd member List.not_mem_nil
  · intro attach member
    exact absurd member List.not_mem_nil
  · intro attach member
    exact absurd member List.not_mem_nil
  · intro ws session impossible
    cases impossible
  · intro reattach member
    exact absurd member List.not_mem_nil
  · intro attach member
    exact absurd member List.not_mem_nil
  · intro reattach member
    exact absurd member List.not_mem_nil
  · intro reattach member
    exact absurd member List.not_mem_nil
  · intro reattach member
    exact absurd member List.not_mem_nil
  · intro shell sessionId impossible
    cases impossible

/-! ### Sockets, kills and claims -/

/-- What changes nothing of the sessions and the turns, forgets no authenticated socket and no kill. -/
theorem Sound.frame (sound : Sound maxSessions server) (after : TerminalServer)
    (sessions : after.sessions = server.sessions)
    (starting : after.startingShells = server.startingShells)
    (attaches : after.attaches = server.attaches) (reattaches : after.reattaches = server.reattaches)
    (started : after.started = server.started)
    (killed : ∀ shell ∈ server.killed, shell ∈ after.killed)
    (follows : server.sockets.Follows after.sockets) (turns : server.nextTurn ≤ after.nextTurn) :
    Sound maxSessions after := by
  constructor
  · rw [sessions]
    exact sound.mirrored
  · rw [starting, attaches]
    exact sound.starting
  · rw [sessions, TerminalServer.startingIds, attaches]
    exact sound.within
  · rw [attaches]
    exact sound.alone
  · rw [attaches, sessions]
    exact sound.free
  · rw [attaches, sessions]
    exact sound.idle
  · rw [attaches]
    intro attach member
    exact follows.there (sound.connected attach member)
  · rw [attaches, sessions]
    intro ws session found
    exact (sound.marked ws session found).imp_left follows.up
  · rw [reattaches]
    exact sound.reattachAlone
  · rw [attaches, reattaches]
    exact sound.exclusive
  · rw [reattaches]
    exact sound.bound
  · rw [reattaches, sessions]
    intro reattach member ws session isBound detaches live found sameSid sameClaim
    exact killed _ (sound.detached reattach member ws session isBound detaches live found sameSid
      sameClaim)
  · rw [reattaches]
    intro reattach member
    exact Nat.lt_of_lt_of_le (sound.turns reattach member) turns
  · rw [started]
    intro shell sessionId isStarted
    unfold Accounted
    rw [sessions, attaches, reattaches]
    exact (sound.accounted shell sessionId isStarted).imp_left (killed shell)

theorem Sound.close (sound : Sound maxSessions server) (ws : Socket) :
    Sound maxSessions (server.close ws) :=
  sound.frame (server.close ws) rfl rfl rfl rfl rfl (fun _ isKilled => isKilled)
    (Sockets.follows_close server.sockets ws) (Nat.le_refl _)

theorem Sound.kill (sound : Sound maxSessions server) (shell : ShellId) :
    Sound maxSessions (server.kill shell) :=
  sound.frame (server.kill shell) rfl rfl rfl rfl rfl
    (fun _ isKilled => List.mem_append_left _ isKilled) (.refl server.sockets) (Nat.le_refl _)

theorem Sound.releaseClaim (sound : Sound maxSessions server) (sessionId : String) (claim : Claim) :
    Sound maxSessions (server.releaseClaim sessionId claim) :=
  sound.frame (server.releaseClaim sessionId claim) rfl rfl rfl rfl rfl (fun _ isKilled => isKilled)
    (.refl server.sockets) (Nat.le_refl _)

/-! ### The end of a session -/

theorem Sound.release (sound : Sound maxSessions server) {ws : Socket} {session : Session}
    (found : server.sessions.item ws = some session) :
    Sound maxSessions
      { server with
        sessions := server.sessions.release Session.sid ws
        killed := server.killed ++ [session.term] } := by
  have kept : ∀ {other item}, (server.sessions.release Session.sid ws).item other = some item →
      server.sessions.item other = some item := by
    intro other item isItem
    rw [Registry.item_release] at isItem
    split at isItem
    · cases isItem
    · exact isItem
  constructor
  · exact mirrored_release sound.mirrored ws
  · exact sound.starting
  · apply sound.within.mono
    intro key member
    rcases member with isHeld | isStarting
    · obtain ⟨other, item, isItem, isKey⟩ := Registry.mem_keys.mp isHeld
      exact .inl (Registry.mem_keys.mpr ⟨other, item, kept isItem, isKey⟩)
    · exact .inr isStarting
  · exact sound.alone
  · intro attach member attempting
    have free := sound.free attach member attempting
    simp only
    rw [sound.mirrored.holder_release, free, ite_self]
  · intro attach member notRegistered
    have idle := sound.idle attach member notRegistered
    simp only
    rw [Registry.item_release, idle, ite_self]
  · exact sound.connected
  · intro other item isItem
    exact sound.marked other item (kept isItem)
  · exact sound.reattachAlone
  · exact sound.exclusive
  · exact sound.bound
  · intro reattach member other bound isBound detaches live isLive sameSid sameClaim
    apply List.mem_append_left
    exact sound.detached reattach member other bound isBound detaches live (kept isLive) sameSid
      sameClaim
  · exact sound.turns
  · intro shell sessionId isStarted
    rcases sound.accounted shell sessionId isStarted with
      isKilled | ⟨other, item, isItem, sameSid, isTerm⟩ | inHand
    · exact .inl (List.mem_append_left _ isKilled)
    · by_cases same : other = ws
      · rw [same, found] at isItem
        cases isItem
        rw [← isTerm]
        exact .inl (List.mem_append_right _ List.mem_cons_self)
      · refine .inr (.inl ⟨other, item, ?_, sameSid, isTerm⟩)
        simp only
        rw [Registry.item_release, if_neg same]
        exact isItem
    · exact .inr (.inr inHand)

theorem Sound.endSession (sound : Sound maxSessions server) (ws : Socket) :
    Sound maxSessions (server.endSession ws) := by
  unfold TerminalServer.endSession
  cases found : server.sessions.item ws with
  | none => exact sound
  | some session =>
      refine (sound.release found).frame _ rfl rfl rfl rfl rfl ?_ (.refl server.sockets) (Nat.le_refl _)
      intro shell isKilled
      exact isKilled

theorem Sound.closeFor (sound : Sound maxSessions server) (ws : Socket) :
    Sound maxSessions (server.closeFor ws) := (sound.endSession ws).close ws

theorem Sound.closeSession (sound : Sound maxSessions server) (sessionId : String) :
    Sound maxSessions (server.closeSession sessionId) := by
  have revoked : Sound maxSessions
      { server.deleteClaim sessionId with log := server.log ++ [Entry.closed sessionId] } :=
    sound.frame _ rfl rfl rfl rfl rfl (fun _ isKilled => isKilled) (.refl server.sockets)
      (Nat.le_refl _)
  unfold TerminalServer.closeSession
  simp only
  split
  · exact revoked
  · exact revoked.closeFor _

theorem Sound.endSessions (sound : Sound maxSessions server) (sockets : List Socket) :
    Sound maxSessions (sockets.foldl (fun server ws => server.endSession ws) server) := by
  induction sockets generalizing server with
  | nil => exact sound
  | cons ws rest ih => exact ih (sound.endSession ws)

theorem sessions_endSession (server : TerminalServer) (ws : Socket) :
    (server.endSession ws).sessions = server.sessions.release Session.sid ws := by
  unfold TerminalServer.endSession
  cases found : server.sessions.item ws with
  | none => rw [Registry.release, found]
  | some session => rfl

@[simp] theorem attaches_endSession (server : TerminalServer) (ws : Socket) :
    (server.endSession ws).attaches = server.attaches := by
  unfold TerminalServer.endSession
  split
  · rfl
  · rfl

@[simp] theorem attaches_closeSession (server : TerminalServer) (sessionId : String) :
    (server.closeSession sessionId).attaches = server.attaches := by
  unfold TerminalServer.closeSession
  simp only
  split
  · rfl
  · exact attaches_endSession _ _

/-- A closed session has no socket. -/
theorem Sound.holder_closeSession (sound : Sound maxSessions server) (sessionId : String) :
    (server.closeSession sessionId).sessions.holder sessionId = none := by
  unfold TerminalServer.closeSession
  cases isHolder : server.sessions.holder sessionId with
  | none =>
      simp only [TerminalServer.deleteClaim, isHolder]
  | some ws =>
      simp only [TerminalServer.deleteClaim, isHolder, TerminalServer.closeFor, TerminalServer.close,
        sessions_endSession]
      rw [sound.mirrored.holder_release, if_pos isHolder]

/-! ### Stages of an attach -/

section Attach

variable {ws : Socket} {attach : Attach} {stage : AttachStage}

/-- The attaches once one of them is in another stage. -/
theorem mem_setStage (waits : server.attaching ws = some attach) {other : Attach} :
    other ∈ (server.setStage ws stage).attaches ↔
      other = { attach with stage := stage } ∨ other ∈ server.attaches ∧ other.ws ≠ ws :=
  Keyed.mem_modify server.attachKeys waits

theorem countP_setStage (waits : server.attaching ws = some attach) (stage : AttachStage) :
    (server.setStage ws stage).attaches.countP Attach.admitted +
        (if attach.admitted = true then 1 else 0) =
      server.attaches.countP Attach.admitted +
        (if Attach.admitted { attach with stage := stage } = true then 1 else 0) :=
  Keyed.countP_modify Attach.admitted server.attachKeys waits

theorem attaching_setStage (waits : server.attaching ws = some attach) :
    (server.setStage ws stage).attaching ws = some { attach with stage := stage } := by
  have changed : (server.setStage ws stage).attaching ws =
      (server.attaching ws).map fun attach =>
        if attach.ws = ws then { attach with stage := stage } else attach :=
    Keyed.lookup_modify ws ws _ server.attaches fun _ => rfl
  rw [changed, waits, Option.map_some, if_pos (Keyed.key_of_lookup waits)]

/-- A socket with a session keeps its attach, in whatever stage. -/
theorem Sound.marked_setStage (sound : Sound maxSessions server)
    (waits : server.attaching ws = some attach) (stage : AttachStage) :
    ∀ other session, server.sessions.item other = some session →
      server.sockets.kept other = some true ∨
        ∃ attach ∈ (server.setStage ws stage).attaches, attach.ws = other := by
  intro other session found
  rcases sound.marked other session found with isAuthenticated | ⟨was, wasWaiting, wasSocket⟩
  · exact .inl isAuthenticated
  · by_cases same : was.ws = ws
    · have isSocket : attach.ws = ws := Keyed.key_of_lookup waits
      refine .inr ⟨{ attach with stage := stage }, (mem_setStage waits).mpr (.inl rfl), ?_⟩
      rw [← wasSocket, same]
      exact isSocket
    · exact .inr ⟨was, (mem_setStage waits).mpr (.inr ⟨wasWaiting, same⟩), wasSocket⟩

/-- A shell stays accounted for unless it was dropped. -/
theorem Accounted.setStage {sessionId : String} {shell : ShellId}
    (accounted : Accounted server sessionId shell) (waits : server.attaching ws = some attach)
    (dropped : attach.sessionId = sessionId → attach.stage.shell? = some shell →
      Accounted (server.setStage ws stage) sessionId shell) :
    Accounted (server.setStage ws stage) sessionId shell := by
  rcases accounted with
    isKilled | isTerm | ⟨was, wasWaiting, sameSession, wasShell⟩ | inReattach
  · exact .inl isKilled
  · exact .inr (.inl isTerm)
  · by_cases same : was.ws = ws
    · have isAttach : was = attach := server.attachKeys.eq_of_lookup waits wasWaiting same
      rw [isAttach] at wasShell sameSession
      exact dropped sameSession wasShell
    · exact .inr (.inr (.inl ⟨was, (mem_setStage waits).mpr (.inr ⟨wasWaiting, same⟩), sameSession,
        wasShell⟩))
  · exact .inr (.inr (.inr inReattach))

/-- With the same slots as before, the attaches with one are those of before. -/
theorem admitted_setStage (waits : server.attaching ws = some attach)
    (sameSlot : stage.isQueued = attach.stage.isQueued) {other : Attach}
    (member : other ∈ (server.setStage ws stage).attaches) (admitted : other.admitted = true) :
    ∃ was ∈ server.attaches, was.admitted = true ∧ was.ws = other.ws ∧
      was.sessionId = other.sessionId := by
  rcases (mem_setStage waits).mp member with rfl | ⟨wasWaiting, _⟩
  · refine ⟨attach, Keyed.mem_of_lookup waits, ?_, rfl, rfl⟩
    simp only [Attach.admitted, sameSlot] at admitted
    exact admitted
  · exact ⟨other, wasWaiting, admitted, rfl, rfl⟩

theorem startingIds_setStage (waits : server.attaching ws = some attach)
    (sameSlot : stage.isQueued = attach.stage.isQueued) {sessionId : String}
    (member : sessionId ∈ (server.setStage ws stage).startingIds) :
    sessionId ∈ server.startingIds := by
  obtain ⟨other, inAttaches, isAdmitted, rfl⟩ := mem_startingIds.mp member
  obtain ⟨was, wasWaiting, wasAdmitted, _, sameSession⟩ :=
    admitted_setStage waits sameSlot inAttaches isAdmitted
  exact mem_startingIds.mpr ⟨was, wasWaiting, wasAdmitted, sameSession⟩

theorem Sound.starting_setStage (sound : Sound maxSessions server)
    (waits : server.attaching ws = some attach)
    (sameSlot : stage.isQueued = attach.stage.isQueued) :
    server.startingShells = (server.setStage ws stage).attaches.countP Attach.admitted := by
  have counted := countP_setStage waits stage
  have sameAdmitted : Attach.admitted { attach with stage := stage } = attach.admitted := by
    simp only [Attach.admitted, sameSlot]
  rw [sameAdmitted] at counted
  rw [Nat.add_right_cancel counted]
  exact sound.starting

theorem Sound.alone_setStage (sound : Sound maxSessions server)
    (waits : server.attaching ws = some attach)
    (sameSlot : stage.isQueued = attach.stage.isQueued) :
    ∀ first ∈ (server.setStage ws stage).attaches, ∀ second ∈ (server.setStage ws stage).attaches,
      first.admitted = true → second.admitted = true → first.sessionId = second.sessionId →
      first.ws = second.ws := by
  intro first isFirst second isSecond firstAdmitted secondAdmitted sameSession
  obtain ⟨was, wasWaiting, wasAdmitted, sameSocket, sameId⟩ :=
    admitted_setStage waits sameSlot isFirst firstAdmitted
  obtain ⟨was', wasWaiting', wasAdmitted', sameSocket', sameId'⟩ :=
    admitted_setStage waits sameSlot isSecond secondAdmitted
  rw [← sameSocket, ← sameSocket']
  apply sound.alone was wasWaiting was' wasWaiting' wasAdmitted wasAdmitted'
  rw [sameId, sameId', sameSession]

theorem Sound.exclusive_setStage (sound : Sound maxSessions server)
    (waits : server.attaching ws = some attach)
    (sameSlot : stage.isQueued = attach.stage.isQueued) :
    ∀ other ∈ (server.setStage ws stage).attaches, ∀ reattach ∈ server.reattaches,
      other.admitted = true → reattach.stage.isQueued = false →
      other.sessionId ≠ reattach.sessionId := by
  intro other member reattach inReattaches admitted running
  obtain ⟨was, wasWaiting, wasAdmitted, _, sameId⟩ :=
    admitted_setStage waits sameSlot member admitted
  rw [← sameId]
  exact sound.exclusive was wasWaiting reattach inReattaches wasAdmitted running

theorem Sound.connected_setStage (sound : Sound maxSessions server)
    (waits : server.attaching ws = some attach) :
    ∀ other ∈ (server.setStage ws stage).attaches, (server.sockets.kept other.ws).isSome = true := by
  intro other member
  rcases (mem_setStage waits).mp member with rfl | ⟨wasWaiting, _⟩
  · exact sound.connected attach (Keyed.mem_of_lookup waits)
  · exact sound.connected other wasWaiting

/-- An attach that has not registered moves on, with or without a slot as before: to a stage in which it
    has its claim only while its session has no shell, and without leaving the shell in its hands. -/
theorem Sound.setStage (sound : Sound maxSessions server) (waits : server.attaching ws = some attach)
    (stage : AttachStage) (sameSlot : stage.isQueued = attach.stage.isQueued)
    (notRegistered : attach.stage ≠ .returned true)
    (free : stage.attempting = true → server.sessions.holder attach.sessionId = none)
    (dropped : ∀ shell, attach.stage.shell? = some shell →
      shell ∈ server.killed ∨ stage.shell? = some shell) :
    Sound maxSessions (server.setStage ws stage) := by
  constructor
  · exact sound.mirrored
  · exact sound.starting_setStage waits sameSlot
  · apply sound.within.mono
    intro key member
    exact member.imp_right (startingIds_setStage waits sameSlot)
  · exact sound.alone_setStage waits sameSlot
  · intro other member attempting
    rcases (mem_setStage waits).mp member with rfl | ⟨wasWaiting, _⟩
    · exact free attempting
    · exact sound.free other wasWaiting attempting
  · intro other member isOther
    rcases (mem_setStage waits).mp member with rfl | ⟨wasWaiting, _⟩
    · exact sound.idle attach (Keyed.mem_of_lookup waits) notRegistered
    · exact sound.idle other wasWaiting isOther
  · exact sound.connected_setStage waits
  · exact sound.marked_setStage waits stage
  · exact sound.reattachAlone
  · exact sound.exclusive_setStage waits sameSlot
  · exact sound.bound
  · exact sound.detached
  · exact sound.turns
  · intro shell sessionId isStarted
    apply (sound.accounted shell sessionId isStarted).setStage waits
    intro sameSession wasShell
    rcases dropped shell wasShell with isKilled | stillShell
    · exact .inl isKilled
    · exact .inr (.inr (.inl ⟨_, (mem_setStage waits).mpr (.inl rfl), sameSession, stillShell⟩))

/-! ### Slots -/

/-- In its turn a session has nothing else that runs. -/
theorem running_of_inTurn {sessionId : String} {turn : Nat}
    (inTurn : server.inTurn sessionId turn = true) :
    (∀ other ∈ server.attaches, other.admitted = true → other.sessionId ≠ sessionId) ∧
      ∀ other ∈ server.reattaches, other.stage.isQueued = false → other.sessionId ≠ sessionId := by
  rw [TerminalServer.inTurn, Bool.and_eq_true, List.all_eq_true, List.all_eq_true] at inTurn
  constructor
  · intro other member isAdmitted sameSession
    have waits := inTurn.1 other member
    simp only [sameSession, ne_eq, not_true_eq_false, decide_false, Bool.false_or,
      Bool.and_eq_true] at waits
    rw [Attach.admitted, waits.1] at isAdmitted
    cases isAdmitted
  · intro other member running sameSession
    have waits := inTurn.2 other member
    simp only [sameSession, ne_eq, not_true_eq_false, decide_false, Bool.false_or,
      Bool.and_eq_true] at waits
    rw [waits.1] at running
    cases running

/-- A queued attach whose turn it is takes a slot, below the ceiling or in the place of its session's
    shell. -/
theorem Sound.slotted (sound : Sound maxSessions server) (waits : server.attaching ws = some attach)
    (queued : attach.stage.isQueued = true)
    (inTurn : server.inTurn attach.sessionId attach.turn = true)
    (admitted : ¬ (!(server.sessions.holder attach.sessionId).isSome &&
      decide (maxSessions ≤ server.sessions.size + server.startingShells)) = true) :
    Sound maxSessions
      ({ server with startingShells := server.startingShells + 1 }.setStage ws .slotted) := by
  have isWaiting : attach ∈ server.attaches := Keyed.mem_of_lookup waits
  have member : ∀ {other}, other ∈ ({ server with
        startingShells := server.startingShells + 1 }.setStage ws .slotted).attaches ↔
      other = { attach with stage := .slotted } ∨ other ∈ server.attaches ∧ other.ws ≠ ws :=
    mem_setStage waits
  have notRegistered : attach.stage ≠ .returned true := by
    intro returned
    rw [returned] at queued
    cases queued
  have noShell : attach.stage.shell? = none := by
    cases isStage : attach.stage with
    | queued replaced => rfl
    | _ =>
        rw [isStage] at queued
        cases queued
  -- nothing else of the session has a slot or runs
  obtain ⟨noOther, noReattach⟩ := running_of_inTurn inTurn
  constructor
  · exact sound.mirrored
  · have counted := countP_setStage waits .slotted
    have wasQueued : attach.admitted = false := by
      rw [Attach.admitted, queued]
      rfl
    rw [wasQueued, ← sound.starting] at counted
    exact counted.symm
  · have union : Within maxSessions (server.sessions.keys Session.sid)
        (attach.sessionId :: server.startingIds) := by
      by_cases replacing : (server.sessions.holder attach.sessionId).isSome = true
      · apply sound.within.readmit
        exact sound.mirrored.mem_keys_iff.mpr replacing
      · apply Within.admit
        rw [Registry.keys, List.length_map, TerminalServer.startingIds, List.length_map,
          ← List.countP_eq_length_filter, ← sound.starting]
        simp only [replacing, Bool.not_false, Bool.true_and, decide_eq_true_eq, Nat.not_le] at admitted
        exact admitted
    apply union.mono
    intro key isMember
    rcases isMember with isHeld | isStarting
    · exact .inl isHeld
    · obtain ⟨other, inAttaches, isAdmitted, rfl⟩ := mem_startingIds.mp isStarting
      rcases member.mp inAttaches with rfl | ⟨wasWaiting, _⟩
      · exact .inr List.mem_cons_self
      · apply Or.inr
        apply List.mem_cons_of_mem
        exact mem_startingIds.mpr ⟨other, wasWaiting, isAdmitted, rfl⟩
  · intro first isFirst second isSecond firstAdmitted secondAdmitted sameSession
    rcases member.mp isFirst with rfl | ⟨firstWaiting, _⟩
    · rcases member.mp isSecond with rfl | ⟨secondWaiting, _⟩
      · rfl
      · exact absurd sameSession.symm (noOther second secondWaiting secondAdmitted)
    · rcases member.mp isSecond with rfl | ⟨secondWaiting, _⟩
      · exact absurd sameSession (noOther first firstWaiting firstAdmitted)
      · exact sound.alone first firstWaiting second secondWaiting firstAdmitted secondAdmitted
          sameSession
  · intro other inAttaches attempting
    rcases member.mp inAttaches with rfl | ⟨wasWaiting, _⟩
    · cases attempting
    · exact sound.free other wasWaiting attempting
  · intro other inAttaches isOther
    rcases member.mp inAttaches with rfl | ⟨wasWaiting, _⟩
    · exact sound.idle attach isWaiting notRegistered
    · exact sound.idle other wasWaiting isOther
  · exact sound.connected_setStage waits
  · exact sound.marked_setStage waits .slotted
  · exact sound.reattachAlone
  · intro other inAttaches reattach inReattaches isAdmitted running
    rcases member.mp inAttaches with rfl | ⟨wasWaiting, _⟩
    · exact (noReattach reattach inReattaches running).symm
    · exact sound.exclusive other wasWaiting reattach inReattaches isAdmitted running
  · exact sound.bound
  · exact sound.detached
  · exact sound.turns
  · intro shell sessionId isStarted
    apply (sound.accounted shell sessionId isStarted).setStage waits
    intro _ wasShell
    rw [noShell] at wasShell
    cases wasShell

/-- The attach leaves. A slot it had is given back, and a session it registered is its socket's. -/
theorem Sound.finishAttach (sound : Sound maxSessions server)
    (waits : server.attaching ws = some attach) (noShell : attach.stage.shell? = none)
    (startingShells : Nat)
    (slot : startingShells + (if attach.admitted = true then 1 else 0) = server.startingShells)
    (sockets : Sockets Bool)
    (follows : server.sockets.Follows sockets)
    (authenticated : ∀ session, server.sessions.item ws = some session →
      sockets.kept ws = some true) :
    Sound maxSessions
      ({ server with startingShells := startingShells, sockets := sockets }.finishAttach ws) := by
  have wasWaiting : ∀ {other}, other ∈ Keyed.remove Attach.ws ws server.attaches →
      other ∈ server.attaches := by
    intro other member
    exact (Keyed.mem_remove.mp member).1
  constructor
  · exact sound.mirrored
  · have counted := Keyed.countP_remove Attach.admitted server.attachKeys waits
    rw [← sound.starting, ← slot] at counted
    exact (Nat.add_right_cancel counted).symm
  · apply sound.within.mono
    intro key member
    rcases member with isHeld | isStarting
    · exact .inl isHeld
    · obtain ⟨other, inRest, isAdmitted, rfl⟩ := mem_startingIds.mp isStarting
      exact .inr (mem_startingIds.mpr ⟨other, wasWaiting inRest, isAdmitted, rfl⟩)
  · intro first isFirst second isSecond
    exact sound.alone first (wasWaiting isFirst) second (wasWaiting isSecond)
  · intro other member
    exact sound.free other (wasWaiting member)
  · intro other member
    exact sound.idle other (wasWaiting member)
  · intro other member
    exact follows.there (sound.connected other (wasWaiting member))
  · intro other session found
    by_cases same : other = ws
    · rw [same] at found ⊢
      exact .inl (authenticated session found)
    · rcases sound.marked other session found with isAuthenticated | ⟨was, isWaiting, wasSocket⟩
      · exact .inl (follows.up isAuthenticated)
      · refine .inr ⟨was, Keyed.mem_remove.mpr ⟨isWaiting, ?_⟩, wasSocket⟩
        rw [wasSocket]
        exact same
  · exact sound.reattachAlone
  · intro other member
    exact sound.exclusive other (wasWaiting member)
  · exact sound.bound
  · exact sound.detached
  · exact sound.turns
  · intro shell sessionId isStarted
    rcases sound.accounted shell sessionId isStarted with
      isKilled | isTerm | ⟨was, isWaiting, sameSession, wasShell⟩ | inReattach
    · exact .inl isKilled
    · exact .inr (.inl isTerm)
    · by_cases same : was.ws = ws
      · rw [server.attachKeys.eq_of_lookup waits isWaiting same, noShell] at wasShell
        cases wasShell
      · exact .inr (.inr (.inl ⟨was, Keyed.mem_remove.mpr ⟨isWaiting, same⟩, sameSession, wasShell⟩))
    · exact .inr (.inr (.inr inReattach))

/-- A queued attach leaves. -/
theorem Sound.finishQueued (sound : Sound maxSessions server)
    (waits : server.attaching ws = some attach) (queued : attach.stage.isQueued = true) :
    Sound maxSessions (server.finishAttach ws) := by
  obtain ⟨ws', sessionId, turn, stage⟩ := attach
  cases stage with
  | queued replaced =>
      refine sound.finishAttach waits rfl server.startingShells rfl server.sockets (.refl _) ?_
      intro session found
      have idle : server.sessions.item ws' = none := by
        apply sound.idle _ (Keyed.mem_of_lookup waits)
        intro impossible
        cases impossible
      rw [show ws' = ws from Keyed.key_of_lookup waits, found] at idle
      cases idle
  | _ => cases queued

/-- The `finally` of `withSessionSlot`. -/
theorem Sound.settled (sound : Sound maxSessions server) (ws : Socket) :
    Sound maxSessions (server.settled ws) := by
  unfold TerminalServer.settled
  split
  · rename_i socket sessionId turn started waits
    have isWaiting := Keyed.mem_of_lookup waits
    have isSocket : socket = ws := Keyed.key_of_lookup waits
    refine sound.finishAttach waits rfl _ ?_ _ ?_ ?_
    · have slots : 0 < server.attaches.countP Attach.admitted :=
        List.countP_pos_iff.mpr ⟨_, isWaiting, rfl⟩
      rw [← sound.starting] at slots
      exact Nat.sub_add_cancel slots
    · split
      · exact Sockets.follows_keep server.sockets ws
      · exact .refl server.sockets
    · intro session found
      cases started with
      | true =>
          have isThere := sound.connected _ isWaiting
          rw [show socket = ws from isSocket] at isThere
          obtain ⟨flag, isKept⟩ := Option.isSome_iff_exists.mp isThere
          rw [if_pos rfl, Sockets.kept_keep, isKept, Option.map_some, if_pos rfl]
      | false =>
          have idle : server.sessions.item socket = none := by
            apply sound.idle _ isWaiting
            intro impossible
            cases impossible
          rw [isSocket, found] at idle
          cases idle
  · exact sound

/-! ### Attaching -/

/-- A new attach waits for its turn, on a socket without a session. -/
theorem Sound.queue (sound : Sound maxSessions server) (isNew : server.attaching ws = none)
    (noSession : server.sessions.item ws = none) (connected : server.sockets.kept ws = some false)
    (sessionId : String) (turn : Nat) :
    Sound maxSessions
      { server with
        attaches := Keyed.put Attach.ws ⟨ws, sessionId, turn, .queued false⟩ server.attaches
        attachKeys := server.attachKeys.put } := by
  have appended : Keyed.put Attach.ws ⟨ws, sessionId, turn, .queued false⟩ server.attaches =
      server.attaches ++ [⟨ws, sessionId, turn, .queued false⟩] := Keyed.put_of_absent isNew
  have member : ∀ {other}, other ∈ Keyed.put Attach.ws ⟨ws, sessionId, turn, .queued false⟩
        server.attaches →
      other ∈ server.attaches ∨ other = ⟨ws, sessionId, turn, .queued false⟩ := by
    intro other inPut
    exact (Keyed.mem_put inPut).symm
  have kept : ∀ {other}, other ∈ server.attaches →
      other ∈ Keyed.put Attach.ws ⟨ws, sessionId, turn, .queued false⟩ server.attaches := by
    intro other inAttaches
    rw [appended]
    exact List.mem_append_left _ inAttaches
  constructor
  · exact sound.mirrored
  · simp only
    rw [appended, List.countP_append]
    exact sound.starting
  · apply sound.within.mono
    intro key isMember
    rcases isMember with isHeld | isStarting
    · exact .inl isHeld
    · obtain ⟨other, inPut, isAdmitted, rfl⟩ := mem_startingIds.mp isStarting
      rcases member inPut with inAttaches | rfl
      · exact .inr (mem_startingIds.mpr ⟨other, inAttaches, isAdmitted, rfl⟩)
      · cases isAdmitted
  · intro first isFirst second isSecond firstAdmitted secondAdmitted
    rcases member isFirst with firstWaiting | rfl
    · rcases member isSecond with secondWaiting | rfl
      · exact sound.alone first firstWaiting second secondWaiting firstAdmitted secondAdmitted
      · cases secondAdmitted
    · cases firstAdmitted
  · intro other inPut attempting
    rcases member inPut with inAttaches | rfl
    · exact sound.free other inAttaches attempting
    · cases attempting
  · intro other inPut notRegistered
    rcases member inPut with inAttaches | rfl
    · exact sound.idle other inAttaches notRegistered
    · exact noSession
  · intro other inPut
    rcases member inPut with inAttaches | rfl
    · exact sound.connected other inAttaches
    · rw [connected]
      rfl
  · intro other session found
    rcases sound.marked other session found with isAuthenticated | ⟨was, isWaiting, wasSocket⟩
    · exact .inl isAuthenticated
    · exact .inr ⟨was, kept isWaiting, wasSocket⟩
  · exact sound.reattachAlone
  · intro other inPut reattach inReattaches isAdmitted
    rcases member inPut with inAttaches | rfl
    · exact sound.exclusive other inAttaches reattach inReattaches isAdmitted
    · cases isAdmitted
  · exact sound.bound
  · exact sound.detached
  · exact sound.turns
  · intro shell id isStarted
    rcases sound.accounted shell id isStarted with
      isKilled | isTerm | ⟨was, isWaiting, inHand⟩ | inReattach
    · exact .inl isKilled
    · exact .inr (.inl isTerm)
    · exact .inr (.inr (.inl ⟨was, kept isWaiting, inHand⟩))
    · exact .inr (.inr (.inr inReattach))

theorem Sound.replaceWaiting (sound : Sound maxSessions server) (sessionId : String) :
    Sound maxSessions (server.replaceWaiting sessionId) := by
  unfold TerminalServer.replaceWaiting
  split
  · exact sound
  · rename_i ws _
    split
    · rename_i waits
      have replaced : Sound maxSessions (server.setStage ws (.queued true)) := by
        apply sound.setStage waits (.queued true) rfl
        · intro impossible
          cases impossible
        · intro impossible
          cases impossible
        · intro shell impossible
          cases impossible
      exact replaced.close ws
    · exact sound.close ws

/-- Replacing the attach that waits leaves the sessions and the sockets' flags, and adds no attach. -/
theorem replaceWaiting_spec (server : TerminalServer) (sessionId : String) (ws : Socket) :
    (server.replaceWaiting sessionId).sessions = server.sessions ∧
      (server.replaceWaiting sessionId).sockets.kept ws = server.sockets.kept ws ∧
      (server.attaching ws = none → (server.replaceWaiting sessionId).attaching ws = none) := by
  unfold TerminalServer.replaceWaiting
  split
  · exact ⟨rfl, rfl, fun isNew => isNew⟩
  · rename_i waiting _
    split
    · refine ⟨rfl, Sockets.kept_close server.sockets waiting ws, ?_⟩
      intro isNew
      have changed : (server.setStage waiting (.queued true)).attaching ws =
          (server.attaching ws).map fun attach =>
            if attach.ws = waiting then { attach with stage := .queued true } else attach :=
        Keyed.lookup_modify waiting ws _ server.attaches fun _ => rfl
      rw [isNew] at changed
      exact changed
    · exact ⟨rfl, Sockets.kept_close server.sockets waiting ws, fun isNew => isNew⟩

/-- A socket that may authenticate has no session. -/
theorem Sound.noSession (sound : Sound maxSessions server) (isNew : server.attaching ws = none)
    (notAuthenticated : server.sockets.kept ws = some false) : server.sessions.item ws = none := by
  cases found : server.sessions.item ws with
  | none => rfl
  | some session =>
      rcases sound.marked ws session found with isAuthenticated | ⟨attach, isWaiting, isSocket⟩
      · rw [notAuthenticated] at isAuthenticated
        cases isAuthenticated
      · exact absurd isSocket (Keyed.lookup_eq_none.mp isNew attach isWaiting)

theorem Sound.authenticate (sound : Sound maxSessions server) (ws : Socket) (sessionId : String) :
    Sound maxSessions (server.authenticate ws sessionId) := by
  unfold TerminalServer.authenticate
  split
  · rename_i may
    obtain ⟨notAuthenticated, noAttach⟩ := may
    rw [Option.isNone_iff_eq_none] at noAttach
    have noSession := sound.noSession noAttach notAuthenticated
    obtain ⟨sessions, kept, stays⟩ := replaceWaiting_spec server sessionId ws
    have queued := (sound.replaceWaiting sessionId).queue (stays noAttach) (sessions ▸ noSession)
      (kept.trans notAuthenticated) sessionId (server.replaceWaiting sessionId).nextTurn
    refine queued.frame _ rfl rfl rfl rfl rfl ?_ (.refl (server.replaceWaiting sessionId).sockets)
      (Nat.le_succ _)
    intro shell isKilled
    exact isKilled
  · exact sound

/-- `startSession` up to its first wait. -/
theorem Sound.startSession (sound : Sound maxSessions server)
    (waits : server.attaching ws = some attach) (slotted : attach.stage = .slotted) :
    Sound maxSessions (server.startSession ws attach.sessionId) := by
  have noShell : ∀ {shell}, attach.stage.shell? ≠ some shell := by
    intro shell isShell
    rw [slotted] at isShell
    cases isShell
  have notRegistered : attach.stage ≠ .returned true := by
    intro returned
    rw [slotted] at returned
    cases returned
  unfold TerminalServer.startSession
  split
  · apply sound.setStage waits (.returned false) (by rw [slotted]; rfl) notRegistered
    · intro impossible
      cases impossible
    · intro shell isShell
      exact absurd isShell noShell
  · have closed := sound.closeSession attach.sessionId
    have claimed : Sound maxSessions
        ((server.closeSession attach.sessionId).takeClaim attach.sessionId) :=
      closed.frame _ rfl rfl rfl rfl rfl (fun _ isKilled => isKilled) (.refl _) (Nat.le_refl _)
    have stillWaits : ((server.closeSession attach.sessionId).takeClaim attach.sessionId).attaching
        ws = some attach := by
      rw [TerminalServer.attaching, TerminalServer.takeClaim, attaches_closeSession]
      exact waits
    apply claimed.setStage stillWaits (.preparing _) (by rw [slotted]; rfl) notRegistered
    · intro _
      exact sound.holder_closeSession attach.sessionId
    · intro shell isShell
      exact absurd isShell noShell

theorem Sound.withSessionSlot (config : TerminalConfig) (sound : Sound config.maxSessions server)
    (waits : server.attaching ws = some attach) (queued : attach.stage.isQueued = true)
    (inTurn : server.inTurn attach.sessionId attach.turn = true) :
    Sound config.maxSessions (server.withSessionSlot config ws attach.sessionId) := by
  unfold TerminalServer.withSessionSlot
  simp only
  split
  · exact (sound.close ws).finishQueued waits queued
  · rename_i admitted
    have slotted := sound.slotted waits queued inTurn admitted
    have waitsSlotted : ({ server with
          startingShells := server.startingShells + 1 }.setStage ws .slotted).attaching ws =
        some { attach with stage := .slotted } := attaching_setStage waits
    have started := slotted.startSession waitsSlotted rfl
    exact started

/-- An attach's turn. -/
theorem Sound.takeTurn (config : TerminalConfig) (sound : Sound config.maxSessions server)
    (ws : Socket) : Sound config.maxSessions (server.takeTurn config ws) := by
  unfold TerminalServer.takeTurn
  split
  · rename_i socket sessionId turn replaced waits
    split
    · rename_i inTurn
      have taken : Sound config.maxSessions (server.forgetWaiting ws sessionId) :=
        sound.frame _ rfl rfl rfl rfl rfl (fun _ isKilled => isKilled) (.refl server.sockets)
          (Nat.le_refl _)
      simp only
      split
      · exact taken.finishQueued waits rfl
      · exact taken.withSessionSlot config waits rfl inTurn
    · exact sound
  · exact sound

/-! ### The attach's shell -/

theorem started_cases {started : List String} {sessionId id : String} {shell : Nat}
    (isStarted : (started ++ [sessionId])[shell]? = some id) :
    started[shell]? = some id ∨ shell = started.length ∧ id = sessionId := by
  rw [List.getElem?_append] at isStarted
  split at isStarted
  · exact .inl isStarted
  · rename_i notBefore
    obtain ⟨isLast, isSession⟩ := List.getElem?_eq_some_iff.mp isStarted
    rw [List.length_singleton] at isLast
    have isNewest : shell - started.length = 0 := by omega
    simp only [isNewest, List.getElem_cons_zero] at isSession
    exact .inr ⟨by omega, isSession.symm⟩

/-- A shell is started for whoever accounts for it. -/
theorem Sound.start (sound : Sound maxSessions server) {sessionId : String}
    (inHand : Accounted server sessionId server.started.length) :
    Sound maxSessions { server with started := server.started ++ [sessionId] } := by
  constructor
  · exact sound.mirrored
  · exact sound.starting
  · exact sound.within
  · exact sound.alone
  · exact sound.free
  · exact sound.idle
  · exact sound.connected
  · exact sound.marked
  · exact sound.reattachAlone
  · exact sound.exclusive
  · exact sound.bound
  · exact sound.detached
  · exact sound.turns
  · intro shell id isStarted
    rcases started_cases isStarted with wasStarted | ⟨isNewest, isSession⟩
    · exact sound.accounted shell id wasStarted
    · rw [isNewest, isSession]
      exact inHand

theorem Sound.shellAnswered (sound : Sound maxSessions server) (ws : Socket)
    (answer : Except String String) : Sound maxSessions (server.shellAnswered ws answer) := by
  unfold TerminalServer.shellAnswered
  split
  · rename_i socket sessionId turn claim plan waits
    have answered : ∀ attachment, Sound maxSessions
        (server.setStage ws (.answered claim plan attachment)) := by
      intro attachment
      apply sound.setStage waits (.answered claim plan attachment) rfl
      · intro impossible
        cases impossible
      · intro _
        exact sound.free _ (Keyed.mem_of_lookup waits) rfl
      · intro shell impossible
        cases impossible
    split
    · exact answered _
    · rename_i sandboxRef
      apply (answered (.ok (server.started.length, sandboxRef))).start
      exact .inr (.inr (.inl ⟨_, (mem_setStage waits).mpr (.inl rfl), rfl, rfl⟩))
  · exact sound

theorem slot_of_attempting (attempting : stage.attempting = true) : stage.isQueued = false := by
  cases stage with
  | queued replaced => cases attempting
  | _ => rfl

/-- An attach registers the shell in its hands, and returns. -/
theorem Sound.register (sound : Sound maxSessions server) (waits : server.attaching ws = some attach)
    (attempting : attach.stage.attempting = true) {shell : ShellId}
    (inHand : attach.stage.shell? = some shell) (claim : Claim) (plan : Plan) :
    Sound maxSessions
      ((server.register ws attach.sessionId claim plan shell).setStage ws (.returned true)) := by
  have isWaiting : attach ∈ server.attaches := Keyed.mem_of_lookup waits
  have isSocket : attach.ws = ws := Keyed.key_of_lookup waits
  have running := slot_of_attempting attempting
  have isAdmitted : attach.admitted = true := by
    rw [Attach.admitted, running]
    rfl
  have free := sound.free attach isWaiting attempting
  have idle : server.sessions.item ws = none := by
    rw [← isSocket]
    apply sound.idle attach isWaiting
    intro returned
    rw [returned] at attempting
    cases attempting
  have sameSlot : (AttachStage.returned true).isQueued = attach.stage.isQueued := running.symm
  have member : ∀ {other}, other ∈
        ((server.register ws attach.sessionId claim plan shell).setStage ws (.returned true)).attaches →
      other = { attach with stage := .returned true } ∨ other ∈ server.attaches ∧ other.ws ≠ ws :=
    (mem_setStage waits).mp
  -- a session is the new one, or another socket's from before
  have item : ∀ {other session}, (server.register ws attach.sessionId claim plan
        shell).sessions.item other = some session →
      (other = ws ∧ session.sid = attach.sessionId) ∨ server.sessions.item other = some session := by
    intro other session found
    rw [TerminalServer.register, Registry.item_register] at found
    split at found
    · rename_i same
      cases found
      exact .inl ⟨same.symm, rfl⟩
    · exact .inr found
  constructor
  · apply mirrored_register sound.mirrored idle
    exact free
  · exact sound.starting_setStage waits sameSlot
  · apply sound.within.mono
    intro key isMember
    rcases isMember with isHeld | isStarting
    · obtain ⟨other, session, found, rfl⟩ := Registry.mem_keys.mp isHeld
      rcases item found with ⟨_, isSession⟩ | wasFound
      · rw [isSession]
        exact .inr (mem_startingIds.mpr ⟨attach, isWaiting, isAdmitted, rfl⟩)
      · exact .inl (Registry.mem_keys.mpr ⟨other, session, wasFound, rfl⟩)
    · have wasStarting : key ∈ server.startingIds := startingIds_setStage waits sameSlot isStarting
      exact .inr wasStarting
  · exact sound.alone_setStage waits sameSlot
  · intro other inAttaches otherAttempting
    rcases member inAttaches with rfl | ⟨wasWaiting, isOther⟩
    · cases otherAttempting
    · have otherSession : attach.sessionId ≠ other.sessionId := by
        intro sameSession
        have otherAdmitted : other.admitted = true := by
          rw [Attach.admitted, slot_of_attempting otherAttempting]
          rfl
        apply isOther
        rw [← isSocket]
        exact (sound.alone attach isWaiting other wasWaiting isAdmitted otherAdmitted sameSession).symm
      simp only [TerminalServer.setStage, TerminalServer.register]
      rw [Registry.holder_register, if_neg otherSession]
      exact sound.free other wasWaiting otherAttempting
  · intro other inAttaches notRegistered
    rcases member inAttaches with rfl | ⟨wasWaiting, isOther⟩
    · exact absurd rfl notRegistered
    · simp only [TerminalServer.setStage, TerminalServer.register]
      rw [Registry.item_register, if_neg (Ne.symm isOther)]
      exact sound.idle other wasWaiting notRegistered
  · exact sound.connected_setStage waits
  · intro other session found
    rcases item found with ⟨isNew, _⟩ | wasFound
    · refine .inr ⟨{ attach with stage := .returned true }, (mem_setStage waits).mpr (.inl rfl), ?_⟩
      rw [isNew]
      exact isSocket
    · exact sound.marked_setStage waits (.returned true) other session wasFound
  · exact sound.reattachAlone
  · exact sound.exclusive_setStage waits sameSlot
  · exact sound.bound
  · intro reattach inReattaches other session isBound detaches live found sameSid sameClaim
    rcases item found with ⟨_, isSession⟩ | wasFound
    · have ofSession := sound.bound reattach inReattaches other session isBound
      have runs : reattach.stage.isQueued = false := by
        cases isStage : reattach.stage with
        | queued =>
            rw [isStage] at detaches
            cases detaches
        | _ => rfl
      have isOther := sound.exclusive attach isWaiting reattach inReattaches isAdmitted runs
      rw [← ofSession, ← sameSid, isSession] at isOther
      exact absurd rfl isOther
    · exact sound.detached reattach inReattaches other session isBound detaches live wasFound sameSid
        sameClaim
  · exact sound.turns
  · intro other sessionId isStarted
    have registered : (server.register ws attach.sessionId claim plan shell).sessions.item ws =
        some ⟨attach.sessionId, plan.sandboxRef, plan.sandboxKind, shell, claim⟩ := by
      rw [TerminalServer.register, Registry.item_register, if_pos rfl]
    have stays : Accounted (server.register ws attach.sessionId claim plan shell) sessionId other := by
      rcases sound.accounted other sessionId isStarted with
        isKilled | ⟨socket, session, found, isSession, isTerm⟩ | inTurn
      · exact .inl isKilled
      · refine .inr (.inl ⟨socket, session, ?_, isSession, isTerm⟩)
        rw [TerminalServer.register, Registry.item_register, if_neg]
        · exact found
        · intro same
          rw [← same, idle] at found
          cases found
      · exact .inr (.inr inTurn)
    apply stays.setStage waits
    intro sameSession wasShell
    rw [inHand] at wasShell
    cases wasShell
    exact .inr (.inl ⟨ws, _, registered, sameSession, rfl⟩)

/-- An attach that gives up lets go of nothing but a killed shell. -/
theorem Sound.giveUp (sound : Sound maxSessions server) (waits : server.attaching ws = some attach)
    (attempting : attach.stage.attempting = true)
    (killed : ∀ shell, attach.stage.shell? = some shell → shell ∈ server.killed) (closes : Bool) :
    Sound maxSessions (server.setStage ws (.discarding closes)) := by
  apply sound.setStage waits (.discarding closes) (slot_of_attempting attempting).symm
  · intro returned
    rw [returned] at attempting
    cases attempting
  · intro impossible
    cases impossible
  · intro shell isShell
    exact .inl (killed shell isShell)

/-- An attach sees its shell. -/
theorem Sound.shellReady (sound : Sound maxSessions server) (ws : Socket) :
    Sound maxSessions (server.shellReady ws) := by
  unfold TerminalServer.shellReady
  split
  · rename_i socket sessionId turn claim plan attachment waits
    split
    · apply (sound.releaseClaim sessionId claim).giveUp waits rfl
      intro shell impossible
      cases impossible
    · rename_i shell sandboxRef
      -- the shell in hand is the one that is killed
      have isShell : ∀ other, (AttachStage.answered claim plan (.ok (shell, sandboxRef))).shell? =
          some other → other ∈ server.killed ++ [shell] := by
        intro other inHand
        cases inHand
        exact List.mem_append_right _ List.mem_cons_self
      split
      · exact ((sound.kill shell).releaseClaim sessionId claim).giveUp waits rfl isShell true
      · split
        · exact ((sound.releaseClaim sessionId claim).kill shell).giveUp waits rfl isShell false
        · split
          · exact (sound.kill shell).giveUp waits rfl isShell true
          · exact sound.register waits rfl rfl claim plan
  · exact sound

/-- An attach whose context and credentials are there. -/
theorem Sound.resolved (config : TerminalConfig) (sound : Sound maxSessions server) (ws : Socket)
    (answer : Except String Plan) (starts : Bool) :
    Sound maxSessions (server.resolved config ws answer starts) := by
  unfold TerminalServer.resolved
  split
  · rename_i socket sessionId turn claim waits
    have noShell : ∀ shell, (AttachStage.preparing claim).shell? = some shell →
        shell ∈ server.killed := by
      intro shell impossible
      cases impossible
    have failed : ∀ closes, Sound maxSessions
        ((server.releaseClaim sessionId claim).setStage ws (.discarding closes)) :=
      (sound.releaseClaim sessionId claim).giveUp waits rfl noShell
    simp only
    split
    · exact failed true
    · rename_i plan
      split
      · exact failed true
      · split
        · exact failed false
        · split
          · exact sound.giveUp waits rfl noShell true
          · have connecting : Sound maxSessions (server.setStage ws (.connecting claim plan)) := by
              apply sound.setStage waits (.connecting claim plan) rfl
              · intro impossible
                cases impossible
              · intro _
                exact sound.free _ (Keyed.mem_of_lookup waits) rfl
              · intro shell impossible
                cases impossible
            split
            · exact connecting
            · exact (connecting.shellAnswered ws _).shellReady ws
  · exact sound

theorem Sound.discarded (sound : Sound maxSessions server) (ws : Socket) (succeeds : Bool) :
    Sound maxSessions (server.discarded ws succeeds) := by
  unfold TerminalServer.discarded
  split
  · rename_i socket sessionId turn closes waits
    have returned : ∀ {server : TerminalServer}, Sound maxSessions server →
        server.attaching ws = some ⟨socket, sessionId, turn, .discarding closes⟩ →
        Sound maxSessions (server.setStage ws (.returned false)) := by
      intro server sound waits
      apply sound.setStage waits (.returned false) rfl
      · intro impossible
        cases impossible
      · intro impossible
        cases impossible
      · intro shell impossible
        cases impossible
    split
    · exact returned (sound.close ws) waits
    · exact returned sound waits
  · exact sound

end Attach

end Steps

end JumptotechLabs.Terminal
