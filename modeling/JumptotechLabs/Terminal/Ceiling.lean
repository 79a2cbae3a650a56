/-
Module: JumptotechLabs.Terminal.Ceiling
Layer: Terminal (services/terminal/src/server.ts)
Purpose: What the steps of a reattach keep, and with them every event: in every order of events the sessions
  are within the ceiling, and `startingShells` counts the attaches that hold a slot.
Main exports: Sound.setReattachStage, Sound.rewire, sound_step, sound_after, terminal_ceiling
-/
import JumptotechLabs.Terminal.Sessions

namespace JumptotechLabs.Terminal

open JumptotechLabs.Core

section Steps

variable {maxSessions : Nat} {server : TerminalServer}

/-! ### Reattaching -/

section Reattach

variable {turn : Nat} {reattach : Reattach}

theorem mem_setReattachStage (waits : server.reattaching turn = some reattach) {stage : ReattachStage}
    {other : Reattach} :
    other ∈ (server.setReattachStage turn stage).reattaches ↔
      other = { reattach with stage := stage } ∨ other ∈ server.reattaches ∧ other.turn ≠ turn :=
  Keyed.mem_modify server.reattachKeys waits

/-- A reattach moves on: it runs in its turn only, is bound to its own session, and goes on to start a
    shell once the old one is killed. -/
theorem Sound.setReattachStage (sound : Sound maxSessions server)
    (waits : server.reattaching turn = some reattach) (stage : ReattachStage)
    (runs : reattach.stage.isQueued = true → server.inTurn reattach.sessionId reattach.turn = true)
    (bound : ∀ ws session, stage.bound? = some (ws, session) → session.sid = reattach.sessionId)
    (detached : ∀ ws session, stage.bound? = some (ws, session) → stage.detaches = true →
      ∀ live, server.sessions.item ws = some live → live.sid = session.sid →
        live.attachClaim = session.attachClaim → live.term ∈ server.killed)
    (dropped : ∀ shell, reattach.stage.shell? = some shell →
      shell ∈ server.killed ∨ stage.shell? = some shell) :
    Sound maxSessions (server.setReattachStage turn stage) := by
  have isWaiting : reattach ∈ server.reattaches := Keyed.mem_of_lookup waits
  have isTurn : reattach.turn = turn := Keyed.key_of_lookup waits
  -- nothing else of the session runs
  have noOther : (∀ other ∈ server.attaches, other.admitted = true →
        other.sessionId ≠ reattach.sessionId) ∧
      ∀ other ∈ server.reattaches, other.turn ≠ turn → other.stage.isQueued = false →
        other.sessionId ≠ reattach.sessionId := by
    cases isQueued : reattach.stage.isQueued with
    | true =>
        obtain ⟨noAttach, noReattach⟩ := running_of_inTurn (runs isQueued)
        exact ⟨noAttach, fun other member _ running => noReattach other member running⟩
    | false =>
        constructor
        · intro other member isAdmitted
          exact sound.exclusive other member reattach isWaiting isAdmitted isQueued
        · intro other member isOther running sameSession
          have sameTurn := sound.reattachAlone other member reattach isWaiting running isQueued
            sameSession
          exact isOther (sameTurn.trans isTurn)
  obtain ⟨noAttach, noReattach⟩ := noOther
  constructor
  · exact sound.mirrored
  · exact sound.starting
  · exact sound.within
  · exact sound.alone
  · exact sound.free
  · exact sound.idle
  · exact sound.connected
  · exact sound.marked
  · intro first isFirst second isSecond firstRuns secondRuns sameSession
    rcases (mem_setReattachStage waits).mp isFirst with rfl | ⟨firstWaiting, firstOther⟩
    · rcases (mem_setReattachStage waits).mp isSecond with rfl | ⟨secondWaiting, secondOther⟩
      · rfl
      · exact absurd sameSession.symm (noReattach second secondWaiting secondOther secondRuns)
    · rcases (mem_setReattachStage waits).mp isSecond with rfl | ⟨secondWaiting, _⟩
      · exact absurd sameSession (noReattach first firstWaiting firstOther firstRuns)
      · exact sound.reattachAlone first firstWaiting second secondWaiting firstRuns secondRuns
          sameSession
  · intro attach inAttaches other member isAdmitted running
    rcases (mem_setReattachStage waits).mp member with rfl | ⟨wasWaiting, _⟩
    · exact noAttach attach inAttaches isAdmitted
    · exact sound.exclusive attach inAttaches other wasWaiting isAdmitted running
  · intro other member
    rcases (mem_setReattachStage waits).mp member with rfl | ⟨wasWaiting, _⟩
    · exact bound
    · exact sound.bound other wasWaiting
  · intro other member
    rcases (mem_setReattachStage waits).mp member with rfl | ⟨wasWaiting, _⟩
    · exact detached
    · exact sound.detached other wasWaiting
  · intro other member
    rcases (mem_setReattachStage waits).mp member with rfl | ⟨wasWaiting, _⟩
    · exact sound.turns reattach isWaiting
    · exact sound.turns other wasWaiting
  · intro shell sessionId isStarted
    rcases sound.accounted shell sessionId isStarted with
      isKilled | isTerm | inAttach | ⟨was, wasWaiting, sameSession, wasShell⟩
    · exact .inl isKilled
    · exact .inr (.inl isTerm)
    · exact .inr (.inr (.inl inAttach))
    · by_cases same : was.turn = turn
      · have isReattach : was = reattach := server.reattachKeys.eq_of_lookup waits wasWaiting same
        rw [isReattach] at wasShell sameSession
        rcases dropped shell wasShell with isKilled | stillShell
        · exact .inl isKilled
        · exact .inr (.inr (.inr ⟨_, (mem_setReattachStage waits).mpr (.inl rfl), sameSession,
            stillShell⟩))
      · exact .inr (.inr (.inr ⟨was, (mem_setReattachStage waits).mpr (.inr ⟨wasWaiting, same⟩),
          sameSession, wasShell⟩))

/-- A reattach leaves, and with it nothing but a shell that was killed or is its session's. -/
theorem Sound.finishReattach (sound : Sound maxSessions server)
    (waits : server.reattaching turn = some reattach)
    (dropped : ∀ shell, reattach.stage.shell? = some shell → shell ∈ server.killed) :
    Sound maxSessions (server.finishReattach turn) := by
  have wasWaiting : ∀ {other}, other ∈ Keyed.remove Reattach.turn turn server.reattaches →
      other ∈ server.reattaches := by
    intro other member
    exact (Keyed.mem_remove.mp member).1
  constructor
  · exact sound.mirrored
  · exact sound.starting
  · exact sound.within
  · exact sound.alone
  · exact sound.free
  · exact sound.idle
  · exact sound.connected
  · exact sound.marked
  · intro first isFirst second isSecond
    exact sound.reattachAlone first (wasWaiting isFirst) second (wasWaiting isSecond)
  · intro attach inAttaches other member
    exact sound.exclusive attach inAttaches other (wasWaiting member)
  · intro other member
    exact sound.bound other (wasWaiting member)
  · intro other member
    exact sound.detached other (wasWaiting member)
  · intro other member
    exact sound.turns other (wasWaiting member)
  · intro shell sessionId isStarted
    rcases sound.accounted shell sessionId isStarted with
      isKilled | isTerm | inAttach | ⟨was, isWaiting, sameSession, wasShell⟩
    · exact .inl isKilled
    · exact .inr (.inl isTerm)
    · exact .inr (.inr (.inl inAttach))
    · by_cases same : was.turn = turn
      · rw [server.reattachKeys.eq_of_lookup waits isWaiting same] at wasShell
        exact .inl (dropped shell wasShell)
      · exact .inr (.inr (.inr ⟨was, Keyed.mem_remove.mpr ⟨isWaiting, same⟩, sameSession, wasShell⟩))

/-- A reattach is asked for. -/
theorem Sound.requestReattach (sound : Sound maxSessions server) (sessionId : String) :
    Sound maxSessions (server.requestReattach sessionId) := by
  have isNew : Keyed.lookup Reattach.turn server.nextTurn server.reattaches = none := by
    apply Keyed.lookup_eq_none.mpr
    intro other member same
    exact absurd same (Nat.ne_of_lt (sound.turns other member))
  have appended : (server.requestReattach sessionId).reattaches =
      server.reattaches ++ [⟨server.nextTurn, sessionId, .queued⟩] := Keyed.put_of_absent isNew
  have member : ∀ {other}, other ∈ (server.requestReattach sessionId).reattaches →
      other ∈ server.reattaches ∨ other = ⟨server.nextTurn, sessionId, .queued⟩ := by
    intro other inPut
    exact (Keyed.mem_put inPut).symm
  constructor
  · exact sound.mirrored
  · exact sound.starting
  · exact sound.within
  · exact sound.alone
  · exact sound.free
  · exact sound.idle
  · exact sound.connected
  · exact sound.marked
  · intro first isFirst second isSecond firstRuns secondRuns
    rcases member isFirst with firstWaiting | rfl
    · rcases member isSecond with secondWaiting | rfl
      · exact sound.reattachAlone first firstWaiting second secondWaiting firstRuns secondRuns
      · cases secondRuns
    · cases firstRuns
  · intro attach inAttaches other inPut isAdmitted running
    rcases member inPut with wasWaiting | rfl
    · exact sound.exclusive attach inAttaches other wasWaiting isAdmitted running
    · cases running
  · intro other inPut ws session isBound
    rcases member inPut with wasWaiting | rfl
    · exact sound.bound other wasWaiting ws session isBound
    · cases isBound
  · intro other inPut ws session isBound
    rcases member inPut with wasWaiting | rfl
    · exact sound.detached other wasWaiting ws session isBound
    · cases isBound
  · intro other inPut
    rcases member inPut with wasWaiting | rfl
    · exact Nat.lt_succ_of_lt (sound.turns other wasWaiting)
    · exact Nat.lt_succ_self _
  · intro shell id isStarted
    rcases sound.accounted shell id isStarted with
      isKilled | isTerm | inAttach | ⟨was, isWaiting, inHand⟩
    · exact .inl isKilled
    · exact .inr (.inl isTerm)
    · exact .inr (.inr (.inl inAttach))
    · refine .inr (.inr (.inr ⟨was, ?_, inHand⟩))
      rw [appended]
      exact List.mem_append_left _ isWaiting

/-- A queued or fetching reattach has no shell in its hands. -/
theorem Sound.abandon (sound : Sound maxSessions server)
    (waits : server.reattaching turn = some reattach) (noShell : reattach.stage.shell? = none) :
    Sound maxSessions (server.finishReattach turn) := by
  apply sound.finishReattach waits
  intro shell isShell
  rw [noShell] at isShell
  cases isShell

/-- A reattach's turn. -/
theorem Sound.reattachSession (sound : Sound maxSessions server) (turn : Nat) :
    Sound maxSessions (server.reattachSession turn) := by
  unfold TerminalServer.reattachSession
  split
  · rename_i number sessionId waits
    have isTurn : number = turn := Keyed.key_of_lookup waits
    split
    · rename_i inTurn
      split
      · exact sound.abandon waits rfl
      · rename_i ws isHolder
        split
        · exact sound.abandon waits rfl
        · rename_i session found
          split
          · apply sound.setReattachStage waits (.fetching ws session)
            · intro _
              rw [← isTurn] at inTurn
              exact inTurn
            · intro other bound isBound
              cases isBound
              obtain ⟨item, isItem, isSession⟩ := sound.mirrored.held sessionId ws isHolder
              rw [found] at isItem
              cases isItem
              exact isSession
            · intro other bound isBound impossible
              cases impossible
            · intro shell impossible
              cases impossible
          · exact sound.abandon waits rfl
    · exact sound
  · exact sound

theorem stillLive_spec {ws : Socket} {session live : Session}
    (isLive : server.stillLive ws session = some live) :
    server.sessions.item ws = some live ∧ live.sid = session.sid ∧
      live.attachClaim = session.attachClaim := by
  rw [TerminalServer.stillLive, Option.filter_eq_some_iff] at isLive
  obtain ⟨found, same⟩ := isLive
  simp only [Bool.and_eq_true, decide_eq_true_eq] at same
  exact ⟨found, same.1.1, same.1.2⟩

theorem Sound.reattachAnswered (sound : Sound maxSessions server) (turn : Nat)
    (answer : Except String String) : Sound maxSessions (server.reattachAnswered turn answer) := by
  unfold TerminalServer.reattachAnswered
  split
  · rename_i number sessionId ws session plan waits
    have isWaiting := Keyed.mem_of_lookup waits
    have ofSession : session.sid = sessionId := sound.bound _ isWaiting ws session rfl
    have answered : ∀ attachment, Sound maxSessions
        (server.setReattachStage turn (.answered ws session plan attachment)) := by
      intro attachment
      apply sound.setReattachStage waits (.answered ws session plan attachment)
      · intro impossible
        cases impossible
      · intro other bound isBound
        cases isBound
        exact ofSession
      · intro other bound isBound _
        cases isBound
        exact sound.detached _ isWaiting ws session rfl rfl
      · intro shell impossible
        cases impossible
    split
    · exact answered _
    · rename_i sandboxRef
      apply (answered (.ok (server.started.length, sandboxRef))).start
      exact .inr (.inr (.inr ⟨_, (mem_setReattachStage waits).mpr (.inl rfl), ofSession.symm, rfl⟩))
  · exact sound

/-- The session's shell is the one in the reattach's hands, and the reattach leaves. -/
theorem Sound.rewire (sound : Sound maxSessions server)
    (waits : server.reattaching turn = some reattach) {ws : Socket} {session live : Session}
    (isBound : reattach.stage.bound? = some (ws, session))
    (detaches : reattach.stage.detaches = true) (isLive : server.stillLive ws session = some live)
    {shell : ShellId} (inHand : reattach.stage.shell? = some shell) (plan : Plan) :
    Sound maxSessions ((server.rewire ws plan shell).finishReattach turn) := by
  have isWaiting : reattach ∈ server.reattaches := Keyed.mem_of_lookup waits
  have isTurn : reattach.turn = turn := Keyed.key_of_lookup waits
  obtain ⟨found, sameSid, sameClaim⟩ := stillLive_spec isLive
  have ofSession := sound.bound reattach isWaiting ws session isBound
  have runs : reattach.stage.isQueued = false := by
    cases isStage : reattach.stage with
    | queued =>
        rw [isStage] at detaches
        cases detaches
    | _ => rfl
  have wasWaiting : ∀ {other}, other ∈ Keyed.remove Reattach.turn turn server.reattaches →
      other ∈ server.reattaches := by
    intro other member
    exact (Keyed.mem_remove.mp member).1
  -- the sessions of before, with another shell for this one
  have item : ∀ {other session}, (server.rewire ws plan shell).sessions.item other = some session →
      ∃ was, server.sessions.item other = some was ∧ session.sid = was.sid ∧
        session.attachClaim = was.attachClaim ∧ (other ≠ ws → session = was) := by
    intro other session isItem
    rw [TerminalServer.rewire, Registry.item_replace] at isItem
    obtain ⟨was, isWas, rfl⟩ := Option.map_eq_some_iff.mp isItem
    refine ⟨was, isWas, ?_⟩
    split
    · rename_i same
      exact ⟨rfl, rfl, fun isOther => absurd same isOther⟩
    · exact ⟨rfl, rfl, fun _ => rfl⟩
  constructor
  · have sameSession : ∀ session : Session, Session.sid
        ((fun session : Session => { session with term := shell, sandboxRef := plan.sandboxRef })
          session) = session.sid := fun _ => rfl
    exact mirrored_replace sound.mirrored _ sameSession ws
  · exact sound.starting
  · apply sound.within.mono
    intro key member
    rcases member with isHeld | isStarting
    · obtain ⟨other, session, isItem, rfl⟩ := Registry.mem_keys.mp isHeld
      obtain ⟨was, isWas, sameSession, _⟩ := item isItem
      exact .inl (Registry.mem_keys.mpr ⟨other, was, isWas, sameSession.symm⟩)
    · exact .inr isStarting
  · exact sound.alone
  · exact sound.free
  · intro attach member notRegistered
    have idle := sound.idle attach member notRegistered
    simp only [TerminalServer.finishReattach, TerminalServer.rewire]
    rw [Registry.item_replace, idle]
    rfl
  · exact sound.connected
  · intro other session isItem
    obtain ⟨was, isWas, _⟩ := item isItem
    exact sound.marked other was isWas
  · intro first isFirst second isSecond
    exact sound.reattachAlone first (wasWaiting isFirst) second (wasWaiting isSecond)
  · intro attach inAttaches other member
    exact sound.exclusive attach inAttaches other (wasWaiting member)
  · intro other member
    exact sound.bound other (wasWaiting member)
  · intro other member socket bound otherBound otherDetaches current isItem sameSid' sameClaim'
    obtain ⟨was, isWas, wasSid, wasClaim, unchanged⟩ := item isItem
    by_cases same : socket = ws
    · -- no other reattach of the session runs
      rw [same, found] at isWas
      cases isWas
      have otherRuns : other.stage.isQueued = false := by
        cases isStage : other.stage with
        | queued =>
            rw [isStage] at otherDetaches
            cases otherDetaches
        | _ => rfl
      have otherSession := sound.bound other (wasWaiting member) socket bound otherBound
      have sameSession : other.sessionId = reattach.sessionId := by
        rw [← otherSession, ← ofSession, ← sameSid', wasSid, sameSid]
      have sameTurn := sound.reattachAlone other (wasWaiting member) reattach isWaiting otherRuns runs
        sameSession
      exact absurd (sameTurn.trans isTurn) (Keyed.mem_remove.mp member).2
    · rw [unchanged same] at sameSid' sameClaim' ⊢
      exact sound.detached other (wasWaiting member) socket bound otherBound otherDetaches was isWas
        sameSid' sameClaim'
  · intro other member
    exact sound.turns other (wasWaiting member)
  · intro other sessionId isStarted
    rcases sound.accounted other sessionId isStarted with
      isKilled | ⟨socket, was, isWas, isSession, isTerm⟩ | inAttach |
      ⟨was, isReattach, sameSession, wasShell⟩
    · exact .inl isKilled
    · by_cases same : socket = ws
      · rw [same, found] at isWas
        cases isWas
        rw [← isTerm]
        exact .inl (sound.detached reattach isWaiting ws session isBound detaches live found sameSid
          sameClaim)
      · refine .inr (.inl ⟨socket, was, ?_, isSession, isTerm⟩)
        simp only [TerminalServer.finishReattach, TerminalServer.rewire]
        rw [Registry.item_replace, isWas, Option.map_some, if_neg same]
    · exact .inr (.inr (.inl inAttach))
    · by_cases same : was.turn = turn
      · rw [server.reattachKeys.eq_of_lookup waits isReattach same] at wasShell sameSession
        rw [inHand] at wasShell
        cases wasShell
        refine .inr (.inl ⟨ws, { live with term := shell, sandboxRef := plan.sandboxRef }, ?_, ?_, rfl⟩)
        · simp only [TerminalServer.finishReattach, TerminalServer.rewire]
          rw [Registry.item_replace, found, Option.map_some, if_pos rfl]
        · rw [← sameSession, ← ofSession]
          exact sameSid
      · exact .inr (.inr (.inr ⟨was, Keyed.mem_remove.mpr ⟨isReattach, same⟩, sameSession, wasShell⟩))

@[simp] theorem reattaches_endSession (server : TerminalServer) (ws : Socket) :
    (server.endSession ws).reattaches = server.reattaches := by
  unfold TerminalServer.endSession
  split
  · rfl
  · rfl

theorem killed_endSession {shell : ShellId} (isKilled : shell ∈ server.killed) (ws : Socket) :
    shell ∈ (server.endSession ws).killed := by
  unfold TerminalServer.endSession
  split
  · exact isKilled
  · exact List.mem_append_left _ isKilled

/-- No new shell came: the socket is closed, and the reattach leaves. -/
theorem Sound.reattachFailed (sound : Sound maxSessions server)
    (waits : server.reattaching turn = some reattach)
    (dropped : ∀ shell, reattach.stage.shell? = some shell → shell ∈ server.killed) (ws : Socket) :
    Sound maxSessions (server.reattachFailed turn ws) := by
  have stillWaits : (server.closeFor ws).reattaching turn = some reattach := by
    rw [TerminalServer.reattaching, TerminalServer.closeFor, TerminalServer.close,
      reattaches_endSession]
    exact waits
  apply (sound.closeFor ws).finishReattach stillWaits
  intro shell isShell
  exact killed_endSession (dropped shell isShell) ws

/-- A reattach sees its shell. -/
theorem Sound.reattachReady (sound : Sound maxSessions server) (turn : Nat) :
    Sound maxSessions (server.reattachReady turn) := by
  unfold TerminalServer.reattachReady
  split
  · rename_i number sessionId ws session plan attachment waits
    split
    · apply sound.reattachFailed waits
      intro shell impossible
      cases impossible
    · rename_i shell sandboxRef
      have isShell : ∀ other,
          (ReattachStage.answered ws session plan (.ok (shell, sandboxRef))).shell? = some other →
          other ∈ server.killed ++ [shell] := by
        intro other inHand
        cases inHand
        exact List.mem_append_right _ List.mem_cons_self
      split
      · exact (sound.kill shell).reattachFailed waits isShell ws
      · split
        · rename_i isSome
          obtain ⟨live, isLive⟩ := Option.isSome_iff_exists.mp isSome
          exact sound.rewire waits rfl rfl isLive rfl plan
        · exact (sound.kill shell).finishReattach waits isShell
  · exact sound

/-- The API answered a reattach. -/
theorem Sound.fetched (config : TerminalConfig) (sound : Sound maxSessions server) (turn : Nat)
    (answer : Except String Plan) (starts : Bool) :
    Sound maxSessions (server.fetched config turn answer starts) := by
  unfold TerminalServer.fetched
  split
  · rename_i number sessionId ws session waits
    split
    · exact sound.abandon waits rfl
    · rename_i plan
      split
      · exact sound.abandon waits rfl
      · split
        · exact sound.abandon waits rfl
        · split
          · exact sound.abandon waits rfl
          · rename_i live isLive
            obtain ⟨found, _, _⟩ := stillLive_spec isLive
            have detached : Sound maxSessions
                ({ server with
                  listeners := fun other =>
                    if other = live.term then none else server.listeners other }.kill live.term) :=
              sound.frame _ rfl rfl rfl rfl rfl (fun _ isKilled => List.mem_append_left _ isKilled)
                (.refl server.sockets) (Nat.le_refl _)
            have connecting := detached.setReattachStage waits (.connecting ws session plan)
              (by
                intro impossible
                cases impossible)
              (by
                intro other bound isBound
                cases isBound
                exact sound.bound _ (Keyed.mem_of_lookup waits) ws session rfl)
              (by
                intro other bound isBound _ current isItem _ _
                cases isBound
                have isCurrent : server.sessions.item ws = some current := isItem
                rw [found] at isCurrent
                cases isCurrent
                exact List.mem_append_right _ List.mem_cons_self)
              (by
                intro shell impossible
                cases impossible)
            simp only
            split
            · exact connecting
            · exact (connecting.reattachAnswered turn _).reattachReady turn
  · exact sound

end Reattach

/-! ### Runs -/

/-- Every event keeps the invariant. -/
theorem sound_step (config : TerminalConfig) (event : TerminalEvent)
    (sound : Sound config.maxSessions server) :
    Sound config.maxSessions (terminalStep config server event) := by
  cases event with
  | connection ws =>
      simp only [terminalStep]
      split
      · exact sound
      · exact sound.frame _ rfl rfl rfl rfl rfl (fun _ isKilled => isKilled)
          (Sockets.follows_connect server.sockets ws false) (Nat.le_refl _)
  | refused ws => exact sound.close ws
  | auth ws sessionId => exact sound.authenticate ws sessionId
  | turn ws => exact sound.takeTurn config ws
  | resolved ws answer starts => exact sound.resolved config ws answer starts
  | brokerAnswered ws answer => exact sound.shellAnswered ws answer
  | ready ws => exact sound.shellReady ws
  | discarded ws succeeds => exact sound.discarded ws succeeds
  | settled ws => exact sound.settled ws
  | reattach sessionId => exact sound.requestReattach sessionId
  | reattachTurn turn => exact sound.reattachSession turn
  | fetched turn answer starts => exact sound.fetched config turn answer starts
  | brokerReanswered turn answer => exact sound.reattachAnswered turn answer
  | reattachReady turn => exact sound.reattachReady turn
  | terminate sessionId => exact sound.closeSession sessionId
  | exited shell =>
      simp only [terminalStep]
      split
      · exact sound
      · exact sound.closeFor _
  | ends ws => exact sound.closeFor ws
  | closing ws => exact sound.close ws
  | closed ws =>
      have marked : Sound config.maxSessions
          { server with sockets := server.sockets.setReadyState ws .closed } :=
        sound.frame _ rfl rfl rfl rfl rfl (fun _ isKilled => isKilled)
          (Sockets.follows_setReadyState server.sockets ws .closed) (Nat.le_refl _)
      exact marked.endSession ws
  | error ws => exact sound.endSession ws
  | shutdown => exact sound.endSessions _

/-- The invariant holds after every order of events. -/
theorem sound_after (config : TerminalConfig) (events : List TerminalEvent) :
    Sound config.maxSessions ((terminalServer config).after TerminalServer.initial events) :=
  Object.after_of_step
    (fun server : (terminalServer config).State => Sound config.maxSessions server)
    (fun _ event => sound_step config event) (sound_initial config.maxSessions) events

/-- After every order of events the sessions are within the ceiling, and `startingShells` is the number of
    the attaches that were admitted and have not finished: none when there is none. -/
theorem terminal_ceiling (config : TerminalConfig) (events : List TerminalEvent) :
    let server := (terminalServer config).after TerminalServer.initial events
    server.sessions.size ≤ config.maxSessions ∧
    server.startingShells = (server.attaches.filter Attach.admitted).length ∧
    ((∀ attach ∈ server.attaches, attach.admitted = false) → server.startingShells = 0) := by
  intro server
  have sound : Sound config.maxSessions server := sound_after config events
  have ceiling : server.sessions.size ≤ config.maxSessions := by
    have atMost := sound.within.length_le sound.mirrored.nodup_keys
    rw [Registry.keys, List.length_map] at atMost
    exact atMost
  have counted : server.startingShells = (server.attaches.filter Attach.admitted).length := by
    rw [sound.starting, List.countP_eq_length_filter]
  refine ⟨ceiling, counted, ?_⟩
  intro noneInFlight
  rw [counted, List.length_eq_zero_iff, List.filter_eq_nil_iff]
  intro attach member isAdmitted
  rw [noneInFlight attach member] at isAdmitted
  cases isAdmitted

end Steps

end JumptotechLabs.Terminal
