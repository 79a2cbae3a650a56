/-
Module: JumptotechLabs.Terminal.Claims
Layer: Terminal (services/terminal/src/server.ts)
Purpose: What attach claims are for: an attach that took its claim before its session was closed does not
  register a shell after it. With the invariant of the sessions this gives one shell for each session, and
  no shell that nobody would kill.
Main exports: Stale, Orderly, Quiet, orderly_step, orderly_after, one_shell_per_session
-/
import JumptotechLabs.Terminal.Ceiling

namespace JumptotechLabs.Terminal

open JumptotechLabs.Core

/-! ### The order of claims, closings and registrations -/

/-- The session was closed after the attach took its claim. -/
def Stale (log : List Entry) (sessionId : String) (claim : Claim) : Prop :=
  ∃ early late, log = early ++ Entry.closed sessionId :: late ∧ .began sessionId claim ∈ early

/-- Claims that were taken are old ones; a stale claim is not its session's; what was registered was not
    stale. -/
structure Orderly (server : TerminalServer) : Prop where
  fresh : ∀ sessionId claim, .began sessionId claim ∈ server.log → claim < server.nextClaim
  revoked : ∀ sessionId claim, Stale server.log sessionId claim →
    server.attachClaims sessionId ≠ some claim
  ordered : ∀ early late sessionId claim, server.log = early ++ Entry.registered sessionId claim :: late →
    ¬ Stale early sessionId claim

/-- Where an entry of a longer log is: at its end, or in the log of before. -/
theorem split_append {log early late : List Entry} {added entry : Entry}
    (split : log ++ [added] = early ++ entry :: late) :
    (early = log ∧ entry = added) ∨ ∃ rest, log = early ++ entry :: rest := by
  rcases List.eq_nil_or_concat late with rfl | ⟨rest, last, rfl⟩
  · obtain ⟨sameLog, sameEntry⟩ := List.append_inj' split rfl
    exact .inl ⟨sameLog.symm, (List.singleton_inj.mp sameEntry).symm⟩
  · rw [List.concat_eq_append, ← List.cons_append, ← List.append_assoc] at split
    exact .inr ⟨rest, (List.append_inj' split rfl).1⟩

/-- What an entry makes stale: the claims of the session that it closes. -/
theorem stale_append {log : List Entry} {added : Entry} {sessionId : String} {claim : Claim}
    (stale : Stale (log ++ [added]) sessionId claim) :
    Stale log sessionId claim ∨ added = .closed sessionId ∧ .began sessionId claim ∈ log := by
  obtain ⟨early, late, split, isBefore⟩ := stale
  rcases split_append split with ⟨rfl, isAdded⟩ | ⟨rest, isBeforeAdded⟩
  · exact .inr ⟨isAdded.symm, isBefore⟩
  · exact .inl ⟨early, rest, isBeforeAdded, isBefore⟩

theorem Stale.began {log : List Entry} {sessionId : String} {claim : Claim}
    (stale : Stale log sessionId claim) : .began sessionId claim ∈ log := by
  obtain ⟨early, late, rfl, isBefore⟩ := stale
  exact List.mem_append_left _ isBefore

section Steps

variable {server after : TerminalServer} {sessionId : String}

theorem orderly_initial : Orderly .initial := by
  constructor
  · intro sessionId claim member
    exact absurd member List.not_mem_nil
  · intro sessionId claim stale
    exact absurd stale.began List.not_mem_nil
  · intro early late sessionId claim split
    exact absurd (congrArg List.length split) (by simp [TerminalServer.initial])

/-- Nothing is logged, and claims are only deleted. -/
structure Quiet (server after : TerminalServer) : Prop where
  log : after.log = server.log
  nextClaim : after.nextClaim = server.nextClaim
  claims : ∀ sessionId claim, after.attachClaims sessionId = some claim →
    server.attachClaims sessionId = some claim

theorem Quiet.refl (server : TerminalServer) : Quiet server server := ⟨rfl, rfl, fun _ _ => id⟩

theorem Quiet.trans {last : TerminalServer} (first : Quiet server after) (second : Quiet after last) :
    Quiet server last where
  log := second.log.trans first.log
  nextClaim := second.nextClaim.trans first.nextClaim
  claims := fun sessionId claim isClaim => first.claims sessionId claim
    (second.claims sessionId claim isClaim)

theorem Orderly.quiet (orderly : Orderly server) (quiet : Quiet server after) : Orderly after := by
  constructor
  · rw [quiet.log, quiet.nextClaim]
    exact orderly.fresh
  · rw [quiet.log]
    intro sessionId claim stale isClaim
    exact orderly.revoked sessionId claim stale (quiet.claims sessionId claim isClaim)
  · rw [quiet.log]
    exact orderly.ordered

/-- A new entry that registers nothing leaves the order. -/
theorem Orderly.ordered_append (orderly : Orderly server) {added : Entry}
    (registered : ∀ sessionId claim, added = .registered sessionId claim →
      ¬ Stale server.log sessionId claim) :
    ∀ early late sessionId claim,
      server.log ++ [added] = early ++ Entry.registered sessionId claim :: late →
      ¬ Stale early sessionId claim := by
  intro early late sessionId claim split
  rcases split_append split with ⟨rfl, isAdded⟩ | ⟨rest, isBefore⟩
  · exact registered sessionId claim isAdded.symm
  · exact orderly.ordered early rest sessionId claim isBefore

theorem quiet_releaseClaim (server : TerminalServer) (sessionId : String) (claim : Claim) :
    Quiet server (server.releaseClaim sessionId claim) := by
  refine ⟨rfl, rfl, ?_⟩
  intro other found isClaim
  simp only [TerminalServer.releaseClaim] at isClaim
  split at isClaim
  · simp only [TerminalServer.deleteClaim] at isClaim
    split at isClaim
    · cases isClaim
    · exact isClaim
  · exact isClaim

theorem quiet_endSession (server : TerminalServer) (ws : Socket) :
    Quiet server (server.endSession ws) := by
  unfold TerminalServer.endSession
  split
  · exact .refl server
  · have released := quiet_releaseClaim
      { server with sessions := server.sessions.release Session.sid ws }
    exact ⟨rfl, rfl, (released _ _).claims⟩

theorem quiet_closeFor (server : TerminalServer) (ws : Socket) : Quiet server (server.closeFor ws) := by
  have ended := quiet_endSession server ws
  exact ⟨ended.log, ended.nextClaim, ended.claims⟩

theorem quiet_endSessions (server : TerminalServer) (sockets : List Socket) :
    Quiet server (sockets.foldl (fun server ws => server.endSession ws) server) := by
  induction sockets generalizing server with
  | nil => exact .refl server
  | cons ws rest ih => exact (quiet_endSession server ws).trans (ih _)

/-- A closed session has no claim, so none of those taken before. -/
theorem Orderly.closeSession (orderly : Orderly server) (sessionId : String) :
    Orderly (server.closeSession sessionId) := by
  have revoked : Orderly
      { server.deleteClaim sessionId with log := server.log ++ [Entry.closed sessionId] } := by
    constructor
    · intro other claim member
      rcases List.mem_append.mp member with wasLogged | isAdded
      · exact orderly.fresh other claim wasLogged
      · cases List.mem_singleton.mp isAdded
    · intro other claim stale isClaim
      simp only [TerminalServer.deleteClaim] at isClaim
      split at isClaim
      · cases isClaim
      · rename_i isOther
        rcases stale_append stale with wasStale | ⟨isClosed, _⟩
        · exact orderly.revoked other claim wasStale isClaim
        · cases isClosed
          exact isOther rfl
    · apply orderly.ordered_append
      intro other claim impossible
      cases impossible
  unfold TerminalServer.closeSession
  simp only
  split
  · exact revoked
  · exact revoked.quiet (quiet_closeFor _ _)

/-- A new claim is no old one. -/
theorem Orderly.takeClaim (orderly : Orderly server) (sessionId : String) :
    Orderly (server.takeClaim sessionId) := by
  constructor
  · intro other claim member
    rcases List.mem_append.mp member with wasLogged | isAdded
    · exact Nat.lt_succ_of_lt (orderly.fresh other claim wasLogged)
    · cases List.mem_singleton.mp isAdded
      exact Nat.lt_succ_self _
  · intro other claim stale isClaim
    rcases stale_append stale with wasStale | ⟨impossible, _⟩
    · simp only [TerminalServer.takeClaim] at isClaim
      split at isClaim
      · cases isClaim
        exact absurd (orderly.fresh other server.nextClaim wasStale.began) (Nat.lt_irrefl _)
      · exact orderly.revoked other claim wasStale isClaim
    · cases impossible
  · apply orderly.ordered_append
    intro other claim impossible
    cases impossible

/-- Only the session's claim registers. -/
theorem Orderly.register (orderly : Orderly server) {claim : Claim}
    (isClaim : server.attachClaims sessionId = some claim) (ws : Socket) (plan : Plan)
    (shell : ShellId) : Orderly (server.register ws sessionId claim plan shell) := by
  constructor
  · intro other found member
    rcases List.mem_append.mp member with wasLogged | isAdded
    · exact orderly.fresh other found wasLogged
    · cases List.mem_singleton.mp isAdded
  · intro other found stale
    rcases stale_append stale with wasStale | ⟨impossible, _⟩
    · exact orderly.revoked other found wasStale
    · cases impossible
  · apply orderly.ordered_append
    intro other found isAdded stale
    cases isAdded
    exact orderly.revoked sessionId claim stale isClaim

theorem Orderly.setStage (orderly : Orderly server) (ws : Socket) (stage : AttachStage) :
    Orderly (server.setStage ws stage) := orderly.quiet ⟨rfl, rfl, fun _ _ => id⟩

theorem Orderly.releaseClaim (orderly : Orderly server) (sessionId : String) (claim : Claim) :
    Orderly (server.releaseClaim sessionId claim) :=
  orderly.quiet (quiet_releaseClaim server sessionId claim)

theorem Orderly.kill (orderly : Orderly server) (shell : ShellId) : Orderly (server.kill shell) :=
  orderly.quiet ⟨rfl, rfl, fun _ _ => id⟩

/-! ### Steps -/

theorem Orderly.startSession (orderly : Orderly server) (ws : Socket) (sessionId : String) :
    Orderly (server.startSession ws sessionId) := by
  unfold TerminalServer.startSession
  split
  · exact orderly.setStage ws _
  · exact ((orderly.closeSession sessionId).takeClaim sessionId).setStage ws _

theorem Orderly.takeTurn (config : TerminalConfig) (orderly : Orderly server) (ws : Socket) :
    Orderly (server.takeTurn config ws) := by
  unfold TerminalServer.takeTurn
  split
  · rename_i socket sessionId turn replaced _
    split
    · have taken : Orderly (server.forgetWaiting ws sessionId) :=
        orderly.quiet ⟨rfl, rfl, fun _ _ => id⟩
      simp only
      split
      · exact taken.quiet ⟨rfl, rfl, fun _ _ => id⟩
      · unfold TerminalServer.withSessionSlot
        simp only
        split
        · exact taken.quiet ⟨rfl, rfl, fun _ _ => id⟩
        · apply Orderly.startSession
          exact taken.quiet ⟨rfl, rfl, fun _ _ => id⟩
    · exact orderly
  · exact orderly

theorem quiet_authenticate (server : TerminalServer) (ws : Socket) (sessionId : String) :
    Quiet server (server.authenticate ws sessionId) := by
  unfold TerminalServer.authenticate
  split
  · have replaced : Quiet server (server.replaceWaiting sessionId) := by
      unfold TerminalServer.replaceWaiting
      split
      · exact .refl server
      · split
        · exact ⟨rfl, rfl, fun _ _ => id⟩
        · exact ⟨rfl, rfl, fun _ _ => id⟩
    exact ⟨replaced.log, replaced.nextClaim, replaced.claims⟩
  · exact .refl server

theorem quiet_shellAnswered (server : TerminalServer) (ws : Socket) (answer : Except String String) :
    Quiet server (server.shellAnswered ws answer) := by
  unfold TerminalServer.shellAnswered
  split
  · split
    · exact ⟨rfl, rfl, fun _ _ => id⟩
    · exact ⟨rfl, rfl, fun _ _ => id⟩
  · exact .refl server

theorem Orderly.shellReady (orderly : Orderly server) (ws : Socket) : Orderly (server.shellReady ws) := by
  unfold TerminalServer.shellReady
  split
  · split
    · exact (orderly.releaseClaim _ _).setStage ws _
    · split
      · exact ((orderly.kill _).releaseClaim _ _).setStage ws _
      · split
        · exact ((orderly.releaseClaim _ _).kill _).setStage ws _
        · split
          · exact (orderly.kill _).setStage ws _
          · rename_i isClaim
            rw [Decidable.not_not] at isClaim
            exact (orderly.register isClaim ws _ _).setStage ws _
  · exact orderly

theorem Orderly.resolved (config : TerminalConfig) (orderly : Orderly server) (ws : Socket)
    (answer : Except String Plan) (starts : Bool) :
    Orderly (server.resolved config ws answer starts) := by
  unfold TerminalServer.resolved
  split
  · simp only
    split
    · exact (orderly.releaseClaim _ _).setStage ws _
    · split
      · exact (orderly.releaseClaim _ _).setStage ws _
      · split
        · exact (orderly.releaseClaim _ _).setStage ws _
        · split
          · exact orderly.setStage ws _
          · split
            · exact orderly.setStage ws _
            · apply Orderly.shellReady
              exact (orderly.setStage ws _).quiet (quiet_shellAnswered _ ws _)
  · exact orderly

theorem quiet_discarded (server : TerminalServer) (ws : Socket) (succeeds : Bool) :
    Quiet server (server.discarded ws succeeds) := by
  unfold TerminalServer.discarded
  split
  · split
    · exact ⟨rfl, rfl, fun _ _ => id⟩
    · exact ⟨rfl, rfl, fun _ _ => id⟩
  · exact .refl server

theorem quiet_settled (server : TerminalServer) (ws : Socket) : Quiet server (server.settled ws) := by
  unfold TerminalServer.settled
  split
  · exact ⟨rfl, rfl, fun _ _ => id⟩
  · exact .refl server

theorem quiet_reattachSession (server : TerminalServer) (turn : Nat) :
    Quiet server (server.reattachSession turn) := by
  unfold TerminalServer.reattachSession
  split
  · split
    · split
      · exact ⟨rfl, rfl, fun _ _ => id⟩
      · split
        · exact ⟨rfl, rfl, fun _ _ => id⟩
        · split
          · exact ⟨rfl, rfl, fun _ _ => id⟩
          · exact ⟨rfl, rfl, fun _ _ => id⟩
    · exact .refl server
  · exact .refl server

theorem quiet_reattachAnswered (server : TerminalServer) (turn : Nat)
    (answer : Except String String) : Quiet server (server.reattachAnswered turn answer) := by
  unfold TerminalServer.reattachAnswered
  split
  · split
    · exact ⟨rfl, rfl, fun _ _ => id⟩
    · exact ⟨rfl, rfl, fun _ _ => id⟩
  · exact .refl server

theorem quiet_reattachReady (server : TerminalServer) (turn : Nat) :
    Quiet server (server.reattachReady turn) := by
  have failed : ∀ (server : TerminalServer) ws, Quiet server (server.reattachFailed turn ws) := by
    intro server ws
    have closed := quiet_closeFor server ws
    exact ⟨closed.log, closed.nextClaim, closed.claims⟩
  unfold TerminalServer.reattachReady
  split
  · split
    · exact failed server _
    · split
      · apply Quiet.trans _ (failed _ _)
        exact ⟨rfl, rfl, fun _ _ => id⟩
      · split
        · exact ⟨rfl, rfl, fun _ _ => id⟩
        · exact ⟨rfl, rfl, fun _ _ => id⟩
  · exact .refl server

theorem quiet_fetched (config : TerminalConfig) (server : TerminalServer) (turn : Nat)
    (answer : Except String Plan) (starts : Bool) :
    Quiet server (server.fetched config turn answer starts) := by
  unfold TerminalServer.fetched
  split
  · split
    · exact ⟨rfl, rfl, fun _ _ => id⟩
    · split
      · exact ⟨rfl, rfl, fun _ _ => id⟩
      · split
        · exact ⟨rfl, rfl, fun _ _ => id⟩
        · split
          · exact ⟨rfl, rfl, fun _ _ => id⟩
          · simp only
            split
            · exact ⟨rfl, rfl, fun _ _ => id⟩
            · apply Quiet.trans _ (quiet_reattachReady _ turn)
              apply Quiet.trans _ (quiet_reattachAnswered _ turn _)
              exact ⟨rfl, rfl, fun _ _ => id⟩
  · exact .refl server

/-- Every event keeps the order. -/
theorem orderly_step (config : TerminalConfig) (event : TerminalEvent) (orderly : Orderly server) :
    Orderly (terminalStep config server event) := by
  cases event with
  | connection ws =>
      simp only [terminalStep]
      split
      · exact orderly
      · exact orderly.quiet ⟨rfl, rfl, fun _ _ => id⟩
  | refused ws => exact orderly.quiet ⟨rfl, rfl, fun _ _ => id⟩
  | auth ws sessionId => exact orderly.quiet (quiet_authenticate server ws sessionId)
  | turn ws => exact orderly.takeTurn config ws
  | resolved ws answer starts => exact orderly.resolved config ws answer starts
  | brokerAnswered ws answer => exact orderly.quiet (quiet_shellAnswered server ws answer)
  | ready ws => exact orderly.shellReady ws
  | discarded ws succeeds => exact orderly.quiet (quiet_discarded server ws succeeds)
  | settled ws => exact orderly.quiet (quiet_settled server ws)
  | reattach sessionId => exact orderly.quiet ⟨rfl, rfl, fun _ _ => id⟩
  | reattachTurn turn => exact orderly.quiet (quiet_reattachSession server turn)
  | fetched turn answer starts => exact orderly.quiet (quiet_fetched config server turn answer starts)
  | brokerReanswered turn answer => exact orderly.quiet (quiet_reattachAnswered server turn answer)
  | reattachReady turn => exact orderly.quiet (quiet_reattachReady server turn)
  | terminate sessionId => exact orderly.closeSession sessionId
  | exited shell =>
      simp only [terminalStep]
      split
      · exact orderly
      · exact orderly.quiet (quiet_closeFor server _)
  | ends ws => exact orderly.quiet (quiet_closeFor server ws)
  | closing ws => exact orderly.quiet ⟨rfl, rfl, fun _ _ => id⟩
  | closed ws =>
      have ended := quiet_endSession
        { server with sockets := server.sockets.setReadyState ws .closed } ws
      exact orderly.quiet ⟨ended.log, ended.nextClaim, ended.claims⟩
  | error ws => exact orderly.quiet (quiet_endSession server ws)
  | shutdown => exact orderly.quiet (quiet_endSessions server _)

/-- The order holds after every order of events. -/
theorem orderly_after (config : TerminalConfig) (events : List TerminalEvent) :
    Orderly ((terminalServer config).after TerminalServer.initial events) :=
  Object.after_of_step (fun server : (terminalServer config).State => Orderly server)
    (fun _ event => orderly_step config event) orderly_initial events

/-- After every order of events: two sockets never carry one session, and a session's socket is the one
    registered for it; an attach that took its claim before its session was closed registered no shell
    after; and of a session with no attach and no reattach in flight every shell was killed, but the one
    of its registered socket. -/
theorem one_shell_per_session (config : TerminalConfig) (events : List TerminalEvent) :
    let server := (terminalServer config).after TerminalServer.initial events
    (∀ ws other session session', server.sessions.item ws = some session →
      server.sessions.item other = some session' → session.sid = session'.sid → ws = other) ∧
    (∀ ws session, server.sessions.item ws = some session →
      server.sessions.holder session.sid = some ws) ∧
    (∀ early late sessionId claim, server.log = early ++ Entry.closed sessionId :: late →
      .began sessionId claim ∈ early → .registered sessionId claim ∉ late) ∧
    ∀ sessionId,
      (∀ attach ∈ server.attaches, attach.sessionId = sessionId → attach.admitted = false) →
      (∀ reattach ∈ server.reattaches, reattach.sessionId = sessionId →
        reattach.stage.isQueued = true) →
      ∀ shell, server.started[shell]? = some sessionId → shell ∈ server.killed ∨
        ∃ ws session, server.sessions.holder sessionId = some ws ∧
          server.sessions.item ws = some session ∧ session.term = shell := by
  intro server
  have sound : Sound config.maxSessions server := sound_after config events
  have orderly : Orderly server := orderly_after config events
  refine ⟨?_, sound.mirrored.holds, ?_, ?_⟩
  · intro ws other session session' found found' sameSession
    exact sound.mirrored.unique found found' sameSession
  · intro early late sessionId claim split isBefore isAfter
    obtain ⟨between, rest, rfl⟩ := List.append_of_mem isAfter
    apply orderly.ordered (early ++ Entry.closed sessionId :: between) rest sessionId claim
    · rw [split, List.append_assoc]
      rfl
    · exact ⟨early, between, rfl, isBefore⟩
  · intro sessionId noAttach noReattach shell isStarted
    rcases sound.accounted shell sessionId isStarted with
      isKilled | ⟨ws, session, found, rfl, isTerm⟩ | ⟨attach, member, isSession, inHand⟩ |
      ⟨reattach, member, isSession, inHand⟩
    · exact .inl isKilled
    · exact .inr ⟨ws, session, sound.mirrored.holds ws session found, found, isTerm⟩
    · have queued := noAttach attach member isSession
      obtain ⟨ws, id, turn, stage⟩ := attach
      cases stage with
      | answered claim plan attachment => cases queued
      | _ => cases inHand
    · have queued := noReattach reattach member isSession
      obtain ⟨turn, id, stage⟩ := reattach
      cases stage with
      | answered ws session plan attachment => cases queued
      | _ => cases inHand

-- a second socket of the session replaces the first, whose shell is killed
example :
    let attach := fun (ws : Socket) => [TerminalEvent.connection ws, .auth ws "s", .turn ws,
      .resolved ws (.ok ⟨.containerExec, "ref"⟩) true, .brokerAnswered ws (.ok "ref"), .ready ws,
      .settled ws]
    let server := (terminalServer ⟨2, true, false⟩).after .initial (attach 0 ++ attach 1)
    server.sessions.item 0 = none ∧ server.sessions.holder "s" = some 1 ∧ server.killed = [0] := by
  decide

end Steps

end JumptotechLabs.Terminal
