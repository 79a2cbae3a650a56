/-
Module: JumptotechLabs.Core.Pool
Layer: Core (library)
Purpose: Pools of threads over one shared world. A `Machine` says what each operation runs, how the
  world answers a command and how it changes on its own; a `Config` is the world, the threads and the
  trace of every finished interaction. Runs are sequences of moves, so every interleaving is a run.
  If every operation keeps its discipline when it runs alone, every command any thread is about to
  issue, in any reachable configuration, is allowed by that thread's own history (`issued_of_reaches`):
  no interference has to be considered to know what a thread does, only to know what it means.
Main exports: Machine, Config, Move, Config.next, Reaches, own, Config.keeps_of_reaches,
  Config.issued_of_reaches, Config.disciplined_of_reaches, Reaches.keeps_state, Reaches.moment,
  Config.play, Config.after, reaches_after
-/
import JumptotechLabs.Core.Program

namespace JumptotechLabs.Core

/-- Operations over a shared world. A `Reply` resolves what the world leaves open when it answers a
    command, an `Env` what it does on its own. -/
structure Machine (S : Signature) (ε : Type) where
  World : Type
  Op : Type
  Reply : Type
  Env : Type
  body : Op → Prog S ε Unit
  respond : Nat → (command : S.Cmd) → World → Reply → Option (Except ε (S.Ans command) × World)
  evolve : Env → World → World
  /-- The operations a command starts, each in a thread of its own. -/
  forks : S.Cmd → List Op
  /-- The operations anybody may start at any time. -/
  entry : Op → Bool

variable {S : Signature} {ε : Type}

/-- The interactions of one thread, newest first. -/
def own (thread : Nat) (trace : List (Nat × Interaction S ε)) : List (Interaction S ε) :=
  trace.filterMap fun event => if event.1 = thread then some event.2 else none

@[simp] theorem own_nil (thread : Nat) : own thread ([] : List (Nat × Interaction S ε)) = [] := rfl

@[simp] theorem own_cons_self (thread : Nat) (interaction : Interaction S ε)
    (trace : List (Nat × Interaction S ε)) :
    own thread ((thread, interaction) :: trace) = interaction :: own thread trace := by
  simp [own]

theorem own_cons_of_ne {thread other : Nat} (distinct : other ≠ thread)
    (interaction : Interaction S ε) (trace : List (Nat × Interaction S ε)) :
    own thread ((other, interaction) :: trace) = own thread trace := by
  simp [own, distinct]

theorem mem_own {thread : Nat} {interaction : Interaction S ε}
    {trace : List (Nat × Interaction S ε)} :
    interaction ∈ own thread trace ↔ (thread, interaction) ∈ trace := by
  simp [own]

theorem own_suffix (thread : Nat) {earlier trace : List (Nat × Interaction S ε)}
    (still : earlier <:+ trace) : own thread earlier <:+ own thread trace :=
  still.filterMap _

/-- Counting in one thread's history is counting that thread's entries of the trace. -/
theorem countP_own (counts : Interaction S ε → Bool) (thread : Nat)
    (trace : List (Nat × Interaction S ε)) :
    (own thread trace).countP counts =
      trace.countP fun event => decide (event.1 = thread) && counts event.2 := by
  rw [own, List.countP_filterMap]
  congr 1
  funext event
  by_cases same : event.1 = thread <;> simp [same]

/-- An interaction of one thread stands in the trace after the rest of that thread's history. -/
theorem own_split {thread : Nat} {trace : List (Nat × Interaction S ε)}
    {later earlier : List (Interaction S ε)} {interaction : Interaction S ε}
    (split : own thread trace = later ++ interaction :: earlier) :
    ∃ laterTrace earlierTrace,
      trace = laterTrace ++ (thread, interaction) :: earlierTrace ∧
        own thread earlierTrace = earlier := by
  induction trace generalizing later with
  | nil => simp at split
  | cons event trace ih =>
      obtain ⟨other, latest⟩ := event
      by_cases same : other = thread
      · subst same
        rw [own_cons_self] at split
        cases later with
        | nil =>
            obtain ⟨rfl, rfl⟩ := List.cons.inj split
            exact ⟨[], trace, rfl, rfl⟩
        | cons head later =>
            obtain ⟨laterTrace, earlierTrace, rfl, found⟩ := ih (List.cons.inj split).2
            exact ⟨(other, latest) :: laterTrace, earlierTrace, rfl, found⟩
      · rw [own_cons_of_ne same] at split
        obtain ⟨laterTrace, earlierTrace, rfl, found⟩ := ih split
        exact ⟨(other, latest) :: laterTrace, earlierTrace, rfl, found⟩

variable (M : Machine S ε)

/-- One thread: the operation it was started for, and what is left of it. -/
structure Thread where
  op : M.Op
  rest : Prog S ε Unit

/-- A configuration. The trace (newest first) is history only: no program reads it. -/
structure Config where
  world : M.World
  threads : List (Thread M)
  trace : List (Nat × Interaction S ε)

/-- One step of the pool: start an operation, let a thread's pending command be answered, or let the
    world change on its own. -/
inductive Move where
  | spawn (op : M.Op)
  | resume (thread : Nat) (reply : M.Reply)
  | evolve (env : M.Env)

variable {M}

namespace Config

/-- The command a thread waits on. -/
def pending (config : Config M) (thread : Nat) : Option S.Cmd :=
  match config.threads[thread]? with
  | some ⟨_, .call command _⟩ => some command
  | _ => none

theorem waiting_of_pending {config : Config M} {thread : Nat} {command : S.Cmd}
    (pending : config.pending thread = some command) :
    ∃ op rest, config.threads[thread]? = some ⟨op, .call command rest⟩ := by
  unfold Config.pending at pending
  split at pending
  · rename_i op found rest waiting
    cases pending
    exact ⟨op, rest, waiting⟩
  · cases pending

/-- The operation a thread runs. -/
def opOf (config : Config M) (thread : Nat) : Option M.Op :=
  (config.threads[thread]?).map Thread.op

/-- A thread about to run an operation from its beginning. -/
def fresh (op : M.Op) : Thread M := ⟨op, M.body op⟩

/-- The configuration after one move, if the move is possible. -/
def next (config : Config M) : Move M → Option (Config M)
  | .spawn op =>
      if M.entry op then some { config with threads := config.threads ++ [fresh op] } else none
  | .evolve env => some { config with world := M.evolve env config.world }
  | .resume thread reply =>
      match config.threads[thread]? with
      | some ⟨op, .call command rest⟩ =>
          match M.respond thread command config.world reply with
          | some (answer, world) =>
              some
                { world := world
                  threads :=
                    config.threads.set thread ⟨op, rest answer⟩ ++ (M.forks command).map fresh
                  trace := (thread, ⟨command, answer⟩) :: config.trace }
          | none => none
      | _ => none

/-- What a possible `resume` did. -/
theorem next_resume {config after : Config M} {thread : Nat} {reply : M.Reply}
    (stepped : config.next (.resume thread reply) = some after) :
    ∃ op command rest answer world,
      config.threads[thread]? = some ⟨op, .call command rest⟩ ∧
        M.respond thread command config.world reply = some (answer, world) ∧
        after =
          { world := world
            threads := config.threads.set thread ⟨op, rest answer⟩ ++ (M.forks command).map fresh
            trace := (thread, ⟨command, answer⟩) :: config.trace } := by
  simp only [next] at stepped
  split at stepped
  · rename_i op command rest found
    split at stepped
    · rename_i answer world responded
      exact ⟨op, command, rest, answer, world, found, responded, (Option.some.inj stepped).symm⟩
    · cases stepped
  · cases stepped

end Config

/-- The configurations reached from `start` by moves that all meet `allowed`. -/
inductive Reaches (allowed : Config M → Move M → Prop) (start : Config M) : Config M → Prop where
  | refl : Reaches allowed start start
  | step {config after : Config M} (move : Move M) (before : Reaches allowed start config)
      (meets : allowed config move) (stepped : config.next move = some after) :
      Reaches allowed start after

/-- `thread`, running `op`, gets the answer of `interaction` between two configurations. -/
structure Answered (before after : Config M) (thread : Nat) (op : M.Op) (reply : M.Reply)
    (interaction : Interaction S ε) : Prop where
  resumed : ∃ rest,
    before.threads[thread]? = some ⟨op, .call interaction.command rest⟩ ∧
      after.threads =
        before.threads.set thread ⟨op, rest interaction.answer⟩ ++
          (M.forks interaction.command).map Config.fresh
  responded :
    M.respond thread interaction.command before.world reply =
      some (interaction.answer, after.world)
  recorded : after.trace = (thread, interaction) :: before.trace

/-- A possible `resume` answers the one command its thread waited on. -/
theorem Config.answered_of_next {config after : Config M} {thread : Nat} {reply : M.Reply}
    (stepped : config.next (.resume thread reply) = some after) :
    ∃ op interaction, Answered config after thread op reply interaction := by
  obtain ⟨op, command, rest, answer, world, found, responded, rfl⟩ := Config.next_resume stepped
  exact ⟨op, ⟨command, answer⟩, ⟨rest, found, rfl⟩, responded, rfl⟩

/-- The answered thread runs the operation it was started for. -/
theorem Answered.opOf {before after : Config M} {thread : Nat} {op : M.Op} {reply : M.Reply}
    {interaction : Interaction S ε}
    (happened : Answered before after thread op reply interaction) :
    before.opOf thread = some op := by
  obtain ⟨rest, waiting, _⟩ := happened.resumed
  simp [Config.opOf, waiting]

/-- The answered thread waited on the command it is answered. -/
theorem Answered.pending {before after : Config M} {thread : Nat} {op : M.Op} {reply : M.Reply}
    {interaction : Interaction S ε}
    (happened : Answered before after thread op reply interaction) :
    before.pending thread = some interaction.command := by
  obtain ⟨rest, waiting, _⟩ := happened.resumed
  simp [Config.pending, waiting]

/-- An answer is a possible move. -/
theorem Config.next_of_answered {before after : Config M} {thread : Nat} {op : M.Op}
    {reply : M.Reply} {interaction : Interaction S ε}
    (happened : Answered before after thread op reply interaction) :
    before.next (.resume thread reply) = some after := by
  obtain ⟨rest, waiting, threads⟩ := happened.resumed
  have responded := happened.responded
  simp only [Config.next, waiting, responded, ← threads, ← happened.recorded]

theorem Answered.trace_grows {before after : Config M} {thread : Nat} {op : M.Op}
    {reply : M.Reply} {interaction : Interaction S ε}
    (happened : Answered before after thread op reply interaction) :
    before.trace <:+ after.trace := by
  rw [happened.recorded]
  exact List.suffix_cons _ _

/-- Every move is allowed: the runs of the machine as it is. -/
def anyMove (_ : Config M) (_ : Move M) : Prop := True

instance : DecidableRel (anyMove (M := M)) := fun _ _ => isTrue trivial

/-- A run that meets a condition is a run. -/
theorem Reaches.weaken {allowed larger : Config M → Move M → Prop} {start config : Config M}
    (run : Reaches allowed start config)
    (weaker : ∀ config move, allowed config move → larger config move) :
    Reaches larger start config := by
  induction run with
  | refl => exact .refl
  | step move _ meets stepped ih => exact .step move ih (weaker _ _ meets) stepped

/-- Runs compose. -/
theorem Reaches.trans {allowed : Config M → Move M → Prop} {first second third : Config M}
    (left : Reaches allowed first second) (right : Reaches allowed second third) :
    Reaches allowed first third := by
  induction right with
  | refl => exact left
  | step move _ meets stepped ih => exact .step move ih meets stepped

/-- What holds of world and trace, is not lost as the world changes on its own, and is kept by every
    answer, holds along the rest of a run. -/
theorem Reaches.keeps_state {allowed : Config M → Move M → Prop} {start first last : Config M}
    (holds : M.World → List (Nat × Interaction S ε) → Prop)
    (evolves : ∀ env world trace, holds world trace → holds (M.evolve env world) trace)
    (answered : ∀ before after thread op reply interaction,
      Reaches allowed start before → allowed before (.resume thread reply) →
        Answered before after thread op reply interaction →
          holds before.world before.trace → holds after.world after.trace)
    (reached : Reaches allowed start first) (run : Reaches allowed first last)
    (base : holds first.world first.trace) : holds last.world last.trace := by
  induction run with
  | refl => exact base
  | @step config after move before meets stepped ih =>
      cases move with
      | spawn op =>
          simp only [Config.next] at stepped
          split at stepped
          · cases stepped
            exact ih
          · cases stepped
      | evolve env =>
          cases stepped
          exact evolves env _ _ ih
      | resume thread reply =>
          obtain ⟨op, interaction, happened⟩ := Config.answered_of_next stepped
          exact answered _ _ _ _ _ _ (reached.trans before) meets happened ih

/-- The trace only grows. -/
theorem Reaches.trace_extends {allowed : Config M → Move M → Prop} {first last : Config M}
    (run : Reaches allowed first last) : first.trace <:+ last.trace := by
  refine Reaches.keeps_state (fun _ trace => first.trace <:+ trace) ?_ ?_
    (.refl : Reaches allowed first first) run (List.suffix_refl _)
  · exact fun _ _ _ kept => kept
  · intro before after thread op reply interaction _ _ happened still
    rw [happened.recorded]
    exact still.trans (List.suffix_cons _ _)

/-- A thread runs the same operation for as long as the run goes on. -/
theorem Reaches.opOf_kept {allowed : Config M → Move M → Prop} {first last : Config M}
    (run : Reaches allowed first last) {thread : Nat} {op : M.Op}
    (runs : first.opOf thread = some op) : last.opOf thread = some op := by
  induction run with
  | refl => exact runs
  | @step config after move before meets stepped ih =>
      obtain ⟨entry, found, rfl⟩ := Option.map_eq_some_iff.mp ih
      have bound : thread < config.threads.length := (List.getElem?_eq_some_iff.mp found).1
      cases move with
      | spawn op' =>
          simp only [Config.next] at stepped
          split at stepped
          · cases stepped
            simp [Config.opOf, List.getElem?_append_left bound, found]
          · cases stepped
      | evolve env =>
          cases stepped
          exact ih
      | resume other reply =>
          obtain ⟨op', command, rest, answer, world, found', _, rfl⟩ := Config.next_resume stepped
          by_cases same : other = thread
          · subst same
            rw [found] at found'
            cases found'
            simp [Config.opOf, List.getElem?_append_left, bound]
          · rw [Config.opOf, List.getElem?_append_left (by simpa using bound),
              List.getElem?_set_ne same, found]
            rfl

/-- What holds of every operation that may be started, or that a command forks, holds of every
    operation a thread runs. -/
theorem Reaches.all_ops {allowed : Config M → Move M → Prop} {world : M.World} {config : Config M}
    (holds : M.Op → Prop) (spawned : ∀ config op, allowed config (.spawn op) → holds op)
    (forked : ∀ command, ∀ op ∈ M.forks command, holds op)
    (run : Reaches allowed ⟨world, [], []⟩ config) {thread : Nat} {op : M.Op}
    (runs : config.opOf thread = some op) : holds op := by
  have everywhere : ∀ entry ∈ config.threads, holds entry.op := by
    clear runs
    induction run with
    | refl =>
        intro entry member
        cases member
    | @step config after move before meets stepped ih =>
        cases move with
        | spawn op =>
            simp only [Config.next] at stepped
            split at stepped
            · cases stepped
              intro entry member
              rcases List.mem_append.mp member with old | new
              · exact ih entry old
              · cases List.mem_singleton.mp new
                exact spawned config op meets
            · cases stepped
        | evolve env =>
            cases stepped
            exact ih
        | resume thread reply =>
            obtain ⟨op, command, rest, answer, world, found, _, rfl⟩ := Config.next_resume stepped
            intro entry member
            rcases List.mem_append.mp member with old | new
            · rcases List.mem_or_eq_of_mem_set old with old | rfl
              · exact ih entry old
              · have known := ih _ (List.mem_of_getElem? found)
                exact known
            · obtain ⟨op', isFork, rfl⟩ := List.mem_map.mp new
              exact forked command op' isFork
  obtain ⟨entry, found, rfl⟩ := Option.map_eq_some_iff.mp runs
  exact everywhere entry (List.mem_of_getElem? found)

/-- Every interaction of the trace happened at some step of the run. -/
theorem Reaches.moment {allowed : Config M → Move M → Prop} {world : M.World} {config : Config M}
    (run : Reaches allowed ⟨world, [], []⟩ config)
    {later earlier : List (Nat × Interaction S ε)} {thread : Nat}
    {interaction : Interaction S ε}
    (split : config.trace = later ++ (thread, interaction) :: earlier) :
    ∃ before after op reply,
      Reaches allowed ⟨world, [], []⟩ before ∧ allowed before (.resume thread reply) ∧
        Answered before after thread op reply interaction ∧ before.trace = earlier ∧
        Reaches allowed before after ∧ Reaches allowed after config := by
  induction run generalizing later with
  | refl => simp at split
  | @step config after move before meets stepped ih =>
      have extend : ∀ {later'}, config.trace = later' ++ (thread, interaction) :: earlier →
          ∃ before after' op reply,
            Reaches allowed ⟨world, [], []⟩ before ∧ allowed before (.resume thread reply) ∧
              Answered before after' thread op reply interaction ∧ before.trace = earlier ∧
              Reaches allowed before after' ∧ Reaches allowed after' after := by
        intro later' split'
        obtain ⟨first, second, op, reply, reached, met, happened, trace, step, rest⟩ := ih split'
        exact ⟨first, second, op, reply, reached, met, happened, trace, step,
          .step move rest meets stepped⟩
      cases move with
      | spawn op =>
          have same : after.trace = config.trace := by
            simp only [Config.next] at stepped
            split at stepped
            · cases stepped
              rfl
            · cases stepped
          exact extend (same ▸ split)
      | evolve env =>
          have same : after.trace = config.trace := by
            cases stepped
            rfl
          exact extend (same ▸ split)
      | resume other reply =>
          obtain ⟨op, latest, happened⟩ := Config.answered_of_next stepped
          rw [happened.recorded] at split
          cases later with
          | nil =>
              obtain ⟨first, rest⟩ := List.cons.inj split
              cases first
              exact ⟨config, after, op, reply, before, meets, happened, rest,
                .step _ .refl meets stepped, .refl⟩
          | cons head later' => exact extend (List.cons.inj split).2

namespace Config

/-- Every thread goes on keeping its operation's discipline after what it has done so far. -/
def Kept (D : M.Op → Discipline S ε) (config : Config M) : Prop :=
  ∀ (thread : Nat) (op : M.Op) (rest : Prog S ε Unit),
    config.threads[thread]? = some ⟨op, rest⟩ →
      rest.Keeps (D op) (own thread config.trace) fun _ _ => True

/-- Threads that do not exist have done nothing, so a new thread starts with an empty history. -/
def Numbered (config : Config M) : Prop :=
  ∀ thread, config.threads.length ≤ thread → own thread config.trace = []

theorem numbered_step {config after : Config M} {move : Move M} (numbered : config.Numbered)
    (stepped : config.next move = some after) : after.Numbered := by
  cases move with
  | spawn op =>
      simp only [next] at stepped
      split at stepped
      · cases stepped
        intro thread beyond
        exact numbered thread (by simp at beyond; omega)
      · cases stepped
  | evolve env =>
      cases stepped
      exact numbered
  | resume thread reply =>
      obtain ⟨op, command, rest, answer, world, found, _, rfl⟩ := next_resume stepped
      have bound : thread < config.threads.length := (List.getElem?_eq_some_iff.mp found).1
      intro other beyond
      simp only [List.length_append, List.length_set, List.length_map] at beyond
      rw [own_cons_of_ne (by omega)]
      exact numbered other (by omega)

/-- The step lemma of the sequential reading: a thread that is answered goes on keeping its
    discipline, and the other threads' histories do not change. -/
theorem kept_step {D : M.Op → Discipline S ε}
    (bodies : ∀ op, (M.body op).Keeps (D op) [] fun _ _ => True)
    (credible : ∀ op thread command world reply answer world',
      M.respond thread command world reply = some (answer, world') → (D op).answered command answer)
    {config after : Config M} {move : Move M} (numbered : config.Numbered) (kept : config.Kept D)
    (stepped : config.next move = some after) : after.Kept D := by
  cases move with
  | spawn op =>
      simp only [next] at stepped
      split at stepped
      · cases stepped
        intro thread op' rest found
        rcases Nat.lt_or_ge thread config.threads.length with within | beyond
        · exact kept thread op' rest (by rwa [List.getElem?_append_left within] at found)
        · rw [List.getElem?_append_right beyond] at found
          have isNew := List.mem_singleton.mp (List.mem_of_getElem? found)
          cases isNew
          rw [numbered thread beyond]
          exact bodies op
      · cases stepped
  | evolve env =>
      cases stepped
      exact kept
  | resume thread reply =>
      obtain ⟨op, command, rest, answer, world, found, responded, rfl⟩ := next_resume stepped
      have bound : thread < config.threads.length := (List.getElem?_eq_some_iff.mp found).1
      intro other op' rest' found'
      rcases Nat.lt_or_ge other config.threads.length with within | beyond
      · rw [List.getElem?_append_left (by simpa using within)] at found'
        by_cases same : other = thread
        · subst same
          rw [List.getElem?_set_self bound] at found'
          cases found'
          rw [own_cons_self]
          exact (kept other op _ found).2 answer (credible op _ _ _ _ _ _ responded)
        · rw [List.getElem?_set_ne (Ne.symm same)] at found'
          rw [own_cons_of_ne (Ne.symm same)]
          exact kept other op' rest' found'
      · rw [List.getElem?_append_right (by simpa using beyond)] at found'
        obtain ⟨_, _, isFresh⟩ := List.mem_map.mp (List.mem_of_getElem? found')
        cases isFresh
        rw [own_cons_of_ne (by omega), numbered other beyond]
        exact bodies _

/-- A configuration with no threads and an empty trace. -/
def initial (world : M.World) : Config M := ⟨world, [], []⟩

theorem numbered_of_reaches {allowed : Config M → Move M → Prop} {world : M.World}
    {config : Config M} (run : Reaches allowed (initial world) config) : config.Numbered := by
  induction run with
  | refl => exact fun _ _ => rfl
  | step move _ _ stepped ih => exact numbered_step ih stepped

/-- Along every run every thread keeps its discipline. -/
theorem keeps_of_reaches {D : M.Op → Discipline S ε}
    (bodies : ∀ op, (M.body op).Keeps (D op) [] fun _ _ => True)
    (credible : ∀ op thread command world reply answer world',
      M.respond thread command world reply = some (answer, world') → (D op).answered command answer)
    {allowed : Config M → Move M → Prop} {world : M.World} {config : Config M}
    (run : Reaches allowed (initial world) config) : config.Kept D := by
  induction run with
  | refl =>
      intro thread op rest found
      simp [initial] at found
  | step move before _ stepped ih =>
      exact kept_step bodies credible (numbered_of_reaches before) ih stepped

/-- A command a thread waits on in a reachable configuration is allowed by its own history. -/
theorem issued_of_reaches {D : M.Op → Discipline S ε}
    (bodies : ∀ op, (M.body op).Keeps (D op) [] fun _ _ => True)
    (credible : ∀ op thread command world reply answer world',
      M.respond thread command world reply = some (answer, world') → (D op).answered command answer)
    {allowed : Config M → Move M → Prop} {world : M.World} {config : Config M}
    (run : Reaches allowed (initial world) config)
    {thread : Nat} {op : M.Op} {command : S.Cmd} {rest : Except ε (S.Ans command) → Prog S ε Unit}
    (found : config.threads[thread]? = some ⟨op, .call command rest⟩) :
    (D op).issued (own thread config.trace) command :=
  (keeps_of_reaches bodies credible run thread op _ found).1

/-- Every finished interaction of a thread was allowed by what the thread had done before it. -/
theorem disciplined_of_reaches {D : M.Op → Discipline S ε}
    (bodies : ∀ op, (M.body op).Keeps (D op) [] fun _ _ => True)
    (credible : ∀ op thread command world reply answer world',
      M.respond thread command world reply = some (answer, world') → (D op).answered command answer)
    {allowed : Config M → Move M → Prop} {world : M.World} {config : Config M}
    (run : Reaches allowed (initial world) config) {thread : Nat} {op : M.Op}
    (runs : config.opOf thread = some op) {later earlier : List (Interaction S ε)}
    {interaction : Interaction S ε}
    (split : own thread config.trace = later ++ interaction :: earlier) :
    (D op).issued earlier interaction.command := by
  obtain ⟨laterTrace, earlierTrace, traceSplit, rfl⟩ := own_split split
  obtain ⟨before, after, op', reply, reached, _, happened, rfl, step, rest⟩ :=
    run.moment traceSplit
  have same := (step.trans rest).opOf_kept happened.opOf
  rw [runs] at same
  cases same
  obtain ⟨resume, waiting, _⟩ := happened.resumed
  exact issued_of_reaches bodies credible reached waiting

/-- Play a list of moves, all of which must be allowed and possible. -/
def play (allowed : Config M → Move M → Prop) [DecidableRel allowed] (config : Config M) :
    List (Move M) → Option (Config M)
  | [] => some config
  | move :: moves =>
      if allowed config move then
        match config.next move with
        | some after => play allowed after moves
        | none => none
      else none

/-- Playing moves yields a run. -/
theorem reaches_of_play {allowed : Config M → Move M → Prop} [DecidableRel allowed]
    {moves : List (Move M)} {config after : Config M}
    (played : config.play allowed moves = some after) : Reaches allowed config after := by
  induction moves generalizing config with
  | nil =>
      cases played
      exact .refl
  | cons move moves ih =>
      simp only [play] at played
      split at played
      · rename_i meets
        split at played
        · rename_i middle stepped
          exact (Reaches.refl.step move meets stepped).trans (ih played)
        · cases played
      · cases played

/-- The configuration a list of moves leads to; the configuration itself if they cannot be played. -/
def after (allowed : Config M → Move M → Prop) [DecidableRel allowed] (config : Config M)
    (moves : List (Move M)) : Config M :=
  (config.play allowed moves).getD config

/-- Moves that can be played lead where the run goes. -/
theorem reaches_after {allowed : Config M → Move M → Prop} [DecidableRel allowed]
    {moves : List (Move M)} {config : Config M}
    (possible : (config.play allowed moves).isSome = true) :
    Reaches allowed config (config.after allowed moves) := by
  obtain ⟨last, played⟩ := Option.isSome_iff_exists.mp possible
  rw [after, played]
  exact reaches_of_play played

end Config

end JumptotechLabs.Core
