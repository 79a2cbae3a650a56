/-
Module: JumptotechLabs.Sandboxd.Isolation
Layer: Sandboxd
Purpose: The broker is confined to one session. Each operation first looks, and only then acts: while it
  looks (`Quiet`) it may still refuse, and once it has acted (`Acted`) it does not refuse any more. What it
  does is `Permitted`: it is about the sandbox derived from the payload's session id, and except for a create
  about a container that proved itself this deployment's.
Main exports: DockerOps.Owns, DockerOps.Owned, Permitted, Quiet, Acted, Conducted, ownedSandbox_spec,
  perform_conducted, run_frame, docker_ops_confined
-/
import JumptotechLabs.Sandboxd.DockerOps

namespace JumptotechLabs.Sandboxd

open JumptotechLabs.Core
open JumptotechLabs.Core.Prog (settle)
open JumptotechLabs.Session (Labels managedLabel sessionLabel componentLabel providerLabel
  runtimeOwnerLabel sandboxComponent)

variable {Inside α β : Type}

/-! ### What is permitted -/

/-- A container's labels are managed, this runtime owner's, of the sandbox component, of provider docker,
    and stamped with a session id that derives to the container's name. -/
def DockerOps.Owns (ops : DockerOps) (container : Container Inside) : Prop :=
  container.labels.lookup managedLabel = some "true" ∧
    container.labels.lookup runtimeOwnerLabel = some ops.runtimeOwner ∧
    container.labels.lookup componentLabel = some sandboxComponent ∧
    container.labels.lookup providerLabel = some "docker" ∧
    ∃ stamped, container.labels.lookup sessionLabel = some stamped ∧
      ops.refFor (.string stamped) = .ok container.name

/-- There is such a container under a name. -/
def DockerOps.Owned (ops : DockerOps) (host : Host Inside) (name : String) : Prop :=
  ∃ container, host.container name = some container ∧ ops.Owns container

/-- A container is not run privileged inside a sandbox. -/
def SessionCall.Unprivileged : SessionCall → Prop
  | .runContainer spec => Value.field "privileged" spec = .boolean false
  | _ => True

/-- Is a name the one derived from the payload's session id? -/
def DockerOps.IsRef (ops : DockerOps) (payload : Payload) (ref : String) : Prop :=
  ops.refFor (Value.field "sessionId" payload) = .ok ref

/-- What a call of the broker may be, on the host it is made on; `creates` is true of `createSandbox`. -/
def Permitted (ops : DockerOps) (payload : Payload) (creates : Bool) (host : Host Inside) :
    EngineCall → Prop
  | .host (.createVolume name _) | .host (.removeVolume name _) =>
      ∃ ref, ops.IsRef payload ref ∧ name = dataVolume ref
  | .host (.runContainer spec) =>
      ops.IsRef payload spec.name ∧ ∀ volume ∈ spec.volumes, volume.1 = dataVolume spec.name
  | .host (.removeContainer name _ _) =>
      ops.IsRef payload name ∧ (creates = true ∨ ops.Owned host name)
  | .host (.execInContainer name _ _) => ops.IsRef payload name ∧ ops.Owned host name
  | .openSession ref => ops.IsRef payload ref ∧ ops.Owned host ref
  | .session ref call => ops.IsRef payload ref ∧ ops.Owned host ref ∧ call.Unprivileged
  | _ => True

/-! ### Looking and acting -/

section Conduct

variable (permitted : Host Inside → EngineCall → Prop)

/-- Only permitted calls were made since the start, none of which can change an engine. -/
structure Quiet (start world : World Inside) : Prop where
  host : world.host = start.host
  made : ∃ entries, world.made = start.made ++ entries ∧
    ∀ entry ∈ entries, permitted entry.1 entry.2 ∧ entry.2.changes = false

/-- Only permitted calls were made since the start. -/
def Acted (start world : World Inside) : Prop :=
  ∃ entries, world.made = start.made ++ entries ∧ ∀ entry ∈ entries, permitted entry.1 entry.2

/-- An outcome that is no refusal. -/
def NotDenied (outcome : Except DockerError α) : Prop :=
  ∀ status code message, outcome ≠ .error (.denied status code message)

/-- How an operation ends: without having acted, or without a refusal. -/
def Conducted (start : World Inside) (outcome : Except DockerError α) (world : World Inside) : Prop :=
  Quiet permitted start world ∨ Acted permitted start world ∧ NotDenied outcome

variable {permitted} {daemons : Daemons Inside} {start world : World Inside}

theorem Quiet.refl : Quiet permitted start start := by
  constructor
  · rfl
  · exact ⟨[], by simp, by simp⟩

theorem Quiet.acted (quiet : Quiet permitted start world) : Acted permitted start world := by
  obtain ⟨entries, made, allowed⟩ := quiet.made
  exact ⟨entries, made, fun entry member => (allowed entry member).1⟩

/-- A look. -/
theorem Quiet.engine (quiet : Quiet permitted start world) {call : EngineCall}
    (allowed : permitted world.host call) (still : call.changes = false) :
    Quiet permitted start (daemons.engine world call).2 := by
  obtain ⟨entries, made, all⟩ := quiet.made
  constructor
  · rw [daemons.engine_unchanged world still]
    exact quiet.host
  · refine ⟨entries ++ [(world.host, call)], by simp [made], ?_⟩
    intro entry member
    rcases List.mem_append.mp member with earlier | last
    · exact all entry earlier
    · rw [List.mem_singleton.mp last]
      exact ⟨allowed, still⟩

/-- An act. -/
theorem Acted.engine (acted : Acted permitted start world) {call : EngineCall}
    (allowed : permitted world.host call) :
    Acted permitted start (daemons.engine world call).2 := by
  obtain ⟨entries, made, all⟩ := acted
  refine ⟨entries ++ [(world.host, call)], by simp [made], ?_⟩
  intro entry member
  rcases List.mem_append.mp member with earlier | last
  · exact all entry earlier
  · rw [List.mem_singleton.mp last]
    exact allowed

theorem engine_notDenied (daemons : Daemons Inside) (world : World Inside) (call : EngineCall) :
    NotDenied (daemons.engine world call).1 := by
  intro status code message failed
  obtain ⟨thrown, isThrown⟩ := daemons.engine_failure world failed
  cases isThrown

theorem NotDenied.ok (value : α) : NotDenied (.ok value : Except DockerError α) := by
  intro status code message impossible
  cases impossible

theorem NotDenied.error {failure : DockerError} (isOutcome : NotDenied (.error failure : Except _ α)) :
    NotDenied (.error failure : Except DockerError β) := by
  intro status code message same
  apply isOutcome status code message
  cases same
  rfl

/-- A part that only looks, and then the rest. -/
theorem conducted_bind {body : Op α} {rest : α → Op β} (found : α → Prop)
    (looks : body.Ensures daemons.engine.effects world fun outcome next =>
      Quiet permitted start next ∧ ∀ value, outcome = .ok value → found value)
    (goesOn : ∀ value next, Quiet permitted start next → found value →
      (rest value).Ensures daemons.engine.effects next (Conducted permitted start)) :
    (body >>= rest).Ensures daemons.engine.effects world (Conducted permitted start) := by
  rw [Prog.ensures_bind]
  apply looks.mono
  intro outcome next ⟨quiet, known⟩
  cases outcome with
  | ok value => exact goesOn value next quiet (known value rfl)
  | error failure => exact .inl quiet

/-- A check of the payload, and then the rest. -/
theorem conducted_settle {outcome : Except DockerError α} {rest : α → Op β}
    (quiet : Quiet permitted start world)
    (goesOn : ∀ value, outcome = .ok value →
      (rest value).Ensures daemons.engine.effects world (Conducted permitted start)) :
    (settle outcome >>= rest).Ensures daemons.engine.effects world (Conducted permitted start) := by
  cases outcome with
  | ok value => exact goesOn value rfl
  | error failure => exact .inl quiet

/-- An act, and then the rest, which does not refuse. -/
theorem acted_bind {call : EngineCall} {rest : call.Ans → Op β}
    (acted : Acted permitted start world) (allowed : permitted world.host call)
    (goesOn : ∀ answer next, Acted permitted start next → (rest answer).Ensures daemons.engine.effects next
      fun outcome last => Acted permitted start last ∧ NotDenied outcome) :
    (Prog.perform (S := Engines) call >>= rest).Ensures daemons.engine.effects world fun outcome last =>
      Acted permitted start last ∧ NotDenied outcome := by
  rw [Prog.ensures_bind, Prog.ensures_perform_effects]
  have later : Acted permitted start (daemons.engine world call).2 := acted.engine allowed
  have fair := engine_notDenied daemons world call
  cases answered : (daemons.engine world call).1 with
  | ok answer => exact goesOn answer _ later
  | error failure =>
      rw [answered] at fair
      exact ⟨later, fair.error⟩

/-- An operation that ends once it has acted. -/
theorem conducted_of_acted {body : Op α}
    (ends : body.Ensures daemons.engine.effects world fun outcome last =>
      Acted permitted start last ∧ NotDenied outcome) :
    body.Ensures daemons.engine.effects world (Conducted permitted start) := by
  apply ends.mono
  intro outcome last ending
  exact .inr ending

theorem acted_pure (acted : Acted permitted start world) (value : α) :
    (pure value : Op α).Ensures daemons.engine.effects world fun outcome last =>
      Acted permitted start last ∧ NotDenied outcome :=
  ⟨acted, .ok value⟩

end Conduct

/-! ### Resolving a session -/

theorem labels_of_refusalOf {runtimeOwner : String} {labels : Labels}
    (accepted : refusalOf runtimeOwner labels = none) :
    labels.lookup managedLabel = some "true" ∧
      labels.lookup runtimeOwnerLabel = some runtimeOwner ∧
      labels.lookup componentLabel = some sandboxComponent ∧
      labels.lookup providerLabel = some "docker" := by
  rw [refusalOf] at accepted
  split_ifs at accepted with managed owner component provider
  exact ⟨not_not.mp managed, not_not.mp owner, not_not.mp component, not_not.mp provider⟩

theorem stamped_of_checkStamped {ops : DockerOps} {ref : String} {labels : Labels}
    (accepted : ops.checkStamped ref labels = .ok ()) :
    ∃ stamped, labels.lookup sessionLabel = some stamped ∧
      ops.refFor (.string stamped) = .ok ref := by
  rw [DockerOps.checkStamped] at accepted
  cases found : labels.lookup sessionLabel with
  | none =>
      rw [found] at accepted
      cases accepted
  | some stamped =>
      simp only [found] at accepted
      split_ifs at accepted with isEmpty
      cases derived : ops.refFor (.string stamped) with
      | error failure =>
          rw [derived] at accepted
          cases accepted
      | ok name =>
          rw [derived] at accepted
          change (if name = ref then Except.ok () else _) = _ at accepted
          split_ifs at accepted with same
          exact ⟨stamped, rfl, same ▸ derived⟩

section Calls

variable (daemons : Daemons Inside) (world : World Inside)

@[simp] theorem ensures_hostCall (call : HostCall) (post : Except DockerError call.Ans → World Inside → Prop) :
    (hostCall call).Ensures daemons.engine.effects world post ↔
      post (daemons.engine world (.host call)).1 (daemons.engine world (.host call)).2 :=
  Prog.ensures_perform_effects daemons.engine (EngineCall.host call) post

@[simp] theorem ensures_openSession (ref : String) (post : Except DockerError Unit → World Inside → Prop) :
    (openSession ref).Ensures daemons.engine.effects world post ↔
      post (daemons.engine world (.openSession ref)).1 (daemons.engine world (.openSession ref)).2 :=
  Prog.ensures_perform_effects daemons.engine (EngineCall.openSession ref) post

end Calls

section Operations

variable {ops : DockerOps} {payload : Payload} {creates : Bool} {daemons : Daemons Inside}
  {start world : World Inside}

/-- A session resolved to a container that proved itself, or it did not; only looks were made. -/
def Resolved (ops : DockerOps) (payload : Payload) (creates : Bool) (start : World Inside)
    (sessionId : Value) (outcome : Except DockerError (String × Snapshot)) (next : World Inside) :
    Prop :=
  Quiet (Permitted ops payload creates) start next ∧
    ∀ found, outcome = .ok found →
      ops.refFor sessionId = .ok found.1 ∧ ops.Owned start.host found.1

theorem Resolved.of_error {sessionId : Value} (failure : DockerError)
    (quiet : Quiet (Permitted ops payload creates) start world) :
    Resolved ops payload creates start sessionId (.error failure) world := by
  constructor
  · exact quiet
  · intro found impossible
    cases impossible

/-- The checks of `#ownedSandbox` on the container that was found. -/
theorem inspected_spec {sessionId : Value} {ref : String} {snapshot : Snapshot}
    (derived : ops.refFor sessionId = .ok ref)
    (quiet : Quiet (Permitted ops payload creates) start world)
    (found : (start.host.container ref).map daemons.snapshot = some snapshot) :
    Prog.Ensures daemons.engine.effects
      (match refusalOf ops.runtimeOwner snapshot.labels with
        | some refused => throw refused
        | none => do
            settle (ops.checkStamped ref snapshot.labels)
            return (ref, snapshot) : Op (String × Snapshot))
      world (Resolved ops payload creates start sessionId) := by
  obtain ⟨container, isThere, rfl⟩ := Option.map_eq_some_iff.mp found
  cases accepted : refusalOf ops.runtimeOwner (daemons.snapshot container).labels with
  | some refusal => exact .of_error refusal quiet
  | none =>
      simp only [Prog.ensures_bind, Prog.ensures_settle]
      cases closed : ops.checkStamped ref (daemons.snapshot container).labels with
      | error failure => exact .of_error failure quiet
      | ok _ =>
          constructor
          · exact quiet
          · intro resolved isResolved
            cases isResolved
            obtain ⟨managed, owner, component, provider⟩ := labels_of_refusalOf accepted
            have stamped := stamped_of_checkStamped closed
            rw [← Keyed.key_of_lookup isThere] at stamped
            exact ⟨derived, container, isThere, managed, owner, component, provider, stamped⟩

theorem ownedSandbox_spec (quiet : Quiet (Permitted ops payload creates) start world)
    (sessionId : Value) :
    (ops.ownedSandbox sessionId).Ensures daemons.engine.effects world
      (Resolved ops payload creates start sessionId) := by
  rw [DockerOps.ownedSandbox, Prog.ensures_bind, Prog.ensures_settle]
  cases derived : ops.refFor sessionId with
  | error failure => exact .of_error failure quiet
  | ok ref =>
      rw [Prog.thenEnsures_ok, Prog.ensures_bind, Prog.ensures_settle]
      cases coerced (Session.assertValidContainerSandboxRef ref) with
      | error failure => exact .of_error failure quiet
      | ok _ =>
          rw [Prog.thenEnsures_ok, Prog.ensures_bind, ensures_hostCall]
          have looked : Quiet (Permitted ops payload creates) start
              (daemons.engine world (.host (.inspectContainer ref))).2 := quiet.engine trivial rfl
          cases answered : (daemons.engine world (.host (.inspectContainer ref))).1 with
          | error failure => exact .of_error failure looked
          | ok answer =>
              have told := daemons.engine_inspect world answered
              rw [quiet.host] at told
              cases answer with
              | none => exact .of_error _ looked
              | some snapshot =>
                  exact inspected_spec derived looked told.symm

/-- An operation on the sandbox of the payload's session. -/
theorem conducted_owned {rest : String × Snapshot → Op β}
    (quiet : Quiet (Permitted ops payload creates) start world)
    (goesOn : ∀ ref snapshot next, Quiet (Permitted ops payload creates) start next →
      ops.IsRef payload ref → ops.Owned next.host ref →
      (rest (ref, snapshot)).Ensures daemons.engine.effects next
        (Conducted (Permitted ops payload creates) start)) :
    (ops.ownedSandbox (Value.field "sessionId" payload) >>= rest).Ensures daemons.engine.effects world
      (Conducted (Permitted ops payload creates) start) := by
  apply conducted_bind _ (ownedSandbox_spec quiet _)
  intro found next later resolved
  apply goesOn found.1 found.2 next later resolved.1
  rw [later.host]
  exact resolved.2

/-- The port to the daemon inside a sandbox that proved itself. -/
theorem conducted_openSession {ref : String} {rest : Unit → Op β}
    (quiet : Quiet (Permitted ops payload creates) start world) (isRef : ops.IsRef payload ref)
    (owned : ops.Owned world.host ref)
    (goesOn : ∀ next, Quiet (Permitted ops payload creates) start next → ops.Owned next.host ref →
      (rest ()).Ensures daemons.engine.effects next
        (Conducted (Permitted ops payload creates) start)) :
    (openSession ref >>= rest).Ensures daemons.engine.effects world
      (Conducted (Permitted ops payload creates) start) := by
  have looked : Quiet (Permitted ops payload creates) start
      (daemons.engine world (.openSession ref)).2 := quiet.engine ⟨isRef, owned⟩ rfl
  apply conducted_bind fun _ => True
  · rw [ensures_openSession]
    exact ⟨looked, fun _ _ => trivial⟩
  · intro _ next later _
    apply goesOn next later
    rw [later.host, ← quiet.host]
    exact owned

/-- A call of that daemon, and the reply. -/
theorem conducted_portCall {ref : String} {call : SessionCall} {rest : call.Ans → Op β}
    (quiet : Quiet (Permitted ops payload creates) start world) (isRef : ops.IsRef payload ref)
    (owned : ops.Owned world.host ref) (unprivileged : call.Unprivileged)
    (replies : ∀ answer, ∃ value, rest answer = pure value) :
    (portCall ref call >>= rest).Ensures daemons.engine.effects world
      (Conducted (Permitted ops payload creates) start) := by
  apply conducted_of_acted
  have allowed : Permitted ops payload creates world.host (.session ref call) :=
    ⟨isRef, owned, unprivileged⟩
  apply acted_bind quiet.acted allowed
  intro answer next acted
  obtain ⟨value, isReply⟩ := replies answer
  rw [isReply]
  exact acted_pure acted value

theorem conducted_callSession {ref : String} {call : SessionCall} {rest : call.Ans → Op β}
    (quiet : Quiet (Permitted ops payload creates) start world) (isRef : ops.IsRef payload ref)
    (owned : ops.Owned world.host ref) (unprivileged : call.Unprivileged)
    (replies : ∀ answer, ∃ value, rest answer = pure value) :
    (DockerOps.callSession ref call >>= rest).Ensures daemons.engine.effects world
      (Conducted (Permitted ops payload creates) start) := by
  have opened : (openSession ref >>= fun _ => portCall ref call >>= rest).Ensures daemons.engine.effects
      world (Conducted (Permitted ops payload creates) start) := by
    apply conducted_openSession quiet isRef owned
    intro next later stillOwned
    exact conducted_portCall later isRef stillOwned unprivileged replies
  rw [DockerOps.callSession, Prog.ensures_bind, Prog.ensures_bind]
  rw [Prog.ensures_bind] at opened
  apply opened.mono
  intro outcome next holds
  cases outcome with
  | error failure => exact holds
  | ok _ =>
      rw [Prog.thenEnsures_ok, Prog.ensures_bind] at holds
      exact holds

/-! ### The operations -/

theorem sessionAsk_conducted {call : SessionCall} {reply : call.Ans → Value}
    (unprivileged : call.Unprivileged) :
    (ops.sessionAsk payload call reply).Ensures daemons.engine.effects start
      (Conducted (Permitted ops payload creates) start) := by
  apply conducted_owned .refl
  intro ref snapshot next quiet isRef owned
  apply conducted_callSession quiet isRef owned unprivileged
  intro answer
  exact ⟨reply answer, rfl⟩

theorem sessionNamed_conducted {field : String} {call : String → SessionCall}
    {reply : (name : String) → (call name).Ans → Value}
    (unprivileged : ∀ name, (call name).Unprivileged) :
    (ops.sessionNamed payload field call reply).Ensures daemons.engine.effects start
      (Conducted (Permitted ops payload creates) start) := by
  apply conducted_owned .refl
  intro ref snapshot next quiet isRef owned
  apply conducted_settle quiet
  intro name _
  apply conducted_callSession quiet isRef owned (unprivileged name)
  intro answer
  exact ⟨reply name answer, rfl⟩

theorem innerSpec_privileged (spec : Value) (name image : String) :
    Value.field "privileged" (DockerOps.innerSpec spec name image) = .boolean false := by
  have put_field : ∀ (fields : List (String × Value)),
      Value.field "privileged" (Keyed.put Prod.fst ("privileged", .boolean false) fields) =
        .boolean false := by
    intro fields
    induction fields with
    | nil => rfl
    | cons head tail ih =>
        rw [Keyed.put]
        split
        · rfl
        · rename_i differ
          rw [Value.field, if_neg differ, ih]
  exact put_field _

theorem sessionRunContainer_conducted :
    (ops.sessionRunContainer payload).Ensures daemons.engine.effects start
      (Conducted (Permitted ops payload creates) start) := by
  apply conducted_owned .refl
  intro ref snapshot next quiet isRef owned
  by_cases isObject : DockerOps.isObject (Value.field "spec" payload) = true
  · simp only [isObject, Bool.not_true, Bool.false_eq_true, if_false]
    apply conducted_openSession quiet isRef owned
    intro later quietLater stillOwned
    apply conducted_settle quietLater
    intro name _
    apply conducted_settle quietLater
    intro image _
    apply conducted_portCall quietLater isRef stillOwned
    · exact innerSpec_privileged _ name image
    · intro id
      exact ⟨_, rfl⟩
  · simp only [isObject, Bool.not_false, if_true]
    exact .inl quiet

theorem sessionStopContainer_conducted :
    (ops.sessionStopContainer payload).Ensures daemons.engine.effects start
      (Conducted (Permitted ops payload creates) start) := by
  apply conducted_owned .refl
  intro ref snapshot next quiet isRef owned
  apply conducted_settle quiet
  intro name _
  apply conducted_settle quiet
  intro timeout _
  apply conducted_callSession quiet isRef owned
  · trivial
  · intro answer
    exact ⟨_, rfl⟩

theorem sessionCreateNetwork_conducted :
    (ops.sessionCreateNetwork payload).Ensures daemons.engine.effects start
      (Conducted (Permitted ops payload creates) start) := by
  apply conducted_owned .refl
  intro ref snapshot next quiet isRef owned
  apply conducted_settle quiet
  intro name _
  apply conducted_openSession quiet isRef owned
  intro later quietLater stillOwned
  apply conducted_settle quietLater
  intro driver _
  apply conducted_portCall quietLater isRef stillOwned
  · trivial
  · intro answer
    exact ⟨_, rfl⟩

theorem sessionCopyFile_conducted :
    (ops.sessionCopyFile payload).Ensures daemons.engine.effects start
      (Conducted (Permitted ops payload creates) start) := by
  apply conducted_owned .refl
  intro ref snapshot next quiet isRef owned
  apply conducted_settle quiet
  intro container _
  apply conducted_settle quiet
  intro path _
  by_cases isPath : matchesContainerPath path = true
  · simp only [isPath, Bool.not_true, Bool.false_eq_true, if_false]
    apply conducted_settle quiet
    intro maxBytes _
    apply conducted_callSession quiet isRef owned
    · trivial
    · intro file
      cases file with
      | none => exact ⟨_, rfl⟩
      | some file => exact ⟨_, rfl⟩
  · simp only [isPath, Bool.not_false, if_true]
    exact .inl quiet

/-- A command run in a sandbox that proved itself, and the reply. -/
theorem conducted_exec {name : String} {argv : List String} {timeoutMs : Nat}
    {rest : ExecResult → Op β} (quiet : Quiet (Permitted ops payload creates) start world)
    (isRef : ops.IsRef payload name) (owned : ops.Owned world.host name)
    (replies : ∀ answer, ∃ value, rest answer = pure value) :
    (hostCall (.execInContainer name argv timeoutMs) >>= rest).Ensures daemons.engine.effects world
      (Conducted (Permitted ops payload creates) start) := by
  apply conducted_of_acted
  have allowed : Permitted ops payload creates world.host
      (.host (.execInContainer name argv timeoutMs)) := ⟨isRef, owned⟩
  apply acted_bind quiet.acted allowed
  intro answer next acted
  obtain ⟨value, isReply⟩ := replies answer
  rw [isReply]
  exact acted_pure acted value

theorem readCertificate_conducted :
    (ops.readCertificate payload).Ensures daemons.engine.effects start
      (Conducted (Permitted ops payload creates) start) := by
  apply conducted_settle .refl
  intro file _
  by_cases isFile : certificateFiles.contains file = true
  · simp only [isFile, Bool.not_true, Bool.false_eq_true, if_false]
    apply conducted_owned .refl
    intro ref snapshot next quiet isRef owned
    apply conducted_exec quiet isRef owned
    intro answer
    exact ⟨_, rfl⟩
  · simp only [isFile, Bool.not_false, if_true]
    exact .inl .refl

theorem sandboxCliVersion_conducted :
    (ops.sandboxCliVersion payload).Ensures daemons.engine.effects start
      (Conducted (Permitted ops payload creates) start) := by
  apply conducted_owned .refl
  intro ref snapshot next quiet isRef owned
  apply conducted_exec quiet isRef owned
  intro answer
  exact ⟨_, rfl⟩

/-- An operation that only looks on the host, and replies. -/
theorem conducted_hostLook {call : HostCall} {rest : call.Ans → Op β}
    (allowed : Permitted ops payload creates start.host (.host call))
    (still : (EngineCall.host call).changes = false)
    (replies : ∀ answer, ∃ value, rest answer = pure value) :
    (hostCall call >>= rest).Ensures daemons.engine.effects start
      (Conducted (Permitted ops payload creates) start) := by
  have looked : Quiet (Permitted ops payload creates) start (daemons.engine start (.host call)).2 :=
    Quiet.refl.engine allowed still
  rw [Prog.ensures_bind, ensures_hostCall]
  cases (daemons.engine start (.host call)).1 with
  | error failure => exact .inl looked
  | ok answer =>
      obtain ⟨value, isReply⟩ := replies answer
      rw [Prog.thenEnsures_ok, isReply]
      exact .inl looked

theorem createSandboxNetwork_conducted :
    ops.createSandboxNetwork.Ensures daemons.engine.effects start
      (Conducted (Permitted ops payload creates) start) := by
  apply conducted_of_acted
  apply acted_bind Quiet.refl.acted trivial
  intro answer next acted
  exact acted_pure acted _

theorem inspectSandbox_conducted :
    (ops.inspectSandbox payload).Ensures daemons.engine.effects start
      (Conducted (Permitted ops payload creates) start) := by
  rw [DockerOps.inspectSandbox, Prog.ensures_tryCatch, Prog.ensures_bind]
  apply (ownedSandbox_spec .refl _).mono
  intro outcome next resolved
  cases outcome with
  | ok found => exact .inl resolved.1
  | error failure =>
      rw [Prog.thenEnsures_error, Prog.orEnsures_error]
      split
      · exact .inl resolved.1
      · exact .inl resolved.1

/-- The data volume is removed, and nothing is thrown. -/
theorem removeDataVolume_spec {ref : String}
    (acted : Acted (Permitted ops payload creates) start world) (isRef : ops.IsRef payload ref) :
    (DockerOps.removeDataVolume (dataVolume ref)).Ensures daemons.engine.effects world
      fun outcome next => outcome = .ok () ∧ Acted (Permitted ops payload creates) start next := by
  have allowed : Permitted ops payload creates world.host
      (.host (.removeVolume (dataVolume ref) true)) := ⟨ref, isRef, rfl⟩
  have later : Acted (Permitted ops payload creates) start
      (daemons.engine world (.host (.removeVolume (dataVolume ref) true))).2 := acted.engine allowed
  rw [DockerOps.removeDataVolume, Prog.ensures_tryCatch, ensures_hostCall]
  cases (daemons.engine world (.host (.removeVolume (dataVolume ref) true))).1 with
  | ok _ => exact ⟨rfl, later⟩
  | error failure => exact ⟨rfl, later⟩

theorem removeSandbox_conducted :
    (ops.removeSandbox payload).Ensures daemons.engine.effects start
      (Conducted (Permitted ops payload creates) start) := by
  apply conducted_settle .refl
  intro ref isRef
  have looked : Quiet (Permitted ops payload creates) start
      (daemons.engine start (.host (.inspectContainer ref))).2 := Quiet.refl.engine trivial rfl
  rw [Prog.ensures_bind, ensures_hostCall]
  cases (daemons.engine start (.host (.inspectContainer ref))).1 with
  | error failure => exact .inl looked
  | ok answer =>
      rw [Prog.thenEnsures_ok]
      cases answer with
      | none => exact .inl looked
      | some snapshot =>
          apply conducted_owned looked
          intro found _ next quiet isFound owned
          have same : found = ref := Except.ok.inj (isFound.symm.trans isRef)
          rw [same] at owned
          apply conducted_of_acted
          have allowed : Permitted ops payload creates next.host
              (.host (.removeContainer ref true true)) := ⟨isRef, .inr owned⟩
          apply acted_bind quiet.acted allowed
          intro _ last acted
          rw [Prog.ensures_bind]
          apply (removeDataVolume_spec acted isRef).mono
          intro outcome finished ⟨isOk, done⟩
          rw [isOk]
          exact ⟨done, .ok _⟩

/-- The sandbox is run; if that fails, its volume is discarded and the failure thrown on. -/
theorem runContainer_acted {ref : String} {labels : Labels} {rest : String → Op β}
    (acted : Acted (Permitted ops payload creates) start world) (isRef : ops.IsRef payload ref)
    (replies : ∀ id, ∃ value, rest id = pure value) :
    (tryCatch (hostCall (.runContainer (ops.sandboxSpec ref labels))) (fun failure => do
        DockerOps.removeDataVolume (dataVolume ref)
        throw failure) >>= rest).Ensures daemons.engine.effects world
      fun outcome last => Acted (Permitted ops payload creates) start last ∧ NotDenied outcome := by
  have allowed : Permitted ops payload creates world.host
      (.host (.runContainer (ops.sandboxSpec ref labels))) := by
    constructor
    · exact isRef
    · intro volume member
      rw [List.mem_singleton.mp member]
      rfl
  have ran : Acted (Permitted ops payload creates) start
      (daemons.engine world (.host (.runContainer (ops.sandboxSpec ref labels)))).2 :=
    acted.engine allowed
  have fair := engine_notDenied daemons world (.host (.runContainer (ops.sandboxSpec ref labels)))
  rw [Prog.ensures_bind, Prog.ensures_tryCatch, ensures_hostCall]
  cases outcome : (daemons.engine world (.host (.runContainer (ops.sandboxSpec ref labels)))).1 with
  | ok id =>
      obtain ⟨value, isReply⟩ := replies id
      rw [Prog.orEnsures_ok, Prog.thenEnsures_ok, isReply]
      exact acted_pure ran value
  | error failure =>
      rw [outcome] at fair
      rw [Prog.orEnsures_error]
      rw [Prog.ensures_bind]
      apply (removeDataVolume_spec ran isRef).mono
      intro discarded last ⟨isOk, done⟩
      rw [isOk]
      exact ⟨done, fair.error⟩

/-- A create: over an existing sandbox it replaces it, whatever its labels. -/
theorem createSandbox_conducted :
    (ops.createSandbox payload).Ensures daemons.engine.effects start
      (Conducted (Permitted ops payload true) start) := by
  apply conducted_settle .refl
  intro ref isRef
  apply conducted_settle .refl
  intro sessionId _
  apply conducted_settle .refl
  intro labId _
  apply conducted_settle .refl
  intro expiresAtMs _
  apply conducted_of_acted
  have mayRemove : Permitted ops payload true start.host
      (.host (.removeContainer ref true true)) := ⟨isRef, .inl rfl⟩
  apply acted_bind Quiet.refl.acted mayRemove
  intro _ removed actedOnce
  have mayCreate : ∀ labels, Permitted ops payload true removed.host
      (.host (.createVolume (dataVolume ref) labels)) := fun _ => ⟨ref, isRef, rfl⟩
  apply acted_bind actedOnce (mayCreate _)
  intro _ created actedTwice
  apply runContainer_acted actedTwice isRef
  intro id
  exact ⟨_, rfl⟩

/-- Every operation of the closed list is conducted so. -/
theorem perform_conducted (operation : DockerOperation) :
    (ops.perform payload operation).Ensures daemons.engine.effects start
      (Conducted (Permitted ops payload (operation == .createSandbox)) start) := by
  cases operation with
  | hostVersion => exact conducted_hostLook trivial rfl fun _ => ⟨_, rfl⟩
  | createSandboxNetwork => exact createSandboxNetwork_conducted
  | createSandbox => exact createSandbox_conducted
  | inspectSandbox => exact inspectSandbox_conducted
  | removeSandbox => exact removeSandbox_conducted
  | listManagedSandboxes => exact conducted_hostLook trivial rfl fun _ => ⟨_, rfl⟩
  | readCertificate => exact readCertificate_conducted
  | sandboxCliVersion => exact sandboxCliVersion_conducted
  | sessionVersion => exact sessionAsk_conducted trivial
  | sessionInspectContainer => exact sessionNamed_conducted fun _ => trivial
  | sessionInspectImage => exact sessionNamed_conducted fun _ => trivial
  | sessionInspectVolume => exact sessionNamed_conducted fun _ => trivial
  | sessionInspectNetwork => exact sessionNamed_conducted fun _ => trivial
  | sessionCopyFile => exact sessionCopyFile_conducted
  | sessionListContainers => exact sessionAsk_conducted trivial
  | sessionListImages => exact sessionAsk_conducted trivial
  | sessionListVolumes => exact sessionAsk_conducted trivial
  | sessionListNetworks => exact sessionAsk_conducted trivial
  | sessionPullImage => exact sessionNamed_conducted fun _ => trivial
  | sessionRunContainer => exact sessionRunContainer_conducted
  | sessionStopContainer => exact sessionStopContainer_conducted
  | sessionRemoveContainer => exact sessionNamed_conducted fun _ => trivial
  | sessionCreateNetwork => exact sessionCreateNetwork_conducted
  | sessionCreateVolume => exact sessionNamed_conducted fun _ => trivial
  | sessionRemoveNetwork => exact sessionNamed_conducted fun _ => trivial
  | sessionRemoveVolume => exact sessionNamed_conducted fun _ => trivial
  | sessionRemoveImage => exact sessionNamed_conducted fun _ => trivial

end Operations

/-- An operation that is not on the list is refused; every other is conducted as its name allows. -/
theorem run_conducted (ops : DockerOps) (daemons : Daemons Inside) (start : World Inside) (op : String)
    (payload : Payload) :
    Conducted (Permitted ops payload (op == "createSandbox")) start
      ((ops.run op payload).run daemons.engine start).1
      ((ops.run op payload).run daemons.engine start).2 := by
  rw [DockerOps.run]
  cases found : DockerOperation.ofWord op with
  | none => exact .inl .refl
  | some operation =>
      have isWord : operation.word = op := by
        simpa using List.find?_some found
      have sameFlag : (operation == DockerOperation.createSandbox) = (op == "createSandbox") := by
        rw [← isWord]
        cases operation with
        | _ => decide
      rw [← sameFlag]
      exact (perform_conducted operation).run_effects

/-! ### Runs -/

/-- The calls made between two worlds of a run. -/
def World.since (start next : World Inside) : List (Host Inside × EngineCall) :=
  next.made.drop start.made.length

theorem World.since_eq {start next : World Inside} {entries : List (Host Inside × EngineCall)}
    (made : next.made = start.made ++ entries) : start.since next = entries := by
  rw [since, made, List.drop_left]

/-- Whatever a program does, calls are only added, and a sandbox that none of them reaches stays as it
    is. -/
theorem run_frame (daemons : Daemons Inside) (body : Op α) (start : World Inside) :
    ∃ entries, (body.run daemons.engine start).2.made = start.made ++ entries ∧
      ∀ ref, (∀ entry ∈ entries, entry.2.reaches ref = false) →
        (body.run daemons.engine start).2.host.container ref = start.host.container ref ∧
          (body.run daemons.engine start).2.host.volume (dataVolume ref) =
            start.host.volume (dataVolume ref) := by
  induction body generalizing start with
  | ret value => exact ⟨[], by simp [Prog.run], fun _ _ => ⟨rfl, rfl⟩⟩
  | fail failure => exact ⟨[], by simp [Prog.run], fun _ _ => ⟨rfl, rfl⟩⟩
  | call command resume ih =>
      obtain ⟨entries, made, frame⟩ :=
        ih (daemons.engine start command).1 (daemons.engine start command).2
      refine ⟨(start.host, command) :: entries, ?_, ?_⟩
      · rw [Prog.run, made, daemons.engine_made, List.append_assoc, List.singleton_append]
      · intro ref elsewhere
        obtain ⟨sameContainer, sameVolume⟩ := frame ref fun entry member =>
          elsewhere entry (List.mem_cons_of_mem _ member)
        obtain ⟨firstContainer, firstVolume⟩ :=
          daemons.engine_frame start (elsewhere _ List.mem_cons_self)
        rw [Prog.run]
        exact ⟨sameContainer.trans firstContainer, sameVolume.trans firstVolume⟩

/-- A permitted call does not reach a sandbox that another session derives to. -/
theorem Permitted.elsewhere {ops : DockerOps} {payload : Payload} {creates : Bool} {host : Host Inside}
    {call : EngineCall} {ref : String} (permitted : Permitted ops payload creates host call)
    (other : ¬ ops.IsRef payload ref) : call.reaches ref = false := by
  have differ : ∀ {name : String}, ops.IsRef payload name → name ≠ ref := by
    intro name isRef same
    exact other (same ▸ isRef)
  have volumesDiffer : ∀ {name : String}, ops.IsRef payload name → dataVolume name ≠ dataVolume ref := by
    intro name isRef same
    exact differ isRef (String.append_left_inj _ |>.mp same)
  cases call with
  | host call =>
      cases call with
      | createVolume name labels =>
          obtain ⟨own, isRef, rfl⟩ := permitted
          simpa [EngineCall.reaches] using volumesDiffer isRef
      | removeVolume name force =>
          obtain ⟨own, isRef, rfl⟩ := permitted
          simpa [EngineCall.reaches] using volumesDiffer isRef
      | runContainer spec =>
          obtain ⟨isRef, volumes⟩ := permitted
          simp only [EngineCall.reaches, Bool.or_eq_false_iff, beq_eq_false_iff_ne, List.any_eq_false,
            beq_iff_eq]
          constructor
          · exact differ isRef
          · intro volume member
            rw [volumes volume member]
            exact volumesDiffer isRef
      | removeContainer name force volumes =>
          simpa [EngineCall.reaches] using differ permitted.1
      | execInContainer name argv timeoutMs =>
          simpa [EngineCall.reaches] using differ permitted.1
      | _ => rfl
  | openSession name => simpa [EngineCall.reaches] using differ permitted.1
  | session name call => simpa [EngineCall.reaches] using differ permitted.1

theorem Conducted.acted {permitted : Host Inside → EngineCall → Prop} {start world : World Inside}
    {outcome : Except DockerError α} (conducted : Conducted permitted start outcome world) :
    Acted permitted start world := by
  rcases conducted with quiet | acted
  · exact quiet.acted
  · exact acted.1

/-- One call leaves another session's sandbox alone. -/
theorem step_elsewhere (ops : DockerOps) (daemons : Daemons Inside) (start : World Inside)
    (call : String × Payload) {ref : String} (other : ¬ ops.IsRef call.2 ref) :
    ∃ entries, ((dockerOps ops daemons).step start call).2.made = start.made ++ entries ∧
      (∀ entry ∈ entries, entry.2.reaches ref = false) ∧
      ((dockerOps ops daemons).step start call).2.host.container ref = start.host.container ref ∧
      ((dockerOps ops daemons).step start call).2.host.volume (dataVolume ref) =
        start.host.volume (dataVolume ref) := by
  obtain ⟨entries, made, allowed⟩ := (run_conducted ops daemons start call.1 call.2).acted
  obtain ⟨_, alsoMade, frame⟩ := run_frame daemons (ops.run call.1 call.2) start
  have same := List.append_cancel_left (made.symm.trans alsoMade)
  subst same
  have elsewhere : ∀ entry ∈ entries, entry.2.reaches ref = false := fun entry member =>
    (allowed entry member).elsewhere other
  exact ⟨entries, made, elsewhere, frame ref elsewhere⟩

/-- No sequence of calls for other sessions reaches a sandbox. -/
theorem calls_elsewhere (ops : DockerOps) (daemons : Daemons Inside) {ref : String}
    (calls : List (String × Payload)) (others : ∀ call ∈ calls, ¬ ops.IsRef call.2 ref)
    (start : World Inside) :
    ∃ entries, ((dockerOps ops daemons).after start calls).made = start.made ++ entries ∧
      (∀ entry ∈ entries, entry.2.reaches ref = false) ∧
      ((dockerOps ops daemons).after start calls).host.container ref = start.host.container ref ∧
      ((dockerOps ops daemons).after start calls).host.volume (dataVolume ref) =
        start.host.volume (dataVolume ref) := by
  induction calls generalizing start with
  | nil => exact ⟨[], by simp [Object.after], by simp, rfl, rfl⟩
  | cons call calls ih =>
      obtain ⟨first, madeFirst, elsewhereFirst, containerFirst, volumeFirst⟩ :=
        step_elsewhere ops daemons start call (others call List.mem_cons_self)
      obtain ⟨rest, madeRest, elsewhereRest, containerRest, volumeRest⟩ :=
        ih (fun other member => others other (List.mem_cons_of_mem _ member))
          ((dockerOps ops daemons).step start call).2
      refine ⟨first ++ rest, ?_, ?_, containerRest.trans containerFirst, volumeRest.trans volumeFirst⟩
      · rw [Object.after, madeRest, madeFirst, List.append_assoc]
      · intro entry member
        rcases List.mem_append.mp member with inFirst | inRest
        · exact elsewhereFirst entry inFirst
        · exact elsewhereRest entry inRest

/-- A call that removes, runs a command in or opens the daemon of a container is of one that proved
    itself, unless it is a create's. -/
theorem Permitted.owned {ops : DockerOps} {payload : Payload} {host : Host Inside} {call : EngineCall}
    {name : String} (permitted : Permitted ops payload false host call)
    (commands : call.commanded = some name) : ops.Owned host name := by
  cases call with
  | host call =>
      cases call with
      | removeContainer other force volumes =>
          cases commands
          rcases permitted.2 with impossible | owned
          · cases impossible
          · exact owned
      | execInContainer other argv timeoutMs =>
          cases commands
          exact permitted.2
      | _ => cases commands
  | openSession other =>
      cases commands
      exact permitted.2
  | session other call =>
      cases commands
      exact permitted.2.1

/-- Docker operations are confined to one session. -/
theorem docker_ops_confined (ops : DockerOps) (daemons : Daemons Inside) (start : World Inside)
    (calls : List (String × Payload)) (t : Value) (ref : String) (derived : ops.refFor t = .ok ref)
    (others : ∀ call ∈ calls, ops.refFor (Value.field "sessionId" call.2) ≠ ops.refFor t) :
    (((dockerOps ops daemons).after start calls).host.container ref = start.host.container ref ∧
      ((dockerOps ops daemons).after start calls).host.volume (dataVolume ref) =
        start.host.volume (dataVolume ref) ∧
      ∀ entry ∈ start.since ((dockerOps ops daemons).after start calls),
        entry.2.reaches ref = false) ∧
    ∀ (now : World Inside) (op : String) (payload : Payload),
      (op ≠ "createSandbox" →
        ∀ entry ∈ now.since ((dockerOps ops daemons).step now (op, payload)).2,
          ∀ name, entry.2.commanded = some name → ops.Owned entry.1 name) ∧
      (∀ entry ∈ now.since ((dockerOps ops daemons).step now (op, payload)).2,
        ∀ inner spec, entry.2 = .session inner (.runContainer spec) →
          Value.field "privileged" spec = .boolean false) ∧
      (∀ status code message,
        ((dockerOps ops daemons).step now (op, payload)).1 = .error (.denied status code message) →
        ((dockerOps ops daemons).step now (op, payload)).2.host = now.host ∧
          ∀ entry ∈ now.since ((dockerOps ops daemons).step now (op, payload)).2,
            entry.2.changes = false) := by
  constructor
  · have elsewhere : ∀ call ∈ calls, ¬ ops.IsRef call.2 ref := by
      intro call member isRef
      exact others call member (isRef.trans derived.symm)
    obtain ⟨entries, made, reached, sameContainer, sameVolume⟩ :=
      calls_elsewhere ops daemons calls elsewhere start
    refine ⟨sameContainer, sameVolume, ?_⟩
    rw [World.since_eq made]
    exact reached
  · intro now op payload
    have conducted := run_conducted ops daemons now op payload
    obtain ⟨entries, made, allowed⟩ := conducted.acted
    rw [World.since_eq made]
    refine ⟨?_, ?_, ?_⟩
    · intro notCreate entry member name commands
      have permitted := allowed entry member
      rw [beq_eq_false_iff_ne.mpr notCreate] at permitted
      exact permitted.owned commands
    · intro entry member inner spec isRun
      have permitted := allowed entry member
      rw [isRun] at permitted
      exact permitted.2.2
    · intro status code message denied
      rcases conducted with quiet | ⟨_, notDenied⟩
      · obtain ⟨others, alsoMade, still⟩ := quiet.made
        have same := List.append_cancel_left (made.symm.trans alsoMade)
        subst same
        exact ⟨quiet.host, fun entry member => (still entry member).2⟩
      · exact absurd denied (notDenied status code message)

/-! ### Two sessions -/

/-- A broker with a derivation secret of its own; the digests are those of the two sessions below. -/
def exampleOps : DockerOps where
  derivationSecret := "derivation-secret"
  runtimeOwner := "jumptotech"
  policy :=
    { image := "docker:27-dind", privileged := true, memory := "2g", cpus := "2", pidsLimit := 512,
      network := "jtt-sandboxes", restartAttempts := 3 }
  createHmac := fun _ text =>
    if text = "sandbox:jtt-lab-:sess-3f9c1a7b" then
      "55c53bc0322acf69f99d7b3ea7a6081121b14ecf5799a42a607a43cedf7d6b42"
    else "618cc71c2a496ed4d518fa5d0b54a50938bc6586f25a0843520fb4822a976776"
  numbers := ⟨fun _ => "1800000000000", fun _ => .nan⟩

/-- Daemons that never fail; a container holds the calls its daemon has served. -/
def exampleDaemons : Daemons (List SessionCall) where
  fails := fun _ _ => none
  tookEffect := fun _ _ => false
  version := .null
  details := fun _ => []
  starts := fun _ => ([], "0a1b2c")
  inUse := fun _ _ => false
  executes := fun _ inside => (⟨0, "", ""⟩, inside)
  serves := fun call inside =>
    (match call with
      | .copyFileFromContainer _ _ _ => none
      | .pullImage _ | .stopContainer _ _ | .removeContainer _ _ _ | .createNetwork _ | .createVolume _
      | .removeNetwork _ | .removeVolume _ _ | .removeImage _ _ => ()
      | .runContainer _ => "3d4e5f"
      | .version | .inspectContainer _ | .inspectImage _ | .inspectVolume _ | .inspectNetwork _
      | .listContainers _ | .listImages | .listVolumes | .listNetworks => .null, inside ++ [call])

/-- One session's life, with an attempt at privilege and an operation that does not exist. -/
def exampleCalls : List (String × Payload) :=
  [("createSandbox", [("sessionId", .string "sess-3f9c1a7b"), ("labId", .string "docker-010"),
      ("expiresAtMs", .number (.finite 1800000000000))]),
    ("sessionRunContainer", [("sessionId", .string "sess-3f9c1a7b"),
      ("spec", .object [("name", .string "web"), ("image", .string "nginx:1.27"),
        ("privileged", .boolean true)])]),
    ("execInContainer", [("sessionId", .string "sess-3f9c1a7b")]),
    ("removeSandbox", [("sessionId", .string "sess-3f9c1a7b")])]

/-- The other session's sandbox stands through all of it. -/
theorem docker_ops_confined_otherSession :
    exampleOps.refFor (.string "sess-7d40aa01") = .ok "jtt-lab-618cc71c2a49" ∧
      (∀ call ∈ exampleCalls, exampleOps.refFor (Value.field "sessionId" call.2) ≠
        exampleOps.refFor (.string "sess-7d40aa01")) ∧
      ((dockerOps exampleOps exampleDaemons).after
        ⟨⟨[⟨"jtt-lab-618cc71c2a49", "docker:27-dind", [], []⟩], [], []⟩, []⟩ exampleCalls).host.container
          "jtt-lab-618cc71c2a49" = some ⟨"jtt-lab-618cc71c2a49", "docker:27-dind", [], []⟩ := by
  have derived : exampleOps.refFor (.string "sess-7d40aa01") = .ok "jtt-lab-618cc71c2a49" := by
    decide
  have others : ∀ call ∈ exampleCalls, exampleOps.refFor (Value.field "sessionId" call.2) ≠
      exampleOps.refFor (.string "sess-7d40aa01") := by
    decide
  refine ⟨derived, others, ?_⟩
  exact (docker_ops_confined exampleOps exampleDaemons _ exampleCalls _ _ derived others).1.1

end JumptotechLabs.Sandboxd
