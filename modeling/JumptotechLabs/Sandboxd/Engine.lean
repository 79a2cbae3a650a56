/-
Module: JumptotechLabs.Sandboxd.Engine
Layer: Sandboxd (services/lab-orchestrator/src/docker/port.ts, docker/cli-client.ts)
Purpose: The engines the broker drives: the daemon of the host, and the daemon inside each sandbox, which
  is reached through the sandbox's container. A call changes what it names and nothing else. `Daemons` are
  everything the daemons are free in: which calls fail, whether a failed call took effect, what is inside a
  container and what an inner daemon answers. Every call is written down with the host it was made on.
Main exports: HostCall, SessionCall, EngineCall, Engines, Host, Daemons, World, Daemons.engine,
  EngineCall.changes, EngineCall.reaches, engine_made, engine_failure, engine_unchanged, engine_frame
-/
import JumptotechLabs.Core.Handler
import JumptotechLabs.Core.Json
import JumptotechLabs.Core.Keyed
import JumptotechLabs.Session.Identifiers
import JumptotechLabs.Session.Labels

namespace JumptotechLabs.Sandboxd

open JumptotechLabs.Core
open JumptotechLabs.Session (Labels isContainerSandboxRef)

/-! ### Calls -/

/-- What is thrown: `DockerOpDeniedError`, or anything else, by its message. -/
inductive DockerError where
  | denied (status : Nat) (code message : String)
  | thrown (message : String)
deriving DecidableEq, Inhabited

/-- `RunContainerSpec`, in the fields that a sandbox is run with. -/
structure RunContainerSpec where
  name : String
  image : String
  detach : Bool
  hostname : String
  network : String
  privileged : Bool
  restartPolicy : String
  memory : String
  memorySwap : String
  cpus : String
  pidsLimit : Nat
  env : List (String × String)
  /-- Each volume with its destination. -/
  volumes : List (String × String)
  labels : Labels
  args : List String
deriving DecidableEq, Inhabited

structure CreateNetworkSpec where
  name : String
  driver : Option String := none
  internal : Bool := false
  labels : Labels := []
deriving DecidableEq, Inhabited

/-- `DockerExecResult`. -/
structure ExecResult where
  exitCode : Int
  stdout : String
  stderr : String
deriving DecidableEq, Inhabited

/-- `DockerFileRead`. -/
structure FileRead where
  content : List UInt8
  declaredSize : Nat
  truncated : Bool
deriving DecidableEq, Inhabited

/-- What the host's daemon tells of a container; `details` are the fields besides the three that are
    read here. -/
structure Snapshot where
  name : String
  image : String
  labels : Labels
  details : List (String × Value)
deriving Inhabited

/-- Calls of the host's daemon. -/
inductive HostCall where
  | version
  | inspectContainer (name : String)
  | listContainers (all : Bool) (labelSelector : String)
  | createNetwork (spec : CreateNetworkSpec)
  | createVolume (name : String) (labels : Labels)
  | removeVolume (name : String) (force : Bool)
  | runContainer (spec : RunContainerSpec)
  | removeContainer (name : String) (force volumes : Bool)
  | execInContainer (name : String) (argv : List String) (timeoutMs : Nat)

/-- Calls of the daemon inside one sandbox. A container is run there from whatever fields arrived. -/
inductive SessionCall where
  | version
  | inspectContainer (name : String)
  | inspectImage (reference : String)
  | inspectVolume (name : String)
  | inspectNetwork (name : String)
  | listContainers (all : Bool)
  | listImages
  | listVolumes
  | listNetworks
  | copyFileFromContainer (container path : String) (maxBytes : Option Rat)
  | pullImage (reference : String)
  | runContainer (spec : List (String × Value))
  | stopContainer (name : String) (timeoutSeconds : Option Rat)
  | removeContainer (name : String) (force volumes : Bool)
  | createNetwork (spec : CreateNetworkSpec)
  | createVolume (name : String)
  | removeNetwork (name : String)
  | removeVolume (name : String) (force : Bool)
  | removeImage (reference : String) (force : Bool)

/-- A call of `engines.host`, `engines.session(ref)` itself, or a call of the port it returned. -/
inductive EngineCall where
  | host (call : HostCall)
  | openSession (ref : String)
  | session (ref : String) (call : SessionCall)

abbrev HostCall.Ans : HostCall → Type
  | .version => Value
  | .inspectContainer _ => Option Snapshot
  | .listContainers _ _ => List Snapshot
  | .runContainer _ => String
  | .execInContainer _ _ _ => ExecResult
  | _ => Unit

abbrev SessionCall.Ans : SessionCall → Type
  | .copyFileFromContainer _ _ _ => Option FileRead
  | .pullImage _ | .stopContainer _ _ | .removeContainer _ _ _ | .createNetwork _ | .createVolume _
  | .removeNetwork _ | .removeVolume _ _ | .removeImage _ _ => Unit
  | .runContainer _ => String
  | _ => Value

abbrev EngineCall.Ans : EngineCall → Type
  | .host call => call.Ans
  | .openSession _ => Unit
  | .session _ call => call.Ans

abbrev Engines : Signature := ⟨EngineCall, EngineCall.Ans⟩

/-! ### The host -/

/-- A container of the host, with everything that is inside it. -/
structure Container (Inside : Type) where
  name : String
  image : String
  labels : Labels
  inside : Inside

/-- A named volume of the host. -/
structure Volume where
  name : String
  labels : Labels
deriving DecidableEq, Inhabited

structure Host (Inside : Type) where
  containers : List (Container Inside)
  volumes : List Volume
  networks : List CreateNetworkSpec

variable {Inside : Type}

namespace Host

def container (host : Host Inside) (name : String) : Option (Container Inside) :=
  Keyed.lookup Container.name name host.containers

def volume (host : Host Inside) (name : String) : Option Volume :=
  Keyed.lookup Volume.name name host.volumes

/-- `docker volume create`, and the volumes that `docker run` finds missing: one that exists stays as
    it is. -/
def createVolume (host : Host Inside) (name : String) (labels : Labels) : Host Inside :=
  match host.volume name with
  | some _ => host
  | none => { host with volumes := host.volumes ++ [⟨name, labels⟩] }

/-- A network that exists stays as it is. -/
def createNetwork (host : Host Inside) (spec : CreateNetworkSpec) : Host Inside :=
  if host.networks.any fun network => network.name == spec.name then host
  else { host with networks := host.networks ++ [spec] }

def removeVolume (host : Host Inside) (name : String) : Host Inside :=
  { host with volumes := Keyed.remove Volume.name name host.volumes }

def removeContainer (host : Host Inside) (name : String) : Host Inside :=
  { host with containers := Keyed.remove Container.name name host.containers }

/-- Something happened inside a container. -/
def setInside (host : Host Inside) (name : String) (inside : Inside) : Host Inside :=
  { host with
    containers := Keyed.modify Container.name name ({ · with inside }) host.containers }

/-- A new container, with the volumes it mounts. -/
def addContainer (host : Host Inside) (spec : RunContainerSpec) (inside : Inside) : Host Inside :=
  let mounted := spec.volumes.foldl (fun host volume => host.createVolume volume.1 []) host
  { mounted with
    containers := mounted.containers ++ [⟨spec.name, spec.image, spec.labels, inside⟩] }

end Host

/-! ### The daemons -/

/-- What the daemons are free in. -/
structure Daemons (Inside : Type) where
  /-- Does a call fail, and with which message? -/
  fails : Host Inside → EngineCall → Option String
  /-- Did a call that failed take effect all the same? -/
  tookEffect : Host Inside → EngineCall → Bool
  version : Value
  /-- What `docker inspect` tells besides. -/
  details : Container Inside → List (String × Value)
  /-- What a container starts with inside, and its id. -/
  starts : RunContainerSpec → Inside × String
  /-- A volume in use is not removed, which is no failure. -/
  inUse : Host Inside → String → Bool
  executes : List String → Inside → ExecResult × Inside
  serves : (call : SessionCall) → Inside → call.Ans × Inside

def noSuchContainer (name : String) : DockerError := .thrown ("No such container: " ++ name)

namespace Daemons

variable (daemons : Daemons Inside)

def snapshot (container : Container Inside) : Snapshot :=
  ⟨container.name, container.image, container.labels, daemons.details container⟩

/-- What a call that does not fail answers, and the host after it. -/
def answer (host : Host Inside) :
    (call : EngineCall) → Except DockerError call.Ans × Host Inside
  | .host .version => (.ok daemons.version, host)
  | .host (.inspectContainer name) => (.ok ((host.container name).map daemons.snapshot), host)
  | .host (.listContainers _ labelSelector) =>
      let selected := host.containers.filter fun container =>
        container.labels.any fun label => label.1 ++ "=" ++ label.2 == labelSelector
      (.ok (selected.map daemons.snapshot), host)
  | .host (.createNetwork spec) => (.ok (), host.createNetwork spec)
  | .host (.createVolume name labels) => (.ok (), host.createVolume name labels)
  | .host (.removeVolume name _) =>
      (.ok (), if daemons.inUse host name then host else host.removeVolume name)
  | .host (.runContainer spec) =>
      match host.container spec.name with
      | some _ => (.error (.thrown ("Conflict. The container name is already in use: " ++ spec.name)), host)
      | none =>
          let (inside, id) := daemons.starts spec
          (.ok id, host.addContainer spec inside)
  | .host (.removeContainer name _ _) => (.ok (), host.removeContainer name)
  | .host (.execInContainer name argv _) =>
      match host.container name with
      | none => (.error (noSuchContainer name), host)
      | some container =>
          let (result, inside) := daemons.executes argv container.inside
          (.ok result, host.setInside name inside)
  | .openSession ref =>
      if isContainerSandboxRef ref then (.ok (), host)
      else (.error (.thrown ("Refusing to address '" ++ ref ++ "': not a JumpToTech lab sandbox name")),
        host)
  | .session ref call =>
      match host.container ref with
      | none => (.error (noSuchContainer ref), host)
      | some container =>
          let (result, inside) := daemons.serves call container.inside
          (.ok result, host.setInside ref inside)

end Daemons

/-- The host, and every call made so far with the host it was made on. -/
structure World (Inside : Type) where
  host : Host Inside
  made : List (Host Inside × EngineCall)

/-- The engines. -/
def Daemons.engine (daemons : Daemons Inside) : Handler Engines DockerError (World Inside) :=
  fun world (call : EngineCall) =>
    let (result, next) := daemons.answer world.host call
    let made := world.made ++ [(world.host, call)]
    match daemons.fails world.host call with
    | some message =>
        (.error (.thrown message),
          ⟨if daemons.tookEffect world.host call then next else world.host, made⟩)
    | none => (result, ⟨next, made⟩)

/-! ### What a call can change -/

/-- Can a call change an engine? Every call of an inner daemon counts, and every command run inside a
    container. -/
def EngineCall.changes : EngineCall → Bool
  | .host .version | .host (.inspectContainer _) | .host (.listContainers _ _) | .openSession _ => false
  | _ => true

/-- The data volume of a sandbox. -/
def dataVolume (ref : String) : String := ref ++ "-data"

/-- Does a call write or run something in a sandbox, its data volume or its daemon? -/
def EngineCall.reaches (ref : String) : EngineCall → Bool
  | .host (.createVolume name _) | .host (.removeVolume name _) => name == dataVolume ref
  | .host (.runContainer spec) =>
      spec.name == ref || spec.volumes.any fun volume => volume.1 == dataVolume ref
  | .host (.removeContainer name _ _) | .host (.execInContainer name _ _) => name == ref
  | .openSession other | .session other _ => other == ref
  | _ => false

/-- The container that a call removes, runs a command in or opens the daemon of. -/
def EngineCall.commanded : EngineCall → Option String
  | .host (.removeContainer name _ _) | .host (.execInContainer name _ _) => some name
  | .openSession ref | .session ref _ => some ref
  | _ => none

namespace Host

variable (host : Host Inside)

theorem container_createVolume (name other : String) (labels : Labels) :
    (host.createVolume name labels).container other = host.container other := by
  rw [createVolume]
  split
  · rfl
  · rfl

theorem volume_createVolume {name other : String} (labels : Labels) (differ : name ≠ other) :
    (host.createVolume name labels).volume other = host.volume other := by
  rw [createVolume]
  split
  · rfl
  · simp only [volume, Keyed.lookup_append, if_neg differ, Option.or_none]

theorem container_createNetwork (spec : CreateNetworkSpec) (name : String) :
    (host.createNetwork spec).container name = host.container name := by
  rw [createNetwork]
  split
  · rfl
  · rfl

theorem volume_createNetwork (spec : CreateNetworkSpec) (name : String) :
    (host.createNetwork spec).volume name = host.volume name := by
  rw [createNetwork]
  split
  · rfl
  · rfl

theorem volume_removeVolume {name other : String} (differ : name ≠ other) :
    (host.removeVolume name).volume other = host.volume other := by
  simp [removeVolume, volume, Keyed.lookup_remove, differ.symm]

theorem container_removeContainer {name other : String} (differ : name ≠ other) :
    (host.removeContainer name).container other = host.container other := by
  simp [removeContainer, container, Keyed.lookup_remove, differ.symm]

theorem container_setInside {name other : String} (inside : Inside) (differ : name ≠ other) :
    (host.setInside name inside).container other = host.container other := by
  rw [setInside, container, Keyed.lookup_modify]
  · cases found : Keyed.lookup Container.name other host.containers with
    | none => simp [container, found]
    | some row =>
        have otherName : row.name ≠ name := by
          rw [Keyed.key_of_lookup found]
          exact differ.symm
        simp [container, found, otherName]
  · intro row
    rfl

/-- The volumes a container mounts are made before it. -/
theorem mount_frame (volumes : List (String × String)) (ref : String)
    (others : ∀ volume ∈ volumes, volume.1 ≠ dataVolume ref) :
    (volumes.foldl (fun host volume => host.createVolume volume.1 []) host).volume (dataVolume ref) =
        host.volume (dataVolume ref) ∧
      ∀ name, (volumes.foldl (fun host volume => host.createVolume volume.1 []) host).container name =
        host.container name := by
  induction volumes generalizing host with
  | nil => exact ⟨rfl, fun _ => rfl⟩
  | cons head tail ih =>
      obtain ⟨sameVolume, sameContainers⟩ := ih (host.createVolume head.1 []) fun volume member =>
        others volume (List.mem_cons_of_mem _ member)
      constructor
      · rw [List.foldl_cons, sameVolume]
        exact host.volume_createVolume [] (others head List.mem_cons_self)
      · intro name
        rw [List.foldl_cons, sameContainers]
        exact host.container_createVolume head.1 name []

theorem addContainer_frame (spec : RunContainerSpec) (inside : Inside) {ref : String}
    (otherName : spec.name ≠ ref) (others : ∀ volume ∈ spec.volumes, volume.1 ≠ dataVolume ref) :
    (host.addContainer spec inside).container ref = host.container ref ∧
      (host.addContainer spec inside).volume (dataVolume ref) = host.volume (dataVolume ref) := by
  obtain ⟨sameVolume, sameContainers⟩ := host.mount_frame spec.volumes ref others
  constructor
  · rw [← sameContainers ref]
    simp only [addContainer, container, Keyed.lookup_append, if_neg otherName, Option.or_none]
  · exact sameVolume

end Host

namespace Daemons

variable (daemons : Daemons Inside)

/-- A call that cannot change an engine leaves the host as it is. -/
theorem answer_unchanged (host : Host Inside) {call : EngineCall} (quiet : call.changes = false) :
    (daemons.answer host call).2 = host := by
  cases call with
  | host call =>
      cases call with
      | version => rfl
      | inspectContainer name => rfl
      | listContainers all labelSelector => rfl
      | _ => cases quiet
  | openSession ref =>
      rw [answer]
      split
      · rfl
      · rfl
  | session ref call => cases quiet

/-- A call that does not reach a sandbox leaves its container and its data volume as they are. -/
theorem answer_frame (host : Host Inside) {call : EngineCall} {ref : String}
    (elsewhere : call.reaches ref = false) :
    (daemons.answer host call).2.container ref = host.container ref ∧
      (daemons.answer host call).2.volume (dataVolume ref) = host.volume (dataVolume ref) := by
  cases call with
  | host call =>
      cases call with
      | version => exact ⟨rfl, rfl⟩
      | inspectContainer name => exact ⟨rfl, rfl⟩
      | listContainers all labelSelector => exact ⟨rfl, rfl⟩
      | createNetwork spec =>
          exact ⟨host.container_createNetwork spec ref, host.volume_createNetwork spec _⟩
      | createVolume name labels =>
          have differ : name ≠ dataVolume ref := by simpa [EngineCall.reaches] using elsewhere
          exact ⟨host.container_createVolume name ref labels, host.volume_createVolume labels differ⟩
      | removeVolume name force =>
          have differ : name ≠ dataVolume ref := by simpa [EngineCall.reaches] using elsewhere
          simp only [answer]
          split
          · exact ⟨rfl, rfl⟩
          · exact ⟨rfl, host.volume_removeVolume differ⟩
      | runContainer spec =>
          simp only [EngineCall.reaches, Bool.or_eq_false_iff, beq_eq_false_iff_ne, List.any_eq_false,
            beq_iff_eq] at elsewhere
          simp only [answer]
          split
          · exact ⟨rfl, rfl⟩
          · exact host.addContainer_frame spec _ elsewhere.1 elsewhere.2
      | removeContainer name force volumes =>
          have differ : name ≠ ref := by simpa [EngineCall.reaches] using elsewhere
          exact ⟨host.container_removeContainer differ, rfl⟩
      | execInContainer name argv timeoutMs =>
          have differ : name ≠ ref := by simpa [EngineCall.reaches] using elsewhere
          simp only [answer]
          split
          · exact ⟨rfl, rfl⟩
          · exact ⟨host.container_setInside _ differ, rfl⟩
  | openSession other =>
      simp only [answer]
      split
      · exact ⟨rfl, rfl⟩
      · exact ⟨rfl, rfl⟩
  | session other call =>
      have differ : other ≠ ref := by simpa [EngineCall.reaches] using elsewhere
      simp only [answer]
      split
      · exact ⟨rfl, rfl⟩
      · exact ⟨host.container_setInside _ differ, rfl⟩

/-- No answer is a refusal of the broker. -/
theorem answer_thrown (host : Host Inside) {call : EngineCall} {failure : DockerError}
    (failed : (daemons.answer host call).1 = .error failure) : ∃ message, failure = .thrown message := by
  cases call with
  | host call =>
      cases call with
      | runContainer spec =>
          simp only [answer] at failed
          split at failed
          · cases failed
            exact ⟨_, rfl⟩
          · cases failed
      | execInContainer name argv timeoutMs =>
          simp only [answer] at failed
          split at failed
          · cases failed
            exact ⟨_, rfl⟩
          · cases failed
      | _ => cases failed
  | openSession ref =>
      simp only [answer] at failed
      split at failed
      · cases failed
      · cases failed
        exact ⟨_, rfl⟩
  | session ref call =>
      simp only [answer] at failed
      split at failed
      · cases failed
        exact ⟨_, rfl⟩
      · cases failed

variable (world : World Inside)

/-- After a call the host is as before, or as the call left it. -/
theorem engine_host (call : EngineCall) :
    (daemons.engine world call).2.host = world.host ∨
      (daemons.engine world call).2.host = (daemons.answer world.host call).2 := by
  simp only [engine]
  split
  · split
    · exact .inr rfl
    · exact .inl rfl
  · exact .inr rfl

@[simp] theorem engine_made (call : EngineCall) :
    (daemons.engine world call).2.made = world.made ++ [(world.host, call)] := by
  simp only [engine]
  split
  · rfl
  · rfl

theorem engine_failure {call : EngineCall} {failure : DockerError}
    (failed : (daemons.engine world call).1 = .error failure) : ∃ message, failure = .thrown message := by
  simp only [engine] at failed
  split at failed
  · cases failed
    exact ⟨_, rfl⟩
  · exact daemons.answer_thrown world.host failed

theorem engine_unchanged {call : EngineCall} (quiet : call.changes = false) :
    (daemons.engine world call).2.host = world.host := by
  rcases daemons.engine_host world call with same | answered
  · exact same
  · rw [answered]
    exact daemons.answer_unchanged world.host quiet

theorem engine_frame {call : EngineCall} {ref : String} (elsewhere : call.reaches ref = false) :
    (daemons.engine world call).2.host.container ref = world.host.container ref ∧
      (daemons.engine world call).2.host.volume (dataVolume ref) =
        world.host.volume (dataVolume ref) := by
  rcases daemons.engine_host world call with same | answered
  · rw [same]
    exact ⟨rfl, rfl⟩
  · rw [answered]
    exact daemons.answer_frame world.host elsewhere

/-- An inspection tells what is there. -/
theorem engine_inspect {name : String} {snapshot : Option Snapshot}
    (answered : (daemons.engine world (.host (.inspectContainer name))).1 = .ok snapshot) :
    snapshot = (world.host.container name).map daemons.snapshot := by
  simp only [engine, answer] at answered
  split at answered
  · cases answered
  · exact (Except.ok.inj answered).symm

end Daemons

end JumptotechLabs.Sandboxd
