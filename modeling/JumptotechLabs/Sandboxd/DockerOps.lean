/-
Module: JumptotechLabs.Sandboxd.DockerOps
Layer: Sandboxd (services/sandboxd/src/docker-ops.ts)
Purpose: The brokered operations of the Docker track. Every operation is a program over the engines, in
  the source's order of checks and calls. The payload is what a JSON body carries: any fields at all.
Main exports: DockerSandboxPolicy, DockerOps, DockerOperation, objectName, refFor, ownedSandbox,
  DockerOps.run, dockerOps
-/
import JumptotechLabs.Core.Object
import JumptotechLabs.Sandboxd.Engine

namespace JumptotechLabs.Sandboxd

open JumptotechLabs.Core
open JumptotechLabs.Core.Prog (settle)
open JumptotechLabs.Session (Labels isContainerSandboxRef assertValidSessionId
  assertValidContainerSandboxRef deriveSandboxRef containerSandboxPrefix defaultNamespaceSuffixChars
  managedLabel sessionLabel componentLabel providerLabel runtimeOwnerLabel managedSelector
  sandboxComponent ownershipLabels)

/-! ### Configuration and names -/

/-- `DockerSandboxPolicy`, in the fields that the broker reads. -/
structure DockerSandboxPolicy where
  image : String
  privileged : Bool
  memory : String
  cpus : String
  pidsLimit : Nat
  network : String
  restartAttempts : Nat
  /-- Empty when none is configured. -/
  registryMirror : String := ""
deriving DecidableEq, Inhabited

/-- The service: its configuration, and what it takes from the platform it runs on. -/
structure DockerOps where
  derivationSecret : String
  runtimeOwner : String
  policy : DockerSandboxPolicy
  /-- `createHmac('sha256', secret).update(text).digest('hex')`. -/
  createHmac : String → String → String
  numbers : NumberText

/-- What an operation is called with: the fields of the body. -/
abbrev Payload := List (String × Value)

/-- A program of the broker. -/
abbrev Op (α : Type) : Type := Prog Engines DockerError α

/-- A call of `engines.host`. -/
def hostCall (call : HostCall) : Op call.Ans := Prog.perform (S := Engines) (.host call)

/-- `engines.session(ref)`. -/
def openSession (ref : String) : Op Unit := Prog.perform (S := Engines) (.openSession ref)

/-- A call of the port that `engines.session(ref)` returned. -/
def portCall (ref : String) (call : SessionCall) : Op call.Ans :=
  Prog.perform (S := Engines) (.session ref call)

/-- `CERT_DIR`. -/
def certDir : String := "/certs"

def certificateFiles : List String := ["ca.pem", "cert.pem", "key.pem"]

/-- `DOCKER_OBJECT_NAME`: a letter or a digit, then at most 127 of these, dots, underscores, colons, at
    signs, slashes and hyphens. -/
def matchesObjectName (text : String) : Bool :=
  match text.toList with
  | [] => false
  | first :: rest =>
      isAlphanumeric first && rest.length ≤ 127 &&
        rest.all fun c => isAlphanumeric c || "._:@/-".toList.contains c

/-- `CONTAINER_PATH`: a slash, then at most 255 letters, digits, dots, underscores, hyphens and
    slashes. -/
def matchesContainerPath (text : String) : Bool :=
  match text.toList with
  | [] => false
  | first :: rest =>
      first == '/' && rest.length ≤ 255 &&
        rest.all fun c => isAlphanumeric c || "._-/".toList.contains c

def badRequest (message : String) : DockerError := .denied 400 "BAD_REQUEST" message

def objectName (value : Value) (field : String) : Except DockerError String :=
  let refused := badRequest ("'" ++ field ++ "' is not a valid Docker object name")
  match value with
  | .string text => if matchesObjectName text then .ok text else .error refused
  | _ => .error refused

/-- A coercion's failure is a `TypeError`. -/
def coerced {α : Type} : Except String α → Except DockerError α
  | .ok value => .ok value
  | .error message => .error (.thrown message)

/-- A sandbox's labels prove it this deployment's; its session is checked apart. -/
def refusalOf (runtimeOwner : String) (labels : Labels) : Option DockerError :=
  if labels.lookup managedLabel ≠ some "true" then
    some (.denied 403 "SANDBOX_NOT_MANAGED" "That container was not created by this platform.")
  else if labels.lookup runtimeOwnerLabel ≠ some runtimeOwner then
    some (.denied 403 "SANDBOX_NOT_OWNED" "That container belongs to a different runtime owner.")
  else if labels.lookup componentLabel ≠ some sandboxComponent then
    some (.denied 403 "SANDBOX_NOT_A_SANDBOX" "That container is not a Docker lab sandbox.")
  else if labels.lookup providerLabel ≠ some "docker" then
    some (.denied 403 "SANDBOX_WRONG_PROVIDER" "That container belongs to another provider.")
  else none

/-- What the reply tells of a container. -/
def Snapshot.toValue (snapshot : Snapshot) : Value :=
  .object ([("name", .string snapshot.name), ("image", .string snapshot.image),
    ("labels", .object (snapshot.labels.map fun label => (label.1, .string label.2)))] ++
    snapshot.details)

def ExecResult.toValue (result : ExecResult) : Value :=
  .object [("exitCode", .number (.finite result.exitCode)), ("stdout", .string result.stdout),
    ("stderr", .string result.stderr)]

def FileRead.toValue (file : FileRead) : Value :=
  .object [("contentBase64", .string (base64 file.content)),
    ("declaredSize", .number (.finite file.declaredSize)), ("truncated", .boolean file.truncated)]

namespace DockerOps

variable (ops : DockerOps)

/-- The sandbox name for a session id. Computed, never received. -/
def refFor (sessionId : Value) : Except DockerError String :=
  match assertValidSessionId sessionId with
  | .error _ => .error (.denied 400 "INVALID_SESSION_ID" "That is not a lab session id.")
  | .ok id =>
      coerced (deriveSandboxRef ops.createHmac id ops.derivationSecret containerSandboxPrefix
        defaultNamespaceSuffixChars)

/-- The loop-closer: the session a container carries must derive to the name it was found under. -/
def checkStamped (ref : String) (labels : Labels) : Except DockerError Unit := do
  let mismatch : DockerError :=
    .denied 403 "SANDBOX_SESSION_MISMATCH" "That container does not belong to this session."
  match labels.lookup sessionLabel with
  | none => .error mismatch
  | some stamped =>
      if stamped.isEmpty then .error mismatch
      else
        let derived ← ops.refFor (.string stamped)
        if derived = ref then .ok () else .error mismatch

/-- Resolve a session to its live sandbox, or refuse. -/
def ownedSandbox (sessionId : Value) : Op (String × Snapshot) := do
  let ref ← settle (ops.refFor sessionId)
  let _ ← settle (coerced (assertValidContainerSandboxRef ref))
  match ← hostCall (.inspectContainer ref) with
  | none => throw (.denied 404 "SANDBOX_NOT_FOUND" "This session has no Docker sandbox.")
  | some (snapshot : Snapshot) =>
      match refusalOf ops.runtimeOwner snapshot.labels with
      | some refused => throw refused
      | none =>
          settle (ops.checkStamped ref snapshot.labels)
          return (ref, snapshot)

/-- Remove a sandbox's data volume; a failure is reported, never thrown. -/
def removeDataVolume (volume : String) : Op Unit := do
  tryCatch (hostCall (.removeVolume volume true)) fun _ => pure ()

/-! ### Host operations -/

def hostVersion : Op Value := do
  let version ← hostCall .version
  return .object [("version", version)]

def createSandboxNetwork : Op Value := do
  hostCall (.createNetwork
    { name := ops.policy.network
      driver := some "bridge"
      labels := [(managedLabel, "true"), (runtimeOwnerLabel, ops.runtimeOwner)] })
  return .object [("network", .string ops.policy.network)]

def insecureRegistry : String := "http://"

/-- The arguments of the inner daemon. -/
def daemonArgs : List String :=
  ["--storage-driver", "overlay2"] ++
    if ops.policy.registryMirror.isEmpty then []
    else
      ["--registry-mirror", ops.policy.registryMirror] ++
        if insecureRegistry.toList.isPrefixOf ops.policy.registryMirror.toList then
          ["--insecure-registry",
            String.ofList (ops.policy.registryMirror.toList.drop insecureRegistry.toList.length)]
        else []

/-- The whole run spec of a sandbox, from the service's own configuration. -/
def sandboxSpec (ref : String) (labels : Labels) : RunContainerSpec where
  name := ref
  image := ops.policy.image
  detach := true
  hostname := ref
  network := ops.policy.network
  privileged := ops.policy.privileged
  restartPolicy := "on-failure:" ++ toString ops.policy.restartAttempts
  memory := ops.policy.memory
  memorySwap := ops.policy.memory
  cpus := ops.policy.cpus
  pidsLimit := ops.policy.pidsLimit
  env := [("DOCKER_TLS_CERTDIR", certDir)]
  volumes := [(dataVolume ref, "/var/lib/docker")]
  labels := labels
  args := ops.daemonArgs

/-- `Number(payload.expiresAtMs)`, positive and finite. -/
def expiryOf (value : Value) : Except DockerError Number := do
  let expiresAtMs ← coerced (value.toNumber ops.numbers)
  match expiresAtMs.toFinite with
  | none => .error (badRequest "'expiresAtMs' must be a positive number")
  | some instant =>
      if instant ≤ 0 then .error (badRequest "'expiresAtMs' must be a positive number")
      else .ok expiresAtMs

def createSandbox (payload : Payload) : Op Value := do
  let ref ← settle (ops.refFor (Value.field "sessionId" payload))
  let sessionId ← settle (coerced (assertValidSessionId (Value.field "sessionId" payload)))
  let labId ← settle (objectName (Value.field "labId" payload) "labId")
  let expiresAtMs ← settle (ops.expiryOf (Value.field "expiresAtMs" payload))
  let labels := ownershipLabels
    { sessionId := sessionId
      labId := labId
      expiresAtMs := some (ops.numbers.format expiresAtMs)
      component := some sandboxComponent
      provider := some "docker"
      runtimeOwner := some ops.runtimeOwner }
  let volume := dataVolume ref
  -- A create over an existing sandbox replaces it rather than failing.
  hostCall (.removeContainer ref true true)
  hostCall (.createVolume volume
    [(managedLabel, "true"), (sessionLabel, sessionId), (runtimeOwnerLabel, ops.runtimeOwner)])
  let _ ← tryCatch (hostCall (.runContainer (ops.sandboxSpec ref labels))) fun failure => do
    removeDataVolume volume
    throw failure
  return .object [("sandboxRef", .string ref), ("image", .string ops.policy.image),
    ("network", .string ops.policy.network), ("volume", .string volume)]

def inspectSandbox (payload : Payload) : Op Value :=
  tryCatch
    (do
      let (_, snapshot) ← ops.ownedSandbox (Value.field "sessionId" payload)
      return .object [("container", snapshot.toValue)])
    fun failure =>
      match failure with
      | .denied 404 _ _ => return .object [("container", .null)]
      | failure => throw failure

def removeSandbox (payload : Payload) : Op Value := do
  let ref ← settle (ops.refFor (Value.field "sessionId" payload))
  match ← hostCall (.inspectContainer ref) with
  | none => return .object [("removed", .boolean false)]
  | some (_ : Snapshot) =>
      -- Present, so it must prove itself ours before it can be destroyed.
      let _ ← ops.ownedSandbox (Value.field "sessionId" payload)
      hostCall (.removeContainer ref true true)
      removeDataVolume (dataVolume ref)
      return .object [("removed", .boolean true)]

/-- Is a listed container one of this deployment's sandboxes? -/
def isListed (container : Snapshot) : Bool :=
  isContainerSandboxRef container.name &&
    container.labels.lookup componentLabel == some sandboxComponent &&
    container.labels.lookup providerLabel == some "docker" &&
    container.labels.lookup runtimeOwnerLabel == some ops.runtimeOwner

def listManagedSandboxes : Op Value := do
  let (containers : List Snapshot) ← hostCall (.listContainers true managedSelector)
  return .object [("containers", .array ((containers.filter ops.isListed).map Snapshot.toValue))]

def readCertificate (payload : Payload) : Op Value := do
  let file ← settle (coerced ((Value.field "file" payload).toText ops.numbers))
  if !certificateFiles.contains file then
    throw (badRequest ("'" ++ file ++ "' is not a session certificate file (" ++
      String.intercalate ", " certificateFiles ++ ")"))
  let (ref, _) ← ops.ownedSandbox (Value.field "sessionId" payload)
  let (result : ExecResult) ←
    hostCall (.execInContainer ref ["cat", certDir ++ "/client/" ++ file] 15000)
  return result.toValue

def sandboxCliVersion (payload : Payload) : Op Value := do
  let (ref, _) ← ops.ownedSandbox (Value.field "sessionId" payload)
  let (result : ExecResult) ← hostCall (.execInContainer ref
    ["docker", "version", "--format", "\x7b\x7b.Client.Version\x7d\x7d"] 30000)
  return result.toValue

/-! ### Session operations -/

/-- `this.#engines.session(ref)`, and a call of the port it returned. -/
def callSession (ref : String) (call : SessionCall) : Op call.Ans := do
  openSession ref
  portCall ref call

/-- An operation that resolves the sandbox and makes one call of its daemon. -/
def sessionAsk (payload : Payload) (call : SessionCall) (reply : call.Ans → Value) : Op Value := do
  let (ref, _) ← ops.ownedSandbox (Value.field "sessionId" payload)
  let answer ← callSession ref call
  return reply answer

/-- One that also takes a name from a field of the payload. -/
def sessionNamed (payload : Payload) (field : String) (call : String → SessionCall)
    (reply : (name : String) → (call name).Ans → Value) : Op Value := do
  let (ref, _) ← ops.ownedSandbox (Value.field "sessionId" payload)
  let name ← settle (objectName (Value.field field payload) field)
  let answer ← callSession ref (call name)
  return reply name answer

/-- A reply with one field. -/
def replyOf (field : String) (value : Value) : Value := .object [(field, value)]

/-- A reply that repeats the name that was given. -/
def replyName (field name : String) : Value := .object [(field, .string name)]

def sessionVersion (payload : Payload) : Op Value :=
  ops.sessionAsk payload .version (replyOf "version")

def sessionInspectContainer (payload : Payload) : Op Value :=
  ops.sessionNamed payload "name" .inspectContainer fun _ => replyOf "container"

def sessionInspectImage (payload : Payload) : Op Value :=
  ops.sessionNamed payload "reference" .inspectImage fun _ => replyOf "image"

def sessionInspectVolume (payload : Payload) : Op Value :=
  ops.sessionNamed payload "name" .inspectVolume fun _ => replyOf "volume"

def sessionInspectNetwork (payload : Payload) : Op Value :=
  ops.sessionNamed payload "name" .inspectNetwork fun _ => replyOf "network"

def sessionListContainers (payload : Payload) : Op Value :=
  ops.sessionAsk payload (.listContainers (Value.field "all" payload).isTrue) (replyOf "containers")

def sessionListImages (payload : Payload) : Op Value :=
  ops.sessionAsk payload .listImages (replyOf "images")

def sessionListVolumes (payload : Payload) : Op Value :=
  ops.sessionAsk payload .listVolumes (replyOf "volumes")

def sessionListNetworks (payload : Payload) : Op Value :=
  ops.sessionAsk payload .listNetworks (replyOf "networks")

def sessionPullImage (payload : Payload) : Op Value :=
  ops.sessionNamed payload "reference" .pullImage fun reference _ => replyName "pulled" reference

/-- The fields a container is run with inside a sandbox: those that arrived, with the name and the image
    that were checked, and `privileged` forced off. -/
def innerSpec (spec : Value) (name image : String) : List (String × Value) :=
  Keyed.put Prod.fst ("privileged", .boolean false)
    (Keyed.put Prod.fst ("image", .string image)
      (Keyed.put Prod.fst ("name", .string name) spec.entries))

/-- `typeof value === 'object'`, of what is not `null`. -/
def isObject : Value → Bool
  | .object _ | .array _ => true
  | _ => false

/-- The port is there before the names are checked. -/
def sessionRunContainer (payload : Payload) : Op Value := do
  let (ref, _) ← ops.ownedSandbox (Value.field "sessionId" payload)
  let spec := Value.field "spec" payload
  if !isObject spec then throw (badRequest "'spec' must be an object")
  openSession ref
  let name ← settle (objectName (spec.property "name") "spec.name")
  let image ← settle (objectName (spec.property "image") "spec.image")
  let (id : String) ← portCall ref (.runContainer (innerSpec spec name image))
  return .object [("id", .string id)]

def sessionStopContainer (payload : Payload) : Op Value := do
  let (ref, _) ← ops.ownedSandbox (Value.field "sessionId" payload)
  let name ← settle (objectName (Value.field "name" payload) "name")
  let timeout ← settle (coerced ((Value.field "timeoutSeconds" payload).toNumber ops.numbers))
  callSession ref (.stopContainer name (timeout.toFinite.filter fun seconds => decide (0 ≤ seconds)))
  return replyName "stopped" name

def sessionRemoveContainer (payload : Payload) : Op Value :=
  ops.sessionNamed payload "name"
    (fun name => .removeContainer name (Value.field "force" payload).isTrue
      (Value.field "volumes" payload).isTrue)
    fun name _ => replyName "removed" name

/-- The driver of a network, when a text arrived for it. -/
def driverOf : Value → Except DockerError (Option String)
  | .string text => (objectName (.string text) "spec.driver").map some
  | _ => .ok none

/-- Here too the port is there before the driver is checked. -/
def sessionCreateNetwork (payload : Payload) : Op Value := do
  let (ref, _) ← ops.ownedSandbox (Value.field "sessionId" payload)
  let spec := Value.field "spec" payload
  let name ← settle (objectName (spec.property "name") "spec.name")
  openSession ref
  let driver ← settle (driverOf (spec.property "driver"))
  portCall ref (.createNetwork
    { name := name, driver := driver, internal := (spec.property "internal").isTrue })
  return replyName "created" name

def sessionCreateVolume (payload : Payload) : Op Value :=
  ops.sessionNamed payload "name" .createVolume fun name _ => replyName "created" name

def sessionRemoveNetwork (payload : Payload) : Op Value :=
  ops.sessionNamed payload "name" .removeNetwork fun name _ => replyName "removed" name

def sessionRemoveVolume (payload : Payload) : Op Value :=
  ops.sessionNamed payload "name" (fun name => .removeVolume name (Value.field "force" payload).isTrue)
    fun name _ => replyName "removed" name

def sessionRemoveImage (payload : Payload) : Op Value :=
  ops.sessionNamed payload "reference"
    (fun reference => .removeImage reference (Value.field "force" payload).isTrue)
    fun reference _ => replyName "removed" reference

def sessionCopyFile (payload : Payload) : Op Value := do
  let (ref, _) ← ops.ownedSandbox (Value.field "sessionId" payload)
  let container ← settle (objectName (Value.field "container" payload) "container")
  let path ← settle (coerced ((Value.field "path" payload).toText ops.numbers))
  if !matchesContainerPath path then
    throw (badRequest ("'" ++ path ++ "' is not a valid container path"))
  let maxBytes ← settle (coerced ((Value.field "maxBytes" payload).toNumber ops.numbers))
  let (file : Option FileRead) ← callSession ref
    (.copyFileFromContainer container path (maxBytes.toFinite.filter fun bytes => decide (0 < bytes)))
  match file with
  | none => return .object [("file", .null)]
  | some file => return .object [("file", file.toValue)]

end DockerOps

/-! ### Dispatch -/

/-- `DockerOperation`. -/
inductive DockerOperation where
  | hostVersion
  | createSandboxNetwork
  | createSandbox
  | inspectSandbox
  | removeSandbox
  | listManagedSandboxes
  | readCertificate
  | sandboxCliVersion
  | sessionVersion
  | sessionInspectContainer
  | sessionInspectImage
  | sessionInspectVolume
  | sessionInspectNetwork
  | sessionCopyFile
  | sessionListContainers
  | sessionListImages
  | sessionListVolumes
  | sessionListNetworks
  | sessionPullImage
  | sessionRunContainer
  | sessionStopContainer
  | sessionRemoveContainer
  | sessionCreateNetwork
  | sessionCreateVolume
  | sessionRemoveNetwork
  | sessionRemoveVolume
  | sessionRemoveImage
deriving DecidableEq, Inhabited

namespace DockerOperation

/-- The word on the wire. -/
def word : DockerOperation → String
  | .hostVersion => "hostVersion"
  | .createSandboxNetwork => "createSandboxNetwork"
  | .createSandbox => "createSandbox"
  | .inspectSandbox => "inspectSandbox"
  | .removeSandbox => "removeSandbox"
  | .listManagedSandboxes => "listManagedSandboxes"
  | .readCertificate => "readCertificate"
  | .sandboxCliVersion => "sandboxCliVersion"
  | .sessionVersion => "sessionVersion"
  | .sessionInspectContainer => "sessionInspectContainer"
  | .sessionInspectImage => "sessionInspectImage"
  | .sessionInspectVolume => "sessionInspectVolume"
  | .sessionInspectNetwork => "sessionInspectNetwork"
  | .sessionCopyFile => "sessionCopyFile"
  | .sessionListContainers => "sessionListContainers"
  | .sessionListImages => "sessionListImages"
  | .sessionListVolumes => "sessionListVolumes"
  | .sessionListNetworks => "sessionListNetworks"
  | .sessionPullImage => "sessionPullImage"
  | .sessionRunContainer => "sessionRunContainer"
  | .sessionStopContainer => "sessionStopContainer"
  | .sessionRemoveContainer => "sessionRemoveContainer"
  | .sessionCreateNetwork => "sessionCreateNetwork"
  | .sessionCreateVolume => "sessionCreateVolume"
  | .sessionRemoveNetwork => "sessionRemoveNetwork"
  | .sessionRemoveVolume => "sessionRemoveVolume"
  | .sessionRemoveImage => "sessionRemoveImage"

/-- `DOCKER_OPERATIONS`: the closed list. -/
def all : List DockerOperation :=
  [.hostVersion, .createSandboxNetwork, .createSandbox, .inspectSandbox, .removeSandbox,
    .listManagedSandboxes, .readCertificate, .sandboxCliVersion, .sessionVersion,
    .sessionInspectContainer, .sessionInspectImage, .sessionInspectVolume, .sessionInspectNetwork,
    .sessionCopyFile, .sessionListContainers, .sessionListImages, .sessionListVolumes,
    .sessionListNetworks, .sessionPullImage, .sessionRunContainer, .sessionStopContainer,
    .sessionRemoveContainer, .sessionCreateNetwork, .sessionCreateVolume, .sessionRemoveNetwork,
    .sessionRemoveVolume, .sessionRemoveImage]

def ofWord (op : String) : Option DockerOperation := all.find? fun operation => operation.word == op

end DockerOperation

namespace DockerOps

variable (ops : DockerOps)

/-- One operation of the closed list. -/
def perform (payload : Payload) : DockerOperation → Op Value
  | .hostVersion => hostVersion
  | .createSandboxNetwork => ops.createSandboxNetwork
  | .createSandbox => ops.createSandbox payload
  | .inspectSandbox => ops.inspectSandbox payload
  | .removeSandbox => ops.removeSandbox payload
  | .listManagedSandboxes => ops.listManagedSandboxes
  | .readCertificate => ops.readCertificate payload
  | .sandboxCliVersion => ops.sandboxCliVersion payload
  | .sessionVersion => ops.sessionVersion payload
  | .sessionInspectContainer => ops.sessionInspectContainer payload
  | .sessionInspectImage => ops.sessionInspectImage payload
  | .sessionInspectVolume => ops.sessionInspectVolume payload
  | .sessionInspectNetwork => ops.sessionInspectNetwork payload
  | .sessionCopyFile => ops.sessionCopyFile payload
  | .sessionListContainers => ops.sessionListContainers payload
  | .sessionListImages => ops.sessionListImages payload
  | .sessionListVolumes => ops.sessionListVolumes payload
  | .sessionListNetworks => ops.sessionListNetworks payload
  | .sessionPullImage => ops.sessionPullImage payload
  | .sessionRunContainer => ops.sessionRunContainer payload
  | .sessionStopContainer => ops.sessionStopContainer payload
  | .sessionRemoveContainer => ops.sessionRemoveContainer payload
  | .sessionCreateNetwork => ops.sessionCreateNetwork payload
  | .sessionCreateVolume => ops.sessionCreateVolume payload
  | .sessionRemoveNetwork => ops.sessionRemoveNetwork payload
  | .sessionRemoveVolume => ops.sessionRemoveVolume payload
  | .sessionRemoveImage => ops.sessionRemoveImage payload

/-- Dispatch one operation. -/
def run (op : String) (payload : Payload) : Op Value :=
  match DockerOperation.ofWord op with
  | none =>
      throw (.denied 400 "UNKNOWN_OPERATION"
        ("'" ++ op ++ "' is not a Docker operation this broker offers"))
  | some operation => ops.perform payload operation

end DockerOps

/-- The service, call by call, over given daemons. -/
abbrev dockerOps {Inside : Type} (ops : DockerOps) (daemons : Daemons Inside) :
    Object (String × Payload) (Except DockerError Value) where
  State := World Inside
  step := fun world call => (ops.run call.1 call.2).run daemons.engine world

end JumptotechLabs.Sandboxd
