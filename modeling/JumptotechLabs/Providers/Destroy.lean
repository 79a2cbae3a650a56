/-
Module: JumptotechLabs.Providers.Destroy
Layer: Providers (services/lab-orchestrator/src/providers/{container/sandbox-provider,ansible-provider,docker-provider,
  kind-provider,aws-provider}.ts, providers/container/runtime.ts, k8s/labels.ts)
Purpose: How each provider deletes a sandbox: programs over the calls to a container runtime, a Docker engine or a
  cluster, any of which may fail; and a session's teardown with its provider's program in place of its `destroy`.
Main exports: SubstrateCall, ProviderM, DockerCliRuntime.inspect, destroySandbox, AnsibleLabProvider.destroy,
  DockerLabProvider.destroy, KindLabProvider.destroy, destroyOfProvider
-/
import JumptotechLabs.Core.Handler
import JumptotechLabs.Core.Utf16
import JumptotechLabs.Session.Identifiers
import JumptotechLabs.Session.Labels
import JumptotechLabs.Session.Manager

namespace JumptotechLabs.Providers

open JumptotechLabs.Core
open JumptotechLabs.Core.Prog (attempt settle)
open JumptotechLabs.Session (Cmd DestroyResult Failure Instant LabError LabErrorCode LabProviderId
  Labels ProvisionStep SessionTeardownContext assertValidContainerSandboxRef assertValidLabNamespace
  describeError isContainerSandboxRef isProtectedNamespace managedLabel sessionLabel providerLabel
  runtimeOwnerLabel componentLabel sandboxComponent)

/-! ### The calls -/

/-- What a container runtime tells of a container. -/
structure ContainerInfo where
  name : String
  id : Utf16
  state : Utf16
  image : Utf16
  labels : Labels
deriving DecidableEq

/-- One awaited call of a provider. -/
inductive SubstrateCall where
  -- `ContainerRuntime`
  | inspect (name : String)
  | remove (name : String)
  | networkInspect (name : String)
  | networkRemove (name : String)
  -- the Kubernetes client; of a namespace its labels
  | getNamespace (name : String)
  | deleteNamespace (name : String)
  -- the host's Docker engine and the workspaces of the Docker track; of a container its labels
  | inspectContainer (name : String)
  | removeContainer (name : String)
  | removeVolume (name : String)
  | destroyWorkspace (sessionId : String)
  | now
  | sleep (milliseconds : Nat)
deriving DecidableEq

@[reducible] def SubstrateCall.Ans : SubstrateCall → Type
  | .inspect _ => Option ContainerInfo
  | .networkInspect _ | .getNamespace _ | .inspectContainer _ => Option Labels
  | .remove _ | .networkRemove _ | .deleteNamespace _ | .removeContainer _ | .removeVolume _ => Unit
  | .destroyWorkspace _ | .sleep _ => Unit
  | .now => Instant

/-- What a teardown awaits: the commands of the session layer, and the calls of its provider. -/
@[reducible] def teardownSignature : Signature := ⟨Cmd ⊕ SubstrateCall, Sum.elim Cmd.Ans SubstrateCall.Ans⟩

abbrev ProviderM (α : Type) := Prog teardownSignature Failure α

/-- Await one call. -/
def substrate (call : SubstrateCall) : ProviderM call.Ans := Prog.perform (S := teardownSignature) (.inr call)

/-! ### The runtime's `inspect` -/

/-- How a `docker` command ended. -/
structure CommandResult where
  exitCode : Int
  stdout : Utf16
  stderr : Utf16
  timedOut : Bool
deriving DecidableEq

/-- An upper-case letter as its lower-case one. -/
def foldCase (unit : UInt16) : UInt16 := if 65 ≤ unit ∧ unit ≤ 90 then unit + 32 else unit

/-- `/no such (container|object)/i`. -/
def saysNoSuch (stderr : Utf16) : Bool :=
  decide (units "no such container" <:+: stderr.map foldCase ∨ units "no such object" <:+: stderr.map foldCase)

/-- The text, or what stands in for an empty one. -/
def orElseText (text fallback : Utf16) : Utf16 := if text = [] then fallback else text

/-- `DockerCliRuntime.inspect`, of what its command ended with: a command that timed out, or that failed without
    saying that there is no such container, is no answer. -/
def DockerCliRuntime.inspect (parseLabelsJson : Option Utf16 → Labels) (name : String) (result : CommandResult) :
    Except Utf16 (Option ContainerInfo) :=
  if result.timedOut = true then .error (units "docker inspect of " ++ units name ++ units " did not answer in time")
  else if result.exitCode ≠ 0 then
    if saysNoSuch result.stderr then .ok none
    else
      .error (orElseText result.stderr.trim
        (units "docker inspect exited with code " ++ units (toString result.exitCode)))
  else
    let fields := result.stdout.trim.splitOn 9
    let id := fields.head?.getD []
    if id = [] then .ok none
    else .ok (some ⟨name, id, fields[1]?.getD (units "unknown"), fields[2]?.getD [], parseLabelsJson fields[3]?⟩)

/-- Absence is what Docker says, or what a read that came to its end found: never a read that failed or timed out. -/
theorem DockerCliRuntime.inspect_eq_none_iff (parseLabelsJson : Option Utf16 → Labels) (name : String)
    (result : CommandResult) :
    DockerCliRuntime.inspect parseLabelsJson name result = .ok none ↔
      result.timedOut = false ∧
        (result.exitCode ≠ 0 ∧ saysNoSuch result.stderr = true ∨
          result.exitCode = 0 ∧ (result.stdout.trim.splitOn 9).head?.getD [] = []) := by
  unfold DockerCliRuntime.inspect
  cases late : result.timedOut with
  | true => simp
  | false =>
      by_cases failed : result.exitCode ≠ 0
      · cases noSuch : saysNoSuch result.stderr <;> simp [failed]
      · have ended : result.exitCode = 0 := not_not.mp failed
        by_cases nothing : (result.stdout.trim.splitOn 9).head?.getD [] = [] <;> simp [ended, nothing]

/-! ### Whose sandbox it is -/

/-- Whether a delete may proceed as far as the runtime owner is concerned. -/
def runtimeOwnerPermits (labels : Labels) (runtimeOwner : String) (expectedSessionId : Option String) : Bool :=
  match labels.lookup runtimeOwnerLabel with
  | none => expectedSessionId.isSome
  | some stamped => stamped = runtimeOwner

/-- Why `runtimeOwnerPermits` said no. -/
def runtimeOwnerRefusal (resource : String) (labels : Labels) (runtimeOwner : String) : String :=
  match labels.lookup runtimeOwnerLabel with
  | none => resource ++ " carries no " ++ runtimeOwnerLabel ++ " label, and no session was named to vouch for it"
  | some stamped => resource ++ " belongs to runtime owner '" ++ stamped ++ "', not '" ++ runtimeOwner ++ "'"

/-- `assertDeletable`: why the object may not be deleted, if it may not. -/
def assertDeletable (name : String) (labels : Labels) (expectedSessionId : Option String) : Option String :=
  if isProtectedNamespace name then some ("'" ++ name ++ "' is a protected cluster namespace")
  else if labels.lookup managedLabel ≠ some "true" then
    some ("namespace '" ++ name ++ "' is not labelled " ++ managedLabel ++ "=true")
  else
    match expectedSessionId with
    | none => none
    | some expected =>
        if labels.lookup sessionLabel ≠ some expected then
          some ("namespace '" ++ name ++ "' belongs to " ++ (labels.lookup sessionLabel).getD "<unlabelled>" ++
            ", not " ++ expected)
        else none

/-- `#assertOwned`: managed, this provider's, this runtime's, then this session's. -/
def assertOwned (provider : LabProviderId) (runtimeOwner ref : String) (labels : Labels)
    (expectedSessionId : Option String) : Option String :=
  let owningProvider := (labels.lookup providerLabel).getD provider.text
  if labels.lookup managedLabel ≠ some "true" then
    some ("container '" ++ ref ++ "' is not labelled " ++ managedLabel ++ "=true")
  else if owningProvider ≠ provider.text then
    some ("container '" ++ ref ++ "' belongs to the '" ++ owningProvider ++ "' provider, not '" ++ provider.text ++ "'")
  else if runtimeOwnerPermits labels runtimeOwner expectedSessionId = false then
    some (runtimeOwnerRefusal ("container '" ++ ref ++ "'") labels runtimeOwner)
  else
    match expectedSessionId with
    | none => none
    | some expected =>
        if labels.lookup sessionLabel ≠ some expected then
          some ("container '" ++ ref ++ "' belongs to " ++ (labels.lookup sessionLabel).getD "<unlabelled>" ++
            ", not " ++ expected)
        else none

/-- Both are there, neither is empty, and they differ. -/
def otherSession (labels : Labels) (expectedSessionId : Option String) : Bool :=
  match expectedSessionId, labels.lookup sessionLabel with
  | some expected, some owner => expected ≠ "" ∧ owner ≠ "" ∧ owner ≠ expected
  | _, _ => false

/-- The gate of what stands around a sandbox: its peer and its network. -/
def refusalBeside (runtimeOwner ref : String) (labels : Labels) (expectedSessionId : Option String) : Option String :=
  if labels.lookup managedLabel ≠ some "true" then some (ref ++ " is not managed by JumpToTech — left alone")
  else if otherSession labels expectedSessionId then some (ref ++ " belongs to another session — left alone")
  else if runtimeOwnerPermits labels runtimeOwner expectedSessionId = false then
    some (runtimeOwnerRefusal ref labels runtimeOwner ++ " — left alone")
  else none

/-! ### Names derived from a sandbox's -/

/-- What stands behind `jtt-lab-`. -/
def sandboxSuffix (sandboxRef : String) : String :=
  String.ofList (sandboxRef.toList.drop Session.containerSandboxPrefix.toList.length)

def networkRefForSandbox (sandboxRef : String) : String := "jtt-net-" ++ sandboxSuffix sandboxRef

def isContainerNetworkRef (text : String) : Bool := hexAfter "jtt-net-" 6 40 text

def peerRefForSandbox (sandboxRef : String) : String := "jtt-peer-" ++ sandboxSuffix sandboxRef

def nodeRefForSandbox (sandboxRef : String) (index : Nat) : String :=
  "jtt-node" ++ toString index ++ "-" ++ sandboxSuffix sandboxRef

/-! ### Results -/

def okStep (id label : String) (detail : Option String) : ProvisionStep := ⟨id, label, "ok", detail⟩

def failedStep (id label detail : String) : ProvisionStep := ⟨id, label, "failed", some detail⟩

def pendingStep (id label detail : String) : ProvisionStep := ⟨id, label, "pending", some detail⟩

/-- A delete that failed with what was thrown. -/
def failedDestroy (codeOf : Failure → LabErrorCode) (steps : List ProvisionStep) (failure : Failure) : DestroyResult :=
  ⟨false, false, steps, some ⟨codeOf failure, describeError failure, none⟩⟩

/-- A refused delete is not an error the caller retries. -/
def refusedDestroy (label message remediation : String) : DestroyResult :=
  ⟨false, false, [failedStep "verify-managed" label message], some ⟨.destroyFailed, message, some remediation⟩⟩

/-! ### The container providers -/

/-- What a provider is constructed with. `codeOf` is `#toLabError`: the code for what was thrown. -/
structure Deployment where
  runtimeOwner : String
  destroyTimeoutMs : Nat
  codeOf : Failure → LabErrorCode

variable (deployment : Deployment)

/-- `#removePeer`. -/
def removePeer (peerRef : String) (expectedSessionId : Option String) : ProviderM (List ProvisionStep) := do
  match ← attempt (substrate (.inspect peerRef)) with
  | .error _ => pure []
  | .ok none => pure []
  | .ok (some info) =>
      match refusalBeside deployment.runtimeOwner peerRef info.labels expectedSessionId with
      | some refusal => pure [failedStep "delete-peer" "Peer host deleted" refusal]
      | none =>
          match ← attempt (substrate (.remove peerRef)) with
          | .ok _ => pure [okStep "delete-peer" "Peer host deleted" (some peerRef)]
          | .error failure => pure [failedStep "delete-peer" "Peer host deleted" (describeError failure)]

/-- `#removeLabNetwork`. -/
def removeLabNetwork (networkRef : String) (expectedSessionId : Option String) : ProviderM (List ProvisionStep) :=
  if isContainerNetworkRef networkRef = false then
    pure [failedStep "delete-network" "Lab network deleted"
      ("'" ++ networkRef ++ "' is not a JumpToTech lab network name")]
  else do
    match ← attempt (substrate (.networkInspect networkRef)) with
    | .error failure => pure [failedStep "delete-network" "Lab network deleted" (describeError failure)]
    | .ok none => pure [okStep "delete-network" "Lab network deleted" (some "already absent")]
    | .ok (some labels) =>
        match refusalBeside deployment.runtimeOwner networkRef labels expectedSessionId with
        | some refusal => pure [failedStep "delete-network" "Lab network deleted" refusal]
        | none =>
            match ← attempt (substrate (.networkRemove networkRef)) with
            | .ok _ => pure [okStep "delete-network" "Lab network deleted" (some networkRef)]
            | .error failure => pure [failedStep "delete-network" "Lab network deleted" (describeError failure)]

/-- The peer, then the network. -/
def removeBeside (sandboxRef : String) (expectedSessionId : Option String) : ProviderM (List ProvisionStep) := do
  let peer ← removePeer deployment (peerRefForSandbox sandboxRef) expectedSessionId
  let network ← removeLabNetwork deployment (networkRefForSandbox sandboxRef) expectedSessionId
  pure (peer ++ network)

/-- `ContainerLabProvider.destroySandbox`: delete one sandbox container, and confirm it is gone. -/
def destroySandbox (provider : LabProviderId) (sandboxRef : String) (expectedSessionId : Option String) :
    ProviderM DestroyResult :=
  let verified := okStep "verify-managed" "Sandbox ownership verified" none
  let refuse (reason : String) : DestroyResult :=
    refusedDestroy "Sandbox ownership verified" ("Refusing to delete sandbox: " ++ reason)
      ("Cleanup only ever removes sandboxes this platform created and labelled. " ++
        "Remove other containers by hand.")
  if isContainerSandboxRef sandboxRef = false then
    pure (refuse ("'" ++ sandboxRef ++ "' is not a JumpToTech sandbox container name"))
  else do
    match ← attempt (substrate (.inspect sandboxRef)) with
    | .error failure =>
        pure (failedDestroy deployment.codeOf
          [failedStep "verify-managed" "Sandbox ownership verified" (describeError failure)] failure)
    | .ok none =>
        let beside ← removeBeside deployment sandboxRef expectedSessionId
        pure ⟨true, true, okStep "delete-sandbox" "Sandbox deleted" (some "already absent") :: beside, none⟩
    | .ok (some info) =>
        match assertOwned provider deployment.runtimeOwner sandboxRef info.labels expectedSessionId with
        | some reason => pure (refuse reason)
        | none =>
            match ← attempt (substrate (.remove sandboxRef)) with
            | .error failure =>
                pure (failedDestroy deployment.codeOf
                  [verified, failedStep "delete-sandbox" "Sandbox deleted" (describeError failure)] failure)
            | .ok _ =>
                -- `.catch(() => null)`: a read that fails here is taken for absence.
                have gone :=
                  match ← attempt (substrate (.inspect sandboxRef)) with
                  | .ok (some _) => false
                  | .ok none | .error _ => true
                let beside ← removeBeside deployment sandboxRef expectedSessionId
                let message := sandboxRef ++ " is still shutting down"
                pure
                  { ok := true
                    namespaceGone := gone
                    steps := [verified, if gone then okStep "delete-sandbox" "Sandbox deleted" (some sandboxRef)
                      else pendingStep "delete-sandbox" "Sandbox deleted" message] ++ beside
                    error := if gone then none else some ⟨.destroyFailed, message, none⟩ }

/-- `ContainerLabProvider.destroy`. -/
def ContainerLabProvider.destroy (provider : LabProviderId) (context : SessionTeardownContext) :
    ProviderM DestroyResult :=
  match assertValidContainerSandboxRef context.sandboxRef with
  | .error message => throw (.error message)
  | .ok sandboxRef => destroySandbox deployment provider sandboxRef (some context.sessionId)

/-- `removeOwnedContainer`. -/
def removeOwnedContainer (ref : String) (expectedSessionId : Option String) : ProviderM Bool := do
  match ← attempt (substrate (.inspect ref)) with
  | .error _ => pure false
  | .ok none => pure true
  | .ok (some info) =>
      if (refusalBeside deployment.runtimeOwner ref info.labels expectedSessionId).isSome then pure false
      else
        match ← attempt (substrate (.remove ref)) with
        | .ok _ => pure true
        | .error _ => pure false

/-- `ANSIBLE_MANAGED_NODE_COUNT`. -/
def ansibleManagedNodeCount : Nat := 2

/-- `AnsibleLabProvider.destroy`: the managed nodes, then the rest. -/
def AnsibleLabProvider.destroy (context : SessionTeardownContext) : ProviderM DestroyResult :=
  match assertValidContainerSandboxRef context.sandboxRef with
  | .error message => throw (.error message)
  | .ok sandboxRef => do
      let _ ← (List.range' 1 ansibleManagedNodeCount).foldlM
        (fun _ index => removeOwnedContainer deployment (nodeRefForSandbox sandboxRef index) (some context.sessionId)) true
      ContainerLabProvider.destroy deployment .ansible context

/-! ### The providers that wait -/

/-- How a provider names what it deletes. -/
structure Words where
  verified : String
  deleteId : String
  deleted : String
  /-- Behind `Refusing to delete`. -/
  kind : String
  remediation : String
  /-- The error of a sandbox that is still there. -/
  pending : String → String

/-- `#waitForNamespaceGone`, `#waitForSandboxGone`: read until the sandbox is gone or the deadline has passed. There
    is no answer where the rounds do not suffice. -/
def waitForGone (read : ProviderM (Option Labels)) (deadline : Instant) : Nat → ProviderM (Option Bool)
  | 0 => pure none
  | rounds + 1 => do
      match ← read with
      | none => pure (some true)
      | some _ =>
          let now ← substrate .now
          if deadline ≤ now then pure (some false)
          else do
            let _ ← substrate (.sleep 500)
            waitForGone read deadline rounds

/-- Read, check, delete, wait: what `destroyNamespace` and the Docker provider's `destroySandbox` have in common. -/
def destroyAndWait (words : Words) (rounds : Nat) (name : String) (refusal : Option String)
    (read : ProviderM (Option Labels)) (gate : Labels → Option String) (delete cleanUp : ProviderM Unit) :
    ProviderM DestroyResult :=
  let verified := okStep "verify-managed" words.verified none
  let refuse (reason : String) : DestroyResult :=
    refusedDestroy words.verified ("Refusing to delete " ++ words.kind ++ ": " ++ reason) words.remediation
  match refusal with
  | some reason => pure (refuse reason)
  | none => do
      match ← attempt read with
      | .error failure =>
          pure (failedDestroy deployment.codeOf
            [failedStep "verify-managed" words.verified (describeError failure)] failure)
      | .ok none =>
          let _ ← cleanUp
          pure ⟨true, true, [okStep words.deleteId words.deleted (some "already absent")], none⟩
      | .ok (some labels) =>
          match gate labels with
          | some reason => pure (refuse reason)
          | none =>
              match ← attempt delete with
              | .error failure =>
                  pure (failedDestroy deployment.codeOf
                    [verified, failedStep words.deleteId words.deleted (describeError failure)] failure)
              | .ok _ =>
                  let now ← substrate .now
                  match ← waitForGone read (now + deployment.destroyTimeoutMs) rounds with
                  | none => throw (.error "still waiting")
                  | some true =>
                      let _ ← cleanUp
                      pure ⟨true, true, [verified, okStep words.deleteId words.deleted (some name)], none⟩
                  | some false =>
                      pure
                        { ok := true
                          namespaceGone := false
                          steps := [verified, pendingStep words.deleteId words.deleted (name ++ " is still terminating")]
                          error := some ⟨.destroyFailed, words.pending name, none⟩ }

def kindWords : Words where
  verified := "Namespace ownership verified"
  deleteId := "delete-namespace"
  deleted := "Namespace deleted"
  kind := "namespace"
  remediation := "Cleanup only ever removes namespaces this platform created and labelled. " ++
    "Remove other namespaces by hand."
  pending := fun name => "namespace " ++ name ++ " is still terminating"

/-- The gates behind the read of a namespace. -/
def namespaceRefusal (name : String) (expectedSessionId : Option String) (labels : Labels) : Option String :=
  match assertDeletable name labels expectedSessionId with
  | some reason => some reason
  | none =>
      if runtimeOwnerPermits labels deployment.runtimeOwner expectedSessionId then none
      else some (runtimeOwnerRefusal ("namespace '" ++ name ++ "'") labels deployment.runtimeOwner)

/-- `KindLabProvider.destroyNamespace`. -/
def destroyNamespace (rounds : Nat) (name : String) (expectedSessionId : Option String) : ProviderM DestroyResult :=
  destroyAndWait deployment kindWords rounds name
    (match assertValidLabNamespace name Session.namespacePrefix with
      | .ok _ => none
      | .error _ => some ("'" ++ name ++ "' is not a JumpToTech lab sandbox name"))
    (substrate (.getNamespace name)) (namespaceRefusal deployment name expectedSessionId)
    (substrate (.deleteNamespace name)) (pure ())

/-- `KindLabProvider.destroy`. -/
def KindLabProvider.destroy (rounds : Nat) (context : SessionTeardownContext) : ProviderM DestroyResult :=
  destroyNamespace deployment rounds context.namespaceName (some context.sessionId)

def dockerWords : Words where
  verified := "Sandbox ownership verified"
  deleteId := "delete-sandbox"
  deleted := "Sandbox deleted"
  kind := "sandbox"
  remediation := "Cleanup only ever removes containers this platform created and labelled. " ++
    "Remove other containers by hand."
  pending := fun name => "sandbox " ++ name ++ " is still present"

/-- The gates behind the read of a container of the Docker track. -/
def dockerRefusal (name : String) (expectedSessionId : Option String) (labels : Labels) : Option String :=
  match assertDeletable name labels expectedSessionId with
  | some reason => some reason
  | none =>
      if labels.lookup componentLabel ≠ some sandboxComponent then
        some ("container '" ++ name ++ "' is labelled " ++ componentLabel ++ "='" ++
          (labels.lookup componentLabel).getD "<unset>" ++ "', not '" ++ sandboxComponent ++ "'")
      else if runtimeOwnerPermits labels deployment.runtimeOwner expectedSessionId then none
      else some (runtimeOwnerRefusal ("container '" ++ name ++ "'") labels deployment.runtimeOwner)

/-- A call whose failure is swallowed. -/
def bestEffort (call : ProviderM Unit) : ProviderM Unit := tryCatch call fun _ => pure ()

/-- `DockerLabProvider.destroySandbox`. -/
def DockerLabProvider.destroySandbox (rounds : Nat) (name : String) (expectedSessionId : Option String) :
    ProviderM DestroyResult :=
  destroyAndWait deployment dockerWords rounds name
    (if isContainerSandboxRef name then none else some ("'" ++ name ++ "' is not a JumpToTech lab sandbox name"))
    (substrate (.inspectContainer name)) (dockerRefusal deployment name expectedSessionId)
    (substrate (.removeContainer name)) (bestEffort (substrate (.removeVolume (name ++ "-data"))))

/-- `DockerLabProvider.destroy`: the workspace dies with the session. -/
def DockerLabProvider.destroy (rounds : Nat) (context : SessionTeardownContext) : ProviderM DestroyResult := do
  bestEffort (substrate (.destroyWorkspace context.sessionId))
  DockerLabProvider.destroySandbox deployment rounds context.sandboxRef (some context.sessionId)

/-- `AwsLabProvider.destroy`: nothing was created. -/
def AwsLabProvider.destroy : ProviderM DestroyResult :=
  pure ⟨true, true, [okStep "aws-session" "AWS session released" (some "nothing was created")], none⟩

/-! ### A teardown with its provider -/

/-- The `destroy` of each provider. -/
def destroyOfProvider (rounds : Nat) (context : SessionTeardownContext) : LabProviderId → ProviderM DestroyResult
  | .kubernetes => KindLabProvider.destroy deployment rounds context
  | .docker => DockerLabProvider.destroy deployment rounds context
  | .ansible => AnsibleLabProvider.destroy deployment context
  | .aws => AwsLabProvider.destroy
  | .linux => ContainerLabProvider.destroy deployment .linux context
  | .terraform => ContainerLabProvider.destroy deployment .terraform context
  | .cicd => ContainerLabProvider.destroy deployment .cicd context

/-- A `destroy` is carried out by the provider; every other command is asked as it is. -/
def carriedOut (rounds : Nat) : (command : Cmd) → ProviderM command.Ans
  | .destroy provider context => destroyOfProvider deployment rounds context provider
  | command => Prog.perform (S := teardownSignature) (.inl command)

/-- A program of the session layer with its providers. -/
def carried {α : Type} (rounds : Nat) (body : Session.SessionM α) : ProviderM α :=
  Prog.serve (S := Session.sessionSignature) (carriedOut deployment rounds) body

end JumptotechLabs.Providers
