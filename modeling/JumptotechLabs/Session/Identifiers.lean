/-
Module: JumptotechLabs.Session.Identifiers
Layer: Session (services/lab-orchestrator/src/session/identifiers.ts)
Purpose: Session ids and the names derived from them. A sandbox name is a keyed digest of the session id
  under a fixed prefix; the key and the digest are the caller's, so what is derived is checked for its shape
  again.
Main exports: assertValidSessionId, isContainerSandboxRef, assertValidContainerSandboxRef,
  assertValidLabNamespace, deriveNamespace, deriveSandboxRef
-/
import JumptotechLabs.Core.Json
import JumptotechLabs.Core.Text

namespace JumptotechLabs.Session

open JumptotechLabs.Core

def sessionIdPrefix : String := "sess-"

def namespacePrefix : String := "lab-"

def containerSandboxPrefix : String := "jtt-lab-"

def defaultNamespaceSuffixChars : Nat := 12

/-- `SESSION_ID_PATTERN`, `/^sess-[0-9a-f]{7,32}$/`. -/
def matchesSessionId (text : String) : Bool := hexAfter sessionIdPrefix 7 32 text

/-- `LAB_NAMESPACE_PATTERN`, `/^lab-[0-9a-f]{6,40}$/`. -/
def matchesLabNamespace (text : String) : Bool := hexAfter namespacePrefix 6 40 text

/-- `isContainerSandboxRef`: `CONTAINER_SANDBOX_PATTERN`, `/^jtt-lab-[0-9a-f]{6,40}$/`. -/
def isContainerSandboxRef (text : String) : Bool := hexAfter containerSandboxPrefix 6 40 text

/-- Validate a session id arriving from the network. -/
def assertValidSessionId : Value → Except String String
  | .string text =>
      if text.isEmpty then .error "Invalid session id: must not be empty"
      else if 64 < utf16Length text then .error "Invalid session id: too long"
      else if matchesSessionId text then .ok text
      else .error "Invalid session id: must look like sess-<hex>"
  | _ => .error "Invalid session id: expected a string"

/-- Validate a container sandbox name before it reaches a container runtime. -/
def assertValidContainerSandboxRef (text : String) : Except String String :=
  if isContainerSandboxRef text then .ok text
  else .error "Invalid sandbox reference: must match ^jtt-lab-[0-9a-f]\x7b6,40\x7d$"

/-! ### Kubernetes namespaces -/

def protectedNamespaces : List String :=
  ["default", "kube-system", "kube-public", "kube-node-lease", "local-path-storage"]

def isProtectedNamespace (name : String) : Bool :=
  protectedNamespaces.contains name || "kube-".toList.isPrefixOf name.toList || name == "kube" ||
    "kubernetes-".toList.isPrefixOf name.toList

/-- `[a-z0-9]`. -/
def isLabelChar (c : Char) : Bool := ('a' ≤ c && c ≤ 'z') || ('0' ≤ c && c ≤ '9')

/-- `DNS_1123_LABEL`, `/^[a-z0-9]([-a-z0-9]{0,61}[a-z0-9])?$/`. -/
def matchesDnsLabel (text : String) : Bool :=
  match text.toList with
  | [] => false
  | first :: rest =>
      isLabelChar first && rest.length ≤ 62 && (rest.all fun c => isLabelChar c || c == '-') &&
        rest.getLast?.all isLabelChar

/-- Validate a namespace the platform intends to create or delete. -/
def assertValidLabNamespace (text namePrefix : String) : Except String String :=
  if text.isEmpty then .error "Invalid lab namespace: must not be empty"
  else if 63 < utf16Length text then .error "Invalid lab namespace: must be at most 63 characters"
  else if !matchesDnsLabel text then
    .error "Invalid lab namespace: must be a lowercase RFC 1123 DNS label"
  else if !namePrefix.toList.isPrefixOf text.toList then
    .error ("Invalid lab namespace: must start with '" ++ namePrefix ++ "'")
  else if text.length ≤ namePrefix.length then
    .error "Invalid lab namespace: must have a suffix after the prefix"
  else if isProtectedNamespace text then
    .error "Invalid lab namespace: is a protected cluster namespace"
  else if !matchesLabNamespace text then
    .error "Invalid lab namespace: must match canonical lab sandbox format ^lab-[0-9a-f]\x7b6,40\x7d$"
  else .ok text

/-! ### Derived names

`createHmac secret text` is the hex SHA-256 HMAC of a text. -/

variable (createHmac : String → String → String)

/-- The first digits of the keyed digest of a text. -/
def digestOf (secret text : String) (suffixChars : Nat) : String :=
  String.ofList ((createHmac secret text).toList.take suffixChars)

/-- The namespace of a session. -/
def deriveNamespace (sessionId secret : String) (suffixChars : Nat) (namePrefix : String) :
    Except String String := do
  let sessionId ← assertValidSessionId (.string sessionId)
  if utf16Length secret < 8 then
    throw "namespace derivation requires a secret of at least 8 characters"
  if suffixChars < 6 || 40 < suffixChars then
    throw "namespace suffix must be between 6 and 40 hex characters"
  assertValidLabNamespace
    (namePrefix ++ digestOf createHmac secret ("namespace:" ++ sessionId) suffixChars) namePrefix

/-- The sandbox handle of a session, for any provider. -/
def deriveSandboxRef (sessionId secret namePrefix : String) (suffixChars : Nat) :
    Except String String := do
  if namePrefix = namespacePrefix then
    deriveNamespace createHmac sessionId secret suffixChars namespacePrefix
  else
    let sessionId ← assertValidSessionId (.string sessionId)
    if utf16Length secret < 8 then
      throw "sandbox derivation requires a secret of at least 8 characters"
    if suffixChars < 6 || 40 < suffixChars then
      throw "sandbox suffix must be between 6 and 40 hex characters"
    assertValidContainerSandboxRef
      (namePrefix ++ digestOf createHmac secret ("sandbox:" ++ namePrefix ++ ":" ++ sessionId)
        suffixChars)

end JumptotechLabs.Session
