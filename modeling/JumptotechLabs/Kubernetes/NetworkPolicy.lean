/-
Module: JumptotechLabs.Kubernetes.NetworkPolicy
Layer: Kubernetes (services/lab-orchestrator/src/session/network-policy.ts)
Purpose: The network policies of a session, what traffic they allow, and the digest of the contract. What they allow
  to the addresses outside of the cluster is what the contract says, unless everything is denied to an external egress
  that is declared: a rule without a peer allows every destination.
Main exports: NetworkPolicyConfig, networkPolicyManifests, networkPolicyContractDigest, Traffic, Allowed, Contract,
  allowed_iff_contract_or_open, policies_mean_the_contract_iff
-/
import JumptotechLabs.Core.JsonText
import JumptotechLabs.Core.Keyed
import JumptotechLabs.Core.Properties
import JumptotechLabs.Kubernetes.Cidr
import JumptotechLabs.Session.Labels

namespace JumptotechLabs.Kubernetes

open JumptotechLabs.Core

/-- The entries of an object whose values are texts. -/
abbrev Record := List (Utf16 × Utf16)

/-- The settings of the policies. -/
structure NetworkPolicyConfig where
  name : Utf16
  dnsNamespace : Utf16
  dnsPodSelector : Record
  podCidr : Utf16
  serviceCidr : Utf16
  allowExternalEgress : Bool
  additionalDeniedEgressCidrs : List Utf16
  /-- `attestation.maxAgeSeconds`. -/
  maxAgeSeconds : Number
  distinct : Keyed.Distinct Prod.fst dnsPodSelector

inductive LabCapability where
  | rbacAuthoring
  | unprivilegedShell
  | externalEgress
deriving DecidableEq

structure ApiServerEndpoint where
  ip : Utf16
  port : Nat
deriving DecidableEq

structure NetworkPolicyBuildOptions where
  capabilities : Option (List LabCapability)
  apiServerEndpoints : Option (List ApiServerEndpoint)

/-! ### The configuration -/

/-- `Number.isInteger(value) && value > 0`. -/
def isPositiveInteger : Number → Bool
  | .finite value => value.den = 1 ∧ 0 < value
  | _ => false

/-- The ranges of a configuration, with what each is set by. -/
def namedCidrs (config : NetworkPolicyConfig) : List (Utf16 × Utf16) :=
  [(units "CLUSTER_POD_CIDR", config.podCidr), (units "CLUSTER_SERVICE_CIDR", config.serviceCidr)] ++
    config.additionalDeniedEgressCidrs.map fun cidr => (units "CLUSTER_EGRESS_DENY_CIDRS", cidr)

/-- `parseIpv4Cidr(cidr)`, and its complaint under the name of the setting. -/
def checkCidr (named : Utf16 × Utf16) : Except Utf16 Unit :=
  match parseIpv4Cidr named.2 with
  | .ok _ => .ok ()
  | .error reason => .error (named.1 ++ units ": " ++ reason)

/-- Refuse a configuration that would generate a policy meaning something other than what it says. -/
def assertValidNetworkPolicyConfig (config : NetworkPolicyConfig) : Except Utf16 Unit := do
  (namedCidrs config).forM checkCidr
  if config.dnsNamespace.trim = [] then
    .error (units "CLUSTER_DNS_NAMESPACE must name the namespace running cluster DNS")
  if config.dnsPodSelector = [] then
    .error (units "CLUSTER_DNS_POD_SELECTOR is empty, which would allow port 53 to every Pod in " ++ config.dnsNamespace)
  if isPositiveInteger config.maxAgeSeconds = false then
    .error (units "NETWORK_POLICY_ATTESTATION_MAX_AGE_SECONDS must be a positive integer")

/-- `NON_PUBLIC_IPV4_CIDRS`. -/
def nonPublicIpv4Cidrs : List Utf16 :=
  ["0.0.0.0/8", "10.0.0.0/8", "100.64.0.0/10", "127.0.0.0/8", "169.254.0.0/16", "172.16.0.0/12", "192.0.0.0/24",
    "192.0.2.0/24", "192.88.99.0/24", "192.168.0.0/16", "198.18.0.0/15", "198.51.100.0/24", "203.0.113.0/24",
    "224.0.0.0/4", "240.0.0.0/4"].map units

/-- What external egress never reaches: non-public space, the cluster's ranges, and any extra. -/
def externalEgressDeniedCidrs (config : NetworkPolicyConfig) : List Utf16 :=
  nonPublicIpv4Cidrs ++ [config.podCidr, config.serviceCidr] ++ config.additionalDeniedEgressCidrs

/-- The public IPv4 internet, as plain blocks. -/
def externalEgressAllowedCidrs (config : NetworkPolicyConfig) : Except Utf16 (List Utf16) :=
  ipv4Complement (externalEgressDeniedCidrs config)

/-! ### The policies -/

inductive Protocol where
  | tcp
  | udp
deriving DecidableEq

structure PolicyPort where
  protocol : Protocol
  port : Nat
deriving DecidableEq

/-- Whom a rule lets through. -/
inductive PolicyPeer where
  /-- Pods by their labels, of the policy's own namespace or of the namespaces with some labels. -/
  | pods (namespaceSelector : Option Record) (podSelector : Record)
  | ipBlock (cidr : Utf16)
deriving DecidableEq

/-- A rule of `ingress` or of `egress`; the peers stand under `from` or `to`. -/
structure PolicyRule where
  peers : List PolicyPeer
  ports : List PolicyPort
deriving DecidableEq

inductive Direction where
  | ingress
  | egress
deriving DecidableEq

/-- The manifest of a policy. -/
structure NetworkPolicy where
  name : Utf16
  labels : Record
  podSelector : Record
  policyTypes : List Direction
  ingress : List PolicyRule
  egress : List PolicyRule
deriving DecidableEq

/-- `componentLabels`. -/
def componentLabels (component : String) : Record :=
  [(units Session.managedLabel, units "true"), (units Session.componentLabel, units component)]

/-- A policy of the session, under a suffix. -/
def policyOf (config : NetworkPolicyConfig) (suffix : String) (types : List Direction) (ingress egress : List PolicyRule) :
    NetworkPolicy :=
  ⟨config.name ++ units "-" ++ units suffix, componentLabels "network", [], types, ingress, egress⟩

/-- The policies that every session namespace carries. -/
def standingPolicies (config : NetworkPolicyConfig) : List NetworkPolicy :=
  [policyOf config "default-deny" [.ingress, .egress] [] [],
    policyOf config "allow-same-namespace" [.ingress, .egress] [⟨[.pods none []], []⟩] [⟨[.pods none []], []⟩],
    policyOf config "allow-dns" [.egress] []
      [⟨[.pods (some [(units "kubernetes.io/metadata.name", config.dnsNamespace)]) config.dnsPodSelector],
        [⟨.udp, 53⟩, ⟨.tcp, 53⟩]⟩]]

def endpointError (ip : Utf16) : Utf16 := units "API server endpoint '" ++ ip ++ units "' is not an IP address"

/-- `/[0-9a-f:]/i`. -/
def isIpv6Unit (unit : UInt16) : Bool :=
  Utf16.isDigit unit || (97 ≤ unit && unit ≤ 102) || (65 ≤ unit && unit ≤ 70) || unit == 58

def endpointCidr (ip : Utf16) : Except Utf16 Utf16 :=
  if 58 ∈ ip then
    if ip.all isIpv6Unit then .ok (ip ++ units "/128") else .error (endpointError ip)
  else
    match parseIpv4Address ip with
    | .ok _ => .ok (ip ++ units "/32")
    | .error _ => .error (endpointError ip)

/-- `ports.add(endpoint.port)`, in the set of the range. -/
def addPort (groups : List (Utf16 × List Nat)) (cidr : Utf16) (port : Nat) : List (Utf16 × List Nat) :=
  let ports := ((Keyed.lookup Prod.fst cidr groups).map Prod.snd).getD []
  Keyed.put Prod.fst (cidr, if port ∈ ports then ports else ports ++ [port]) groups

/-- `portsByCidr`. -/
def portsByCidr (endpoints : List ApiServerEndpoint) : Except Utf16 (List (Utf16 × List Nat)) :=
  endpoints.foldlM (fun groups endpoint => do .ok (addPort groups (← endpointCidr endpoint.ip) endpoint.port)) []

/-- The rule of one group. -/
def groupRule (group : Utf16 × List Nat) : PolicyRule :=
  ⟨[.ipBlock group.1], (group.2.mergeSort fun a b => a ≤ b).map fun port => ⟨.tcp, port⟩⟩

def apiServerPolicies (config : NetworkPolicyConfig) (endpoints : List ApiServerEndpoint) :
    Except Utf16 (List NetworkPolicy) :=
  if endpoints = [] then .ok []
  else do .ok [policyOf config "allow-kube-apiserver" [.egress] [] ((← portsByCidr endpoints).map groupRule)]

def externalEgressPolicies (config : NetworkPolicyConfig) (capabilities : List LabCapability) :
    Except Utf16 (List NetworkPolicy) :=
  if .externalEgress ∈ capabilities then
    if config.allowExternalEgress = false then
      .error (units ("this lab declares environment.capabilities: [external_egress], but the platform does not permit " ++
        "external egress (ALLOW_EXTERNAL_EGRESS is not true)"))
    else do
      .ok [policyOf config "allow-external-egress" [.egress] []
        [⟨(← externalEgressAllowedCidrs config).map PolicyPeer.ipBlock, []⟩]]
  else .ok []

/-- The session's policies. -/
def networkPolicyManifests (network : NetworkPolicyConfig) (options : NetworkPolicyBuildOptions) :
    Except Utf16 (List NetworkPolicy) := do
  let apiServer ← apiServerPolicies network (options.apiServerEndpoints.getD [])
  let external ← externalEgressPolicies network (options.capabilities.getD [])
  .ok (standingPolicies network ++ apiServer ++ external)

/-! ### The digest of the contract -/

/-- The entries of `Object.fromEntries`, in the order that an object lists them. -/
def fromEntries (entries : Record) : Record := inKeyOrder entries

/-- Texts by their units, as `sort()` orders them. -/
def unitsLe (one other : Utf16) : Bool := one ≤ other

/-- What decides what the policies say. -/
def canonicalContract (localeLe : Utf16 → Utf16 → Bool) (config : NetworkPolicyConfig) : Document :=
  .object
    [(units "contract", .string (units "beta-p0-015.1")), (units "name", .string config.name),
      (units "dnsNamespace", .string config.dnsNamespace),
      (units "dnsPodSelector", .object ((fromEntries (config.dnsPodSelector.mergeSort fun a b => localeLe a.1 b.1)).map
        fun entry => (entry.1, .string entry.2))),
      (units "podCidr", .string config.podCidr), (units "serviceCidr", .string config.serviceCidr),
      (units "allowExternalEgress", .boolean config.allowExternalEgress),
      (units "additionalDeniedEgressCidrs",
        .array ((config.additionalDeniedEgressCidrs.mergeSort unitsLe).map Document.string))]

/-- A stable fingerprint of everything that decides what the policies say. -/
def networkPolicyContractDigest (localeLe : Utf16 → Utf16 → Bool) (stringify : Document → Utf16)
    (sha256 : Utf16 → Utf16) (config : NetworkPolicyConfig) : Utf16 :=
  sha256 (stringify (canonicalContract localeLe config))

/-! ### What policies allow -/

/-- A pod: its labels, those of its namespace, and whether that is the namespace of the policies. -/
structure Pod where
  sameNamespace : Bool
  namespaceLabels : Record
  labels : Record

/-- The other end of a connection. An address outside of the cluster has no pod. -/
structure Party where
  address : Nat
  pod : Option Pod

/-- A connection of a pod of the session, with the pod's labels. -/
structure Traffic where
  own : Record
  direction : Direction
  party : Party
  protocol : Protocol
  port : Nat

def Selects (selector labels : Record) : Prop := ∀ label ∈ selector, label ∈ labels

def PolicyPeer.Matches (party : Party) : PolicyPeer → Prop
  | .pods none selector => ∃ pod, party.pod = some pod ∧ pod.sameNamespace = true ∧ Selects selector pod.labels
  | .pods (some namespaces) selector =>
      ∃ pod, party.pod = some pod ∧ Selects namespaces pod.namespaceLabels ∧ Selects selector pod.labels
  | .ipBlock cidr => ∃ range, parseIpv4Cidr cidr = .ok range ∧ range.Has party.address

/-- No peers mean every peer, and no ports mean every port. -/
def PolicyRule.Allows (rule : PolicyRule) (traffic : Traffic) : Prop :=
  (rule.peers = [] ∨ ∃ peer ∈ rule.peers, peer.Matches traffic.party) ∧
    (rule.ports = [] ∨ ⟨traffic.protocol, traffic.port⟩ ∈ rule.ports)

def NetworkPolicy.rules (policy : NetworkPolicy) : Direction → List PolicyRule
  | .ingress => policy.ingress
  | .egress => policy.egress

/-- The policy is about the traffic's pod and direction. -/
def NetworkPolicy.Governs (policy : NetworkPolicy) (traffic : Traffic) : Prop :=
  Selects policy.podSelector traffic.own ∧ traffic.direction ∈ policy.policyTypes

/-- The traffic is allowed: no policy governs it, or a rule of one that does allows it. -/
def Allowed (policies : List NetworkPolicy) (traffic : Traffic) : Prop :=
  (∀ policy ∈ policies, ¬ policy.Governs traffic) ∨
    ∃ policy ∈ policies, policy.Governs traffic ∧ ∃ rule ∈ policy.rules traffic.direction, rule.Allows traffic

/-- Egress to an address outside of the cluster, at a TCP port. -/
def egressTo (own : Record) (address port : Nat) : Traffic := ⟨own, .egress, ⟨address, none⟩, .tcp, port⟩

/-- What the contract says of an address and a port. -/
def Contract (config : NetworkPolicyConfig) (options : NetworkPolicyBuildOptions) (address port : Nat) : Prop :=
  (∃ endpoint ∈ options.apiServerEndpoints.getD [],
      parseIpv4Address endpoint.ip = .ok address ∧ endpoint.port = port) ∨
    (.externalEgress ∈ options.capabilities.getD [] ∧ ¬ Denied (externalEgressDeniedCidrs config) address)

/-! ### The configuration that is accepted -/

theorem parses_of_checks {named : List (Utf16 × Utf16)} (checked : named.forM checkCidr = .ok ()) :
    ∀ one ∈ named, ∃ range, parseIpv4Cidr one.2 = .ok range := by
  induction named with
  | nil => exact fun one member => by cases member
  | cons first rest ih =>
      change (checkCidr first >>= fun _ => rest.forM checkCidr) = .ok () at checked
      cases isFirst : parseIpv4Cidr first.2 with
      | error reason =>
          rw [checkCidr, isFirst] at checked
          cases checked
      | ok range =>
          rw [checkCidr, isFirst] at checked
          exact List.forall_mem_cons.mpr ⟨⟨range, isFirst⟩, ih checked⟩

/-- Whatever is denied to an accepted configuration can be read. -/
theorem parses_of_accepted {config : NetworkPolicyConfig} (accepted : assertValidNetworkPolicyConfig config = .ok ()) :
    ∀ text ∈ externalEgressDeniedCidrs config, ∃ range, parseIpv4Cidr text = .ok range := by
  have standing : nonPublicIpv4Cidrs.all (fun text => (parseIpv4Cidr text).isOk) = true := by decide
  have checked : (namedCidrs config).forM checkCidr = .ok () := by
    cases isChecked : (namedCidrs config).forM checkCidr with
    | error reason =>
        rw [assertValidNetworkPolicyConfig, isChecked] at accepted
        cases accepted
    | ok _ => rfl
  have named := parses_of_checks checked
  intro text member
  rw [externalEgressDeniedCidrs, List.append_assoc] at member
  rcases List.mem_append.mp member with isStanding | isNamed
  · have isOk := List.all_eq_true.mp standing text isStanding
    cases parsed : parseIpv4Cidr text with
    | error reason =>
        rw [parsed] at isOk
        cases isOk
    | ok range => exact ⟨range, rfl⟩
  · have isNamed : text ∈ (namedCidrs config).map Prod.snd := by
      rw [namedCidrs, List.map_append, List.map_map]
      simpa [Function.comp_def] using isNamed
    obtain ⟨one, isOne, rfl⟩ := List.mem_map.mp isNamed
    exact named one isOne

/-! ### The rules of the API server -/

/-- The groups of the endpoints seen so far: their addresses, each with its own ports. -/
structure Grouped (seen : List ApiServerEndpoint) (groups : List (Utf16 × List Nat)) : Prop where
  distinct : Keyed.Distinct Prod.fst groups
  filled : ∀ group ∈ groups, group.2 ≠ []
  ports : ∀ cidr port, (∃ group ∈ groups, group.1 = cidr ∧ port ∈ group.2) ↔
    ∃ endpoint ∈ seen, endpoint.ip ++ units "/32" = cidr ∧ endpoint.port = port

theorem endpointCidr_of_parses {ip : Utf16} {address : Nat} (parsed : parseIpv4Address ip = .ok address) :
    endpointCidr ip = .ok (ip ++ units "/32") := by
  have noColon : 58 ∉ ip := by
    intro inside
    rcases units_of_parseIpv4Address parsed _ inside with digit | dot
    · exact absurd digit (by decide)
    · exact absurd dot (by decide)
  rw [endpointCidr, if_neg noColon, parsed]

/-- The step: an endpoint's port goes to its own address. -/
theorem Grouped.add {seen : List ApiServerEndpoint} {groups : List (Utf16 × List Nat)} (grouped : Grouped seen groups)
    (endpoint : ApiServerEndpoint) :
    Grouped (seen ++ [endpoint]) (addPort groups (endpoint.ip ++ units "/32") endpoint.port) := by
  obtain ⟨ports, isPorts, isSet⟩ : ∃ ports : List Nat,
      addPort groups (endpoint.ip ++ units "/32") endpoint.port =
        Keyed.put Prod.fst (endpoint.ip ++ units "/32", ports) groups ∧
      ∀ port, port ∈ ports ↔ port = endpoint.port ∨
        ∃ group ∈ groups, group.1 = endpoint.ip ++ units "/32" ∧ port ∈ group.2 := by
    refine ⟨_, rfl, fun port => ?_⟩
    cases isGroup : Keyed.lookup Prod.fst (endpoint.ip ++ units "/32") groups with
    | none =>
        have absent := Keyed.lookup_eq_none.mp isGroup
        simp only [Option.map_none, Option.getD_none, List.not_mem_nil, if_false, List.nil_append, List.mem_singleton]
        exact ⟨.inl, fun found => found.resolve_right fun ⟨group, member, same, _⟩ => absent group member same⟩
    | some known =>
        have isKnown := Keyed.mem_of_lookup isGroup
        have sameKey := Keyed.key_of_lookup isGroup
        have only : (∃ group ∈ groups, group.1 = endpoint.ip ++ units "/32" ∧ port ∈ group.2) ↔ port ∈ known.2 := by
          constructor
          · rintro ⟨group, member, same, inside⟩
            rw [← same, Keyed.lookup_of_mem grouped.distinct member] at isGroup
            exact Option.some.inj isGroup ▸ inside
          · exact fun inside => ⟨known, isKnown, sameKey, inside⟩
        rw [only, Option.map_some, Option.getD_some]
        split
        · rename_i again
          exact ⟨.inr, fun found => found.elim (fun same => same ▸ again) id⟩
        · rw [List.mem_append, List.mem_singleton, or_comm]
  refine ⟨isPorts ▸ grouped.distinct.put, ?_, ?_⟩
  · intro group member
    rw [isPorts, Keyed.mem_put_iff grouped.distinct] at member
    rcases member with rfl | ⟨earlier, -⟩
    · exact List.ne_nil_of_mem ((isSet endpoint.port).mpr (.inl rfl))
    · exact grouped.filled group earlier
  · intro cidr port
    have seenOf := grouped.ports cidr port
    rw [isPorts]
    simp only [Keyed.mem_put_iff grouped.distinct, List.mem_append, List.mem_singleton]
    constructor
    · rintro ⟨group, rfl | ⟨earlier, -⟩, rfl, inside⟩
      · rcases (isSet port).mp inside with rfl | ⟨group, earlier, same, inside⟩
        · exact ⟨endpoint, .inr rfl, rfl, rfl⟩
        · obtain ⟨one, isSeen, facts⟩ := (grouped.ports _ port).mp ⟨group, earlier, same, inside⟩
          exact ⟨one, .inl isSeen, facts⟩
      · obtain ⟨one, isSeen, facts⟩ := seenOf.mp ⟨group, earlier, rfl, inside⟩
        exact ⟨one, .inl isSeen, facts⟩
    · intro found
      by_cases here : cidr = endpoint.ip ++ units "/32"
      · refine ⟨_, .inl rfl, here.symm, (isSet port).mpr ?_⟩
        obtain ⟨one, isSeen | rfl, facts⟩ := found
        · exact .inr (here ▸ seenOf.mpr ⟨one, isSeen, facts⟩)
        · exact .inl facts.2.symm
      · obtain ⟨one, isSeen | rfl, facts⟩ := found
        · obtain ⟨group, earlier, same, inside⟩ := seenOf.mpr ⟨one, isSeen, facts⟩
          exact ⟨group, .inr ⟨earlier, fun same' => here (same.symm.trans same')⟩, same, inside⟩
        · exact absurd facts.1.symm here

/-- The run over all endpoints. -/
theorem grouped_portsByCidr {endpoints : List ApiServerEndpoint}
    (valid : ∀ endpoint ∈ endpoints, ∃ address, parseIpv4Address endpoint.ip = .ok address) :
    ∃ groups, portsByCidr endpoints = .ok groups ∧ Grouped endpoints groups := by
  have run : ∀ (rest seen : List ApiServerEndpoint) (groups : List (Utf16 × List Nat)), Grouped seen groups →
      (∀ endpoint ∈ rest, ∃ address, parseIpv4Address endpoint.ip = .ok address) →
      ∃ last, rest.foldlM (fun groups endpoint => do .ok (addPort groups (← endpointCidr endpoint.ip) endpoint.port))
          groups = .ok last ∧ Grouped (seen ++ rest) last := by
    intro rest
    induction rest with
    | nil => exact fun seen groups grouped _ => ⟨groups, rfl, by rwa [List.append_nil]⟩
    | cons endpoint rest ih =>
        intro seen groups grouped valid
        obtain ⟨⟨address, parsed⟩, others⟩ := List.forall_mem_cons.mp valid
        obtain ⟨last, isLast, whole⟩ := ih (seen ++ [endpoint]) _ (grouped.add endpoint) others
        refine ⟨last, ?_, by rwa [List.append_assoc, List.singleton_append] at whole⟩
        rw [List.foldlM_cons, endpointCidr_of_parses parsed]
        exact isLast
  refine run endpoints [] [] ⟨List.nodup_nil, ?_, fun cidr port => ?_⟩ valid
  · exact fun group member => nomatch member
  · simp

/-- The rules of the groups allow the endpoints' own addresses, each at its own ports. -/
theorem groupRules_allow {endpoints : List ApiServerEndpoint} {groups : List (Utf16 × List Nat)}
    (valid : ∀ endpoint ∈ endpoints, ∃ address, parseIpv4Address endpoint.ip = .ok address)
    (grouped : Grouped endpoints groups) (own : Record) (address port : Nat) :
    (∃ rule ∈ groups.map groupRule, rule.Allows (egressTo own address port)) ↔
      ∃ endpoint ∈ endpoints, parseIpv4Address endpoint.ip = .ok address ∧ endpoint.port = port := by
  have matched : ∀ {endpoint}, endpoint ∈ endpoints →
      ((PolicyPeer.ipBlock (endpoint.ip ++ units "/32")).Matches ⟨address, none⟩ ↔
        parseIpv4Address endpoint.ip = .ok address) := by
    intro endpoint member
    obtain ⟨value, parsed⟩ := valid endpoint member
    rw [parsed, Except.ok.injEq]
    constructor
    · rintro ⟨range, isRange, lower, upper⟩
      rw [parse_host parsed] at isRange
      cases isRange
      exact Nat.le_antisymm lower upper
    · rintro rfl
      exact ⟨_, parse_host parsed, le_refl _, le_refl _⟩
  have ported : ∀ group ∈ groups, ((groupRule group).ports = [] ∨ ⟨.tcp, port⟩ ∈ (groupRule group).ports) ↔
      port ∈ group.2 := by
    intro group member
    have filled := grouped.filled group member
    rw [groupRule, List.map_eq_nil_iff, ← List.length_eq_zero_iff, List.length_mergeSort, List.length_eq_zero_iff,
      or_iff_right filled]
    simp [List.mem_mergeSort]
  constructor
  · rintro ⟨rule, isRule, isPeer, isPort⟩
    obtain ⟨group, member, rfl⟩ := List.mem_map.mp isRule
    obtain ⟨endpoint, isEndpoint, same, samePort⟩ :=
      (grouped.ports group.1 port).mp ⟨group, member, rfl, (ported group member).mp isPort⟩
    rcases isPeer with none | ⟨peer, isPeer, matches_⟩
    · cases none
    · rw [List.mem_singleton.mp isPeer, ← same] at matches_
      exact ⟨endpoint, isEndpoint, (matched isEndpoint).mp matches_, samePort⟩
  · rintro ⟨endpoint, isEndpoint, parsed, samePort⟩
    obtain ⟨group, member, same, inside⟩ := (grouped.ports _ port).mpr ⟨endpoint, isEndpoint, rfl, samePort⟩
    refine ⟨groupRule group, List.mem_map_of_mem member, .inr ⟨_, List.mem_singleton.mpr rfl, ?_⟩,
      (ported group member).mpr inside⟩
    rw [same]
    exact (matched isEndpoint).mpr parsed

/-! ### The rule of external egress -/

/-- Where everything is denied the rule has no peers, and allows every destination. -/
theorem externalRule_allows {config : NetworkPolicyConfig} {allowed : List Utf16}
    (valid : ∀ text ∈ externalEgressDeniedCidrs config, ∃ range, parseIpv4Cidr text = .ok range)
    (isAllowed : externalEgressAllowedCidrs config = .ok allowed) (traffic : Traffic) :
    PolicyRule.Allows ⟨allowed.map PolicyPeer.ipBlock, []⟩ traffic ↔
      (∀ address < ipv4Space, Denied (externalEgressDeniedCidrs config) address) ∨
        traffic.party.address < ipv4Space ∧ ¬ Denied (externalEgressDeniedCidrs config) traffic.party.address := by
  obtain ⟨texts, blocks, isTexts, reads, -, has⟩ := complement_has valid
  rw [externalEgressAllowedCidrs, isTexts, Except.ok.injEq] at isAllowed
  subst isAllowed
  have empty : texts.map PolicyPeer.ipBlock = [] ↔
      ∀ address < ipv4Space, Denied (externalEgressDeniedCidrs config) address := by
    rw [List.map_eq_nil_iff, ← List.length_eq_zero_iff, reads.length_eq, List.length_eq_zero_iff]
    constructor
    · rintro rfl address inSpace
      by_contra free
      obtain ⟨block, impossible, -⟩ := (has address).mpr ⟨inSpace, free⟩
      cases impossible
    · intro denied
      cases blocks with
      | nil => rfl
      | cons block rest =>
          obtain ⟨inSpace, free⟩ := (has block.first).mp ⟨block, List.mem_cons_self, block.has_first⟩
          exact absurd (denied _ inSpace) free
  have inBlock : (∃ peer ∈ texts.map PolicyPeer.ipBlock, peer.Matches traffic.party) ↔
      ∃ block ∈ blocks, block.Has traffic.party.address := by
    have same : ∀ block : Block, (rangeOf block).Has traffic.party.address ↔ block.Has traffic.party.address := by
      intro block
      have positive := block.size_pos
      show block.first ≤ _ ∧ _ ≤ block.first + block.size - 1 ↔ block.first ≤ _ ∧ _ < block.first + block.size
      omega
    simp only [List.mem_map, exists_exists_and_eq_and]
    clear isTexts empty has
    induction reads with
    | nil => simp
    | cons read _ ih =>
        rw [List.exists_mem_cons_iff, List.exists_mem_cons_iff, ← same]
        refine or_congr ⟨?_, fun inside => ⟨_, read, inside⟩⟩ ih
        rintro ⟨range, isRange, inside⟩
        rw [read] at isRange
        cases isRange
        exact inside
  rw [PolicyRule.Allows, empty, inBlock, has]
  exact and_iff_left (.inl rfl)

/-! ### All policies together -/

/-- A policy denies everything by default, so what is allowed is what some rule allows. -/
theorem allowed_standing_iff {config : NetworkPolicyConfig} {more : List NetworkPolicy} {traffic : Traffic}
    (selects : ∀ policy ∈ standingPolicies config ++ more, policy.podSelector = []) :
    Allowed (standingPolicies config ++ more) traffic ↔
      ∃ policy ∈ standingPolicies config ++ more, traffic.direction ∈ policy.policyTypes ∧
        ∃ rule ∈ policy.rules traffic.direction, rule.Allows traffic := by
  have governs : ∀ policy ∈ standingPolicies config ++ more,
      (policy.Governs traffic ↔ traffic.direction ∈ policy.policyTypes) := by
    intro policy member
    rw [NetworkPolicy.Governs, selects policy member]
    exact and_iff_right fun label impossible => nomatch impossible
  have denies : policyOf config "default-deny" [.ingress, .egress] [] [] ∈ standingPolicies config ++ more :=
    List.mem_append_left _ List.mem_cons_self
  have both : traffic.direction ∈ [Direction.ingress, .egress] := by cases traffic.direction <;> decide
  constructor
  · rintro (ungoverned | ⟨policy, member, governed, allows⟩)
    · exact absurd ((governs _ denies).mpr both) (ungoverned _ denies)
    · exact ⟨policy, member, (governs policy member).mp governed, allows⟩
  · rintro ⟨policy, member, governed, allows⟩
    exact .inr ⟨policy, member, (governs policy member).mpr governed, allows⟩

/-- What the policies of a session are made of. -/
theorem networkPolicyManifests_ok {config : NetworkPolicyConfig} {options : NetworkPolicyBuildOptions}
    {manifests : List NetworkPolicy} (built : networkPolicyManifests config options = .ok manifests) :
    ∃ apiServer external, apiServerPolicies config (options.apiServerEndpoints.getD []) = .ok apiServer ∧
      externalEgressPolicies config (options.capabilities.getD []) = .ok external ∧
      manifests = standingPolicies config ++ (apiServer ++ external) := by
  rw [networkPolicyManifests] at built
  cases isApiServer : apiServerPolicies config (options.apiServerEndpoints.getD []) with
  | error reason =>
      rw [isApiServer] at built
      cases built
  | ok apiServer =>
      cases isExternal : externalEgressPolicies config (options.capabilities.getD []) with
      | error reason =>
          rw [isApiServer, isExternal] at built
          cases built
      | ok external =>
          rw [isApiServer, isExternal] at built
          cases built
          exact ⟨apiServer, external, rfl, rfl, List.append_assoc _ _ _⟩

/-- What the policies of external egress are made of. -/
theorem externalEgressPolicies_ok {config : NetworkPolicyConfig} {capabilities : List LabCapability}
    {external : List NetworkPolicy} (built : externalEgressPolicies config capabilities = .ok external) :
    (.externalEgress ∉ capabilities ∧ external = []) ∨
      .externalEgress ∈ capabilities ∧ config.allowExternalEgress = true ∧
        ∃ allowed, externalEgressAllowedCidrs config = .ok allowed ∧
          external = [policyOf config "allow-external-egress" [.egress] [] [⟨allowed.map PolicyPeer.ipBlock, []⟩]] := by
  rw [externalEgressPolicies] at built
  by_cases declared : .externalEgress ∈ capabilities
  · rw [if_pos declared] at built
    by_cases permitted : config.allowExternalEgress = false
    · rw [if_pos permitted] at built
      cases built
    · rw [if_neg permitted] at built
      cases isAllowed : externalEgressAllowedCidrs config with
      | error reason =>
          rw [isAllowed] at built
          cases built
      | ok allowed =>
          rw [isAllowed] at built
          cases built
          exact .inr ⟨declared, Bool.eq_true_of_not_eq_false permitted, allowed, rfl, rfl⟩
  · rw [if_neg declared] at built
    cases built
    exact .inl ⟨declared, rfl⟩

/-- What the policy of the API server is made of. -/
theorem apiServerPolicies_ok (config : NetworkPolicyConfig) {endpoints : List ApiServerEndpoint}
    (valid : ∀ endpoint ∈ endpoints, ∃ address, parseIpv4Address endpoint.ip = .ok address) :
    ∃ groups, Grouped endpoints groups ∧
      apiServerPolicies config endpoints =
        .ok (if endpoints = [] then [] else
          [policyOf config "allow-kube-apiserver" [.egress] [] (groups.map groupRule)]) := by
  obtain ⟨groups, isGroups, grouped⟩ := grouped_portsByCidr valid
  refine ⟨groups, grouped, ?_⟩
  rw [apiServerPolicies]
  by_cases none : endpoints = []
  · rw [if_pos none, if_pos none]
  · rw [if_neg none, if_neg none, isGroups]
    rfl

/-- The policies that stand in every namespace are about pods. -/
theorem standing_allows_no_address (config : NetworkPolicyConfig) (own : Record) (address port : Nat) :
    ∀ policy ∈ standingPolicies config, ∀ rule ∈ policy.egress, ¬ rule.Allows (egressTo own address port) := by
  have noPod : ∀ peer, ¬ (∃ cidr, peer = PolicyPeer.ipBlock cidr) → ¬ peer.Matches ⟨address, none⟩ := by
    intro peer notBlock found
    cases peer with
    | pods namespaces selector =>
        cases namespaces with
        | none =>
            obtain ⟨pod, impossible, -⟩ := found
            cases impossible
        | some namespaces =>
            obtain ⟨pod, impossible, -⟩ := found
            cases impossible
    | ipBlock cidr => exact notBlock ⟨cidr, rfl⟩
  have refused : ∀ namespaces selector ports,
      ¬ PolicyRule.Allows ⟨[.pods namespaces selector], ports⟩ (egressTo own address port) := by
    rintro namespaces selector ports ⟨impossible | ⟨peer, isPeer, found⟩, -⟩
    · cases impossible
    · rw [List.mem_singleton.mp isPeer] at found
      exact noPod _ (fun ⟨cidr, impossible⟩ => nomatch impossible) found
  intro policy member rule isRule
  simp only [standingPolicies, List.mem_cons, List.not_mem_nil, or_false] at member
  rcases member with rfl | rfl | rfl
  · cases isRule
  · rw [List.mem_singleton.mp isRule]
    exact refused _ _ _
  · rw [List.mem_singleton.mp isRule]
    exact refused _ _ _

/-- A policy about the egress of every pod. -/
def IsEgressPolicy (policy : NetworkPolicy) : Prop := policy.podSelector = [] ∧ policy.policyTypes = [.egress]

theorem egress_apiServer {config : NetworkPolicyConfig} {endpoints : List ApiServerEndpoint}
    {apiServer : List NetworkPolicy}
    (valid : ∀ endpoint ∈ endpoints, ∃ address, parseIpv4Address endpoint.ip = .ok address)
    (built : apiServerPolicies config endpoints = .ok apiServer) :
    (∀ policy ∈ apiServer, IsEgressPolicy policy) ∧ ∀ own address port,
      (∃ policy ∈ apiServer, ∃ rule ∈ policy.egress, rule.Allows (egressTo own address port)) ↔
        ∃ endpoint ∈ endpoints, parseIpv4Address endpoint.ip = .ok address ∧ endpoint.port = port := by
  obtain ⟨groups, grouped, isRules⟩ := apiServerPolicies_ok config valid
  rw [built, Except.ok.injEq] at isRules
  subst isRules
  by_cases none : endpoints = []
  · rw [if_pos none, none]
    exact ⟨fun policy impossible => (nomatch impossible), fun own address port => by simp⟩
  · rw [if_neg none]
    refine ⟨fun policy member => ?_, fun own address port => ?_⟩
    · rw [List.mem_singleton.mp member]
      exact ⟨rfl, rfl⟩
    · rw [← groupRules_allow valid grouped own address port, List.exists_mem_cons_iff]
      exact or_iff_left fun ⟨policy, impossible, _⟩ => nomatch impossible

theorem egress_external {config : NetworkPolicyConfig} {capabilities : List LabCapability}
    {external : List NetworkPolicy}
    (parses : ∀ text ∈ externalEgressDeniedCidrs config, ∃ range, parseIpv4Cidr text = .ok range)
    (built : externalEgressPolicies config capabilities = .ok external) :
    (∀ policy ∈ external, IsEgressPolicy policy) ∧ ∀ own, ∀ address < ipv4Space, ∀ port,
      (∃ policy ∈ external, ∃ rule ∈ policy.egress, rule.Allows (egressTo own address port)) ↔
        .externalEgress ∈ capabilities ∧
          ((∀ other < ipv4Space, Denied (externalEgressDeniedCidrs config) other) ∨
            ¬ Denied (externalEgressDeniedCidrs config) address) := by
  rcases externalEgressPolicies_ok built with ⟨undeclared, rfl⟩ | ⟨declared, -, allowed, isAllowed, rfl⟩
  · refine ⟨fun policy impossible => (nomatch impossible), fun own address _ port => ?_⟩
    exact ⟨fun ⟨policy, impossible, _⟩ => (nomatch impossible), fun found => absurd found.1 undeclared⟩
  · refine ⟨fun policy member => ?_, fun own address inSpace port => ?_⟩
    · rw [List.mem_singleton.mp member]
      exact ⟨rfl, rfl⟩
    · have rule := externalRule_allows parses isAllowed (egressTo own address port)
      rw [show (egressTo own address port).party.address = address from rfl, and_iff_right inSpace] at rule
      rw [and_iff_right declared, ← rule]
      constructor
      · rintro ⟨policy, member, one, isRule, allows⟩
        rw [List.mem_singleton.mp member] at isRule
        rw [List.mem_singleton.mp isRule] at allows
        exact allows
      · exact fun allows => ⟨_, List.mem_singleton.mpr rfl, _, List.mem_singleton.mpr rfl, allows⟩

/-- To an address outside of the cluster the policies allow what those behind the standing ones allow. -/
theorem allowed_egress_iff {config : NetworkPolicyConfig} {more : List NetworkPolicy}
    (plain : ∀ policy ∈ more, IsEgressPolicy policy) (own : Record) (address port : Nat) :
    Allowed (standingPolicies config ++ more) (egressTo own address port) ↔
      ∃ policy ∈ more, ∃ rule ∈ policy.egress, rule.Allows (egressTo own address port) := by
  have selects : ∀ policy ∈ standingPolicies config ++ more, policy.podSelector = [] := by
    intro policy member
    rcases List.mem_append.mp member with isStanding | isOther
    · simp only [standingPolicies, List.mem_cons, List.not_mem_nil, or_false] at isStanding
      rcases isStanding with rfl | rfl | rfl <;> rfl
    · exact (plain policy isOther).1
  rw [allowed_standing_iff selects]
  constructor
  · rintro ⟨policy, member, -, rule, isRule, allows⟩
    rcases List.mem_append.mp member with isStanding | isOther
    · exact absurd allows (standing_allows_no_address config own address port policy isStanding rule isRule)
    · exact ⟨policy, isOther, rule, isRule, allows⟩
  · rintro ⟨policy, member, rule, isRule, allows⟩
    refine ⟨policy, List.mem_append_right _ member, ?_, rule, isRule, allows⟩
    rw [(plain policy member).2]
    exact List.mem_singleton.mpr rfl

/-- What is allowed is what the contract says, or everything where external egress is declared and everything is
    denied to it. -/
theorem allowed_iff_contract_or_open {config : NetworkPolicyConfig} {options : NetworkPolicyBuildOptions}
    {manifests : List NetworkPolicy} (accepted : assertValidNetworkPolicyConfig config = .ok ())
    (valid : ∀ endpoint ∈ options.apiServerEndpoints.getD [], ∃ address, parseIpv4Address endpoint.ip = .ok address)
    (built : networkPolicyManifests config options = .ok manifests) (own : Record) {address : Nat}
    (inSpace : address < ipv4Space) (port : Nat) :
    Allowed manifests (egressTo own address port) ↔
      Contract config options address port ∨
        .externalEgress ∈ options.capabilities.getD [] ∧
          ∀ other < ipv4Space, Denied (externalEgressDeniedCidrs config) other := by
  obtain ⟨apiServer, external, isApiServer, isExternal, rfl⟩ := networkPolicyManifests_ok built
  obtain ⟨plainApi, ofApi⟩ := egress_apiServer valid isApiServer
  obtain ⟨plainExt, ofExt⟩ := egress_external (parses_of_accepted accepted) isExternal
  have plain : ∀ policy ∈ apiServer ++ external, IsEgressPolicy policy :=
    List.forall_mem_append.mpr ⟨plainApi, plainExt⟩
  have parts : (∃ policy ∈ apiServer ++ external, ∃ rule ∈ policy.egress, rule.Allows (egressTo own address port)) ↔
      (∃ policy ∈ apiServer, ∃ rule ∈ policy.egress, rule.Allows (egressTo own address port)) ∨
        ∃ policy ∈ external, ∃ rule ∈ policy.egress, rule.Allows (egressTo own address port) := by
    simp only [List.mem_append, or_and_right, exists_or]
  rw [allowed_egress_iff plain, parts, ofApi, ofExt own address inSpace, Contract, and_or_left, or_assoc]
  exact or_congr_right or_comm

/-! ### Contracts with one digest -/

/-- Two policies that govern the same traffic and allow the same of it. -/
structure SameMeaning (one other : NetworkPolicy) : Prop where
  podSelector : one.podSelector = other.podSelector
  policyTypes : one.policyTypes = other.policyTypes
  allows : ∀ traffic : Traffic, (∃ rule ∈ one.rules traffic.direction, rule.Allows traffic) ↔
    ∃ rule ∈ other.rules traffic.direction, rule.Allows traffic

theorem SameMeaning.refl (policy : NetworkPolicy) : SameMeaning policy policy := ⟨rfl, rfl, fun _ => Iff.rfl⟩

/-- Policies of one egress rule mean the same where their rules allow the same. -/
theorem sameMeaning_of_rule {config config' : NetworkPolicyConfig} {suffix : String} {types : List Direction}
    {rule rule' : PolicyRule} (same : ∀ traffic, rule.Allows traffic ↔ rule'.Allows traffic) :
    SameMeaning (policyOf config suffix types [] [rule]) (policyOf config' suffix types [] [rule']) where
  podSelector := rfl
  policyTypes := rfl
  allows traffic := by
    cases isDirection : traffic.direction with
    | ingress => exact Iff.rfl
    | egress =>
        constructor
        · rintro ⟨one, isRule, allows⟩
          rw [List.mem_singleton.mp isRule] at allows
          exact ⟨rule', List.mem_singleton.mpr rfl, (same traffic).mp allows⟩
        · rintro ⟨one, isRule, allows⟩
          rw [List.mem_singleton.mp isRule] at allows
          exact ⟨rule, List.mem_singleton.mpr rfl, (same traffic).mpr allows⟩

theorem allowed_congr {policies others : List NetworkPolicy} (same : List.Forall₂ SameMeaning policies others)
    (traffic : Traffic) : Allowed policies traffic ↔ Allowed others traffic := by
  have governs : ∀ one other, SameMeaning one other → (one.Governs traffic ↔ other.Governs traffic) := by
    intro one other alike
    rw [NetworkPolicy.Governs, NetworkPolicy.Governs, alike.podSelector, alike.policyTypes]
  have governed := Keyed.exists_mem_iff_of_forall₂ governs same
  have allowing := Keyed.exists_mem_iff_of_forall₂
    (fun one other alike => and_congr (governs one other alike) (alike.allows traffic)) same
  refine or_congr ?_ allowing
  have ungoverned := not_congr governed
  push Not at ungoverned
  exact ungoverned

/-- The fields that decide what the policies say, up to the order of the lists among them. -/
structure SameContract (one other : NetworkPolicyConfig) : Prop where
  name : one.name = other.name
  dnsNamespace : one.dnsNamespace = other.dnsNamespace
  dnsPodSelector : one.dnsPodSelector.Perm other.dnsPodSelector
  podCidr : one.podCidr = other.podCidr
  serviceCidr : one.serviceCidr = other.serviceCidr
  allowExternalEgress : one.allowExternalEgress = other.allowExternalEgress
  additional : one.additionalDeniedEgressCidrs.Perm other.additionalDeniedEgressCidrs

theorem fromEntries_perm (entries : Record) : (fromEntries entries).Perm entries := inKeyOrder_perm entries

theorem sameContract_of_canonical {localeLe : Utf16 → Utf16 → Bool} {one other : NetworkPolicyConfig}
    (same : canonicalContract localeLe one = canonicalContract localeLe other) : SameContract one other := by
  simp only [canonicalContract, Document.object.injEq, List.cons.injEq, Prod.mk.injEq, Document.string.injEq,
    Document.boolean.injEq, Document.array.injEq, true_and, and_true] at same
  obtain ⟨name, dnsNamespace, selectors, podCidr, serviceCidr, allowed, additional⟩ := same
  have entry : Function.Injective fun entry : Utf16 × Utf16 => (entry.1, Document.string entry.2) := by
    rintro ⟨key, value⟩ ⟨key', value'⟩ same
    simpa using same
  have text : Function.Injective Document.string := fun _ _ same => Document.string.inj same
  have sortedSelectors := (List.map_injective_iff.mpr entry) selectors
  have sortedAdditional := (List.map_injective_iff.mpr text) additional
  refine ⟨name, dnsNamespace, ?_, podCidr, serviceCidr, allowed, ?_⟩
  · have first := (fromEntries_perm (one.dnsPodSelector.mergeSort fun a b => localeLe a.1 b.1)).trans
      (List.mergeSort_perm _ _)
    have second := (fromEntries_perm (other.dnsPodSelector.mergeSort fun a b => localeLe a.1 b.1)).trans
      (List.mergeSort_perm _ _)
    rw [sortedSelectors] at first
    exact first.symm.trans second
  · have first := List.mergeSort_perm one.additionalDeniedEgressCidrs unitsLe
    rw [sortedAdditional] at first
    exact first.symm.trans (List.mergeSort_perm _ _)

theorem SameContract.denied {one other : NetworkPolicyConfig} (same : SameContract one other) (address : Nat) :
    Denied (externalEgressDeniedCidrs one) address ↔ Denied (externalEgressDeniedCidrs other) address := by
  have members : ∀ text, text ∈ externalEgressDeniedCidrs one ↔ text ∈ externalEgressDeniedCidrs other := by
    intro text
    simp only [externalEgressDeniedCidrs, List.mem_append, same.podCidr, same.serviceCidr, same.additional.mem_iff]
  unfold Denied
  simp only [members]

theorem SameContract.standing {one other : NetworkPolicyConfig} (same : SameContract one other) :
    List.Forall₂ SameMeaning (standingPolicies one) (standingPolicies other) := by
  refine .cons ⟨rfl, rfl, fun _ => Iff.rfl⟩ (.cons ⟨rfl, rfl, fun _ => Iff.rfl⟩ (.cons ?_ .nil))
  refine sameMeaning_of_rule fun traffic => and_congr_left' (or_congr (by simp) ?_)
  have selects : ∀ labels, Selects one.dnsPodSelector labels ↔ Selects other.dnsPodSelector labels := by
    intro labels
    simp only [Selects, same.dnsPodSelector.mem_iff]
  simp only [List.mem_singleton, exists_eq_left, PolicyPeer.Matches, same.dnsNamespace, selects]

theorem SameContract.external {one other : NetworkPolicyConfig} (same : SameContract one other)
    (parsesOne : ∀ text ∈ externalEgressDeniedCidrs one, ∃ range, parseIpv4Cidr text = .ok range)
    (parsesOther : ∀ text ∈ externalEgressDeniedCidrs other, ∃ range, parseIpv4Cidr text = .ok range)
    {capabilities : List LabCapability} {external : List NetworkPolicy}
    (built : externalEgressPolicies one capabilities = .ok external) :
    ∃ external', externalEgressPolicies other capabilities = .ok external' ∧
      List.Forall₂ SameMeaning external external' := by
  rcases externalEgressPolicies_ok built with ⟨undeclared, rfl⟩ | ⟨declared, permitted, allowed, isAllowed, rfl⟩
  · exact ⟨[], if_neg undeclared, .nil⟩
  · obtain ⟨allowed', -, isAllowed', -⟩ := complement_has parsesOther
    refine ⟨[policyOf other "allow-external-egress" [.egress] [] [⟨allowed'.map PolicyPeer.ipBlock, []⟩]], ?_, ?_⟩
    · rw [externalEgressPolicies, if_pos declared, if_neg (by rw [← same.allowExternalEgress, permitted]; decide),
        externalEgressAllowedCidrs, isAllowed']
      rfl
    · refine .cons (sameMeaning_of_rule fun traffic => ?_) .nil
      rw [externalRule_allows parsesOne isAllowed, externalRule_allows parsesOther isAllowed']
      simp only [same.denied]

/-- The policies of one contract allow the same traffic. -/
theorem SameContract.allowed {one other : NetworkPolicyConfig} (same : SameContract one other)
    (acceptedOne : assertValidNetworkPolicyConfig one = .ok ())
    (acceptedOther : assertValidNetworkPolicyConfig other = .ok ()) {options : NetworkPolicyBuildOptions}
    {manifests : List NetworkPolicy} (built : networkPolicyManifests one options = .ok manifests) :
    ∃ manifests', networkPolicyManifests other options = .ok manifests' ∧
      ∀ traffic, Allowed manifests' traffic ↔ Allowed manifests traffic := by
  obtain ⟨apiServer, external, isApiServer, isExternal, rfl⟩ := networkPolicyManifests_ok built
  obtain ⟨external', isExternal', alike⟩ :=
    same.external (parses_of_accepted acceptedOne) (parses_of_accepted acceptedOther) isExternal
  have isApiServer' : apiServerPolicies other (options.apiServerEndpoints.getD []) = .ok apiServer := by
    rw [← isApiServer, apiServerPolicies, apiServerPolicies]
    unfold policyOf
    rw [same.name]
  refine ⟨standingPolicies other ++ (apiServer ++ external'), ?_, fun traffic => (allowed_congr ?_ traffic).symm⟩
  · rw [networkPolicyManifests, isApiServer', isExternal', ← List.append_assoc]
    rfl
  · exact List.rel_append same.standing (List.rel_append (List.forall₂_same.mpr fun one _ => .refl one) alike)

/-! ### The contract -/

/-- A port that no endpoint has. -/
theorem exists_free_port (endpoints : List ApiServerEndpoint) : ∃ port, ∀ endpoint ∈ endpoints, endpoint.port < port := by
  induction endpoints with
  | nil => exact ⟨0, fun endpoint impossible => nomatch impossible⟩
  | cons endpoint rest ih =>
      obtain ⟨port, above⟩ := ih
      refine ⟨max port (endpoint.port + 1), List.forall_mem_cons.mpr ⟨by omega, fun other member => ?_⟩⟩
      have := above other member
      omega

/-- The policies of an accepted configuration allow just the traffic of the contract, unless external egress is
    declared and every address is denied. Configurations with one digest allow the same traffic. -/
theorem policies_mean_the_contract_iff (localeLe : Utf16 → Utf16 → Bool) (stringify : Document → Utf16)
    (sha256 : Utf16 → Utf16) (config : NetworkPolicyConfig)
    (accepted : assertValidNetworkPolicyConfig config = .ok ()) :
    (∀ options manifests,
      (∀ endpoint ∈ options.apiServerEndpoints.getD [], ∃ address, parseIpv4Address endpoint.ip = .ok address) →
      networkPolicyManifests config options = .ok manifests →
      ((∀ own, ∀ address < ipv4Space, ∀ port,
          Allowed manifests (egressTo own address port) ↔ Contract config options address port) ↔
        ¬ (.externalEgress ∈ options.capabilities.getD [] ∧
          ∀ address < ipv4Space, Denied (externalEgressDeniedCidrs config) address))) ∧
    ∀ other, assertValidNetworkPolicyConfig other = .ok () →
      -- no collision between the two contracts
      (networkPolicyContractDigest localeLe stringify sha256 config =
          networkPolicyContractDigest localeLe stringify sha256 other →
        canonicalContract localeLe config = canonicalContract localeLe other) →
      networkPolicyContractDigest localeLe stringify sha256 config =
        networkPolicyContractDigest localeLe stringify sha256 other →
      ∀ options manifests, networkPolicyManifests config options = .ok manifests →
        ∃ manifests', networkPolicyManifests other options = .ok manifests' ∧
          ∀ traffic, Allowed manifests' traffic ↔ Allowed manifests traffic := by
  constructor
  · intro options manifests valid built
    have allowed := @allowed_iff_contract_or_open config options manifests accepted valid built
    constructor
    · rintro asSaid ⟨declared, denied⟩
      obtain ⟨port, free⟩ := exists_free_port (options.apiServerEndpoints.getD [])
      have inSpace : 0 < ipv4Space := by decide
      have opened := (allowed [] inSpace port).mpr (.inr ⟨declared, denied⟩)
      rcases (asSaid [] 0 inSpace port).mp opened with ⟨endpoint, member, -, same⟩ | ⟨-, notDenied⟩
      · exact absurd same (free endpoint member).ne
      · exact notDenied (denied 0 inSpace)
    · intro notOpen own address inSpace port
      rw [allowed own inSpace port]
      exact or_iff_left notOpen
  · intro other acceptedOther noCollision sameDigest options manifests built
    exact (sameContract_of_canonical (noCollision sameDigest)).allowed accepted acceptedOther built

/-- A configuration, up to the ranges that are denied on top. -/
def sampleConfig (additional : List Utf16) : NetworkPolicyConfig where
  name := units "jumptotech-session-isolation"
  dnsNamespace := units "kube-system"
  dnsPodSelector := [(units "k8s-app", units "kube-dns")]
  podCidr := units "10.244.0.0/16"
  serviceCidr := units "10.96.0.0/12"
  allowExternalEgress := true
  additionalDeniedEgressCidrs := additional
  maxAgeSeconds := .finite 86400
  distinct := by simp [Keyed.Distinct]

def sampleOptions : NetworkPolicyBuildOptions :=
  ⟨some [.externalEgress], some [⟨units "10.0.0.10", 6443⟩]⟩

/-- The digest of the sample's contract. -/
def sampleSha256 (text : Utf16) : Utf16 :=
  if text = units ("\x7b\"contract\":\"beta-p0-015.1\",\"name\":\"jumptotech-session-isolation\"," ++
      "\"dnsNamespace\":\"kube-system\",\"dnsPodSelector\":\x7b\"k8s-app\":\"kube-dns\"\x7d," ++
      "\"podCidr\":\"10.244.0.0/16\",\"serviceCidr\":\"10.96.0.0/12\",\"allowExternalEgress\":true," ++
      "\"additionalDeniedEgressCidrs\":[\"1.1.1.0/24\",\"8.8.8.0/24\"]\x7d")
  then units "dd28ffb88ac88ef90491fcdc45ce70c1c0ee05a1a5537dd770cee6be8f32091a" else []

theorem policies_mean_the_contract_iff_sample :
    ∃ manifests manifests',
      networkPolicyManifests (sampleConfig [units "8.8.8.0/24", units "1.1.1.0/24"]) sampleOptions = .ok manifests ∧
      networkPolicyManifests (sampleConfig [units "1.1.1.0/24", units "8.8.8.0/24"]) sampleOptions = .ok manifests' ∧
      ((∀ own, ∀ address < ipv4Space, ∀ port, Allowed manifests (egressTo own address port) ↔
          Contract (sampleConfig [units "8.8.8.0/24", units "1.1.1.0/24"]) sampleOptions address port) ↔
        ¬ (.externalEgress ∈ sampleOptions.capabilities.getD [] ∧ ∀ address < ipv4Space,
          Denied (externalEgressDeniedCidrs (sampleConfig [units "8.8.8.0/24", units "1.1.1.0/24"])) address)) ∧
      ∀ traffic, Allowed manifests' traffic ↔ Allowed manifests traffic := by
  have accepted : assertValidNetworkPolicyConfig (sampleConfig [units "8.8.8.0/24", units "1.1.1.0/24"]) = .ok () := by
    decide
  have acceptedOther :
      assertValidNetworkPolicyConfig (sampleConfig [units "1.1.1.0/24", units "8.8.8.0/24"]) = .ok () := by
    decide
  have valid : ∀ endpoint ∈ sampleOptions.apiServerEndpoints.getD [],
      ∃ address, parseIpv4Address endpoint.ip = .ok address := by
    intro endpoint member
    rw [List.mem_singleton.mp member]
    exact ⟨167772170, by decide⟩
  have sameTexts : [units "8.8.8.0/24", units "1.1.1.0/24"].mergeSort unitsLe =
      [units "1.1.1.0/24", units "8.8.8.0/24"].mergeSort unitsLe := by
    have later : unitsLe (units "8.8.8.0/24") (units "1.1.1.0/24") = false := by decide
    have earlier : unitsLe (units "1.1.1.0/24") (units "8.8.8.0/24") = true := by decide
    simp [List.mergeSort, later, earlier]
  have same : canonicalContract unitsLe (sampleConfig [units "8.8.8.0/24", units "1.1.1.0/24"]) =
      canonicalContract unitsLe (sampleConfig [units "1.1.1.0/24", units "8.8.8.0/24"]) := by
    simp only [canonicalContract, sampleConfig, sameTexts]
  have builds : (networkPolicyManifests (sampleConfig [units "8.8.8.0/24", units "1.1.1.0/24"]) sampleOptions).isOk =
      true := by decide
  cases built : networkPolicyManifests (sampleConfig [units "8.8.8.0/24", units "1.1.1.0/24"]) sampleOptions with
  | error reason =>
      rw [built] at builds
      cases builds
  | ok manifests =>
      obtain ⟨asSaid, digests⟩ := policies_mean_the_contract_iff unitsLe
        (Document.write ⟨fun _ => "0", fun _ => .nan⟩) sampleSha256 _ accepted
      obtain ⟨manifests', built', allowed⟩ := digests _ acceptedOther (fun _ => same)
        (congrArg (fun document => sampleSha256 (Document.write ⟨fun _ => "0", fun _ => .nan⟩ document)) same)
        _ _ built
      exact ⟨manifests, manifests', rfl, built', asSaid _ _ valid built, allowed⟩

/-- With everything denied on top the policy of external egress has a rule without a peer, and the session reaches
    8.8.8.8 at every port. -/
theorem everything_denied_is_everything_allowed :
    assertValidNetworkPolicyConfig (sampleConfig [units "0.0.0.0/0"]) = .ok () ∧
      ∃ manifests, networkPolicyManifests (sampleConfig [units "0.0.0.0/0"]) sampleOptions = .ok manifests ∧
        Allowed manifests (egressTo [] 134744072 443) ∧
        ¬ Contract (sampleConfig [units "0.0.0.0/0"]) sampleOptions 134744072 443 := by
  have accepted : assertValidNetworkPolicyConfig (sampleConfig [units "0.0.0.0/0"]) = .ok () := by decide
  have builds : (networkPolicyManifests (sampleConfig [units "0.0.0.0/0"]) sampleOptions).isOk = true := by
    decide
  have denied : ∀ address < ipv4Space,
      Denied (externalEgressDeniedCidrs (sampleConfig [units "0.0.0.0/0"])) address := by
    intro address inSpace
    refine ⟨units "0.0.0.0/0", List.mem_append_right _ (List.mem_singleton.mpr rfl), ⟨0, 2 ^ 32 - 1⟩,
      by decide, Nat.zero_le _, ?_⟩
    show address ≤ 2 ^ 32 - 1
    have : address < 2 ^ 32 := inSpace
    omega
  have valid : ∀ endpoint ∈ sampleOptions.apiServerEndpoints.getD [],
      ∃ address, parseIpv4Address endpoint.ip = .ok address := by
    intro endpoint member
    rw [List.mem_singleton.mp member]
    exact ⟨167772170, by decide⟩
  refine ⟨accepted, ?_⟩
  cases built : networkPolicyManifests (sampleConfig [units "0.0.0.0/0"]) sampleOptions with
  | error reason =>
      rw [built] at builds
      cases builds
  | ok manifests =>
      have inSpace : 134744072 < ipv4Space := by decide
      have opened := allowed_iff_contract_or_open accepted valid built [] inSpace 443
      refine ⟨manifests, rfl, opened.mpr (.inr ⟨List.mem_singleton.mpr rfl, denied⟩), ?_⟩
      rintro (⟨endpoint, member, parsed, -⟩ | ⟨-, notDenied⟩)
      · rw [List.mem_singleton.mp member] at parsed
        have isOther : parseIpv4Address (units "10.0.0.10") = .ok 167772170 := by decide
        rw [isOther] at parsed
        cases parsed
      · exact notDenied (denied _ inSpace)

end JumptotechLabs.Kubernetes
