/-
Module: JumptotechLabs.Verifier.CidrAgreement
Layer: Verifier (services/verifier/src/cidr.ts beside services/lab-orchestrator/src/k8s/cidr.ts)
Purpose: The two CIDR parsers were written apart, one with patterns and remainders, the other with
  splitting, length limits and masks. They accept the same texts with the same block, where the verifier
  has no host bits to clear.
Main exports: isOctet_iff_parseOctet, matchCidr_eq_some_iff, normalised_eq_false_iff, parsers_agree
-/
import JumptotechLabs.Kubernetes.Cidr
import JumptotechLabs.Verifier.Cidr

namespace JumptotechLabs.Verifier

open JumptotechLabs.Core

/-- The octets the verifier takes. -/
theorem parseOctet_eq_some_iff {part : Utf16} {octet : Nat} :
    parseOctet part = some octet ↔
      (part.all Utf16.isDigit = true ∧ 1 ≤ part.length ∧ part.length ≤ 3) ∧
        ¬ (1 < part.length ∧ part.head? = some (unitOf '0')) ∧ part.digitsValue ≤ 255 ∧
        octet = part.digitsValue := by
  rw [parseOctet]
  split
  · rename_i malformed
    simp only [Bool.not_eq_true', Bool.and_eq_false_iff, decide_eq_false_iff_not] at malformed
    constructor
    · intro impossible
      cases impossible
    · rintro ⟨⟨digits, present, short⟩, -⟩
      simp [digits, present, short] at malformed
  · rename_i wellFormed
    have shape : part.all Utf16.isDigit = true ∧ 1 ≤ part.length ∧ part.length ≤ 3 := by
      simpa only [Bool.not_eq_true', Bool.not_eq_false, Bool.and_eq_true, decide_eq_true_eq,
        and_assoc] using wellFormed
    split
    · rename_i leading
      simp only [Bool.and_eq_true, decide_eq_true_eq, beq_iff_eq] at leading
      simp [leading]
    · rename_i notLeading
      simp only [Bool.and_eq_true, decide_eq_true_eq, beq_iff_eq] at notLeading
      split
      · rename_i large
        constructor
        · intro impossible
          cases impossible
        · rintro ⟨-, -, small, -⟩
          omega
      · rename_i small
        rw [Option.some.injEq]
        constructor
        · intro same
          exact ⟨shape, notLeading, by omega, same.symm⟩
        · rintro ⟨-, -, -, same⟩
          exact same.symm

/-- The two take the same texts for an octet. -/
theorem isOctet_iff_parseOctet {part : Utf16} {octet : Nat} :
    parseOctet part = some octet ↔ Kubernetes.IsOctet part ∧ octet = part.digitsValue := by
  rw [parseOctet_eq_some_iff, Kubernetes.IsOctet]
  cases part with
  | nil => simp [Kubernetes.isOctetText]
  | cons first rest =>
      rw [Kubernetes.isOctetText]
      by_cases leading : first = unitOf '0'
      · have digit : Utf16.isDigit (unitOf '0') = true := by decide
        subst leading
        cases rest with
        | nil => simp [digit]
        | cons second others => simp
      · have short : rest.length + 1 ≤ 3 ↔ rest.length ≤ 2 := by omega
        simp [leading, short]
        tauto

theorem parsePrefix_eq_some_iff {behind : Utf16} {prefixLength : Nat} :
    parsePrefix behind = some prefixLength ↔
      (1 ≤ behind.length ∧ behind.length ≤ 2 ∧ behind.all Utf16.isDigit = true) ∧
        prefixLength = behind.digitsValue := by
  rw [parsePrefix]
  split
  · rename_i shape
    simp only [Bool.and_eq_true, decide_eq_true_eq] at shape
    simp only [shape, and_self, true_and, Option.some.injEq]
    exact eq_comm
  · rename_i shape
    simp only [Bool.and_eq_true, decide_eq_true_eq] at shape
    constructor
    · intro impossible
      cases impossible
    · rintro ⟨⟨present, short, digits⟩, -⟩
      exact absurd ⟨⟨digits, present⟩, short⟩ shape

/-- The texts the pattern of the orchestrator matches. -/
theorem matchCidr_eq_some_iff {text address behind : Utf16} :
    Kubernetes.matchCidr text = some (address, behind) ↔
      text = address ++ unitOf '/' :: behind ∧ unitOf '/' ∉ address ∧ address ≠ [] ∧
        parsePrefix behind = some behind.digitsValue := by
  rw [parsePrefix_eq_some_iff, Kubernetes.matchCidr]
  simp only [and_true]
  cases isCut : Utf16.cutAt (unitOf '/') text with
  | none =>
      simp only [reduceCtorEq, false_iff]
      rintro ⟨whole, absent, -⟩
      rw [Utf16.cutAt_eq_some_iff.mpr ⟨whole, absent⟩] at isCut
      cases isCut
  | some parts =>
      obtain ⟨before, after⟩ := parts
      rw [← and_assoc, ← Utf16.cutAt_eq_some_iff, isCut]
      simp only [Option.ite_none_right_eq_some, Option.some.injEq, Prod.mk.injEq]
      constructor
      · rintro ⟨shape, rfl, rfl⟩
        exact ⟨⟨rfl, rfl⟩, shape⟩
      · rintro ⟨⟨rfl, rfl⟩, shape⟩
        exact ⟨shape, rfl, rfl⟩

/-- The address a text of four octets is, read either way. -/
theorem parseIpv4Address_ok_iff_mapM {address : Utf16} {value : Nat} :
    Kubernetes.parseIpv4Address address = .ok value ↔
      ∃ octets, (address.splitOn (unitOf '.')).length = 4 ∧
        (address.splitOn (unitOf '.')).mapM parseOctet = some octets ∧
        (toInt octets).toNat = value := by
  rw [Kubernetes.parseIpv4Address_ok_iff]
  constructor
  · rintro ⟨p, q, r, s, isParts, isP, isQ, isR, isS, rfl⟩
    refine ⟨[p.digitsValue, q.digitsValue, r.digitsValue, s.digitsValue], by rw [isParts]; rfl, ?_, ?_⟩
    · rw [isParts]
      simp [isOctet_iff_parseOctet.mpr ⟨isP, rfl⟩, isOctet_iff_parseOctet.mpr ⟨isQ, rfl⟩,
        isOctet_iff_parseOctet.mpr ⟨isR, rfl⟩, isOctet_iff_parseOctet.mpr ⟨isS, rfl⟩]
    · have bounds := And.intro isP.2 (And.intro isQ.2 (And.intro isR.2 isS.2))
      exact toNat_toInt (by omega) (by omega) (by omega) (by omega)
  · rintro ⟨octets, four, isOctets, rfl⟩
    obtain ⟨p, q, r, s, isParts⟩ : ∃ p q r s, address.splitOn (unitOf '.') = [p, q, r, s] := by
      match address.splitOn (unitOf '.'), four with
      | [p, q, r, s], _ => exact ⟨p, q, r, s, rfl⟩
    rw [isParts] at isOctets
    simp only [List.mapM_cons, List.mapM_nil, Option.bind_eq_bind, Option.bind_eq_some_iff,
      Option.pure_def, Option.some.injEq, isOctet_iff_parseOctet] at isOctets
    obtain ⟨_, ⟨isP, rfl⟩, _, ⟨_, ⟨isQ, rfl⟩, _, ⟨_, ⟨isR, rfl⟩, _, ⟨_, ⟨isS, rfl⟩, _, rfl, rfl⟩,
      rfl⟩, rfl⟩, rfl⟩ := isOctets
    have bounds := And.intro isP.2 (And.intro isQ.2 (And.intro isR.2 isS.2))
    exact ⟨p, q, r, s, isParts, isP, isQ, isR, isS,
      toNat_toInt (by omega) (by omega) (by omega) (by omega)⟩

/-- An address that is accepted has at most fifteen units. -/
theorem length_le_of_parseIpv4Address {address : Utf16} {value : Nat}
    (parsed : Kubernetes.parseIpv4Address address = .ok value) : address.length ≤ 15 := by
  obtain ⟨p, q, r, s, isParts, isP, isQ, isR, isS, -⟩ :=
    Kubernetes.parseIpv4Address_ok_iff.mp parsed
  have short : ∀ {part : Utf16}, Kubernetes.IsOctet part → part.length ≤ 3 := by
    intro part isOctet
    exact (parseOctet_eq_some_iff.mp (isOctet_iff_parseOctet.mpr ⟨isOctet, rfl⟩)).1.2.2
  have shortP := short isP
  have shortQ := short isQ
  have shortR := short isR
  have shortS := short isS
  have whole : [unitOf '.'].intercalate (address.splitOn (unitOf '.')) = address :=
    List.intercalate_splitOn _
  rw [← whole, isParts]
  simp only [List.intercalate, List.intersperse_cons_cons, List.intersperse_singleton,
    List.flatten_cons, List.flatten_nil, List.append_nil, List.length_append, List.length_singleton]
  omega

/-- The verifier has no host bits to clear where the address is a multiple of the block's size. -/
theorem normalised_eq_false_iff {raw : BitVec 32} {prefixLength : Nat} (bounded : prefixLength ≤ 32) :
    (blockOf raw prefixLength).normalised = false ↔ 2 ^ (32 - prefixLength) ∣ raw.toNat := by
  have cleared : (blockOf raw prefixLength).normalised = false ↔
      raw &&& maskFor prefixLength = raw := by
    simp [blockOf]
  rw [cleared, ← BitVec.toNat_inj, toNat_and_mask raw bounded]
  exact Nat.dvd_iff_div_mul_eq _ _ |>.symm

theorem network_blockOf {raw : BitVec 32} {prefixLength : Nat} (bounded : prefixLength ≤ 32)
    (aligned : 2 ^ (32 - prefixLength) ∣ raw.toNat) :
    (blockOf raw prefixLength).network = raw.toNat := by
  show (raw &&& maskFor prefixLength).toNat = raw.toNat
  rw [toNat_and_mask raw bounded, Nat.div_mul_cancel aligned]

theorem broadcast_blockOf (raw : BitVec 32) {prefixLength : Nat} (bounded : prefixLength ≤ 32) :
    (blockOf raw prefixLength).broadcast =
      (blockOf raw prefixLength).network + 2 ^ (32 - prefixLength) - 1 := by
  have whole := (wellFormed_blockOf raw bounded).whole
  have counted : (blockOf raw prefixLength).addressCount = 2 ^ (32 - prefixLength) := rfl
  omega

/-- The orchestrator accepts a text exactly when the verifier does and clears no host bits, and both have
    the same first and last address. -/
theorem parsers_agree (text : Utf16) (range : Kubernetes.Ipv4Range) :
    Kubernetes.parseIpv4Cidr text = .ok range ↔
      ∃ cidr, parseIpv4Cidr text = some cidr ∧ cidr.normalised = false ∧
        range = ⟨cidr.network, cidr.broadcast⟩ := by
  rw [Kubernetes.parseIpv4Cidr_ok_iff]
  constructor
  · rintro ⟨address, behind, value, isMatch, bounded, isAddress, aligned, rfl⟩
    obtain ⟨whole, absent, -, isPrefix⟩ := matchCidr_eq_some_iff.mp isMatch
    obtain ⟨⟨-, short, digits⟩, -⟩ := parsePrefix_eq_some_iff.mp isPrefix
    have addressShort := length_le_of_parseIpv4Address isAddress
    obtain ⟨octets, four, isOctets, rfl⟩ := parseIpv4Address_ok_iff_mapM.mp isAddress
    have noHost := (normalised_eq_false_iff bounded).mpr aligned
    refine ⟨blockOf (toInt octets) behind.digitsValue, ?_, noHost, ?_⟩
    · refine parseIpv4Cidr_eq_some_iff.mpr ⟨address, behind, _, octets, whole, absent, ?_, ?_, isPrefix,
        bounded, four, isOctets, rfl⟩
      · intro inside
        exact absurd (List.all_eq_true.mp digits _ inside) (by decide)
      · rw [whole, List.length_append, List.length_cons]
        omega
    · rw [broadcast_blockOf _ bounded, network_blockOf bounded aligned]
  · rintro ⟨cidr, parsed, noHost, rfl⟩
    obtain ⟨address, behind, prefixLength, octets, whole, absent, -, -, isPrefix, bounded, four,
      isOctets, rfl⟩ := parseIpv4Cidr_eq_some_iff.mp parsed
    obtain ⟨shape, rfl⟩ := parsePrefix_eq_some_iff.mp isPrefix
    have aligned := (normalised_eq_false_iff bounded).mp noHost
    have nonempty : address ≠ [] := by
      rintro rfl
      exact absurd four (by decide)
    refine ⟨address, behind, (toInt octets).toNat,
      matchCidr_eq_some_iff.mpr ⟨whole, absent, nonempty, isPrefix⟩, bounded,
      parseIpv4Address_ok_iff_mapM.mpr ⟨octets, four, isOctets, rfl⟩, aligned, ?_⟩
    rw [broadcast_blockOf _ bounded, network_blockOf bounded aligned]

end JumptotechLabs.Verifier
