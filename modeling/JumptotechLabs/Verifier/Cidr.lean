/-
Module: JumptotechLabs.Verifier.Cidr
Layer: Verifier (services/verifier/src/cidr.ts)
Purpose: The verifier's IPv4 CIDR arithmetic, in the 32-bit operations of the language. An accepted block
  is an aligned block of addresses; its canonical text reads back as the same block; overlap, containment
  and the count of free addresses are those of the sets of addresses.
Main exports: Ipv4Cidr, parseIpv4Cidr, cidrContains, cidrsOverlap, freeAddresses, parse_cases,
  parse_canonicalText, Ipv4Cidr.Has, blocks_are_address_sets
-/
import JumptotechLabs.Core.Aligned
import JumptotechLabs.Core.Dotted
import Mathlib.Data.Nat.Bitwise
import Mathlib.Order.Interval.Finset.Nat
import Mathlib.Tactic.Ring

namespace JumptotechLabs.Verifier

open JumptotechLabs.Core

/-- A parsed block, host bits cleared. -/
structure Ipv4Cidr where
  text : Utf16
  network : Nat
  broadcast : Nat
  prefixLength : Nat
  addressCount : Nat
  normalised : Bool
deriving DecidableEq

/-- `toInt`. -/
def toInt (octets : List Nat) : BitVec 32 :=
  (BitVec.ofNat 32 (octets.getD 0 0) <<< 24) ||| (BitVec.ofNat 32 (octets.getD 1 0) <<< 16) |||
    (BitVec.ofNat 32 (octets.getD 2 0) <<< 8) ||| BitVec.ofNat 32 (octets.getD 3 0)

/-- `toDotted`. -/
def toDotted (value : BitVec 32) : Utf16 :=
  [unitOf '.'].intercalate
    ([(value >>> 24) &&& 0xff#32, (value >>> 16) &&& 0xff#32, (value >>> 8) &&& 0xff#32,
      value &&& 0xff#32].map fun octet => Utf16.decimal octet.toNat)

/-- `maskFor`: the mask of a netmask length, without a shift by 32. -/
def maskFor (prefixLength : Nat) : BitVec 32 :=
  if prefixLength = 0 then 0#32 else 0xffffffff#32 <<< (32 - prefixLength)

/-- One part of an address: one to three digits, no leading zero, at most 255. -/
def parseOctet (part : Utf16) : Option Nat :=
  if !(part.all Utf16.isDigit && 1 ≤ part.length && part.length ≤ 3) then none
  else if 1 < part.length && part.head? == some (unitOf '0') then none
  else if 255 < part.digitsValue then none
  else some part.digitsValue

/-- `/^\d{1,2}$/`, and its number. -/
def parsePrefix (text : Utf16) : Option Nat :=
  if text.all Utf16.isDigit && 1 ≤ text.length && text.length ≤ 2 then some text.digitsValue else none

/-- The block of an address and a netmask length. -/
def blockOf (raw : BitVec 32) (prefixLength : Nat) : Ipv4Cidr :=
  let mask := maskFor prefixLength
  let network := raw &&& mask
  let broadcast := network ||| ~~~mask
  { text := toDotted network ++ unitOf '/' :: Utf16.decimal prefixLength
    network := network.toNat
    broadcast := broadcast.toNat
    prefixLength := prefixLength
    addressCount := 2 ^ (32 - prefixLength)
    normalised := network ≠ raw }

/-- `parseIpv4Cidr`. -/
def parseIpv4Cidr (input : Utf16) : Option Ipv4Cidr :=
  let text := input.trim
  if text.length = 0 || 18 < text.length then none
  else
    match text.cutAt (unitOf '/') with
    | none => none
    | some (address, behind) =>
        if unitOf '/' ∈ behind then none
        else
          match parsePrefix behind with
          | none => none
          | some prefixLength =>
              if 32 < prefixLength then none
              else
                let parts := address.splitOn (unitOf '.')
                if parts.length ≠ 4 then none
                else (parts.mapM parseOctet).map fun octets => blockOf (toInt octets) prefixLength

/-- `cidrContains`. -/
def cidrContains (outer inner : Ipv4Cidr) : Bool :=
  decide (outer.network ≤ inner.network) && decide (inner.broadcast ≤ outer.broadcast)

/-- `cidrsOverlap`. -/
def cidrsOverlap (a b : Ipv4Cidr) : Bool :=
  decide (a.network ≤ b.broadcast) && decide (b.network ≤ a.broadcast)

/-- `freeAddresses`: a child outside the parent counts for nothing. -/
def freeAddresses (parent : Ipv4Cidr) (children : List Ipv4Cidr) : Nat :=
  let used := children.foldl (fun used child =>
    if cidrContains parent child then used + child.addressCount else used) 0
  parent.addressCount - used

/-! ### The 32-bit operations -/

theorem maskFor_eq {prefixLength : Nat} (bounded : prefixLength ≤ 32) :
    maskFor prefixLength = BitVec.allOnes 32 <<< (32 - prefixLength) := by
  rw [maskFor]
  split
  · rename_i isZero
    subst isZero
    decide
  · rfl

/-- Clearing the host bits rounds down to a multiple of the block's size. -/
theorem toNat_and_mask (raw : BitVec 32) {prefixLength : Nat} (bounded : prefixLength ≤ 32) :
    (raw &&& maskFor prefixLength).toNat =
      raw.toNat / 2 ^ (32 - prefixLength) * 2 ^ (32 - prefixLength) := by
  have cleared : raw &&& maskFor prefixLength =
      (raw >>> (32 - prefixLength)) <<< (32 - prefixLength) := by
    rw [maskFor_eq bounded]
    ext index inRange
    simp only [BitVec.getElem_and, BitVec.getElem_shiftLeft, BitVec.getElem_allOnes,
      BitVec.getElem_ushiftRight]
    by_cases low : index < 32 - prefixLength
    · simp [low]
    · have back : 32 - prefixLength + (index - (32 - prefixLength)) = index := by omega
      simp [low, back, inRange]
  have small : raw.toNat / 2 ^ (32 - prefixLength) * 2 ^ (32 - prefixLength) < 2 ^ 32 :=
    lt_of_le_of_lt (Nat.div_mul_le_self _ _) raw.isLt
  rw [cleared, BitVec.toNat_shiftLeft, BitVec.toNat_ushiftRight, Nat.shiftRight_eq_div_pow,
    Nat.shiftLeft_eq, Nat.mod_eq_of_lt small]

theorem toNat_not_mask {prefixLength : Nat} (bounded : prefixLength ≤ 32) :
    (~~~(maskFor prefixLength)).toNat = 2 ^ (32 - prefixLength) - 1 := by
  rw [maskFor_eq bounded]
  apply Nat.eq_of_testBit_eq
  intro index
  rw [BitVec.testBit_toNat, Nat.testBit_two_pow_sub_one]
  simp only [BitVec.getLsbD_not, BitVec.getLsbD_shiftLeft, BitVec.getLsbD_allOnes]
  by_cases low : index < 32 - prefixLength
  · have inRange : index < 32 := by omega
    simp [low, inRange]
  · by_cases inRange : index < 32
    · have shifted : index - (32 - prefixLength) < 32 := by omega
      simp [low, inRange, shifted]
    · simp [low, inRange]

/-- Setting the host bits gives the last address of the block. -/
theorem toNat_or_host (raw : BitVec 32) {prefixLength : Nat} (bounded : prefixLength ≤ 32) :
    ((raw &&& maskFor prefixLength) ||| ~~~(maskFor prefixLength)).toNat =
      (raw &&& maskFor prefixLength).toNat + (2 ^ (32 - prefixLength) - 1) := by
  have apart : (raw &&& maskFor prefixLength) &&& ~~~(maskFor prefixLength) = 0#32 := by
    ext index inRange
    simp
  have small := BitVec.toNat_add_of_and_eq_zero apart
  rw [← BitVec.add_eq_or_of_and_eq_zero _ _ apart, small, toNat_not_mask bounded]

/-- The address that four octets make. -/
theorem toNat_toInt {a b c d : Nat} (ha : a < 256) (hb : b < 256) (hc : c < 256) (hd : d < 256) :
    (toInt [a, b, c, d]).toNat = ((a * 256 + b) * 256 + c) * 256 + d := by
  have first : a <<< 24 ||| b <<< 16 = (a * 256 + b) <<< 16 := by
    rw [← Nat.shiftLeft_add_eq_or_of_lt (by rw [Nat.shiftLeft_eq]; omega), Nat.shiftLeft_eq,
      Nat.shiftLeft_eq, Nat.shiftLeft_eq]
    ring
  have second : (a * 256 + b) <<< 16 ||| c <<< 8 = ((a * 256 + b) * 256 + c) <<< 8 := by
    rw [← Nat.shiftLeft_add_eq_or_of_lt (by rw [Nat.shiftLeft_eq]; omega), Nat.shiftLeft_eq,
      Nat.shiftLeft_eq, Nat.shiftLeft_eq]
    ring
  have third : ((a * 256 + b) * 256 + c) <<< 8 ||| d = ((a * 256 + b) * 256 + c) * 256 + d := by
    rw [← Nat.shiftLeft_add_eq_or_of_lt hd, Nat.shiftLeft_eq]
  have shifted : ∀ {octet shift : Nat}, octet < 256 → shift ≤ 24 →
      (BitVec.ofNat 32 octet <<< shift).toNat = octet <<< shift := by
    intro octet shift small short
    have power : 2 ^ shift ≤ 2 ^ 24 := Nat.pow_le_pow_right (by decide) short
    have bounded : octet * 2 ^ shift < 2 ^ 32 := by
      calc octet * 2 ^ shift ≤ octet * 2 ^ 24 := Nat.mul_le_mul_left _ power
        _ < 2 ^ 32 := by omega
    have kept : octet % 2 ^ 32 = octet := Nat.mod_eq_of_lt (by omega)
    rw [BitVec.toNat_shiftLeft, BitVec.toNat_ofNat, kept, Nat.shiftLeft_eq, Nat.mod_eq_of_lt bounded]
  have last : (BitVec.ofNat 32 d).toNat = d := by
    rw [BitVec.toNat_ofNat, Nat.mod_eq_of_lt (by omega)]
  simp only [toInt, List.getD_cons_zero, List.getD_cons_succ, BitVec.toNat_or]
  rw [shifted ha (by decide), shifted hb (by decide), shifted hc (by decide), last, first, second,
    third]

/-! ### What the parser accepts -/

/-- What is accepted, piece by piece. -/
theorem parseIpv4Cidr_eq_some_iff {input : Utf16} {cidr : Ipv4Cidr} :
    parseIpv4Cidr input = some cidr ↔
      ∃ address behind prefixLength octets, input.trim = address ++ unitOf '/' :: behind ∧
        unitOf '/' ∉ address ∧ unitOf '/' ∉ behind ∧ input.trim.length ≤ 18 ∧
        parsePrefix behind = some prefixLength ∧ prefixLength ≤ 32 ∧
        (address.splitOn (unitOf '.')).length = 4 ∧
        (address.splitOn (unitOf '.')).mapM parseOctet = some octets ∧
        cidr = blockOf (toInt octets) prefixLength := by
  constructor
  · intro parsed
    rw [parseIpv4Cidr] at parsed
    split at parsed
    · cases parsed
    · rename_i lengths
      simp only [Bool.or_eq_true, decide_eq_true_eq, not_or, not_lt] at lengths
      split at parsed
      · cases parsed
      · rename_i address behind isCut
        obtain ⟨whole, absent⟩ := Utf16.cutAt_eq_some_iff.mp isCut
        split at parsed
        · cases parsed
        · rename_i single
          split at parsed
          · cases parsed
          · rename_i prefixLength isPrefix
            split at parsed
            · cases parsed
            · rename_i bounded
              simp only at parsed
              split at parsed
              · cases parsed
              · rename_i four
                obtain ⟨octets, isOctets, rfl⟩ := Option.map_eq_some_iff.mp parsed
                exact ⟨address, behind, prefixLength, octets, whole, absent, single, lengths.2,
                  isPrefix, by omega, by simpa using four, isOctets, rfl⟩
  · rintro ⟨address, behind, prefixLength, octets, whole, absent, single, short, isPrefix, bounded,
      four, isOctets, rfl⟩
    have isCut : Utf16.cutAt (unitOf '/') input.trim = some (address, behind) :=
      Utf16.cutAt_eq_some_iff.mpr ⟨whole, absent⟩
    have nonempty : ¬ input.trim = [] := by
      rw [whole]
      simp
    rw [parseIpv4Cidr, if_neg (by simpa using ⟨nonempty, short⟩), isCut]
    simp only [if_neg single, isPrefix, if_neg (show ¬ 32 < prefixLength by omega), four, isOctets]
    rfl

/-- An accepted block is the block of some address and netmask length. -/
theorem parse_cases {input : Utf16} {cidr : Ipv4Cidr} (parsed : parseIpv4Cidr input = some cidr) :
    ∃ raw prefixLength, prefixLength ≤ 32 ∧ cidr = blockOf raw prefixLength := by
  obtain ⟨_, _, prefixLength, octets, -, -, -, -, -, bounded, -, -, rfl⟩ :=
    parseIpv4Cidr_eq_some_iff.mp parsed
  exact ⟨_, prefixLength, bounded, rfl⟩

/-! ### Blocks as sets of addresses -/

/-- The address lies in the block. -/
def Ipv4Cidr.Has (cidr : Ipv4Cidr) (address : Nat) : Prop :=
  cidr.network ≤ address ∧ address ≤ cidr.broadcast

instance (cidr : Ipv4Cidr) (address : Nat) : Decidable (cidr.Has address) :=
  inferInstanceAs (Decidable (_ ∧ _))

/-- What every accepted block is. -/
structure Ipv4Cidr.WellFormed (cidr : Ipv4Cidr) : Prop where
  bounded : cidr.prefixLength ≤ 32
  counted : cidr.addressCount = 2 ^ (32 - cidr.prefixLength)
  aligned : cidr.addressCount ∣ cidr.network
  whole : cidr.broadcast + 1 = cidr.network + cidr.addressCount
  inSpace : cidr.broadcast < 2 ^ 32

theorem wellFormed_blockOf (raw : BitVec 32) {prefixLength : Nat} (bounded : prefixLength ≤ 32) :
    (blockOf raw prefixLength).WellFormed where
  bounded := bounded
  counted := rfl
  aligned := by
    show 2 ^ (32 - prefixLength) ∣ (raw &&& maskFor prefixLength).toNat
    rw [toNat_and_mask raw bounded]
    exact Nat.dvd_mul_left _ _
  whole := by
    show ((raw &&& maskFor prefixLength) ||| ~~~(maskFor prefixLength)).toNat + 1 =
      (raw &&& maskFor prefixLength).toNat + 2 ^ (32 - prefixLength)
    rw [toNat_or_host raw bounded]
    have positive : 0 < 2 ^ (32 - prefixLength) := Nat.two_pow_pos _
    omega
  inSpace := BitVec.isLt _

theorem wellFormed_of_parse {input : Utf16} {cidr : Ipv4Cidr}
    (parsed : parseIpv4Cidr input = some cidr) : cidr.WellFormed := by
  obtain ⟨raw, prefixLength, bounded, rfl⟩ := parse_cases parsed
  exact wellFormed_blockOf raw bounded

namespace Ipv4Cidr.WellFormed

variable {cidr other : Ipv4Cidr}

/-- The aligned block of the addresses. -/
def block (wellFormed : cidr.WellFormed) : Block :=
  ⟨cidr.network, 32 - cidr.prefixLength, wellFormed.counted ▸ wellFormed.aligned⟩

theorem has_iff (wellFormed : cidr.WellFormed) (address : Nat) :
    cidr.Has address ↔ wellFormed.block.Has address := by
  have whole := wellFormed.whole
  have counted := wellFormed.counted
  show _ ↔ cidr.network ≤ address ∧ address < cidr.network + 2 ^ (32 - cidr.prefixLength)
  rw [← counted, Ipv4Cidr.Has]
  omega

theorem network_le (wellFormed : cidr.WellFormed) : cidr.network ≤ cidr.broadcast := by
  have whole := wellFormed.whole
  have counted := wellFormed.counted
  have positive : 0 < 2 ^ (32 - cidr.prefixLength) := Nat.two_pow_pos _
  omega

theorem has_network (wellFormed : cidr.WellFormed) : cidr.Has cidr.network :=
  ⟨le_refl _, wellFormed.network_le⟩

theorem has_broadcast (wellFormed : cidr.WellFormed) : cidr.Has cidr.broadcast :=
  ⟨wellFormed.network_le, le_refl _⟩

/-- Two blocks overlap where they share an address. -/
theorem overlap_iff_shared (wellFormed : cidr.WellFormed) (otherFormed : other.WellFormed) :
    cidrsOverlap cidr other = true ↔ ∃ address, cidr.Has address ∧ other.Has address := by
  have ordered := wellFormed.network_le
  have otherOrdered := otherFormed.network_le
  rw [cidrsOverlap, Bool.and_eq_true, decide_eq_true_eq, decide_eq_true_eq]
  constructor
  · rintro ⟨below, above⟩
    exact ⟨max cidr.network other.network, ⟨by omega, by omega⟩, ⟨by omega, by omega⟩⟩
  · rintro ⟨address, ⟨lower, upper⟩, ⟨otherLower, otherUpper⟩⟩
    omega

/-- A block contains another where it has all its addresses. -/
theorem contains_iff_subset (otherFormed : other.WellFormed) :
    cidrContains cidr other = true ↔ ∀ address, other.Has address → cidr.Has address := by
  rw [cidrContains, Bool.and_eq_true, decide_eq_true_eq, decide_eq_true_eq]
  constructor
  · rintro ⟨lower, upper⟩ address ⟨begins, ends⟩
    exact ⟨by omega, by omega⟩
  · intro subset
    exact ⟨(subset _ otherFormed.has_network).1, (subset _ otherFormed.has_broadcast).2⟩

/-- Blocks that share an address are nested. -/
theorem overlap_iff_contains (wellFormed : cidr.WellFormed) (otherFormed : other.WellFormed) :
    cidrsOverlap cidr other = true ↔
      cidrContains cidr other = true ∨ cidrContains other cidr = true := by
  rw [overlap_iff_shared wellFormed otherFormed, contains_iff_subset otherFormed,
    contains_iff_subset wellFormed]
  constructor
  · rintro ⟨shared, inside, otherInside⟩
    simp only [wellFormed.has_iff, otherFormed.has_iff] at inside otherInside ⊢
    rcases Nat.le_total wellFormed.block.bits otherFormed.block.bits with smaller | larger
    · exact .inr fun address => Block.nested smaller inside otherInside
    · exact .inl fun address => Block.nested larger otherInside inside
  · rintro (subset | subset)
    · exact ⟨other.network, subset _ otherFormed.has_network, otherFormed.has_network⟩
    · exact ⟨cidr.network, wellFormed.has_network, subset _ wellFormed.has_network⟩

end Ipv4Cidr.WellFormed

/-! ### The canonical text -/

theorem parseOctet_decimal : ∀ octet < 256, parseOctet (Utf16.decimal octet) = some octet := by
  decide +kernel

theorem parsePrefix_decimal : ∀ prefixLength ≤ 32,
    parsePrefix (Utf16.decimal prefixLength) = some prefixLength := by
  decide

theorem toDotted_eq (value : BitVec 32) :
    toDotted value = dotted (value.toNat / 2 ^ 24) (value.toNat / 2 ^ 16 % 256)
      (value.toNat / 2 ^ 8 % 256) (value.toNat % 256) := by
  have low : ∀ shifted : BitVec 32, (shifted &&& 0xff#32).toNat = shifted.toNat % 256 := by
    intro shifted
    rw [BitVec.toNat_and]
    exact Nat.and_two_pow_sub_one_eq_mod shifted.toNat 8
  have top : value.toNat / 2 ^ 24 % 256 = value.toNat / 2 ^ 24 := by
    have small := value.isLt
    omega
  simp only [toDotted, dotted, List.map_cons, List.map_nil, low, BitVec.toNat_ushiftRight,
    Nat.shiftRight_eq_div_pow, top]

section Dotted

variable {a b c d : Nat} (ha : a < 256) (hb : b < 256) (hc : c < 256) (hd : d < 256)

include ha hb hc hd

/-- A canonical text is read as the block it names. -/
theorem parse_dotted {prefixLength : Nat} (bounded : prefixLength ≤ 32) :
    parseIpv4Cidr (dotted a b c d ++ unitOf '/' :: Utf16.decimal prefixLength) =
      some (blockOf (toInt [a, b, c, d]) prefixLength) := by
  obtain ⟨prefixDigits, prefixShort, -, -⟩ := decimal_prefixLength prefixLength bounded
  have isPrefix := parsePrefix_decimal prefixLength bounded
  have units := dotted_units ha hb hc hd
  have trimmed := trim_dotted ha hb hc hd bounded
  rw [parseIpv4Cidr_eq_some_iff]
  refine ⟨dotted a b c d, Utf16.decimal prefixLength, prefixLength, [a, b, c, d], trimmed, ?_, ?_,
    ?_, isPrefix, bounded, ?_, ?_, rfl⟩
  · intro inside
    rcases units _ inside with digit | dot
    · exact absurd digit (by decide)
    · exact absurd dot (by decide)
  · intro inside
    exact absurd (List.all_eq_true.mp prefixDigits _ inside) (by decide)
  · have short := length_dotted ha hb hc hd
    rw [trimmed, List.length_append, List.length_cons]
    omega
  · rw [splitOn_dotted ha hb hc hd]
    rfl
  · rw [splitOn_dotted ha hb hc hd]
    simp [parseOctet_decimal a ha, parseOctet_decimal b hb, parseOctet_decimal c hc,
      parseOctet_decimal d hd]

end Dotted

/-- The octets of an address make the address. -/
theorem toInt_octets (value : BitVec 32) :
    toInt [value.toNat / 2 ^ 24, value.toNat / 2 ^ 16 % 256, value.toNat / 2 ^ 8 % 256,
      value.toNat % 256] = value := by
  have small := value.isLt
  apply BitVec.eq_of_toNat_eq
  rw [toNat_toInt (by omega) (by omega) (by omega) (by omega)]
  omega

theorem parse_toDotted (value : BitVec 32) {prefixLength : Nat} (bounded : prefixLength ≤ 32) :
    parseIpv4Cidr (toDotted value ++ unitOf '/' :: Utf16.decimal prefixLength) =
      some (blockOf value prefixLength) := by
  have small := value.isLt
  rw [toDotted_eq, parse_dotted (by omega) (by omega) (by omega) (by omega) bounded, toInt_octets]

/-- A block's text reads back as the block, with no host bits to clear. -/
theorem parse_canonicalText (raw : BitVec 32) {prefixLength : Nat} (bounded : prefixLength ≤ 32) :
    parseIpv4Cidr (blockOf raw prefixLength).text =
      some { blockOf raw prefixLength with normalised := false } := by
  have cleared : raw &&& maskFor prefixLength &&& maskFor prefixLength =
      raw &&& maskFor prefixLength := by
    rw [BitVec.and_assoc, BitVec.and_self]
  have read : parseIpv4Cidr (blockOf raw prefixLength).text = _ :=
    parse_toDotted (raw &&& maskFor prefixLength) bounded
  rw [read]
  simp [blockOf, cleared]

/-! ### Free addresses -/

/-- The addresses of the parent that some child has. -/
def covered (parent : Ipv4Cidr) (children : List Ipv4Cidr) : Finset Nat :=
  (Finset.Icc parent.network parent.broadcast).filter fun address =>
    ∃ child ∈ children, child.Has address

/-- The addresses of the parent that no child has. -/
def uncovered (parent : Ipv4Cidr) (children : List Ipv4Cidr) : Finset Nat :=
  (Finset.Icc parent.network parent.broadcast).filter fun address =>
    ∀ child ∈ children, ¬ child.Has address

/-- Blocks that share no address, one by one. -/
def PairwiseDisjoint (blocks : List Ipv4Cidr) : Prop :=
  blocks.Pairwise fun one other => ∀ address, ¬ (one.Has address ∧ other.Has address)

/-- The child lies inside the parent or shares no address with it. -/
def Placed (parent child : Ipv4Cidr) : Prop :=
  (∀ address, child.Has address → parent.Has address) ∨
    ∀ address, ¬ (parent.Has address ∧ child.Has address)

theorem card_Icc_of_wellFormed {cidr : Ipv4Cidr} (wellFormed : cidr.WellFormed) :
    (Finset.Icc cidr.network cidr.broadcast).card = cidr.addressCount := by
  have whole := wellFormed.whole
  rw [Nat.card_Icc]
  omega

/-- What one child takes of the parent. -/
theorem card_child {parent child : Ipv4Cidr} (childFormed : child.WellFormed)
    (placed : Placed parent child) :
    ((Finset.Icc parent.network parent.broadcast).filter fun address => child.Has address).card =
      if cidrContains parent child then child.addressCount else 0 := by
  rcases placed with inside | outside
  · have contained : cidrContains parent child = true := childFormed.contains_iff_subset.mpr inside
    rw [if_pos contained, ← card_Icc_of_wellFormed childFormed]
    congr 1
    ext address
    rw [Finset.mem_filter, Finset.mem_Icc, Finset.mem_Icc]
    constructor
    · exact fun both => both.2
    · exact fun has => ⟨inside address has, has⟩
  · have notContained : ¬ cidrContains parent child = true := by
      intro contained
      have has := childFormed.has_network
      exact outside _ ⟨childFormed.contains_iff_subset.mp contained _ has, has⟩
    rw [if_neg notContained, Finset.card_eq_zero, Finset.filter_eq_empty_iff]
    intro address inParent has
    exact outside address ⟨Finset.mem_Icc.mp inParent, has⟩

/-- The children that count take as many addresses as they have, and each address once. -/
theorem card_covered {parent : Ipv4Cidr} {children : List Ipv4Cidr}
    (formed : ∀ child ∈ children, child.WellFormed) (disjoint : PairwiseDisjoint children)
    (placed : ∀ child ∈ children, Placed parent child) (used : Nat) :
    children.foldl (fun used child =>
        if cidrContains parent child then used + child.addressCount else used) used =
      used + (covered parent children).card := by
  induction children generalizing used with
  | nil => simp [covered]
  | cons child rest ih =>
      have apart : Disjoint
          ((Finset.Icc parent.network parent.broadcast).filter fun address => child.Has address)
          (covered parent rest) := by
        rw [Finset.disjoint_left]
        intro address here later
        obtain ⟨other, isOther, has⟩ := (Finset.mem_filter.mp later).2
        exact (List.pairwise_cons.mp disjoint).1 other isOther address
          ⟨(Finset.mem_filter.mp here).2, has⟩
      have split : covered parent (child :: rest) =
          ((Finset.Icc parent.network parent.broadcast).filter fun address => child.Has address) ∪
            covered parent rest := by
        ext address
        simp only [covered, Finset.mem_filter, Finset.mem_union, List.mem_cons, exists_eq_or_imp]
        tauto
      have first := card_child (formed child List.mem_cons_self) (placed child List.mem_cons_self)
      rw [List.foldl_cons, ih (fun other isOther => formed other (List.mem_cons_of_mem _ isOther))
        (List.pairwise_cons.mp disjoint).2
        (fun other isOther => placed other (List.mem_cons_of_mem _ isOther)),
        split, Finset.card_union_of_disjoint apart, first]
      split <;> omega

theorem freeAddresses_eq {parent : Ipv4Cidr} {children : List Ipv4Cidr}
    (parentFormed : parent.WellFormed) (formed : ∀ child ∈ children, child.WellFormed)
    (disjoint : PairwiseDisjoint children) (placed : ∀ child ∈ children, Placed parent child) :
    freeAddresses parent children = (uncovered parent children).card := by
  have both : (covered parent children).card + (uncovered parent children).card =
      parent.addressCount := by
    rw [← card_Icc_of_wellFormed parentFormed, covered, uncovered]
    have complement := Finset.card_filter_add_card_filter_not
      (s := Finset.Icc parent.network parent.broadcast)
      (fun address => ∃ child ∈ children, child.Has address)
    simpa using complement
  rw [freeAddresses, card_covered formed disjoint placed, Nat.zero_add]
  omega

/-- Accepted blocks are sets of addresses: aligned, as many as they say, with a canonical text; they
    overlap where they share an address, and then one contains the other; and what is free of a parent
    is what no child has. -/
theorem blocks_are_address_sets :
    (∀ input cidr, parseIpv4Cidr input = some cidr →
      cidr.addressCount ∣ cidr.network ∧ cidr.network ≤ cidr.broadcast ∧
        cidr.broadcast - cidr.network + 1 = cidr.addressCount ∧
        parseIpv4Cidr cidr.text = some { cidr with normalised := false }) ∧
    (∀ input otherInput cidr other, parseIpv4Cidr input = some cidr →
      parseIpv4Cidr otherInput = some other →
      (cidrsOverlap cidr other = true ↔ ∃ address, cidr.Has address ∧ other.Has address) ∧
        (cidrsOverlap cidr other = true ↔
          cidrContains cidr other = true ∨ cidrContains other cidr = true)) ∧
    ∀ input parent children, parseIpv4Cidr input = some parent →
      (∀ child ∈ children, ∃ text, parseIpv4Cidr text = some child) → PairwiseDisjoint children →
      (∀ child ∈ children, Placed parent child) →
      freeAddresses parent children = (uncovered parent children).card := by
  refine ⟨?_, ?_, ?_⟩
  · intro input cidr parsed
    have wellFormed := wellFormed_of_parse parsed
    obtain ⟨raw, prefixLength, bounded, rfl⟩ := parse_cases parsed
    have ordered := wellFormed.network_le
    have whole := wellFormed.whole
    exact ⟨wellFormed.aligned, ordered, by omega, parse_canonicalText raw bounded⟩
  · intro input otherInput cidr other parsed otherParsed
    have wellFormed := wellFormed_of_parse parsed
    have otherFormed := wellFormed_of_parse otherParsed
    exact ⟨wellFormed.overlap_iff_shared otherFormed, wellFormed.overlap_iff_contains otherFormed⟩
  · intro input parent children parsed childrenParsed disjoint placed
    refine freeAddresses_eq (wellFormed_of_parse parsed) ?_ disjoint placed
    intro child isChild
    obtain ⟨text, childParsed⟩ := childrenParsed child isChild
    exact wellFormed_of_parse childParsed

/-- `10.0.0.0/16`. -/
def networkBlock : Ipv4Cidr := ⟨units "10.0.0.0/16", 167772160, 167837695, 16, 65536, false⟩

/-- `10.0.1.0/24`. -/
def subnetBlock : Ipv4Cidr := ⟨units "10.0.1.0/24", 167772416, 167772671, 24, 256, false⟩

theorem blocks_are_address_sets_subnet :
    parseIpv4Cidr networkBlock.text = some { networkBlock with normalised := false } ∧
      (cidrsOverlap networkBlock subnetBlock = true ↔
        cidrContains networkBlock subnetBlock = true ∨ cidrContains subnetBlock networkBlock = true) ∧
      freeAddresses networkBlock [subnetBlock] = (uncovered networkBlock [subnetBlock]).card := by
  have network : parseIpv4Cidr (units "10.0.0.9/16") = some { networkBlock with normalised := true } := by
    decide
  have canonical : parseIpv4Cidr (units "10.0.0.0/16") = some networkBlock := by decide
  have subnet : parseIpv4Cidr (units "10.0.1.0/24") = some subnetBlock := by decide
  refine ⟨(blocks_are_address_sets.1 _ _ network).2.2.2,
    (blocks_are_address_sets.2.1 _ _ _ _ canonical subnet).2, ?_⟩
  apply blocks_are_address_sets.2.2 _ _ _ canonical
  · intro child isChild
    rw [List.mem_singleton.mp isChild]
    exact ⟨_, subnet⟩
  · exact List.pairwise_singleton _ _
  · intro child isChild
    rw [List.mem_singleton.mp isChild]
    exact .inl ((wellFormed_of_parse subnet).contains_iff_subset.mp (by decide))

end JumptotechLabs.Verifier
