/-
Module: JumptotechLabs.Kubernetes.Cidr
Layer: Kubernetes (services/lab-orchestrator/src/k8s/cidr.ts)
Purpose: The orchestrator's IPv4 CIDR arithmetic for network policies: strict parsing, merging ranges,
  the fewest blocks of a range, and the complement of the denied ranges. The complement and the denied
  ranges part the address space.
Main exports: Ipv4Range, parseIpv4Address, parseIpv4Cidr, mergeRanges, rangeToCidrs, ipv4Complement,
  greedy_rangeBlocks, mergeRanges_spec, parse_host, complement_has, complement_parts_the_space
-/
import JumptotechLabs.Core.Aligned
import JumptotechLabs.Core.Dotted
import Mathlib.Data.List.Sort

namespace JumptotechLabs.Kubernetes

open JumptotechLabs.Core

/-- `IPV4_SPACE`. -/
def ipv4Space : Nat := 2 ^ 32

/-- The addresses from `start` to `stop`, both included. -/
structure Ipv4Range where
  start : Nat
  stop : Nat
deriving DecidableEq

/-- `CidrError`: `'<text>' <complaint>`. -/
def cidrError (text : Utf16) (complaint : Utf16) : Utf16 :=
  units "'" ++ text ++ units "' " ++ complaint

/-- `/^(0|[1-9]\d{0,2})$/`. -/
def isOctetText (part : Utf16) : Bool :=
  match part with
  | [] => false
  | first :: rest =>
      if first = unitOf '0' then rest.isEmpty
      else Utf16.isDigit first && rest.length ≤ 2 && rest.all Utf16.isDigit

/-- `parseIpv4Address`. -/
def parseIpv4Address (text : Utf16) : Except Utf16 Nat :=
  let parts := text.splitOn (unitOf '.')
  if parts.length ≠ 4 then .error (cidrError text (units "is not an IPv4 address"))
  else
    parts.foldlM (fun value part =>
      if !isOctetText part || 255 < part.digitsValue then
        .error (cidrError text (units "is not an IPv4 address"))
      else .ok (value * 256 + part.digitsValue)) 0

/-- `formatIpv4Address`. -/
def formatIpv4Address (value : Nat) : Utf16 :=
  [unitOf '.'].intercalate
    ([24, 16, 8, 0].map fun shift => Utf16.decimal (value / 2 ^ shift % 256))

/-- `/^([^/]+)\/(\d{1,2})$/`, with its two groups. -/
def matchCidr (text : Utf16) : Option (Utf16 × Utf16) :=
  match text.cutAt (unitOf '/') with
  | none => none
  | some (address, behind) =>
      if address ≠ [] ∧ 1 ≤ behind.length ∧ behind.length ≤ 2 ∧ behind.all Utf16.isDigit = true then
        some (address, behind)
      else none

/-- `parseIpv4Cidr`: host bits must be zero. -/
def parseIpv4Cidr (cidr : Utf16) : Except Utf16 Ipv4Range :=
  match matchCidr cidr.trim with
  | none => .error (cidrError cidr (units "is not an IPv4 CIDR (expected a.b.c.d/n)"))
  | some (address, behind) =>
      let prefixLength := behind.digitsValue
      if 32 < prefixLength then .error (cidrError cidr (units "has a prefix longer than /32"))
      else do
        let address ← parseIpv4Address address
        let size := 2 ^ (32 - prefixLength)
        if address % size ≠ 0 then
          .error (cidrError cidr (units "has host bits set; did you mean " ++
            formatIpv4Address (address - address % size) ++ units "/" ++
            Utf16.decimal prefixLength ++ units "?"))
        else .ok ⟨address, address + size - 1⟩

/-- `mergeRanges`: in the order of their starts, a range that overlaps or follows the last one is put
    into it. The last range merged so far stands first. -/
def mergeInto (merged : List Ipv4Range) (range : Ipv4Range) : List Ipv4Range :=
  match merged with
  | [] => [range]
  | last :: before =>
      if range.start ≤ last.stop + 1 then ⟨last.start, max last.stop range.stop⟩ :: before
      else range :: last :: before

def mergeRanges (ranges : List Ipv4Range) : List Ipv4Range :=
  ((ranges.insertionSort fun first second => first.start ≤ second.start).foldl mergeInto []).reverse

/-- `trailingZeroBits`, from some bits on. -/
def trailingZeroBitsFrom (value : Nat) : Nat → Nat → Nat
  | 0, bits => bits
  | fuel + 1, bits =>
      if bits < 32 ∧ value % 2 ^ (bits + 1) = 0 then trailingZeroBitsFrom value fuel (bits + 1)
      else bits

def trailingZeroBits (value : Nat) : Nat := trailingZeroBitsFrom value 32 0

/-- Halve a block of `2 ^ bits` addresses until it does not run past the end. -/
def shrink (start stop : Nat) : Nat → Nat
  | 0 => 0
  | bits + 1 => if start + 2 ^ (bits + 1) - 1 > stop then shrink start stop bits else bits + 1

/-- The largest block at `start` that does not run past the end, by its number of bits. -/
def blockBits (start stop : Nat) : Nat :=
  shrink start stop (if start = 0 then 32 else min 32 (trailingZeroBits start))

/-- `rangeToCidrs`, as the starts and the bits of its blocks. -/
def rangeBlocks (stop : Nat) : Nat → Nat → List (Nat × Nat)
  | 0, _ => []
  | fuel + 1, start =>
      if start ≤ stop then
        let bits := blockBits start stop
        (start, bits) :: rangeBlocks stop fuel (start + 2 ^ bits)
      else []

/-- The text of a block: `32 - Math.log2(size)` is its netmask length. -/
def blockText (block : Nat × Nat) : Utf16 :=
  formatIpv4Address block.1 ++ unitOf '/' :: Utf16.decimal (32 - block.2)

/-- `rangeToCidrs`. Every turn moves `start` on, so the range has no more blocks than addresses. -/
def rangeToCidrs (range : Ipv4Range) : List Utf16 :=
  (rangeBlocks range.stop (range.stop + 1 - range.start) range.start).map blockText

/-- `ipv4Complement` from the merged ranges: the gaps before them and behind the last. -/
def complementOf : Nat → List Ipv4Range → List Utf16
  | next, [] => if next ≤ ipv4Space - 1 then rangeToCidrs ⟨next, ipv4Space - 1⟩ else []
  | next, range :: rest =>
      (if range.start > next then rangeToCidrs ⟨next, range.start - 1⟩ else []) ++
        complementOf (range.stop + 1) rest

/-- `ipv4Complement`. -/
def ipv4Complement (denied : List Utf16) : Except Utf16 (List Utf16) :=
  (denied.mapM parseIpv4Cidr).map fun ranges => complementOf 0 (mergeRanges ranges)

/-! ### The blocks of a range -/

theorem trailingZeroBitsFrom_spec {value : Nat} (fuel bits : Nat) (enough : 32 ≤ bits + fuel)
    (short : bits ≤ 32) (divides : 2 ^ bits ∣ value) :
    2 ^ trailingZeroBitsFrom value fuel bits ∣ value ∧ trailingZeroBitsFrom value fuel bits ≤ 32 ∧
      ∀ more ≤ 32, 2 ^ more ∣ value → more ≤ trailingZeroBitsFrom value fuel bits := by
  induction fuel generalizing bits with
  | zero =>
      refine ⟨divides, short, ?_⟩
      intro more bounded _
      rw [trailingZeroBitsFrom]
      omega
  | succ fuel ih =>
      rw [trailingZeroBitsFrom]
      by_cases further : bits < 32 ∧ value % 2 ^ (bits + 1) = 0
      · rw [if_pos further]
        exact ih (bits + 1) (by omega) (by omega) (Nat.dvd_of_mod_eq_zero further.2)
      · rw [if_neg further]
        refine ⟨divides, short, ?_⟩
        intro more bounded moreDivides
        by_contra longer
        have next : 2 ^ (bits + 1) ∣ value :=
          (Nat.pow_dvd_pow 2 (by omega)).trans moreDivides
        exact further ⟨by omega, Nat.mod_eq_zero_of_dvd next⟩

theorem shrink_spec {start stop : Nat} (inside : start ≤ stop) (bits : Nat) :
    start + 2 ^ shrink start stop bits ≤ stop + 1 ∧ shrink start stop bits ≤ bits ∧
      ∀ more ≤ bits, start + 2 ^ more ≤ stop + 1 → more ≤ shrink start stop bits := by
  induction bits with
  | zero =>
      rw [shrink]
      exact ⟨by omega, le_refl _, fun more bounded _ => bounded⟩
  | succ bits ih =>
      rw [shrink]
      have positive : 0 < 2 ^ (bits + 1) := Nat.two_pow_pos _
      split
      · rename_i tooLong
        refine ⟨ih.1, by omega, ?_⟩
        intro more bounded fits
        by_cases whole : more = bits + 1
        · subst whole
          omega
        · exact ih.2.2 more (by omega) fits
      · rename_i fits
        exact ⟨by omega, le_refl _, fun more bounded _ => bounded⟩

/-- The bits the search for a block starts with are the most an aligned block can have. -/
theorem startBits_spec (start : Nat) :
    2 ^ (if start = 0 then 32 else min 32 (trailingZeroBits start)) ∣ start ∧
      ∀ bits ≤ 32, 2 ^ bits ∣ start → bits ≤ if start = 0 then 32 else min 32 (trailingZeroBits start) := by
  by_cases isZero : start = 0
  · subst isZero
    simp
  · obtain ⟨divides, short, most⟩ :=
      @trailingZeroBitsFrom_spec start 32 0 (by omega) (by omega) (by simp)
    rw [if_neg isZero, min_eq_right (show trailingZeroBits start ≤ 32 from short)]
    exact ⟨divides, most⟩

/-- The block taken is aligned, fits, and no larger aligned block fits. -/
theorem blockBits_spec {start stop : Nat} (inside : start ≤ stop) (bounded : stop < 2 ^ 32) :
    2 ^ blockBits start stop ∣ start ∧ start + 2 ^ blockBits start stop ≤ stop + 1 ∧
      ∀ bits, 2 ^ bits ∣ start → start + 2 ^ bits ≤ stop + 1 → bits ≤ blockBits start stop := by
  obtain ⟨divides, most⟩ := startBits_spec start
  rw [blockBits]
  generalize (if start = 0 then 32 else min 32 (trailingZeroBits start)) = begun at divides most ⊢
  obtain ⟨fits, shorter, largest⟩ := shrink_spec inside begun
  refine ⟨(Nat.pow_dvd_pow 2 shorter).trans divides, fits, ?_⟩
  intro bits bitsDivide bitsFit
  have small : bits ≤ 32 := (Nat.pow_le_pow_iff_right (show 1 < 2 by decide)).mp (by omega)
  exact largest bits (most bits small bitsDivide) bitsFit

/-- The aligned block of a start and its bits. -/
def alignedBlock (stop start : Nat) (inside : start ≤ stop) (bounded : stop < 2 ^ 32) : Block :=
  ⟨start, blockBits start stop, (blockBits_spec inside bounded).1⟩

/-- The blocks of a range are the greedy ones. -/
theorem greedy_rangeBlocks {stop : Nat} (bounded : stop < 2 ^ 32) (fuel start : Nat)
    (enough : stop + 1 - start ≤ fuel) :
    ∃ blocks : List Block, Greedy (stop + 1) start blocks ∧
      rangeBlocks stop fuel start = blocks.map fun block => (block.first, block.bits) := by
  induction fuel generalizing start with
  | zero => exact ⟨[], .done (by omega), rfl⟩
  | succ fuel ih =>
      rw [rangeBlocks]
      by_cases inside : start ≤ stop
      · rw [if_pos inside]
        obtain ⟨-, fits, largest⟩ := blockBits_spec inside bounded
        have positive : 0 < 2 ^ blockBits start stop := Nat.two_pow_pos _
        obtain ⟨blocks, greedy, same⟩ := ih (start + 2 ^ blockBits start stop) (by omega)
        refine ⟨alignedBlock stop start inside bounded :: blocks, ?_, ?_⟩
        · exact .step (alignedBlock stop start inside bounded) fits largest greedy
        · simp only [same, List.map_cons]
          rfl
      · rw [if_neg inside]
        exact ⟨[], .done (by omega), rfl⟩

/-! ### The text of a block -/

theorem isOctetText_decimal : ∀ octet < 256, isOctetText (Utf16.decimal octet) = true := by
  decide +kernel

theorem formatIpv4Address_eq {value : Nat} (bounded : value < 2 ^ 32) :
    formatIpv4Address value = dotted (value / 2 ^ 24) (value / 2 ^ 16 % 256) (value / 2 ^ 8 % 256)
      (value % 256) := by
  have top : value / 2 ^ 24 % 256 = value / 2 ^ 24 := by omega
  simp only [formatIpv4Address, dotted, List.map_cons, List.map_nil, top, Nat.pow_zero, Nat.div_one]

theorem parseIpv4Address_dotted {a b c d : Nat} (ha : a < 256) (hb : b < 256) (hc : c < 256)
    (hd : d < 256) :
    parseIpv4Address (dotted a b c d) = .ok (((a * 256 + b) * 256 + c) * 256 + d) := by
  have small : ∀ {octet : Nat}, octet < 256 → ¬ 255 < octet := fun bound => by omega
  rw [parseIpv4Address, splitOn_dotted ha hb hc hd]
  simp [isOctetText_decimal a ha, isOctetText_decimal b hb, isOctetText_decimal c hc,
    isOctetText_decimal d hd, (decimal_octet a ha).2.2.2, (decimal_octet b hb).2.2.2,
    (decimal_octet c hc).2.2.2, (decimal_octet d hd).2.2.2, small ha, small hb, small hc, small hd,
    bind, Except.bind, pure, Except.pure]

theorem matchCidr_dotted {a b c d prefixLength : Nat} (ha : a < 256) (hb : b < 256) (hc : c < 256)
    (hd : d < 256) (bounded : prefixLength ≤ 32) :
    matchCidr (dotted a b c d ++ unitOf '/' :: Utf16.decimal prefixLength) =
      some (dotted a b c d, Utf16.decimal prefixLength) := by
  obtain ⟨digits, short, present, -⟩ := decimal_prefixLength prefixLength bounded
  have noSlash : unitOf '/' ∉ dotted a b c d := by
    intro inside
    rcases dotted_units ha hb hc hd _ inside with digit | dot
    · exact absurd digit (by decide)
    · exact absurd dot (by decide)
  have nonempty : dotted a b c d ≠ [] := dotted_ne_nil ha
  have isCut : Utf16.cutAt (unitOf '/') (dotted a b c d ++ unitOf '/' :: Utf16.decimal prefixLength) =
      some (dotted a b c d, Utf16.decimal prefixLength) :=
    Utf16.cutAt_eq_some_iff.mpr ⟨rfl, noSlash⟩
  rw [matchCidr, isCut]
  simp only
  rw [if_pos ⟨nonempty, List.length_pos_iff.mpr present, short, digits⟩]

/-- The text of an aligned block is read as the block. -/
theorem parse_blockText {block : Block} (bounded : block.first + block.size ≤ 2 ^ 32) :
    parseIpv4Cidr (blockText (block.first, block.bits)) =
      .ok ⟨block.first, block.first + block.size - 1⟩ := by
  have positive := block.size_pos
  have small : block.first < 2 ^ 32 := by omega
  have short : block.bits ≤ 32 := by
    have power : 2 ^ block.bits ≤ 2 ^ 32 := by
      show block.size ≤ 2 ^ 32
      omega
    exact (Nat.pow_le_pow_iff_right (show 1 < 2 by decide)).mp power
  have prefixShort : 32 - block.bits ≤ 32 := Nat.sub_le _ _
  have back : 32 - (32 - block.bits) = block.bits := by omega
  obtain ⟨-, -, -, value⟩ := decimal_prefixLength _ prefixShort
  have aligned : block.first % 2 ^ block.bits = 0 := Nat.mod_eq_zero_of_dvd block.aligned
  have first : ((block.first / 2 ^ 24 * 256 + block.first / 2 ^ 16 % 256) * 256 +
      block.first / 2 ^ 8 % 256) * 256 + block.first % 256 = block.first := by omega
  rw [blockText, formatIpv4Address_eq small, parseIpv4Cidr,
    trim_dotted (by omega) (by omega) (by omega) (by omega) prefixShort,
    matchCidr_dotted (by omega) (by omega) (by omega) (by omega) prefixShort]
  simp only [value, if_neg (show ¬ 32 < 32 - block.bits by omega), back]
  rw [parseIpv4Address_dotted (by omega) (by omega) (by omega) (by omega), first]
  show (if block.first % 2 ^ block.bits ≠ 0 then _ else _) = _
  rw [if_neg (by simpa using aligned)]
  rfl

/-! ### What the parser accepts -/

/-- One part of an address is accepted. -/
def IsOctet (part : Utf16) : Prop := isOctetText part = true ∧ part.digitsValue ≤ 255

theorem parseIpv4Address_ok_iff {text : Utf16} {value : Nat} :
    parseIpv4Address text = .ok value ↔
      ∃ p q r s : Utf16, text.splitOn (unitOf '.') = [p, q, r, s] ∧ IsOctet p ∧ IsOctet q ∧ IsOctet r ∧
        IsOctet s ∧ value = ((p.digitsValue * 256 + q.digitsValue) * 256 + r.digitsValue) * 256 +
          s.digitsValue := by
  have octet : ∀ (part : Utf16) (error : Utf16) (before after : Nat),
      (if !isOctetText part || 255 < part.digitsValue then .error error
        else .ok (before * 256 + part.digitsValue) : Except Utf16 Nat) = .ok after ↔
      IsOctet part ∧ after = before * 256 + part.digitsValue := by
    intro part error before after
    rw [IsOctet]
    by_cases refused : (!isOctetText part || decide (255 < part.digitsValue)) = true
    · rw [if_pos refused]
      simp only [Bool.or_eq_true, Bool.not_eq_true', decide_eq_true_eq] at refused
      constructor
      · intro impossible
        cases impossible
      · rintro ⟨⟨isText, small⟩, -⟩
        rcases refused with notText | large
        · rw [isText] at notText
          cases notText
        · omega
    · rw [if_neg refused]
      simp only [Bool.or_eq_true, Bool.not_eq_true', decide_eq_true_eq, not_or, Bool.not_eq_false,
        not_lt] at refused
      simp only [Except.ok.injEq, refused, true_and]
      exact eq_comm
  rw [parseIpv4Address]
  by_cases four : (text.splitOn (unitOf '.')).length = 4
  · obtain ⟨p, q, r, s, isParts⟩ : ∃ p q r s, text.splitOn (unitOf '.') = [p, q, r, s] := by
      match text.splitOn (unitOf '.'), four with
      | [p, q, r, s], _ => exact ⟨p, q, r, s, rfl⟩
    have chained : ∀ (first : Except Utf16 Nat) (next : Nat → Except Utf16 Nat) (last : Nat),
        first >>= next = .ok last ↔ ∃ value, first = .ok value ∧ next value = .ok last := by
      intro first next last
      cases first with
      | error failure => simp [bind, Except.bind]
      | ok value => simp [bind, Except.bind]
    simp only [isParts, List.length_cons, List.length_nil, ne_eq, not_true_eq_false, if_false,
      List.foldlM_cons, List.foldlM_nil, chained, octet]
    constructor
    · rintro ⟨_, ⟨isP, rfl⟩, _, ⟨isQ, rfl⟩, _, ⟨isR, rfl⟩, _, ⟨isS, rfl⟩, isLast⟩
      refine ⟨p, q, r, s, rfl, isP, isQ, isR, isS, ?_⟩
      have last := Except.ok.inj isLast
      omega
    · rintro ⟨p', q', r', s', sameParts, isP, isQ, isR, isS, rfl⟩
      cases sameParts
      exact ⟨_, ⟨isP, rfl⟩, _, ⟨isQ, rfl⟩, _, ⟨isR, rfl⟩, _, ⟨isS, rfl⟩, by simp [pure, Except.pure]⟩
  · simp only [ne_eq, four, not_false_eq_true, if_true]
    constructor
    · intro impossible
      cases impossible
    · rintro ⟨p, q, r, s, isParts, -⟩
      exact absurd (by rw [isParts]; rfl) four

theorem parseIpv4Address_bound {text : Utf16} {value : Nat} (parsed : parseIpv4Address text = .ok value) :
    value < 2 ^ 32 := by
  obtain ⟨p, q, r, s, -, ⟨-, hp⟩, ⟨-, hq⟩, ⟨-, hr⟩, ⟨-, hs⟩, rfl⟩ := parseIpv4Address_ok_iff.mp parsed
  omega

/-- An accepted address is made of digits and points. -/
theorem units_of_parseIpv4Address {text : Utf16} {value : Nat} (parsed : parseIpv4Address text = .ok value) :
    ∀ unit ∈ text, Utf16.isDigit unit = true ∨ unit = unitOf '.' := by
  obtain ⟨p, q, r, s, parts, ⟨hp, -⟩, ⟨hq, -⟩, ⟨hr, -⟩, ⟨hs, -⟩, -⟩ := parseIpv4Address_ok_iff.mp parsed
  have octet : ∀ part : Utf16, isOctetText part = true → ∀ unit ∈ part, Utf16.isDigit unit = true := by
    intro part isText unit inside
    unfold isOctetText at isText
    split at isText
    · cases isText
    · rename_i first rest
      split at isText
      · rename_i isZero
        rw [List.isEmpty_iff.mp isText, isZero, List.mem_singleton] at inside
        rw [inside]
        decide
      · simp only [Bool.and_eq_true] at isText
        rcases List.mem_cons.mp inside with rfl | behind
        · exact isText.1.1
        · exact List.all_eq_true.mp isText.2 unit behind
  have whole : text = [unitOf '.'].intercalate [p, q, r, s] := by
    rw [← parts, List.intercalate_splitOn]
  intro unit inside
  rw [whole] at inside
  simp only [List.intercalate, List.intersperse, List.flatten_cons, List.flatten_nil, List.mem_append,
    List.mem_singleton, List.append_nil] at inside
  rcases inside with here | dot | here | dot | here | dot | here
  · exact .inl (octet p hp unit here)
  · exact .inr dot
  · exact .inl (octet q hq unit here)
  · exact .inr dot
  · exact .inl (octet r hr unit here)
  · exact .inr dot
  · exact .inl (octet s hs unit here)

theorem parseIpv4Cidr_ok_iff {cidr : Utf16} {range : Ipv4Range} :
    parseIpv4Cidr cidr = .ok range ↔
      ∃ address behind value, matchCidr cidr.trim = some (address, behind) ∧
        behind.digitsValue ≤ 32 ∧ parseIpv4Address address = .ok value ∧
        2 ^ (32 - behind.digitsValue) ∣ value ∧
        range = ⟨value, value + 2 ^ (32 - behind.digitsValue) - 1⟩ := by
  constructor
  · intro parsed
    rw [parseIpv4Cidr] at parsed
    split at parsed
    · cases parsed
    · rename_i address behind isMatch
      simp only at parsed
      split at parsed
      · cases parsed
      · rename_i short
        cases isAddress : parseIpv4Address address with
        | error failure =>
            rw [isAddress] at parsed
            cases parsed
        | ok value =>
            rw [isAddress] at parsed
            simp only [bind, Except.bind] at parsed
            split at parsed
            · cases parsed
            · rename_i aligned
              cases parsed
              refine ⟨address, behind, value, isMatch, by omega, isAddress, ?_, rfl⟩
              exact Nat.dvd_of_mod_eq_zero (by simpa using aligned)
  · rintro ⟨address, behind, value, isMatch, short, isAddress, aligned, rfl⟩
    rw [parseIpv4Cidr, isMatch]
    simp only [if_neg (show ¬ 32 < behind.digitsValue by omega), isAddress, bind, Except.bind]
    rw [if_neg (by simpa using Nat.mod_eq_zero_of_dvd aligned)]

/-- A single address, as a range. -/
theorem parse_host {text : Utf16} {value : Nat} (parsed : parseIpv4Address text = .ok value) :
    parseIpv4Cidr (text ++ units "/32") = .ok ⟨value, value⟩ := by
  have made := units_of_parseIpv4Address parsed
  have notSpace : ∀ unit ∈ text, Utf16.isSpace unit = false := by
    intro unit inside
    rcases made unit inside with digit | rfl
    · exact Utf16.not_isSpace_of_isDigit digit
    · decide
  have noSlash : unitOf '/' ∉ text := by
    intro inside
    rcases made _ inside with digit | dot
    · exact absurd digit (by decide)
    · exact absurd dot (by decide)
  have nonempty : text ≠ [] := by
    rintro rfl
    have refused : parseIpv4Address [] = .error (cidrError [] (units "is not an IPv4 address")) := by decide
    rw [refused] at parsed
    cases parsed
  have isTrimmed : Utf16.trim (text ++ units "/32") = text ++ units "/32" := by
    apply Utf16.trim_eq_self
    · intro unit isFirst
      rw [List.head?_append_of_ne_nil _ nonempty] at isFirst
      exact notSpace unit (List.mem_of_mem_head? isFirst)
    · intro unit isLast
      rw [List.getLast?_append_of_ne_nil _ (by decide)] at isLast
      cases isLast
      decide
  have isCut : Utf16.cutAt (unitOf '/') (text ++ units "/32") = some (text, units "32") :=
    Utf16.cutAt_eq_some_iff.mpr ⟨rfl, noSlash⟩
  refine parseIpv4Cidr_ok_iff.mpr ⟨text, units "32", value, ?_, by decide, parsed, ?_, ?_⟩
  · rw [isTrimmed, matchCidr, isCut]
    exact if_pos ⟨nonempty, by decide⟩
  · rw [show 2 ^ (32 - Utf16.digitsValue (units "32")) = 1 by decide]
    exact one_dvd value
  · rw [show 2 ^ (32 - Utf16.digitsValue (units "32")) = 1 by decide]
    rfl

/-! ### Ranges -/

namespace Ipv4Range

/-- The address lies in the range. -/
def Has (range : Ipv4Range) (address : Nat) : Prop :=
  range.start ≤ address ∧ address ≤ range.stop

/-- The range has an address, and none beyond the space. -/
def Proper (range : Ipv4Range) : Prop :=
  range.start ≤ range.stop ∧ range.stop < ipv4Space

end Ipv4Range

theorem proper_of_parse {cidr : Utf16} {range : Ipv4Range} (parsed : parseIpv4Cidr cidr = .ok range) :
    range.Proper := by
  obtain ⟨address, behind, value, -, short, isAddress, aligned, rfl⟩ := parseIpv4Cidr_ok_iff.mp parsed
  have small := parseIpv4Address_bound isAddress
  have positive : 0 < 2 ^ (32 - behind.digitsValue) := Nat.two_pow_pos _
  have space : 2 ^ (32 - behind.digitsValue) ∣ 2 ^ 32 := Nat.pow_dvd_pow 2 (by omega)
  have ends : value + 2 ^ (32 - behind.digitsValue) ≤ 2 ^ 32 :=
    Nat.le_of_lt_add_of_dvd (by omega) (Nat.dvd_add aligned (dvd_refl _)) space
  constructor
  · show value ≤ value + 2 ^ (32 - behind.digitsValue) - 1
    omega
  · show value + 2 ^ (32 - behind.digitsValue) - 1 < 2 ^ 32
    omega

/-! ### Merging -/

/-- Ranges in order, with an address between any two. -/
def Separate (ranges : List Ipv4Range) : Prop :=
  ranges.Pairwise fun earlier later => earlier.stop + 1 < later.start

/-- Every later range starts no earlier than the last one merged. -/
def StartsAfter (merged : List Ipv4Range) (ranges : List Ipv4Range) : Prop :=
  ∀ last ∈ merged.head?, ∀ range ∈ ranges, last.start ≤ range.start

/-- The ranges merged so far, the last first, and those they stand for. -/
structure Merged (merged seen : List Ipv4Range) : Prop where
  proper : ∀ range ∈ merged, range.Proper
  separate : Separate merged.reverse
  same : ∀ address, (∃ range ∈ merged, range.Has address) ↔ ∃ range ∈ seen, range.Has address

theorem merged_nil : Merged [] [] where
  proper := by simp
  separate := List.Pairwise.nil
  same := by simp

section MergeInto

variable {merged seen : List Ipv4Range} {range : Ipv4Range}

theorem proper_mergeInto (proper : ∀ one ∈ merged, one.Proper) (isProper : range.Proper) :
    ∀ one ∈ mergeInto merged range, one.Proper := by
  intro one isOne
  cases merged with
  | nil =>
      rw [mergeInto, List.mem_singleton] at isOne
      exact isOne ▸ isProper
  | cons last before =>
      rw [mergeInto] at isOne
      split at isOne
      · obtain ⟨ordered, inSpace⟩ := proper last List.mem_cons_self
        rcases List.mem_cons.mp isOne with rfl | isBefore
        · exact ⟨le_trans ordered (le_max_left _ _), max_lt inSpace isProper.2⟩
        · exact proper one (List.mem_cons_of_mem _ isBefore)
      · rcases List.mem_cons.mp isOne with rfl | isBefore
        · exact isProper
        · exact proper one isBefore

theorem exists_has_mergeInto (proper : ∀ one ∈ merged, one.Proper) (isProper : range.Proper)
    (after : StartsAfter merged [range]) (address : Nat) :
    (∃ one ∈ mergeInto merged range, one.Has address) ↔
      (∃ one ∈ merged, one.Has address) ∨ range.Has address := by
  cases merged with
  | nil => simp [mergeInto]
  | cons last before =>
      have lastOrdered := (proper last List.mem_cons_self).1
      have starts := after last rfl range List.mem_cons_self
      have ordered := isProper.1
      rw [mergeInto]
      split
      · rename_i touching
        simp only [List.exists_mem_cons_iff, Ipv4Range.Has]
        rw [or_right_comm]
        refine or_congr_left ?_
        omega
      · simp only [List.exists_mem_cons_iff]
        exact or_comm

theorem separate_mergeInto (separate : Separate merged.reverse) (after : StartsAfter merged [range]) :
    Separate (mergeInto merged range).reverse := by
  cases merged with
  | nil => exact List.pairwise_singleton _ _
  | cons last before =>
      have starts := after last rfl range List.mem_cons_self
      rw [Separate, List.pairwise_reverse] at separate ⊢
      obtain ⟨gap, rest⟩ := List.pairwise_cons.mp separate
      rw [mergeInto]
      split
      · exact List.pairwise_cons.mpr ⟨gap, rest⟩
      · rename_i behind
        refine List.pairwise_cons.mpr ⟨?_, separate⟩
        intro earlier isEarlier
        rcases List.mem_cons.mp isEarlier with rfl | isBefore
        · omega
        · have before := gap earlier isBefore
          omega

theorem startsAfter_mergeInto {rest : List Ipv4Range} (after : StartsAfter merged (range :: rest))
    (first : ∀ later ∈ rest, range.start ≤ later.start) : StartsAfter (mergeInto merged range) rest := by
  intro last isLast later isLater
  cases merged with
  | nil =>
      cases isLast
      exact first later isLater
  | cons previous before =>
      rw [mergeInto] at isLast
      split at isLast
      · cases isLast
        exact after previous rfl later (List.mem_cons_of_mem _ isLater)
      · cases isLast
        exact first later isLater

theorem Merged.step (isMerged : Merged merged seen) (isProper : range.Proper)
    (after : StartsAfter merged [range]) : Merged (mergeInto merged range) (seen ++ [range]) where
  proper := proper_mergeInto isMerged.proper isProper
  separate := separate_mergeInto isMerged.separate after
  same := by
    intro address
    rw [exists_has_mergeInto isMerged.proper isProper after, isMerged.same]
    simp [or_and_right, exists_or]

end MergeInto

/-- What merging has done after ranges in the order of their starts. -/
theorem Merged.run {merged seen ranges : List Ipv4Range} (isMerged : Merged merged seen)
    (proper : ∀ range ∈ ranges, range.Proper)
    (sorted : ranges.Pairwise fun first second => first.start ≤ second.start)
    (after : StartsAfter merged ranges) : Merged (ranges.foldl mergeInto merged) (seen ++ ranges) := by
  induction ranges generalizing merged seen with
  | nil => simpa using isMerged
  | cons range rest ih =>
      obtain ⟨first, restSorted⟩ := List.pairwise_cons.mp sorted
      have here : StartsAfter merged [range] := by
        intro last isLast one isOne
        rw [List.mem_singleton.mp isOne]
        exact after last isLast range List.mem_cons_self
      have next := isMerged.step (proper range List.mem_cons_self) here
      have later := ih next (fun one isOne => proper one (List.mem_cons_of_mem _ isOne)) restSorted
        (startsAfter_mergeInto after first)
      rw [List.append_assoc] at later
      exact later

/-- Merged ranges have the addresses of the ranges, and are in order and apart. -/
theorem mergeRanges_spec {ranges : List Ipv4Range} (proper : ∀ range ∈ ranges, range.Proper) :
    (∀ range ∈ mergeRanges ranges, range.Proper) ∧ Separate (mergeRanges ranges) ∧
      ∀ address, (∃ range ∈ mergeRanges ranges, range.Has address) ↔
        ∃ range ∈ ranges, range.Has address := by
  have total : Std.Total fun first second : Ipv4Range => first.start ≤ second.start :=
    ⟨fun first second => Nat.le_total _ _⟩
  have isTrans : IsTrans Ipv4Range fun first second => first.start ≤ second.start :=
    ⟨fun _ _ _ => Nat.le_trans⟩
  have sorted := List.pairwise_insertionSort
    (fun first second : Ipv4Range => first.start ≤ second.start) ranges
  have members := fun range : Ipv4Range =>
    @List.mem_insertionSort _ (fun first second => first.start ≤ second.start) _ ranges range
  have isMerged := merged_nil.run (fun range isRange => proper range ((members range).mp isRange)) sorted
    (by simp [StartsAfter])
  rw [mergeRanges]
  refine ⟨?_, isMerged.separate, ?_⟩
  · intro range isRange
    exact isMerged.proper range (List.mem_reverse.mp isRange)
  · intro address
    have same := isMerged.same address
    simp only [List.nil_append, members] at same
    simpa only [List.mem_reverse] using same

/-! ### Ranges in blocks, and the complement -/

/-- The range of a block's addresses. -/
def rangeOf (block : Block) : Ipv4Range := ⟨block.first, block.first + block.size - 1⟩

/-- The texts are read as the ranges of the blocks. -/
def Reads (texts : List Utf16) (blocks : List Block) : Prop :=
  List.Forall₂ (fun text block => parseIpv4Cidr text = .ok (rangeOf block)) texts blocks

/-- Once the range is used up, more turns change nothing. -/
theorem rangeBlocks_more {stop : Nat} (fuel start : Nat) (enough : stop + 1 - start ≤ fuel)
    (more : Nat) : rangeBlocks stop (fuel + more) start = rangeBlocks stop fuel start := by
  induction fuel generalizing start with
  | zero =>
      cases more with
      | zero => rfl
      | succ more => rw [Nat.zero_add, rangeBlocks, rangeBlocks, if_neg (by omega)]
  | succ fuel ih =>
      have positive : 0 < 2 ^ blockBits start stop := Nat.two_pow_pos _
      rw [Nat.succ_add, rangeBlocks, rangeBlocks]
      by_cases inside : start ≤ stop
      · simp only [if_pos inside, ih (start + 2 ^ blockBits start stop) (by omega)]
      · simp only [if_neg inside]

/-- The texts of a range are those of its greedy blocks. -/
theorem rangeToCidrs_spec {range : Ipv4Range} (inSpace : range.stop < ipv4Space) :
    ∃ blocks : List Block, Greedy (range.stop + 1) range.start blocks ∧
      Reads (rangeToCidrs range) blocks := by
  obtain ⟨blocks, greedy, same⟩ :=
    greedy_rangeBlocks inSpace (range.stop + 1 - range.start) range.start (le_refl _)
  refine ⟨blocks, greedy, ?_⟩
  rw [rangeToCidrs, same, List.map_map, Reads, List.forall₂_map_left_iff, List.forall₂_same]
  intro block isBlock
  have positive := block.size_pos
  have last : block.Has (block.first + block.size - 1) := ⟨by omega, by omega⟩
  have ends := ((greedy.tiles.covers _).mp ⟨block, isBlock, last⟩).2
  rw [ipv4Space] at inSpace
  exact parse_blockText (by omega)

/-- The texts of a gap are those of a tiling of it. -/
theorem gap_spec {first beyond : Nat} (inSpace : beyond ≤ ipv4Space) :
    ∃ blocks : List Block,
      Reads (if first < beyond then rangeToCidrs ⟨first, beyond - 1⟩ else []) blocks ∧
        Tiles blocks first beyond := by
  by_cases wide : first < beyond
  · have bounded : (Ipv4Range.mk first (beyond - 1)).stop < ipv4Space := by
      show beyond - 1 < ipv4Space
      omega
    obtain ⟨blocks, greedy, reads⟩ := rangeToCidrs_spec bounded
    have whole : beyond - 1 + 1 = beyond := by omega
    have tiles : Tiles blocks first (beyond - 1 + 1) := greedy.tiles
    rw [if_pos wide]
    exact ⟨blocks, reads, whole ▸ tiles⟩
  · rw [if_neg wide]
    exact ⟨[], .nil, (Greedy.done (by omega)).tiles⟩

/-- The blocks of the gaps have the addresses that no range has. -/
theorem complementOf_spec {next : Nat} {ranges : List Ipv4Range}
    (proper : ∀ range ∈ ranges, range.Proper) (separate : Separate ranges)
    (begins : ∀ range ∈ ranges, next ≤ range.start) :
    ∃ blocks : List Block, Reads (complementOf next ranges) blocks ∧
      blocks.Pairwise (fun one other => ∀ address, ¬ (one.Has address ∧ other.Has address)) ∧
      ∀ address, (∃ block ∈ blocks, block.Has address) ↔
        next ≤ address ∧ address < ipv4Space ∧ ∀ range ∈ ranges, ¬ range.Has address := by
  induction ranges generalizing next with
  | nil =>
      obtain ⟨blocks, reads, tiles⟩ := @gap_spec next ipv4Space (le_refl _)
      have positive : 0 < ipv4Space := by decide
      rw [complementOf]
      simp only [Nat.le_sub_one_iff_lt positive]
      refine ⟨blocks, reads, tiles.apart, ?_⟩
      intro address
      simp [tiles.covers]
  | cons range rest ih =>
      obtain ⟨ordered, inSpace⟩ := proper range List.mem_cons_self
      obtain ⟨gaps, restSeparate⟩ := List.pairwise_cons.mp separate
      have starts := begins range List.mem_cons_self
      obtain ⟨blocks, reads, tiles⟩ := @gap_spec next range.start (by omega)
      obtain ⟨later, laterReads, laterApart, laterHas⟩ :=
        ih (fun one isOne => proper one (List.mem_cons_of_mem _ isOne)) restSeparate
          (fun one isOne => (gaps one isOne).le)
      refine ⟨blocks ++ later, List.rel_append reads laterReads, ?_, ?_⟩
      · refine List.pairwise_append.mpr ⟨tiles.apart, laterApart, ?_⟩
        rintro one isOne other isOther address ⟨here, there⟩
        have below := ((tiles.covers address).mp ⟨one, isOne, here⟩).2
        have above := ((laterHas address).mp ⟨other, isOther, there⟩).1
        omega
      · intro address
        simp only [List.mem_append, or_and_right, exists_or, tiles.covers, laterHas,
          List.forall_mem_cons, Ipv4Range.Has]
        constructor
        · rintro (⟨lower, upper⟩ | ⟨lower, upper, outside⟩)
          · refine ⟨lower, by omega, by omega, ?_⟩
            rintro one isOne ⟨above, -⟩
            have gap := gaps one isOne
            omega
          · exact ⟨by omega, upper, by omega, outside⟩
        · rintro ⟨lower, upper, notHere, outside⟩
          by_cases below : address < range.start
          · exact .inl ⟨lower, below⟩
          · exact .inr ⟨by omega, upper, outside⟩

/-- Valid texts are all read, to the ranges they are. -/
theorem mapM_parse {texts : List Utf16}
    (valid : ∀ text ∈ texts, ∃ range, parseIpv4Cidr text = .ok range) :
    ∃ ranges, texts.mapM parseIpv4Cidr = .ok ranges ∧
      ∀ range, range ∈ ranges ↔ ∃ text ∈ texts, parseIpv4Cidr text = .ok range := by
  induction texts with
  | nil => exact ⟨[], rfl, by simp⟩
  | cons text rest ih =>
      obtain ⟨range, parsed⟩ := valid text List.mem_cons_self
      obtain ⟨ranges, isRanges, each⟩ := ih fun one isOne => valid one (List.mem_cons_of_mem _ isOne)
      refine ⟨range :: ranges, ?_, ?_⟩
      · rw [List.mapM_cons, parsed, isRanges]
        rfl
      · intro other
        rw [List.mem_cons, List.exists_mem_cons_iff, each, parsed, Except.ok.injEq]
        exact or_congr_left eq_comm

/-- The address is in a range that is denied. -/
def Denied (denied : List Utf16) (address : Nat) : Prop :=
  ∃ text ∈ denied, ∃ range, parseIpv4Cidr text = .ok range ∧ range.Has address

/-- The blocks of the complement have the addresses of the space that are not denied. -/
theorem complement_has {denied : List Utf16} (valid : ∀ text ∈ denied, ∃ range, parseIpv4Cidr text = .ok range) :
    ∃ allowed blocks, ipv4Complement denied = .ok allowed ∧ Reads allowed blocks ∧
      blocks.Pairwise (fun one other => ∀ address, ¬ (one.Has address ∧ other.Has address)) ∧
      ∀ address, (∃ block ∈ blocks, block.Has address) ↔ address < ipv4Space ∧ ¬ Denied denied address := by
  obtain ⟨ranges, isRanges, each⟩ := mapM_parse valid
  have proper : ∀ range ∈ ranges, range.Proper := by
    intro range isRange
    obtain ⟨text, -, parsed⟩ := (each range).mp isRange
    exact proper_of_parse parsed
  obtain ⟨mergedProper, separate, same⟩ := mergeRanges_spec proper
  obtain ⟨blocks, reads, apart, has⟩ :=
    complementOf_spec mergedProper separate (fun range _ => Nat.zero_le _)
  refine ⟨_, blocks, by rw [ipv4Complement, isRanges]; rfl, reads, apart, ?_⟩
  intro address
  have isDenied : Denied denied address ↔ ∃ range ∈ mergeRanges ranges, range.Has address := by
    rw [same, Denied]
    constructor
    · rintro ⟨text, isText, range, parsed, inside⟩
      exact ⟨range, (each range).mpr ⟨text, isText, parsed⟩, inside⟩
    · rintro ⟨range, isRange, inside⟩
      obtain ⟨text, isText, parsed⟩ := (each range).mp isRange
      exact ⟨text, isText, range, parsed, inside⟩
  rw [has, isDenied]
  simp

/-- Of blocks that share nothing an address has at most one. -/
theorem countP_le_one {blocks : List Block}
    (apart : blocks.Pairwise fun one other => ∀ address, ¬ (one.Has address ∧ other.Has address))
    (address : Nat) : blocks.countP (fun block => block.Has address) ≤ 1 := by
  induction blocks with
  | nil => simp
  | cons block rest ih =>
      obtain ⟨first, restApart⟩ := List.pairwise_cons.mp apart
      rw [List.countP_cons]
      by_cases here : block.Has address
      · have none : rest.countP (fun block => block.Has address) = 0 := by
          rw [List.countP_eq_zero]
          intro other isOther there
          exact first other isOther address ⟨here, by simpa using there⟩
        simp [none, here]
      · simpa [here] using ih restApart

/-- The complement of denied ranges and the ranges part the address space, in blocks that share nothing;
    and a range is taken apart into the fewest aligned blocks. -/
theorem complement_parts_the_space :
    (∀ denied : List Utf16, (∀ text ∈ denied, ∃ range, parseIpv4Cidr text = .ok range) →
      ∃ allowed blocks, ipv4Complement denied = .ok allowed ∧ Reads allowed blocks ∧
        blocks.Pairwise (fun one other => ∀ address, ¬ (one.Has address ∧ other.Has address)) ∧
        ∀ address < ipv4Space,
          (Denied denied address ∧ blocks.countP (fun block => block.Has address) = 0) ∨
            (¬ Denied denied address ∧ blocks.countP (fun block => block.Has address) = 1)) ∧
    ∀ range : Ipv4Range, range.start ≤ range.stop → range.stop < ipv4Space →
      (∀ more, (rangeBlocks range.stop (range.stop + 1 - range.start + more) range.start).map blockText =
        rangeToCidrs range) ∧
      ∃ blocks : List Block, Reads (rangeToCidrs range) blocks ∧
        Tiles blocks range.start (range.stop + 1) ∧
        ∀ others : List Block, Tiles others range.start (range.stop + 1) →
          (rangeToCidrs range).length ≤ others.length := by
  constructor
  · intro denied valid
    obtain ⟨allowed, blocks, isAllowed, reads, apart, has⟩ := complement_has valid
    refine ⟨allowed, blocks, isAllowed, reads, apart, ?_⟩
    intro address inSpace
    have isAllowed : (∃ block ∈ blocks, block.Has address) ↔ ¬ Denied denied address := by
      rw [has]
      simp [inSpace]
    have atMostOne := countP_le_one apart address
    have some : 0 < blocks.countP (fun block => block.Has address) ↔ ¬ Denied denied address := by
      simpa [List.countP_pos_iff] using isAllowed
    by_cases denies : Denied denied address
    · exact .inl ⟨denies, by simpa [denies] using some⟩
    · have positive := some.mpr denies
      exact .inr ⟨denies, by omega⟩
  · intro range ordered inSpace
    refine ⟨fun more => by rw [rangeBlocks_more _ _ (le_refl _) more, rangeToCidrs], ?_⟩
    obtain ⟨blocks, greedy, reads⟩ := rangeToCidrs_spec inSpace
    refine ⟨blocks, reads, greedy.tiles, ?_⟩
    intro others tiling
    rw [reads.length_eq]
    exact greedy.fewest tiling

theorem complement_parts_the_space_halves :
    (∃ allowed blocks, ipv4Complement [units "0.0.0.0/1", units "64.0.0.0/2"] = .ok allowed ∧
      Reads allowed blocks ∧
      blocks.Pairwise (fun one other => ∀ address, ¬ (one.Has address ∧ other.Has address)) ∧
      ∀ address < ipv4Space,
        (Denied [units "0.0.0.0/1", units "64.0.0.0/2"] address ∧
            blocks.countP (fun block => block.Has address) = 0) ∨
          (¬ Denied [units "0.0.0.0/1", units "64.0.0.0/2"] address ∧
            blocks.countP (fun block => block.Has address) = 1)) ∧
    ∀ others : List Block, Tiles others 1 7 → (rangeToCidrs ⟨1, 6⟩).length ≤ others.length := by
  constructor
  · apply complement_parts_the_space.1
    intro text isText
    rcases List.mem_pair.mp isText with rfl | rfl
    · exact ⟨⟨0, 2 ^ 31 - 1⟩, by decide⟩
    · exact ⟨⟨2 ^ 30, 2 ^ 31 - 1⟩, by decide⟩
  · obtain ⟨-, blocks, -, -, fewest⟩ := complement_parts_the_space.2 ⟨1, 6⟩ (by decide) (by decide)
    exact fewest

end JumptotechLabs.Kubernetes
