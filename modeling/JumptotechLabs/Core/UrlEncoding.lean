/-
Module: JumptotechLabs.Core.UrlEncoding
Layer: Core (library)
Purpose: How texts are written in a URL: the characters of a text, percent-encoding, and the parameters of a query. What
  is written as a query is read back; a text of which half a pair was left is not well formed, and is read back changed.
Main exports: scalars, ofScalars, WellFormed, percentDecode, encodeURIComponent, SearchParams, SearchParams.parse,
  SearchParams.written, SearchParams.parse_written
-/
import JumptotechLabs.Core.Keyed
import JumptotechLabs.Core.Lines
import JumptotechLabs.Core.Utf8

namespace JumptotechLabs.Core

open JumptotechLabs.Core.Utf16 (isHighSurrogate isLowSurrogate)

/-! ### Characters -/

/-- The character of a unit that stands alone. -/
def scalarOf (unit : UInt16) : Char :=
  if isHighSurrogate unit || isLowSurrogate unit then replacementChar else Char.ofNat unit.toNat

/-- The characters of a text; half of a pair that stands alone is replaced. -/
def scalars : Utf16 → List Char
  | [] => []
  | [unit] => [scalarOf unit]
  | unit :: next :: rest =>
      if isHighSurrogate unit && isLowSurrogate next then
        Char.ofNat (0x10000 + (unit.toNat - 0xD800) * 0x400 + (next.toNat - 0xDC00)) :: scalars rest
      else scalarOf unit :: scalars (next :: rest)

def ofScalars (chars : List Char) : Utf16 := chars.flatMap charUnits

theorem ofScalars_cons (c : Char) (chars : List Char) : ofScalars (c :: chars) = charUnits c ++ ofScalars chars := rfl

theorem high_iff {unit : UInt16} : isHighSurrogate unit = true ↔ 0xD800 ≤ unit.toNat ∧ unit.toNat ≤ 0xDBFF := by
  rw [isHighSurrogate, Bool.and_eq_true, decide_eq_true_eq, decide_eq_true_eq, UInt16.le_iff_toNat_le,
    UInt16.le_iff_toNat_le]
  rfl

theorem low_iff {unit : UInt16} : isLowSurrogate unit = true ↔ 0xDC00 ≤ unit.toNat ∧ unit.toNat ≤ 0xDFFF := by
  rw [isLowSurrogate, Bool.and_eq_true, decide_eq_true_eq, decide_eq_true_eq, UInt16.le_iff_toNat_le,
    UInt16.le_iff_toNat_le]
  rfl

theorem toNat_unit {n : Nat} (small : n < 0x10000) : n.toUInt16.toNat = n := by
  rw [Nat.toUInt16_eq, UInt16.toNat_ofNat']
  exact Nat.mod_eq_of_lt small

/-- A unit that is no first half is a character of its own. -/
theorem scalars_cons {unit : UInt16} (notHigh : isHighSurrogate unit = false) (rest : Utf16) :
    scalars (unit :: rest) = scalarOf unit :: scalars rest := by
  cases rest with
  | nil => rfl
  | cons next rest => rw [scalars, notHigh, Bool.false_and, if_neg Bool.false_ne_true]

theorem scalars_charUnits (c : Char) (rest : Utf16) : scalars (charUnits c ++ rest) = c :: scalars rest := by
  have valid : c.toNat < 0xD800 ∨ (0xDFFF < c.toNat ∧ c.toNat < 0x110000) := c.valid
  have same : Char.ofNat c.toNat = c := Char.ofNat_toNat c
  rw [charUnits]
  split
  case isTrue narrow =>
    have isUnit := toNat_unit narrow
    have notHigh : isHighSurrogate c.toNat.toUInt16 = false := by
      rw [Bool.eq_false_iff, Ne, high_iff, isUnit]
      omega
    have notLow : isLowSurrogate c.toNat.toUInt16 = false := by
      rw [Bool.eq_false_iff, Ne, low_iff, isUnit]
      omega
    rw [List.singleton_append, scalars_cons notHigh, scalarOf, notHigh, notLow, Bool.or_false,
      if_neg Bool.false_ne_true, isUnit, same]
  case isFalse wide =>
    have high := toNat_unit (show 0xD800 + (c.toNat - 0x10000) / 0x400 < 0x10000 by omega)
    have low := toNat_unit (show 0xDC00 + (c.toNat - 0x10000) % 0x400 < 0x10000 by omega)
    have pair : (isHighSurrogate (0xD800 + (c.toNat - 0x10000) / 0x400).toUInt16 &&
        isLowSurrogate (0xDC00 + (c.toNat - 0x10000) % 0x400).toUInt16) = true := by
      rw [Bool.and_eq_true, high_iff, low_iff, high, low]
      omega
    rw [List.cons_append, List.singleton_append, scalars, if_pos pair, high, low]
    refine congrArg (· :: scalars rest) (Eq.trans ?_ same)
    exact congrArg Char.ofNat (by omega)

theorem scalars_ofScalars (chars : List Char) : scalars (ofScalars chars) = chars := by
  induction chars with
  | nil => rfl
  | cons c chars ih => rw [ofScalars_cons, scalars_charUnits, ih]

/-- `text.isWellFormed()`: no half of a pair stands alone. -/
def WellFormed (text : Utf16) : Prop := ofScalars (scalars text) = text

instance (text : Utf16) : Decidable (WellFormed text) := inferInstanceAs (Decidable (_ = _))

theorem wellFormed_ofScalars (chars : List Char) : WellFormed (ofScalars chars) := by
  rw [WellFormed, scalars_ofScalars]

theorem toNat_char {n : Nat} (valid : n.isValidChar) : (Char.ofNat n).toNat = n := by
  rw [Char.ofNat, dif_pos valid]
  rfl

theorem charUnits_scalarOf {unit : UInt16} (plain : (isHighSurrogate unit || isLowSurrogate unit) = false) :
    charUnits (scalarOf unit) = [unit] := by
  have bound : unit.toNat < 0x10000 := unit.toNat_lt
  have valid : unit.toNat.isValidChar := by
    rw [Bool.or_eq_false_iff, Bool.eq_false_iff, Bool.eq_false_iff, Ne, Ne, high_iff, low_iff] at plain
    rw [Nat.isValidChar]
    omega
  rw [scalarOf, plain, if_neg Bool.false_ne_true, charUnits, toNat_char valid, if_pos bound, Nat.toUInt16_eq,
    UInt16.ofNat_toNat]

theorem charUnits_scalarOf_half {unit : UInt16} (half : (isHighSurrogate unit || isLowSurrogate unit) = true) :
    charUnits (scalarOf unit) = [0xFFFD] := by
  rw [scalarOf, if_pos half]
  rfl

theorem length_charUnits_scalarOf (unit : UInt16) : (charUnits (scalarOf unit)).length = 1 := by
  cases half : isHighSurrogate unit || isLowSurrogate unit with
  | true => rw [charUnits_scalarOf_half half, List.length_singleton]
  | false => rw [charUnits_scalarOf half, List.length_singleton]

/-- Replacing half of a pair leaves the length as it was. -/
theorem length_ofScalars_scalars (text : Utf16) : (ofScalars (scalars text)).length = text.length := by
  fun_induction scalars text with
  | case1 => rfl
  | case2 unit => rw [ofScalars_cons, List.length_append, length_charUnits_scalarOf]; rfl
  | case3 unit next rest pair ih =>
      rw [Bool.and_eq_true, high_iff, low_iff] at pair
      have valid : (0x10000 + (unit.toNat - 0xD800) * 0x400 + (next.toNat - 0xDC00)).isValidChar := by
        rw [Nat.isValidChar]
        omega
      rw [ofScalars_cons, List.length_append, ih, charUnits, toNat_char valid, if_neg (by omega)]
      simp only [List.length_cons, List.length_nil]
      omega
  | case4 unit next rest apart ih =>
      rw [ofScalars_cons, List.length_append, ih, length_charUnits_scalarOf, List.length_cons (a := unit)]
      omega

theorem exists_pair (c : Char) (wide : ¬c.toNat < 0x10000) :
    ∃ high low, charUnits c = [high, low] ∧ isHighSurrogate high = true ∧ isHighSurrogate low = false := by
  have valid : c.toNat < 0xD800 ∨ (0xDFFF < c.toNat ∧ c.toNat < 0x110000) := c.valid
  refine ⟨_, _, if_neg wide, ?_, ?_⟩
  · rw [high_iff, toNat_unit (by omega)]
    omega
  · rw [Bool.eq_false_iff, Ne, high_iff, toNat_unit (by omega)]
    omega

theorem mem_getLast?_cons {unit last : UInt16} {rest : Utf16} (isLast : last ∈ rest.getLast?) :
    last ∈ (unit :: rest).getLast? := by
  rw [Option.mem_def] at isLast ⊢
  rw [List.getLast?_cons, isLast, Option.getD_some]

/-- The front of a well-formed text is well formed if it does not end in the first half of a pair. -/
theorem wellFormed_take {text : Utf16} (wellFormed : WellFormed text) {count : Nat}
    (whole : ∀ unit ∈ (text.take count).getLast?, isHighSurrogate unit = false) : WellFormed (text.take count) := by
  obtain ⟨chars, rfl⟩ : ∃ chars, text = ofScalars chars := ⟨_, wellFormed.symm⟩
  suffices front : ∃ taken, (ofScalars chars).take count = ofScalars taken by
    obtain ⟨taken, isFront⟩ := front
    rw [isFront]
    exact wellFormed_ofScalars taken
  clear wellFormed
  induction chars generalizing count with
  | nil => exact ⟨[], List.take_nil⟩
  | cons c chars ih =>
      rw [ofScalars_cons] at whole ⊢
      by_cases narrow : c.toNat < 0x10000
      · obtain ⟨unit, isUnit⟩ : ∃ unit, charUnits c = [unit] := ⟨_, if_pos narrow⟩
        rw [isUnit, List.singleton_append] at whole ⊢
        cases count with
        | zero => exact ⟨[], rfl⟩
        | succ count =>
            rw [List.take_succ_cons] at whole ⊢
            obtain ⟨taken, isFront⟩ := ih fun last isLast => whole last (mem_getLast?_cons isLast)
            exact ⟨c :: taken, by rw [isFront, ofScalars_cons, isUnit, List.singleton_append]⟩
      · obtain ⟨high, low, isPair, isHigh, -⟩ := exists_pair c narrow
        rw [isPair, List.cons_append, List.singleton_append] at whole ⊢
        match count with
        | 0 => exact ⟨[], rfl⟩
        | 1 => exact absurd isHigh (by rw [whole high rfl]; exact Bool.false_ne_true)
        | count + 2 =>
            rw [List.take_succ_cons, List.take_succ_cons] at whole ⊢
            obtain ⟨taken, isFront⟩ := ih fun last isLast =>
              whole last (mem_getLast?_cons (mem_getLast?_cons isLast))
            refine ⟨c :: taken, ?_⟩
            rw [isFront, ofScalars_cons, isPair, List.cons_append, List.singleton_append]

/-- A well-formed text does not end in the first half of a pair. -/
theorem WellFormed.not_high_last {text : Utf16} (wellFormed : WellFormed text) {last : UInt16}
    (isLast : last ∈ text.getLast?) : isHighSurrogate last = false := by
  obtain ⟨chars, rfl⟩ : ∃ chars, text = ofScalars chars := ⟨_, wellFormed.symm⟩
  rcases List.eq_nil_or_concat chars with rfl | ⟨front, c, rfl⟩
  · cases isLast
  rw [ofScalars, List.concat_eq_append, List.flatMap_append, List.flatMap_singleton, Option.mem_def] at isLast
  by_cases narrow : c.toNat < 0x10000
  · have valid : c.toNat < 0xD800 ∨ (0xDFFF < c.toNat ∧ c.toNat < 0x110000) := c.valid
    rw [charUnits, if_pos narrow, List.getLast?_concat, Option.some.injEq] at isLast
    rw [Bool.eq_false_iff, Ne, high_iff, ← isLast, toNat_unit narrow]
    omega
  · obtain ⟨high, low, isPair, -, notHigh⟩ := exists_pair c narrow
    rw [isPair, List.append_cons, List.getLast?_concat, Option.some.injEq] at isLast
    rw [← isLast]
    exact notHigh

theorem wellFormed_ascii {text : Utf16} (ascii : ∀ unit ∈ text, unit.toNat < 0x80) :
    WellFormed text ∧ scalars text = text.map fun unit => Char.ofNat unit.toNat := by
  induction text with
  | nil => exact ⟨rfl, rfl⟩
  | cons unit rest ih =>
      obtain ⟨small, others⟩ := List.forall_mem_cons.mp ascii
      obtain ⟨wellFormed, chars⟩ := ih others
      have notHigh : isHighSurrogate unit = false := by
        rw [Bool.eq_false_iff, Ne, high_iff]
        omega
      have notLow : isLowSurrogate unit = false := by
        rw [Bool.eq_false_iff, Ne, low_iff]
        omega
      have plain : (isHighSurrogate unit || isLowSurrogate unit) = false := by rw [notHigh, notLow, Bool.or_false]
      rw [WellFormed] at wellFormed ⊢
      rw [scalars_cons notHigh, ofScalars_cons, charUnits_scalarOf plain, wellFormed, chars, List.map_cons, scalarOf,
        if_neg (by rw [plain]; exact Bool.false_ne_true)]
      exact ⟨rfl, rfl⟩

/-! ### White space -/

theorem not_isSpace_of_surrogate {unit : UInt16} (above : 0xD800 ≤ unit.toNat) (below : unit.toNat ≤ 0xDFFF) :
    Utf16.isSpace unit = false := by
  have apart (space : UInt16) (outside : ¬(0xD800 ≤ space.toNat ∧ space.toNat ≤ 0xDFFF)) : (unit == space) = false := by
    rw [beq_eq_false_iff_ne]
    rintro rfl
    exact outside ⟨above, below⟩
  have beyond (bound : UInt16) (small : bound.toNat < 0xD800) : decide (unit ≤ bound) = false := by
    rw [decide_eq_false_iff_not, UInt16.le_iff_toNat_le]
    omega
  rw [Utf16.isSpace, beyond 13 (by decide), beyond 0x200A (by decide), Bool.and_false, Bool.and_false,
    apart 32 (by decide), apart 0xA0 (by decide), apart 0x1680 (by decide), apart 0x2028 (by decide),
    apart 0x2029 (by decide), apart 0x202F (by decide), apart 0x205F (by decide), apart 0x3000 (by decide),
    apart 0xFEFF (by decide)]
  rfl

/-- A character is white space, or neither of its units is. -/
theorem blank_or_solid (c : Char) : Blank (charUnits c) ∨
    (¬Blank (charUnits c) ∧ Utf16.trimStart (charUnits c) = charUnits c ∧
      Utf16.trimEnd (charUnits c) = charUnits c) := by
  have valid : c.toNat < 0xD800 ∨ (0xDFFF < c.toNat ∧ c.toNat < 0x110000) := c.valid
  have solid {text : Utf16} (nonempty : text ≠ []) (visible : ∀ unit ∈ text, Utf16.isSpace unit = false) :
      ¬Blank text ∧ Utf16.trimStart text = text ∧ Utf16.trimEnd text = text := by
    obtain ⟨unit, rest, rfl⟩ := List.exists_cons_of_ne_nil nonempty
    have notSpace : ¬Utf16.isSpace unit = true := by
      rw [visible unit List.mem_cons_self]
      exact Bool.false_ne_true
    refine ⟨fun blank => notSpace (blank unit List.mem_cons_self), List.dropWhile_cons_of_neg notSpace, ?_⟩
    refine List.rdropWhile_eq_self_iff.mpr fun isCons => ?_
    rw [visible _ (List.getLast_mem isCons)]
    exact Bool.false_ne_true
  by_cases narrow : c.toNat < 0x10000
  · rw [charUnits, if_pos narrow]
    cases space : Utf16.isSpace c.toNat.toUInt16 with
    | true => exact .inl fun unit isUnit => by rw [List.mem_singleton.mp isUnit, space]
    | false =>
        exact .inr (solid (List.cons_ne_nil _ _) fun unit isUnit => by rw [List.mem_singleton.mp isUnit, space])
  · refine .inr (solid ?_ fun unit isUnit => ?_)
    · rw [charUnits, if_neg narrow]
      exact List.cons_ne_nil _ _
    · rw [charUnits, if_neg narrow, List.mem_pair] at isUnit
      rcases isUnit with rfl | rfl
      · exact not_isSpace_of_surrogate (by rw [toNat_unit (by omega)]; omega) (by rw [toNat_unit (by omega)]; omega)
      · exact not_isSpace_of_surrogate (by rw [toNat_unit (by omega)]; omega) (by rw [toNat_unit (by omega)]; omega)

/-- Trimming takes whole characters. -/
theorem WellFormed.trim {text : Utf16} (wellFormed : WellFormed text) : WellFormed text.trim := by
  have start (chars : List Char) : ∃ left, Utf16.trimStart (ofScalars chars) = ofScalars left := by
    induction chars with
    | nil => exact ⟨[], rfl⟩
    | cons c chars ih =>
        rcases blank_or_solid c with blank | ⟨visible, kept, -⟩
        · rw [ofScalars_cons, Utf16.trimStart_blank_append blank]
          exact ih
        · exact ⟨c :: chars, by rw [ofScalars_cons, Utf16.trimStart_append visible, kept]⟩
  have stop (chars : List Char) : ∃ left, Utf16.trimEnd (ofScalars chars) = ofScalars left := by
    induction chars using List.reverseRecOn with
    | nil => exact ⟨[], rfl⟩
    | append_singleton chars c ih =>
        have whole : ofScalars (chars ++ [c]) = ofScalars chars ++ charUnits c := by
          rw [ofScalars, List.flatMap_append, List.flatMap_singleton]
          rfl
        rcases blank_or_solid c with blank | ⟨visible, -, kept⟩
        · rw [whole, Utf16.trimEnd_append_blank blank]
          exact ih
        · exact ⟨chars ++ [c], by rw [whole, Utf16.trimEnd_append visible, kept]⟩
  obtain ⟨left, afterStart⟩ := start (scalars text)
  obtain ⟨rest, afterStop⟩ := stop left
  rw [← show ofScalars (scalars text) = text from wellFormed, Utf16.trim_eq, afterStart, afterStop]
  exact wellFormed_ofScalars rest

/-- Of a trimmed text, what a cut leaves is written and read back if the cut leaves no white space and no half of a
    pair behind; else it is read back changed. -/
theorem cut_survives_iff {text : Utf16} (wellFormed : WellFormed text) (trimmed : text.trim = text) (count : Nat) :
    (ofScalars (scalars (text.take (count + 1)))).trim.take (count + 1) = text.take (count + 1) ↔
      ∀ unit, text[count]? = some unit → Utf16.isSpace unit = false ∧ isHighSurrogate unit = false := by
  obtain ⟨-, -, -, -, -, starts, ends⟩ := Utf16.exists_trim text
  rw [trimmed] at starts ends
  constructor
  · intro same unit isLast
    have long : count + 1 ≤ text.length := (List.getElem?_eq_some_iff.mp isLast).1
    have last : unit ∈ (text.take (count + 1)).getLast? := by
      rw [Option.mem_def, List.getLast?_eq_getElem?, List.length_take_of_le long, Nat.add_sub_cancel,
        List.getElem?_take_of_lt (Nat.lt_succ_self count), isLast]
    obtain ⟨lead, trail, whole, -⟩ := Utf16.exists_trim (ofScalars (scalars (text.take (count + 1))))
    have lengths := congrArg List.length same
    have total := congrArg List.length whole
    rw [length_ofScalars_scalars, List.length_append, List.length_append] at total
    rw [List.length_take, List.length_take] at lengths
    rw [List.length_take] at total
    have noLead : lead = [] := List.eq_nil_of_length_eq_zero (by omega)
    have noTrail : trail = [] := List.eq_nil_of_length_eq_zero (by omega)
    rw [noLead, noTrail, List.nil_append, List.append_nil] at whole
    have kept : ofScalars (scalars (text.take (count + 1))) = text.take (count + 1) := by
      rw [← whole, List.take_of_length_le] at same
      · exact same
      · rw [length_ofScalars_scalars, List.length_take]
        omega
    obtain ⟨-, -, -, -, -, -, solid⟩ := Utf16.exists_trim (ofScalars (scalars (text.take (count + 1))))
    rw [← whole, kept] at solid
    exact ⟨solid unit last, WellFormed.not_high_last kept last⟩
  · intro whole
    have ends' : ∀ unit ∈ (text.take (count + 1)).getLast?,
        Utf16.isSpace unit = false ∧ isHighSurrogate unit = false := by
      intro unit isLast
      by_cases long : count + 1 ≤ text.length
      · rw [Option.mem_def, List.getLast?_eq_getElem?, List.length_take_of_le long, Nat.add_sub_cancel,
          List.getElem?_take_of_lt (Nat.lt_succ_self count)] at isLast
        exact whole unit isLast
      · rw [List.take_of_length_le (Nat.le_of_not_le long)] at isLast
        exact ⟨ends unit isLast, wellFormed.not_high_last isLast⟩
    have kept : ofScalars (scalars (text.take (count + 1))) = text.take (count + 1) :=
      wellFormed_take wellFormed fun unit isLast => (ends' unit isLast).2
    rw [kept, Utf16.trim_eq_self _ fun unit isLast => (ends' unit isLast).1, List.take_take, Nat.min_self]
    intro unit isFirst
    rw [List.head?_take, if_neg (Nat.succ_ne_zero count)] at isFirst
    exact starts unit isFirst

/-! ### Percent-encoding -/

def upperHexDigit (value : Nat) : UInt8 := if value < 10 then (48 + value).toUInt8 else (55 + value).toUInt8

/-- `%` and two digits. -/
def percentByte (byte : UInt8) : List UInt8 :=
  [37, upperHexDigit (byte.toNat / 16), upperHexDigit (byte.toNat % 16)]

def hexValue (byte : UInt8) : Option Nat :=
  if 48 ≤ byte && byte ≤ 57 then some (byte.toNat - 48)
  else if 65 ≤ byte && byte ≤ 70 then some (byte.toNat - 55)
  else if 97 ≤ byte && byte ≤ 102 then some (byte.toNat - 87)
  else none

/-- A `%` without two digits behind it stands for itself. -/
def percentDecode : List UInt8 → List UInt8
  | [] => []
  | [byte] => [byte]
  | [byte, last] => [byte, last]
  | byte :: high :: low :: rest =>
      if byte = 37 then
        match hexValue high, hexValue low with
        | some one, some other => (one * 16 + other).toUInt8 :: percentDecode rest
        | _, _ => byte :: percentDecode (high :: low :: rest)
      else byte :: percentDecode (high :: low :: rest)

theorem upperHexDigit_spec : ∀ value < 16, hexValue (upperHexDigit value) = some value ∧
    (upperHexDigit value).toNat < 0x80 ∧ upperHexDigit value ≠ 43 ∧ upperHexDigit value ≠ 38 ∧
    upperHexDigit value ≠ 61 ∧ upperHexDigit value ≠ 63 := by
  decide

theorem percentDecode_cons {byte : UInt8} (plain : byte ≠ 37) (rest : List UInt8) :
    percentDecode (byte :: rest) = byte :: percentDecode rest := by
  match rest with
  | [] => rfl
  | [_] => rfl
  | _ :: _ :: _ => rw [percentDecode, if_neg plain]

theorem percentDecode_percentByte (byte : UInt8) (rest : List UInt8) :
    percentDecode (percentByte byte ++ rest) = byte :: percentDecode rest := by
  have bound : byte.toNat < 256 := byte.toNat_lt
  have high := (upperHexDigit_spec (byte.toNat / 16) (by omega)).1
  have low := (upperHexDigit_spec (byte.toNat % 16) (by omega)).1
  have whole : (byte.toNat / 16 * 16 + byte.toNat % 16).toUInt8 = byte := by
    rw [Nat.div_add_mod', Nat.toUInt8_eq, UInt8.ofNat_toNat]
  rw [percentByte, List.cons_append, List.cons_append, List.singleton_append, percentDecode, if_pos rfl, high, low]
  exact congrArg (· :: percentDecode rest) whole

/-- Bytes that are all of ASCII, as a text. -/
def asciiText (bytes : List UInt8) : Utf16 := bytes.map UInt8.toUInt16

theorem encodeChar_ascii {unit : UInt16} (ascii : unit.toNat < 0x80) :
    String.utf8EncodeChar (Char.ofNat unit.toNat) = [unit.toUInt8] := by
  have value : (Char.ofNat unit.toNat).val.toNat = unit.toNat := toNat_char (.inl (by omega))
  have byte : unit.toNat.toUInt8 = unit.toUInt8 := by
    rw [← UInt8.toNat_inj, Nat.toUInt8_eq, UInt8.toNat_ofNat', UInt16.toNat_toUInt8]
  have narrow : unit.toNat ≤ 0x7f := by omega
  simp only [String.utf8EncodeChar, value, if_pos narrow, byte]

theorem encodeUtf8_ascii {text : Utf16} (ascii : ∀ unit ∈ text, unit.toNat < 0x80) :
    encodeUtf8 (scalars text) = text.map UInt16.toUInt8 := by
  rw [(wellFormed_ascii ascii).2]
  induction text with
  | nil => rfl
  | cons unit rest ih =>
      obtain ⟨small, others⟩ := List.forall_mem_cons.mp ascii
      rw [List.map_cons, encodeUtf8, List.flatMap_cons, encodeChar_ascii small, List.map_cons]
      exact congrArg (unit.toUInt8 :: ·) (ih others)

theorem mem_asciiText_lt {bytes : List UInt8} (ascii : ∀ byte ∈ bytes, byte.toNat < 0x80) :
    ∀ unit ∈ asciiText bytes, unit.toNat < 0x80 := by
  intro unit member
  obtain ⟨byte, inside, rfl⟩ := List.mem_map.mp member
  rw [UInt8.toNat_toUInt16]
  exact ascii byte inside

theorem encodeUtf8_asciiText {bytes : List UInt8} (ascii : ∀ byte ∈ bytes, byte.toNat < 0x80) :
    encodeUtf8 (scalars (asciiText bytes)) = bytes := by
  rw [encodeUtf8_ascii (mem_asciiText_lt ascii), asciiText, List.map_map]
  exact (List.map_congr_left fun byte _ => UInt8.toUInt8_toUInt16 byte).trans (List.map_id _)

/-- What `encodeURIComponent` leaves as it is. -/
def isUnreserved (byte : UInt8) : Bool :=
  (48 ≤ byte && byte ≤ 57) || (65 ≤ byte && byte ≤ 90) || (97 ≤ byte && byte ≤ 122) ||
    byte ∈ [45, 95, 46, 33, 126, 42, 39, 40, 41]

def componentByte (byte : UInt8) : List UInt8 := if isUnreserved byte then [byte] else percentByte byte

/-- `encodeURIComponent(text)`, which throws where half of a pair stands alone. -/
def encodeURIComponent (text : Utf16) : Option Utf16 :=
  if WellFormed text then some (asciiText ((encodeUtf8 (scalars text)).flatMap componentByte)) else none

theorem encodeURIComponent_ascii {text : Utf16} (ascii : ∀ unit ∈ text, unit.toNat < 0x80) :
    encodeURIComponent text = some (asciiText ((text.map UInt16.toUInt8).flatMap componentByte)) := by
  rw [encodeURIComponent, if_pos (wellFormed_ascii ascii).1, encodeUtf8_ascii ascii]

/-- Unreserved texts are left as they are. -/
theorem encodeURIComponent_of_unreserved {text : Utf16}
    (plain : ∀ unit ∈ text, unit.toNat < 0x80 ∧ isUnreserved unit.toUInt8 = true) :
    encodeURIComponent text = some text := by
  rw [encodeURIComponent_ascii fun unit member => (plain unit member).1, asciiText]
  refine congrArg some ?_
  induction text with
  | nil => rfl
  | cons unit rest ih =>
      obtain ⟨⟨small, isPlain⟩, others⟩ := List.forall_mem_cons.mp plain
      have kept : unit.toUInt8.toUInt16 = unit := by
        rw [← UInt16.toNat_inj, UInt8.toNat_toUInt16, UInt16.toNat_toUInt8]
        omega
      rw [List.map_cons, List.flatMap_cons, componentByte, if_pos isPlain, List.singleton_append, List.map_cons, kept,
        ih others]

/-- Any other unit is written with a percent sign. -/
theorem percent_mem_of_reserved {text written : Utf16} (ascii : ∀ unit ∈ text, unit.toNat < 0x80) {unit : UInt16}
    (member : unit ∈ text) (isReserved : isUnreserved unit.toUInt8 = false)
    (encoded : encodeURIComponent text = some written) : 37 ∈ written := by
  rw [encodeURIComponent_ascii ascii] at encoded
  cases encoded
  have isPercent : (37 : UInt8) ∈ componentByte unit.toUInt8 := by
    rw [componentByte, isReserved, if_neg Bool.false_ne_true, percentByte]
    exact List.mem_cons_self
  exact List.mem_map.mpr ⟨37, List.mem_flatMap.mpr ⟨_, List.mem_map_of_mem member, isPercent⟩, rfl⟩

/-- No other reserved unit is written. -/
theorem not_mem_of_reserved {text written : Utf16} (ascii : ∀ unit ∈ text, unit.toNat < 0x80) {byte : UInt8}
    (isReserved : isUnreserved byte = false) (noPercent : byte ≠ 37)
    (noDigit : ∀ value < 16, upperHexDigit value ≠ byte)
    (encoded : encodeURIComponent text = some written) : byte.toUInt16 ∉ written := by
  rw [encodeURIComponent_ascii ascii] at encoded
  cases encoded
  intro member
  obtain ⟨unit, inside, same⟩ := List.mem_map.mp member
  rw [← UInt16.toNat_inj, UInt8.toNat_toUInt16, UInt8.toNat_toUInt16, UInt8.toNat_inj] at same
  subst same
  obtain ⟨source, -, inComponent⟩ := List.mem_flatMap.mp inside
  have bound : source.toNat < 256 := source.toNat_lt
  rw [componentByte] at inComponent
  split at inComponent
  case isTrue plain =>
    rw [List.mem_singleton.mp inComponent, plain] at isReserved
    cases isReserved
  case isFalse =>
    simp only [percentByte, List.mem_cons, List.not_mem_nil, or_false] at inComponent
    rcases inComponent with isPercent | isHigh | isLow
    · exact noPercent isPercent
    · exact noDigit _ (by omega) isHigh.symm
    · exact noDigit _ (by omega) isLow.symm

/-! ### The parameters of a query -/

/-- Names and values, in their order. -/
abbrev SearchParams := List (List Char × List Char)

def isFormPlain (byte : UInt8) : Bool :=
  (48 ≤ byte && byte ≤ 57) || (65 ≤ byte && byte ≤ 90) || (97 ≤ byte && byte ≤ 122) || byte ∈ [42, 45, 46, 95]

def formByte (byte : UInt8) : List UInt8 :=
  if byte = 32 then [43] else if isFormPlain byte then [byte] else percentByte byte

def formText (chars : List Char) : List UInt8 := (encodeUtf8 chars).flatMap formByte

def plusToSpace (bytes : List UInt8) : List UInt8 := bytes.map fun byte => if byte = 43 then 32 else byte

/-- What a name or a value says. -/
def decodeForm (bytes : List UInt8) : List Char := decodeUtf8 (percentDecode (plusToSpace bytes))

namespace SearchParams

/-- One parameter; without `=` it is a name. -/
def parsePiece (piece : List UInt8) : List Char × List Char :=
  let name := piece.takeWhile (· ≠ 61)
  (decodeForm name, decodeForm (piece.drop (name.length + 1)))

/-- `new URLSearchParams(text)`. -/
def parse (text : Utf16) : SearchParams :=
  let query := if text.head? = some 63 then text.tail else text
  (((encodeUtf8 (scalars query)).splitOn 38).filter (· ≠ [])).map parsePiece

/-- `params.get(name)`. -/
def get (params : SearchParams) (name : String) : Option Utf16 :=
  (Keyed.lookup Prod.fst name.toList params).map fun param => ofScalars param.2

/-- `params.set(name, value)`, where no name stands twice. -/
def set (params : SearchParams) (name : String) (value : Utf16) : SearchParams :=
  Keyed.put Prod.fst (name.toList, scalars value) params

def writtenPiece (param : List Char × List Char) : List UInt8 := formText param.1 ++ 61 :: formText param.2

/-- `params.toString()`. -/
def written (params : SearchParams) : Utf16 := asciiText ([38].intercalate (params.map writtenPiece))

theorem get_set (params : SearchParams) (name other : String) (value : Utf16) :
    (params.set name value).get other =
      if name = other then some (ofScalars (scalars value)) else params.get other := by
  rw [get, set, Keyed.lookup_put]
  by_cases same : name = other
  · rw [if_pos same, if_pos (congrArg String.toList same), Option.map_some]
  · rw [if_neg same, if_neg fun letters => same (String.toList_inj.mp letters), get]

/-- A value that is read is well formed. -/
theorem wellFormed_of_get {params : SearchParams} {name : String} {value : Utf16}
    (read : params.get name = some value) : WellFormed value := by
  obtain ⟨param, -, rfl⟩ := Option.map_eq_some_iff.mp read
  exact wellFormed_ofScalars param.2

theorem bounds_of_isFormPlain {byte : UInt8} (plain : isFormPlain byte = true) :
    byte.toNat < 0x80 ∧ byte ≠ 37 ∧ byte ≠ 38 ∧ byte ≠ 43 ∧ byte ≠ 61 ∧ byte ≠ 63 := by
  simp only [isFormPlain, Bool.or_eq_true, Bool.and_eq_true, decide_eq_true_eq, UInt8.le_iff_toNat_le, List.mem_cons,
    List.not_mem_nil, or_false, ← UInt8.toNat_inj] at plain
  simp only [ne_eq, ← UInt8.toNat_inj]
  simp only [UInt8.reduceToNat] at plain ⊢
  omega

/-- What a byte is written with: ASCII, and no separator. -/
theorem formByte_ascii {byte unit : UInt8} (member : unit ∈ formByte byte) :
    unit.toNat < 0x80 ∧ unit ≠ 38 ∧ unit ≠ 61 ∧ unit ≠ 63 := by
  have bound : byte.toNat < 256 := byte.toNat_lt
  rw [formByte] at member
  split at member
  · rw [List.mem_singleton.mp member]
    decide
  split at member
  case isTrue plain =>
    obtain ⟨small, -, notAnd, -, others⟩ := bounds_of_isFormPlain plain
    rw [List.mem_singleton.mp member]
    exact ⟨small, notAnd, others⟩
  case isFalse =>
    have high := upperHexDigit_spec (byte.toNat / 16) (by omega)
    have low := upperHexDigit_spec (byte.toNat % 16) (by omega)
    simp only [percentByte, List.mem_cons, List.not_mem_nil, or_false] at member
    rcases member with rfl | rfl | rfl
    · decide
    · exact ⟨high.2.1, high.2.2.2⟩
    · exact ⟨low.2.1, low.2.2.2⟩

theorem percentDecode_formByte (byte : UInt8) (rest : List UInt8) :
    percentDecode (plusToSpace (formByte byte ++ rest)) = byte :: percentDecode (plusToSpace rest) := by
  have bound : byte.toNat < 256 := byte.toNat_lt
  rw [plusToSpace, List.map_append]
  rw [formByte]
  split
  case isTrue isSpace =>
    rw [isSpace, List.map_singleton, if_pos rfl, List.singleton_append]
    exact percentDecode_cons (by decide) _
  split
  case isTrue plain =>
    obtain ⟨-, notPercent, -, notPlus, -⟩ := bounds_of_isFormPlain plain
    rw [List.map_singleton, if_neg notPlus, List.singleton_append]
    exact percentDecode_cons notPercent _
  case isFalse =>
    have high := (upperHexDigit_spec (byte.toNat / 16) (by omega)).2.2.1
    have low := (upperHexDigit_spec (byte.toNat % 16) (by omega)).2.2.1
    have kept : (percentByte byte).map (fun byte => if byte = 43 then 32 else byte) = percentByte byte := by
      rw [percentByte, List.map_cons, List.map_cons, List.map_singleton, if_neg high, if_neg low]
      rfl
    rw [kept]
    exact percentDecode_percentByte byte _

/-- What is written is read back. -/
theorem decodeForm_formText (chars : List Char) : decodeForm (formText chars) = chars := by
  have bytes (row : List UInt8) : percentDecode (plusToSpace (row.flatMap formByte)) = row := by
    induction row with
    | nil => rfl
    | cons byte row ih => rw [List.flatMap_cons, percentDecode_formByte, ih]
  rw [decodeForm, formText]
  exact (congrArg decodeUtf8 (bytes (encodeUtf8 chars))).trans (decodeUtf8_encodeUtf8 chars)

theorem mem_formText {chars : List Char} {unit : UInt8} (member : unit ∈ formText chars) :
    unit.toNat < 0x80 ∧ unit ≠ 38 ∧ unit ≠ 61 ∧ unit ≠ 63 := by
  obtain ⟨byte, -, inByte⟩ := List.mem_flatMap.mp member
  exact formByte_ascii inByte

theorem mem_writtenPiece {param : List Char × List Char} {unit : UInt8} (member : unit ∈ writtenPiece param) :
    unit.toNat < 0x80 ∧ unit ≠ 38 ∧ unit ≠ 63 := by
  have written (chars : List Char) (inText : unit ∈ formText chars) : unit.toNat < 0x80 ∧ unit ≠ 38 ∧ unit ≠ 63 := by
    obtain ⟨small, notAnd, -, notQuery⟩ := mem_formText inText
    exact ⟨small, notAnd, notQuery⟩
  rcases List.mem_append.mp member with inName | behind
  · exact written _ inName
  · rcases List.mem_cons.mp behind with rfl | inValue
    · decide
    · exact written _ inValue

theorem parsePiece_writtenPiece (param : List Char × List Char) : parsePiece (writtenPiece param) = param := by
  have name : (writtenPiece param).takeWhile (· ≠ 61) = formText param.1 := by
    rw [writtenPiece, List.takeWhile_append_of_pos, List.takeWhile_cons_of_neg (by decide), List.append_nil]
    exact fun unit member => decide_eq_true (mem_formText member).2.2.1
  have value : (writtenPiece param).drop ((formText param.1).length + 1) = formText param.2 := by
    rw [writtenPiece, List.drop_append, Nat.add_sub_cancel_left, List.drop_of_length_le (Nat.le_succ _)]
    rfl
  rw [parsePiece, name, value, decodeForm_formText, decodeForm_formText]

theorem mem_intercalate {params : SearchParams} {unit : UInt8}
    (member : unit ∈ [38].intercalate (params.map writtenPiece)) : unit.toNat < 0x80 ∧ unit ≠ 63 := by
  induction params with
  | nil => cases member
  | cons param params ih =>
      have own (inPiece : unit ∈ writtenPiece param) : unit.toNat < 0x80 ∧ unit ≠ 63 :=
        ⟨(mem_writtenPiece inPiece).1, (mem_writtenPiece inPiece).2.2⟩
      cases params with
      | nil =>
          rw [List.map_singleton, List.intercalate_singleton] at member
          exact own member
      | cons other params =>
          rw [List.map_cons, List.map_cons, List.intercalate_cons_cons, List.mem_append, List.mem_append] at member
          rcases member with (inPiece | isAnd) | further
          · exact own inPiece
          · rw [List.mem_singleton.mp isAnd]
            decide
          · exact ih further

/-- A query that is written has no question mark. -/
theorem query_not_mem_written (params : SearchParams) : 63 ∉ written params := by
  intro member
  obtain ⟨byte, inside, isQuery⟩ := List.mem_map.mp member
  refine (mem_intercalate inside).2 ?_
  rw [← UInt16.toNat_inj, UInt8.toNat_toUInt16] at isQuery
  rw [← UInt8.toNat_inj, isQuery]
  rfl

theorem splitOn_written (params : SearchParams) :
    (([38].intercalate (params.map writtenPiece)).splitOn 38).filter (· ≠ []) = params.map writtenPiece := by
  cases params with
  | nil => rfl
  | cons param params =>
      rw [List.splitOn_intercalate 38 _ (by simp), List.filter_eq_self.mpr]
      · intro piece isPiece
        obtain ⟨other, -, rfl⟩ := List.mem_map.mp isPiece
        exact decide_eq_true (List.append_ne_nil_of_right_ne_nil _ (List.cons_ne_nil _ _))
      · intro piece isPiece isAnd
        obtain ⟨other, -, rfl⟩ := List.mem_map.mp isPiece
        exact (mem_writtenPiece isAnd).2.1 rfl

theorem parse_written (params : SearchParams) : parse (written params) = params := by
  have unmarked : ¬(written params).head? = some 63 := fun starts =>
    query_not_mem_written params (List.mem_of_head? starts)
  rw [parse, if_neg unmarked, written, encodeUtf8_asciiText fun byte member => (mem_intercalate member).1,
    splitOn_written, List.map_map]
  exact (List.map_congr_left fun param _ => parsePiece_writtenPiece param).trans (List.map_id _)

end SearchParams

end JumptotechLabs.Core
