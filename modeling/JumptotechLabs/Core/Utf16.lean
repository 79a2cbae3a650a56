/-
Module: JumptotechLabs.Core.Utf16
Layer: Core (library)
Purpose: Texts as the language has them, sequences of UTF-16 code units in which a surrogate may stand
  alone; how JSON writes such a text, and which fragments the written text holds that the text does not:
  the letters of an escape may run on into the units after it.
Main exports: Utf16, units, Utf16.trim, Utf16.digitsValue, Utf16.decimal, Utf16.byteLength, Utf16.escape, Utf16.Spelled,
  Utf16.infix_escape_iff
-/
import JumptotechLabs.Core.Fragments
import Mathlib.Data.List.DropRight

namespace JumptotechLabs.Core

/-- A text, unit by unit. -/
abbrev Utf16 := List UInt16

instance : LawfulBEq Utf16 := inferInstance

/-- The units of one character. -/
def charUnits (c : Char) : Utf16 :=
  if c.toNat < 0x10000 then [c.toNat.toUInt16]
  else
    [(0xD800 + (c.toNat - 0x10000) / 0x400).toUInt16, (0xDC00 + (c.toNat - 0x10000) % 0x400).toUInt16]

def units (text : String) : Utf16 := text.toList.flatMap charUnits

theorem units_append (first second : String) : units (first ++ second) = units first ++ units second := by
  rw [units, String.toList_append, List.flatMap_append]
  rfl

/-- The unit of a character that is one. -/
def unitOf (c : Char) : UInt16 := c.toNat.toUInt16

namespace Utf16

def isHighSurrogate (unit : UInt16) : Bool := 0xD800 ≤ unit && unit ≤ 0xDBFF

def isLowSurrogate (unit : UInt16) : Bool := 0xDC00 ≤ unit && unit ≤ 0xDFFF

/-- `\s`: white space and line terminators. -/
def isSpace (unit : UInt16) : Bool :=
  (9 ≤ unit && unit ≤ 13) || unit == 32 || unit == 0xA0 || unit == 0x1680 ||
    (0x2000 ≤ unit && unit ≤ 0x200A) || unit == 0x2028 || unit == 0x2029 || unit == 0x202F ||
    unit == 0x205F || unit == 0x3000 || unit == 0xFEFF

/-- `\d`. -/
def isDigit (unit : UInt16) : Bool := 48 ≤ unit && unit ≤ 57

theorem not_isSpace_of_isDigit {unit : UInt16} (digit : isDigit unit = true) :
    isSpace unit = false := by
  have bounds : 48 ≤ unit.toNat ∧ unit.toNat ≤ 57 := by
    simpa [isDigit, UInt16.le_iff_toNat_le] using digit
  simp only [isSpace, Bool.or_eq_false_iff, Bool.and_eq_false_iff, decide_eq_false_iff_not,
    beq_eq_false_iff_ne, ne_eq, UInt16.le_iff_toNat_le, UInt16.ext_iff]
  simp
  omega

/-- `Number(text)`, for a text of digits. -/
def digitsValue (text : Utf16) : Nat := text.foldl (fun value unit => value * 10 + (unit.toNat - 48)) 0

/-- `String(value)`, for a whole number that is not negative. -/
def decimal (value : Nat) : Utf16 := units (toString value)

/-- The lower case of an ASCII letter. An expression that ignores case folds no other unit into ASCII. -/
def lowerAscii (unit : UInt16) : UInt16 := if 65 ≤ unit && unit ≤ 90 then unit + 32 else unit

theorem lowerAscii_lowerAscii (unit : UInt16) : lowerAscii (lowerAscii unit) = lowerAscii unit := by
  by_cases upper : (65 ≤ unit && unit ≤ 90) = true
  · have lowered : lowerAscii unit = unit + 32 := if_pos upper
    have notUpper : ¬ (65 ≤ unit + 32 && unit + 32 ≤ 90) = true := by
      simp only [Bool.and_eq_true, decide_eq_true_eq, UInt16.le_iff_toNat_le,
        UInt16.toNat_add] at upper ⊢
      simp at upper ⊢
      omega
    rw [lowered, lowerAscii, if_neg notUpper]
  · have kept : lowerAscii unit = unit := if_neg upper
    rw [kept, kept]

theorem ascii_of_lowerAscii {unit : UInt16} (ascii : lowerAscii unit < 128) : unit < 128 := by
  rw [lowerAscii] at ascii
  split at ascii
  · rename_i upper
    simp only [Bool.and_eq_true, decide_eq_true_eq, UInt16.le_iff_toNat_le,
      UInt16.lt_iff_toNat_lt] at upper ⊢
    simp at upper ⊢
    omega
  · exact ascii

/-- `text.trim()`. -/
def trim (text : Utf16) : Utf16 := (text.dropWhile isSpace).rdropWhile isSpace

/-- A text that neither starts nor ends with white space is trimmed. -/
theorem trim_eq_self {text : Utf16} (starts : ∀ unit ∈ text.head?, isSpace unit = false)
    (ends : ∀ unit ∈ text.getLast?, isSpace unit = false) : trim text = text := by
  have front : text.dropWhile isSpace = text := by
    cases text with
    | nil => rfl
    | cons unit rest => rw [List.dropWhile_cons_of_neg (by simp [starts unit (by simp)])]
  rw [trim, front, List.rdropWhile_eq_self_iff]
  intro nonempty
  simp [ends _ (List.getLast?_eq_some_getLast nonempty)]

/-- What stands before and after the first such unit. -/
def cutAt (separator : UInt16) : Utf16 → Option (Utf16 × Utf16)
  | [] => none
  | unit :: rest =>
      if unit = separator then some ([], rest)
      else (cutAt separator rest).map fun cut => (unit :: cut.1, cut.2)

theorem cutAt_eq_some_iff {separator : UInt16} {text before after : Utf16} :
    cutAt separator text = some (before, after) ↔
      text = before ++ separator :: after ∧ separator ∉ before := by
  induction text generalizing before with
  | nil => simp [cutAt]
  | cons unit rest ih =>
      rw [cutAt]
      by_cases found : unit = separator
      · subst found
        cases before with
        | nil => simp
        | cons first before =>
            simp
            intro same _ differs
            exact absurd same differs
      · rw [if_neg found]
        cases before with
        | nil => simp [found]
        | cons first before =>
            have cut : ((cutAt separator rest).map fun cut => (unit :: cut.1, cut.2)) =
                some (first :: before, after) ↔
                unit = first ∧ cutAt separator rest = some (before, after) := by
              rw [Option.map_eq_some_iff]
              constructor
              · rintro ⟨⟨behind, last⟩, isCut, same⟩
                cases same
                exact ⟨rfl, isCut⟩
              · rintro ⟨rfl, isCut⟩
                exact ⟨_, isCut, rfl⟩
            rw [cut, ih]
            simp only [List.cons_append, List.cons.injEq, List.mem_cons, not_or, and_assoc]
            constructor
            · rintro ⟨rfl, whole, absent⟩
              exact ⟨rfl, whole, Ne.symm found, absent⟩
            · rintro ⟨same, whole, -, absent⟩
              exact ⟨same, whole, absent⟩

/-- `Buffer.byteLength(text, 'utf8')`: a surrogate that stands alone counts as the replacement
    character. -/
def byteLength : Utf16 → Nat
  | [] => 0
  | [unit] => if unit < 0x80 then 1 else if unit < 0x800 then 2 else 3
  | unit :: next :: rest =>
      if unit < 0x80 then 1 + byteLength (next :: rest)
      else if unit < 0x800 then 2 + byteLength (next :: rest)
      else if isHighSurrogate unit && isLowSurrogate next then 4 + byteLength rest
      else 3 + byteLength (next :: rest)

/-! ### How JSON writes a text -/

def hexDigit (value : Nat) : UInt16 :=
  if value < 10 then (48 + value).toUInt16 else (87 + value).toUInt16

/-- `u` and four digits. -/
def hexLetters (unit : UInt16) : Utf16 :=
  [unitOf 'u', hexDigit (unit.toNat / 4096), hexDigit (unit.toNat / 256 % 16),
    hexDigit (unit.toNat / 16 % 16), hexDigit (unit.toNat % 16)]

/-- What stands after the backslash where JSON escapes the unit. -/
def escapeLetters (unit : UInt16) : Option Utf16 :=
  if unit = 34 then some [34]
  else if unit = 92 then some [92]
  else if unit = 8 then some [unitOf 'b']
  else if unit = 9 then some [unitOf 't']
  else if unit = 10 then some [unitOf 'n']
  else if unit = 12 then some [unitOf 'f']
  else if unit = 13 then some [unitOf 'r']
  else if unit < 32 then some (hexLetters unit)
  else if isHighSurrogate unit || isLowSurrogate unit then some (hexLetters unit)
  else none

/-- The next unit is the second half of a pair. -/
def pairs (unit : UInt16) (rest : Utf16) : Bool :=
  isHighSurrogate unit && rest.head?.any isLowSurrogate

/-- A text as JSON writes it between quotes. `paired` says that the first unit is the second half of a
    pair. -/
def escapeFrom : Bool → Utf16 → Utf16
  | _, [] => []
  | true, unit :: rest => unit :: escapeFrom false rest
  | false, unit :: rest =>
      if pairs unit rest then unit :: escapeFrom true rest
      else
        match escapeLetters unit with
        | none => unit :: escapeFrom false rest
        | some letters => 92 :: (letters ++ escapeFrom false rest)

def escape (text : Utf16) : Utf16 := escapeFrom false text

/-- The letters of an escape, from one of them on, and what is written after them start with the
    fragment. -/
def spelledFrom (fragment : Utf16) : Bool → Utf16 → Bool
  | _, [] => false
  | true, _ :: rest => spelledFrom fragment false rest
  | false, unit :: rest =>
      if pairs unit rest then spelledFrom fragment true rest
      else
        ((escapeLetters unit).getD []).tails.any (fun tail =>
          tail != [] && fragment.isPrefixOf (tail ++ escapeFrom false rest)) ||
          spelledFrom fragment false rest

/-- The text as JSON writes it spells the fragment with the letters of an escape. -/
def Spelled (fragment text : Utf16) : Prop := spelledFrom fragment false text = true

instance (fragment text : Utf16) : Decidable (Spelled fragment text) :=
  inferInstanceAs (Decidable (_ = true))

section Fragments

variable {fragment : Utf16}

theorem isPrefix_of_escapeFrom (plain : 92 ∉ fragment) (paired : Bool) (text : Utf16)
    (starts : fragment <+: escapeFrom paired text) : fragment <+: text := by
  induction text generalizing fragment paired with
  | nil => simpa [escapeFrom] using starts
  | cons unit rest ih =>
      cases fragment with
      | nil => exact List.nil_prefix
      | cons first fragment =>
          have later : 92 ∉ fragment := fun inside => plain (List.mem_cons_of_mem _ inside)
          have kept : ∀ paired, first :: fragment <+: unit :: escapeFrom paired rest →
              first :: fragment <+: unit :: rest := by
            intro paired starts
            rw [List.cons_prefix_cons] at starts ⊢
            exact ⟨starts.1, ih later paired starts.2⟩
          cases paired with
          | true => exact kept false starts
          | false =>
              rw [escapeFrom] at starts
              split at starts
              · exact kept true starts
              · split at starts
                · exact kept false starts
                · rw [List.cons_prefix_cons] at starts
                  exact absurd (starts.1 ▸ List.mem_cons_self) plain

theorem infix_of_escapeFrom (plain : 92 ∉ fragment) (nonempty : fragment ≠ []) (paired : Bool)
    (text : Utf16) (held : fragment <:+: escapeFrom paired text) :
    fragment <:+: text ∨ spelledFrom fragment paired text = true := by
  induction text generalizing paired with
  | nil => exact absurd (List.infix_nil.mp (by simpa [escapeFrom] using held)) nonempty
  | cons unit rest ih =>
      have within : fragment <:+: rest → fragment <:+: unit :: rest :=
        fun inside => inside.trans (List.suffix_cons _ _).isInfix
      -- Where the unit is written as it is, the fragment starts with it or lies behind it.
      have kept : ∀ paired, fragment <:+: unit :: escapeFrom paired rest →
          fragment <:+: unit :: rest ∨ spelledFrom fragment paired rest = true := by
        intro paired held
        rcases List.infix_cons_iff.mp held with starts | inside
        · refine .inl (List.IsPrefix.isInfix ?_)
          cases fragment with
          | nil => exact List.nil_prefix
          | cons first fragment =>
              rw [List.cons_prefix_cons] at starts ⊢
              exact ⟨starts.1, isPrefix_of_escapeFrom
                (fun inside => plain (List.mem_cons_of_mem _ inside)) paired rest starts.2⟩
        · exact (ih paired inside).imp_left within
      cases paired with
      | true => exact kept false held
      | false =>
          rw [escapeFrom] at held
          rw [spelledFrom]
          by_cases pair : pairs unit rest
          · rw [if_pos pair] at held ⊢
            exact kept true held
          · rw [if_neg pair] at held ⊢
            cases escaped : escapeLetters unit with
            | none =>
                rw [escaped] at held
                simpa using kept false held
            | some letters =>
                rw [escaped] at held
                rcases List.infix_cons_iff.mp held with starts | inside
                · cases fragment with
                  | nil => exact absurd rfl nonempty
                  | cons first fragment =>
                      rw [List.cons_prefix_cons] at starts
                      exact absurd (starts.1 ▸ List.mem_cons_self) plain
                · rcases infix_append_iff.mp inside with ⟨tail, ofLetters, some_, starts⟩ | behind
                  · right
                    simp only [Option.getD_some, Bool.or_eq_true, List.any_eq_true]
                    exact .inl ⟨tail, ofLetters, by simpa using ⟨some_, starts⟩⟩
                  · rcases ih false behind with inside | spelled
                    · exact .inl (within inside)
                    · exact .inr (by simp [spelled])

theorem infix_escapeFrom_of_spelled (paired : Bool) (text : Utf16)
    (spelled : spelledFrom fragment paired text = true) : fragment <:+: escapeFrom paired text := by
  induction text generalizing paired with
  | nil => simp [spelledFrom] at spelled
  | cons unit rest ih =>
      have kept : ∀ paired, spelledFrom fragment paired rest = true →
          fragment <:+: unit :: escapeFrom paired rest :=
        fun paired spelled => (ih paired spelled).trans (List.suffix_cons _ _).isInfix
      cases paired with
      | true => exact kept false spelled
      | false =>
          rw [spelledFrom] at spelled
          rw [escapeFrom]
          by_cases pair : pairs unit rest
          · rw [if_pos pair] at spelled ⊢
            exact kept true spelled
          · rw [if_neg pair] at spelled ⊢
            cases escaped : escapeLetters unit with
            | none =>
                rw [escaped] at spelled
                exact kept false (by simpa using spelled)
            | some letters =>
                rw [escaped] at spelled
                simp only [Option.getD_some, Bool.or_eq_true, List.any_eq_true] at spelled
                refine List.infix_cons_iff.mpr (.inr (infix_append_iff.mpr ?_))
                rcases spelled with ⟨tail, ofLetters, starts⟩ | behind
                · exact .inl ⟨tail, ofLetters, by simpa using starts⟩
                · exact .inr (ih false behind)

/-- Of a text that does not hold the fragment, JSON writes the fragment only as the letters of an escape
    spell it. -/
theorem infix_escape_iff (plain : 92 ∉ fragment) (nonempty : fragment ≠ []) {text : Utf16}
    (absent : ¬ fragment <:+: text) : fragment <:+: escape text ↔ Spelled fragment text := by
  constructor
  · intro held
    exact (infix_of_escapeFrom plain nonempty false text held).resolve_left absent
  · exact infix_escapeFrom_of_spelled false text

end Fragments

end Utf16

end JumptotechLabs.Core
