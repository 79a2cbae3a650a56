/-
Module: JumptotechLabs.Core.Utf8
Layer: Core (library)
Purpose: Bytes read as text, with a replacement character for each run of bytes that is no character; and the
  white space around a text. A text that was encoded is read back.
Main exports: decodeUtf8, encodeUtf8, decodeUtf8_encodeUtf8, decodeUtf8_ascii, isSpaceChar, trimChars
-/
import JumptotechLabs.Core.Utf16

namespace JumptotechLabs.Core

/-! ### Decoding -/

/-- A character that is under way: how many bytes are needed, the bounds of the next one, and the value so far. -/
structure Utf8State where
  needed : Nat
  lower : Nat
  upper : Nat
  value : Nat

def Utf8State.idle : Utf8State := ⟨0, 0x80, 0xBF, 0⟩

/-- U+FFFD. -/
def replacementChar : Char := '\uFFFD'

/-- The first byte of a character. The bounds of the second leave out overlong forms, surrogates, and what is
    above U+10FFFF. -/
def Utf8State.start (byte : UInt8) : Option Char × Utf8State :=
  let n := byte.toNat
  if n < 0x80 then (some (Char.ofNat n), .idle)
  else if n < 0xC2 then (some replacementChar, .idle)
  else if n < 0xE0 then (none, ⟨1, 0x80, 0xBF, n - 0xC0⟩)
  else if n < 0xF0 then
    (none, ⟨2, if n = 0xE0 then 0xA0 else 0x80, if n = 0xED then 0x9F else 0xBF, n - 0xE0⟩)
  else if n < 0xF5 then
    (none, ⟨3, if n = 0xF0 then 0x90 else 0x80, if n = 0xF4 then 0x8F else 0xBF, n - 0xF0⟩)
  else (some replacementChar, .idle)

/-- The characters of a row of bytes. A byte that does not go on with the character under way starts the next. -/
def decodeFrom : Utf8State → List UInt8 → List Char
  | state, [] => if state.needed = 0 then [] else [replacementChar]
  | state, byte :: rest =>
      if state.needed = 0 ∨ byte.toNat < state.lower ∨ state.upper < byte.toNat then
        (if state.needed = 0 then [] else [replacementChar]) ++ (Utf8State.start byte).1.toList ++
          decodeFrom (Utf8State.start byte).2 rest
      else
        let value := state.value * 64 + (byte.toNat - 0x80)
        if state.needed = 1 then Char.ofNat value :: decodeFrom .idle rest
        else decodeFrom ⟨state.needed - 1, 0x80, 0xBF, value⟩ rest

/-- `buffer.toString('utf8')`. -/
def decodeUtf8 (bytes : List UInt8) : List Char := decodeFrom .idle bytes

def encodeUtf8 (text : List Char) : List UInt8 := text.flatMap String.utf8EncodeChar

theorem decodeFrom_idle (byte : UInt8) (rest : List UInt8) :
    decodeFrom .idle (byte :: rest) =
      (Utf8State.start byte).1.toList ++ decodeFrom (Utf8State.start byte).2 rest := by
  have atStart : Utf8State.idle.needed = 0 := rfl
  rw [decodeFrom, if_pos (.inl atStart), if_pos atStart, List.nil_append]

/-- A byte within the bounds that is not the last. -/
theorem decodeFrom_between {needed lower upper value : Nat} {byte : UInt8} (more : 1 < needed)
    (above : lower ≤ byte.toNat) (below : byte.toNat ≤ upper) (rest : List UInt8) :
    decodeFrom ⟨needed, lower, upper, value⟩ (byte :: rest) =
      decodeFrom ⟨needed - 1, 0x80, 0xBF, value * 64 + (byte.toNat - 0x80)⟩ rest := by
  have goesOn : ¬ (needed = 0 ∨ byte.toNat < lower ∨ upper < byte.toNat) := by omega
  have notLast : needed ≠ 1 := by omega
  rw [decodeFrom, if_neg goesOn, if_neg notLast]

/-- The last byte of a character. -/
theorem decodeFrom_last {lower upper value : Nat} {byte : UInt8} (above : lower ≤ byte.toNat)
    (below : byte.toNat ≤ upper) (rest : List UInt8) :
    decodeFrom ⟨1, lower, upper, value⟩ (byte :: rest) =
      Char.ofNat (value * 64 + (byte.toNat - 0x80)) :: decodeFrom .idle rest := by
  have goesOn : ¬ (1 = 0 ∨ byte.toNat < lower ∨ upper < byte.toNat) := by omega
  rw [decodeFrom, if_neg goesOn, if_pos rfl]

theorem toNat_byte {n : Nat} (small : n < 256) : (UInt8.ofNat n).toNat = n := UInt8.toNat_ofNat_of_lt' small

theorem start_two {n : Nat} (least : 0xC2 ≤ n) (most : n < 0xE0) :
    Utf8State.start (UInt8.ofNat n) = (none, ⟨1, 0x80, 0xBF, n - 0xC0⟩) := by
  rw [Utf8State.start, toNat_byte (by omega)]
  rw [if_neg (by omega), if_neg (by omega), if_pos most]

theorem start_three {n : Nat} (least : 0xE0 ≤ n) (most : n < 0xF0) :
    Utf8State.start (UInt8.ofNat n) =
      (none, ⟨2, if n = 0xE0 then 0xA0 else 0x80, if n = 0xED then 0x9F else 0xBF, n - 0xE0⟩) := by
  rw [Utf8State.start, toNat_byte (by omega)]
  rw [if_neg (by omega), if_neg (by omega), if_neg (by omega), if_pos most]

theorem start_four {n : Nat} (least : 0xF0 ≤ n) (most : n < 0xF5) :
    Utf8State.start (UInt8.ofNat n) =
      (none, ⟨3, if n = 0xF0 then 0x90 else 0x80, if n = 0xF4 then 0x8F else 0xBF, n - 0xF0⟩) := by
  rw [Utf8State.start, toNat_byte (by omega)]
  rw [if_neg (by omega), if_neg (by omega), if_neg (by omega), if_neg (by omega), if_pos most]

/-- A byte that goes on with a character. -/
theorem decodeFrom_goesOn {needed lower upper value n : Nat} (more : 1 < needed) (above : lower ≤ n)
    (below : n ≤ upper) (small : n < 256) (rest : List UInt8) :
    decodeFrom ⟨needed, lower, upper, value⟩ (UInt8.ofNat n :: rest) =
      decodeFrom ⟨needed - 1, 0x80, 0xBF, value * 64 + (n - 0x80)⟩ rest := by
  have isByte := toNat_byte small
  rw [decodeFrom_between more (above.trans_eq isByte.symm) (isByte.trans_le below), isByte]

theorem decodeFrom_ends {value n : Nat} (above : 0x80 ≤ n) (below : n ≤ 0xBF) (rest : List UInt8) :
    decodeFrom ⟨1, 0x80, 0xBF, value⟩ (UInt8.ofNat n :: rest) =
      Char.ofNat (value * 64 + (n - 0x80)) :: decodeFrom .idle rest := by
  have isByte : (UInt8.ofNat n).toNat = n := toNat_byte (by omega)
  rw [decodeFrom_last (above.trans_eq isByte.symm) (isByte.trans_le below), isByte]

/-- An encoded character is read back, whatever comes behind it. -/
theorem decodeFrom_encodeChar (c : Char) (rest : List UInt8) :
    decodeFrom .idle (String.utf8EncodeChar c ++ rest) = c :: decodeFrom .idle rest := by
  have valid : c.val.toNat < 0xD800 ∨ (0xDFFF < c.val.toNat ∧ c.val.toNat < 0x110000) := c.valid
  have same : Char.ofNat c.val.toNat = c := Char.ofNat_toNat c
  unfold String.utf8EncodeChar
  generalize c.val.toNat = v at valid same
  simp only []
  split
  · rename_i one
    have isByte : (UInt8.ofNat v).toNat = v := toNat_byte (by omega)
    have started : Utf8State.start (UInt8.ofNat v) = (some c, .idle) := by
      rw [Utf8State.start, isByte, if_pos (by omega), same]
    rw [List.singleton_append, decodeFrom_idle, started]
    rfl
  split
  · rw [List.cons_append, List.singleton_append, decodeFrom_idle, start_two (by omega) (by omega),
      decodeFrom_ends (by omega) (by omega)]
    rw [← same]
    exact congrArg (Char.ofNat · :: decodeFrom .idle rest) (by omega)
  split
  · rw [List.cons_append, List.cons_append, List.singleton_append, decodeFrom_idle,
      start_three (by omega) (by omega), decodeFrom_goesOn (by omega) (by split <;> omega)
        (by split <;> omega) (by omega), decodeFrom_ends (by omega) (by omega)]
    rw [← same]
    exact congrArg (Char.ofNat · :: decodeFrom .idle rest) (by omega)
  · rw [List.cons_append, List.cons_append, List.cons_append, List.singleton_append, decodeFrom_idle,
      start_four (by omega) (by omega), decodeFrom_goesOn (by omega) (by split <;> omega)
        (by split <;> omega) (by omega), decodeFrom_goesOn (by omega) (by omega) (by omega) (by omega),
      decodeFrom_ends (by omega) (by omega)]
    rw [← same]
    exact congrArg (Char.ofNat · :: decodeFrom .idle rest) (by omega)

theorem decodeUtf8_encodeUtf8 (text : List Char) : decodeUtf8 (encodeUtf8 text) = text := by
  induction text with
  | nil => rfl
  | cons c rest ih =>
      rw [encodeUtf8, List.flatMap_cons, decodeUtf8, decodeFrom_encodeChar]
      exact congrArg (c :: ·) ih

/-- Bytes of ASCII are read one by one. -/
theorem decodeUtf8_ascii {bytes : List UInt8} (ascii : ∀ byte ∈ bytes, byte.toNat < 0x80) :
    decodeUtf8 bytes = bytes.map fun byte => Char.ofNat byte.toNat := by
  induction bytes with
  | nil => rfl
  | cons byte rest ih =>
      have first := ascii byte List.mem_cons_self
      have later := ih fun other inside => ascii other (List.mem_cons_of_mem byte inside)
      have started : Utf8State.start byte = (some (Char.ofNat byte.toNat), .idle) := if_pos first
      rw [decodeUtf8, decodeFrom_idle, started]
      exact congrArg (Char.ofNat byte.toNat :: ·) later

/-! ### White space -/

/-- `\s`, of a character. -/
def isSpaceChar (c : Char) : Bool := decide (c.toNat < 0x10000) && Utf16.isSpace c.toNat.toUInt16

/-- `text.trim()`. -/
def trimChars (text : List Char) : List Char := (text.dropWhile isSpaceChar).rdropWhile isSpaceChar

end JumptotechLabs.Core
