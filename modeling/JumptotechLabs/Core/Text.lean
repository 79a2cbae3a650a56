/-
Module: JumptotechLabs.Core.Text
Layer: Core (library)
Purpose: Which characters a text may hold, for the validators and the database columns; and how bytes are
  written as text.
Main exports: isLowerHex, isAlphanumeric, hasNul, hexAfter, utf16Length, base64
-/
import Mathlib.Data.List.Basic
import Mathlib.Algebra.GroupWithZero.Nat

namespace JumptotechLabs.Core

/-- `[0-9a-f]`. -/
def isLowerHex (c : Char) : Bool := ('0' ≤ c && c ≤ '9') || ('a' ≤ c && c ≤ 'f')

/-- `[A-Za-z0-9]`. -/
def isAlphanumeric (c : Char) : Bool :=
  ('0' ≤ c && c ≤ '9') || ('a' ≤ c && c ≤ 'z') || ('A' ≤ c && c ≤ 'Z')

/-- `^head[0-9a-f]{least,most}$`. -/
def hexAfter (head : String) (least most : Nat) (text : String) : Bool :=
  let digits := text.toList.drop head.toList.length
  head.toList.isPrefixOf text.toList && least ≤ digits.length && digits.length ≤ most &&
    digits.all isLowerHex

/-- The length of a text in UTF-16 code units. -/
def utf16Length (text : String) : Nat :=
  (text.toList.map fun c => if c.toNat < 0x10000 then 1 else 2).sum

theorem length_le_utf16Length (text : String) : text.length ≤ utf16Length text := by
  rw [← String.length_toList, utf16Length]
  induction text.toList with
  | nil => exact Nat.le_refl _
  | cons c rest ih =>
      rw [List.length_cons, List.map_cons, List.sum_cons]
      split <;> omega

/-- Does a text hold the zero character, which no PostgreSQL text can? -/
def hasNul (text : String) : Bool := text.toList.contains '\x00'

/-! ### Base 64 -/

def base64Digits : List Char :=
  "ABCDEFGHIJKLMNOPQRSTUVWXYZabcdefghijklmnopqrstuvwxyz0123456789+/".toList

def base64Digit (value : Nat) : Char := base64Digits.getD (value % 64) '='

/-- The digits of a sequence of bytes, three at a time. -/
def base64Chars : List UInt8 → List Char
  | [] => []
  | [first] =>
      [base64Digit (first.toNat / 4), base64Digit (first.toNat % 4 * 16), '=', '=']
  | [first, second] =>
      [base64Digit (first.toNat / 4),
        base64Digit (first.toNat % 4 * 16 + second.toNat / 16),
        base64Digit (second.toNat % 16 * 4), '=']
  | first :: second :: third :: rest =>
      base64Digit (first.toNat / 4) ::
        base64Digit (first.toNat % 4 * 16 + second.toNat / 16) ::
        base64Digit (second.toNat % 16 * 4 + third.toNat / 64) ::
        base64Digit (third.toNat % 64) :: base64Chars rest

def base64 (bytes : List UInt8) : String := String.ofList (base64Chars bytes)

end JumptotechLabs.Core
