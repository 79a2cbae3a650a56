/-
Module: JumptotechLabs.Core.Dotted
Layer: Core (library)
Purpose: Addresses of four octets as text, with a netmask length behind them: which units such a text has,
  how long it is, and that it splits into its octets again.
Main exports: decimal_octet, decimal_prefixLength, dotted, dotted_units, splitOn_dotted, length_dotted,
  trim_dotted
-/
import JumptotechLabs.Core.Utf16

namespace JumptotechLabs.Core

theorem decimal_octet : ∀ octet < 256, (Utf16.decimal octet).all Utf16.isDigit = true ∧
    (Utf16.decimal octet).length ≤ 3 ∧ Utf16.decimal octet ≠ [] ∧
    (Utf16.decimal octet).digitsValue = octet := by
  decide +kernel

theorem decimal_prefixLength : ∀ prefixLength ≤ 32,
    (Utf16.decimal prefixLength).all Utf16.isDigit = true ∧
    (Utf16.decimal prefixLength).length ≤ 2 ∧ Utf16.decimal prefixLength ≠ [] ∧
    (Utf16.decimal prefixLength).digitsValue = prefixLength := by
  decide +kernel

/-- The text of an address. -/
def dotted (a b c d : Nat) : Utf16 :=
  [unitOf '.'].intercalate ([a, b, c, d].map Utf16.decimal)

theorem dotted_ne_nil {a b c d : Nat} (ha : a < 256) : dotted a b c d ≠ [] := by
  have present := (decimal_octet a ha).2.2.1
  simp [dotted, List.intercalate, present]

section Dotted

variable {a b c d : Nat} (ha : a < 256) (hb : b < 256) (hc : c < 256) (hd : d < 256)

include ha hb hc hd

theorem octet_of_mem {octet : Nat} (isOctet : octet ∈ [a, b, c, d]) : octet < 256 := by
  simp only [List.mem_cons, List.not_mem_nil, or_false] at isOctet
  rcases isOctet with rfl | rfl | rfl | rfl <;> assumption

/-- The units of an address are digits and dots. -/
theorem dotted_units : ∀ unit ∈ dotted a b c d, Utf16.isDigit unit = true ∨ unit = unitOf '.' := by
  have digits : ∀ octet ∈ [a, b, c, d], ∀ unit ∈ Utf16.decimal octet, Utf16.isDigit unit = true := by
    intro octet isOctet
    exact List.all_eq_true.mp (decimal_octet octet (octet_of_mem ha hb hc hd isOctet)).1
  intro unit inside
  simp only [dotted, List.map_cons, List.map_nil, List.intercalate, List.intersperse_cons_cons,
    List.intersperse_singleton, List.flatten_cons, List.flatten_nil, List.append_nil, List.mem_append,
    List.mem_singleton] at inside
  rcases inside with inA | dot | inB | dot | inC | dot | inD
  · exact .inl (digits a (by simp) unit inA)
  · exact .inr dot
  · exact .inl (digits b (by simp) unit inB)
  · exact .inr dot
  · exact .inl (digits c (by simp) unit inC)
  · exact .inr dot
  · exact .inl (digits d (by simp) unit inD)

theorem splitOn_dotted :
    (dotted a b c d).splitOn (unitOf '.') = [a, b, c, d].map Utf16.decimal := by
  rw [dotted, List.splitOn_intercalate]
  · intro piece isPiece
    obtain ⟨octet, isOctet, rfl⟩ := List.mem_map.mp isPiece
    intro inside
    have digits := (decimal_octet octet (octet_of_mem ha hb hc hd isOctet)).1
    have isDigit := List.all_eq_true.mp digits _ inside
    exact absurd isDigit (by decide)
  · simp

theorem length_dotted : (dotted a b c d).length ≤ 15 := by
  have la := (decimal_octet a ha).2.1
  have lb := (decimal_octet b hb).2.1
  have lc := (decimal_octet c hc).2.1
  have ld := (decimal_octet d hd).2.1
  simp [dotted, List.intercalate]
  omega

theorem trim_dotted {prefixLength : Nat} (bounded : prefixLength ≤ 32) :
    Utf16.trim (dotted a b c d ++ unitOf '/' :: Utf16.decimal prefixLength) =
      dotted a b c d ++ unitOf '/' :: Utf16.decimal prefixLength := by
  have notSpace : ∀ unit, Utf16.isDigit unit = true ∨ unit = unitOf '.' →
      Utf16.isSpace unit = false := by
    rintro unit (digit | rfl)
    · exact Utf16.not_isSpace_of_isDigit digit
    · decide
  obtain ⟨prefixDigits, -, prefixNonempty, -⟩ := decimal_prefixLength prefixLength bounded
  have nonempty : dotted a b c d ≠ [] := dotted_ne_nil ha
  apply Utf16.trim_eq_self
  · intro unit isFirst
    rw [List.head?_append_of_ne_nil _ nonempty] at isFirst
    exact notSpace unit (dotted_units ha hb hc hd unit (List.mem_of_mem_head? isFirst))
  · intro unit isLast
    rw [List.getLast?_append_of_ne_nil _ (by simp), List.getLast?_cons_of_ne_nil prefixNonempty]
      at isLast
    exact notSpace unit (.inl (List.all_eq_true.mp prefixDigits unit (List.mem_of_getLast? isLast)))

end Dotted

end JumptotechLabs.Core
