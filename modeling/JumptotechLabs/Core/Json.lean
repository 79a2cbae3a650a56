/-
Module: JumptotechLabs.Core.Json
Layer: Core (library)
Purpose: The values a JSON text carries, as a JavaScript program reads them: own properties, and the
  coercions `String(value)` and `Number(value)`. A value that came out of a JSON text has no function in
  it, so an object that has a `toString` of its own cannot be coerced.
Main exports: Number, NumberText, Value, Value.property, Value.entries, Value.isTrue, Value.toText,
  Value.toNumber, Value.Lawful, Value.Shuffled, Value.field_of_mem
-/
import Mathlib.Data.List.Forall2
import Mathlib.Data.Rat.Defs

namespace JumptotechLabs.Core

/-- A number of the language. -/
inductive Number where
  | finite (value : Rat)
  | infinite (negative : Bool)
  | nan
deriving DecidableEq, Inhabited

/-- `Number.isFinite`, with the value. -/
def Number.toFinite : Number → Option Rat
  | .finite value => some value
  | _ => none

/-- How the language writes a number, and how it reads a text as one. -/
structure NumberText where
  format : Number → String
  parse : String → Number

/-- A value. The fields of an object stand in the order they were set; of two under one key the first
    counts. -/
inductive Value where
  | undefined
  | null
  | boolean (value : Bool)
  | number (value : Number)
  | string (text : String)
  | array (items : List Value)
  | object (fields : List (String × Value))
deriving Inhabited

namespace Value

/-- The field under a key, and `undefined` where there is none. -/
def field (key : String) : List (String × Value) → Value
  | [] => .undefined
  | (name, value) :: rest => if name = key then value else field key rest

/-- `value?.key`, for a key that no array, no text and no prototype has. -/
def property (key : String) : Value → Value
  | .object fields => field key fields
  | _ => .undefined

/-- The own properties, as a spread copies them. -/
def entries : Value → List (String × Value)
  | .object fields => fields
  | .array items => items.zipIdx.map fun (item, index) => (toString index, item)
  | _ => []

/-- `value === true`. -/
def isTrue : Value → Bool
  | .boolean value => value
  | _ => false

/-- What a coercion throws of an object without a primitive value. -/
def notPrimitive : String := "Cannot convert object to primitive value"

mutual

/-- `String(value)`. -/
def toText (numbers : NumberText) : Value → Except String String
  | .undefined => .ok "undefined"
  | .null => .ok "null"
  | .boolean value => .ok (if value then "true" else "false")
  | .number value => .ok (numbers.format value)
  | .string text => .ok text
  | .array items => (itemTexts numbers items).map (String.intercalate ",")
  | .object fields =>
      if fields.any fun own => own.1 == "toString" then .error notPrimitive
      else .ok "[object Object]"

/-- The texts that `Array.prototype.join` puts together: nothing for `null` and `undefined`. -/
def itemTexts (numbers : NumberText) : List Value → Except String (List String)
  | [] => .ok []
  | .undefined :: rest => (itemTexts numbers rest).map ("" :: ·)
  | .null :: rest => (itemTexts numbers rest).map ("" :: ·)
  | item :: rest => do
      let text ← toText numbers item
      let texts ← itemTexts numbers rest
      return text :: texts

end

/-- `Number(value)`. -/
def toNumber (numbers : NumberText) : Value → Except String Number
  | .undefined => .ok .nan
  | .null => .ok (.finite 0)
  | .boolean value => .ok (.finite (if value then 1 else 0))
  | .number value => .ok value
  | .string text => .ok (numbers.parse text)
  | value => (toText numbers value).map numbers.parse

/-- An object has each key once, as every object of the language does. -/
inductive Lawful : Value → Prop where
  | undefined : Lawful .undefined
  | null : Lawful .null
  | boolean (value : Bool) : Lawful (.boolean value)
  | number (value : Number) : Lawful (.number value)
  | string (text : String) : Lawful (.string text)
  | array {items : List Value} : (∀ item ∈ items, Lawful item) → Lawful (.array items)
  | object {fields : List (String × Value)} : (fields.map Prod.fst).Nodup →
      (∀ own ∈ fields, Lawful own.2) → Lawful (.object fields)

/-- The same value but for the order of keys and of items, at any depth. -/
inductive Shuffled : Value → Value → Prop where
  | undefined : Shuffled .undefined .undefined
  | null : Shuffled .null .null
  | boolean (value : Bool) : Shuffled (.boolean value) (.boolean value)
  | number (value : Number) : Shuffled (.number value) (.number value)
  | string (text : String) : Shuffled (.string text) (.string text)
  | array {items middle items' : List Value} : items.Perm middle → List.Forall₂ Shuffled middle items' →
      Shuffled (.array items) (.array items')
  | object {fields middle fields' : List (String × Value)} : fields.Perm middle →
      middle.map Prod.fst = fields'.map Prod.fst →
      List.Forall₂ Shuffled (middle.map Prod.snd) (fields'.map Prod.snd) →
      Shuffled (.object fields) (.object fields')

/-- In an object that has each key once, the field under a key is the one that carries it. -/
theorem field_of_mem {fields : List (String × Value)} (own : (fields.map Prod.fst).Nodup) {key : String}
    {value : Value} (member : (key, value) ∈ fields) : field key fields = value := by
  induction fields with
  | nil => cases member
  | cons first rest ih =>
      rw [List.map_cons, List.nodup_cons] at own
      rcases List.mem_cons.mp member with rfl | later
      · exact if_pos rfl
      · have other : first.1 ≠ key := fun same => own.1 (same ▸ List.mem_map_of_mem later)
        exact (if_neg other).trans (ih own.2 later)

/-- A field under a key is in the object, where it is not `undefined`. -/
theorem field_cases (fields : List (String × Value)) (key : String) :
    field key fields = .undefined ∨ (key, field key fields) ∈ fields := by
  induction fields with
  | nil => exact .inl rfl
  | cons first rest ih =>
      rw [field]
      split
      · rename_i same
        exact .inr (same ▸ List.mem_cons_self)
      · exact ih.imp_right (List.mem_cons_of_mem _)

theorem Lawful.property {value : Value} (lawful : value.Lawful) (key : String) :
    (value.property key).Lawful := by
  cases lawful with
  | object own inner =>
      rename_i fields
      rcases field_cases fields key with absent | member
      · rw [Value.property, absent]
        exact .undefined
      · exact inner _ member
  | _ => exact .undefined

/-- A key that an object does not have. -/
theorem field_of_absent {fields : List (String × Value)} {key : String} (absent : key ∉ fields.map Prod.fst) :
    field key fields = .undefined := by
  induction fields with
  | nil => rfl
  | cons first rest ih =>
      rw [List.map_cons, List.mem_cons, not_or] at absent
      exact (if_neg (Ne.symm absent.1)).trans (ih absent.2)

end Value

end JumptotechLabs.Core
