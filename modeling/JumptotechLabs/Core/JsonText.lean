/-
Module: JumptotechLabs.Core.JsonText
Layer: Core (library)
Purpose: Documents and the JSON text that is written of them. A fragment without the units that
  structure a JSON text lies in the text exactly when it lies in one of the texts and numbers the
  document is made of, as JSON writes them.
Main exports: Document, Document.write, Document.stringify, Document.assigned, Document.tokens,
  Document.Structureless, Document.infix_write_iff
-/
import JumptotechLabs.Core.Json
import JumptotechLabs.Core.Keyed
import JumptotechLabs.Core.Utf16

namespace JumptotechLabs.Core

/-- What `JSON.stringify` is given. The entries of an object have distinct keys. -/
inductive Document where
  | undefined
  | null
  | boolean (value : Bool)
  | number (value : Number)
  | string (text : Utf16)
  /-- A `bigint`, of which `JSON.stringify` throws. -/
  | bigint
  | array (items : List Document)
  | object (entries : List (Utf16 × Document))
deriving Inhabited

namespace Document

def isUndefined : Document → Bool
  | .undefined => true
  | _ => false

@[simp] theorem isUndefined_string (text : Utf16) : (Document.string text).isUndefined = false := rfl

/-- The own entries after `object[key] = value` for one entry after the other, on a new object. Setting
    `__proto__` sets no own property. -/
def assigned (entries : List (Utf16 × Document)) : List (Utf16 × Document) :=
  Keyed.putAll Prod.fst (entries.filter fun entry => entry.1 ≠ units "__proto__")

def assign (entries : List (Utf16 × Document)) : Document := .object (assigned entries)

variable (numbers : NumberText)

/-- A number as JSON writes it: no infinity, and no number that is none. -/
def numberToken : Number → Utf16
  | .finite value => units (numbers.format (.finite value))
  | _ => units "null"

/-- A text in quotes. -/
def quote (text : Utf16) : Utf16 := unitOf '\x22' :: (Utf16.escape text ++ [unitOf '\x22'])

mutual

/-- The text of a document, where none of its parts is a `bigint`. -/
def write : Document → Utf16
  | .undefined => units "null"
  | .null => units "null"
  | .boolean value => units (if value then "true" else "false")
  | .number value => numberToken numbers value
  | .string text => quote text
  | .bigint => []
  | .array items => unitOf '[' :: ([unitOf ','].intercalate (writeItems items) ++ [unitOf ']'])
  | .object entries =>
      unitOf '\x7b' :: ([unitOf ','].intercalate (writeEntries entries) ++ [unitOf '\x7d'])

def writeItems : List Document → List Utf16
  | [] => []
  | item :: rest => write item :: writeItems rest

/-- The members of an object: an entry without a value is left out. -/
def writeEntries : List (Utf16 × Document) → List Utf16
  | [] => []
  | (key, value) :: rest =>
      if value.isUndefined then writeEntries rest
      else (quote key ++ unitOf ':' :: write value) :: writeEntries rest

end

mutual

/-- Is there no `bigint` in the document? -/
def serialisable : Document → Bool
  | .bigint => false
  | .array items => itemsSerialisable items
  | .object entries => entriesSerialisable entries
  | _ => true

def itemsSerialisable : List Document → Bool
  | [] => true
  | item :: rest => serialisable item && itemsSerialisable rest

def entriesSerialisable : List (Utf16 × Document) → Bool
  | [] => true
  | (_, value) :: rest => serialisable value && entriesSerialisable rest

end

/-- `JSON.stringify(document)`, and nothing where it throws. -/
def stringify (document : Document) : Option Utf16 :=
  if document.serialisable then some (document.write numbers) else none

/-! ### What a written document holds -/

mutual

/-- The texts and the numbers of a document, as JSON writes them. -/
def tokens : Document → List Utf16
  | .string text => [Utf16.escape text]
  | .number value => [numberToken numbers value]
  | .array items => itemTokens items
  | .object entries => entryTokens entries
  | _ => []

def itemTokens : List Document → List Utf16
  | [] => []
  | item :: rest => tokens item ++ itemTokens rest

def entryTokens : List (Utf16 × Document) → List Utf16
  | [] => []
  | (key, value) :: rest =>
      if value.isUndefined then entryTokens rest
      else Utf16.escape key :: (tokens value ++ entryTokens rest)

end

/-- The document as JSON writes it holds the fragment in one of its texts or numbers. -/
def Holds (fragment : Utf16) (document : Document) : Prop :=
  ∃ token ∈ document.tokens numbers, fragment <:+: token

/-- The fragment has none of the units that structure a JSON text, and is longer than its constants. -/
structure Structureless (fragment : Utf16) : Prop where
  long : 5 < fragment.length
  plain : ∀ unit ∈ units "[]\x7b\x7d\":,\\", unit ∉ fragment

namespace Structureless

variable {fragment : Utf16}

theorem nonempty (free : Structureless fragment) : fragment ≠ [] := by
  intro empty
  have long := free.long
  simp [empty] at long

theorem not_infix_short (free : Structureless fragment) {text : Utf16} (short : text.length ≤ 5) :
    ¬ fragment <:+: text := by
  intro held
  have long := free.long
  have bounded := held.length_le
  omega

theorem infix_enclosed_iff (free : Structureless fragment) {opening closing : UInt16}
    (opens : opening ∉ fragment) (closes : closing ∉ fragment) (body : Utf16) :
    fragment <:+: opening :: (body ++ [closing]) ↔ fragment <:+: body := by
  have first : fragment <:+: [] ++ opening :: (body ++ [closing]) ↔ _ :=
    infix_append_cons_iff opens free.nonempty
  rw [List.nil_append] at first
  rw [first, infix_append_cons_iff closes free.nonempty]
  simp [free.nonempty]

theorem infix_quote_iff (free : Structureless fragment) (text : Utf16) :
    fragment <:+: quote text ↔ fragment <:+: Utf16.escape text :=
  have quotes := free.plain (unitOf '\x22') (by decide)
  free.infix_enclosed_iff quotes quotes _

end Structureless

section Writing

variable {fragment : Utf16}

mutual

/-- A fragment lies in the text of a document exactly when one of its texts or numbers holds it. -/
theorem infix_write_iff (free : Structureless fragment) : ∀ document : Document,
    fragment <:+: document.write numbers ↔ document.Holds numbers fragment
  | .undefined => by
      simpa [Holds, tokens, write] using free.not_infix_short (by decide)
  | .null => by
      simpa [Holds, tokens, write] using free.not_infix_short (by decide)
  | .boolean true => by
      simpa [Holds, tokens, write] using free.not_infix_short (by decide)
  | .boolean false => by
      simpa [Holds, tokens, write] using free.not_infix_short (by decide)
  | .number value => by simp [Holds, tokens, write]
  | .string text => by
      rw [write, free.infix_quote_iff]
      simp [Holds, tokens]
  | .bigint => by simp [Holds, tokens, write, free.nonempty]
  | .array items => by
      have inItems := infix_writeItems_iff free items
      rw [write, free.infix_enclosed_iff (free.plain (unitOf '[') (by decide))
        (free.plain (unitOf ']') (by decide)),
        infix_intercalate_iff _ (free.plain (unitOf ',') (by decide)) free.nonempty, inItems]
      rfl
  | .object entries => by
      have inEntries := infix_writeEntries_iff free entries
      rw [write, free.infix_enclosed_iff (free.plain (unitOf '\x7b') (by decide))
        (free.plain (unitOf '\x7d') (by decide)),
        infix_intercalate_iff _ (free.plain (unitOf ',') (by decide)) free.nonempty, inEntries]
      rfl

theorem infix_writeItems_iff (free : Structureless fragment) : ∀ items : List Document,
    (∃ text ∈ writeItems numbers items, fragment <:+: text) ↔
      ∃ token ∈ itemTokens numbers items, fragment <:+: token
  | [] => by simp [writeItems, itemTokens]
  | item :: rest => by
      have here := infix_write_iff free item
      have later := infix_writeItems_iff free rest
      rw [writeItems, itemTokens, List.exists_mem_cons_iff, here, later, Holds]
      simp only [List.mem_append, or_and_right, exists_or]

theorem infix_writeEntries_iff (free : Structureless fragment) : ∀ entries : List (Utf16 × Document),
    (∃ text ∈ writeEntries numbers entries, fragment <:+: text) ↔
      ∃ token ∈ entryTokens numbers entries, fragment <:+: token
  | [] => by simp [writeEntries, entryTokens]
  | (key, value) :: rest => by
      have here := infix_write_iff free value
      have later := infix_writeEntries_iff free rest
      rw [writeEntries, entryTokens]
      split
      · exact later
      · rw [List.exists_mem_cons_iff, later, List.exists_mem_cons_iff,
          infix_append_cons_iff (free.plain (unitOf ':') (by decide)) free.nonempty,
          free.infix_quote_iff, here, Holds, or_assoc]
        simp only [List.mem_append, or_and_right, exists_or]

end

end Writing

theorem holds_object_iff (fragment : Utf16) (entries : List (Utf16 × Document)) :
    (Document.object entries).Holds numbers fragment ↔
      ∃ entry ∈ entries, entry.2.isUndefined = false ∧
        (fragment <:+: Utf16.escape entry.1 ∨ entry.2.Holds numbers fragment) := by
  rw [Holds, tokens]
  induction entries with
  | nil => simp [entryTokens]
  | cons entry rest ih =>
      obtain ⟨key, value⟩ := entry
      rw [entryTokens, List.exists_mem_cons_iff]
      split
      · rename_i absent
        simp [absent, ih]
      · rename_i present
        rw [List.exists_mem_cons_iff, ← ih]
        simp only [List.mem_append, or_and_right, exists_or, present, Holds, true_and, or_assoc]

theorem holds_append_iff (fragment : Utf16) (first second : List (Utf16 × Document)) :
    (Document.object (first ++ second)).Holds numbers fragment ↔
      (Document.object first).Holds numbers fragment ∨
        (Document.object second).Holds numbers fragment := by
  simp only [holds_object_iff, List.mem_append, or_and_right, exists_or]

theorem holds_array_iff (fragment : Utf16) (items : List Document) :
    (Document.array items).Holds numbers fragment ↔
      ∃ item ∈ items, item.Holds numbers fragment := by
  rw [Holds, tokens]
  induction items with
  | nil => simp [itemTokens]
  | cons item rest ih =>
      rw [itemTokens, List.exists_mem_cons_iff, ← ih]
      simp only [List.mem_append, or_and_right, exists_or, Holds]

/-- The entries of an object that was filled entry by entry are those that no later one replaced. -/
theorem mem_assigned_iff (entries : List (Utf16 × Document)) (entry : Utf16 × Document) :
    entry ∈ assigned entries ↔
      entry ∈ Keyed.lasting Prod.fst (entries.filter fun entry => entry.1 ≠ units "__proto__") :=
  Keyed.mem_putAll_iff _ _

end Document

end JumptotechLabs.Core
