/-
Module: JumptotechLabs.Observability.Secrets
Layer: Observability (the log)
Purpose: Which texts of a call reach the line, by the way they take: through the scanner, or past it. A
  line holds a registered value exactly when a text that went past the scanner holds one as JSON writes
  it, or the letters of a JSON escape in a scanned text spell one with the units after it.
Main exports: Leaf, valueLeaves, carried, Unmistakable, holds_redactValue_iff, infix_buildFrom_iff,
  registered_value_in_line_iff
-/
import JumptotechLabs.Observability.Logger

namespace JumptotechLabs.Observability

open JumptotechLabs.Core

/-! ### The ways a text takes to the line -/

/-- A text on its way to the line. -/
inductive Leaf where
  /-- Written as it is here, and not scanned. -/
  | copied (written : Utf16)
  /-- Left by the scanner, or one of the logger's own. -/
  | scanned (text : Utf16)
deriving DecidableEq

/-- The line holds the value because of this text. -/
def Leaf.Leaks (secret : Utf16) : Leaf → Prop
  | .copied written => secret <:+: written
  | .scanned text => Utf16.Spelled secret text

instance (secret : Utf16) : (leaf : Leaf) → Decidable (leaf.Leaks secret)
  | .copied written => inferInstanceAs (Decidable (secret <:+: written))
  | .scanned text => inferInstanceAs (Decidable (Utf16.Spelled secret text))

section Carried

variable (numbers : NumberText) (literalSecrets : List Utf16)

/-- The name of an error is not scanned. -/
def nameLeaves : ErrorName → List Leaf
  | .text name => [.copied (Utf16.escape name)]
  | .bigint => []

/-- An error inside a value: its code is scanned. -/
def errorLeaves (value : ErrorValue) : List Leaf :=
  nameLeaves value.name ++ Leaf.scanned (redactString literalSecrets value.message) ::
    match value.code with
    | .text code => [.scanned (redactString literalSecrets code)]
    | _ => []

/-- The field `err`: its code is not scanned. -/
def errLeaves : LogValue → List Leaf
  | .error error =>
      nameLeaves error.name ++ Leaf.scanned (redactString literalSecrets error.message) ::
        match error.code with
        | .none => []
        | .text code => [.copied (Utf16.escape code)]
        | .number code => [.copied (Utf16.escape (units (numbers.format code)))]
  | value => [.scanned (redactString literalSecrets ((value.toText numbers).getD []))]

mutual

/-- The texts of a field's value. A number is written without a scan. -/
def valueLeaves (depth : Nat) (value : LogValue) : List Leaf :=
  if 6 < depth then []
  else
    match value with
    | .string text => [.scanned (redactString literalSecrets text)]
    | .number value => [.copied (Document.numberToken numbers value)]
    | .array items => itemLeaves (depth + 1) 64 items
    | .error value => errorLeaves literalSecrets value
    | .object _ entries =>
        (Keyed.lasting Prod.fst ((entryLeaves (depth + 1) 64 entries).filter
          fun entry => entry.1 ≠ units "__proto__")).flatMap fun entry =>
            match entry.2 with
            | none => []
            | some leaves => .scanned entry.1 :: leaves
    | _ => []

def itemLeaves (depth : Nat) : Nat → List LogValue → List Leaf
  | 0, _ => []
  | _, [] => []
  | left + 1, item :: rest => valueLeaves depth item ++ itemLeaves depth left rest

/-- Under each key the texts of what is set there, and nothing where nothing is. -/
def entryLeaves (depth : Nat) :
    Nat → List (Utf16 × LogValue) → List (Utf16 × Option (List Leaf))
  | 0, _ => []
  | _, [] => []
  | left + 1, (key, entry) :: rest =>
      (redactString literalSecrets key,
        if isCredentialField key && entry.present then some []
        else if (redactValue literalSecrets depth entry).isUndefined then none
        else some (valueLeaves depth entry)) ::
        entryLeaves depth left rest

end

/-- What the line has under a key: one text, scanned or not, or a value with texts in it. -/
inductive Held where
  | text (isScanned : Bool) (text : Utf16)
  | parts (leaves : List Leaf)

/-- The texts under a key, where a long text is cut or not. The mark of the cut is not scanned. -/
def Held.leaves (isCut : Bool) : Held → List Leaf
  | .text isScanned value =>
      if isCut && 512 < value.length then [.copied (Utf16.escape (cutText value))]
      else if isScanned then [.scanned value]
      else [.copied (Utf16.escape value)]
  | .parts leaves => leaves

def heldField (key : Utf16) (value : LogValue) : Held :=
  if key = units "err" then .parts (errLeaves numbers literalSecrets value)
  else
    match value with
    | .string text => .text true (redactString literalSecrets text)
    | value => .parts (valueLeaves numbers literalSecrets 0 value)

def heldFields (fields : List (Utf16 × LogValue)) : List (Utf16 × Held) :=
  (fields.filter fun field => isCopied field.1 field.2).map fun field =>
    (field.1, heldField numbers literalSecrets field.1 field.2)

def heldOwn (service : Utf16) (call : LogCall) : List (Utf16 × Held) :=
  [(units "ts", .text true call.ts), (units "level", .text true (units call.level.text)),
    (units "service", .text true service), (units "event", .text true call.event)]

/-- What is set on the line. The ambient context is not scanned. -/
def heldLine (logger : Logger) (call : LogCall) : List (Utf16 × Held) :=
  let msg := match call.msg with
    | none => []
    | some msg => [(units "msg", Held.text true (redactString literalSecrets msg))]
  let context := match call.context with
    | none => []
    | some context => context.facts.map fun fact => (units fact.1, Held.text false fact.2)
  heldOwn logger.options.service call ++ msg ++ context ++
    heldFields numbers literalSecrets logger.bound ++
    heldFields numbers literalSecrets call.fields

/-- The way a line takes through `build`. -/
inductive LinePath where
  | whole
  | dropped
  | cut
  | bare
deriving DecidableEq

/-- Which line is short enough, of those that can be serialised. -/
def linePath (options : LoggerOptions) (call : LogCall) (entries : List (Utf16 × Document)) :
    LinePath :=
  if (serialisedLine numbers options.service call entries).byteLength ≤ options.maxLineBytes then
    if (Document.assign entries).serialisable then .whole else .dropped
  else if (trimmedLine entries).serialisable &&
      ((trimmedLine entries).write numbers).byteLength ≤ options.maxLineBytes then .cut
  else .bare

/-- The texts the line carries. Of two set under one key the later one counts. -/
def carriedOn (path : LinePath) (logger : Logger) (call : LogCall) : List Leaf :=
  let own := (heldOwn logger.options.service call).flatMap fun entry => entry.2.leaves false
  let line := Keyed.lasting Prod.fst (heldLine numbers literalSecrets logger call)
  match path with
  | .whole => line.flatMap fun entry => entry.2.leaves false
  | .cut => line.flatMap fun entry => entry.2.leaves true
  | .dropped => own ++ [Leaf.copied droppedNote]
  | .bare => own

/-- The texts a call's line carries. -/
def carried (logger : Logger) (call : LogCall) : List Leaf :=
  match lineEntries numbers literalSecrets logger call with
  | none => []
  | some entries =>
      carriedOn numbers literalSecrets (linePath numbers logger.options call entries) logger call

end Carried

/-! ### Registered values -/

/-- Every name under which the line itself has something. -/
def lineNames : List String := allowedFields ++ ["ts", "level", "event", "msg"]

/-- Every name under which the logger writes something. -/
def fieldNames : List String := lineNames ++ ["truncated", "name", "message"]

/-- The value is registered, and is no part of what the logger itself writes. -/
structure Unmistakable (logger : Logger) (call : LogCall) (secret : Utf16) : Prop extends
    Registrable secret where
  notField : ∀ name ∈ fieldNames, ¬ secret <:+: units name
  notService : ¬ secret <:+: logger.options.service
  notLevel : ¬ secret <:+: units call.level.text
  notTimestamp : ¬ secret <:+: call.ts
  notEvent : ¬ secret <:+: call.event

section Values

variable {numbers : NumberText} {literalSecrets : List Utf16} {secret : Utf16}

/-- Some text of these makes the line hold the value. -/
def AnyLeaks (secret : Utf16) (leaves : List Leaf) : Prop := ∃ leaf ∈ leaves, leaf.Leaks secret

@[simp] theorem anyLeaks_nil : AnyLeaks secret [] ↔ False := by simp [AnyLeaks]

@[simp] theorem anyLeaks_cons (leaf : Leaf) (rest : List Leaf) :
    AnyLeaks secret (leaf :: rest) ↔ leaf.Leaks secret ∨ AnyLeaks secret rest := by
  simp [AnyLeaks]

@[simp] theorem anyLeaks_append (first second : List Leaf) :
    AnyLeaks secret (first ++ second) ↔ AnyLeaks secret first ∨ AnyLeaks secret second := by
  simp [AnyLeaks, or_and_right, exists_or]

theorem anyLeaks_flatMap {α : Type} (leaves : α → List Leaf) (entries : List α) :
    AnyLeaks secret (entries.flatMap leaves) ↔ ∃ entry ∈ entries, AnyLeaks secret (leaves entry) := by
  simp only [AnyLeaks, List.mem_flatMap]
  constructor
  · rintro ⟨leaf, ⟨entry, isEntry, isLeaf⟩, leaks⟩
    exact ⟨entry, isEntry, leaf, isLeaf, leaks⟩
  · rintro ⟨entry, isEntry, leaf, isLeaf, leaks⟩
    exact ⟨leaf, ⟨entry, isEntry, isLeaf⟩, leaks⟩

namespace Registrable

theorem not_infix_short (registrable : Registrable secret) {text : Utf16} (short : text.length < 8) :
    ¬ secret <:+: text := by
  intro held
  have long : 8 ≤ secret.length := registrable.long
  have bounded := held.length_le
  omega

/-- Of a text that does not hold the value, JSON writes it only as an escape spells it. -/
theorem infix_escape_iff (registrable : Registrable secret) {text : Utf16}
    (absent : ¬ secret <:+: text) :
    secret <:+: Utf16.escape text ↔ (Leaf.scanned text).Leaks secret :=
  Utf16.infix_escape_iff (registrable.plain _ (by decide)) registrable.structureless.nonempty absent

theorem infix_escape_redactString_iff (registrable : Registrable secret)
    (isLiteral : secret ∈ literalSecrets) (text : Utf16) :
    secret <:+: Utf16.escape (redactString literalSecrets text) ↔
      (Leaf.scanned (redactString literalSecrets text)).Leaks secret :=
  registrable.infix_escape_iff (registrable.not_infix_redactString isLiteral text)

end Registrable

theorem holds_string_iff (text : Utf16) :
    (Document.string text).Holds numbers secret ↔ secret <:+: Utf16.escape text := by
  simp [Document.Holds, Document.tokens]

theorem isUndefined_of_holds {document : Document} (holds : document.Holds numbers secret) :
    document.isUndefined = false := by
  cases document with
  | undefined => simp [Document.Holds, Document.tokens] at holds
  | _ => rfl

theorem not_holds_bigint : ¬ Document.bigint.Holds numbers secret := by
  simp [Document.Holds, Document.tokens]

theorem holds_document_iff (name : ErrorName) :
    name.document.Holds numbers secret ↔ AnyLeaks secret (nameLeaves name) := by
  cases name with
  | text name => simp [ErrorName.document, nameLeaves, holds_string_iff, Leaf.Leaks]
  | bigint => simp [ErrorName.document, nameLeaves, not_holds_bigint]

theorem isUndefined_document (name : ErrorName) : name.document.isUndefined = false := by
  cases name <;> rfl

/-- An error as the line has it holds what its name, its message and its code hold. -/
theorem holds_errorObject_iff (registrable : Registrable secret) {name : Document}
    (named : name.isUndefined = false) (message : Utf16) (code : Option Utf16) :
    (errorObject name message code).Holds numbers secret ↔
      name.Holds numbers secret ∨ secret <:+: Utf16.escape message ∨
        ∃ text ∈ code, secret <:+: Utf16.escape text := by
  have nameKey : ¬ secret <:+: Utf16.escape (units "name") :=
    registrable.not_infix_short (by decide)
  have messageKey : ¬ secret <:+: Utf16.escape (units "message") :=
    registrable.not_infix_short (by decide)
  have codeKey : ¬ secret <:+: Utf16.escape (units "code") :=
    registrable.not_infix_short (by decide)
  rw [errorObject, Document.holds_object_iff]
  cases code with
  | none => simp [nameKey, messageKey, holds_string_iff, named]
  | some code => simp [nameKey, messageKey, codeKey, holds_string_iff, named]

theorem holds_redactError_iff (registrable : Registrable secret)
    (isLiteral : secret ∈ literalSecrets) (value : ErrorValue) :
    (redactError literalSecrets value).Holds numbers secret ↔
      AnyLeaks secret (errorLeaves literalSecrets value) := by
  rw [redactError, holds_errorObject_iff registrable (isUndefined_document _), holds_document_iff,
    errorLeaves, anyLeaks_append, anyLeaks_cons,
    registrable.infix_escape_redactString_iff isLiteral]
  cases value.code with
  | none => simp
  | text code => simp [registrable.infix_escape_redactString_iff isLiteral]
  | number code => simp

/-! ### Values of any shape -/

/-- What an entry sets and the texts it is said to carry. -/
def EntryAgrees (numbers : NumberText) (secret : Utf16) (entry : Utf16 × Document)
    (held : Utf16 × Option (List Leaf)) : Prop :=
  entry.1 = held.1 ∧
    (entry.2.isUndefined = false ∧ (secret <:+: Utf16.escape entry.1 ∨ entry.2.Holds numbers secret) ↔
      AnyLeaks secret (match held.2 with
        | none => []
        | some leaves => .scanned held.1 :: leaves))

/-- An object that was filled entry by entry holds what the entries hold that no later one replaced. -/
theorem holds_assign_iff {entries : List (Utf16 × Document)}
    {held : List (Utf16 × Option (List Leaf))}
    (agree : List.Forall₂ (EntryAgrees numbers secret) entries held) :
    (Document.assign entries).Holds numbers secret ↔
      AnyLeaks secret ((Keyed.lasting Prod.fst (held.filter
        fun entry => entry.1 ≠ units "__proto__")).flatMap fun entry =>
          match entry.2 with
          | none => []
          | some leaves => .scanned entry.1 :: leaves) := by
  have kept : List.Forall₂ (EntryAgrees numbers secret)
      (entries.filter fun entry => entry.1 ≠ units "__proto__")
      (held.filter fun entry => entry.1 ≠ units "__proto__") :=
    List.rel_filter (fun _ _ agrees => by simp [agrees.1]) agree
  have lasts := Keyed.lasting_forall₂ (fun _ _ agrees => agrees.1) kept
  rw [Document.assign, Document.holds_object_iff, anyLeaks_flatMap,
    ← Keyed.exists_mem_iff_of_forall₂ (fun _ _ agrees => agrees.2) lasts]
  simp only [Document.mem_assigned_iff]

mutual

/-- A value the redactor returns holds a registered value exactly when one of its texts leaks it. -/
theorem holds_redactValue_iff (registrable : Registrable secret)
    (isLiteral : secret ∈ literalSecrets) : ∀ (value : LogValue) (depth : Nat),
    (redactValue literalSecrets depth value).Holds numbers secret ↔
      AnyLeaks secret (valueLeaves numbers literalSecrets depth value)
  | value, depth => by
      rw [redactValue.eq_def, valueLeaves.eq_def]
      by_cases deep : 6 < depth
      · have mark : ¬ secret <:+: Utf16.escape depthMark := registrable.notDepth
        simp [deep, holds_string_iff, mark]
      · rw [if_neg deep, if_neg deep]
        have mark : ¬ secret <:+: Utf16.escape unsupportedMark := registrable.notUnsupported
        cases value with
        | undefined => simp [Document.Holds, Document.tokens]
        | null => simp [Document.Holds, Document.tokens]
        | boolean value => simp [Document.Holds, Document.tokens]
        | number value => simp [Document.Holds, Document.tokens, Leaf.Leaks]
        | string text =>
            simp [holds_string_iff, registrable.infix_escape_redactString_iff isLiteral]
        | error value => exact holds_redactError_iff registrable isLiteral value
        | array items =>
            rw [Document.holds_array_iff]
            exact holds_redactItems_iff registrable isLiteral items (depth + 1) 64
        | object coerced entries =>
            have agree : List.Forall₂ (EntryAgrees numbers secret) _ _ :=
              redactEntries_agree registrable isLiteral entries (depth + 1) 64
            exact holds_assign_iff agree
        | symbol description => simp [holds_string_iff, mark]
        | other text => simp [holds_string_iff, mark]

theorem holds_redactItems_iff (registrable : Registrable secret)
    (isLiteral : secret ∈ literalSecrets) : ∀ (items : List LogValue) (depth left : Nat),
    (∃ item ∈ redactItems literalSecrets depth left items, item.Holds numbers secret) ↔
      AnyLeaks secret (itemLeaves numbers literalSecrets depth left items)
  | _, depth, 0 => by simp [redactItems, itemLeaves]
  | [], depth, left + 1 => by simp [redactItems, itemLeaves]
  | item :: rest, depth, left + 1 => by
      have here := holds_redactValue_iff registrable isLiteral item depth
      have later := holds_redactItems_iff registrable isLiteral rest depth left
      rw [redactItems, itemLeaves, List.exists_mem_cons_iff, anyLeaks_append, here, later]

theorem redactEntries_agree (registrable : Registrable secret)
    (isLiteral : secret ∈ literalSecrets) :
    ∀ (entries : List (Utf16 × LogValue)) (depth left : Nat),
      List.Forall₂ (EntryAgrees numbers secret) (redactEntries literalSecrets depth left entries)
        (entryLeaves numbers literalSecrets depth left entries)
  | _, depth, 0 => by
      simp [redactEntries, entryLeaves]
  | [], depth, left + 1 => by
      simp [redactEntries, entryLeaves]
  | (key, entry) :: rest, depth, left + 1 => by
      have here := holds_redactValue_iff registrable isLiteral entry depth
      have later := redactEntries_agree registrable isLiteral rest depth left
      rw [redactEntries, entryLeaves]
      refine .cons ⟨rfl, ?_⟩ later
      have fieldMark : ¬ secret <:+: Utf16.escape SecretKind.field.mark :=
        registrable.notKind .field
      have scannedKey := registrable.infix_escape_redactString_iff isLiteral key
      by_cases credential : (isCredentialField key && entry.present) = true
      · simp [credential, holds_string_iff, fieldMark, scannedKey]
      · by_cases absent : (redactValue literalSecrets depth entry).isUndefined = true
        · simp [credential, absent]
        · rw [Bool.not_eq_true] at absent
          simp [credential, absent, scannedKey, here]

end

end Values

/-! ### The line -/

section Lines

variable {numbers : NumberText} {literalSecrets : List Utf16} {logger : Logger} {call : LogCall}
  {secret : Utf16}

/-- What the line has under a key, whole and cut, and the texts it is said to carry. -/
structure LineAgrees (numbers : NumberText) (secret : Utf16) (entry : Utf16 × Document)
    (held : Utf16 × Held) : Prop where
  sameKey : entry.1 = held.1
  named : ∃ name ∈ lineNames, entry.1 = units name
  isSet : entry.2.isUndefined = false
  whole : entry.2.Holds numbers secret ↔ AnyLeaks secret (held.2.leaves false)
  cut : (cutValue entry.2).Holds numbers secret ↔ AnyLeaks secret (held.2.leaves true)

theorem escape_fieldName : ∀ name ∈ fieldNames, Utf16.escape (units name) = units name := by
  decide

theorem lineName_plain :
    ∀ name ∈ lineNames, units name ≠ units "__proto__" ∧ units name ≠ units "truncated" := by
  decide

theorem lineName_of_isAllowed {key : Utf16} (allowed : isAllowed key = true) :
    ∃ name ∈ lineNames, key = units name := by
  rw [isAllowed, List.any_eq_true] at allowed
  obtain ⟨name, isField, same⟩ := allowed
  exact ⟨name, List.mem_append_left _ isField, (eq_of_beq same).symm⟩

theorem Unmistakable.not_infix_name (unmistakable : Unmistakable logger call secret) {name : String}
    (isName : name ∈ fieldNames) : ¬ secret <:+: Utf16.escape (units name) := by
  rw [escape_fieldName name isName]
  exact unmistakable.notField name isName

theorem cutText_of_short {text : Utf16} (short : ¬ 512 < text.length) : cutText text = text := by
  rw [cutText, if_neg short]

/-- A text that was scanned, or is the logger's own. -/
theorem lineAgrees_scanned (registrable : Registrable secret) {name : String}
    (isName : name ∈ lineNames) {text : Utf16} (absent : ¬ secret <:+: text) :
    LineAgrees numbers secret (units name, .string text) (units name, .text true text) where
  sameKey := rfl
  named := ⟨name, isName, rfl⟩
  isSet := rfl
  whole := by simp [holds_string_iff, Held.leaves, registrable.infix_escape_iff absent]
  cut := by
    rw [cutValue, holds_string_iff]
    by_cases long : 512 < text.length
    · simp [Held.leaves, long, Leaf.Leaks]
    · simp [Held.leaves, long, cutText_of_short long, registrable.infix_escape_iff absent]

/-- A text that was not scanned. -/
theorem lineAgrees_copied {name : String} (isName : name ∈ lineNames) (text : Utf16) :
    LineAgrees numbers secret (units name, .string text) (units name, .text false text) where
  sameKey := rfl
  named := ⟨name, isName, rfl⟩
  isSet := rfl
  whole := by simp [holds_string_iff, Held.leaves, Leaf.Leaks]
  cut := by
    rw [cutValue, holds_string_iff]
    by_cases long : 512 < text.length
    · simp [Held.leaves, long, Leaf.Leaks]
    · simp [Held.leaves, long, cutText_of_short long, Leaf.Leaks]

/-- A value with texts in it is not cut. -/
theorem lineAgrees_parts {key : Utf16} (named : ∃ name ∈ lineNames, key = units name)
    {document : Document} {leaves : List Leaf} (isSet : document.isUndefined = false)
    (uncut : cutValue document = document)
    (holds : document.Holds numbers secret ↔ AnyLeaks secret leaves) :
    LineAgrees numbers secret (key, document) (key, .parts leaves) where
  sameKey := rfl
  named := named
  isSet := isSet
  whole := holds
  cut := by rw [uncut]; exact holds

theorem holds_serialiseError_iff (registrable : Registrable secret)
    (isLiteral : secret ∈ literalSecrets) {value : LogValue} {document : Document}
    (serialised : serialiseError numbers literalSecrets value = some document) :
    document.isUndefined = false ∧ cutValue document = document ∧
      (document.Holds numbers secret ↔ AnyLeaks secret (errLeaves numbers literalSecrets value)) := by
  have errorName : ¬ secret <:+: Utf16.escape (units "Error") :=
    registrable.not_infix_short (by decide)
  have coerced : ∀ text, value.toText numbers = some text →
      document = errorObject (.string (units "Error")) (redactString literalSecrets text) none →
      document.isUndefined = false ∧ cutValue document = document ∧
        (document.Holds numbers secret ↔
          AnyLeaks secret [.scanned (redactString literalSecrets ((value.toText numbers).getD []))]) := by
    rintro text isText rfl
    refine ⟨rfl, rfl, ?_⟩
    rw [holds_errorObject_iff registrable (Document.isUndefined_string _), holds_string_iff, isText]
    simp [errorName, registrable.infix_escape_redactString_iff isLiteral]
  cases value with
  | error error =>
      simp only [serialiseError, Option.some.injEq] at serialised
      subst serialised
      refine ⟨rfl, rfl, ?_⟩
      rw [holds_errorObject_iff registrable (isUndefined_document _), holds_document_iff, errLeaves,
        anyLeaks_append, anyLeaks_cons, registrable.infix_escape_redactString_iff isLiteral]
      cases error.code with
      | none => simp
      | text code => simp [Leaf.Leaks]
      | number code => simp [Leaf.Leaks]
  | string text =>
      simp only [serialiseError, Option.some.injEq] at serialised
      exact coerced text rfl serialised.symm
  | _ =>
      rw [serialiseError, Option.map_eq_some_iff] at serialised
      · obtain ⟨text, isText, rfl⟩ := serialised
        exact coerced text isText rfl
      all_goals simp

theorem cutValue_redactValue {value : LogValue} (notText : ∀ text, value ≠ .string text) :
    cutValue (redactValue literalSecrets 0 value) = redactValue literalSecrets 0 value := by
  cases value with
  | string text => exact absurd rfl (notText text)
  | _ => rfl

theorem isUndefined_redactValue {value : LogValue} (isSet : value ≠ .undefined) :
    (redactValue literalSecrets 0 value).isUndefined = false := by
  cases value with
  | undefined => exact absurd rfl isSet
  | _ => rfl

theorem isCopied_iff {key : Utf16} {value : LogValue} :
    isCopied key value = true ↔ isAllowed key = true ∧ value ≠ .undefined := by
  cases value <;> simp [isCopied]

/-- One field of the caller. -/
theorem lineAgrees_field (registrable : Registrable secret) (isLiteral : secret ∈ literalSecrets)
    {key : Utf16} {value : LogValue} {document : Document} (copied : isCopied key value = true)
    (written : fieldDocument numbers literalSecrets key value = some document) :
    LineAgrees numbers secret (key, document)
      (key, heldField numbers literalSecrets key value) := by
  obtain ⟨allowed, isSet⟩ := isCopied_iff.mp copied
  have named := lineName_of_isAllowed allowed
  rw [fieldDocument] at written
  by_cases isErr : key = units "err"
  · rw [if_pos isErr] at written
    have held : heldField numbers literalSecrets key value =
        .parts (errLeaves numbers literalSecrets value) := by
      simp [heldField, isErr]
    obtain ⟨isSet, uncut, holds⟩ := holds_serialiseError_iff registrable isLiteral written
    rw [held]
    exact lineAgrees_parts named isSet uncut holds
  · rw [if_neg isErr, Option.some.injEq] at written
    subst written
    have holds : (redactValue literalSecrets 0 value).Holds numbers secret ↔ _ :=
      holds_redactValue_iff registrable isLiteral value 0
    cases value with
    | string text =>
        obtain ⟨name, isName, rfl⟩ := named
        rw [heldField, if_neg isErr]
        exact lineAgrees_scanned registrable isName (registrable.not_infix_redactString isLiteral _)
    | _ =>
        rw [heldField, if_neg isErr]
        · exact lineAgrees_parts named (isUndefined_redactValue isSet)
            (cutValue_redactValue (by simp)) holds
        · simp

theorem fieldEntries_agree (registrable : Registrable secret) (isLiteral : secret ∈ literalSecrets)
    {fields : List (Utf16 × LogValue)} {entries : List (Utf16 × Document)}
    (written : fieldEntries numbers literalSecrets fields = some entries) :
    List.Forall₂ (LineAgrees numbers secret) entries (heldFields numbers literalSecrets fields) := by
  induction fields generalizing entries with
  | nil =>
      rw [fieldEntries, Option.some.injEq] at written
      subst written
      exact .nil
  | cons field rest ih =>
      obtain ⟨key, value⟩ := field
      rw [fieldEntries] at written
      by_cases copied : isCopied key value = true
      · rw [if_pos copied, Option.bind_eq_some_iff] at written
        obtain ⟨document, ofField, written⟩ := written
        obtain ⟨later, ofRest, rfl⟩ := Option.map_eq_some_iff.mp written
        have here := lineAgrees_field registrable isLiteral copied ofField
        simpa [heldFields, copied] using List.Forall₂.cons here (ih ofRest)
      · rw [if_neg copied] at written
        simpa [heldFields, copied] using ih written

theorem ownEntries_agree (unmistakable : Unmistakable logger call secret) :
    List.Forall₂ (LineAgrees numbers secret) (ownEntries logger.options.service call)
      (heldOwn logger.options.service call) := by
  have registrable := unmistakable.toRegistrable
  refine .cons ?_ (.cons ?_ (.cons ?_ (.cons ?_ .nil)))
  · exact lineAgrees_scanned registrable (by decide) unmistakable.notTimestamp
  · exact lineAgrees_scanned registrable (by decide) unmistakable.notLevel
  · exact lineAgrees_scanned registrable (by decide) unmistakable.notService
  · exact lineAgrees_scanned registrable (by decide) unmistakable.notEvent

theorem lineName_of_fact {context : RequestContext} {fact : String × Utf16}
    (isFact : fact ∈ context.facts) : fact.1 ∈ lineNames := by
  have names : ∀ name ∈ ["requestId", "userId", "sessionId", "attemptId", "labId", "track",
      "provider", "route", "method"], name ∈ lineNames := by decide
  rw [RequestContext.facts, List.mem_filterMap] at isFact
  obtain ⟨⟨name, held⟩, isHeld, present⟩ := isFact
  obtain ⟨text, -, isText⟩ := Option.bind_eq_some_iff.mp present
  have sameName : fact.1 = name := by
    split at isText
    · cases isText
    · cases isText
      rfl
  rw [sameName]
  apply names
  have inNames := List.mem_map_of_mem (f := Prod.fst) isHeld
  simpa using inNames

/-- What is set on the line is what its texts are said to be. -/
theorem lineEntries_agree (unmistakable : Unmistakable logger call secret)
    (isLiteral : secret ∈ literalSecrets) {entries : List (Utf16 × Document)}
    (written : lineEntries numbers literalSecrets logger call = some entries) :
    List.Forall₂ (LineAgrees numbers secret) entries
      (heldLine numbers literalSecrets logger call) := by
  have registrable := unmistakable.toRegistrable
  obtain ⟨bound, ofBound, written⟩ := Option.bind_eq_some_iff.mp written
  obtain ⟨fields, ofFields, rfl⟩ := Option.map_eq_some_iff.mp written
  refine List.rel_append (List.rel_append (List.rel_append (List.rel_append
    (ownEntries_agree unmistakable) ?_) ?_) (fieldEntries_agree registrable isLiteral ofBound))
    (fieldEntries_agree registrable isLiteral ofFields)
  · cases call.msg with
    | none => exact .nil
    | some msg =>
        exact .cons (lineAgrees_scanned registrable (by decide)
          (registrable.not_infix_redactString isLiteral msg)) .nil
  · cases call.context with
    | none => exact .nil
    | some context =>
        rw [List.forall₂_map_left_iff, List.forall₂_map_right_iff, List.forall₂_same]
        intro fact isFact
        exact lineAgrees_copied (lineName_of_fact isFact) fact.2

theorem named_of_agree {entries : List (Utf16 × Document)} {held : List (Utf16 × Held)}
    (agree : List.Forall₂ (LineAgrees numbers secret) entries held) :
    ∀ entry ∈ entries, ∃ name ∈ lineNames, entry.1 = units name := by
  induction agree with
  | nil => simp
  | cons first _ ih =>
      intro entry isEntry
      rcases List.mem_cons.mp isEntry with rfl | isLater
      · exact first.named
      · exact ih entry isLater

/-- An entry of the line has a property exactly when one of its texts has the matching one. -/
theorem exists_assigned_iff {entries : List (Utf16 × Document)} {held : List (Utf16 × Held)}
    {holds : Utf16 × Document → Prop} {holds' : Utf16 × Held → Prop}
    (agree : List.Forall₂ (LineAgrees numbers secret) entries held)
    (same : ∀ entry held, LineAgrees numbers secret entry held → (holds entry ↔ holds' held)) :
    (∃ entry ∈ Document.assigned entries, holds entry) ↔
      ∃ entry ∈ Keyed.lasting Prod.fst held, holds' entry := by
  have noneHidden : entries.filter (fun entry => entry.1 ≠ units "__proto__") = entries := by
    rw [List.filter_eq_self]
    intro entry isEntry
    obtain ⟨name, isName, isKey⟩ := named_of_agree agree entry isEntry
    simpa [isKey] using (lineName_plain name isName).1
  rw [← Keyed.exists_mem_iff_of_forall₂ same
    (Keyed.lasting_forall₂ (fun _ _ agrees => agrees.sameKey) agree)]
  simp only [Document.mem_assigned_iff, noneHidden]

/-- An entry of the line, with its key, holds what its texts leak. -/
theorem LineAgrees.entry_iff (unmistakable : Unmistakable logger call secret)
    {entry : Utf16 × Document} {held : Utf16 × Held} (agrees : LineAgrees numbers secret entry held) :
    entry.2.isUndefined = false ∧ (secret <:+: Utf16.escape entry.1 ∨ entry.2.Holds numbers secret) ↔
      AnyLeaks secret (held.2.leaves false) := by
  obtain ⟨name, isName, isKey⟩ := agrees.named
  have key : ¬ secret <:+: Utf16.escape entry.1 :=
    isKey ▸ unmistakable.not_infix_name (List.mem_append_left _ isName)
  simp [agrees.isSet, key, agrees.whole]

/-- The line holds what its texts leak, those that no later one replaces. -/
theorem holds_line_iff (unmistakable : Unmistakable logger call secret)
    {entries : List (Utf16 × Document)} {held : List (Utf16 × Held)}
    (agree : List.Forall₂ (LineAgrees numbers secret) entries held) :
    (Document.assign entries).Holds numbers secret ↔
      AnyLeaks secret ((Keyed.lasting Prod.fst held).flatMap fun entry => entry.2.leaves false) := by
  rw [Document.assign, Document.holds_object_iff, anyLeaks_flatMap,
    exists_assigned_iff agree fun _ _ agrees => agrees.entry_iff unmistakable]

theorem holds_trimmedLine_iff (unmistakable : Unmistakable logger call secret)
    {entries : List (Utf16 × Document)} {held : List (Utf16 × Held)}
    (agree : List.Forall₂ (LineAgrees numbers secret) entries held) :
    (trimmedLine entries).Holds numbers secret ↔
      AnyLeaks secret ((Keyed.lasting Prod.fst held).flatMap fun entry => entry.2.leaves true) := by
  have distinct : Keyed.Distinct Prod.fst
      ((Document.assigned entries).map fun entry => (entry.1, cutValue entry.2)) := by
    have assigned : Keyed.Distinct Prod.fst (Document.assigned entries) :=
      Keyed.distinct_putAll _
    rw [Keyed.Distinct, List.map_map]
    exact assigned
  have names : ∀ entry ∈ Document.assigned entries, ∃ name ∈ lineNames, entry.1 = units name := by
    intro entry isLine
    exact named_of_agree agree entry (List.mem_of_mem_filter (Keyed.mem_of_mem_putAll isLine))
  have clean : ∀ entry ∈ Document.assigned entries, ¬ secret <:+: Utf16.escape entry.1 := by
    intro entry isLine
    obtain ⟨name, isName, isKey⟩ := names entry isLine
    rw [isKey]
    exact unmistakable.not_infix_name (List.mem_append_left _ isName)
  have keyClean : ¬ secret <:+: Utf16.escape (units "truncated") :=
    unmistakable.not_infix_name (by decide)
  have inLine : (∃ entry ∈ Document.assigned entries, (cutValue entry.2).Holds numbers secret) ↔
      ∃ entry ∈ Keyed.lasting Prod.fst held, AnyLeaks secret (entry.2.leaves true) :=
    exists_assigned_iff agree fun _ _ agrees => agrees.cut
  rw [trimmedLine, Document.holds_object_iff, anyLeaks_flatMap, ← inLine]
  constructor
  · rintro ⟨entry, isEntry, -, held⟩
    rcases (Keyed.mem_put_iff distinct entry).mp isEntry with rfl | ⟨inMap, -⟩
    · simp [keyClean, Document.Holds, Document.tokens] at held
    · obtain ⟨entry, isLine, rfl⟩ := List.mem_map.mp inMap
      exact ⟨entry, isLine, held.resolve_left (clean entry isLine)⟩
  · rintro ⟨entry, isLine, held⟩
    refine ⟨(entry.1, cutValue entry.2), (Keyed.mem_put_iff distinct _).mpr (.inr ⟨?_, ?_⟩), ?_,
      .inr held⟩
    · exact List.mem_map_of_mem isLine
    · obtain ⟨name, isName, isKey⟩ := names entry isLine
      simpa [isKey] using (lineName_plain name isName).2
    · exact isUndefined_of_holds held

theorem holds_ownEntries_iff (unmistakable : Unmistakable logger call secret) :
    (Document.object (ownEntries logger.options.service call)).Holds numbers secret ↔
      AnyLeaks secret ((heldOwn logger.options.service call).flatMap fun entry =>
        entry.2.leaves false) := by
  rw [Document.holds_object_iff, anyLeaks_flatMap]
  exact Keyed.exists_mem_iff_of_forall₂ (fun _ _ agrees => agrees.entry_iff unmistakable)
    (ownEntries_agree unmistakable)

theorem holds_droppedLine_iff (unmistakable : Unmistakable logger call secret) :
    (droppedLine logger.options.service call).Holds numbers secret ↔
      AnyLeaks secret (carriedOn numbers literalSecrets .dropped logger call) := by
  have msgKey : ¬ secret <:+: Utf16.escape (units "msg") := unmistakable.not_infix_name (by decide)
  have note : Utf16.escape droppedNote = droppedNote := by decide
  rw [droppedLine, Document.holds_append_iff, holds_ownEntries_iff unmistakable, carriedOn,
    anyLeaks_append, Document.holds_object_iff]
  simp [msgKey, holds_string_iff, note, Leaf.Leaks]

theorem holds_bareLine_iff (unmistakable : Unmistakable logger call secret) :
    (bareLine logger.options.service call).Holds numbers secret ↔
      AnyLeaks secret (carriedOn numbers literalSecrets .bare logger call) := by
  have key : ¬ secret <:+: Utf16.escape (units "truncated") := unmistakable.not_infix_name (by decide)
  rw [bareLine, Document.holds_append_iff, holds_ownEntries_iff unmistakable, carriedOn,
    Document.holds_object_iff]
  simp [key, Document.Holds, Document.tokens]

/-- The line that is built holds the value exactly when one of the texts on its way leaks it. -/
theorem infix_buildFrom_iff (unmistakable : Unmistakable logger call secret)
    {entries : List (Utf16 × Document)}
    (agree : List.Forall₂ (LineAgrees numbers secret) entries
      (heldLine numbers literalSecrets logger call)) :
    secret <:+: buildFrom numbers logger.options call entries ↔
      AnyLeaks secret (carriedOn numbers literalSecrets
        (linePath numbers logger.options call entries) logger call) := by
  have written : ∀ document : Document, secret <:+: document.write numbers ↔ _ :=
    Document.infix_write_iff numbers unmistakable.toRegistrable.structureless
  rw [buildFrom, linePath]
  by_cases fits : (serialisedLine numbers logger.options.service call entries).byteLength ≤
      logger.options.maxLineBytes
  · rw [if_pos fits, if_pos fits, serialisedLine, Document.stringify]
    by_cases whole : (Document.assign entries).serialisable = true
    · rw [if_pos whole, if_pos whole, Option.getD_some, written,
        holds_line_iff unmistakable agree]
      rfl
    · rw [if_neg whole, if_neg whole, Option.getD_none, written,
        holds_droppedLine_iff unmistakable]
  · rw [if_neg fits, if_neg fits, Document.stringify]
    by_cases whole : (trimmedLine entries).serialisable = true
    · by_cases short : ((trimmedLine entries).write numbers).byteLength ≤ logger.options.maxLineBytes
      · simp only [whole, short, if_true, decide_true, Bool.and_true]
        rw [written, holds_trimmedLine_iff unmistakable agree]
        rfl
      · simp only [whole, short, if_true, if_false, decide_false, Bool.and_false, Bool.false_eq_true]
        rw [written, holds_bareLine_iff unmistakable]
    · simp only [whole, if_false, Bool.false_and, Bool.false_eq_true]
      rw [written, holds_bareLine_iff unmistakable]

/-- A line handed to the sink holds none of the registered values exactly when no text on its way to the
    line leaks one. -/
theorem registered_value_in_line_iff (calls : List (List (Option Utf16)))
    (unmistakable : ∀ value, some value ∈ calls.flatten → Unmistakable logger call value.trim)
    {line : Utf16} (emitted : emit numbers (registered calls) logger call = some line) :
    (∀ value, some value ∈ calls.flatten → ¬ value.trim <:+: line) ↔
      ∀ value, some value ∈ calls.flatten →
        ∀ leaf ∈ carried numbers (registered calls) logger call, ¬ leaf.Leaks value.trim := by
  rw [emit] at emitted
  split at emitted
  · cases emitted
  obtain ⟨entries, written, rfl⟩ := Option.map_eq_some_iff.mp emitted
  refine forall_congr' fun value => forall_congr' fun given => ?_
  have known := unmistakable value given
  have isLiteral : value.trim ∈ registered calls :=
    (mem_registered calls _).mpr ⟨value, given, rfl, known.long⟩
  have leaks := infix_buildFrom_iff known (lineEntries_agree known isLiteral written)
  rw [leaks, carried, written, AnyLeaks]
  simp only [not_exists, not_and]

end Lines

/-! ### A code that is not scanned -/

/-- How numbers are written, where there is none to write. -/
def someNumbers : NumberText := ⟨fun _ => "0", fun _ => .nan⟩

/-- The client secret of an identity provider. -/
def clientSecret : Utf16 := units "GOCSPX-a1b2c3d4"

def apiLogger : Logger := createLogger { service := units "api" }

/-- A failed start, of which the driver's error has the code. -/
def failedStart (code : Utf16) : LogCall :=
  { level := .error
    event := units "lab.start.failed"
    ts := units "2026-01-05T10:00:00.000Z"
    context := some { requestId := units "req-7" }
    fields := [(units "err", .error ⟨.text (units "Error"), units "refused", .text code, none⟩)] }

theorem clientSecret_unmistakable (code : Utf16) :
    ∀ value, some value ∈ [[some clientSecret]].flatten →
      Unmistakable apiLogger (failedStart code) value.trim := by
  intro value given
  have same : value = clientSecret := by simpa using given
  have trimmed : clientSecret.trim = clientSecret := by decide
  rw [same, trimmed]
  exact {
    long := by decide
    plain := by
      have checked : (units "[]\x7b\x7d\":,\\").all (fun unit => !clientSecret.contains unit) = true := by
        decide
      intro unit member
      simpa using List.all_eq_true.mp checked unit member
    notKind := by
      intro kind
      cases kind <;> decide
    notDepth := by decide
    notUnsupported := by decide
    notField := by decide
    notService := by decide
    notLevel := by
      show ¬ _ <:+: units LogLevel.error.text
      decide
    notTimestamp := by
      show ¬ _ <:+: units "2026-01-05T10:00:00.000Z"
      decide
    notEvent := by
      show ¬ _ <:+: units "lab.start.failed"
      decide }

/-- A failed start with an ordinary code: nothing on its way to the line leaks the secret. -/
theorem registered_value_in_line_iff_failedStart :
    ∃ line, emit someNumbers (registered [[some clientSecret]]) apiLogger
        (failedStart (units "ECONNREFUSED")) = some line ∧
      ∀ value, some value ∈ [[some clientSecret]].flatten → ¬ value.trim <:+: line := by
  have emitted : (emit someNumbers (registered [[some clientSecret]]) apiLogger
      (failedStart (units "ECONNREFUSED"))).isSome = true := by decide +kernel
  obtain ⟨line, isLine⟩ := Option.isSome_iff_exists.mp emitted
  refine ⟨line, isLine, ?_⟩
  refine (registered_value_in_line_iff [[some clientSecret]] (clientSecret_unmistakable _) isLine).mpr ?_
  intro value given
  have same : value = clientSecret := by simpa using given
  rw [same]
  decide +kernel

/-- The same failure with the secret for a code: the code reaches the line as it is. -/
theorem err_code_reaches_line :
    (∀ value, some value ∈ [[some clientSecret]].flatten →
        Unmistakable apiLogger (failedStart clientSecret) value.trim) ∧
      ∃ line, emit someNumbers (registered [[some clientSecret]]) apiLogger
          (failedStart clientSecret) = some line ∧ clientSecret <:+: line := by
  refine ⟨clientSecret_unmistakable _, _, rfl, ?_⟩
  decide +kernel

end JumptotechLabs.Observability
