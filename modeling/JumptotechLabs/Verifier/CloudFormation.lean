/-
Module: JumptotechLabs.Verifier.CloudFormation
Layer: Verifier (services/verifier/src/cloudformation.ts)
Purpose: `asSubTemplate`, which writes a CloudFormation value as the one `Fn::Sub` template that would
  produce it, and when that template still means the value. The values it can write are `CfnValue`s;
  `evaluate` says directly which text each produces once its references are worth something.
Main exports: substituteSubVariables, asSubTemplate, CfnValue, CfnValue.document, CfnValue.evaluate,
  CfnValue.marks, asSubTemplate_document, evaluate_eq
-/
import JumptotechLabs.Core.JsonText
import JumptotechLabs.Core.Template

namespace JumptotechLabs.Verifier

open JumptotechLabs.Core
open JumptotechLabs.Core.Template (Token Mark scan tokens textOf namesOf render meant variableTokens
  Faithful)

/-! ### The source -/

/-- `text.replaceAll('${', '${!')`, with the braces as units. -/
def escapeOpenings : Utf16 → Utf16
  | [] => []
  | [unit] => [unit]
  | first :: second :: rest =>
      if first = 36 ∧ second = 123 then 36 :: 123 :: 33 :: escapeOpenings rest
      else first :: escapeOpenings (second :: rest)

/-- A reference as a template names it. -/
def braced (name : Utf16) : Utf16 := 36 :: 123 :: (name ++ [125])

/-- `substituteSubVariables`: one scan from left to right. An escaped name stays escaped, a name the map
    does not have stays, and an unclosed opening keeps its text. -/
def substituteSubVariables (template : Utf16) (resolved : List (Utf16 × Utf16)) : Utf16 :=
  scan (fun unit => [unit])
    (fun name =>
      if name.head? = some 33 then braced name else (resolved.lookup name).getD (braced name))
    template

/-- The logical id a Sub variable names, and the attribute behind the first dot. -/
structure SubReference where
  target : Utf16
  attributeName : Option Utf16
deriving DecidableEq

/-- What stands before the first dot, and behind it. -/
def subReference (body : Utf16) : SubReference :=
  match Utf16.cutAt 46 body with
  | none => ⟨body, none⟩
  | some (target, attributeName) => ⟨target, some attributeName⟩

/-- `subVariables`: the references a Sub text makes. An escaped name makes none. -/
def subVariables (template : Utf16) : List SubReference :=
  scan (fun _ => []) (fun body => if body.head? = some 33 then [] else [subReference body]) template

/-- The texts of a list that holds nothing else. -/
def textsOf : List Document → Option (List Utf16)
  | [] => some []
  | .string text :: rest => (textsOf rest).map (text :: ·)
  | _ :: _ => none

/-- What `Fn::GetAtt` is given, as a list. -/
def getAttParts : Document → List Document
  | .array parts => parts
  | part => [part]

/-- The template of an `Fn::GetAtt`. -/
def getAttTemplate (value : Document) : Option Utf16 :=
  match textsOf (getAttParts value) with
  | some (first :: rest) => some (braced ([46].intercalate (first :: rest)))
  | _ => none

section Source

variable (numbers : NumberText)

/-- `String(value)` of a boolean. -/
def booleanText (value : Bool) : Utf16 := units (if value then "true" else "false")

mutual

/-- `asSubTemplate`. -/
def asSubTemplate (value : Document) (depth : Nat := 0) : Option Utf16 :=
  if 16 < depth then none
  else
    match value with
    | .string text => some (escapeOpenings text)
    | .number value => some (units (numbers.format value))
    | .boolean value => some (booleanText value)
    | .object [(key, entry)] =>
        if key = units "Ref" then
          match entry with
          | .string name => some (braced name)
          | _ => none
        else if key = units "Fn::GetAtt" then getAttTemplate entry
        else if key = units "Fn::Join" then
          match entry with
          | .array [.string delimiter, .array parts] =>
              (asSubTemplates parts (depth + 1)).map fun templates =>
                (escapeOpenings delimiter).intercalate templates
          | _ => none
        else if key = units "Fn::Sub" then
          match entry with
          | .string template => some template
          | .array [.string template, .object mapped] =>
              (asResolved mapped (depth + 1)).map fun resolved =>
                substituteSubVariables template resolved
          | _ => none
        else none
    | _ => none

/-- The templates of the parts of an `Fn::Join`, if all have one. -/
def asSubTemplates (values : List Document) (depth : Nat) : Option (List Utf16) :=
  match values with
  | [] => some []
  | value :: rest =>
      match asSubTemplate value depth, asSubTemplates rest depth with
      | some template, some templates => some (template :: templates)
      | _, _ => none

/-- The templates of the variables of an `Fn::Sub`, if all have one. -/
def asResolved (mapped : List (Utf16 × Document)) (depth : Nat) :
    Option (List (Utf16 × Utf16)) :=
  match mapped with
  | [] => some []
  | (name, entry) :: rest =>
      match asSubTemplate entry depth, asResolved rest depth with
      | some template, some resolved => some ((name, template) :: resolved)
      | _, _ => none

end

end Source

/-! ### What the values mean -/

/-- A value `asSubTemplate` can write: text, numbers, booleans, references, and what joins and
    substitutes them. -/
inductive CfnValue where
  | string (text : Utf16)
  | number (value : Number)
  | boolean (value : Bool)
  | ref (name : Utf16)
  | getAtt (parts : List Utf16)
  /-- `Fn::GetAtt` given as one text. -/
  | getAttText (text : Utf16)
  | join (delimiter : Utf16) (parts : List CfnValue)
  | sub (template : Utf16)
  /-- `Fn::Sub` with a variable map. -/
  | subWith (template : Utf16) (mapped : List (Utf16 × CfnValue))
deriving Inhabited

/-- The text a template gives once its variables are worth something. -/
def subText (assign : Utf16 → Utf16) (template : Utf16) : Utf16 := textOf assign (tokens template)

namespace CfnValue

/-- An object with one entry. -/
def tagged (key : String) (entry : Document) : Document := .object [(units key, entry)]

mutual

/-- The value as the template file's parser hands it over. -/
def document : CfnValue → Document
  | .string text => .string text
  | .number value => .number value
  | .boolean value => .boolean value
  | .ref name => tagged "Ref" (.string name)
  | .getAtt parts => tagged "Fn::GetAtt" (.array (parts.map .string))
  | .getAttText text => tagged "Fn::GetAtt" (.string text)
  | .join delimiter parts =>
      tagged "Fn::Join" (.array [.string delimiter, .array (documents parts)])
  | .sub template => tagged "Fn::Sub" (.string template)
  | .subWith template mapped =>
      tagged "Fn::Sub" (.array [.string template, .object (entries mapped)])

/-- The documents of a list of values. -/
def documents : List CfnValue → List Document
  | [] => []
  | value :: rest => document value :: documents rest

/-- The documents of the variables of a substitution. -/
def entries : List (Utf16 × CfnValue) → List (Utf16 × Document)
  | [] => []
  | (name, value) :: rest => (name, document value) :: entries rest

end

variable (numbers : NumberText) (assign : Utf16 → Utf16)

mutual

/-- The text a value produces, its references taken from `assign`. A variable that a map defines is
    local to its `Fn::Sub`. -/
def evaluate : CfnValue → Utf16
  | .string text => text
  | .number value => units (numbers.format value)
  | .boolean value => booleanText value
  | .ref name => assign name
  | .getAtt parts => assign ([46].intercalate parts)
  | .getAttText text => assign text
  | .join delimiter parts => delimiter.intercalate (evaluateAll parts)
  | .sub template => subText assign template
  | .subWith template mapped =>
      subText (fun name => ((evaluateMapped mapped).lookup name).getD (assign name)) template

/-- What each of the values means. -/
def evaluateAll : List CfnValue → List Utf16
  | [] => []
  | value :: rest => evaluate value :: evaluateAll rest

/-- What each variable of a substitution means. -/
def evaluateMapped : List (Utf16 × CfnValue) → List (Utf16 × Utf16)
  | [] => []
  | (name, value) :: rest => (name, evaluate value) :: evaluateMapped rest

end

end CfnValue

/-! ### The pieces a value is written from -/

/-- A literal text, its openings escaped. -/
def literalMarks : Utf16 → List Mark
  | [] => []
  | [unit] => [.unit unit]
  | first :: second :: rest =>
      if first = 36 ∧ second = 123 then .opening :: literalMarks rest
      else .unit first :: literalMarks (second :: rest)

/-- What stands for a name between braces: an escape, what the map has for it, or a reference. -/
def variableMarks (resolved : List (Utf16 × List Mark)) : Utf16 → List Mark
  | [] => (resolved.lookup []).getD [.reference []]
  | first :: rest =>
      if first = 33 then .opening :: (rest.map .unit ++ [.unit 125])
      else (resolved.lookup (first :: rest)).getD [.reference (first :: rest)]

/-- The pieces of a template whose variables are replaced by the pieces the map has for them. -/
def templateMarks (resolved : List (Utf16 × List Mark)) (template : Utf16) : List Mark :=
  scan (fun unit => [.unit unit]) (variableMarks resolved) template

namespace CfnValue

variable (numbers : NumberText)

mutual

/-- The pieces a value is written from, in order. -/
def marks : CfnValue → List Mark
  | .string text => literalMarks text
  | .number value => (units (numbers.format value)).map .unit
  | .boolean value => (booleanText value).map .unit
  | .ref name => [.reference name]
  | .getAtt parts => [.reference ([46].intercalate parts)]
  | .getAttText text => [.reference text]
  | .join delimiter parts => (literalMarks delimiter).intercalate (marksAll parts)
  | .sub template => templateMarks [] template
  | .subWith template mapped => templateMarks (marksMapped mapped) template

/-- The marks of each of the values. -/
def marksAll : List CfnValue → List (List Mark)
  | [] => []
  | value :: rest => marks value :: marksAll rest

/-- The marks of each variable of a substitution. -/
def marksMapped : List (Utf16 × CfnValue) → List (Utf16 × List Mark)
  | [] => []
  | (name, value) :: rest => (name, marks value) :: marksMapped rest

end

end CfnValue

/-! ### Texts and templates, piece by piece -/

/-- Literal text is written with its openings escaped. -/
theorem render_literalMarks (text : Utf16) : render (literalMarks text) = escapeOpenings text := by
  induction text using escapeOpenings.induct with
  | case1 => rfl
  | case2 unit => rfl
  | case3 first second rest opens ih =>
      rw [literalMarks, escapeOpenings, if_pos opens, if_pos opens, Template.render_opening, ih]
  | case4 first second rest plain ih =>
      rw [literalMarks, escapeOpenings, if_neg plain, if_neg plain, Template.render_unit, ih]

/-- Literal text means itself. -/
theorem meant_literalMarks (text : Utf16) : meant (literalMarks text) = text.map .unit := by
  induction text using escapeOpenings.induct with
  | case1 => rfl
  | case2 unit => rfl
  | case3 first second rest opens ih =>
      rw [literalMarks, if_pos opens, Template.meant_opening, ih, opens.1, opens.2]
      rfl
  | case4 first second rest plain ih =>
      rw [literalMarks, if_neg plain, Template.meant_unit, ih]
      rfl

theorem lookup_map {α β : Type} (f : α → β) (name : Utf16) (mapped : List (Utf16 × α)) :
    (mapped.map fun entry => (entry.1, f entry.2)).lookup name = (mapped.lookup name).map f := by
  induction mapped with
  | nil => rfl
  | cons entry rest ih =>
      rw [List.map_cons, List.lookup_cons, List.lookup_cons, ih]
      cases name == entry.1 <;> rfl

/-- A variable is written as what it resolves to, or as it stands. -/
theorem render_variableMarks (resolved : List (Utf16 × List Mark)) (name : Utf16) :
    render (variableMarks resolved name) =
      if name.head? = some 33 then braced name
      else ((resolved.map fun entry => (entry.1, render entry.2)).lookup name).getD
        (braced name) := by
  have alone : ∀ asked : Utf16, render ((resolved.lookup asked).getD [.reference asked]) =
      ((resolved.map fun entry => (entry.1, render entry.2)).lookup asked).getD (braced asked) := by
    intro asked
    rw [lookup_map]
    cases resolved.lookup asked with
    | none => simp [braced]
    | some marks => rfl
  cases name with
  | nil => exact alone []
  | cons first rest =>
      rw [variableMarks]
      by_cases escaped : first = 33
      · simp [escaped, braced]
      · rw [if_neg escaped, if_neg (by simpa using escaped)]
        exact alone (first :: rest)

/-- Written down, the pieces are what the scan of the source leaves. -/
theorem render_templateMarks (resolved : List (Utf16 × List Mark)) (template : Utf16) :
    render (templateMarks resolved template) =
      substituteSubVariables template (resolved.map fun entry => (entry.1, render entry.2)) := by
  rw [render, templateMarks, Template.flatMap_scan, substituteSubVariables]
  congr 1
  funext name
  exact render_variableMarks resolved name

/-- With no map, a template stays as it is. -/
theorem substituteSubVariables_nil (template : Utf16) :
    substituteSubVariables template [] = template := by
  unfold substituteSubVariables
  induction template using Template.scan_induction with
  | nil => exact Template.scan_nil _ _
  | cons unit rest plain ih => rw [Template.scan_cons _ _ plain, ih]; rfl
  | closed body after absent ih =>
      rw [Template.scan_closed _ _ absent, ih]
      simp [braced]
  | unclosed rest absent =>
      rw [Template.scan_unclosed _ _ absent]
      exact List.flatMap_singleton' _

/-- The value of a variable: what the map has for it, else what its reference is worth. -/
def valueIn (assign : Utf16 → Utf16) (resolved : List (Utf16 × List Mark)) (name : Utf16) : Utf16 :=
  ((resolved.map fun entry => (entry.1, textOf assign (meant entry.2))).lookup name).getD
    (assign name)

/-- A variable means what the substitution gives it. -/
theorem textOf_variableMarks (assign : Utf16 → Utf16) (resolved : List (Utf16 × List Mark))
    (name : Utf16) :
    textOf assign (meant (variableMarks resolved name)) =
      textOf (valueIn assign resolved) (variableTokens name) := by
  have alone : ∀ asked : Utf16,
      textOf assign (meant ((resolved.lookup asked).getD [.reference asked])) =
        valueIn assign resolved asked := by
    intro asked
    unfold valueIn
    rw [lookup_map fun marks => textOf assign (meant marks)]
    cases resolved.lookup asked with
    | none => simp [Token.text]
    | some marks => rfl
  cases name with
  | nil =>
      rw [variableMarks, alone]
      simp [variableTokens, Token.text]
  | cons first rest =>
      rw [variableMarks, variableTokens]
      by_cases escaped : first = 33
      · simp [escaped, Token.text]
      · rw [if_neg escaped, if_neg escaped, alone]
        simp [Token.text]

/-- The pieces mean what the template gives with its variables so replaced. -/
theorem textOf_templateMarks (assign : Utf16 → Utf16) (resolved : List (Utf16 × List Mark))
    (template : Utf16) :
    textOf assign (meant (templateMarks resolved template)) =
      subText (valueIn assign resolved) template := by
  rw [subText, tokens, textOf, textOf, meant, templateMarks, Template.flatMap_scan,
    Template.flatMap_scan, Template.flatMap_scan]
  congr 1
  funext name
  exact textOf_variableMarks assign resolved name

/-- Joining and then rewriting piece by piece is rewriting and then joining. -/
theorem flatMap_intercalate {α β : Type} (f : α → List β) (separator : List α)
    (pieces : List (List α)) :
    (separator.intercalate pieces).flatMap f =
      (separator.flatMap f).intercalate (pieces.map fun piece => piece.flatMap f) := by
  induction pieces with
  | nil => rfl
  | cons first rest ih =>
      cases rest with
      | nil => simp
      | cons second others =>
          rw [List.intercalate_cons_cons, List.flatMap_append, List.flatMap_append, ih]
          simp [List.intercalate_cons_cons]

/-! ### The template of a value is written from its pieces -/

namespace CfnValue

variable (numbers : NumberText)

theorem textsOf_strings (parts : List Utf16) :
    textsOf (parts.map Document.string) = some parts := by
  induction parts with
  | nil => rfl
  | cons part rest ih => rw [List.map_cons, textsOf, ih]; rfl

section Shapes

variable {depth : Nat} {template : Utf16}

/-- The template of a `Ref` is its name in braces. -/
theorem asSubTemplate_ref {name : Utf16}
    (written : asSubTemplate numbers (tagged "Ref" (.string name)) depth = some template) :
    template = braced name := by
  rw [tagged, asSubTemplate] at written
  split at written
  · cases written
  · rw [if_pos rfl] at written
    exact (Option.some.inj written).symm

/-- The template of a `Fn::GetAtt` is that of its entry. -/
theorem asSubTemplate_getAtt {entry : Document}
    (written : asSubTemplate numbers (tagged "Fn::GetAtt" entry) depth = some template) :
    getAttTemplate entry = some template := by
  unfold tagged asSubTemplate at written
  split at written
  · cases written
  · dsimp only at written
    rw [if_neg (by decide), if_pos rfl] at written
    exact written

/-- The template of a `Fn::Join` is made of those of its parts. -/
theorem asSubTemplate_join {delimiter : Utf16} {parts : List Document}
    (written : asSubTemplate numbers
      (tagged "Fn::Join" (.array [.string delimiter, .array parts])) depth = some template) :
    ∃ templates, asSubTemplates numbers parts (depth + 1) = some templates ∧
      template = (escapeOpenings delimiter).intercalate templates := by
  rw [tagged, asSubTemplate] at written
  split at written
  · cases written
  · rw [if_neg (by decide), if_neg (by decide), if_pos rfl] at written
    obtain ⟨templates, isTemplates, isTemplate⟩ := Option.map_eq_some_iff.mp written
    exact ⟨templates, isTemplates, isTemplate.symm⟩

/-- The template of a plain `Fn::Sub` is its text. -/
theorem asSubTemplate_sub {text : Utf16}
    (written : asSubTemplate numbers (tagged "Fn::Sub" (.string text)) depth = some template) :
    template = text := by
  rw [tagged, asSubTemplate] at written
  split at written
  · cases written
  · rw [if_neg (by decide), if_neg (by decide), if_neg (by decide),
      if_pos rfl] at written
    exact (Option.some.inj written).symm

/-- The template of a `Fn::Sub` with variables is its text with their templates in it. -/
theorem asSubTemplate_subWith {text : Utf16} {mapped : List (Utf16 × Document)}
    (written : asSubTemplate numbers
      (tagged "Fn::Sub" (.array [.string text, .object mapped])) depth = some template) :
    ∃ resolved, asResolved numbers mapped (depth + 1) = some resolved ∧
      template = substituteSubVariables text resolved := by
  rw [tagged, asSubTemplate] at written
  split at written
  · cases written
  · rw [if_neg (by decide), if_neg (by decide), if_neg (by decide),
      if_pos rfl] at written
    obtain ⟨resolved, isResolved, isTemplate⟩ := Option.map_eq_some_iff.mp written
    exact ⟨resolved, isResolved, isTemplate.symm⟩

end Shapes

mutual

/-- A template that is returned is the value's pieces written down. -/
theorem asSubTemplate_document {depth : Nat} {template : Utf16} :
    ∀ value : CfnValue, asSubTemplate numbers value.document depth = some template →
      template = render (value.marks numbers)
  | .string text, written => by
      rw [document, asSubTemplate] at written
      split at written
      · cases written
      · rw [marks, render_literalMarks]
        exact (Option.some.inj written).symm
  | .number value, written => by
      rw [document, asSubTemplate] at written
      split at written
      · cases written
      · rw [marks, Template.render_units]
        exact (Option.some.inj written).symm
  | .boolean value, written => by
      rw [document, asSubTemplate] at written
      split at written
      · cases written
      · rw [marks, Template.render_units]
        exact (Option.some.inj written).symm
  | .ref name, written => by
      rw [asSubTemplate_ref numbers written, marks, Template.render_reference]
      rfl
  | .getAtt parts, written => by
      have isTemplate := asSubTemplate_getAtt numbers written
      rw [getAttTemplate, getAttParts, textsOf_strings] at isTemplate
      cases parts with
      | nil => cases isTemplate
      | cons first rest =>
          rw [marks, Template.render_reference]
          exact (Option.some.inj isTemplate).symm
  | .getAttText text, written => by
      have isTemplate := Option.some.inj (asSubTemplate_getAtt numbers written)
      rw [← isTemplate, marks, Template.render_reference, List.intercalate_singleton]
      rfl
  | .join delimiter parts, written => by
      obtain ⟨templates, isTemplates, rfl⟩ := asSubTemplate_join numbers written
      rw [asSubTemplates_documents parts isTemplates, marks, render, flatMap_intercalate,
        ← render, render_literalMarks]
      rfl
  | .sub text, written => by
      rw [asSubTemplate_sub numbers written, marks, render_templateMarks]
      exact (substituteSubVariables_nil text).symm
  | .subWith text mapped, written => by
      obtain ⟨resolved, isResolved, rfl⟩ := asSubTemplate_subWith numbers written
      rw [asResolved_entries mapped isResolved, marks, render_templateMarks]

/-- The templates of a list are what its values' marks are written as. -/
theorem asSubTemplates_documents {depth : Nat} {templates : List Utf16} :
    ∀ values : List CfnValue, asSubTemplates numbers (documents values) depth = some templates →
      templates = (marksAll numbers values).map render
  | [], written => (Option.some.inj written).symm
  | value :: rest, written => by
      rw [documents, asSubTemplates] at written
      split at written
      · rename_i template others isTemplate areOthers
        cases written
        rw [marksAll, List.map_cons, asSubTemplate_document value isTemplate,
          asSubTemplates_documents rest areOthers]
      · cases written

/-- The templates of the variables are what their marks are written as. -/
theorem asResolved_entries {depth : Nat} {resolved : List (Utf16 × Utf16)} :
    ∀ mapped : List (Utf16 × CfnValue), asResolved numbers (entries mapped) depth = some resolved →
      resolved = (marksMapped numbers mapped).map fun entry => (entry.1, render entry.2)
  | [], written => (Option.some.inj written).symm
  | (name, value) :: rest, written => by
      rw [entries, asResolved] at written
      split at written
      · rename_i template others isTemplate areOthers
        cases written
        rw [marksMapped, List.map_cons, asSubTemplate_document value isTemplate,
          asResolved_entries rest areOthers]
      · cases written

end

/-! ### What a value produces is what its pieces mean -/

variable (assign : Utf16 → Utf16)

mutual

/-- A value means what its marks mean. -/
theorem evaluate_eq : ∀ value : CfnValue,
    value.evaluate numbers assign = textOf assign (meant (value.marks numbers))
  | .string text => by rw [evaluate, marks, meant_literalMarks, Template.textOf_units]
  | .number value => by rw [evaluate, marks, Template.meant_units, Template.textOf_units]
  | .boolean value => by rw [evaluate, marks, Template.meant_units, Template.textOf_units]
  | .ref name => by simp [evaluate, marks, Token.text]
  | .getAtt parts => by simp [evaluate, marks, Token.text]
  | .getAttText text => by simp [evaluate, marks, Token.text]
  | .join delimiter parts => by
      rw [evaluate, marks, evaluateAll_eq parts, meant, flatMap_intercalate, ← meant,
        meant_literalMarks, textOf, flatMap_intercalate, ← textOf, Template.textOf_units,
        List.map_map]
      rfl
  | .sub template => by
      rw [evaluate, marks, textOf_templateMarks]
      rfl
  | .subWith template mapped => by
      rw [evaluate, marks, textOf_templateMarks, evaluateMapped_eq mapped]
      rfl

theorem evaluateAll_eq : ∀ values : List CfnValue,
    evaluateAll numbers assign values =
      (marksAll numbers values).map fun marks => textOf assign (meant marks)
  | [] => rfl
  | value :: rest => by
      rw [evaluateAll, marksAll, List.map_cons, evaluate_eq value, evaluateAll_eq rest]

theorem evaluateMapped_eq : ∀ mapped : List (Utf16 × CfnValue),
    evaluateMapped numbers assign mapped =
      (marksMapped numbers mapped).map fun entry => (entry.1, textOf assign (meant entry.2))
  | [] => rfl
  | (name, value) :: rest => by
      rw [evaluateMapped, marksMapped, List.map_cons, evaluate_eq value, evaluateMapped_eq rest]

end

/-! ### When a template still means the value -/

mutual

/-- The value is built from literal text alone. -/
def isLiteral : CfnValue → Bool
  | .string _ => true
  | .number _ => true
  | .boolean _ => true
  | .join _ parts => areLiteral parts
  | _ => false

/-- None of the values has a reference. -/
def areLiteral : List CfnValue → Bool
  | [] => true
  | value :: rest => isLiteral value && areLiteral rest

end

/-- The references a value makes, in the order it makes them. -/
def references (value : CfnValue) : List Utf16 :=
  namesOf (meant (value.marks numbers))

theorem intercalate_nils {α : Type} {pieces : List (List α)} (empty : ∀ piece ∈ pieces, piece = []) :
    [].intercalate pieces = [] := by
  induction pieces with
  | nil => rfl
  | cons first rest ih =>
      have tails := ih fun piece isPiece => empty piece (List.mem_cons_of_mem _ isPiece)
      cases rest with
      | nil => simpa using empty first List.mem_cons_self
      | cons second others =>
          rw [List.intercalate_cons_cons, tails, empty first List.mem_cons_self]
          rfl

mutual

/-- A literal value has no references. -/
theorem references_of_isLiteral :
    ∀ value : CfnValue, value.isLiteral = true → value.references numbers = []
  | .string text, _ => by rw [references, marks, meant_literalMarks, Template.namesOf_units]
  | .number value, _ => by rw [references, marks, Template.meant_units, Template.namesOf_units]
  | .boolean value, _ => by rw [references, marks, Template.meant_units, Template.namesOf_units]
  | .join delimiter parts, literal => by
      rw [references, marks, meant, flatMap_intercalate, ← meant, meant_literalMarks, namesOf,
        flatMap_intercalate, ← namesOf, Template.namesOf_units, List.map_map]
      refine intercalate_nils fun piece isPiece => ?_
      obtain ⟨marks, isMarks, rfl⟩ := List.mem_map.mp isPiece
      exact references_of_areLiteral parts literal marks isMarks

theorem references_of_areLiteral :
    ∀ values : List CfnValue, areLiteral values = true →
      ∀ marks ∈ marksAll numbers values, namesOf (meant marks) = []
  | [], _ => fun marks isMarks => nomatch isMarks
  | value :: rest, literal => by
      rw [areLiteral, Bool.and_eq_true] at literal
      intro marks isMarks
      rcases List.mem_cons.mp isMarks with isFirst | isOther
      · rw [isFirst]
        exact references_of_isLiteral value literal.1
      · exact references_of_areLiteral rest literal.2 marks isOther

end

/-- A template means its value exactly if the value's pieces are faithful. -/
theorem subText_eq_evaluate_iff {value : CfnValue} {template : Utf16}
    (written : asSubTemplate numbers value.document = some template) :
    (∀ assign, subText assign template = value.evaluate numbers assign) ↔
      Faithful (value.marks numbers) := by
  rw [asSubTemplate_document numbers value written, ← Template.tokens_render_iff]
  constructor
  · intro same
    apply Template.textOf_injective
    intro assign
    rw [← evaluate_eq, ← same]
    rfl
  · intro same assign
    rw [subText, same, evaluate_eq]

/-- The references of a template are the names of its tokens. -/
theorem subVariables_eq (template : Utf16) :
    subVariables template = (namesOf (tokens template)).map subReference := by
  rw [subVariables, ← List.flatMap_pure_eq_map, namesOf, tokens, Template.flatMap_scan,
    Template.flatMap_scan]
  congr 1
  funext body
  by_cases names : Template.Names body
  · rw [if_neg names, Template.variableTokens_of_names names]
    rfl
  · obtain ⟨rest, rfl⟩ := Template.escaped_of_not_names names
    have noNames : namesOf (variableTokens (33 :: rest)) = [] := by
      rw [variableTokens, if_pos rfl, Template.namesOf_units]
    rw [if_pos List.head?_cons, ← namesOf, noNames]
    rfl

/-- The references the template of a value makes, as the grader lists them, are the value's own. -/
theorem subVariables_of_faithful {value : CfnValue} {template : Utf16}
    (written : asSubTemplate numbers value.document = some template)
    (faithful : Faithful (value.marks numbers)) :
    subVariables template = (value.references numbers).map subReference := by
  rw [asSubTemplate_document numbers value written, subVariables_eq, faithful.tokens_render]
  rfl

/-- Over all values with a template: the template, evaluated, gives what the value gives under every
    assignment exactly if the value's pieces are faithful; and of such values, two with one template give
    the same text, and none that is literal shares a template with one that makes a reference. -/
theorem sub_template_means_value_iff (numbers : NumberText) :
    (∀ (value : CfnValue) (template : Utf16),
      asSubTemplate numbers value.document = some template →
        ((∀ assign, subText assign template = value.evaluate numbers assign) ↔
          Faithful (value.marks numbers))) ∧
      ∀ (value other : CfnValue) (template : Utf16),
        asSubTemplate numbers value.document = some template →
        asSubTemplate numbers other.document = some template →
        Faithful (value.marks numbers) → Faithful (other.marks numbers) →
          (∀ assign, value.evaluate numbers assign = other.evaluate numbers assign) ∧
            (value.isLiteral = true → other.references numbers = []) := by
  refine ⟨fun value template written => subText_eq_evaluate_iff numbers written, ?_⟩
  intro value other template written writtenToo faithful faithfulToo
  have means := (subText_eq_evaluate_iff numbers written).mpr faithful
  have meansToo := (subText_eq_evaluate_iff numbers writtenToo).mpr faithfulToo
  refine ⟨fun assign => (means assign).symm.trans (meansToo assign), fun literal => ?_⟩
  have same : meant (value.marks numbers) = meant (other.marks numbers) := by
    rw [← faithful.tokens_render, ← faithfulToo.tokens_render,
      ← asSubTemplate_document numbers value written,
      ← asSubTemplate_document numbers other writtenToo]
  rw [references, ← same]
  exact references_of_isLiteral numbers value literal

/-- How numbers are written, for values that have none. -/
def noNumbers : NumberText := ⟨fun _ => "0", fun _ => .nan⟩

def foo : Utf16 := units "Foo"

/-- A reference with a text behind it, joined by nothing. -/
def everyObject : CfnValue := .join [] [.ref foo, .string (units "/*")]

/-- The same with the slash between. -/
def slashBetween : CfnValue := .join (units "/") [.ref foo, .string (units "*")]

theorem sub_template_means_value_of_every_object :
    asSubTemplate noNumbers everyObject.document = some (braced foo ++ units "/*") ∧
      asSubTemplate noNumbers slashBetween.document = some (braced foo ++ units "/*") ∧
      (∀ assign, subText assign (braced foo ++ units "/*") =
        everyObject.evaluate noNumbers assign) ∧
      ∀ assign, everyObject.evaluate noNumbers assign = slashBetween.evaluate noNumbers assign := by
  have written : asSubTemplate noNumbers everyObject.document =
      some (braced foo ++ units "/*") := by decide +kernel
  have writtenToo : asSubTemplate noNumbers slashBetween.document =
      some (braced foo ++ units "/*") := by decide +kernel
  have pieces : everyObject.marks noNumbers =
      [.reference foo, .unit 47, .unit 42] := by decide +kernel
  have piecesToo : slashBetween.marks noNumbers =
      [.reference foo, .unit 47, .unit 42] := by decide +kernel
  have faithful : Faithful [.reference foo, .unit 47, .unit 42] := by
    refine .reference (by decide +kernel) (by unfold Template.Names; decide +kernel) ?_
    exact .unit (by decide) (.unit (by decide) .nil)
  obtain ⟨means, agree⟩ := sub_template_means_value_iff noNumbers
  refine ⟨written, writtenToo, (means _ _ written).mpr (pieces ▸ faithful), ?_⟩
  exact (agree _ _ _ written writtenToo (pieces ▸ faithful) (piecesToo ▸ faithful)).1

/-- A dollar sign and a name in braces, two texts joined by nothing. -/
def dollarAndBraces : CfnValue :=
  .join [] [.string (units "$"), .string (units "\x7bFoo\x7d")]

/-- Joined text is written as the template of a reference: where the reference is worth nothing, the
    template gives nothing and the value gives its text. -/
theorem joined_text_reads_as_reference :
    dollarAndBraces.isLiteral = true ∧ (CfnValue.ref foo).references noNumbers = [foo] ∧
      asSubTemplate noNumbers dollarAndBraces.document = some (braced foo) ∧
      asSubTemplate noNumbers (CfnValue.ref foo).document = some (braced foo) ∧
      subText (fun _ => []) (braced foo) = [] ∧
      dollarAndBraces.evaluate noNumbers (fun _ => []) = braced foo := by
  refine ⟨by decide +kernel, by decide +kernel, by decide +kernel, by decide +kernel, ?_,
    by decide +kernel⟩
  have ends : 125 ∉ foo := by decide +kernel
  have names : Template.Names foo := by unfold Template.Names; decide +kernel
  have read : tokens (braced foo) = [.reference foo] := by
    rw [braced, Template.tokens_closed ends, Template.variableTokens_of_names names,
      Template.tokens_nil]
    rfl
  rw [subText, read]
  rfl

end CfnValue

end JumptotechLabs.Verifier
