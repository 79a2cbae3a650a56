/-
Module: JumptotechLabs.Terraform.HclGrammar
Layer: Terraform (services/lab-orchestrator/src/terraform/hcl.ts)
Purpose: The bodies of HCL as sequences of lexemes, each with the document it writes: newlines, arguments with a
  balanced expression, and blocks with their labels and a body of their own. The reader gives back what was
  written, and goes on with what stands behind.
Main exports: readBody_cons, Lexeme.within, Expression, valueOf, literalsOf, Writes, Writes.readBody
-/
import JumptotechLabs.Terraform.HclLexemes

namespace JumptotechLabs.Terraform

open JumptotechLabs.Core
open JumptotechLabs.Core.Utf16 (trim)

/-! ### The reader without its fuel -/

theorem length_significant {rest behind : List Lexeme} {lexeme : Lexeme}
    (found : Lexeme.significant rest = some (lexeme, behind)) : behind.length < rest.length := by
  induction rest with
  | nil => cases found
  | cons head rest ih =>
      rw [Lexeme.significant] at found
      split at found
      · exact Nat.lt_succ_of_lt (ih found)
      · cases found
        exact Nat.lt_succ_self _

theorem length_argumentOpening {rest value : List Lexeme}
    (found : Lexeme.argumentOpening rest = some value) : value.length < rest.length := by
  rw [Lexeme.argumentOpening] at found
  split at found
  · cases found
  · rename_i after behind isNext
    split at found
    · cases found
      exact length_significant isNext
    · cases found

theorem length_blockOpening {rest body : List Lexeme} {labels : List Utf16}
    (found : Lexeme.blockOpening rest = some (labels, body)) : body.length < rest.length := by
  induction rest generalizing labels with
  | nil => cases found
  | cons upcoming rest ih =>
      rw [Lexeme.blockOpening] at found
      split at found
      · exact Nat.lt_succ_of_lt (ih found)
      · cases found
        exact Nat.lt_succ_self _
      · obtain ⟨⟨more, body⟩, inner, same⟩ := Option.map_eq_some_iff.mp found
        cases same
        exact Nat.lt_succ_of_lt (ih inner)
      · obtain ⟨⟨more, body⟩, inner, same⟩ := Option.map_eq_some_iff.mp found
        cases same
        exact Nat.lt_succ_of_lt (ih inner)
      · cases found

theorem length_headingOf {head : Lexeme} {rest : List Lexeme} :
    (∀ value, headingOf head rest = .argument value → value.length < rest.length) ∧
      ∀ labels body, headingOf head rest = .block labels body → body.length < rest.length := by
  rw [headingOf]
  split
  · split
    · rename_i value found
      exact ⟨fun _ same => by cases same; exact length_argumentOpening found, fun _ _ same => by cases same⟩
    · split
      · rename_i labels body found
        exact ⟨fun _ same => (by cases same), fun _ _ same => by cases same; exact length_blockOpening found⟩
      · exact ⟨fun _ same => (by cases same), fun _ _ same => by cases same⟩
  · exact ⟨fun _ same => (by cases same), fun _ _ same => by cases same⟩

theorem length_readValueFrom (depth : Nat) (first : Bool) (rest : List Lexeme) :
    (readValueFrom depth first rest).rest.length ≤ rest.length := by
  induction rest generalizing depth first with
  | nil => exact le_refl _
  | cons lexeme rest ih =>
      rw [readValueFrom]
      split
      · split
        · exact le_refl _
        · exact Nat.le_succ_of_le (ih depth first)
      · split
        · split
          · exact le_refl _
          · exact Nat.le_succ_of_le (ih (depth - 1) false)
        · dsimp only
          split_ifs <;> first | exact le_refl _ | exact Nat.le_succ_of_le (ih _ false)

theorem length_readValue (rest : List Lexeme) : (readValue rest).2.2.length ≤ rest.length :=
  length_readValueFrom 0 true rest

theorem length_passOver (depth : Nat) (rest : List Lexeme) : (passOver depth rest).length ≤ rest.length := by
  induction rest generalizing depth with
  | nil => exact le_refl _
  | cons lexeme rest ih =>
      rw [passOver]
      split; · exact Nat.le_succ _
      split; · exact Nat.le_succ_of_le (ih _)
      split
      · split
        · exact le_refl _
        · exact Nat.le_succ_of_le (ih _)
      · exact Nat.le_succ_of_le (ih _)

/-- Passing over takes a lexeme or more, but for a brace that closes the body. -/
theorem length_passOver_cons {lexeme : Lexeme} (inside : lexeme.kind ≠ .rbrace) (rest : List Lexeme) :
    (passOver 0 (lexeme :: rest)).length ≤ rest.length := by
  rw [passOver]
  split; · exact le_refl _
  split; · exact length_passOver _ _
  exact length_passOver _ _

theorem length_readBodyFrom (fuel : Nat) (topLevel : Bool) (rest : List Lexeme) :
    (readBodyFrom fuel topLevel rest).2.length ≤ rest.length := by
  induction fuel generalizing topLevel rest with
  | zero => cases rest <;> exact le_refl _
  | succ fuel ih =>
      cases rest with
      | nil => exact le_refl _
      | cons lexeme rest =>
          rw [readBodyFrom]
          split; · exact Nat.le_succ_of_le (ih topLevel rest)
          split
          · split
            · exact Nat.le_succ_of_le (ih topLevel rest)
            · exact Nat.le_succ _
          · split
            · rename_i value heading
              have shorter := length_headingOf.1 value heading
              have behind := length_readValue value
              have left := ih topLevel (readValue value).2.2
              simp only [List.length_cons]
              omega
            · rename_i labels body heading
              have shorter := length_headingOf.2 labels body heading
              have behind := ih false body
              have left := ih topLevel (readBodyFrom fuel false body).2
              simp only [List.length_cons]
              omega
            · exact (ih topLevel _).trans (length_passOver _ _)

/-- Fuel for the number of lexemes is enough. -/
theorem readBodyFrom_congr {fuel other : Nat} (topLevel : Bool) {rest : List Lexeme}
    (enough : rest.length ≤ fuel) (also : rest.length ≤ other) :
    readBodyFrom fuel topLevel rest = readBodyFrom other topLevel rest := by
  induction fuel generalizing other topLevel rest with
  | zero =>
      cases List.eq_nil_of_length_eq_zero (Nat.le_zero.mp enough)
      cases other <;> rfl
  | succ fuel ih =>
      cases rest with
      | nil => cases other <;> rfl
      | cons lexeme rest =>
          rw [List.length_cons] at enough also
          obtain ⟨other, rfl⟩ : ∃ n, other = n + 1 := ⟨other - 1, by omega⟩
          have again (topLevel : Bool) {behind : List Lexeme} (shorter : behind.length ≤ rest.length) :
              readBodyFrom fuel topLevel behind = readBodyFrom other topLevel behind :=
            ih topLevel (by omega) (by omega)
          rw [readBodyFrom, readBodyFrom]
          split; · exact again topLevel (le_refl _)
          split
          · rw [again topLevel (le_refl _)]
          · rename_i inside
            split
            · rename_i value heading
              have shorter := length_headingOf.1 value heading
              have behind := length_readValue value
              dsimp only
              rw [again topLevel (by omega : (readValue value).2.2.length ≤ rest.length)]
            · rename_i labels body heading
              have shorter := length_headingOf.2 labels body heading
              dsimp only
              rw [again false (by omega : body.length ≤ rest.length)]
              have behind := length_readBodyFrom other false body
              rw [again topLevel (by omega : (readBodyFrom other false body).2.length ≤ rest.length)]
            · exact again topLevel (length_passOver_cons inside rest)

theorem readBody_nil (topLevel : Bool) : readBody topLevel [] = (.empty, []) := rfl

theorem readBody_cons (topLevel : Bool) (lexeme : Lexeme) (rest : List Lexeme) :
    readBody topLevel (lexeme :: rest) =
      if lexeme.kind = .newline || lexeme.isSymbol 44 then readBody topLevel rest
      else if lexeme.kind = .rbrace then
        if topLevel then readBody topLevel rest else (.empty, rest)
      else
        match headingOf lexeme rest with
        | .argument value =>
            let read := readValue value
            let further := readBody topLevel read.2.2
            ((Document.ofArgument ⟨lexeme.value, read.1, read.2.1⟩).append further.1, further.2)
        | .block labels inner =>
            let body := readBody false inner
            let further := readBody topLevel body.2
            ((Document.ofBlock ⟨lexeme.value, labels, body.1.blocks, body.1.arguments⟩).append further.1,
              further.2)
        | .neither => readBody topLevel (passOver 0 (lexeme :: rest)) := by
  have again (topLevel : Bool) {behind : List Lexeme} (shorter : behind.length ≤ rest.length) :
      readBodyFrom rest.length topLevel behind = readBody topLevel behind :=
    readBodyFrom_congr topLevel shorter (le_refl _)
  rw [readBody, List.length_cons, readBodyFrom]
  split; · rfl
  split; · rfl
  rename_i inside
  cases heading : headingOf lexeme rest with
  | argument value =>
      have shorter := length_headingOf.1 value heading
      have behind := length_readValue value
      dsimp only
      rw [again topLevel (by omega : (readValue value).2.2.length ≤ rest.length)]
  | block labels body =>
      have shorter := length_headingOf.2 labels body heading
      dsimp only
      rw [again false (by omega : body.length ≤ rest.length)]
      have behind : (readBody false body).2.length ≤ body.length := length_readBodyFrom _ false body
      rw [again topLevel (by omega : (readBody false body).2.length ≤ rest.length)]
  | neither => exact again topLevel (length_passOver_cons inside rest)

theorem readBody_newline {newline : Lexeme} (isNewline : newline.kind = .newline) (topLevel : Bool)
    (rest : List Lexeme) : readBody topLevel (newline :: rest) = readBody topLevel rest := by
  rw [readBody_cons, isNewline]
  rfl

theorem readBody_comma {comma : Lexeme} (isComma : comma.isSymbol 44 = true) (topLevel : Bool)
    (rest : List Lexeme) : readBody topLevel (comma :: rest) = readBody topLevel rest := by
  rw [readBody_cons, isComma, Bool.or_true, if_pos rfl]

theorem readBody_closing {closing : Lexeme} (closes : closing.kind = .rbrace) (rest : List Lexeme) :
    readBody false (closing :: rest) = (.empty, rest) := by
  rw [readBody_cons, Lexeme.isSymbol, closes]
  rfl

/-! ### Expressions -/

namespace Lexeme

/-- The depth behind a lexeme of an expression; none where the expression ends in front of it. -/
def within (depth : Nat) (lexeme : Lexeme) : Option Nat :=
  if lexeme.kind = .newline then if depth = 0 then none else some depth
  else if lexeme.kind = .rbrace then if depth = 0 then none else some (depth - 1)
  else
    let opened :=
      if lexeme.kind = .lbrace || lexeme.isSymbol 91 || lexeme.isSymbol 40 then depth + 1 else depth
    let depth := if lexeme.isSymbol 93 || lexeme.isSymbol 41 then opened - 1 else opened
    if lexeme.isSymbol 44 && depth == 0 then none else some depth

end Lexeme

/-- Lexemes that are read whole as an expression, whatever ends it. -/
def Expression (value : List Lexeme) : Prop := value.foldlM Lexeme.within 0 = some 0

instance (value : List Lexeme) : Decidable (Expression value) :=
  inferInstanceAs (Decidable (_ = _))

/-- The pieces that lexemes put into a value. -/
def piecesOf : Bool → List Lexeme → List Utf16
  | _, [] => []
  | first, lexeme :: rest =>
      if lexeme.kind = .newline then piecesOf first rest else lexeme.piece first :: piecesOf false rest

def valueOf (value : List Lexeme) : Utf16 := trim (piecesOf true value).flatten

def literalsOf (value : List Lexeme) : List Utf16 :=
  (value.filter fun lexeme => lexeme.kind = .string).map Lexeme.value

/-- One lexeme is taken, and the expression goes on at the depth behind it. -/
theorem readValueFrom_cons {depth next : Nat} {lexeme : Lexeme} (goesOn : lexeme.within depth = some next)
    (first : Bool) (rest : List Lexeme) :
    readValueFrom depth first (lexeme :: rest) =
      if lexeme.kind = .newline then readValueFrom next first rest
      else (readValueFrom next false rest).behind first lexeme := by
  rw [readValueFrom]
  rw [Lexeme.within] at goesOn
  split
  · rename_i newline
    rw [if_pos newline] at goesOn
    split at goesOn
    · cases goesOn
    · rename_i inner
      cases goesOn
      rw [if_neg inner]
  · rename_i plain
    rw [if_neg plain] at goesOn
    split
    · rename_i closes
      rw [if_pos closes] at goesOn
      split at goesOn
      · cases goesOn
      · rename_i inner
        cases goesOn
        rw [if_neg inner]
    · rename_i inside
      rw [if_neg inside] at goesOn
      obtain ⟨noComma, same⟩ := Option.ite_none_left_eq_some.mp goesOn
      cases same
      exact if_neg noComma

theorem literalsOf_cons (lexeme : Lexeme) (rest : List Lexeme) :
    literalsOf (lexeme :: rest) =
      (if lexeme.kind = .string then [lexeme.value] else []) ++ literalsOf rest := by
  rw [literalsOf, List.filter_cons]
  by_cases isString : lexeme.kind = .string
  · simp [isString, literalsOf]
  · simp [isString, literalsOf]

/-- Lexemes within an expression are taken, and the expression goes on behind them. -/
theorem readValueFrom_append {depth next : Nat} {value : List Lexeme}
    (goesOn : value.foldlM Lexeme.within depth = some next) (first : Bool) (rest : List Lexeme) :
    ∃ onward, readValueFrom depth first (value ++ rest) =
      ⟨piecesOf first value ++ (readValueFrom next onward rest).pieces,
        literalsOf value ++ (readValueFrom next onward rest).literals,
        (readValueFrom next onward rest).rest⟩ := by
  induction value generalizing depth first with
  | nil =>
      cases goesOn
      exact ⟨first, rfl⟩
  | cons lexeme value ih =>
      rw [List.foldlM_cons] at goesOn
      obtain ⟨between, here, goesOn⟩ := Option.bind_eq_some_iff.mp goesOn
      rw [List.cons_append, readValueFrom_cons here, piecesOf, literalsOf_cons]
      split
      · rename_i newline
        obtain ⟨onward, same⟩ := ih goesOn first
        refine ⟨onward, ?_⟩
        rw [same, newline, if_neg (by decide), List.nil_append]
      · obtain ⟨onward, same⟩ := ih goesOn false
        refine ⟨onward, ?_⟩
        rw [ValueRead.behind, same, List.cons_append, List.append_assoc]

/-- What ends an expression and a statement, without being part of it. -/
def Stops (rest : List Lexeme) : Prop := ∀ lexeme ∈ rest.head?, lexeme.kind = .newline ∨ lexeme.kind = .rbrace

theorem readValueFrom_stops {rest : List Lexeme} (stops : Stops rest) (first : Bool) :
    readValueFrom 0 first rest = ⟨[], [], rest⟩ := by
  cases rest with
  | nil => rfl
  | cons lexeme rest =>
      rw [readValueFrom]
      rcases stops lexeme rfl with newline | closes
      · rw [if_pos newline, if_pos rfl]
      · rw [if_neg (by rw [closes]; decide), if_pos closes, if_pos rfl]

theorem readValue_append {value rest : List Lexeme} (whole : Expression value) (stops : Stops rest) :
    readValue (value ++ rest) = (valueOf value, literalsOf value, rest) := by
  obtain ⟨onward, same⟩ := readValueFrom_append whole true rest
  rw [readValue, same, readValueFrom_stops stops, List.append_nil, List.append_nil]
  rfl

/-! ### Bodies -/

/-- A statement is followed by a newline or by nothing. -/
def EndsLine (rest : List Lexeme) : Prop := ∀ lexeme ∈ rest.head?, lexeme.kind = .newline

/-- What may stand between the head of a block and its brace. -/
def Lexeme.IsLabel (lexeme : Lexeme) : Prop := lexeme.kind = .string ∨ lexeme.kind = .ident

instance (lexeme : Lexeme) : Decidable lexeme.IsLabel := inferInstanceAs (Decidable (_ ∨ _))

/-- The bodies of HCL, with the document each of them writes. -/
inductive Writes : Document → List Lexeme → Prop where
  | nil : Writes .empty []
  | newline {document newline rest} : newline.kind = .newline → Writes document rest →
      Writes document (newline :: rest)
  | argument {head equals value document rest} : head.kind = .ident → equals.isSymbol 61 = true →
      Expression value → (∀ first ∈ value.head?, first.isSymbol 61 = false) → EndsLine rest →
      Writes document rest →
      Writes ((Document.ofArgument ⟨head.value, valueOf value, literalsOf value⟩).append document)
        (head :: equals :: (value ++ rest))
  | block {head labels opening inner closing body document rest} : head.kind = .ident →
      (∀ label ∈ labels, label.IsLabel) → opening.kind = .lbrace → Writes body inner →
      closing.kind = .rbrace → EndsLine rest → Writes document rest →
      Writes ((Document.ofBlock
          ⟨head.value, labels.map Lexeme.value, body.blocks, body.arguments⟩).append document)
        (head :: (labels ++ opening :: (inner ++ closing :: rest)))

theorem EndsLine.stops_append {first rest : List Lexeme} (ends : EndsLine first) (stops : Stops rest) :
    Stops (first ++ rest) := by
  cases first with
  | nil => exact stops
  | cons lexeme first =>
      intro head isHead
      exact .inl (ends head isHead)

theorem Lexeme.not_isSymbol {lexeme : Lexeme} (other : lexeme.kind ≠ .symbol) (unit : UInt16) :
    lexeme.isSymbol unit = false := by
  rw [isSymbol, decide_eq_false other, Bool.false_and]

theorem Lexeme.kind_of_isSymbol {lexeme : Lexeme} {unit : UInt16} (isSymbol : lexeme.isSymbol unit = true) :
    lexeme.kind = .symbol := of_decide_eq_true (Bool.and_eq_true_iff.mp isSymbol).1

theorem Lexeme.significant_cons {lexeme : Lexeme} (plain : lexeme.kind ≠ .newline) (rest : List Lexeme) :
    significant (lexeme :: rest) = some (lexeme, rest) := by
  rw [significant, if_neg plain]

theorem Lexeme.argumentOpening_of_equals {equals : Lexeme} {value : List Lexeme}
    (isEquals : equals.isSymbol 61 = true) (once : ∀ first ∈ value.head?, first.isSymbol 61 = false) :
    argumentOpening (equals :: value) = some value := by
  have plain : equals.kind ≠ .newline := by
    rw [kind_of_isSymbol isEquals]
    decide
  have notTwice : (value.head?.any fun next => next.isSymbol 61) = false := by
    cases value with
    | nil => rfl
    | cons first value => exact once first rfl
  rw [argumentOpening, significant_cons plain]
  dsimp only
  rw [isEquals, notTwice]
  rfl

/-- What does not go on with a sign of equality is no argument. -/
theorem Lexeme.argumentOpening_eq_none {lexeme : Lexeme} (plain : lexeme.kind ≠ .newline)
    (other : lexeme.isSymbol 61 = false) (rest : List Lexeme) : argumentOpening (lexeme :: rest) = none := by
  rw [argumentOpening, significant_cons plain]
  dsimp only
  rw [other, Bool.false_and]
  rfl

theorem Lexeme.blockOpening_label {label : Lexeme} (isLabel : label.IsLabel) (rest : List Lexeme) :
    blockOpening (label :: rest) =
      (blockOpening rest).map fun (labels, body) => (label.value :: labels, body) := by
  rcases isLabel with isString | isIdent
  · rw [blockOpening, isString]
  · rw [blockOpening, isIdent]

theorem Lexeme.blockOpening_labels {labels : List Lexeme} (areLabels : ∀ label ∈ labels, label.IsLabel)
    {opening : Lexeme} (opens : opening.kind = .lbrace) (body : List Lexeme) :
    blockOpening (labels ++ opening :: body) = some (labels.map Lexeme.value, body) := by
  induction labels with
  | nil => rw [List.nil_append, blockOpening, opens, List.map_nil]
  | cons label labels ih =>
      rw [List.forall_mem_cons] at areLabels
      rw [List.cons_append, blockOpening_label areLabels.1, ih areLabels.2]
      rfl

theorem Lexeme.IsLabel.plain {lexeme : Lexeme} (isLabel : lexeme.IsLabel) :
    lexeme.kind ≠ .newline ∧ lexeme.kind ≠ .symbol := by
  rcases isLabel with isString | isIdent
  · rw [isString]
    decide
  · rw [isIdent]
    decide

theorem headingOf_argument {head equals : Lexeme} {value : List Lexeme} (isIdent : head.kind = .ident)
    (isEquals : equals.isSymbol 61 = true) (once : ∀ first ∈ value.head?, first.isSymbol 61 = false) :
    headingOf head (equals :: value) = .argument value := by
  rw [headingOf, if_pos isIdent, Lexeme.argumentOpening_of_equals isEquals once]

theorem headingOf_block {head opening : Lexeme} {labels : List Lexeme} (isIdent : head.kind = .ident)
    (areLabels : ∀ label ∈ labels, label.IsLabel) (opens : opening.kind = .lbrace) (body : List Lexeme) :
    headingOf head (labels ++ opening :: body) = .block (labels.map Lexeme.value) body := by
  have noArgument : Lexeme.argumentOpening (labels ++ opening :: body) = none := by
    cases labels with
    | nil =>
        exact Lexeme.argumentOpening_eq_none (by rw [opens]; decide)
          (Lexeme.not_isSymbol (by rw [opens]; decide) 61) body
    | cons label labels =>
        have isLabel := areLabels label List.mem_cons_self
        exact Lexeme.argumentOpening_eq_none isLabel.plain.1 (Lexeme.not_isSymbol isLabel.plain.2 61) _
  rw [headingOf, if_pos isIdent, noArgument, Lexeme.blockOpening_labels areLabels opens]

theorem readBody_ident {head : Lexeme} (isIdent : head.kind = .ident) (topLevel : Bool)
    (rest : List Lexeme) :
    readBody topLevel (head :: rest) =
      match headingOf head rest with
      | .argument value =>
          let read := readValue value
          let further := readBody topLevel read.2.2
          ((Document.ofArgument ⟨head.value, read.1, read.2.1⟩).append further.1, further.2)
      | .block labels inner =>
          let body := readBody false inner
          let further := readBody topLevel body.2
          ((Document.ofBlock ⟨head.value, labels, body.1.blocks, body.1.arguments⟩).append further.1,
            further.2)
      | .neither => readBody topLevel (passOver 0 (head :: rest)) := by
  have notComma : head.isSymbol 44 = false := Lexeme.not_isSymbol (by rw [isIdent]; decide) 44
  rw [readBody_cons, notComma, isIdent]
  rfl

/-- The reader gives back what was written, and goes on behind it. -/
theorem Writes.readBody {document : Document} {written : List Lexeme} (writes : Writes document written)
    (topLevel : Bool) {rest : List Lexeme} (stops : Stops rest) :
    readBody topLevel (written ++ rest) =
      (document.append (Terraform.readBody topLevel rest).1, (Terraform.readBody topLevel rest).2) := by
  induction writes generalizing topLevel rest with
  | nil => rfl
  | newline isNewline _ ih =>
      rw [List.cons_append, readBody_newline isNewline, ih topLevel stops]
  | @argument head equals value document behind isIdent isEquals whole once ends _ ih =>
      have further : Stops (behind ++ rest) := ends.stops_append stops
      have onceMore : ∀ first ∈ (value ++ (behind ++ rest)).head?, first.isSymbol 61 = false := by
        intro first isFirst
        cases value with
        | nil =>
            rcases further first isFirst with newline | closes
            · exact Lexeme.not_isSymbol (by rw [newline]; decide) 61
            · exact Lexeme.not_isSymbol (by rw [closes]; decide) 61
        | cons lexeme value => exact once first isFirst
      rw [List.cons_append, List.cons_append, List.append_assoc, readBody_ident isIdent,
        headingOf_argument isIdent isEquals onceMore]
      dsimp only
      rw [readValue_append whole further, ih topLevel stops, Document.append_assoc]
  | @block head labels opening inner closing body document behind isIdent areLabels opens _ closes ends _
      ihBody ih =>
      have innerStops : Stops (closing :: (behind ++ rest)) := by
        intro lexeme isHead
        cases isHead
        exact .inr closes
      have whole : head :: (labels ++ opening :: (inner ++ closing :: behind)) ++ rest =
          head :: (labels ++ opening :: (inner ++ closing :: (behind ++ rest))) := by simp
      rw [whole, readBody_ident isIdent, headingOf_block isIdent areLabels opens]
      dsimp only
      rw [ihBody false innerStops, readBody_closing closes, ih topLevel stops, Document.append_empty,
        Document.append_assoc]

theorem Writes.readBody_all {document : Document} {written : List Lexeme} (writes : Writes document written)
    (topLevel : Bool) : (Terraform.readBody topLevel written).1 = document := by
  have nothing : Stops [] := fun lexeme isHead => by cases isHead
  have read := writes.readBody topLevel nothing
  rw [List.append_nil] at read
  rw [read, readBody_nil, Document.append_empty]

end JumptotechLabs.Terraform
