/-
Module: JumptotechLabs.Terraform.HclStray
Layer: Terraform (services/lab-orchestrator/src/terraform/hcl.ts)
Purpose: A line that is no statement, put between the statements of a file. It is passed over, unless it is an
  identifier with nothing but labels behind it and a block comes next: the header of that block then goes on
  from the stray line.
Main exports: Writes.heading, StrayLine, HalfTyped, StartsBlock, Reports, stray_line_hides_nothing_iff
-/
import JumptotechLabs.Terraform.HclGrammar
import JumptotechLabs.Terraform.HclLines

namespace JumptotechLabs.Terraform

open JumptotechLabs.Core

/-! ### What a body starts with -/

/-- Lexemes that read as an argument. -/
def IsArgument (line : List Lexeme) : Prop :=
  ∃ head equals value, line = head :: equals :: value ∧ head.kind = .ident ∧ equals.isSymbol 61 = true ∧
    ∀ first ∈ value.head?, first.isSymbol 61 = false

/-- Lexemes that start with the header of a block. -/
def IsHeader (line : List Lexeme) : Prop :=
  ∃ head labels opening body, line = head :: (labels ++ opening :: body) ∧ head.kind = .ident ∧
    (∀ label ∈ labels, label.IsLabel) ∧ opening.kind = .lbrace

/-- An identifier with nothing but labels behind it. -/
def IsHalfTyped (line : List Lexeme) : Prop :=
  ∃ head labels, line = head :: labels ∧ head.kind = .ident ∧ ∀ label ∈ labels, label.IsLabel

/-- Lexemes without the newlines in front. -/
def withoutBreaks (written : List Lexeme) : List Lexeme :=
  written.dropWhile fun lexeme => lexeme.kind = .newline

theorem withoutBreaks_newline {newline : Lexeme} (isNewline : newline.kind = .newline)
    (rest : List Lexeme) : withoutBreaks (newline :: rest) = withoutBreaks rest := by
  simp [withoutBreaks, isNewline]

theorem withoutBreaks_plain {lexeme : Lexeme} (plain : lexeme.kind ≠ .newline) (rest : List Lexeme) :
    withoutBreaks (lexeme :: rest) = lexeme :: rest := by
  simp [withoutBreaks, plain]

/-- What the body of a document starts with behind its newlines: nothing, an argument or a block. -/
inductive Starts : Document → List Lexeme → Prop where
  | nothing : Starts .empty []
  | argument {head equals value argument document rest} : head.kind = .ident →
      equals.isSymbol 61 = true → Starts ((Document.ofArgument argument).append document)
        (head :: equals :: (value ++ rest))
  | block {head labels opening inner closing body document rest} : head.kind = .ident →
      (∀ label ∈ labels, label.IsLabel) → opening.kind = .lbrace → Writes body inner →
      closing.kind = .rbrace → EndsLine rest → Writes document rest →
      Starts ((Document.ofBlock
          ⟨head.value, labels.map Lexeme.value, body.blocks, body.arguments⟩).append document)
        (head :: (labels ++ opening :: (inner ++ closing :: rest)))

theorem Writes.starts {document : Document} {written : List Lexeme} (writes : Writes document written) :
    Starts document (withoutBreaks written) := by
  induction writes with
  | nil => exact .nothing
  | newline isNewline _ ih =>
      rw [withoutBreaks_newline isNewline]
      exact ih
  | argument isIdent isEquals _ _ _ _ _ =>
      rw [withoutBreaks_plain (by rw [isIdent]; decide)]
      exact .argument isIdent isEquals
  | block isIdent areLabels opens inner closes ends rest _ _ =>
      rw [withoutBreaks_plain (by rw [isIdent]; decide)]
      exact .block isIdent areLabels opens inner closes ends rest

theorem significant_withoutBreaks (rest : List Lexeme) :
    Lexeme.significant (withoutBreaks rest) = Lexeme.significant rest := by
  induction rest with
  | nil => rfl
  | cons lexeme rest ih =>
      by_cases newline : lexeme.kind = .newline
      · rw [withoutBreaks_newline newline, Lexeme.significant, if_pos newline]
        exact ih
      · rw [withoutBreaks_plain newline]

theorem blockOpening_withoutBreaks (rest : List Lexeme) :
    Lexeme.blockOpening (withoutBreaks rest) = Lexeme.blockOpening rest := by
  induction rest with
  | nil => rfl
  | cons lexeme rest ih =>
      by_cases newline : lexeme.kind = .newline
      · rw [withoutBreaks_newline newline, Lexeme.blockOpening, newline]
        exact ih
      · rw [withoutBreaks_plain newline]

theorem argumentOpening_withoutBreaks (rest : List Lexeme) :
    Lexeme.argumentOpening (withoutBreaks rest) = Lexeme.argumentOpening rest := by
  rw [Lexeme.argumentOpening, Lexeme.argumentOpening, significant_withoutBreaks]

/-- What follows a stray identifier is no sign of equality. -/
theorem Starts.argumentOpening {document : Document} {rest : List Lexeme}
    (starts : Starts document (withoutBreaks rest)) : Lexeme.argumentOpening rest = none := by
  rw [← argumentOpening_withoutBreaks]
  have ident {head : Lexeme} (isIdent : head.kind = .ident) (more : List Lexeme) :
      Lexeme.argumentOpening (head :: more) = none := by
    rw [Lexeme.argumentOpening, Lexeme.significant_cons (by rw [isIdent]; decide)]
    dsimp only
    rw [Lexeme.not_isSymbol (by rw [isIdent]; decide) 61]
    rfl
  generalize withoutBreaks rest = behind at starts
  cases starts with
  | nothing => rfl
  | argument isIdent _ => exact ident isIdent _
  | block isIdent _ _ _ _ _ _ => exact ident isIdent _

/-- What follows goes on as a header where it is one, and not otherwise. -/
theorem Starts.blockOpening {document : Document} {rest : List Lexeme}
    (starts : Starts document (withoutBreaks rest)) (noHeader : ¬ IsHeader (withoutBreaks rest)) :
    Lexeme.blockOpening rest = none := by
  rw [← blockOpening_withoutBreaks]
  generalize withoutBreaks rest = behind at starts noHeader
  cases starts with
  | nothing => rfl
  | argument isIdent isEquals =>
      rw [Lexeme.blockOpening_label (.inr isIdent), Lexeme.blockOpening, Lexeme.kind_of_isSymbol isEquals]
      rfl
  | block isIdent areLabels opens _ _ _ _ =>
      exact absurd ⟨_, _, _, _, rfl, isIdent, areLabels, opens⟩ noHeader

theorem not_isHeader_argument {head equals : Lexeme} {rest : List Lexeme}
    (isEquals : equals.isSymbol 61 = true) : ¬ IsHeader (head :: equals :: rest) := by
  have kind := Lexeme.kind_of_isSymbol isEquals
  rintro ⟨head', labels, opening, body, same, -, areLabels, opens⟩
  cases labels with
  | nil =>
      cases same
      rw [kind] at opens
      cases opens
  | cons label labels =>
      cases same
      exact (areLabels equals List.mem_cons_self).plain.2 kind

/-! ### Stray lines -/

/-- The depth of braces behind a lexeme; none where it closes what was not opened. -/
def Lexeme.braced (depth : Nat) (lexeme : Lexeme) : Option Nat :=
  if lexeme.kind = .lbrace then some (depth + 1)
  else if lexeme.kind = .rbrace then if depth = 0 then none else some (depth - 1)
  else some depth

/-- The lexemes of a line, its newline aside. -/
def lineLexemes (line : Utf16) : List Lexeme := (lexemes (line ++ [10])).dropLast

/-- The lexemes of a line behind the commas it starts with, which part statements. -/
def statementOf (line : Utf16) : List Lexeme := (lineLexemes line).dropWhile fun lexeme => lexeme.isSymbol 44

/-- A whole line, its quotes closed and its braces balanced, that is neither an argument nor the header of a
    block. -/
structure StrayLine (line : Utf16) : Prop where
  closed : Closed (line ++ [10])
  oneLine : ∀ lexeme ∈ lineLexemes line, lexeme.kind ≠ .newline
  balanced : (lineLexemes line).foldlM Lexeme.braced 0 = some 0
  noArgument : ¬ IsArgument (statementOf line)
  noHeader : ¬ IsHeader (statementOf line)

/-- A line that is an identifier, a keyword of a block perhaps, and nothing but labels. -/
def HalfTyped (line : Utf16) : Prop := IsHalfTyped (statementOf line)

/-- A text that starts with a block, behind empty lines and comments. -/
def StartsBlock (text : Utf16) : Prop := IsHeader (withoutBreaks (lexemes text))

theorem passOver_append {depth : Nat} {line : List Lexeme} (oneLine : ∀ lexeme ∈ line, lexeme.kind ≠ .newline)
    (balanced : line.foldlM Lexeme.braced depth = some 0) {newline : Lexeme}
    (isNewline : newline.kind = .newline) (rest : List Lexeme) :
    passOver depth (line ++ newline :: rest) = rest := by
  induction line generalizing depth with
  | nil =>
      cases balanced
      rw [List.nil_append, passOver, if_pos ⟨isNewline, rfl⟩]
  | cons lexeme line ih =>
      rw [List.forall_mem_cons] at oneLine
      rw [List.foldlM_cons] at balanced
      obtain ⟨next, here, balanced⟩ := Option.bind_eq_some_iff.mp balanced
      have onward := ih oneLine.2 balanced
      rw [Lexeme.braced] at here
      rw [List.cons_append, passOver, if_neg (fun newline => oneLine.1 newline.1)]
      split at here
      · rename_i opens
        cases here
        rw [if_pos opens, onward]
      · rename_i noOpening
        rw [if_neg noOpening]
        split at here
        · rename_i closes
          obtain ⟨inside, same⟩ := Option.ite_none_left_eq_some.mp here
          cases same
          rw [if_pos closes, if_neg inside, onward]
        · rename_i noClosing
          cases here
          rw [if_neg noClosing, onward]

/-- Labels that no brace follows open nothing. -/
theorem blockOpening_line {line : List Lexeme} (oneLine : ∀ lexeme ∈ line, lexeme.kind ≠ .newline)
    {newline : Lexeme} (isNewline : newline.kind = .newline) (rest : List Lexeme) :
    ((∀ label ∈ line, label.IsLabel) ∧
        Lexeme.blockOpening (line ++ newline :: rest) =
          (Lexeme.blockOpening rest).map fun (labels, body) => (line.map Lexeme.value ++ labels, body)) ∨
      (∃ labels opening body, line = labels ++ opening :: body ∧ (∀ label ∈ labels, label.IsLabel) ∧
        opening.kind = .lbrace) ∨
      ((¬ ∀ label ∈ line, label.IsLabel) ∧ Lexeme.blockOpening (line ++ newline :: rest) = none) := by
  induction line with
  | nil =>
      refine .inl ⟨fun label inside => (by cases inside), ?_⟩
      rw [List.nil_append, Lexeme.blockOpening, isNewline]
      cases Lexeme.blockOpening rest <;> rfl
  | cons lexeme line ih =>
      rw [List.forall_mem_cons] at oneLine
      by_cases isLabel : lexeme.IsLabel
      · rw [List.cons_append, Lexeme.blockOpening_label isLabel]
        rcases ih oneLine.2 with ⟨areLabels, same⟩ | ⟨labels, opening, body, rfl, areLabels, opens⟩ |
          ⟨notAll, none⟩
        · refine .inl ⟨List.forall_mem_cons.mpr ⟨isLabel, areLabels⟩, ?_⟩
          rw [same, Option.map_map]
          rfl
        · exact .inr (.inl ⟨lexeme :: labels, opening, body, rfl,
            List.forall_mem_cons.mpr ⟨isLabel, areLabels⟩, opens⟩)
        · refine .inr (.inr ⟨fun all => notAll (List.forall_mem_cons.mp all).2, ?_⟩)
          rw [none]
          rfl
      · by_cases opens : lexeme.kind = .lbrace
        · exact .inr (.inl ⟨[], lexeme, line, rfl, fun label inside => (by cases inside), opens⟩)
        · refine .inr (.inr ⟨fun all => isLabel (List.forall_mem_cons.mp all).1, ?_⟩)
          rw [List.cons_append, Lexeme.blockOpening]
          cases isKind : lexeme.kind with
          | newline => exact absurd isKind oneLine.1
          | lbrace => exact absurd isKind opens
          | string => exact absurd (.inl isKind) isLabel
          | ident => exact absurd (.inr isKind) isLabel
          | number | rbrace | symbol => rfl

theorem readBody_withoutCommas (topLevel : Bool) (line rest : List Lexeme) :
    readBody topLevel (line ++ rest) =
      readBody topLevel (line.dropWhile (fun lexeme => lexeme.isSymbol 44) ++ rest) := by
  induction line with
  | nil => rfl
  | cons lexeme line ih =>
      rw [List.dropWhile_cons]
      split
      · rename_i comma
        rw [List.cons_append, readBody_comma comma, ih]
      · rfl

theorem StrayLine.statement {line : Utf16} (stray : StrayLine line) :
    (∀ lexeme ∈ statementOf line, lexeme.kind ≠ .newline) ∧
      (statementOf line).foldlM Lexeme.braced 0 = some 0 := by
  refine ⟨fun lexeme inside => stray.oneLine lexeme ((List.dropWhile_sublist _).subset inside), ?_⟩
  have balanced := stray.balanced
  rw [statementOf]
  generalize lineLexemes line = written at balanced
  induction written with
  | nil => exact balanced
  | cons lexeme written ih =>
      rw [List.dropWhile_cons]
      split
      · rename_i comma
        have kind := Lexeme.kind_of_isSymbol comma
        have flat : Lexeme.braced 0 lexeme = some 0 := by
          rw [Lexeme.braced, kind]
          rfl
        rw [List.foldlM_cons, flat] at balanced
        exact ih balanced
      · exact balanced

/-- A statement that is not recognised is passed over, and the body is read on behind its line. -/
theorem readBody_unrecognised {head newline : Lexeme} {line rest : List Lexeme}
    (oneLine : ∀ lexeme ∈ head :: line, lexeme.kind ≠ .newline)
    (balanced : (head :: line).foldlM Lexeme.braced 0 = some 0) (noComma : head.isSymbol 44 = false)
    (isNewline : newline.kind = .newline) (neither : headingOf head (line ++ newline :: rest) = .neither) :
    readBody true (head :: (line ++ newline :: rest)) = readBody true rest := by
  have inside : head.kind ≠ .rbrace := by
    intro closes
    rw [List.foldlM_cons, Lexeme.braced, closes] at balanced
    cases balanced
  have visible : decide (head.kind = .newline) = false := decide_eq_false (oneLine head List.mem_cons_self)
  rw [readBody_cons, visible, noComma, if_neg (by decide), if_neg inside, neither]
  dsimp only
  rw [← List.cons_append, passOver_append oneLine balanced isNewline]

/-- What is read behind a stray line: the same, or the block that it takes over has more labels. -/
theorem StrayLine.readBody {line : Utf16} (stray : StrayLine line) {document : Document}
    {written : List Lexeme} (writes : Writes document written) {newline : Lexeme}
    (isNewline : newline.kind = .newline) :
    (HalfTyped line ∧ IsHeader (withoutBreaks written) ∧
        ∃ block other rest, document = (Document.ofBlock block).append rest ∧
          (Terraform.readBody true (lineLexemes line ++ newline :: written)).1 =
            (Document.ofBlock other).append rest ∧ block.labels.length < other.labels.length) ∨
      (¬ (HalfTyped line ∧ IsHeader (withoutBreaks written)) ∧
        (Terraform.readBody true (lineLexemes line ++ newline :: written)).1 = document) := by
  have starts := writes.starts
  obtain ⟨oneLine, balanced⟩ := stray.statement
  have noComma : ∀ head ∈ (statementOf line).head?, head.isSymbol 44 = false := by
    intro head isHead
    have notComma := List.head?_dropWhile_not (fun lexeme : Lexeme => lexeme.isSymbol 44) (lineLexemes line)
    rw [statementOf] at isHead
    rw [isHead] at notComma
    simpa using notComma
  have noArgument := stray.noArgument
  have noHeader := stray.noHeader
  rw [HalfTyped, readBody_withoutCommas, ← statementOf]
  cases statement : statementOf line with
  | nil =>
      refine .inr ⟨?_, ?_⟩
      · rintro ⟨⟨head, labels, same, -⟩, -⟩
        cases same
      · rw [List.nil_append, readBody_newline isNewline, writes.readBody_all]
  | cons head rest =>
      rw [statement] at oneLine balanced noComma noArgument noHeader
      have passed (neither : headingOf head (rest ++ newline :: written) = .neither) :
          (Terraform.readBody true (head :: rest ++ newline :: written)).1 = document := by
        rw [List.cons_append, readBody_unrecognised oneLine balanced (noComma head rfl) isNewline neither,
          writes.readBody_all]
      by_cases isIdent : head.kind = .ident
      · have noOpening : Lexeme.argumentOpening (rest ++ newline :: written) = none := by
          cases rest with
          | nil =>
              have skipped := starts.argumentOpening
              rw [Lexeme.argumentOpening, List.nil_append, Lexeme.significant, if_pos isNewline]
              exact skipped
          | cons next rest =>
              have plain := oneLine next (List.mem_cons_of_mem _ List.mem_cons_self)
              by_cases equals : next.isSymbol 61 = true
              · -- A second sign makes a comparison of it; without one the line is an argument.
                rw [List.cons_append, Lexeme.argumentOpening, Lexeme.significant_cons plain]
                dsimp only
                have twice : ((rest ++ newline :: written).head?.any fun after => after.isSymbol 61) = true := by
                  by_contra once
                  rw [Bool.not_eq_true] at once
                  refine noArgument ⟨head, next, rest, rfl, isIdent, equals, fun first isFirst => ?_⟩
                  obtain ⟨more, rfl⟩ := List.head?_eq_some_iff.mp isFirst
                  exact once
                rw [twice, Bool.not_true, Bool.and_false]
                rfl
              · exact Lexeme.argumentOpening_eq_none plain (by simpa using equals) _
        rcases blockOpening_line (fun lexeme inside => oneLine lexeme (List.mem_cons_of_mem _ inside))
          isNewline written with ⟨areLabels, same⟩ | ⟨labels, opening, body, rfl, areLabels, opens⟩ |
          ⟨notAll, none⟩
        · by_cases header : IsHeader (withoutBreaks written)
          · refine .inl ⟨⟨head, rest, rfl, isIdent, areLabels⟩, header, ?_⟩
            have opening := blockOpening_withoutBreaks written
            generalize withoutBreaks written = behind at starts header opening
            cases starts with
            | nothing =>
                obtain ⟨_, _, _, _, nothing, -⟩ := header
                cases nothing
            | argument _ isEquals => exact absurd header (not_isHeader_argument isEquals)
            | @block next labels opening inner closing body document more isNext areLabels' opens inside closes
                ends writesMore =>
                have stops : Stops (closing :: more) := by
                  intro lexeme isHead
                  cases isHead
                  exact .inr closes
                rw [Lexeme.blockOpening_label (.inr isNext), Lexeme.blockOpening_labels areLabels' opens] at opening
                refine ⟨_, ⟨head.value, rest.map Lexeme.value ++ next.value :: labels.map Lexeme.value,
                  body.blocks, body.arguments⟩, document, rfl, ?_, ?_⟩
                · rw [List.cons_append, readBody_ident isIdent, headingOf, if_pos isIdent, noOpening, same,
                    ← opening]
                  dsimp only [Option.map_some]
                  rw [inside.readBody false stops, readBody_closing closes, Document.append_empty,
                    writesMore.readBody_all]
                · simp only [List.length_append, List.length_cons]
                  omega
          · refine .inr ⟨fun both => header both.2, passed ?_⟩
            rw [headingOf, if_pos isIdent, noOpening, same, starts.blockOpening header]
            rfl
        · exact absurd ⟨head, labels, opening, body, rfl, isIdent, areLabels, opens⟩ noHeader
        · refine .inr ⟨?_, passed ?_⟩
          · rintro ⟨⟨head', labels, isLine, -, areLabels⟩, -⟩
            cases isLine
            exact notAll areLabels
          · rw [headingOf, if_pos isIdent, noOpening, none]
      · refine .inr ⟨?_, passed (by rw [headingOf, if_neg isIdent])⟩
        rintro ⟨⟨head', labels, isLine, isIdent', -⟩, -⟩
        cases isLine
        exact isIdent isIdent'

/-! ### Documents with a stray line -/

/-- The second document holds every block and every argument of the first, in their order. -/
structure Reports (original scanned : Document) : Prop where
  blocks : original.blocks.Sublist scanned.blocks
  arguments : original.arguments.Sublist scanned.arguments

theorem Reports.refl (document : Document) : Reports document document :=
  ⟨List.Sublist.refl _, List.Sublist.refl _⟩

theorem Reports.of_empty_iff (document : Document) : Reports document .empty ↔ document = .empty := by
  constructor
  · rintro ⟨blocks, arguments⟩
    obtain ⟨_, _⟩ := document
    cases List.sublist_nil.mp blocks
    cases List.sublist_nil.mp arguments
    rfl
  · rintro rfl
    exact Reports.refl _

/-- A block in the place of another one is not the same block. -/
theorem not_reports_of_replaced (front : Document) {block other : Block} (rest : Document)
    (differ : block.labels.length < other.labels.length) :
    ¬ Reports (front.append ((Document.ofBlock block).append rest))
        (front.append ((Document.ofBlock other).append rest)) := by
  rintro ⟨blocks, -⟩
  have same := blocks.eq_of_length (by simp [Document.append, Document.ofBlock])
  simp only [Document.append, Document.ofBlock, List.append_cancel_left_eq, List.cons_append,
    List.cons.injEq] at same
  rw [same.1] at differ
  exact lt_irrefl _ differ

/-- A body that is well formed. -/
def WellFormed (written : List Lexeme) : Prop := ∃ document, Writes document written

/-- Whole lines at the start of a file: closed, and well formed. -/
def WholeLines (front : Utf16) : Prop := front = [] ∨ (Closed front ∧ WellFormed (lexemes front).dropLast)

/-- A file in which there is nothing to report. -/
def Bare (text : Utf16) : Prop := ∀ lexeme ∈ lexemes text, lexeme.kind = .newline

theorem Writes.bare_iff {document : Document} {written : List Lexeme} (writes : Writes document written) :
    (∀ lexeme ∈ written, lexeme.kind = .newline) ↔ document = .empty := by
  induction writes with
  | nil => exact ⟨fun _ => rfl, fun _ lexeme inside => by cases inside⟩
  | newline isNewline _ ih => rw [List.forall_mem_cons, ih, and_iff_right isNewline]
  | argument isIdent _ _ _ _ _ _ =>
      constructor
      · intro bare
        have newline := bare _ List.mem_cons_self
        rw [isIdent] at newline
        cases newline
      · intro same
        cases congrArg Document.arguments same
  | block isIdent _ _ _ _ _ _ _ _ =>
      constructor
      · intro bare
        have newline := bare _ List.mem_cons_self
        rw [isIdent] at newline
        cases newline
      · intro same
        cases congrArg Document.blocks same

/-- The lexemes of a closed line or of closed lines, and those of what follows. -/
theorem Closed.lexemes {lines : Utf16} (closed : Closed lines) :
    ∃ newline : Lexeme, newline.kind = .newline ∧ ∀ behind, Terraform.lexemes (lines ++ behind) =
      (Terraform.lexemes lines).dropLast ++ newline :: Terraform.lexemes behind := by
  obtain ⟨-, written, newline, isNewline, same⟩ := closed.lexemesFrom false
  have alone : Terraform.lexemes lines = written ++ [newline] := by
    have read := same []
    rw [List.append_nil] at read
    exact read
  exact ⟨newline, isNewline, fun behind => by rw [alone, List.dropLast_concat]; exact same behind⟩

/-- Whole lines are read as a document of their own, in front of what follows. -/
theorem WholeLines.readBody {front : Utf16} (whole : WholeLines front) :
    ∃ document : Document, (∀ behind, (Terraform.readBody true (lexemes (front ++ behind))).1 =
        document.append (Terraform.readBody true (lexemes behind)).1) ∧
      ∀ behind, Bare (front ++ behind) ↔ document = Document.empty ∧ Bare behind := by
  rcases whole with rfl | ⟨closed, document, writes⟩
  · exact ⟨Document.empty, fun behind => rfl, fun behind => by simp⟩
  · obtain ⟨newline, isNewline, same⟩ := closed.lexemes
    refine ⟨document, fun behind => ?_, fun behind => ?_⟩
    · rw [same, writes.readBody true (fun lexeme isHead => by cases isHead; exact .inl isNewline),
        readBody_newline isNewline]
    · rw [Bare, same, List.forall_mem_append, List.forall_mem_cons, writes.bare_iff, Bare,
        and_iff_right isNewline]

/-- A stray line at top level hides nothing of a well-formed file exactly where it does not take over the
    header of a block behind it, and the scanner does not give the file up for its length. -/
theorem stray_line_hides_nothing_iff (front line behind : Utf16) (file : Option Utf16)
    (lines : WholeLines front) (rest : WellFormed (lexemes behind)) (stray : StrayLine line) :
    Reports (scanHcl (front ++ behind) file).shape
        (scanHcl (front ++ (line ++ 10 :: behind)) file).shape ↔
      ((front ++ (line ++ 10 :: behind)).length ≤ maxInputBytes ∧ ¬ (HalfTyped line ∧ StartsBlock behind)) ∨
        maxInputBytes < (front ++ behind).length ∨ Bare (front ++ behind) := by
  obtain ⟨before, readFront, bareFront⟩ := lines.readBody
  obtain ⟨document, writes⟩ := rest
  obtain ⟨newline, isNewline, same⟩ := stray.closed.lexemes
  have readLine : lexemes (line ++ 10 :: behind) = lineLexemes line ++ newline :: lexemes behind := by
    rw [lineLexemes, ← same, List.append_assoc]
    rfl
  have longer : (front ++ behind).length ≤ (front ++ (line ++ 10 :: behind)).length := by
    simp only [List.length_append, List.length_cons]
    omega
  have isBare : Bare (front ++ behind) ↔ before.append document = .empty := by
    rw [bareFront, Bare, writes.bare_iff]
    constructor
    · rintro ⟨rfl, rfl⟩
      rfl
    · intro nothing
      obtain ⟨blocks, arguments⟩ := Document.mk.inj nothing
      obtain ⟨noBlocks, noBlocks'⟩ := List.append_eq_nil_iff.mp blocks
      obtain ⟨noArguments, noArguments'⟩ := List.append_eq_nil_iff.mp arguments
      obtain ⟨_, _⟩ := before
      obtain ⟨_, _⟩ := document
      cases noBlocks
      cases noBlocks'
      cases noArguments
      cases noArguments'
      exact ⟨rfl, rfl⟩
  rw [shape_scanHcl, shape_scanHcl, readText, readText, readFront, readFront, readLine, writes.readBody_all,
    isBare]
  by_cases tooLong : maxInputBytes < (front ++ behind).length
  · rw [if_pos tooLong, if_pos (tooLong.trans_le longer)]
    exact ⟨fun _ => .inr (.inl tooLong), fun _ => Reports.refl _⟩
  · rw [if_neg tooLong]
    by_cases grown : maxInputBytes < (front ++ (line ++ 10 :: behind)).length
    · rw [if_pos grown, Reports.of_empty_iff]
      exact ⟨fun nothing => .inr (.inr nothing), fun holds => by
        rcases holds with ⟨fits, -⟩ | tooLong' | nothing
        · exact absurd grown (Nat.not_lt.mpr fits)
        · exact absurd tooLong' tooLong
        · exact nothing⟩
    · rw [if_neg grown]
      rcases stray.readBody writes isNewline with ⟨half, header, block, other, more, isBlock, taken, differ⟩ |
        ⟨notBoth, kept⟩
      · rw [taken, isBlock]
        refine ⟨fun reports => absurd reports (not_reports_of_replaced before more differ), fun holds => ?_⟩
        rcases holds with ⟨-, notBoth⟩ | tooLong' | nothing
        · exact absurd ⟨half, header⟩ notBoth
        · exact absurd tooLong' tooLong
        · have present := congrArg (fun document => document.blocks.length) nothing
          simp [Document.append, Document.ofBlock, Document.empty] at present
      · rw [kept]
        exact ⟨fun _ => .inl ⟨Nat.not_lt.mp grown, notBoth⟩, fun _ => Reports.refl _⟩

/-- A file of one block. -/
def resourceFile : Utf16 := units "resource \"a\" \x7b\n\x7d\n"

/-- A lexeme that stands first or behind a gap. -/
def lexemeOf (kind : TokenKind) (text : String) : Lexeme := ⟨kind, units text, units text, false⟩

theorem lexemes_resourceFile :
    lexemes resourceFile =
      [lexemeOf .ident "resource", ⟨.string, units "a", units "\"a\"", false⟩, lexemeOf .lbrace "\x7b",
        ⟨.newline, [10], [10], true⟩, lexemeOf .rbrace "\x7d", ⟨.newline, [10], [10], true⟩] := by
  decide +kernel

theorem wellFormed_resourceFile : WellFormed (lexemes resourceFile) := by
  rw [lexemes_resourceFile]
  have labels : ∀ label ∈ [(⟨.string, units "a", units "\"a\"", false⟩ : Lexeme)], label.IsLabel := by
    decide
  have inner : Writes .empty [(⟨.newline, [10], [10], true⟩ : Lexeme)] := .newline rfl .nil
  have rest : Writes .empty [(⟨.newline, [10], [10], true⟩ : Lexeme)] := .newline rfl .nil
  have ends : EndsLine [(⟨.newline, [10], [10], true⟩ : Lexeme)] := by
    intro lexeme isHead
    cases isHead
    rfl
  exact ⟨_, .block rfl labels rfl inner rfl ends rest⟩

theorem not_isArgument_singleton (head : Lexeme) : ¬ IsArgument [head] := by
  rintro ⟨_, _, _, same, -⟩
  cases same

theorem not_isHeader_singleton (head : Lexeme) : ¬ IsHeader [head] := by
  rintro ⟨_, labels, _, _, same, -⟩
  cases labels <;> cases same

/-- A line of one identifier or of one number is a stray line. -/
theorem strayLine_of_lexeme {line : Utf16} {head : Lexeme} (closed : Closed (line ++ [10]))
    (isLine : lineLexemes line = [head]) (plain : head.kind = .ident ∨ head.kind = .number) :
    StrayLine line := by
  have visible : head.kind ≠ .newline ∧ head.kind ≠ .lbrace ∧ head.kind ≠ .rbrace ∧ head.kind ≠ .symbol := by
    rcases plain with isIdent | isNumber
    · rw [isIdent]
      decide
    · rw [isNumber]
      decide
  have statement : statementOf line = [head] := by
    rw [statementOf, isLine, List.dropWhile_cons, Lexeme.not_isSymbol visible.2.2.2 44]
    rfl
  refine ⟨closed, ?_, ?_, ?_, ?_⟩
  · rw [isLine]
    intro lexeme inside
    cases List.mem_singleton.mp inside
    exact visible.1
  · rw [isLine, List.foldlM_cons, Lexeme.braced, if_neg visible.2.1, if_neg visible.2.2.1]
    rfl
  · rw [statement]
    exact not_isArgument_singleton head
  · rw [statement]
    exact not_isHeader_singleton head

/-- A half-typed `resourc` in front of the block takes it over: no block of the file has its labels. -/
theorem stray_line_takes_header :
    WholeLines [] ∧ WellFormed (lexemes resourceFile) ∧ StrayLine (units "resourc") ∧
      ¬ Reports (scanHcl ([] ++ resourceFile) none).shape
        (scanHcl ([] ++ (units "resourc" ++ 10 :: resourceFile)) none).shape := by
  refine ⟨.inl rfl, wellFormed_resourceFile, ?_, ?_⟩
  · exact strayLine_of_lexeme (by decide +kernel)
      (by decide +kernel : lineLexemes _ = [lexemeOf .ident "resourc"]) (.inl rfl)
  · intro reports
    have labels := reports.blocks.map Block.labels
    revert labels
    decide +kernel

/-- Behind the number, the block is reported as it was. -/
theorem stray_line_hides_nothing_number :
    Reports (scanHcl ([] ++ resourceFile) none).shape
        (scanHcl ([] ++ (units "12" ++ 10 :: resourceFile)) none).shape ↔
      (([] ++ (units "12" ++ 10 :: resourceFile)).length ≤ maxInputBytes ∧
          ¬ (HalfTyped (units "12") ∧ StartsBlock resourceFile)) ∨
        maxInputBytes < ([] ++ resourceFile).length ∨ Bare ([] ++ resourceFile) :=
  stray_line_hides_nothing_iff [] (units "12") resourceFile none (.inl rfl) wellFormed_resourceFile
    (strayLine_of_lexeme (by decide +kernel) (by decide +kernel : lineLexemes _ = [lexemeOf .number "12"]) (.inr rfl))

end JumptotechLabs.Terraform
