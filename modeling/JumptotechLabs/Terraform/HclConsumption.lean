/-
Module: JumptotechLabs.Terraform.HclConsumption
Layer: Terraform (services/lab-orchestrator/src/terraform/hcl.ts)
Purpose: What becomes of every token. Each loop of the parser takes a run of the tokens in front and leaves the
  rest; put together, the tokens of any text are the tokens of the segments it was read as, in their order, and
  what is reported is what the segments stand for. How far a segment goes is said of the tokens alone: an
  expression and a skipped statement run to the first token that ends them outside brackets, and a statement is
  skipped only where its head opens no argument and no block.
Main exports: Segment, segmentTokens, RunsUntil, Segment.Valid, AllValid, documentOf, Placed, parseBody_segments,
  parseBody_congr,
  scan_consumes_every_token_once
-/
import JumptotechLabs.Terraform.HclLexemes
import Mathlib.Algebra.GroupWithZero.Nat

namespace JumptotechLabs.Terraform

open JumptotechLabs.Core
open JumptotechLabs.Core.Utf16 (trim)

/-! ### Segments -/

/-- What a run of tokens was taken as. -/
inductive Segment where
  /-- A newline or a comma between statements. -/
  | separator (token : HclToken)
  /-- A closing brace at top level, which is dropped. -/
  | closer (token : HclToken)
  /-- A head, newlines, the sign, and the tokens of the expression. -/
  | argument (head : HclToken) (breaks : List HclToken) (equals : HclToken) (value : List HclToken)
  /-- A header up to its brace, the segments of the body, and its closing brace where the text has one. -/
  | block (head : HclToken) (between : List HclToken) (opening : HclToken) (body : List Segment)
      (terminator : Option HclToken)
  /-- A statement that was skipped, with the newline that ends it where there is one. -/
  | skipped (head : HclToken) (more : List HclToken) (newline : Option HclToken)

/-- The labels among the tokens of a header. -/
def labelsOf (between : List HclToken) : List Utf16 :=
  (between.filter fun token => token.kind != .newline).map HclToken.value

mutual

/-- The tokens that a segment takes, in their order. -/
def Segment.tokens : Segment → List HclToken
  | .separator token => [token]
  | .closer token => [token]
  | .argument head breaks equals value => head :: (breaks ++ equals :: value)
  | .block head between opening body terminator =>
      head :: (between ++ opening :: (segmentTokens body ++ terminator.toList))
  | .skipped head more newline => head :: (more ++ newline.toList)

/-- The tokens of a row of segments. -/
def segmentTokens : List Segment → List HclToken
  | [] => []
  | segment :: more => segment.tokens ++ segmentTokens more

end

/-- A run of items that ends where it should, by a state that is carried over them: none of its items ends it,
    and the item behind it does, if there is one. -/
structure RunsUntil {State Item : Type} (next : State → Item → State) (ends : State → Item → Bool) (state : State)
    (taken behind : List Item) : Prop where
  inside : ∀ before item after, taken = before ++ item :: after → ends (before.foldl next state) item = false
  ended : ∀ item ∈ behind.head?, ends (taken.foldl next state) item = true

namespace RunsUntil

variable {State Item : Type} {next : State → Item → State} {ends : State → Item → Bool} {state : State}

/-- An empty run, in front of an item that ends it or of nothing. -/
theorem nil {behind : List Item} (ended : ∀ item ∈ behind.head?, ends state item = true) :
    RunsUntil next ends state [] behind :=
  ⟨fun before item after isNil => (by cases before <;> cases isNil), ended⟩

/-- An item that does not end a run, in front of one. -/
theorem cons {item : Item} {taken behind : List Item} (goesOn : ends state item = false)
    (runs : RunsUntil next ends (next state item) taken behind) :
    RunsUntil next ends state (item :: taken) behind where
  inside := by
    intro before other after isRun
    cases before with
    | nil =>
        cases isRun
        exact goesOn
    | cons first before =>
        cases isRun
        exact runs.inside before other after rfl
  ended := runs.ended

end RunsUntil

/-- The braces that are open behind a token. -/
def openBraces (depth : Nat) (token : HclToken) : Nat :=
  if token.kind = .lbrace then depth + 1 else if token.kind = .rbrace then depth - 1 else depth

/-- The brackets of any kind that are open behind a token. -/
def openBrackets (depth : Nat) (token : HclToken) : Nat :=
  if token.kind = .lbrace || token.isSymbol 91 || token.isSymbol 40 then depth + 1
  else if token.kind = .rbrace || token.isSymbol 93 || token.isSymbol 41 then depth - 1
  else depth

/-- A skipped statement ends at a newline or a closing brace outside braces. -/
def endsStatement (depth : Nat) (token : HclToken) : Bool :=
  decide (depth = 0) && (token.kind = .newline || token.kind = .rbrace)

/-- An expression ends at a newline, a closing brace or a comma outside brackets. -/
def endsExpression (depth : Nat) (token : HclToken) : Bool :=
  decide (depth = 0) && (token.kind = .newline || token.kind = .rbrace || token.isSymbol 44)

/-- Newlines and the sign of an argument, in front of tokens that do not make it a comparison. -/
structure ArgumentSign (breaks : List HclToken) (equals : HclToken) (value : List HclToken) : Prop where
  areNewlines : ∀ token ∈ breaks, token.kind = .newline
  isEquals : equals.isSymbol 61 = true
  assigns : ∀ next ∈ value.head?, next.isSymbol 61 = false

/-- The labels of a block, with newlines among them, and its opening brace. -/
structure BlockHeader (between : List HclToken) (opening : HclToken) : Prop where
  areLabels : ∀ token ∈ between, token.kind = .newline ∨ token.kind = .string ∨ token.kind = .ident
  opens : opening.kind = .lbrace

/-- Behind a head, these tokens go on as an argument. -/
def OpensArgument (tokens : List HclToken) : Prop :=
  ∃ breaks equals value, tokens = breaks ++ equals :: value ∧ ArgumentSign breaks equals value

/-- Behind a head, these tokens go on as a block. -/
def OpensBlock (tokens : List HclToken) : Prop :=
  ∃ between opening body, tokens = between ++ opening :: body ∧ BlockHeader between opening

mutual

/-- What a segment is made of, at top level or in a block, in front of the tokens behind it. -/
inductive Segment.Valid : Bool → Segment → List HclToken → Prop where
  | separator {topLevel token behind} : (token.kind = .newline ∨ token.isSymbol 44 = true) →
      Segment.Valid topLevel (.separator token) behind
  | closer {token behind} : token.kind = .rbrace → Segment.Valid true (.closer token) behind
  | argument {topLevel head breaks equals value behind} : head.kind = .ident →
      ArgumentSign breaks equals (value ++ behind) → RunsUntil openBrackets endsExpression 0 value behind →
      Segment.Valid topLevel (.argument head breaks equals value) behind
  | block {topLevel head between opening body terminator behind} : head.kind = .ident →
      BlockHeader between opening → AllValid false body (terminator.toList ++ behind) →
      (∀ token ∈ terminator, token.kind = .rbrace) → (terminator = none → behind = []) →
      Segment.Valid topLevel (.block head between opening body terminator) behind
  -- No separator, no closer and no head of an argument or a block; and no further than to the end of the line,
  -- or to the brace that closes the block around it.
  | skipped {topLevel head more newline behind} : head.isSymbol 44 = false →
      (head.kind = .ident → ¬ OpensArgument (more ++ (newline.toList ++ behind)) ∧
        ¬ OpensBlock (more ++ (newline.toList ++ behind))) →
      RunsUntil openBraces endsStatement 0 (head :: more) (newline.toList ++ behind) →
      (∀ token ∈ newline, token.kind = .newline) →
      (newline = none → ∀ token ∈ behind.head?, token.kind = .rbrace) →
      Segment.Valid topLevel (.skipped head more newline) behind

/-- Segments behind one another, the last in front of the tokens behind all of them. -/
inductive AllValid : Bool → List Segment → List HclToken → Prop where
  | nil {topLevel behind} : AllValid topLevel [] behind
  | cons {topLevel segment more behind} : Segment.Valid topLevel segment (segmentTokens more ++ behind) →
      AllValid topLevel more behind → AllValid topLevel (segment :: more) behind

end

section Documents

variable (source : Utf16) (file : Option Utf16)

/-- The argument a head and the tokens of its expression stand for. -/
def argumentOf (head : HclToken) (value : List HclToken) : HclArgument :=
  ⟨head.value, (readExpression source value).1, (readExpression source value).2.1, head.line⟩

def HclDocument.append (first second : HclDocument) : HclDocument :=
  ⟨first.blocks ++ second.blocks, first.arguments ++ second.arguments⟩

mutual

/-- What a segment stands for: one argument, one block with what its body stands for, or nothing. -/
def Segment.document : Segment → HclDocument
  | .separator _ => ⟨[], []⟩
  | .closer _ => ⟨[], []⟩
  | .argument head _ _ value => ⟨[], [argumentOf source head value]⟩
  | .block head between _ body _ =>
      ⟨[⟨head.value, labelsOf between, (documentOf body).blocks, (documentOf body).arguments, head.line, file⟩], []⟩
  | .skipped _ _ _ => ⟨[], []⟩

/-- The document of the segments, in order. -/
def documentOf : List Segment → HclDocument
  | [] => ⟨[], []⟩
  | segment :: more => segment.document.append (documentOf more)

end

end Documents

/-! ### What each loop takes -/

theorem peekSignificant_spec {tokens behind : List HclToken} {token : HclToken}
    (found : peekSignificant tokens = some (token, behind)) :
    ∃ breaks, tokens = breaks ++ token :: behind ∧ (∀ between ∈ breaks, between.kind = .newline) ∧
      token.kind ≠ .newline := by
  induction tokens with
  | nil => cases found
  | cons head tokens ih =>
      rw [peekSignificant] at found
      split at found
      · rename_i newline
        obtain ⟨breaks, rfl, areNewlines, plain⟩ := ih found
        exact ⟨head :: breaks, rfl, List.forall_mem_cons.mpr ⟨newline, areNewlines⟩, plain⟩
      · rename_i plain
        cases found
        exact ⟨[], rfl, fun between inside => (by cases inside), plain⟩

/-- Tokens that are no newline are found behind newlines. -/
theorem peekSignificant_append {breaks : List HclToken} (areNewlines : ∀ between ∈ breaks, between.kind = .newline)
    {token : HclToken} (plain : token.kind ≠ .newline) (behind : List HclToken) :
    peekSignificant (breaks ++ token :: behind) = some (token, behind) := by
  induction breaks with
  | nil => rw [List.nil_append, peekSignificant, if_neg plain]
  | cons newline breaks ih =>
      obtain ⟨isNewline, others⟩ := List.forall_mem_cons.mp areNewlines
      rw [List.cons_append, peekSignificant, if_pos isNewline, ih others]

theorem argumentOpening_spec {tokens value : List HclToken} (found : argumentOpening tokens = some value) :
    ∃ breaks equals, tokens = breaks ++ equals :: value ∧ ArgumentSign breaks equals value := by
  rw [argumentOpening] at found
  split at found
  · cases found
  · rename_i after behind next
    split at found
    · rename_i isEquals
      cases found
      obtain ⟨breaks, isTokens, areNewlines, -⟩ := peekSignificant_spec next
      obtain ⟨isSign, noComparison⟩ := Bool.and_eq_true_iff.mp isEquals
      refine ⟨breaks, after, isTokens, areNewlines, isSign, fun next isNext => ?_⟩
      rw [Option.mem_def.mp isNext, Option.any_some, Bool.not_eq_true'] at noComparison
      exact noComparison
    · cases found

/-- Where no argument is found, none is opened. -/
theorem not_opensArgument {tokens : List HclToken} (none : argumentOpening tokens = none) :
    ¬ OpensArgument tokens := by
  rintro ⟨breaks, equals, value, rfl, areNewlines, isEquals, assigns⟩
  have plain : equals.kind ≠ .newline := by
    intro isNewline
    rw [HclToken.isSymbol, isNewline] at isEquals
    cases isEquals
  rw [argumentOpening, peekSignificant_append areNewlines plain] at none
  dsimp only at none
  cases head : value.head? with
  | none => simp [isEquals, head] at none
  | some next => simp [isEquals, head, assigns next head] at none

theorem blockOpening_spec {tokens body : List HclToken} {labels : List Utf16}
    (found : blockOpening tokens = some (labels, body)) :
    ∃ between opening, tokens = between ++ opening :: body ∧ BlockHeader between opening ∧
      labels = labelsOf between := by
  induction tokens generalizing labels with
  | nil => cases found
  | cons upcoming tokens ih =>
      rw [blockOpening] at found
      cases isKind : upcoming.kind with
      | newline =>
          rw [isKind] at found
          obtain ⟨between, opening, rfl, ⟨all, opens⟩, rfl⟩ := ih found
          refine ⟨upcoming :: between, opening, rfl, ⟨List.forall_mem_cons.mpr ⟨.inl isKind, all⟩, opens⟩, ?_⟩
          rw [labelsOf, labelsOf, List.filter_cons, isKind]
          rfl
      | lbrace =>
          rw [isKind] at found
          cases found
          exact ⟨[], upcoming, rfl, ⟨fun token inside => (by cases inside), isKind⟩, rfl⟩
      | string | ident =>
          rw [isKind] at found
          obtain ⟨⟨more, left⟩, inner, same⟩ := Option.map_eq_some_iff.mp found
          cases same
          obtain ⟨between, opening, rfl, ⟨all, opens⟩, rfl⟩ := ih inner
          refine ⟨upcoming :: between, opening, rfl, ⟨List.forall_mem_cons.mpr ⟨by simp [isKind], all⟩, opens⟩, ?_⟩
          rw [labelsOf, labelsOf, List.filter_cons, isKind]
          rfl
      | number | rbrace | symbol =>
          rw [isKind] at found
          cases found

/-- Where no block is found, none is opened. -/
theorem not_opensBlock {tokens : List HclToken} (none : blockOpening tokens = none) : ¬ OpensBlock tokens := by
  rintro ⟨between, opening, body, rfl, areLabels, opens⟩
  induction between with
  | nil =>
      rw [List.nil_append, blockOpening, opens] at none
      cases none
  | cons label between ih =>
      obtain ⟨isLabel, others⟩ := List.forall_mem_cons.mp areLabels
      rw [List.cons_append, blockOpening] at none
      rcases isLabel with isKind | isKind | isKind
      · rw [isKind] at none
        exact ih none others
      · rw [isKind] at none
        exact ih (Option.map_eq_none_iff.mp none) others
      · rw [isKind] at none
        exact ih (Option.map_eq_none_iff.mp none) others

theorem isSymbol_iff {token : HclToken} {unit : UInt16} :
    token.isSymbol unit = true ↔ token.kind = .symbol ∧ token.value = [unit] := by
  simp [HclToken.isSymbol]

/-- A token is no two symbols. -/
theorem isSymbol_unique {token : HclToken} {unit other : UInt16} (isUnit : token.isSymbol unit = true)
    (different : unit ≠ other) : token.isSymbol other = false := by
  rw [Bool.eq_false_iff]
  intro isOther
  have same := (isSymbol_iff.mp isUnit).2.symm.trans (isSymbol_iff.mp isOther).2
  exact different (List.cons.inj same).1

/-- What the loop over an expression makes of its depth, at a token that is no newline and closes no block. -/
theorem openBrackets_of_ne {token : HclToken} (closes : token.kind ≠ .rbrace) (depth : Nat) :
    (if token.isSymbol 93 || token.isSymbol 41 then
      (if token.kind = .lbrace || token.isSymbol 91 || token.isSymbol 40 then depth + 1 else depth) - 1
      else if token.kind = .lbrace || token.isSymbol 91 || token.isSymbol 40 then depth + 1 else depth) =
        openBrackets depth token := by
  by_cases opens : (decide (token.kind = .lbrace) || token.isSymbol 91 || token.isSymbol 40) = true
  · have noCloser : (token.isSymbol 93 || token.isSymbol 41) = false := by
      rw [Bool.or_eq_true_iff, Bool.or_eq_true_iff, decide_eq_true_eq] at opens
      rw [Bool.or_eq_false_iff]
      rcases opens with (isBrace | isSquare) | isRound
      · simp [HclToken.isSymbol, isBrace]
      · exact ⟨isSymbol_unique isSquare (by decide), isSymbol_unique isSquare (by decide)⟩
      · exact ⟨isSymbol_unique isRound (by decide), isSymbol_unique isRound (by decide)⟩
    rw [openBrackets, if_pos opens, if_pos opens, noCloser]
    rfl
  · rw [openBrackets, if_neg opens, if_neg opens, decide_eq_false closes, Bool.false_or]

theorem openBrackets_newline {token : HclToken} (newline : token.kind = .newline) (depth : Nat) :
    openBrackets depth token = depth := by
  simp [openBrackets, HclToken.isSymbol, newline]

theorem openBrackets_rbrace {token : HclToken} (closes : token.kind = .rbrace) (depth : Nat) :
    openBrackets depth token = depth - 1 := by
  simp [openBrackets, HclToken.isSymbol, closes]

theorem openBrackets_comma {token : HclToken} (isComma : token.isSymbol 44 = true) (depth : Nat) :
    openBrackets depth token = depth := by
  obtain ⟨isSymbol, isUnit⟩ := isSymbol_iff.mp isComma
  simp [openBrackets, HclToken.isSymbol, isSymbol, isUnit]

/-- Inside brackets nothing ends an expression. -/
theorem endsExpression_of_ne {depth : Nat} (inside : depth ≠ 0) (token : HclToken) :
    endsExpression depth token = false := by
  rw [endsExpression, decide_eq_false inside, Bool.false_and]

theorem endsStatement_of_ne {depth : Nat} (inside : depth ≠ 0) (token : HclToken) :
    endsStatement depth token = false := by
  rw [endsStatement, decide_eq_false inside, Bool.false_and]

/-- An expression is the run of the tokens in front up to what ends it, and is read the same without what
    follows it. -/
theorem readExpressionFrom_spec (source : Utf16) (depth : Nat) (last : Option Nat) (tokens : List HclToken) :
    ∃ taken, tokens = taken ++ (readExpressionFrom source depth last tokens).rest ∧
      RunsUntil openBrackets endsExpression depth taken (readExpressionFrom source depth last tokens).rest ∧
      readExpressionFrom source depth last taken =
        ⟨(readExpressionFrom source depth last tokens).pieces,
          (readExpressionFrom source depth last tokens).literals, []⟩ := by
  induction tokens generalizing depth last with
  | nil => exact ⟨[], rfl, .nil fun item none => (by cases none), rfl⟩
  | cons token tokens ih =>
      have stopped (ends : endsExpression depth token = true) : ∃ taken, token :: tokens = taken ++ (token :: tokens) ∧
          RunsUntil openBrackets endsExpression depth taken (token :: tokens) ∧
          readExpressionFrom source depth last taken = ⟨[], [], []⟩ :=
        ⟨[], rfl, .nil fun item same => Option.some.inj same ▸ ends, rfl⟩
      rw [readExpressionFrom]
      by_cases newline : token.kind = .newline
      · rw [if_pos newline]
        split
        · rename_i outside
          exact stopped (by simp [endsExpression, outside, newline])
        · rename_i inner
          obtain ⟨taken, isTokens, runs, again⟩ := ih depth last
          refine ⟨token :: taken, by rw [List.cons_append, ← isTokens], ?_, ?_⟩
          · exact .cons (endsExpression_of_ne inner token) ((openBrackets_newline newline depth).symm ▸ runs)
          · rw [readExpressionFrom, if_pos newline, if_neg inner, again]
      · rw [if_neg newline]
        by_cases closes : token.kind = .rbrace
        · rw [if_pos closes]
          split
          · rename_i outside
            exact stopped (by simp [endsExpression, outside, closes])
          · rename_i inner
            obtain ⟨taken, isTokens, runs, again⟩ := ih (depth - 1) (some token.stop)
            refine ⟨token :: taken, ?_, ?_, ?_⟩
            · rw [ExpressionRead.behind, List.cons_append, ← isTokens]
            · exact .cons (endsExpression_of_ne inner token) ((openBrackets_rbrace closes depth).symm ▸ runs)
            · rw [readExpressionFrom, if_neg newline, if_pos closes, if_neg inner, again]
              rfl
        · rw [if_neg closes]
          dsimp only
          rw [openBrackets_of_ne closes]
          split
          · rename_i ends
            obtain ⟨isComma, outside⟩ := Bool.and_eq_true_iff.mp ends
            rw [openBrackets_comma isComma, beq_iff_eq] at outside
            exact stopped (by simp [endsExpression, outside, isComma])
          · rename_i goesOn
            obtain ⟨taken, isTokens, runs, again⟩ := ih (openBrackets depth token) (some token.stop)
            refine ⟨token :: taken, ?_, ?_, ?_⟩
            · rw [ExpressionRead.behind, List.cons_append, ← isTokens]
            · refine .cons ?_ runs
              -- A comma leaves the depth as it is.
              by_cases isComma : token.isSymbol 44 = true
              · rw [isComma, openBrackets_comma isComma, Bool.true_and, beq_iff_eq] at goesOn
                exact endsExpression_of_ne goesOn token
              · simp [endsExpression, newline, closes, isComma]
            · rw [readExpressionFrom, if_neg newline, if_neg closes]
              dsimp only
              rw [openBrackets_of_ne closes, if_neg goesOn, again]
              rfl

theorem readExpression_spec (source : Utf16) (tokens : List HclToken) :
    ∃ taken, tokens = taken ++ (readExpression source tokens).2.2 ∧
      RunsUntil openBrackets endsExpression 0 taken (readExpression source tokens).2.2 ∧
      (readExpression source taken).1 = (readExpression source tokens).1 ∧
      (readExpression source taken).2.1 = (readExpression source tokens).2.1 := by
  obtain ⟨taken, isTokens, runs, again⟩ := readExpressionFrom_spec source 0 none tokens
  refine ⟨taken, isTokens, runs, ?_, ?_⟩
  · rw [readExpression, again]
    rfl
  · rw [readExpression, again]
    rfl

/-- A skipped statement is the run of the tokens in front up to what ends it, and the newline if that is one. -/
theorem skipStatement_spec (depth : Nat) (tokens : List HclToken) :
    ∃ taken newline, tokens = taken ++ (Option.toList newline ++ skipStatement depth tokens) ∧
      RunsUntil openBraces endsStatement depth taken (newline.toList ++ skipStatement depth tokens) ∧
      (∀ token ∈ newline, token.kind = .newline) ∧
      (newline = none → ∀ token ∈ (skipStatement depth tokens).head?, token.kind = .rbrace) := by
  induction tokens generalizing depth with
  | nil => exact ⟨[], none, rfl, .nil fun _ none => (by cases none), fun _ none => (by cases none),
      fun _ _ none => by cases none⟩
  | cons token tokens ih =>
      have onward {next : Nat} (goesOn : endsStatement depth token = false) (isNext : openBraces depth token = next) :
          ∃ taken newline, token :: tokens = taken ++ (Option.toList newline ++ skipStatement next tokens) ∧
            RunsUntil openBraces endsStatement depth taken (newline.toList ++ skipStatement next tokens) ∧
            (∀ token ∈ newline, token.kind = .newline) ∧
            (newline = none → ∀ token ∈ (skipStatement next tokens).head?, token.kind = .rbrace) := by
        obtain ⟨taken, newline, isTokens, runs, isNewline, atBrace⟩ := ih next
        exact ⟨token :: taken, newline, by rw [List.cons_append, ← isTokens], .cons goesOn (isNext ▸ runs),
          isNewline, atBrace⟩
      rw [skipStatement]
      split
      · rename_i ends
        refine ⟨[], some token, rfl, .nil fun item same => ?_, ?_, fun none => by cases none⟩
        · cases same
          simp [endsStatement, ends.1, ends.2]
        · exact fun item same => Option.some.inj same ▸ ends.1
      · rename_i inLine
        split
        · rename_i opens
          exact onward (by simp [endsStatement, opens]) (by simp [openBraces, opens])
        · rename_i noOpener
          split
          · rename_i closes
            split
            · rename_i outside
              refine ⟨[], none, rfl, .nil fun item same => ?_, fun item none => (by cases none), fun _ item same => ?_⟩
              · cases same
                simp [endsStatement, outside, closes]
              · exact Option.some.inj same ▸ closes
            · rename_i inside
              exact onward (endsStatement_of_ne inside token) (by simp [openBraces, closes])
          · rename_i noCloser
            refine onward ?_ (by simp [openBraces, noOpener, noCloser])
            by_cases newline : token.kind = .newline
            · exact endsStatement_of_ne (fun outside => inLine ⟨newline, outside⟩) token
            · simp [endsStatement, newline, noCloser]

/-- A skipped statement is a token or more, where that neither ends a statement nor closes a block. -/
theorem skipStatement_cons_spec {token : HclToken} (plain : token.kind ≠ .newline) (inside : token.kind ≠ .rbrace)
    (tokens : List HclToken) :
    ∃ more newline, tokens = more ++ (Option.toList newline ++ skipStatement 0 (token :: tokens)) ∧
      RunsUntil openBraces endsStatement 0 (token :: more) (newline.toList ++ skipStatement 0 (token :: tokens)) ∧
      (∀ token ∈ newline, token.kind = .newline) ∧
      (newline = none → ∀ other ∈ (skipStatement 0 (token :: tokens)).head?, other.kind = .rbrace) := by
  obtain ⟨taken, newline, isTokens, runs, isNewline, atBrace⟩ := skipStatement_spec 0 (token :: tokens)
  cases taken with
  | cons first more =>
      obtain ⟨rfl, isMore⟩ := List.cons.inj isTokens
      exact ⟨more, newline, isMore, runs, isNewline, atBrace⟩
  | nil =>
      have ends : endsStatement 0 token = true := runs.ended token (by rw [← List.nil_append (_ ++ _), ← isTokens]; rfl)
      simp [endsStatement, plain, inside] at ends

/-! ### The parser -/

theorem tryStatement_spec {head : HclToken} {tokens : List HclToken} :
    (∀ value, tryStatement head tokens = .argument value → head.kind = .ident ∧
        argumentOpening tokens = some value) ∧
      ∀ labels body, tryStatement head tokens = .block labels body → head.kind = .ident ∧
        blockOpening tokens = some (labels, body) := by
  rw [tryStatement]
  split
  · rename_i isIdent
    split
    · rename_i value found
      exact ⟨fun _ same => by cases same; exact ⟨isIdent, found⟩, fun _ _ same => by cases same⟩
    · split
      · rename_i labels body found
        exact ⟨fun _ same => (by cases same), fun _ _ same => by cases same; exact ⟨isIdent, found⟩⟩
      · exact ⟨fun _ same => (by cases same), fun _ _ same => by cases same⟩
  · exact ⟨fun _ same => (by cases same), fun _ _ same => by cases same⟩

/-- Where no statement is recognised, the head opens none. -/
theorem tryStatement_neither {head : HclToken} {tokens : List HclToken}
    (neither : tryStatement head tokens = .neither) (isIdent : head.kind = .ident) :
    ¬ OpensArgument tokens ∧ ¬ OpensBlock tokens := by
  rw [tryStatement, if_pos isIdent] at neither
  split at neither
  · cases neither
  · rename_i noArgument
    split at neither
    · cases neither
    · rename_i noBlock
      exact ⟨not_opensArgument noArgument, not_opensBlock noBlock⟩

/-- What the parser makes of a body: the tokens of its segments, and in a block the brace behind them. -/
structure Placed (source : Utf16) (file : Option Utf16) (topLevel : Bool) (tokens : List HclToken)
    (read : HclDocument × List HclToken) (segments : List Segment) (terminator : Option HclToken) : Prop where
  tokens : tokens = segmentTokens segments ++ (terminator.toList ++ read.2)
  valid : AllValid topLevel segments (terminator.toList ++ read.2)
  document : read.1 = documentOf source file segments
  closing : ∀ token ∈ terminator, topLevel = false ∧ token.kind = .rbrace
  ended : terminator = none → read.2 = []

section Parser

variable {source : Utf16} {file : Option Utf16} {topLevel : Bool}

theorem Placed.nil : Placed source file topLevel [] (⟨[], []⟩, []) [] none :=
  ⟨rfl, .nil, rfl, fun token inside => (by cases inside), fun _ => rfl⟩

/-- A segment in front of what the parser makes of the rest. -/
theorem Placed.cons {segment : Segment} {tokens rest : List HclToken} {read : HclDocument × List HclToken}
    {segments : List Segment} {terminator : Option HclToken} (valid : segment.Valid topLevel rest)
    (placed : Placed source file topLevel rest read segments terminator)
    (isTokens : tokens = segment.tokens ++ rest) {document : HclDocument}
    (isDocument : document = (segment.document source file).append read.1) :
    Placed source file topLevel tokens (document, read.2) (segment :: segments) terminator where
  tokens := by rw [isTokens, segmentTokens, List.append_assoc, ← placed.tokens]
  valid := .cons (placed.tokens ▸ valid) placed.valid
  document := by rw [isDocument, documentOf, placed.document]
  closing := placed.closing
  ended := placed.ended

theorem Placed.length_le {tokens : List HclToken} {read : HclDocument × List HclToken} {segments : List Segment}
    {terminator : Option HclToken} (placed : Placed source file topLevel tokens read segments terminator) :
    read.2.length ≤ tokens.length := by
  have length := congrArg List.length placed.tokens
  simp only [List.length_append] at length
  omega

/-- Every token goes to one segment, and what is reported is what the segments stand for. -/
theorem parseBody_segments (source : Utf16) (file : Option Utf16) {fuel : Nat} (topLevel : Bool)
    {tokens : List HclToken} (enough : tokens.length ≤ fuel) :
    ∃ segments terminator,
      Placed source file topLevel tokens (parseBody source file fuel topLevel tokens) segments terminator := by
  induction fuel generalizing topLevel tokens with
  | zero =>
      cases List.eq_nil_of_length_eq_zero (Nat.le_zero.mp enough)
      exact ⟨[], none, .nil⟩
  | succ fuel ih =>
      cases tokens with
      | nil => exact ⟨[], none, .nil⟩
      | cons token tokens =>
          rw [List.length_cons] at enough
          rw [parseBody]
          by_cases separates : (decide (token.kind = .newline) || token.isSymbol 44) = true
          · rw [if_pos separates]
            obtain ⟨segments, terminator, placed⟩ := ih topLevel (by omega : tokens.length ≤ fuel)
            have valid : (Segment.separator token).Valid topLevel tokens := .separator (by simpa using separates)
            exact ⟨_, terminator, placed.cons valid rfl rfl⟩
          rw [if_neg separates]
          by_cases closes : token.kind = .rbrace
          · rw [if_pos closes]
            cases topLevel with
            | true =>
                obtain ⟨segments, terminator, placed⟩ := ih true (by omega : tokens.length ≤ fuel)
                exact ⟨_, terminator, placed.cons (.closer closes) rfl rfl⟩
            | false =>
                refine ⟨[], some token, rfl, .nil, rfl, ?_, fun none => by cases none⟩
                intro terminator isTerminator
                cases isTerminator
                exact ⟨rfl, closes⟩
          rw [if_neg closes]
          cases statement : tryStatement token tokens with
          | argument value =>
              obtain ⟨isIdent, opening⟩ := tryStatement_spec.1 value statement
              obtain ⟨breaks, equals, rfl, sign⟩ := argumentOpening_spec opening
              obtain ⟨taken, isValue, runs, text, literals⟩ := readExpression_spec source value
              have shorter := congrArg List.length isValue
              simp only [List.length_append, List.length_cons] at shorter enough
              obtain ⟨segments, terminator, placed⟩ :=
                ih topLevel (by omega : (readExpression source value).2.2.length ≤ fuel)
              have valid : (Segment.argument token breaks equals taken).Valid topLevel
                  (readExpression source value).2.2 := .argument isIdent (isValue ▸ sign) runs
              refine ⟨_, terminator, placed.cons valid ?_ ?_⟩
              · rw [Segment.tokens, List.cons_append, List.append_assoc, List.cons_append, ← isValue]
              · rw [Segment.document, argumentOf, text, literals]
                rfl
          | block labels inner =>
              obtain ⟨isIdent, opening⟩ := tryStatement_spec.2 labels inner statement
              obtain ⟨between, brace, rfl, header, rfl⟩ := blockOpening_spec opening
              simp only [List.length_append, List.length_cons] at enough
              obtain ⟨body, closing, placedBody⟩ := ih false (by omega : inner.length ≤ fuel)
              have shorter := placedBody.length_le
              obtain ⟨segments, terminator, placed⟩ :=
                ih topLevel (by omega : (parseBody source file fuel false inner).2.length ≤ fuel)
              have closed : ∀ token ∈ closing, token.kind = .rbrace :=
                fun token isClosing => (placedBody.closing token isClosing).2
              refine ⟨_, terminator,
                placed.cons (.block isIdent header placedBody.valid closed placedBody.ended) ?_ ?_⟩
              · have isBody := placedBody.tokens
                simp only [Segment.tokens, List.cons_append, List.append_assoc]
                rw [← isBody]
              · rw [Segment.document, ← placedBody.document]
                rfl
          | neither =>
              have notSeparator : token.kind ≠ .newline ∧ token.isSymbol 44 = false := by simpa using separates
              obtain ⟨more, newline, isTokens, runs, isNewline, atBrace⟩ :=
                skipStatement_cons_spec notSeparator.1 closes tokens
              have shorter := congrArg List.length isTokens
              simp only [List.length_append] at shorter
              obtain ⟨segments, terminator, placed⟩ :=
                ih topLevel (by omega : (skipStatement 0 (token :: tokens)).length ≤ fuel)
              have opensNeither := tryStatement_neither statement
              rw [isTokens] at opensNeither
              refine ⟨_, terminator,
                placed.cons (.skipped notSeparator.2 opensNeither runs isNewline atBrace) ?_ rfl⟩
              rw [Segment.tokens, List.cons_append, List.append_assoc, ← isTokens]

/-- Fuel for the number of tokens is enough. -/
theorem parseBody_congr {fuel other : Nat} (topLevel : Bool) {tokens : List HclToken}
    (enough : tokens.length ≤ fuel) (also : tokens.length ≤ other) :
    parseBody source file fuel topLevel tokens = parseBody source file other topLevel tokens := by
  induction fuel generalizing other topLevel tokens with
  | zero =>
      cases List.eq_nil_of_length_eq_zero (Nat.le_zero.mp enough)
      cases other <;> rfl
  | succ fuel ih =>
      cases tokens with
      | nil => cases other <;> rfl
      | cons token tokens =>
          rw [List.length_cons] at enough also
          obtain ⟨other, rfl⟩ : ∃ n, other = n + 1 := ⟨other - 1, by omega⟩
          have again (topLevel : Bool) {behind : List HclToken} (shorter : behind.length ≤ tokens.length) :
              parseBody source file fuel topLevel behind = parseBody source file other topLevel behind :=
            ih topLevel (by omega) (by omega)
          rw [parseBody, parseBody, again topLevel (le_refl _)]
          by_cases separates : (decide (token.kind = .newline) || token.isSymbol 44) = true
          · rw [if_pos separates, if_pos separates]
          rw [if_neg separates, if_neg separates]
          by_cases closes : token.kind = .rbrace
          · rw [if_pos closes, if_pos closes]
          rw [if_neg closes, if_neg closes]
          cases statement : tryStatement token tokens with
          | argument value =>
              obtain ⟨breaks, equals, rfl, -⟩ := argumentOpening_spec (tryStatement_spec.1 value statement).2
              obtain ⟨taken, isValue, -, -, -⟩ := readExpression_spec source value
              have shorter := congrArg List.length isValue
              have behind : (readExpression source value).2.2.length ≤ (breaks ++ equals :: value).length := by
                simp only [List.length_append, List.length_cons] at shorter ⊢
                omega
              dsimp only
              rw [again topLevel behind]
          | block labels inner =>
              obtain ⟨between, brace, rfl, -, -⟩ := blockOpening_spec (tryStatement_spec.2 labels inner statement).2
              have inside : inner.length ≤ (between ++ brace :: inner).length := by
                simp only [List.length_append, List.length_cons]
                omega
              obtain ⟨body, closing, placed⟩ := parseBody_segments source file false (by omega : inner.length ≤ other)
              dsimp only
              rw [again false inside, again topLevel (placed.length_le.trans inside)]
          | neither =>
              have plain : token.kind ≠ .newline := fun newline => separates (by simp [newline])
              obtain ⟨more, newline, isTokens, -⟩ := skipStatement_cons_spec plain closes tokens
              have shorter := congrArg List.length isTokens
              simp only [List.length_append] at shorter
              dsimp only
              rw [again topLevel (by omega : (skipStatement 0 (token :: tokens)).length ≤ tokens.length)]

end Parser

/-! ### The lexer -/

/-- The rounds of a text go to its end. -/
theorem length_le_widths (text : Utf16) : text.length ≤ ((rounds text).map HclRound.width).sum := by
  generalize size : text.length = bound
  induction bound using Nat.strong_induction_on generalizing text with
  | _ bound ih =>
      cases text with
      | nil => exact size ▸ Nat.zero_le _
      | cons ch rest =>
          have shorter := length_drop_round ch rest
          rw [List.length_cons] at size
          have onward := ih _ (by omega) ((ch :: rest).drop (nextRound ch rest).width) rfl
          rw [rounds_cons, List.map_cons, List.sum_cons]
          rw [List.length_drop, List.length_cons] at onward
          omega

theorem rounds_width_pos (text : Utf16) : ∀ round ∈ rounds text, 0 < round.width := by
  generalize size : text.length = bound
  induction bound using Nat.strong_induction_on generalizing text with
  | _ bound ih =>
      cases text with
      | nil => exact fun round inside => by cases inside
      | cons ch rest =>
          have shorter := length_drop_round ch rest
          rw [List.length_cons] at size
          rw [rounds_cons, List.forall_mem_cons]
          exact ⟨nextRound_width_pos ch rest, ih _ (by omega) _ rfl⟩

/-- Tokens lie behind one another. -/
theorem tokensOf_ordered (index line : Nat) (found : List HclRound) :
    (tokensOf index line found).Pairwise (fun first second => first.stop ≤ second.start) ∧
      ∀ token ∈ tokensOf index line found, index ≤ token.start := by
  induction found generalizing index line with
  | nil => exact ⟨.nil, fun token inside => by cases inside⟩
  | cons round more ih =>
      obtain ⟨ordered, ahead⟩ := ih (index + round.width) (line + round.newlines)
      have further : ∀ token ∈ tokensOf (index + round.width) (line + round.newlines) more,
          index ≤ token.start :=
        fun token inside => (Nat.le_add_right _ _).trans (ahead token inside)
      rw [tokensOf]
      cases round.piece with
      | token kind value =>
          exact ⟨.cons ahead ordered, List.forall_mem_cons.mpr ⟨le_refl _, further⟩⟩
      | comment => exact ⟨ordered, further⟩
      | gap => exact ⟨ordered, further⟩

/-- Of any text whatsoever: lexing ends at the end of the text, every round having gone on, and its tokens
    lie behind one another; parsing ends with no token left, and the tokens are those of the segments they
    were taken as, one behind the other, which is also the order of the blocks and arguments reported. No token
    is hidden in a segment that is not its own: an expression ends where it should, and what is skipped opens
    neither an argument nor a block and ends with its line. -/
theorem scan_consumes_every_token_once (text : Utf16) (file : Option Utf16) :
    (∀ more, roundsFrom (text.length + more) text = rounds text) ∧
      (∀ round ∈ rounds text, 0 < round.width) ∧
      text.length ≤ ((rounds text).map HclRound.width).sum ∧
      match tokenize text with
      | none => scanHcl text file = ⟨[], []⟩
      | some (tokens, comments) =>
          let source := withoutComments text comments
          let name := file.filter (· ≠ [])
          tokens.Pairwise (fun first second => first.stop ≤ second.start) ∧
            (∀ more, parseBody source name (tokens.length + more) true tokens =
              parseBody source name tokens.length true tokens) ∧
            (parseBody source name tokens.length true tokens).2 = [] ∧
            ∃ segments : List Segment, AllValid true segments [] ∧
              segmentTokens segments = tokens ∧ scanHcl text file = documentOf source name segments := by
  have enough (more : Nat) : text.length ≤ text.length + more := Nat.le_add_right _ _
  refine ⟨fun more => roundsFrom_congr (enough more) (le_refl _), ?_, length_le_widths text, ?_⟩
  · exact fun round inside => rounds_width_pos text round inside
  · cases found : tokenize text with
    | none => rw [scanHcl, found]
    | some both =>
        obtain ⟨tokens, comments⟩ := both
        obtain ⟨segments, terminator, placed⟩ := parseBody_segments (withoutComments text comments)
          (file.filter (· ≠ [])) true (le_refl tokens.length)
        have noTerminator : terminator = none := by
          cases terminator with
          | none => rfl
          | some token => cases (placed.closing token rfl).1
        have nothing := placed.ended noTerminator
        have all := placed.tokens
        have valid := placed.valid
        rw [noTerminator, nothing, Option.toList_none, List.append_nil, List.append_nil] at all
        rw [noTerminator, nothing, Option.toList_none, List.append_nil] at valid
        refine ⟨?_, fun more => parseBody_congr true (Nat.le_add_right _ _) (le_refl _), nothing, segments,
          valid, all.symm, ?_⟩
        · rw [tokenize] at found
          split at found
          · cases found
          · cases found
            exact (tokensOf_ordered 0 1 (rounds text)).1
        · rw [scanHcl, found]
          exact placed.document

/-- A file that closes more than it opens and opens more than it closes: an argument over two lines, and a block
    with a comparison, which is skipped, and a block in it. -/
def unbalancedFile : Utf16 := units "\x7d a = [\n1,]\nb \"c\" \x7b\n  d == 2\n  e \x7b\n    f = 4"

/-- What is read of `unbalancedFile`. -/
def unbalancedDocument : HclDocument :=
  ⟨[⟨units "b", [units "c"], [⟨units "e", [], [], [⟨units "f", units "4", [], 6⟩], 5, none⟩], [], 3, none⟩],
    [⟨units "a", units "[ 1,]", [], 1⟩]⟩

theorem scan_consumes_every_token_once_unbalanced :
    ∃ segments tokens comments, tokenize unbalancedFile = some (tokens, comments) ∧ AllValid true segments [] ∧
      segmentTokens segments = tokens ∧
      documentOf (withoutComments unbalancedFile comments) none segments = unbalancedDocument := by
  have read : scanHcl unbalancedFile none = unbalancedDocument := by rfl
  have consumed := (scan_consumes_every_token_once unbalancedFile none).2.2.2
  cases found : tokenize unbalancedFile with
  | none =>
      rw [found] at consumed
      cases read.symm.trans consumed
  | some both =>
      obtain ⟨tokens, comments⟩ := both
      rw [found] at consumed
      obtain ⟨-, -, -, segments, valid, all, isDocument⟩ := consumed
      exact ⟨segments, tokens, comments, rfl, valid, all, isDocument.symm.trans read⟩

end JumptotechLabs.Terraform
