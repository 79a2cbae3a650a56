/-
Module: JumptotechLabs.Terraform.HclLexemes
Layer: Terraform (services/lab-orchestrator/src/terraform/hcl.ts)
Purpose: The scanner without places. A lexeme is a token that knows its own text and whether it touches the
  token before it, and a reader over lexemes gives blocks and arguments without lines. The scanner's result,
  its lines forgotten, is what the reader makes of the lexemes of the text.
Main exports: rounds_cons, Lexeme, lexemes, Document, readBody, Spells, shape_scanHcl
-/
import JumptotechLabs.Terraform.Hcl

namespace JumptotechLabs.Terraform

open JumptotechLabs.Core
open JumptotechLabs.Core.Utf16 (isSpace isDigit trim)

/-! ### Rounds -/

theorem two_le_readHeredoc {rest : Utf16} {read : LiteralRead} (found : readHeredoc rest = some read) :
    2 ≤ read.width := by
  simp only [readHeredoc, Option.ite_none_left_eq_some, Option.some.injEq] at found
  obtain ⟨-, rfl⟩ := found
  exact Nat.le_add_right_of_le (Nat.le_add_right 2 _)

theorem nextRound_width_pos (ch : UInt16) (rest : Utf16) : 0 < (nextRound ch rest).width := by
  unfold nextRound
  split; · exact Nat.one_pos
  split; · exact Nat.one_pos
  split; · exact Nat.add_pos_left Nat.one_pos _
  split; · exact Nat.add_pos_left Nat.two_pos _
  split
  · rename_i read found
    split at found
    · exact Nat.lt_of_lt_of_le Nat.two_pos (two_le_readHeredoc found)
    · cases found
  · split; · exact Nat.add_pos_left Nat.one_pos _
    split; · exact Nat.add_pos_left Nat.one_pos _
    split; · exact Nat.add_pos_left Nat.one_pos _
    split; · exact Nat.one_pos
    split <;> exact Nat.one_pos

theorem length_drop_round (ch : UInt16) (rest : Utf16) :
    ((ch :: rest).drop (nextRound ch rest).width).length ≤ rest.length := by
  have takes := nextRound_width_pos ch rest
  rw [List.length_drop, List.length_cons]
  omega

/-- Fuel for the length of the text is enough. -/
theorem roundsFrom_congr {fuel other : Nat} {text : Utf16} (enough : text.length ≤ fuel)
    (also : text.length ≤ other) : roundsFrom fuel text = roundsFrom other text := by
  induction fuel generalizing other text with
  | zero =>
      cases List.eq_nil_of_length_eq_zero (Nat.le_zero.mp enough)
      cases other <;> rfl
  | succ fuel ih =>
      cases text with
      | nil => cases other <;> rfl
      | cons ch rest =>
          have shorter := length_drop_round ch rest
          rw [List.length_cons] at enough also
          obtain ⟨other, rfl⟩ : ∃ n, other = n + 1 := ⟨other - 1, by omega⟩
          rw [roundsFrom, roundsFrom]
          congr 1
          exact ih (by omega) (by omega)

theorem rounds_nil : rounds [] = [] := rfl

theorem rounds_cons (ch : UInt16) (rest : Utf16) :
    rounds (ch :: rest) =
      nextRound ch rest :: rounds ((ch :: rest).drop (nextRound ch rest).width) := by
  have shorter := length_drop_round ch rest
  rw [rounds, List.length_cons, roundsFrom]
  congr 1
  exact roundsFrom_congr shorter (le_refl _)

/-! ### Lexemes -/

/-- A token without its place. -/
structure Lexeme where
  kind : TokenKind
  value : Utf16
  text : Utf16
  /-- Whether it starts where a token before it on the line ends. -/
  joined : Bool
deriving DecidableEq

/-- The lexemes of a text in its rounds. -/
def lexemesOf : Bool → Utf16 → List HclRound → List Lexeme
  | _, _, [] => []
  | joined, text, round :: more =>
      match round.piece with
      | .token kind value =>
          ⟨kind, value, text.take round.width, joined⟩ ::
            lexemesOf (kind != .newline) (text.drop round.width) more
      | _ => lexemesOf false (text.drop round.width) more

/-- The lexemes of a text that stands behind a token or not. -/
def lexemesFrom (joined : Bool) (text : Utf16) : List Lexeme := lexemesOf joined text (rounds text)

def lexemes (text : Utf16) : List Lexeme := lexemesFrom false text

theorem lexemesFrom_token {ch : UInt16} {rest : Utf16} {kind : TokenKind} {value : Utf16}
    (found : (nextRound ch rest).piece = .token kind value) (joined : Bool) :
    lexemesFrom joined (ch :: rest) =
      ⟨kind, value, (ch :: rest).take (nextRound ch rest).width, joined⟩ ::
        lexemesFrom (kind != .newline) ((ch :: rest).drop (nextRound ch rest).width) := by
  rw [lexemesFrom, rounds_cons, lexemesOf, found]
  rfl

theorem lexemesFrom_gap {ch : UInt16} {rest : Utf16}
    (found : ∀ kind value, (nextRound ch rest).piece ≠ .token kind value) (joined : Bool) :
    lexemesFrom joined (ch :: rest) =
      lexemesFrom false ((ch :: rest).drop (nextRound ch rest).width) := by
  rw [lexemesFrom, rounds_cons, lexemesOf]
  split
  · rename_i kind value isToken
    exact absurd isToken (found kind value)
  · rfl

/-! ### Reading lexemes -/

/-- An argument without its line. -/
structure Argument where
  name : Utf16
  value : Utf16
  literals : List Utf16
deriving DecidableEq

/-- A block without its lines. -/
structure Block where
  type : Utf16
  labels : List Utf16
  blocks : List Block
  arguments : List Argument

/-- A body without its lines. -/
structure Document where
  blocks : List Block
  arguments : List Argument

namespace Document

def empty : Document := ⟨[], []⟩

def append (first second : Document) : Document :=
  ⟨first.blocks ++ second.blocks, first.arguments ++ second.arguments⟩

def ofArgument (argument : Argument) : Document := ⟨[], [argument]⟩

def ofBlock (block : Block) : Document := ⟨[block], []⟩

theorem append_empty (document : Document) : document.append empty = document := by
  rw [append, empty, List.append_nil, List.append_nil]

theorem append_assoc (first second third : Document) :
    (first.append second).append third = first.append (second.append third) := by
  simp only [append, List.append_assoc]

end Document

namespace Lexeme

def isSymbol (lexeme : Lexeme) (unit : UInt16) : Bool := lexeme.kind = .symbol && lexeme.value = [unit]

/-- The text of a lexeme in a value: first, joined, or behind a gap. -/
def piece (first : Bool) (lexeme : Lexeme) : Utf16 :=
  if first || lexeme.joined then collapse lexeme.text else 32 :: collapse lexeme.text

/-- The first lexeme that is not a newline, and what stands behind it. -/
def significant : List Lexeme → Option (Lexeme × List Lexeme)
  | [] => none
  | lexeme :: rest => if lexeme.kind = .newline then significant rest else some (lexeme, rest)

def argumentOpening (rest : List Lexeme) : Option (List Lexeme) :=
  match significant rest with
  | none => none
  | some (after, value) =>
      if after.isSymbol 61 && !(value.head?.any fun next => next.isSymbol 61) then some value else none

def blockOpening : List Lexeme → Option (List Utf16 × List Lexeme)
  | [] => none
  | upcoming :: rest =>
      match upcoming.kind with
      | .newline => blockOpening rest
      | .lbrace => some ([], rest)
      | .string | .ident =>
          (blockOpening rest).map fun (labels, body) => (upcoming.value :: labels, body)
      | _ => none

end Lexeme

structure ValueRead where
  pieces : List Utf16
  literals : List Utf16
  rest : List Lexeme

def ValueRead.behind (read : ValueRead) (first : Bool) (lexeme : Lexeme) : ValueRead :=
  ⟨lexeme.piece first :: read.pieces,
    (if lexeme.kind = .string then [lexeme.value] else []) ++ read.literals, read.rest⟩

/-- Read an expression, at a depth and with a piece before or not. -/
def readValueFrom : Nat → Bool → List Lexeme → ValueRead
  | _, _, [] => ⟨[], [], []⟩
  | depth, first, lexeme :: rest =>
      if lexeme.kind = .newline then
        if depth = 0 then ⟨[], [], lexeme :: rest⟩ else readValueFrom depth first rest
      else if lexeme.kind = .rbrace then
        if depth = 0 then ⟨[], [], lexeme :: rest⟩
        else (readValueFrom (depth - 1) false rest).behind first lexeme
      else
        let opened :=
          if lexeme.kind = .lbrace || lexeme.isSymbol 91 || lexeme.isSymbol 40 then depth + 1 else depth
        let depth := if lexeme.isSymbol 93 || lexeme.isSymbol 41 then opened - 1 else opened
        if lexeme.isSymbol 44 && depth == 0 then ⟨[], [], lexeme :: rest⟩
        else (readValueFrom depth false rest).behind first lexeme

def readValue (rest : List Lexeme) : Utf16 × List Utf16 × List Lexeme :=
  let read := readValueFrom 0 true rest
  (trim read.pieces.flatten, read.literals, read.rest)

/-- Pass over a statement that is not recognised. -/
def passOver : Nat → List Lexeme → List Lexeme
  | _, [] => []
  | depth, lexeme :: rest =>
      if lexeme.kind = .newline ∧ depth = 0 then rest
      else if lexeme.kind = .lbrace then passOver (depth + 1) rest
      else if lexeme.kind = .rbrace then
        if depth = 0 then lexeme :: rest else passOver (depth - 1) rest
      else passOver depth rest

/-- What is recognised at a lexeme, and what is read next. -/
inductive Heading where
  | argument (value : List Lexeme)
  | block (labels : List Utf16) (body : List Lexeme)
  | neither

def headingOf (head : Lexeme) (rest : List Lexeme) : Heading :=
  if head.kind = .ident then
    match Lexeme.argumentOpening rest with
    | some value => .argument value
    | none =>
        match Lexeme.blockOpening rest with
        | some (labels, body) => .block labels body
        | none => .neither
  else .neither

/-- `parseBody`, over lexemes. -/
def readBodyFrom : Nat → Bool → List Lexeme → Document × List Lexeme
  | _, _, [] => (.empty, [])
  | 0, _, lexeme :: rest => (.empty, lexeme :: rest)
  | fuel + 1, topLevel, lexeme :: rest =>
      if lexeme.kind = .newline || lexeme.isSymbol 44 then readBodyFrom fuel topLevel rest
      else if lexeme.kind = .rbrace then
        if topLevel then readBodyFrom fuel topLevel rest else (.empty, rest)
      else
        match headingOf lexeme rest with
        | .argument value =>
            let read := readValue value
            let further := readBodyFrom fuel topLevel read.2.2
            ((Document.ofArgument ⟨lexeme.value, read.1, read.2.1⟩).append further.1, further.2)
        | .block labels inner =>
            let body := readBodyFrom fuel false inner
            let further := readBodyFrom fuel topLevel body.2
            ((Document.ofBlock ⟨lexeme.value, labels, body.1.blocks, body.1.arguments⟩).append further.1,
              further.2)
        | .neither => readBodyFrom fuel topLevel (passOver 0 (lexeme :: rest))

/-- What is read from lexemes, and what is left of them. -/
def readBody (topLevel : Bool) (rest : List Lexeme) : Document × List Lexeme :=
  readBodyFrom rest.length topLevel rest

/-! ### Shapes -/

/-- An argument without its line. -/
def HclArgument.shape (argument : HclArgument) : Argument :=
  ⟨argument.name, argument.value, argument.literals⟩

mutual

/-- A block without its line and its file. -/
def HclBlock.shape : HclBlock → Block
  | ⟨type, labels, blocks, arguments, _, _⟩ => ⟨type, labels, shapes blocks, arguments.map HclArgument.shape⟩

def shapes : List HclBlock → List Block
  | [] => []
  | block :: more => block.shape :: shapes more

end

def HclDocument.shape (document : HclDocument) : Document :=
  ⟨shapes document.blocks, document.arguments.map HclArgument.shape⟩

/-! ### Tokens that spell lexemes -/

/-- Tokens of a source spell lexemes, with the end of the token before them. -/
inductive Spells (source : Utf16) : Option Nat → List HclToken → List Lexeme → Prop where
  | nil {last} : Spells source last [] []
  | newline {last token lexeme tokens more} : token.kind = .newline → lexeme.kind = .newline →
      Spells source last tokens more → Spells source last (token :: tokens) (lexeme :: more)
  | token {last token lexeme tokens more} : lexeme.kind ≠ .newline → token.kind = lexeme.kind →
      token.value = lexeme.value → sliceOf source token.start token.stop = lexeme.text →
      (lexeme.joined = true ↔ last = some token.start) →
      Spells source (some token.stop) tokens more → Spells source last (token :: tokens) (lexeme :: more)

/-- The text with its comments blanked, round by round. -/
def maskedBy : Utf16 → List HclRound → Utf16
  | text, [] => text
  | text, round :: more =>
      (match round.piece with
        | .comment => (text.take round.width).map blankOf
        | _ => text.take round.width) ++ maskedBy (text.drop round.width) more

theorem sliceOf_eq (text : Utf16) (start stop : Nat) :
    sliceOf text start stop = (text.drop start).take (stop - start) := List.drop_take

theorem sliceOf_append_sliceOf (text : Utf16) {start middle stop : Nat} (first : start ≤ middle)
    (second : middle ≤ stop) :
    sliceOf text start middle ++ sliceOf text middle stop = sliceOf text start stop := by
  simp only [sliceOf_eq]
  have behind : text.drop middle = (text.drop start).drop (middle - start) := by
    rw [List.drop_drop, Nat.add_sub_cancel' first]
  have split : stop - start = (middle - start) + (stop - middle) := by omega
  rw [behind, split, List.take_add]

theorem sliceOf_append_drop (text : Utf16) {start stop : Nat} (ordered : start ≤ stop) :
    sliceOf text start stop ++ text.drop stop = text.drop start := by
  have behind : text.drop stop = (text.drop start).drop (stop - start) := by
    rw [List.drop_drop, Nat.add_sub_cancel' ordered]
  rw [sliceOf_eq, behind, List.take_append_drop]

theorem withoutCommentsFrom_commentsOf (text : Utf16) (found : List HclRound) {start index : Nat}
    (ordered : start ≤ index) :
    withoutCommentsFrom text start (commentsOf index found) =
      sliceOf text start index ++ maskedBy (text.drop index) found := by
  induction found generalizing start index with
  | nil => exact (sliceOf_append_drop text ordered).symm
  | cons round more ih =>
      have taken : (text.drop index).take round.width = sliceOf text index (index + round.width) := by
        rw [sliceOf_eq, Nat.add_sub_cancel_left]
      have onward : index ≤ index + round.width := Nat.le_add_right _ _
      have kept : withoutCommentsFrom text start (commentsOf (index + round.width) more) =
          sliceOf text start index ++ (sliceOf text index (index + round.width) ++
            maskedBy (text.drop (index + round.width)) more) := by
        rw [ih (ordered.trans onward), ← sliceOf_append_sliceOf text ordered onward, List.append_assoc]
      rw [commentsOf, maskedBy, List.drop_drop, taken]
      cases round.piece with
      | comment =>
          have none : sliceOf text (index + round.width) (index + round.width) = [] := by
            rw [sliceOf_eq, Nat.sub_self, List.take_zero]
          simp only [withoutCommentsFrom, ih (le_refl _), none, List.nil_append]
      | token kind value => exact kept
      | gap => exact kept

theorem withoutComments_eq (text : Utf16) :
    withoutComments text (commentsOf 0 (rounds text)) = maskedBy text (rounds text) :=
  withoutCommentsFrom_commentsOf text (rounds text) (le_refl 0)

/-- A masked text goes on, behind a round, as the masked rest does. -/
theorem maskedBy_cons_drop (ch : UInt16) (rest : Utf16) :
    (maskedBy (ch :: rest) (rounds (ch :: rest))).drop (nextRound ch rest).width =
      maskedBy ((ch :: rest).drop (nextRound ch rest).width)
        (rounds ((ch :: rest).drop (nextRound ch rest).width)) := by
  rw [rounds_cons, maskedBy]
  generalize (nextRound ch rest).width = width
  have length : ∀ taken : Utf16, taken.length = ((ch :: rest).take width).length →
      (taken ++ maskedBy ((ch :: rest).drop width) (rounds ((ch :: rest).drop width))).drop width =
        maskedBy ((ch :: rest).drop width) (rounds ((ch :: rest).drop width)) := by
    intro taken same
    rw [List.length_take] at same
    rcases Nat.le_total width (ch :: rest).length with within | beyond
    · rw [Nat.min_eq_left within] at same
      rw [← same, List.drop_left]
    · have nothing : (ch :: rest).drop width = [] := List.drop_eq_nil_of_le beyond
      rw [nothing, rounds_nil, maskedBy, List.append_nil]
      exact List.drop_eq_nil_of_le (by omega)
  apply length
  split
  · rw [List.length_map]
  · rfl

/-- The text of a token is not blanked. -/
theorem maskedBy_cons_take {ch : UInt16} {rest : Utf16} {kind : TokenKind} {value : Utf16}
    (found : (nextRound ch rest).piece = .token kind value) :
    (maskedBy (ch :: rest) (rounds (ch :: rest))).take (nextRound ch rest).width =
      (ch :: rest).take (nextRound ch rest).width := by
  rw [rounds_cons, maskedBy, found]
  dsimp only
  generalize (nextRound ch rest).width = width
  rcases Nat.le_total width (ch :: rest).length with within | beyond
  · exact List.take_left' (List.length_take_of_le within)
  · have nothing : (ch :: rest).drop width = [] := List.drop_eq_nil_of_le beyond
    rw [nothing, rounds_nil, maskedBy, List.append_nil, List.take_take, Nat.min_self]

/-- The tokens of a text spell its lexemes. -/
theorem spells_tokensOf {source : Utf16} (fuel : Nat) {text : Utf16} {index : Nat} {last : Option Nat}
    {joined : Bool} (line : Nat) (enough : text.length ≤ fuel)
    (reads : source.drop index = maskedBy text (rounds text)) (touches : joined = true ↔ last = some index)
    (ahead : ∀ stop ∈ last, stop ≤ index) :
    Spells source last (tokensOf index line (rounds text)) (lexemesFrom joined text) := by
  induction fuel generalizing text index last joined line with
  | zero =>
      cases List.eq_nil_of_length_eq_zero (Nat.le_zero.mp enough)
      exact .nil
  | succ fuel ih =>
      cases text with
      | nil => exact .nil
      | cons ch rest =>
          have takes := nextRound_width_pos ch rest
          have shorter := length_drop_round ch rest
          have onward := maskedBy_cons_drop ch rest
          rw [← reads, List.drop_drop] at onward
          have apart : last ≠ some (index + (nextRound ch rest).width) := by
            intro same
            have bound := ahead _ same
            omega
          have further : ∀ stop ∈ last, stop ≤ index + (nextRound ch rest).width :=
            fun stop isLast => (ahead stop isLast).trans (Nat.le_add_right _ _)
          rw [List.length_cons] at enough
          have isSlice : sliceOf source index (index + (nextRound ch rest).width) =
              (maskedBy (ch :: rest) (rounds (ch :: rest))).take (nextRound ch rest).width := by
            rw [sliceOf_eq, reads, Nat.add_sub_cancel_left]
          cases found : (nextRound ch rest).piece with
          | token kind value =>
              rw [lexemesFrom_token found, rounds_cons, tokensOf, found]
              dsimp only
              by_cases newline : kind = .newline
              · refine .newline newline newline (ih _ (by omega) onward ?_ further)
                simp [newline, apart]
              · refine .token newline rfl rfl ?_ touches (ih _ (by omega) onward ?_ ?_)
                · rw [isSlice, maskedBy_cons_take found]
                · simp [newline]
                · intro stop isStop
                  cases isStop
                  exact le_refl _
          | comment =>
              rw [lexemesFrom_gap (by simp [found]), rounds_cons, tokensOf, found]
              exact ih _ (by omega) onward (by simp [apart]) further
          | gap =>
              rw [lexemesFrom_gap (by simp [found]), rounds_cons, tokensOf, found]
              exact ih _ (by omega) onward (by simp [apart]) further

/-! ### The scanner and the reader -/

section Refinement

variable {source : Utf16} {last : Option Nat} {tokens : List HclToken} {more : List Lexeme}

theorem Spells.length_eq (spells : Spells source last tokens more) : tokens.length = more.length := by
  induction spells with
  | nil => rfl
  | newline _ _ _ ih => rw [List.length_cons, List.length_cons, ih]
  | token _ _ _ _ _ _ ih => rw [List.length_cons, List.length_cons, ih]

theorem isSymbol_eq {token : HclToken} {lexeme : Lexeme} (kind : token.kind = lexeme.kind)
    (value : token.value = lexeme.value) (unit : UInt16) : token.isSymbol unit = lexeme.isSymbol unit := by
  rw [HclToken.isSymbol, Lexeme.isSymbol, kind, value]

theorem isSymbol_of_newline {token : HclToken} (newline : token.kind = .newline) (unit : UInt16) :
    token.isSymbol unit = false := by
  rw [HclToken.isSymbol, newline]
  rfl

theorem Lexeme.isSymbol_of_newline {lexeme : Lexeme} (newline : lexeme.kind = .newline) (unit : UInt16) :
    lexeme.isSymbol unit = false := by
  rw [Lexeme.isSymbol, newline]
  rfl

/-- Both look past newlines to the same place. -/
theorem Spells.significant (spells : Spells source last tokens more) :
    (peekSignificant tokens = none ∧ Lexeme.significant more = none) ∨
      ∃ token lexeme behind left stop, peekSignificant tokens = some (token, behind) ∧
        Lexeme.significant more = some (lexeme, left) ∧ token.kind = lexeme.kind ∧
        token.value = lexeme.value ∧ Spells source stop behind left := by
  induction spells with
  | nil => exact .inl ⟨rfl, rfl⟩
  | newline kind kind' _ ih =>
      rw [peekSignificant, Lexeme.significant, if_pos kind, if_pos kind']
      exact ih
  | @token last token lexeme tokens more plain kind value _ _ rest _ =>
      rw [peekSignificant, Lexeme.significant, if_neg (kind ▸ plain), if_neg plain]
      exact .inr ⟨token, lexeme, tokens, more, _, rfl, rfl, kind, value, rest⟩

theorem Spells.head_isSymbol (spells : Spells source last tokens more) (unit : UInt16) :
    (tokens.head?.any fun next => next.isSymbol unit) = more.head?.any fun next => next.isSymbol unit := by
  cases spells with
  | nil => rfl
  | newline kind kind' _ =>
      exact (isSymbol_of_newline kind unit).trans (Lexeme.isSymbol_of_newline kind' unit).symm
  | token _ kind value _ _ _ => exact isSymbol_eq kind value unit

theorem Spells.argumentOpenings (spells : Spells source last tokens more) :
    (argumentOpening tokens = none ∧ Lexeme.argumentOpening more = none) ∨
      ∃ value left stop, argumentOpening tokens = some value ∧
        Lexeme.argumentOpening more = some left ∧ Spells source stop value left := by
  rw [argumentOpening, Lexeme.argumentOpening]
  rcases spells.significant with ⟨none, none'⟩ | ⟨token, lexeme, behind, left, stop, some, some', kind, value, rest⟩
  · rw [none, none']
    exact .inl ⟨rfl, rfl⟩
  · rw [some, some']
    dsimp only
    rw [isSymbol_eq kind value, rest.head_isSymbol]
    split
    · exact .inr ⟨behind, left, stop, rfl, rfl, rest⟩
    · exact .inl ⟨rfl, rfl⟩

theorem Spells.blockOpenings (spells : Spells source last tokens more) :
    (blockOpening tokens = none ∧ Lexeme.blockOpening more = none) ∨
      ∃ labels body left stop, blockOpening tokens = some (labels, body) ∧
        Lexeme.blockOpening more = some (labels, left) ∧ Spells source stop body left := by
  induction spells with
  | nil => exact .inl ⟨rfl, rfl⟩
  | newline kind kind' _ ih =>
      rw [blockOpening, Lexeme.blockOpening, kind, kind']
      exact ih
  | @token last token lexeme tokens more plain kind value _ _ rest ih =>
      rw [blockOpening, Lexeme.blockOpening, kind, value]
      cases isKind : lexeme.kind with
      | newline => exact absurd isKind plain
      | lbrace => exact .inr ⟨[], tokens, more, _, rfl, rfl, rest⟩
      | string | ident =>
          rcases ih with ⟨none, none'⟩ | ⟨labels, body, left, stop, some, some', spelled⟩
          · rw [none, none']
            exact .inl ⟨rfl, rfl⟩
          · rw [some, some']
            exact .inr ⟨_, body, left, stop, rfl, rfl, spelled⟩
      | number | rbrace | symbol => exact .inl ⟨rfl, rfl⟩

theorem pieceOf_eq {token : HclToken} {lexeme : Lexeme} {before : Option Nat} {first : Bool}
    (text : sliceOf source token.start token.stop = lexeme.text)
    (touches : lexeme.joined = true ↔ last = some token.start)
    (isFirst : before = if first then none else last) (present : first = false → last ≠ none) :
    pieceOf source before token = lexeme.piece first := by
  rw [pieceOf, Lexeme.piece, text, isFirst]
  cases first with
  | true => rfl
  | false =>
      obtain ⟨stop, rfl⟩ := Option.ne_none_iff_exists'.mp (present rfl)
      by_cases same : stop = token.start
      · simp [touches.mpr (congrArg some same), same]
      · have notJoined : lexeme.joined = false := by
          rw [← Bool.not_eq_true, touches, Option.some.injEq]
          exact same
        simp [notJoined, same]

/-- Both read the same value, and stop at the same place. -/
theorem Spells.valuesFrom (spells : Spells source last tokens more) :
    ∀ (depth : Nat) (first : Bool) (before : Option Nat), (before = if first then none else last) →
      (first = false → last ≠ none) →
      (readExpressionFrom source depth before tokens).pieces = (readValueFrom depth first more).pieces ∧
        (readExpressionFrom source depth before tokens).literals =
          (readValueFrom depth first more).literals ∧
        ∃ stop, Spells source stop (readExpressionFrom source depth before tokens).rest
          (readValueFrom depth first more).rest := by
  induction spells with
  | nil => exact fun _ _ _ _ _ => ⟨rfl, rfl, none, .nil⟩
  | @newline last token lexeme tokens more kind kind' rest ih =>
      intro depth first before isBefore present
      rw [readExpressionFrom, readValueFrom, if_pos kind, if_pos kind']
      by_cases outermost : depth = 0
      · rw [if_pos outermost, if_pos outermost]
        exact ⟨rfl, rfl, last, .newline kind kind' rest⟩
      · rw [if_neg outermost, if_neg outermost]
        exact ih depth first before isBefore present
  | @token last token lexeme tokens more plain kind value text touches rest ih =>
      intro depth first before isBefore present
      have isPiece := pieceOf_eq text touches isBefore present
      have stopped : Spells source last (token :: tokens) (lexeme :: more) :=
        .token plain kind value text touches rest
      have taken (depth : Nat) :
          ((readExpressionFrom source depth (some token.stop) tokens).behind source before token).pieces =
              ((readValueFrom depth false more).behind first lexeme).pieces ∧
            ((readExpressionFrom source depth (some token.stop) tokens).behind source before token).literals =
              ((readValueFrom depth false more).behind first lexeme).literals ∧
            ∃ stop, Spells source stop
              ((readExpressionFrom source depth (some token.stop) tokens).behind source before token).rest
              ((readValueFrom depth false more).behind first lexeme).rest := by
        obtain ⟨pieces, literals, left⟩ := ih depth false (some token.stop) rfl (by simp)
        refine ⟨?_, ?_, left⟩
        · rw [ExpressionRead.behind, ValueRead.behind, isPiece, pieces]
        · rw [ExpressionRead.behind, ValueRead.behind, literals, kind, value]
      rw [readExpressionFrom, readValueFrom, if_neg (kind ▸ plain), if_neg plain, kind]
      simp only [isSymbol_eq kind value]
      by_cases closes : lexeme.kind = .rbrace
      · rw [if_pos closes, if_pos closes]
        by_cases outermost : depth = 0
        · rw [if_pos outermost, if_pos outermost]
          exact ⟨rfl, rfl, last, stopped⟩
        · rw [if_neg outermost, if_neg outermost]
          exact taken (depth - 1)
      · rw [if_neg closes, if_neg closes]
        split_ifs <;> first | exact ⟨rfl, rfl, last, stopped⟩ | exact taken _

theorem Spells.values (spells : Spells source last tokens more) :
    (readExpression source tokens).1 = (readValue more).1 ∧
      (readExpression source tokens).2.1 = (readValue more).2.1 ∧
      ∃ stop, Spells source stop (readExpression source tokens).2.2 (readValue more).2.2 := by
  obtain ⟨pieces, literals, left⟩ := spells.valuesFrom 0 true none rfl (by simp)
  refine ⟨?_, literals, left⟩
  rw [readExpression, readValue, pieces]

theorem Spells.passes (spells : Spells source last tokens more) (depth : Nat) :
    ∃ stop, Spells source stop (skipStatement depth tokens) (passOver depth more) := by
  induction spells generalizing depth with
  | nil => exact ⟨none, .nil⟩
  | newline kind kind' rest ih =>
      rw [skipStatement, passOver, kind, kind']
      split
      · exact ⟨_, rest⟩
      · exact ih depth
  | token plain kind value text touches rest ih =>
      rw [skipStatement, passOver, kind]
      split; · exact ⟨_, rest⟩
      split; · exact ih (depth + 1)
      split
      · split
        · exact ⟨_, .token plain kind value text touches rest⟩
        · exact ih (depth - 1)
      · exact ih depth

/-- Both read the same body, and stop at the same place. -/
theorem Spells.bodies (file : Option Utf16) (fuel : Nat) (topLevel : Bool)
    (spells : Spells source last tokens more) :
    (parseBody source file fuel topLevel tokens).1.shape = (readBodyFrom fuel topLevel more).1 ∧
      ∃ stop, Spells source stop (parseBody source file fuel topLevel tokens).2
        (readBodyFrom fuel topLevel more).2 := by
  induction fuel generalizing topLevel last tokens more with
  | zero =>
      cases spells with
      | nil => exact ⟨rfl, none, .nil⟩
      | newline kind kind' rest => exact ⟨rfl, last, .newline kind kind' rest⟩
      | token plain kind value text touches rest =>
          exact ⟨rfl, last, .token plain kind value text touches rest⟩
  | succ fuel ih =>
      cases spells with
      | nil => exact ⟨rfl, none, .nil⟩
      | newline kind kind' rest =>
          rw [parseBody, readBodyFrom, kind, kind']
          exact ih topLevel rest
      | @token _ token lexeme tokens more plain kind value text touches rest =>
          rw [parseBody, readBodyFrom, isSymbol_eq kind value, kind]
          split; · exact ih topLevel rest
          split
          · split
            · exact ih topLevel rest
            · exact ⟨rfl, _, rest⟩
          · rw [tryStatement, headingOf, kind]
            by_cases named : lexeme.kind = .ident
            · rw [if_pos named, if_pos named]
              rcases rest.argumentOpenings with ⟨none, none'⟩ | ⟨inner, left, stop, some, some', spelled⟩
              · rw [none, none']
                rcases rest.blockOpenings with ⟨none, none'⟩ | ⟨labels, inner, left, stop, some, some', spelled⟩
                · rw [none, none']
                  obtain ⟨stop, passed⟩ := Spells.passes (.token plain kind value text touches rest) 0
                  exact ih topLevel passed
                · rw [some, some']
                  obtain ⟨body, stop, behind⟩ := ih false spelled
                  obtain ⟨document, left⟩ := ih topLevel behind
                  refine ⟨?_, left⟩
                  dsimp only
                  rw [← document, ← body, ← value]
                  rfl
              · rw [some, some']
                obtain ⟨isText, literals, stop, behind⟩ := spelled.values
                obtain ⟨document, left⟩ := ih topLevel behind
                refine ⟨?_, left⟩
                dsimp only
                rw [← document, ← isText, ← literals, ← value]
                rfl
            · rw [if_neg named, if_neg named]
              obtain ⟨stop, passed⟩ := Spells.passes (.token plain kind value text touches rest) 0
              exact ih topLevel passed

end Refinement

/-- What is read from a text: nothing where it is too long. -/
def readText (text : Utf16) : Document :=
  if text.length > maxInputBytes then .empty else (readBody true (lexemes text)).1

/-- The scanner's result, its lines forgotten, is what is read from the lexemes of the text. -/
theorem shape_scanHcl (text : Utf16) (file : Option Utf16) : (scanHcl text file).shape = readText text := by
  rw [scanHcl, tokenize, readText]
  split
  · rename_i tooLong
    split at tooLong
    · rename_i long
      rw [if_pos long]
      rfl
    · cases tooLong
  · rename_i tokens comments found
    split at found
    · cases found
    · rename_i fits
      cases found
      rw [if_neg fits]
      have spells : Spells (withoutComments text (commentsOf 0 (rounds text))) none
          (tokensOf 0 1 (rounds text)) (lexemes text) :=
        spells_tokensOf text.length 1 (le_refl _) (withoutComments_eq text) (by simp) (by simp)
      rw [spells.length_eq, readBody]
      exact (spells.bodies _ _ true).1

end JumptotechLabs.Terraform
