/-
Module: JumptotechLabs.Terraform.Hcl
Layer: Terraform (services/lab-orchestrator/src/terraform/hcl.ts)
Purpose: The block-structure scanner for Terraform configuration: a text is taken apart into tokens, comments
  are blanked in a copy of it, and the tokens are read as blocks and arguments. An expression is never
  evaluated; its value is the text of its tokens.
Main exports: HclToken, HclArgument, HclBlock, HclDocument, readQuotedString, readHeredoc, nextRound,
  rounds, tokenize, withoutComments, readExpression, skipStatement, parseBody, scanHcl
-/
import JumptotechLabs.Core.Lines

namespace JumptotechLabs.Terraform

open JumptotechLabs.Core
open JumptotechLabs.Core.Utf16 (isSpace isDigit isLetter isWord trim)

/-- An argument of a body. -/
structure HclArgument where
  name : Utf16
  /-- The right-hand side, comments left out and each gap between tokens one space. -/
  value : Utf16
  literals : List Utf16
  line : Nat
deriving DecidableEq

/-- A block with its labels and its body. -/
structure HclBlock where
  type : Utf16
  labels : List Utf16
  blocks : List HclBlock
  arguments : List HclArgument
  line : Nat
  file : Option Utf16

/-- What stands at the top level of a file. -/
structure HclDocument where
  blocks : List HclBlock
  arguments : List HclArgument

/-! ### Lexing -/

/-- The kinds of tokens. -/
inductive TokenKind where
  | ident
  | string
  | number
  | lbrace
  | rbrace
  | symbol
  | newline
deriving DecidableEq

/-- A token, with its line and the units it covers. -/
structure HclToken where
  kind : TokenKind
  value : Utf16
  line : Nat
  start : Nat
  stop : Nat
deriving DecidableEq

/-- `IDENT_START`. -/
def isIdentStart (unit : UInt16) : Bool := isLetter unit || unit == 95

/-- `IDENT_PART`. -/
def isIdentPart (unit : UInt16) : Bool := isWord unit || unit == 45

/-- `[0-9.eE+-]`. -/
def isNumberPart (unit : UInt16) : Bool :=
  isDigit unit || unit == 46 || unit == 101 || unit == 69 || unit == 43 || unit == 45

/-- `MAX_INPUT_BYTES`, which is compared with a number of units. -/
def maxInputBytes : Nat := 512 * 1024

/-- One for a line feed. -/
def lineOf (unit : UInt16) : Nat := if unit = 10 then 1 else 0

/-- A literal as it was read: how far the reader went and the line feeds it counted on the way. -/
structure LiteralRead where
  value : Utf16
  width : Nat
  newlines : Nat
deriving DecidableEq

/-- Put in front what was taken before. -/
def LiteralRead.behind (read : LiteralRead) (taken : Utf16) (newlines : Nat) : LiteralRead :=
  ⟨taken ++ read.value, taken.length + read.width, newlines + read.newlines⟩

/-- The loops of `readQuotedString` behind the opening quote. The depth is that of the braces of an
    interpolation; outside of one it is zero. -/
def quotedFrom : Nat → Utf16 → LiteralRead
  | _, [] => ⟨[], 0, 0⟩
  | 0, [unit] =>
      if unit = 92 then ⟨[unit], 2, 0⟩
      else if unit = 34 then ⟨[], 1, 0⟩
      else ⟨[unit], 1, lineOf unit⟩
  | 0, unit :: next :: rest =>
      if unit = 92 then (quotedFrom 0 rest).behind [unit, next] 0
      else if unit = 36 ∧ next = 123 then (quotedFrom 1 rest).behind [unit, next] 0
      else if unit = 34 then ⟨[], 1, 0⟩
      else (quotedFrom 0 (next :: rest)).behind [unit] (lineOf unit)
  | depth + 1, unit :: rest =>
      if unit = 123 then (quotedFrom (depth + 2) rest).behind [unit] 0
      else if unit = 125 then (quotedFrom depth rest).behind [unit] 0
      else (quotedFrom (depth + 1) rest).behind [unit] (lineOf unit)

/-- `readQuotedString`, with what follows the opening quote. -/
def readQuotedString (rest : Utf16) : LiteralRead :=
  let read := quotedFrom 0 rest
  ⟨read.value, 1 + read.width, read.newlines⟩

/-- The loop of `readHeredoc` over the lines of the body. The text ends with the last of them. -/
def heredocLines (tag : Utf16) : List Utf16 → LiteralRead
  | [] => ⟨[], 0, 0⟩
  | [last] =>
      if last = [] then ⟨[], 0, 0⟩
      else if trim last = tag then ⟨[], last.length, 0⟩
      else ⟨last, last.length, 1⟩
  | line :: next :: rest =>
      if trim line = tag then ⟨[], line.length, 0⟩
      else (heredocLines tag (next :: rest)).behind (line ++ [10]) 1

/-- What follows the dash of a `<<-`, or the `<<`. -/
def behindDash (rest : Utf16) : Utf16 := if rest.head? = some 45 then rest.tail else rest

/-- `readHeredoc`, with what follows the `<<`. -/
def readHeredoc (rest : Utf16) : Option LiteralRead :=
  let tagged := behindDash rest
  let tag := tagged.takeWhile isIdentPart
  if tag = [] then none
  else
    let opening := tagged.dropWhile (· != 10)
    let body := heredocLines tag (opening.tail.splitOn 10)
    some ⟨body.value, 2 + (rest.length - opening.tail.length) + body.width, 1 + body.newlines⟩

/-- A `/* … */` comment behind its opening: how far it goes, and the line feeds in it. -/
def blockCommentFrom : Utf16 → Nat × Nat
  | [] => (0, 0)
  | [unit] => (1, lineOf unit)
  | unit :: next :: rest =>
      if unit = 42 ∧ next = 47 then (2, 0)
      else
        let (width, newlines) := blockCommentFrom (next :: rest)
        (1 + width, lineOf unit + newlines)

/-- What a round of `tokenize` finds. -/
inductive HclPiece where
  | token (kind : TokenKind) (value : Utf16)
  | comment
  | gap
deriving DecidableEq

/-- What one round of the tokenizer reads. -/
structure HclRound where
  piece : HclPiece
  width : Nat
  newlines : Nat
deriving DecidableEq

/-- One round of the loop of `tokenize`. -/
def nextRound (ch : UInt16) (rest : Utf16) : HclRound :=
  if ch = 10 then ⟨.token .newline [10], 1, 1⟩
  else if ch = 32 ∨ ch = 9 ∨ ch = 13 then ⟨.gap, 1, 0⟩
  else if ch = 35 ∨ (ch = 47 ∧ rest.head? = some 47) then
    ⟨.comment, 1 + (rest.takeWhile (· != 10)).length, 0⟩
  else if ch = 47 ∧ rest.head? = some 42 then
    let (width, newlines) := blockCommentFrom rest.tail
    ⟨.comment, 2 + width, newlines⟩
  else
    match if ch = 60 ∧ rest.head? = some 60 then readHeredoc rest.tail else none with
    | some read => ⟨.token .string read.value, read.width, read.newlines⟩
    | none =>
        if ch = 34 then
          let read := readQuotedString rest
          ⟨.token .string read.value, read.width, read.newlines⟩
        else if isIdentStart ch then
          let more := rest.takeWhile isIdentPart
          ⟨.token .ident (ch :: more), 1 + more.length, 0⟩
        else if isDigit ch then
          let more := rest.takeWhile isNumberPart
          ⟨.token .number (ch :: more), 1 + more.length, 0⟩
        else if ch = 123 then ⟨.token .lbrace [ch], 1, 0⟩
        else if ch = 125 then ⟨.token .rbrace [ch], 1, 0⟩
        else ⟨.token .symbol [ch], 1, 0⟩

/-- The rounds of the loop of `tokenize`. Every round takes a unit or more. -/
def roundsFrom : Nat → Utf16 → List HclRound
  | _, [] => []
  | 0, _ :: _ => []
  | fuel + 1, ch :: rest =>
      let round := nextRound ch rest
      round :: roundsFrom fuel ((ch :: rest).drop round.width)

def rounds (text : Utf16) : List HclRound := roundsFrom text.length text

/-- What the rounds push on the tokens, from an offset and a line on. -/
def tokensOf : Nat → Nat → List HclRound → List HclToken
  | _, _, [] => []
  | index, line, round :: more =>
      let others := tokensOf (index + round.width) (line + round.newlines) more
      match round.piece with
      | .token kind value => ⟨kind, value, line, index, index + round.width⟩ :: others
      | _ => others

/-- What the rounds push on the comments, from an offset on. -/
def commentsOf : Nat → List HclRound → List (Nat × Nat)
  | _, [] => []
  | index, round :: more =>
      let others := commentsOf (index + round.width) more
      match round.piece with
      | .comment => (index, index + round.width) :: others
      | _ => others

/-- The tokens of a text and the extents of its comments; none for a text that is too long. -/
def tokenize (text : Utf16) : Option (List HclToken × List (Nat × Nat)) :=
  if text.length > maxInputBytes then none
  else some (tokensOf 0 1 (rounds text), commentsOf 0 (rounds text))

/-- The text from `start` to `stop`. -/
def sliceOf (text : Utf16) (start stop : Nat) : Utf16 := (text.take stop).drop start

/-- What is put in the place of a unit of a comment. -/
def blankOf (unit : UInt16) : UInt16 := if unit = 10 then 10 else 32

/-- The loop of `withoutComments`. -/
def withoutCommentsFrom (text : Utf16) (start : Nat) : List (Nat × Nat) → Utf16
  | [] => text.drop start
  | (first, last) :: more =>
      sliceOf text start first ++ ((sliceOf text first last).map blankOf ++
        withoutCommentsFrom text last more)

/-- The text with every comment blanked to spaces, newlines kept, so that offsets still index it. -/
def withoutComments (text : Utf16) (comments : List (Nat × Nat)) : Utf16 :=
  withoutCommentsFrom text 0 comments

/-! ### Parsing -/

def HclToken.isSymbol (token : HclToken) (unit : UInt16) : Bool :=
  token.kind = .symbol && token.value = [unit]

/-- `#peekSignificant`: the first token that is not a newline, and the tokens behind it. -/
def peekSignificant : List HclToken → Option (HclToken × List HclToken)
  | [] => none
  | token :: rest => if token.kind = .newline then peekSignificant rest else some (token, rest)

/-- `ident =`, with what follows the head: the tokens behind the `=`. `==` is a comparison. -/
def argumentOpening (rest : List HclToken) : Option (List HclToken) :=
  match peekSignificant rest with
  | none => none
  | some (after, value) =>
      if after.isSymbol 61 && !(value.head?.any fun next => next.isSymbol 61) then some value else none

/-- `ident label* {`, with what follows the head: the labels, and the tokens behind the brace. -/
def blockOpening : List HclToken → Option (List Utf16 × List HclToken)
  | [] => none
  | upcoming :: rest =>
      match upcoming.kind with
      | .newline => blockOpening rest
      | .lbrace => some ([], rest)
      | .string | .ident =>
          (blockOpening rest).map fun (labels, body) => (upcoming.value :: labels, body)
      | _ => none

/-- `text.replace(/\s+/g, ' ')`, behind white space or not. -/
def collapseFrom : Bool → Utf16 → Utf16
  | _, [] => []
  | inRun, unit :: rest =>
      if isSpace unit then (if inRun then [] else [32]) ++ collapseFrom true rest
      else unit :: collapseFrom false rest

def collapse (text : Utf16) : Utf16 := collapseFrom false text

/-- What `take` pushes for a token, with the end of the piece before it. -/
def pieceOf (source : Utf16) (last : Option Nat) (token : HclToken) : Utf16 :=
  let text := collapse (sliceOf source token.start token.stop)
  if last.any (· != token.start) then 32 :: text else text

/-- What is read of an expression, and the tokens behind it. -/
structure ExpressionRead where
  pieces : List Utf16
  literals : List Utf16
  rest : List HclToken

/-- `take`, and the literal of a string. -/
def ExpressionRead.behind (read : ExpressionRead) (source : Utf16) (last : Option Nat) (token : HclToken) :
    ExpressionRead :=
  ⟨pieceOf source last token :: read.pieces,
    (if token.kind = .string then [token.value] else []) ++ read.literals, read.rest⟩

/-- The loop of `#readExpression`, with the depth and the end of the last piece. -/
def readExpressionFrom (source : Utf16) : Nat → Option Nat → List HclToken → ExpressionRead
  | _, _, [] => ⟨[], [], []⟩
  | depth, last, token :: rest =>
      if token.kind = .newline then
        if depth = 0 then ⟨[], [], token :: rest⟩ else readExpressionFrom source depth last rest
      else if token.kind = .rbrace then
        if depth = 0 then ⟨[], [], token :: rest⟩
        else (readExpressionFrom source (depth - 1) (some token.stop) rest).behind source last token
      else
        let opened := if token.kind = .lbrace || token.isSymbol 91 || token.isSymbol 40 then depth + 1 else depth
        let depth := if token.isSymbol 93 || token.isSymbol 41 then opened - 1 else opened
        if token.isSymbol 44 && depth == 0 then ⟨[], [], token :: rest⟩
        else (readExpressionFrom source depth (some token.stop) rest).behind source last token

/-- `#readExpression`: the value, the literals, and the tokens that are left. -/
def readExpression (source : Utf16) (tokens : List HclToken) : Utf16 × List Utf16 × List HclToken :=
  let read := readExpressionFrom source 0 none tokens
  (trim read.pieces.flatten, read.literals, read.rest)

/-- `#skipStatement`: skip an unrecognised statement without losing brace balance. -/
def skipStatement : Nat → List HclToken → List HclToken
  | _, [] => []
  | depth, token :: rest =>
      if token.kind = .newline ∧ depth = 0 then rest
      else if token.kind = .lbrace then skipStatement (depth + 1) rest
      else if token.kind = .rbrace then
        if depth = 0 then token :: rest else skipStatement (depth - 1) rest
      else skipStatement depth rest

/-- What `#tryStatement` recognises at a head, and the tokens it goes on with. -/
inductive Opening where
  | argument (value : List HclToken)
  | block (labels : List Utf16) (body : List HclToken)
  | neither

/-- What a statement's first token opens. -/
def tryStatement (head : HclToken) (rest : List HclToken) : Opening :=
  if head.kind = .ident then
    match argumentOpening rest with
    | some value => .argument value
    | none =>
        match blockOpening rest with
        | some (labels, body) => .block labels body
        | none => .neither
  else .neither

/-- `parseBody`, and the tokens that are left. Every round takes a token or more. -/
def parseBody (source : Utf16) (file : Option Utf16) :
    Nat → Bool → List HclToken → HclDocument × List HclToken
  | _, _, [] => (⟨[], []⟩, [])
  | 0, _, token :: rest => (⟨[], []⟩, token :: rest)
  | fuel + 1, topLevel, token :: rest =>
      if token.kind = .newline || token.isSymbol 44 then parseBody source file fuel topLevel rest
      else if token.kind = .rbrace then
        if topLevel then parseBody source file fuel topLevel rest else (⟨[], []⟩, rest)
      else
        match tryStatement token rest with
        | .argument value =>
            let (text, literals, behind) := readExpression source value
            let (document, left) := parseBody source file fuel topLevel behind
            (⟨document.blocks, ⟨token.value, text, literals, token.line⟩ :: document.arguments⟩, left)
        | .block labels inner =>
            let (body, behind) := parseBody source file fuel false inner
            let (document, left) := parseBody source file fuel topLevel behind
            (⟨⟨token.value, labels, body.blocks, body.arguments, token.line, file⟩ :: document.blocks,
              document.arguments⟩, left)
        | .neither => parseBody source file fuel topLevel (skipStatement 0 (token :: rest))

/-- `scanHcl`. An empty file name counts as none. -/
def scanHcl (text : Utf16) (file : Option Utf16) : HclDocument :=
  match tokenize text with
  | none => ⟨[], []⟩
  | some (tokens, comments) =>
      (parseBody (withoutComments text comments) (file.filter (· ≠ [])) tokens.length true tokens).1

end JumptotechLabs.Terraform
