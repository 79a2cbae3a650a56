/-
Module: JumptotechLabs.Verifier.Jenkinsfile
Layer: Verifier (services/verifier/src/ci/jenkinsfile.ts)
Purpose: The structural reader of declarative Jenkins pipelines: comments and string literals are blanked in
  place, blocks are found by their braces in the blanked text, and what is reported is read from the text
  itself at the same offsets.
Main exports: mask, stripComments, blankCommentsAndStrings, checkBraces, findBlock, topLevelOnly,
  readStages, parseJenkinsfile
-/
import JumptotechLabs.Core.Pattern
import JumptotechLabs.Verifier.LineValue
import JumptotechLabs.Verifier.DelimitedSpans

namespace JumptotechLabs.Verifier

open JumptotechLabs.Core
open JumptotechLabs.Core.Utf16 (isSpace trim isLetter isWord isHighSurrogate isLowSurrogate)

/-- One `KEY = expression` pair from an `environment { }` block. -/
structure JenkinsAssignment where
  key : Utf16
  value : Utf16
  location : Utf16
deriving DecidableEq

/-- A stage, as the graders read it. -/
structure JenkinsStage where
  name : Utf16
  order : Nat
  stepsBody : Option Utf16
  environment : List JenkinsAssignment
  hasWhen : Bool
  hasAgent : Bool
deriving DecidableEq

/-- A pipeline, as the graders read it. -/
structure JenkinsPipeline where
  agent : Option Utf16
  stages : List JenkinsStage
  environment : List JenkinsAssignment
  directives : List Utf16
  hasPost : Bool
deriving DecidableEq

/-! ### Lexing -/

/-- What a round of the lexer takes from the text. -/
inductive JenkinsPiece where
  | code (unit : UInt16)
  | comment (text : Utf16)
  | literal (text : Utf16)
deriving DecidableEq

/-- What is put in the place of a unit that is blanked. -/
def blankUnit (unit : UInt16) : UInt16 := if unit = 10 then 10 else 32

/-- The units of a piece. -/
def JenkinsPiece.text : JenkinsPiece → Utf16
  | .code unit => [unit]
  | .comment text => text
  | .literal text => text

/-- A piece of the mask; literals are blanked on request. -/
def JenkinsPiece.masked (blankStrings : Bool) : JenkinsPiece → Utf16
  | .code unit => [unit]
  | .comment text => text.map blankUnit
  | .literal text => if blankStrings then text.map blankUnit else text

/-- The literal behind its opening quote, and what follows it. A newline ends it as the quote does. -/
def quotedRest (quote : UInt16) : Utf16 → Utf16 × Utf16
  | [] => ([], [])
  | [unit] => ([unit], [])
  | unit :: next :: rest =>
      if unit = 92 then
        let (inside, behind) := quotedRest quote rest
        (unit :: next :: inside, behind)
      else if unit = quote ∨ unit = 10 then ([unit], next :: rest)
      else
        let (inside, behind) := quotedRest quote (next :: rest)
        (unit :: inside, behind)

/-- What stands before and behind the first place of a text. -/
def cutAtText (needle text : Utf16) : Option (Utf16 × Utf16) :=
  (indexOf text needle 0).map fun index => (text.take index, text.drop (index + needle.length))

/-- One round of the loop of `mask`, and the text that is left. -/
def nextPiece (first : UInt16) (rest : Utf16) : Except Utf16 (JenkinsPiece × Utf16) :=
  if first = 47 ∧ rest.head? = some 47 then
    .ok (.comment (first :: rest.takeWhile (· != 10)), rest.dropWhile (· != 10))
  else if first = 47 ∧ rest.head? = some 42 then
    match cutAtText [42, 47] rest.tail with
    | none => .error (units "an unterminated /* … */ comment")
    | some (inside, behind) => .ok (.comment (first :: 42 :: (inside ++ [42, 47])), behind)
  else if first = 39 ∨ first = 34 then
    if [first, first] <+: rest then
      match cutAtText [first, first, first] (rest.drop 2) with
      | none => .error (units "an unterminated " ++ [first, first, first] ++ units " string literal")
      | some (inside, behind) =>
          .ok (.literal ([first, first, first] ++ inside ++ [first, first, first]), behind)
    else
      let (inside, behind) := quotedRest first rest
      .ok (.literal (first :: inside), behind)
  else .ok (.code first, rest)

/-- The loop of `mask`. Every round takes a unit or more. -/
def maskFrom (blankStrings : Bool) : Nat → Utf16 → Except Utf16 Utf16
  | _, [] => .ok []
  | 0, _ :: _ => .ok []
  | rounds + 1, first :: rest =>
      match nextPiece first rest with
      | .error failure => .error failure
      | .ok (piece, behind) =>
          match maskFrom blankStrings rounds behind with
          | .error failure => .error failure
          | .ok masked => .ok (piece.masked blankStrings ++ masked)

/-- The text with its comments blanked, and its strings too if asked. -/
def mask (text : Utf16) (blankStrings : Bool) : Except Utf16 Utf16 :=
  maskFrom blankStrings text.length text

/-- `stripCommentsAndStrings`. -/
def stripCommentsAndStrings (text : Utf16) : Except Utf16 Utf16 := mask text true

/-- The text with its comments blanked and its strings left alone. -/
def stripComments (text : Utf16) : Utf16 :=
  match mask text false with
  | .ok masked => masked
  | .error _ => text

/-- The masked text; the text itself where it cannot be masked. -/
def blankCommentsAndStrings (text : Utf16) : Utf16 :=
  match mask text true with
  | .ok masked => masked
  | .error _ => text

/-! ### Braces -/

/-- The loop of `checkBraces`: the depth behind the text, or the line of a brace that closes nothing. -/
def braceDepth : Nat → Nat → Utf16 → Except Nat Nat
  | depth, _, [] => .ok depth
  | depth, line, unit :: rest =>
      if unit = 10 then braceDepth depth (line + 1) rest
      else if unit = 123 then braceDepth (depth + 1) line rest
      else if unit = 125 then
        if depth = 0 then .error line else braceDepth (depth - 1) line rest
      else braceDepth depth line rest

/-- Every brace has its partner. -/
def checkBraces (masked : Utf16) : Except Utf16 Unit :=
  match braceDepth 0 1 masked with
  | .error line => .error (units "an unexpected closing brace on line " ++ Utf16.decimal line)
  | .ok 0 => .ok ()
  | .ok (depth + 1) =>
      .error (Utf16.decimal (depth + 1) ++ units " unclosed block" ++
        (if depth = 0 then [] else units "s") ++ units " — a '\x7b' is never closed")

/-- The brace walk: where the depth comes back to zero at a closing brace. -/
def closingBrace : Int → Nat → Utf16 → Option Nat
  | _, _, [] => none
  | depth, index, unit :: rest =>
      if unit = 123 then closingBrace (depth + 1) (index + 1) rest
      else if unit = 125 then
        if depth - 1 = 0 then some index else closingBrace (depth - 1) (index + 1) rest
      else closingBrace depth (index + 1) rest

/-- The body of a block, and where it stands. -/
structure JenkinsBlock where
  bodyStart : Nat
  bodyEnd : Nat
  body : Utf16
deriving DecidableEq

/-- The first block whose header matches. The mask drives the brace walk, the original gives the body. -/
def findBlockIn (masked original : Utf16) (header : Pattern UInt16) (searchIn : Utf16) :
    Option JenkinsBlock :=
  match header.exec searchIn with
  | none => none
  | some found =>
      match indexOf masked [123] found.index with
      | none => none
      | some opening =>
          match closingBrace 0 opening (masked.drop opening) with
          | none => none
          | some closing => some ⟨opening + 1, closing, slice original (opening + 1) closing⟩

/-- The block under the first header that matches. -/
def findBlock (masked original : Utf16) (header : Pattern UInt16) : Option JenkinsBlock :=
  findBlockIn masked original header masked

/-- `(^|[^\w.])`. -/
def wordStart : Pattern UInt16 :=
  .group 1 (.alt .atStart (.one fun unit => !(isWord unit || unit == 46)))

/-- `(^|[^\w.])name\s*\{`. -/
def blockHeader (name : Utf16) : Pattern UInt16 :=
  .chain [wordStart, .literal name, .many true isSpace, .one (· == 123)]

/-- The characters a `for … of` goes over: two surrogates that stand together are one. -/
def codePoints : Utf16 → List Utf16
  | [] => []
  | [unit] => [[unit]]
  | unit :: next :: rest =>
      if isHighSurrogate unit && isLowSurrogate next then [unit, next] :: codePoints rest
      else [unit] :: codePoints (next :: rest)

/-- The loop of `topLevelOnly`. -/
def topLevelFrom : Int → List Utf16 → Utf16
  | _, [] => []
  | depth, ch :: rest =>
      if ch = [123] then (if depth = 0 then [123] else [32]) ++ topLevelFrom (depth + 1) rest
      else if ch = [125] then (if depth - 1 = 0 then [125] else [32]) ++ topLevelFrom (depth - 1) rest
      else (if depth = 0 ∨ ch = [10] then ch else [32]) ++ topLevelFrom depth rest

/-- The masked body with everything inside a nested block blanked out. -/
def topLevelOnly (maskedBody : Utf16) : Utf16 := topLevelFrom 0 (codePoints maskedBody)

/-! ### Directives -/

/-- `/^([A-Za-z_][A-Za-z0-9_]*)\b/`, and its group. -/
def leadingWord (line : Utf16) : Option Utf16 :=
  match line with
  | [] => none
  | first :: _ => if isLetter first || first == 95 then some (line.takeWhile isWord) else none

/-- The loop of `readDirectiveNames`, with the depth, the line so far and the names so far. -/
def directiveNamesFrom : Int → Utf16 → List Utf16 → Utf16 → List Utf16
  | depth, line, names, text =>
      let depth' := match text.head? with
        | some 123 => depth + 1
        | some 125 => depth - 1
        | _ => depth
      let named :=
        if depth' ≤ 1 then
          match leadingWord (trim line) with
          | some word => if word ∈ names then names else names ++ [word]
          | none => names
        else names
      match text with
      | [] => named
      | unit :: rest =>
          if unit = 10 then directiveNamesFrom depth' [] named rest
          else directiveNamesFrom depth' (line ++ [unit]) names rest

/-- Every `name {` or `name value` directive at the top level of a block. -/
def readDirectiveNames (maskedBody : Utf16) : List Utf16 := directiveNamesFrom 0 [] [] maskedBody

/-- A name at the head of a text, with no word unit behind it. -/
def startsWord (name text : Utf16) : Bool :=
  name.isPrefixOf text && !(text.drop name.length).head?.any isWord

/-- The first match of `(^|[^\w.])name\b`: where it starts and where it ends. -/
def wordFrom (multiline : Bool) (name : Utf16) : Nat → Option UInt16 → Utf16 → Option (Nat × Nat)
  | index, previous, text =>
      if (previous.isNone || multiline && previous.any isLineTerminator) && startsWord name text then
        some (index, index + name.length)
      else
        match text with
        | [] => none
        | unit :: rest =>
            if !(isWord unit || unit == 46) && startsWord name rest then
              some (index, index + 1 + name.length)
            else wordFrom multiline name (index + 1) (some unit) rest

/-- A directive that takes a value rather than a block, or the whole block. -/
def readDirectiveValue (maskedBody body name : Utf16) : Option Utf16 :=
  match wordFrom true name 0 none (topLevelOnly maskedBody) with
  | none => none
  | some (_, start) =>
      let rest := maskedBody.drop start
      if (rest.dropWhile isSpace).head? = some 123 then
        match findBlock rest (body.drop start) (.one (· == 123)) with
        | none => none
        | some block => some ([123] ++ trim block.body ++ [125])
      else
        let value := trim (match indexOf rest [10] 0 with
          | none => body.drop start
          | some newline => slice body start (start + newline))
        if value.isEmpty then none else some value

/-- `^([A-Za-z_][A-Za-z0-9_]*)\s*=\s*`. -/
def assignmentStart : Pattern UInt16 :=
  .chain [.atStart, .group 1 (.seq (.one fun unit => isLetter unit || unit == 95) (.many true isWord)),
    .many true isSpace, .one (· == 61), .many true isSpace]

/-- Read `environment { KEY = value }` into assignments. -/
def readEnvironmentBlock (maskedBody body location : Utf16) : List JenkinsAssignment :=
  match findBlockIn maskedBody body (blockHeader (units "environment")) (topLevelOnly maskedBody) with
  | none => []
  | some block =>
      ((stripComments block.body).splitOn 10).filterMap fun line =>
        if (trim line).isEmpty then none
        else
          match matchLineValue (trim line) assignmentStart with
          | none => none
          | some (groups, value) =>
              match groups.group 1 with
              | none => none
              | some key => if key.isEmpty then none else some ⟨key, value, location⟩

/-! ### Stages -/

/-- `(^|[^\w.])stage\s*\(\s*(['"])`. -/
def stageHeader : Pattern UInt16 :=
  .chain [wordStart, .literal (units "stage"), .many true isSpace, .one (· == 40), .many true isSpace,
    .group 2 (.one fun unit => unit == 39 || unit == 34)]

/-- `\s*\)\s*\{`, where `afterName.lastIndex` points. -/
def afterName : Pattern UInt16 :=
  .chain [.many true isSpace, .one (· == 41), .many true isSpace, .one (· == 123)]

/-- Where a stage that is reported stands in the stages block. -/
structure StageSpan where
  keyword : Nat
  name : Utf16
  opening : Nat
  closing : Nat
deriving DecidableEq

/-- The round of `readStages` for a header that was found; none where it goes on with the next. -/
def stageSpan (maskedStages stagesBody uncommented : Utf16) (found : Pattern.Match UInt16) :
    Option StageSpan :=
  let nameStart := found.index + found.text.length
  match indexOf uncommented ((found.group 2).getD []) nameStart with
  | none => none
  | some quote =>
      if 10 ∈ slice uncommented nameStart quote then none
      else
        match afterName.matchAt (quote + 1) (uncommented.drop quote).head? (uncommented.drop (quote + 1)) with
        | none => none
        | some behind =>
            let opening := quote + 1 + behind.text.length - 1
            match closingBrace 0 opening (maskedStages.drop opening) with
            | none => none
            | some closing =>
                some ⟨found.index + ((found.group 1).getD []).length, slice stagesBody nameStart quote,
                  opening, closing⟩

/-- The next match of the header, from `header.lastIndex` on. -/
def nextHeader (uncommented : Utf16) (lastIndex : Nat) : Option (Pattern.Match UInt16) :=
  stageHeader.search lastIndex (uncommented.take lastIndex).getLast? (uncommented.drop lastIndex)

/-- The loop of `readStages`. Every round starts further on. -/
def stageSpansFrom (maskedStages stagesBody uncommented : Utf16) : Nat → Nat → List StageSpan
  | 0, _ => []
  | rounds + 1, lastIndex =>
      match nextHeader uncommented lastIndex with
      | none => []
      | some found =>
          match stageSpan maskedStages stagesBody uncommented found with
          | none =>
              stageSpansFrom maskedStages stagesBody uncommented rounds (found.index + found.text.length)
          | some span =>
              span :: stageSpansFrom maskedStages stagesBody uncommented rounds span.closing

/-- The stages of a block's body. -/
def stageSpans (maskedStages stagesBody : Utf16) : List StageSpan :=
  let uncommented := stripComments stagesBody
  stageSpansFrom maskedStages stagesBody uncommented (uncommented.length + 1) 0

/-- The stage that is reported for a span. -/
def readStage (maskedStages stagesBody : Utf16) (order : Nat) (span : StageSpan) : JenkinsStage :=
  let stageBody := slice stagesBody (span.opening + 1) span.closing
  let maskedStageBody := slice maskedStages (span.opening + 1) span.closing
  { name := span.name
    order := order
    stepsBody :=
      (findBlock maskedStageBody stageBody (blockHeader (units "steps"))).map JenkinsBlock.body
    environment := readEnvironmentBlock maskedStageBody stageBody
      (units "stage('" ++ span.name ++ units "').environment")
    hasWhen := (findBlock maskedStageBody stageBody (blockHeader (units "when"))).isSome
    hasAgent := (wordFrom false (units "agent") 0 none maskedStageBody).isSome }

/-- The `stage('Name') { … }` blocks inside a `stages { }` body, in order. -/
def readStages (maskedStages stagesBody : Utf16) : List JenkinsStage :=
  (stageSpans maskedStages stagesBody).mapIdx fun index span =>
    readStage maskedStages stagesBody (index + 1) span

/-- The pipeline of a text, or what is wrong with it. -/
def parseJenkinsfile (text : Utf16) : Except Utf16 JenkinsPipeline :=
  match stripCommentsAndStrings text with
  | .error failure => .error failure
  | .ok masked =>
      match checkBraces masked with
      | .error failure => .error failure
      | .ok () =>
          match findBlock masked text (blockHeader (units "pipeline")) with
          | none =>
              .error (units "no `pipeline \x7b … \x7d` block was found" ++
                units " — a declarative pipeline starts with `pipeline \x7b`")
          | some pipelineBlock =>
              let body := pipelineBlock.body
              let maskedBody := slice masked pipelineBlock.bodyStart pipelineBlock.bodyEnd
              match findBlock maskedBody body (blockHeader (units "stages")) with
              | none =>
                  .error (units "no `stages \x7b … \x7d` block was found inside `pipeline \x7b … \x7d`")
              | some stagesBlock =>
                  .ok
                    { agent := readDirectiveValue maskedBody body (units "agent")
                      stages := readStages (slice maskedBody stagesBlock.bodyStart stagesBlock.bodyEnd)
                        stagesBlock.body
                      environment := readEnvironmentBlock maskedBody body (units "pipeline.environment")
                      directives := readDirectiveNames maskedBody
                      hasPost := (findBlock maskedBody body (blockHeader (units "post"))).isSome }

end JumptotechLabs.Verifier
