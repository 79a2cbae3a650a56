/-
Module: JumptotechLabs.Verifier.Dockerfile
Layer: Verifier (services/verifier/src/dockerfile.ts)
Purpose: The Dockerfile reader: lines joined at their backslashes, comments taken out on the way, and each
  logical line read as an instruction or kept as an unknown line. A comment is a line without text to
  the joining, so it ends the instruction it stands in.
Main exports: parseDockerfile, Joined, joinLine, openText, continuation, logicalFrom_open,
  comment_invisible_iff
-/
import JumptotechLabs.Core.Lines
import JumptotechLabs.Core.Pattern

namespace JumptotechLabs.Verifier

open JumptotechLabs.Core
open JumptotechLabs.Core.Utf16 (isSpace trim trimStart trimEnd splitLines splitSpaces dropReturn isLetter
  isWord upperAscii)

/-! ### The source -/

/-- `DOCKERFILE_INSTRUCTIONS`. -/
inductive DockerfileInstruction where
  | «from»
  | run
  | cmd
  | label
  | maintainer
  | expose
  | env
  | add
  | copy
  | entrypoint
  | volume
  | user
  | workdir
  | arg
  | onbuild
  | stopsignal
  | healthcheck
  | shell
deriving DecidableEq

namespace DockerfileInstruction

/-- The instructions, in the order of the source. -/
def all : List DockerfileInstruction :=
  [.from, .run, .cmd, .label, .maintainer, .expose, .env, .add, .copy, .entrypoint, .volume, .user,
    .workdir, .arg, .onbuild, .stopsignal, .healthcheck, .shell]

/-- The keyword of an instruction. -/
def keyword : DockerfileInstruction → Utf16
  | .from => units "FROM"
  | .run => units "RUN"
  | .cmd => units "CMD"
  | .label => units "LABEL"
  | .maintainer => units "MAINTAINER"
  | .expose => units "EXPOSE"
  | .env => units "ENV"
  | .add => units "ADD"
  | .copy => units "COPY"
  | .entrypoint => units "ENTRYPOINT"
  | .volume => units "VOLUME"
  | .user => units "USER"
  | .workdir => units "WORKDIR"
  | .arg => units "ARG"
  | .onbuild => units "ONBUILD"
  | .stopsignal => units "STOPSIGNAL"
  | .healthcheck => units "HEALTHCHECK"
  | .shell => units "SHELL"

/-- The instruction of a keyword, in any case. -/
def ofKeyword (text : Utf16) : Option DockerfileInstruction :=
  all.find? fun instruction => instruction.keyword = text.map upperAscii

end DockerfileInstruction

/-- An instruction with its argument. -/
structure DockerfileLine where
  instruction : DockerfileInstruction
  /-- Everything after the keyword, with continuations joined. -/
  argument : Utf16
deriving DecidableEq

/-- What the parser makes of a file. -/
structure ParsedDockerfile where
  lines : List DockerfileLine
  instructions : List DockerfileInstruction
  baseImages : List Utf16
  unknownLines : List Utf16
deriving DecidableEq

/-- `/^\s*#/.test(line)`. -/
def isComment (line : Utf16) : Bool := (trimStart line).head? == some 35

/-- A line without its trailing white space, and without text if it is a comment. -/
def withoutComment (raw : Utf16) : Utf16 :=
  let line := trimEnd raw
  if isComment line then [] else line

/-- The logical lines so far, and the text of a continuation that is open. -/
structure Joined where
  logical : List Utf16
  buffer : Utf16
deriving DecidableEq

/-- One round of the loop. -/
def joinLine (joined : Joined) (raw : Utf16) : Joined :=
  let line := withoutComment raw
  if (trim line).isEmpty && joined.buffer.isEmpty then joined
  else if line.getLast? = some 92 then
    { joined with buffer := joined.buffer ++ (line.dropLast ++ [32]) }
  else { logical := joined.logical ++ [trim (joined.buffer ++ line)], buffer := [] }

/-- The logical lines of a file; what is still open at its end is one. -/
def logicalLines (raws : List Utf16) : List Utf16 :=
  let joined := raws.foldl joinLine ⟨[], []⟩
  if (trim joined.buffer).isEmpty then joined.logical else joined.logical ++ [trim joined.buffer]

/-- `^([A-Za-z][A-Za-z0-9_]*)\s+([\s\S]*)$`. -/
def instructionExpression : Pattern UInt16 :=
  .chain [.atStart, .group 1 (.seq (.one isLetter) (.many true isWord)), .plus true isSpace,
    .group 2 (.many true fun _ => true), .atEnd]

/-- A logical line as an instruction, if it is one. -/
def readInstruction (line : Utf16) : Option DockerfileLine :=
  match instructionExpression.exec line with
  | none => none
  | some found =>
      match DockerfileInstruction.ofKeyword ((found.group 1).getD []) with
      | none => none
      | some instruction => some ⟨instruction, trim ((found.group 2).getD [])⟩

/-- The instructions present, in first-appearance order. -/
def firstAppearances (lines : List DockerfileLine) : List DockerfileInstruction :=
  lines.foldl (fun seen line => if seen.contains line.instruction then seen else seen ++ [line.instruction]) []

/-- The image a `FROM` names: its first word that is no flag. -/
def baseImage (line : DockerfileLine) : Utf16 :=
  (((splitSpaces line.argument).filter fun token => !([45, 45] : Utf16).isPrefixOf token).head?).getD []

/-- What is made of the logical lines. Those without text are passed over. -/
def readLogical (logical : List Utf16) : ParsedDockerfile :=
  let present := logical.filter fun line => !line.isEmpty
  let lines := present.filterMap readInstruction
  { lines := lines
    instructions := firstAppearances lines
    baseImages := ((lines.filter fun line => line.instruction = .from).map baseImage).filter
      fun image => !image.isEmpty
    unknownLines := present.filter fun line => (readInstruction line).isNone }

/-- The logical lines, read one by one. -/
def parseDockerfile (text : Utf16) : ParsedDockerfile := readLogical (logicalLines (splitLines text))

/-! ### Continuations -/

/-- The text of the continuation that is open behind these lines. -/
def openText (raws : List Utf16) : Utf16 := (raws.foldl joinLine ⟨[], []⟩).buffer

/-- What a continuation goes on with: the lines up to the first that has no backslash at its end. -/
def continuation : List Utf16 → Utf16
  | [] => []
  | raw :: rest =>
      let line := withoutComment raw
      if line.getLast? = some 92 then line.dropLast ++ (32 :: continuation rest) else line

/-- The lines behind it. -/
def afterContinuation : List Utf16 → List Utf16
  | [] => []
  | raw :: rest => if (withoutComment raw).getLast? = some 92 then afterContinuation rest else rest

/-- The logical lines that have text. -/
def present (logical : List Utf16) : List Utf16 := logical.filter fun line => !line.isEmpty

theorem present_append (first second : List Utf16) :
    present (first ++ second) = present first ++ present second := List.filter_append ..

/-- The logical lines with text, of what was joined already and the lines to come. -/
def logicalFrom (joined : Joined) (raws : List Utf16) : List Utf16 :=
  let ended := raws.foldl joinLine joined
  present (ended.logical ++ [trim ended.buffer])

theorem present_logicalLines (raws : List Utf16) :
    present (logicalLines raws) = logicalFrom ⟨[], []⟩ raws := by
  rw [logicalLines, logicalFrom]
  split
  · rename_i blank
    rw [List.isEmpty_iff.mp blank, present_append]
    simp [present]
  · rfl

theorem logical_joinLine (joined : Joined) (raw : Utf16) :
    joinLine joined raw =
      ⟨joined.logical ++ (joinLine ⟨[], joined.buffer⟩ raw).logical,
        (joinLine ⟨[], joined.buffer⟩ raw).buffer⟩ := by
  simp only [joinLine]
  split
  · simp
  · split
    · simp
    · simp

/-- What was joined before stays in front. -/
theorem logicalFrom_logical (logical : List Utf16) (buffer : Utf16) (raws : List Utf16) :
    logicalFrom ⟨logical, buffer⟩ raws = present logical ++ logicalFrom ⟨[], buffer⟩ raws := by
  induction raws generalizing logical buffer with
  | nil => simp only [logicalFrom, List.foldl_nil, List.nil_append, present_append]
  | cons raw rest ih =>
      have onward : ∀ joined, logicalFrom joined (raw :: rest) = logicalFrom (joinLine joined raw) rest :=
        fun _ => rfl
      rw [onward, onward, logical_joinLine, ih, logical_joinLine ⟨[], buffer⟩ raw, ih ([] ++ _),
        present_append, List.nil_append, List.append_assoc]

theorem withoutComment_blank {raw : Utf16} (blank : trim (withoutComment raw) = []) :
    withoutComment raw = [] := by
  rw [Utf16.trim_eq_nil_iff] at blank
  rw [withoutComment] at blank ⊢
  split at blank
  · rename_i comments
    rw [if_pos comments]
  · rename_i plain
    rw [if_neg plain]
    obtain ⟨-, -, -, ends⟩ := Utf16.exists_trimEnd raw
    by_contra nonempty
    have last := List.getLast?_eq_some_getLast nonempty
    have space := blank _ (List.getLast_mem nonempty)
    rw [ends _ last] at space
    cases space

/-- An open continuation takes its lines, and closes with the last of them. -/
theorem logicalFrom_open (logical : List Utf16) (buffer : Utf16) (isOpen : buffer ≠ [])
    (raws : List Utf16) :
    logicalFrom ⟨logical, buffer⟩ raws =
      logicalFrom ⟨logical ++ [trim (buffer ++ continuation raws)], []⟩ (afterContinuation raws) := by
  induction raws generalizing buffer with
  | nil =>
      simp only [logicalFrom, List.foldl_nil, continuation, afterContinuation, List.append_nil,
        present_append]
      simp [present, trim]
  | cons raw rest ih =>
      have notSkipped : ¬ ((trim (withoutComment raw)).isEmpty && buffer.isEmpty) = true := by
        simp [isOpen]
      rw [continuation, afterContinuation]
      by_cases goesOn : (withoutComment raw).getLast? = some 92
      · have step : joinLine ⟨logical, buffer⟩ raw =
            ⟨logical, buffer ++ ((withoutComment raw).dropLast ++ [32])⟩ := by
          rw [joinLine]
          dsimp only
          rw [if_neg notSkipped, if_pos goesOn]
        have onward : logicalFrom ⟨logical, buffer⟩ (raw :: rest) =
            logicalFrom (joinLine ⟨logical, buffer⟩ raw) rest := rfl
        rw [onward, step, ih _ (by simp [isOpen]), if_pos goesOn, if_pos goesOn]
        simp
      · have step : joinLine ⟨logical, buffer⟩ raw =
            ⟨logical ++ [trim (buffer ++ withoutComment raw)], []⟩ := by
          rw [joinLine]
          dsimp only
          rw [if_neg notSkipped, if_neg goesOn]
        have onward : logicalFrom ⟨logical, buffer⟩ (raw :: rest) =
            logicalFrom (joinLine ⟨logical, buffer⟩ raw) rest := rfl
        rw [onward, step, if_neg goesOn, if_neg goesOn]

/-- Where none is open, the next lines make a logical line of their own. -/
theorem logicalFrom_closed (logical raws : List Utf16) :
    logicalFrom ⟨logical, []⟩ raws =
      logicalFrom ⟨logical ++ [trim (continuation raws)], []⟩ (afterContinuation raws) := by
  cases raws with
  | nil =>
      simp only [logicalFrom, List.foldl_nil, continuation, afterContinuation, present_append]
      simp [present, trim]
  | cons raw rest =>
      have onward : logicalFrom ⟨logical, []⟩ (raw :: rest) =
          logicalFrom (joinLine ⟨logical, []⟩ raw) rest := rfl
      rw [onward, continuation, afterContinuation, joinLine]
      dsimp only
      by_cases blank : trim (withoutComment raw) = []
      · have empty := withoutComment_blank blank
        rw [if_pos (by simp [blank]), empty, if_neg (by simp), if_neg (by simp), logicalFrom_logical,
          logicalFrom_logical (logical ++ _), present_append]
        simp [present, trim]
      · rw [if_neg (by simp [blank])]
        by_cases goesOn : (withoutComment raw).getLast? = some 92
        · rw [if_pos goesOn, if_pos goesOn, if_pos goesOn, List.nil_append,
            logicalFrom_open _ _ (by simp)]
          simp
        · rw [if_neg goesOn, if_neg goesOn, if_neg goesOn, List.nil_append]

/-! ### Comments -/

/-- The lines of what stands in front of a line break. -/
def linesBefore (before : Utf16) : List Utf16 := (before.splitOn 10).map dropReturn

theorem withoutComment_of_isComment {comment : Utf16} (comments : isComment comment = true) :
    withoutComment (dropReturn comment) = [] := by
  have ended : trimEnd (dropReturn comment) = trimEnd comment := Utf16.trimEnd_dropReturn comment
  have same : isComment (trimEnd comment) = isComment comment := by
    rw [isComment, isComment, Utf16.head?_trimStart, Utf16.head?_trimStart, Utf16.trim_trimEnd]
  rw [withoutComment, ended, if_pos (same.trans comments)]

theorem splitLines_insert {comment : Utf16} (inLine : 10 ∉ comment) (before after : Utf16) :
    splitLines (before ++ 10 :: (comment ++ 10 :: after)) =
      linesBefore before ++ dropReturn comment :: splitLines after := by
  rw [Utf16.splitLines_append, Utf16.splitLines_append, List.splitOn_eq_singleton inLine]
  rfl

/-- Every logical line with text is an instruction or unknown. -/
theorem count_readLogical (logical : List Utf16) :
    (readLogical logical).lines.length + (readLogical logical).unknownLines.length =
      (present logical).length := by
  rw [readLogical]
  change (List.filterMap readInstruction (present logical)).length +
    ((present logical).filter fun line => (readInstruction line).isNone).length = _
  induction present logical with
  | nil => rfl
  | cons line rest ih =>
      cases read : readInstruction line with
      | none =>
          rw [List.filterMap_cons_none read, List.filter_cons_of_pos (by simp [read]), List.length_cons,
            List.length_cons, ← Nat.add_assoc, ih]
      | some instruction =>
          rw [List.filterMap_cons_some read, List.filter_cons_of_neg (by simp [read]), List.length_cons,
            List.length_cons, Nat.add_right_comm, ih]

theorem readLogical_present (logical : List Utf16) : readLogical (present logical) = readLogical logical := by
  have same : present (present logical) = present logical := by
    simp [present, List.filter_filter]
  rw [readLogical, readLogical]
  change _ = _
  simp only [present] at same ⊢
  rw [same]

/-- A line that is a comment changes nothing exactly where no text is open in front of it, or the open
    continuation has nothing but white space to go on with. -/
theorem comment_invisible_iff (before comment after : Utf16) (comments : isComment comment = true)
    (inLine : 10 ∉ comment) :
    parseDockerfile (before ++ 10 :: (comment ++ 10 :: after)) = parseDockerfile (before ++ 10 :: after) ↔
      Blank (openText (linesBefore before)) ∨ Blank (continuation (splitLines after)) := by
  have isBefore : splitLines (before ++ 10 :: after) = linesBefore before ++ splitLines after :=
    Utf16.splitLines_append before after
  cases joined : (linesBefore before).foldl joinLine ⟨[], []⟩ with
  | mk logical buffer =>
    have isOpen : openText (linesBefore before) = buffer := by rw [openText, joined]
    have without : present (logicalLines (splitLines (before ++ 10 :: after))) =
        logicalFrom ⟨logical, buffer⟩ (splitLines after) := by
      rw [present_logicalLines, isBefore, logicalFrom, List.foldl_append, joined]
      rfl
    have joinedComment : joinLine ⟨logical, buffer⟩ (dropReturn comment) =
        if buffer.isEmpty then ⟨logical, buffer⟩ else ⟨logical ++ [trim buffer], []⟩ := by
      rw [joinLine, withoutComment_of_isComment comments]
      simp [trim]
    have inserted : present (logicalLines (splitLines (before ++ 10 :: (comment ++ 10 :: after)))) =
        logicalFrom (joinLine ⟨logical, buffer⟩ (dropReturn comment)) (splitLines after) := by
      rw [present_logicalLines, splitLines_insert inLine, logicalFrom, List.foldl_append, joined]
      rfl
    rw [isOpen, parseDockerfile, parseDockerfile, ← readLogical_present (logicalLines _), inserted,
      ← readLogical_present (logicalLines (splitLines (before ++ 10 :: after))), without, joinedComment]
    cases buffer with
    | nil => simp [Blank.nil]
    | cons unit rest =>
        generalize isBuffer : unit :: rest = buffer
        have nonempty : buffer ≠ [] := by rw [← isBuffer]; exact List.cons_ne_nil unit rest
        rw [if_neg (by simpa using nonempty), logicalFrom_closed, logicalFrom_open _ _ nonempty,
          logicalFrom_logical, logicalFrom_logical (logical ++ _)]
        simp only [present_append]
        constructor
        · intro same
          by_contra visible
          rw [not_or] at visible
          -- Two logical lines where there was one: one more line is read.
          have counts := congrArg (fun parsed : ParsedDockerfile =>
            parsed.lines.length + parsed.unknownLines.length) same
          simp only [count_readLogical, present_append, List.length_append] at counts
          have one : ∀ text : Utf16, ¬ Blank text → (present (present [trim text])).length = 1 := by
            intro text shown
            have text : trim text ≠ [] := fun nothing => shown (Utf16.trim_eq_nil_iff.mp nothing)
            simp [present, text]
          have whole : ¬ Blank (buffer ++ continuation (splitLines after)) :=
            fun all => visible.1 (blank_append.mp all).1
          rw [one _ visible.1, one _ visible.2, one _ whole] at counts
          omega
        · rintro (blank | blank)
          · rw [Utf16.trim_blank_append blank, Utf16.trim_eq_nil_iff.mpr blank]
            simp [present]
          · rw [Utf16.trim_append_blank blank, Utf16.trim_eq_nil_iff.mpr blank]
            simp [present]

theorem comment_invisible_behindImage :
    isComment (units "  # the tools \\") = true ∧ 10 ∉ units "  # the tools \\" ∧
      (parseDockerfile (units "FROM alpine" ++ 10 :: (units "  # the tools \\" ++ 10 :: units "RUN make")) =
          parseDockerfile (units "FROM alpine" ++ 10 :: units "RUN make") ↔
        Blank (openText (linesBefore (units "FROM alpine"))) ∨
          Blank (continuation (splitLines (units "RUN make")))) :=
  ⟨by decide, by decide,
    comment_invisible_iff (units "FROM alpine") (units "  # the tools \\") (units "RUN make")
      (by decide) (by decide)⟩

/-- A comment between the lines of an instruction ends it. -/
theorem comment_ends_instruction :
    isComment (units "# and then") = true ∧ 10 ∉ units "# and then" ∧
      parseDockerfile (units "FROM alpine\nRUN make \\" ++
          10 :: (units "# and then" ++ 10 :: units "  install")) ≠
        parseDockerfile (units "FROM alpine\nRUN make \\" ++ 10 :: units "  install") := by
  decide

end JumptotechLabs.Verifier
