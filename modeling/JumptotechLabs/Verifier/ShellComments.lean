/-
Module: JumptotechLabs.Verifier.ShellComments
Layer: Verifier (services/verifier/src/ci/workflow.ts)
Purpose: The comments of a run script: what `withoutShellComments` cuts from each line, and what the shell reads as a
  comment, with the quotes that are open across lines. The two agree exactly where no quoted `#` stands behind white
  space and no comment begins directly behind an operator.
Main exports: withoutShellComment, withoutShellComments, ShellState, shellReader, withoutCommentsOfShell, CutPlace,
  withoutShellComments_iff_shell, quoted_hash_is_cut
-/
import JumptotechLabs.Core.Comments
import JumptotechLabs.Core.Utf16

namespace JumptotechLabs.Verifier

open JumptotechLabs.Core
open JumptotechLabs.Core.Utf16 (isSpace)

/-! ### The cut of each line -/

/-- The scan, told whether it is at the start of the line or behind white space. -/
def cutBehind : Bool → Utf16 → Utf16
  | _, [] => []
  | free, unit :: rest => if unit = unitOf '#' ∧ free = true then [] else unit :: cutBehind (isSpace unit) rest

/-- One line with its comment cut. -/
def withoutShellComment (line : Utf16) : Utf16 := cutBehind true line

/-- Each line without its comment. -/
def withoutShellComments (text : Utf16) : Utf16 :=
  [unitOf '\n'].intercalate ((text.splitOn (unitOf '\n')).map withoutShellComment)

/-- The same rule over the whole text. -/
def lineReader : CommentReader UInt16 Bool where
  newline := unitOf '\n'
  start := true
  begins := fun free unit => unit = unitOf '#' ∧ free = true
  next := fun _ unit => isSpace unit
  resumed := true
  newline_stays := by decide

/-- By induction on the text: the first line from where the scan is, and every further line from its start. -/
theorem strip_eq_lines (text : Utf16) (free : Bool) {line : Utf16} {lines : List Utf16}
    (isSplit : text.splitOn (unitOf '\n') = line :: lines) :
    lineReader.strip (some free) text = [unitOf '\n'].intercalate (cutBehind free line :: lines.map withoutShellComment) ∧
      lineReader.strip none text = [unitOf '\n'].intercalate ([] :: lines.map withoutShellComment) := by
  induction text generalizing free line lines with
  | nil =>
      cases isSplit
      exact ⟨rfl, rfl⟩
  | cons unit rest ih =>
      obtain ⟨next, more, restSplit⟩ := List.exists_cons_of_ne_nil (List.splitOn_ne_nil (unitOf '\n') rest)
      rw [List.splitOn_cons_eq_if_modifyHead, restSplit] at isSplit
      by_cases ends : unit = unitOf '\n'
      · subst ends
        rw [if_pos (by decide)] at isSplit
        cases isSplit
        have resumes := (ih true restSplit).1
        constructor
        · rw [cutBehind, List.map_cons, List.intercalate_cons_cons]
          exact congrArg (unitOf '\n' :: ·) resumes
        · rw [List.map_cons, List.intercalate_cons_cons]
          exact congrArg (unitOf '\n' :: ·) resumes
      · rw [if_neg (by simpa using ends), List.modifyHead_cons] at isSplit
        cases isSplit
        have skipped := (ih free restSplit).2
        have dropped : lineReader.keeps none unit = false := decide_eq_false ends
        have skips : lineReader.strip none (unit :: rest) = lineReader.strip none rest := by
          rw [CommentReader.strip, dropped, if_neg (by decide), CommentReader.step]
          exact congrArg (lineReader.strip · rest) (if_neg ends)
        refine ⟨?_, skips.trans skipped⟩
        by_cases begins : unit = unitOf '#' ∧ free = true
        · have begun : lineReader.begins free unit = true := decide_eq_true begins
          rw [cutBehind, if_pos begins, CommentReader.strip, CommentReader.keeps, CommentReader.step, begun]
          exact skipped
        · have stays : lineReader.begins free unit = false := decide_eq_false begins
          rw [cutBehind, if_neg begins, CommentReader.strip, CommentReader.keeps, CommentReader.step, stays,
            List.intercalate_cons_cons_left]
          exact congrArg (unit :: ·) (ih (isSpace unit) restSplit).1

theorem withoutShellComments_eq_strip (text : Utf16) :
    withoutShellComments text = lineReader.strip (some true) text := by
  obtain ⟨line, lines, isSplit⟩ := List.exists_cons_of_ne_nil (List.splitOn_ne_nil (unitOf '\n') text)
  rw [withoutShellComments, isSplit]
  exact (strip_eq_lines text true isSplit).1.symm

/-! ### What the shell reads -/

/-- Outside quotes, whether a word may begin here; behind a backslash; in single and in double quotes. -/
inductive ShellState where
  | code (fresh : Bool)
  | escaped (fresh : Bool)
  | single
  | double
  | doubleEscaped
deriving DecidableEq

/-- A blank, a line feed or an operator, behind which a word begins. -/
def isWordBreak (unit : UInt16) : Bool :=
  unit = unitOf ' ' || unit = unitOf '\t' || unit = unitOf '\n' || unit = unitOf ';' || unit = unitOf '&' ||
    unit = unitOf '|' || unit = unitOf '(' || unit = unitOf ')'

/-- The state behind a unit. -/
def ShellState.next : ShellState → UInt16 → ShellState
  | .code fresh, unit =>
      if unit = unitOf '\\' then .escaped fresh
      else if unit = unitOf '\'' then .single
      else if unit = unitOf '"' then .double
      else .code (isWordBreak unit)
  -- A backslash before a line feed is no part of a word.
  | .escaped fresh, unit => .code (unit = unitOf '\n' && fresh)
  | .single, unit => if unit = unitOf '\'' then .code false else .single
  | .double, unit =>
      if unit = unitOf '\\' then .doubleEscaped else if unit = unitOf '"' then .code false else .double
  | .doubleEscaped, _ => .double

/-- The shell: an unquoted, unescaped `#` that begins a word begins a comment. -/
def shellReader : CommentReader UInt16 ShellState where
  newline := unitOf '\n'
  start := .code true
  begins := fun state unit => unit = unitOf '#' ∧ state = .code true
  next := ShellState.next
  resumed := .code true
  newline_stays := fun state => decide_eq_false fun both => absurd both.1 (by decide)

/-- The script without the shell's comments. -/
def withoutCommentsOfShell (script : Utf16) : Utf16 := shellReader.strip (some shellReader.start) script

/-- Where the shell is behind the beginning of a script; within a comment it is nowhere. -/
def shellAfter (before : Utf16) : Option ShellState := shellReader.after (some shellReader.start) before

/-- No quote is open at the end of the script. -/
def QuotesBalanced (script : Utf16) : Prop :=
  match shellAfter script with
  | none | some (.code _) => True
  | some (.escaped _) | some .single | some .double | some .doubleEscaped => False

instance (script : Utf16) : Decidable (QuotesBalanced script) := by
  unfold QuotesBalanced
  split <;> infer_instance

/-! ### Where the two agree -/

/-- At the start of a line or behind white space. -/
def CutPlace (before : Utf16) : Prop := before.getLast?.all isSpace = true

theorem lineReader_after {before : Utf16} {start free : Bool}
    (reached : lineReader.after (some start) before = some free) :
    free = (before.getLast?.map isSpace).getD start := by
  rcases List.eq_nil_or_concat before with rfl | ⟨front, unit, rfl⟩
  · cases reached
    rfl
  · rw [List.concat_eq_append, CommentReader.after, List.foldl_append] at reached
    rw [List.concat_eq_append, List.getLast?_concat]
    cases state : front.foldl lineReader.step (some start) with
    | none =>
        rw [state] at reached
        change (if unit = unitOf '\n' then some true else none) = some free at reached
        split at reached
        · rename_i isLineFeed
          cases reached
          rw [isLineFeed]
          show true = isSpace (unitOf '\n')
          decide
        · cases reached
    | some was =>
        rw [state] at reached
        change (if lineReader.begins was unit = true then none else some (isSpace unit)) = some free at reached
        split at reached
        · cases reached
        · cases reached
          rfl

/-- The scan is free at cut places only. -/
theorem cutPlace_of_free {before : Utf16} {start : Bool} (reached : lineReader.after (some start) before = some true) :
    CutPlace before := by
  have free := lineReader_after reached
  rw [CutPlace]
  cases last : before.getLast? with
  | none => rfl
  | some unit =>
      rw [last] at free
      exact free.symm

/-- Where the scan is not behind a comment of its own, it cuts at every `#` of a cut place. -/
theorem lineReader_beginsAt_iff {before : Utf16} {unit : UInt16} :
    lineReader.BeginsAt (some true) before unit ↔
      unit = unitOf '#' ∧ CutPlace before ∧ lineReader.after (some true) before ≠ none := by
  constructor
  · rintro ⟨free, reached, begins⟩
    have both : unit = unitOf '#' ∧ free = true := of_decide_eq_true begins
    exact ⟨both.1, cutPlace_of_free (both.2 ▸ reached), by rw [reached]; exact Option.some_ne_none _⟩
  · rintro ⟨isHash, place, isCode⟩
    obtain ⟨free, reached⟩ := Option.ne_none_iff_exists'.mp isCode
    refine ⟨free, reached, decide_eq_true ⟨isHash, ?_⟩⟩
    rw [lineReader_after reached]
    rw [CutPlace] at place
    cases last : before.getLast? with
    | none => rfl
    | some unit =>
        rw [last] at place
        exact place

theorem shellReader_beginsAt_iff {before : Utf16} {unit : UInt16} :
    shellReader.BeginsAt (some shellReader.start) before unit ↔
      unit = unitOf '#' ∧ shellAfter before = some (.code true) := by
  constructor
  · rintro ⟨state, reached, begins⟩
    have both : unit = unitOf '#' ∧ state = .code true := of_decide_eq_true begins
    exact ⟨both.1, both.2 ▸ reached⟩
  · rintro ⟨isHash, reached⟩
    exact ⟨.code true, reached, decide_eq_true ⟨isHash, rfl⟩⟩

/-- The cuts are the shell's comments exactly if each `#` of a cut place outside the shell's comments begins one, and
    each of the shell's comments begins at a cut place. -/
theorem withoutShellComments_iff_shell (script : Utf16) :
    withoutShellComments script = withoutCommentsOfShell script ↔
      (∀ before behind, script = before ++ unitOf '#' :: behind → CutPlace before → shellAfter before ≠ none →
        shellAfter before = some (.code true)) ∧
      ∀ before behind, script = before ++ unitOf '#' :: behind → shellAfter before = some (.code true) →
        CutPlace before := by
  have start : CommentReader.Together (some true) (some shellReader.start) := trivial
  have same : lineReader.newline = shellReader.newline := rfl
  rw [withoutShellComments_eq_strip, withoutCommentsOfShell, CommentReader.strip_eq_strip_iff same script start]
  constructor
  · intro agree
    refine ⟨fun before behind isPlace place isCode => ?_, fun before behind isPlace begins => ?_⟩
    · have together := CommentReader.together_after same start fun front unit rest (isFront : before = front ++ unit :: rest) =>
        agree front unit (rest ++ unitOf '#' :: behind) (by rw [isPlace, isFront, List.append_assoc]; rfl)
      have isCode' : lineReader.after (some true) before ≠ none := by
        intro isComment
        rw [isComment] at together
        obtain ⟨state, reached⟩ := Option.ne_none_iff_exists'.mp isCode
        rw [shellAfter] at reached
        rw [reached] at together
        exact together
      have begins := (agree before _ behind isPlace).mp (lineReader_beginsAt_iff.mpr ⟨rfl, place, isCode'⟩)
      exact (shellReader_beginsAt_iff.mp begins).2
    · have begins' := (agree before _ behind isPlace).mpr (shellReader_beginsAt_iff.mpr ⟨rfl, begins⟩)
      exact (lineReader_beginsAt_iff.mp begins').2.1
  · rintro ⟨cutIsComment, commentIsCut⟩
    refine CommentReader.places_agree same start fun before unit behind isPlace together => ?_
    rw [lineReader_beginsAt_iff, shellReader_beginsAt_iff]
    constructor
    · rintro ⟨rfl, place, isCode⟩
      refine ⟨rfl, cutIsComment before behind isPlace place fun isComment => ?_⟩
      obtain ⟨free, reached⟩ := Option.ne_none_iff_exists'.mp isCode
      rw [shellAfter] at isComment
      rw [reached, isComment] at together
      exact together
    · rintro ⟨rfl, begins⟩
      refine ⟨rfl, commentIsCut before behind isPlace begins, fun isComment => ?_⟩
      rw [shellAfter] at begins
      rw [isComment, begins] at together
      exact together

/-- A quoted `#` hides the command behind it, and a comment directly behind an operator counts as a command. -/
theorem quoted_hash_is_cut :
    QuotesBalanced (units "echo \"issue # 7\"; node build.mjs") ∧
      withoutShellComments (units "echo \"issue # 7\"; node build.mjs") = units "echo \"issue " ∧
      withoutCommentsOfShell (units "echo \"issue # 7\"; node build.mjs") =
        units "echo \"issue # 7\"; node build.mjs" ∧
      QuotesBalanced (units "true;# node build.mjs") ∧
      withoutShellComments (units "true;# node build.mjs") = units "true;# node build.mjs" ∧
      withoutCommentsOfShell (units "true;# node build.mjs") = units "true;" := by
  decide

end JumptotechLabs.Verifier
