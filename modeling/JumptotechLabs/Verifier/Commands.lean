/-
Module: JumptotechLabs.Verifier.Commands
Layer: Verifier (services/verifier/src/ci/workflow.ts)
Purpose: Which fragments a run script runs as commands. The script is cut where a new command can begin, and a fragment
  counts where a piece begins with its words behind assignments and words that run another command. In a script of
  simple commands without quotes the pieces are its commands.
Main exports: joinContinued, cutLength, pieces, commandWords, commandsMissing, runContains, LowerCase, SimpleScript,
  run_contains_iff, quoted_argument_counts
-/
import JumptotechLabs.Core.Words
import JumptotechLabs.Verifier.ShellComments
import JumptotechLabs.Verifier.SystemdUnit

namespace JumptotechLabs.Verifier

open JumptotechLabs.Core
open JumptotechLabs.Core.Utf16 (IsWord Worded isLetter isSpace isWord joinWords squeeze trim trimStart
  cutAt)

/-! ### The pieces of a script -/

/-- `/\\\r?\n/`. -/
def continuationLength (_previous : Option UInt16) (text : Utf16) : Option Nat :=
  if (units "\\\n").isPrefixOf text then some 2
  else if (units "\\\r\n").isPrefixOf text then some 3
  else none

/-- `code.replace(/\\\r?\n/g, ' ')`. -/
def joinContinued (code : Utf16) : Utf16 := replaceMatches continuationLength (units " ") 0 none code

/-- `/\r?\n|;|&&|\|\||\||\$\(|[()`'"]/`, at the head of a text. -/
def cutLength : Utf16 → Option Nat
  | [] => none
  | unit :: rest =>
      if unit = unitOf '\r' ∧ rest.head? = some (unitOf '\n') then some 2
      else if unit = unitOf '\n' ∨ unit = unitOf ';' then some 1
      else if unit = unitOf '&' ∧ rest.head? = some (unitOf '&') then some 2
      else if unit = unitOf '|' then some (if rest.head? = some (unitOf '|') then 2 else 1)
      else if unit = unitOf '$' ∧ rest.head? = some (unitOf '(') then some 2
      else if unit ∈ units "()`'\"" then some 1
      else none

/-- `split`, with the units left of the last match. -/
def splitPieces : Nat → Utf16 → List Utf16
  | _, [] => [[]]
  | skip + 1, _ :: rest => splitPieces skip rest
  | 0, unit :: rest =>
      match cutLength (unit :: rest) with
      | some (length + 1) => [] :: splitPieces length rest
      | some 0 | none => (splitPieces 0 rest).modifyHead (unit :: ·)

/-- The pieces a script is cut into. -/
def pieces (code : Utf16) : List Utf16 := splitPieces 0 (joinContinued code)

/-! ### Words in front of a command -/

/-- `[A-Za-z_][A-Za-z0-9_]*=\S*`, of a run without white space. -/
def isAssignment (word : Utf16) : Bool :=
  match cutAt (unitOf '=') word with
  | some (first :: name, _) => (isLetter first || first = unitOf '_') && name.all isWord
  | some ([], _) | none => false

/-- The words of `COMMAND_PREFIX` that are no assignments. -/
def runningWords : List Utf16 :=
  [units "sudo", units "exec", units "time", units "env", units "then", units "do", units "else", units "!"]

/-- A word that runs the command after it rather than being the command. -/
def runsNext (word : Utf16) : Bool := isAssignment word || runningWords.contains word

/-- `text.replace(COMMAND_PREFIX, '')`, where the pattern is found: each of its words ends where the white space begins. -/
def commandPrefix (text : Utf16) : Option Utf16 :=
  let word := text.takeWhile fun unit => !isSpace unit
  let rest := text.dropWhile fun unit => !isSpace unit
  if runsNext word = true ∧ rest ≠ [] then some (trimStart rest) else none

/-- The loop: so many times, or until nothing is stripped. -/
def stripped : Nat → Utf16 → Utf16
  | 0, text => text
  | rounds + 1, text =>
      match commandPrefix text with
      | none => text
      | some rest => stripped rounds rest

/-- `commandsMissing`. -/
def commandsMissing (toLowerCase : Utf16 → Utf16) (code : Utf16) (fragments : List Utf16) : List Utf16 :=
  let readings := (pieces code).map fun piece => toLowerCase (squeeze false (stripped 8 (trim piece)))
  fragments.filter fun fragment =>
    let wanted := toLowerCase (trim (squeeze false fragment))
    !readings.any fun reading => reading = wanted || (wanted ++ units " ").isPrefixOf reading

/-- `runContains`. -/
def runContains (toLowerCase : Utf16 → Utf16) (run : Option Utf16) (fragments : List Utf16) (asCommand : Bool) :
    List Utf16 :=
  match run with
  | none | some [] => fragments
  | some run =>
      let code := withoutShellComments run
      if asCommand then commandsMissing toLowerCase code fragments
      else
        let haystack := toLowerCase (squeeze false code)
        fragments.filter fun fragment => ¬ toLowerCase (squeeze false fragment) <:+: haystack

/-! ### Words -/

/-- `text.toLowerCase()`: it goes word by word, and of a word it makes a word. -/
structure LowerCase where
  toLowerCase : Utf16 → Utf16
  of_words : ∀ words : List Utf16, (∀ word ∈ words, IsWord word) →
    toLowerCase (joinWords words) = joinWords (words.map toLowerCase)
  of_word : ∀ word, IsWord word → IsWord (toLowerCase word)

/-- The words of a command behind at most so many leading words that run the next one. -/
def commandWords : Nat → List Utf16 → List Utf16
  | rounds + 1, word :: next :: rest =>
      if runsNext word then commandWords rounds (next :: rest) else word :: next :: rest
  | _, words => words

/-- A word is its own only word. -/
theorem words_word {word : Utf16} (isWord : IsWord word) : words word = [word] := by
  rw [words, List.splitOnP_eq_singleton isWord.2, List.filter_cons_of_pos]
  · rfl
  · rw [Bool.not_eq_true', List.isEmpty_eq_false_iff]
    exact isWord.1

/-- Text that is worded has those words. -/
theorem words_of_worded {text : Utf16} {found : List Utf16} (worded : Worded text found) : words text = found := by
  induction worded with
  | last isWord => exact words_word isWord
  | more isWord blank isGap _ ih => rw [← List.append_assoc, words_append_blank blank isGap, words_word isWord, ih]; rfl

theorem words_blank {gap : Utf16} (blank : Blank gap) : words gap = [] := by
  by_cases isGap : gap = []
  · rw [isGap]
    rfl
  · have parted := words_append_blank blank isGap [] []
    rw [List.nil_append, List.append_nil] at parted
    exact parted

/-- Trimming keeps the words. -/
theorem words_trim (text : Utf16) : words (trim text) = words text := by
  obtain ⟨lead, trail, whole, before, behind, -, -⟩ := Utf16.exists_trim text
  have behindLead : words text = words (trim text ++ trail) := by
    conv_lhs => rw [whole, List.append_assoc]
    by_cases isGap : lead = []
    · rw [isGap, List.nil_append]
    · have parted := words_append_blank before isGap [] (trim text ++ trail)
      rw [List.nil_append] at parted
      rw [parted]
      rfl
  rw [behindLead]
  by_cases isGap : trail = []
  · rw [isGap, List.append_nil]
  · have parted := words_append_blank behind isGap (trim text) []
    rw [List.append_nil] at parted
    rw [parted]
    exact (List.append_nil _).symm

/-- A text with a word in it, trimmed, is made of its words. -/
theorem worded_trim {text : Utf16} (visible : words text ≠ []) : Worded (trim text) (words text) := by
  obtain ⟨-, -, -, -, -, starts, ends⟩ := Utf16.exists_trim text
  have nonempty : trim text ≠ [] := fun nothing => visible (words_blank (Utf16.trim_eq_nil_iff.mp nothing))
  obtain ⟨found, worded⟩ := Utf16.exists_worded nonempty starts ends
  rw [← words_trim, words_of_worded worded]
  exact worded

/-- A word alone leads no command. -/
theorem commandPrefix_word {word : Utf16} (isWord : IsWord word) : commandPrefix word = none := by
  have nothing : (word.dropWhile fun unit => !isSpace unit) = [] :=
    List.dropWhile_eq_nil_iff.mpr fun unit member => by rw [isWord.2 unit member]; rfl
  rw [commandPrefix, nothing]
  exact if_neg fun both => both.2 rfl

/-- A word before others is stripped exactly if it runs the next. -/
theorem commandPrefix_gap {word gap rest : Utf16} {found : List Utf16} (isWord : IsWord word) (blank : Blank gap)
    (isGap : gap ≠ []) (further : Worded rest found) :
    commandPrefix (word ++ (gap ++ rest)) = if runsNext word then some rest else none := by
  obtain ⟨space, gap, rfl⟩ := List.exists_cons_of_ne_nil isGap
  have stops : isSpace space = true := blank space List.mem_cons_self
  have visible : ∀ unit ∈ word, (!isSpace unit) = true := fun unit member => by rw [isWord.2 unit member]; rfl
  have taken : ((word ++ (space :: gap ++ rest)).takeWhile fun unit => !isSpace unit) = word := by
    rw [List.takeWhile_append_of_pos visible, List.cons_append,
      List.takeWhile_cons_of_neg (by rw [stops]; decide), List.append_nil]
  have dropped : ((word ++ (space :: gap ++ rest)).dropWhile fun unit => !isSpace unit) = space :: gap ++ rest := by
    rw [List.dropWhile_append_of_pos visible, List.cons_append, List.dropWhile_cons_of_neg (by rw [stops]; decide)]
  have trimmed : trimStart (space :: gap ++ rest) = rest := by
    obtain ⟨first, behind, rfl, isFirst⟩ := further.starts
    rw [Utf16.trimStart_blank_append blank, trimStart, List.dropWhile_cons_of_neg (by rw [isFirst]; decide)]
  rw [commandPrefix, taken, dropped, trimmed]
  cases runsNext word with
  | true => exact if_pos ⟨rfl, List.cons_ne_nil _ _⟩
  | false => exact if_neg fun both => absurd both.1 (by decide)

/-- The run of the loop, word by word. -/
theorem worded_stripped (rounds : Nat) {text : Utf16} {found : List Utf16} (worded : Worded text found) :
    Worded (stripped rounds text) (commandWords rounds found) := by
  induction rounds generalizing text found with
  | zero => exact worded
  | succ rounds ih =>
      cases worded with
      | last isWord =>
          rw [stripped, commandPrefix_word isWord]
          exact .last isWord
      | more isWord blank isGap further =>
          obtain ⟨next, others, rfl⟩ := List.exists_cons_of_ne_nil further.all_words.1
          rename_i word _ _
          rw [stripped, commandPrefix_gap isWord blank isGap further, commandWords]
          cases runsNext word with
          | true => exact ih further
          | false => exact .more isWord blank isGap further

section Reading

variable (letters : LowerCase) {piece fragment : Utf16}

theorem all_words_lower {found : List Utf16} (all : ∀ word ∈ found, IsWord word) :
    ∀ word ∈ found.map letters.toLowerCase, IsWord word := by
  intro word member
  obtain ⟨was, isFound, rfl⟩ := List.mem_map.mp member
  exact letters.of_word was (all was isFound)

/-- What is read of a piece is its command's words, in small letters, with one blank between. -/
theorem reading_eq (visible : words piece ≠ []) :
    letters.toLowerCase (squeeze false (stripped 8 (trim piece))) =
      joinWords ((commandWords 8 (words piece)).map letters.toLowerCase) := by
  have worded := worded_stripped 8 (worded_trim visible)
  have squeezed := worded.squeeze_append []
  rw [List.append_nil] at squeezed
  rw [squeezed, ← letters.of_words _ worded.all_words.2]
  exact congrArg letters.toLowerCase (List.append_nil _)

/-- What is looked for is the fragment's words, in small letters, with one blank between. -/
theorem wanted_eq (isCommand : words fragment ≠ []) :
    letters.toLowerCase (trim (squeeze false fragment)) = joinWords ((words fragment).map letters.toLowerCase) := by
  have worded := worded_trim isCommand
  rw [Utf16.trim_squeeze worded, letters.of_words _ worded.all_words.2]

/-- The piece begins with the words of the fragment, up to case, behind leading words that run the next one. -/
def Begins (piece fragment : Utf16) : Prop :=
  (words fragment).map letters.toLowerCase <+: (commandWords 8 (words piece)).map letters.toLowerCase

/-- A piece begins with the fragment exactly if its words begin with the fragment's. -/
theorem reading_begins_iff (isCommand : words fragment ≠ []) :
    (letters.toLowerCase (squeeze false (stripped 8 (trim piece))) =
        letters.toLowerCase (trim (squeeze false fragment)) ∨
      letters.toLowerCase (trim (squeeze false fragment)) ++ units " " <+:
        letters.toLowerCase (squeeze false (stripped 8 (trim piece)))) ↔ Begins letters piece fragment := by
  have wantedWords := all_words_lower letters (worded_trim isCommand).all_words.2
  have someWanted : (words fragment).map letters.toLowerCase ≠ [] := by simpa using isCommand
  rw [wanted_eq letters isCommand]
  by_cases visible : words piece = []
  · have nothing : letters.toLowerCase (squeeze false (stripped 8 (trim piece))) = [] := by
      have blank : trim piece = [] := by
        by_contra nonempty
        obtain ⟨-, -, -, -, -, starts, ends⟩ := Utf16.exists_trim piece
        obtain ⟨found, worded⟩ := Utf16.exists_worded nonempty starts ends
        rw [← words_trim, words_of_worded worded] at visible
        exact worded.all_words.1 visible
      rw [blank]
      exact letters.of_words [] fun word impossible => nomatch impossible
    rw [nothing, Begins, visible]
    refine iff_of_false ?_ fun begins => someWanted (List.prefix_nil.mp begins)
    rintro (same | begins)
    · obtain ⟨first, rest, isFirst, -⟩ := (Worded.joined someWanted wantedWords).starts
      rw [isFirst] at same
      cases same
    · have ended := List.prefix_nil.mp begins
      simp [units] at ended
      exact absurd ended.2 (by decide)
  · have worded := worded_stripped 8 (worded_trim visible)
    rw [reading_eq letters visible]
    exact Utf16.joined_prefix_iff someWanted wantedWords (by simpa using worded.all_words.1)
      (all_words_lower letters worded.all_words.2)

/-- A fragment is not missing exactly if a piece begins with it. -/
theorem not_missing_iff (isCommand : words fragment ≠ []) (run : Utf16) :
    fragment ∉ runContains letters.toLowerCase (some run) [fragment] true ↔
      ∃ piece ∈ pieces (withoutShellComments run), Begins letters piece fragment := by
  have missing : fragment ∉ commandsMissing letters.toLowerCase (withoutShellComments run) [fragment] ↔
      ∃ piece ∈ pieces (withoutShellComments run), Begins letters piece fragment := by
    rw [commandsMissing, List.mem_filter]
    simp only [List.mem_singleton, true_and, List.any_map, Bool.not_eq_true', Bool.not_eq_false, List.any_eq_true,
      Function.comp, Bool.or_eq_true, decide_eq_true_eq, List.isPrefixOf_iff_prefix]
    exact exists_congr fun piece => and_congr_right fun _ => reading_begins_iff letters isCommand
  cases run with
  | nil =>
      have present : fragment ∈ runContains letters.toLowerCase (some []) [fragment] true := List.mem_singleton_self _
      refine iff_of_false (not_not.mpr present) ?_
      rintro ⟨piece, member, begins⟩
      obtain rfl : piece = [] := List.mem_singleton.mp member
      refine absurd (List.prefix_nil.mp begins) ?_
      simpa using isCommand
  | cons unit rest => exact missing

end Reading

/-! ### Scripts of simple commands -/

/-- What stands between two commands. -/
inductive CommandSeparator where
  | newline
  | semicolon
  | andThen
  | orElse
  | pipe
deriving DecidableEq

/-- How a separator is written. -/
def CommandSeparator.text : CommandSeparator → Utf16
  | .newline => units "\n"
  | .semicolon => units ";"
  | .andThen => units "&&"
  | .orElse => units "||"
  | .pipe => units "|"

/-- A simple command without quotes: words between white space, none of which is a comment. -/
structure IsSimpleCommand (text : Utf16) : Prop where
  plain : ∀ unit ∈ text, unit ∉ units "\r\n;&|()`'\"\\"
  uncommented : ∀ word ∈ words text, word.head? ≠ some (unitOf '#')

theorem IsSimpleCommand.of_forall {text : Utf16} (plain : text.Forall fun unit => unit ∉ units "\r\n;&|()`'\"\\")
    (uncommented : ∀ word ∈ words text, word.head? ≠ some (unitOf '#')) : IsSimpleCommand text :=
  ⟨List.forall_iff_forall_mem.mp plain, uncommented⟩

/-- Commands with separators between them. A pipe leads to a command. -/
structure SimpleScript where
  first : Utf16
  rest : List (CommandSeparator × Utf16)
  isFirst : IsSimpleCommand first
  isRest : ∀ step ∈ rest, IsSimpleCommand step.2 ∧ (step.1 = .pipe → words step.2 ≠ [])

/-- The commands, in order. -/
def SimpleScript.commands (script : SimpleScript) : List Utf16 := script.first :: script.rest.map Prod.snd

/-- The commands from a separator on. -/
def furtherText (rest : List (CommandSeparator × Utf16)) : Utf16 := rest.flatMap fun step => step.1.text ++ step.2

/-- The script as it is written. -/
def SimpleScript.text (script : SimpleScript) : Utf16 := script.first ++ furtherText script.rest

theorem furtherText_cons (separator : CommandSeparator) (command : Utf16) (rest : List (CommandSeparator × Utf16)) :
    furtherText ((separator, command) :: rest) = separator.text ++ (command ++ furtherText rest) := by
  rw [furtherText, List.flatMap_cons, List.append_assoc]
  rfl

/-- What stands behind a command. -/
theorem head?_furtherText (rest : List (CommandSeparator × Utf16)) :
    ∀ unit ∈ (furtherText rest).head?, unit ∈ units "\n;&|" := by
  cases rest with
  | nil => exact fun unit impossible => nomatch impossible
  | cons step rest =>
      obtain ⟨separator, command⟩ := step
      rw [furtherText_cons]
      cases separator <;>
        · rintro unit same
          cases same
          decide

/-! ### No comment is cut from them -/

theorem words_hash (text : Utf16) : ∃ word ∈ words (unitOf '#' :: text), word.head? = some (unitOf '#') := by
  obtain ⟨first, rest, isSplit⟩ := List.exists_cons_of_ne_nil (List.splitOnP_ne_nil isSpace text)
  refine ⟨unitOf '#' :: first, ?_, rfl⟩
  rw [words, List.splitOnP_cons_eq_if_modifyHead, if_neg (by decide), isSplit, List.modifyHead_cons,
    List.filter_cons_of_pos (by rfl)]
  exact List.mem_cons_self

/-- In a simple command no `#` stands at its start or behind white space. -/
theorem IsSimpleCommand.no_cut {text : Utf16} (simple : IsSimpleCommand text) {before behind : Utf16}
    (isPlace : text = before ++ unitOf '#' :: behind) : ¬ CutPlace before := by
  intro place
  obtain ⟨word, member, isHash⟩ := words_hash behind
  refine simple.uncommented word ?_ isHash
  rw [isPlace]
  rcases List.eq_nil_or_concat before with rfl | ⟨front, space, rfl⟩
  · exact member
  · rw [List.concat_eq_append] at place ⊢
    rw [CutPlace, List.getLast?_concat, Option.all_some] at place
    rw [List.append_assoc, List.singleton_append, words_append_space _ _ place]
    exact List.mem_append_right _ member

/-- Text with no `#` where a comment may start is kept. -/
theorem lineReader_keeps {text : Utf16} (noCut : ∀ before behind, text = before ++ unitOf '#' :: behind →
    ¬ CutPlace before) (free : Bool) :
    ∃ reached, ∀ rest, lineReader.strip (some free) (text ++ rest) = text ++ lineReader.strip (some reached) rest := by
  refine CommentReader.strip_append fun before unit behind isPlace begins => ?_
  obtain ⟨reached, isReached, begins⟩ := begins
  obtain ⟨isHash, isFree⟩ : unit = unitOf '#' ∧ reached = true := of_decide_eq_true begins
  subst isHash isFree
  exact noCut before behind isPlace (cutPlace_of_free isReached)

/-- No separator starts a comment. -/
theorem CommandSeparator.no_cut (separator : CommandSeparator) {before behind : Utf16}
    (isPlace : separator.text = before ++ unitOf '#' :: behind) : ¬ CutPlace before := by
  have member : unitOf '#' ∈ separator.text := isPlace ▸ List.mem_append_right _ List.mem_cons_self
  cases separator <;> exact absurd member (by decide)

theorem strip_furtherText {rest : List (CommandSeparator × Utf16)}
    (simple : ∀ step ∈ rest, IsSimpleCommand step.2 ∧ (step.1 = .pipe → words step.2 ≠ [])) (free : Bool) :
    lineReader.strip (some free) (furtherText rest) = furtherText rest := by
  induction rest generalizing free with
  | nil => rfl
  | cons step rest ih =>
      obtain ⟨separator, command⟩ := step
      obtain ⟨⟨isCommand, -⟩, further⟩ := List.forall_mem_cons.mp simple
      obtain ⟨behind, kept⟩ := lineReader_keeps (fun _ _ => separator.no_cut) free
      obtain ⟨last, keptToo⟩ := lineReader_keeps (fun _ _ => isCommand.no_cut) behind
      rw [furtherText_cons, kept, keptToo, ih further]

/-- A simple script has no comments. -/
theorem SimpleScript.no_comments (script : SimpleScript) : withoutShellComments script.text = script.text := by
  obtain ⟨reached, kept⟩ := lineReader_keeps (fun _ _ => script.isFirst.no_cut) true
  rw [withoutShellComments_eq_strip, SimpleScript.text, kept, strip_furtherText script.isRest]

/-! ### Nothing is joined in them -/

theorem joinContinued_plain {code : Utf16} (plain : unitOf '\\' ∉ code) : joinContinued code = code := by
  have noMatch : ∀ previous, replaceMatches continuationLength (units " ") 0 previous code = code := by
    induction code with
    | nil => exact fun previous => rfl
    | cons unit rest ih =>
        intro previous
        obtain ⟨other, plain⟩ := not_or.mp (mt List.mem_cons.mpr plain)
        have none : continuationLength previous (unit :: rest) = none := by
          have two : (units "\\\n").isPrefixOf (unit :: rest) = false := by
            show (unitOf '\\' == unit && _) = false
            rw [beq_eq_false_iff_ne.mpr other, Bool.false_and]
          have three : (units "\\\r\n").isPrefixOf (unit :: rest) = false := by
            show (unitOf '\\' == unit && _) = false
            rw [beq_eq_false_iff_ne.mpr other, Bool.false_and]
          rw [continuationLength, two, three]
          rfl
        rw [replaceMatches, none]
        exact congrArg (unit :: ·) (ih plain (some unit))
  exact noMatch Option.none

theorem CommandSeparator.plain (separator : CommandSeparator) : unitOf '\\' ∉ separator.text := by
  cases separator <;> decide

theorem IsSimpleCommand.no_backslash {text : Utf16} (simple : IsSimpleCommand text) : unitOf '\\' ∉ text :=
  fun member => simple.plain _ member (by decide)

/-- A simple script has no backslash. -/
theorem SimpleScript.no_backslash (script : SimpleScript) : unitOf '\\' ∉ script.text := by
  rw [SimpleScript.text, List.mem_append, furtherText, List.mem_flatMap]
  rintro (inFirst | ⟨step, member, inStep⟩)
  · exact script.isFirst.no_backslash inFirst
  · rcases List.mem_append.mp inStep with inSeparator | inCommand
    · exact step.1.plain inSeparator
    · exact (script.isRest step member).1.no_backslash inCommand

/-! ### They are cut into their commands -/

/-- No cut starts at a plain unit that no bracket follows. -/
theorem cutLength_plain {unit : UInt16} {rest : Utf16} (plain : unit ∉ units "\r\n;&|()`'\"\\")
    (uncalled : rest.head? ≠ some (unitOf '(')) : cutLength (unit :: rest) = none := by
  have others : unit ≠ unitOf '\r' ∧ unit ≠ unitOf '\n' ∧ unit ≠ unitOf ';' ∧ unit ≠ unitOf '&' ∧ unit ≠ unitOf '|' ∧
      unit ∉ units "()`'\"" := by
    refine ⟨?_, ?_, ?_, ?_, ?_, ?_⟩
    rotate_right
    · have whole : units "\r\n;&|()`'\"\\" = units "\r\n;&|" ++ (units "()`'\"" ++ units "\\") := rfl
      intro member
      rw [whole] at plain
      exact plain (List.mem_append_right _ (List.mem_append_left _ member))
    all_goals
      rintro rfl
      exact plain (by decide)
  obtain ⟨noReturn, noLineFeed, noSemicolon, noAnd, noPipe, noQuote⟩ := others
  rw [cutLength, if_neg (fun both => noReturn both.1), if_neg (not_or.mpr ⟨noLineFeed, noSemicolon⟩),
    if_neg (fun both => noAnd both.1), if_neg noPipe, if_neg (fun both => uncalled both.2), if_neg noQuote]

/-- A simple command stays in one piece. -/
theorem splitPieces_append {command behind : Utf16} (simple : ∀ unit ∈ command, unit ∉ units "\r\n;&|()`'\"\\")
    (uncalled : behind.head? ≠ some (unitOf '(')) :
    splitPieces 0 (command ++ behind) = (splitPieces 0 behind).modifyHead (command ++ ·) := by
  induction command with
  | nil => exact (congrFun List.modifyHead_id (splitPieces 0 behind)).symm
  | cons unit rest ih =>
      obtain ⟨plain, further⟩ := List.forall_mem_cons.mp simple
      have next : (rest ++ behind).head? ≠ some (unitOf '(') := by
        cases rest with
        | nil => exact uncalled
        | cons first rest =>
            intro same
            cases same
            exact further _ List.mem_cons_self (by decide)
      rw [List.cons_append, splitPieces, cutLength_plain plain next]
      dsimp only
      rw [ih further, List.modifyHead_modifyHead]
      rfl

/-- A separator ends a piece. -/
theorem splitPieces_separator (separator : CommandSeparator) {behind : Utf16}
    (leads : separator = .pipe → behind.head? ≠ some (unitOf '|')) :
    splitPieces 0 (separator.text ++ behind) = [] :: splitPieces 0 behind := by
  cases separator with
  | newline | semicolon | andThen | orElse => rfl
  | pipe =>
      have one : cutLength (unitOf '|' :: behind) = some 1 := by
        rw [cutLength, if_neg (fun both => absurd both.1 (by decide)), if_neg (by decide),
          if_neg (fun both => absurd both.1 (by decide)), if_pos rfl, if_neg (leads rfl)]
      show splitPieces 0 (unitOf '|' :: behind) = _
      rw [splitPieces, one]

theorem splitPieces_furtherText {rest : List (CommandSeparator × Utf16)}
    (simple : ∀ step ∈ rest, IsSimpleCommand step.2 ∧ (step.1 = .pipe → words step.2 ≠ [])) :
    splitPieces 0 (furtherText rest) = [] :: rest.map Prod.snd := by
  induction rest with
  | nil => rfl
  | cons step rest ih =>
      obtain ⟨separator, command⟩ := step
      obtain ⟨⟨isCommand, leads⟩, further⟩ := List.forall_mem_cons.mp simple
      have uncalled : (furtherText rest).head? ≠ some (unitOf '(') := fun same =>
        absurd (head?_furtherText rest _ same) (by decide)
      have noPipe : separator = .pipe → (command ++ furtherText rest).head? ≠ some (unitOf '|') := by
        intro isPipe same
        cases command with
        | nil => exact leads isPipe rfl
        | cons unit command =>
            cases same
            exact isCommand.plain _ List.mem_cons_self (by decide)
      rw [furtherText_cons, splitPieces_separator separator noPipe, splitPieces_append isCommand.plain uncalled,
        ih further, List.modifyHead_cons, List.append_nil]
      rfl

/-- The pieces of a simple script are its commands. -/
theorem SimpleScript.pieces_eq (script : SimpleScript) : pieces (withoutShellComments script.text) = script.commands := by
  have uncalled : (furtherText script.rest).head? ≠ some (unitOf '(') := fun same =>
    absurd (head?_furtherText script.rest _ same) (by decide)
  rw [script.no_comments, pieces, joinContinued_plain script.no_backslash, SimpleScript.text,
    splitPieces_append script.isFirst.plain uncalled, splitPieces_furtherText script.isRest, List.modifyHead_cons,
    List.append_nil]
  rfl

/-! ### What counts as running -/

/-- A fragment counts as running exactly if a piece of the script begins with its words; and in a script of simple
    commands without quotes exactly if a command of it does. -/
theorem run_contains_iff (letters : LowerCase) {fragment : Utf16} (isCommand : words fragment ≠ []) :
    (∀ run, fragment ∉ runContains letters.toLowerCase (some run) [fragment] true ↔
      ∃ piece ∈ pieces (withoutShellComments run), Begins letters piece fragment) ∧
      ∀ script : SimpleScript, fragment ∉ runContains letters.toLowerCase (some script.text) [fragment] true ↔
        ∃ command ∈ script.commands, Begins letters command fragment := by
  refine ⟨not_missing_iff letters isCommand, fun script => ?_⟩
  rw [not_missing_iff letters isCommand, script.pieces_eq]

theorem isWord_lowerAscii {word : Utf16} (isWord : IsWord word) : IsWord (word.map Utf16.lowerAscii) := by
  refine ⟨by simpa using isWord.1, fun unit member => ?_⟩
  obtain ⟨was, isIn, rfl⟩ := List.mem_map.mp member
  rw [Utf16.lowerAscii]
  split
  · rename_i upper
    simp only [Bool.and_eq_true, decide_eq_true_eq, UInt16.le_iff_toNat_le] at upper
    obtain ⟨low, high⟩ : 65 ≤ was.toNat ∧ was.toNat ≤ 90 := upper
    have moved : (was + 32).toNat = was.toNat + 32 := by
      rw [UInt16.toNat_add]
      exact Nat.mod_eq_of_lt (by simp; omega)
    simp only [isSpace, Bool.or_eq_false_iff, Bool.and_eq_false_iff, decide_eq_false_iff_not, beq_eq_false_iff_ne,
      UInt16.le_iff_toNat_le, ne_eq, ← UInt16.toNat_inj, moved]
    simp
    omega
  · exact isWord.2 was isIn

theorem map_joinWords {change : UInt16 → UInt16} (blank : change 32 = 32) (found : List Utf16) :
    (joinWords found).map change = joinWords (found.map (List.map change)) := by
  induction found with
  | nil => rfl
  | cons word rest ih =>
      by_cases more : rest = []
      · subst more
        exact (congrArg (List.map change) (Utf16.joinWords_single word)).trans (Utf16.joinWords_single _).symm
      · rw [Utf16.joinWords_cons _ more, List.map_append, List.map_cons, blank, ih, List.map_cons,
          Utf16.joinWords_cons _ (by simpa using more)]

/-- On ASCII letters. -/
def asciiCase : LowerCase where
  toLowerCase := List.map Utf16.lowerAscii
  of_words := fun found _ => map_joinWords (by decide) found
  of_word := fun _ => isWord_lowerAscii

/-- A build behind an installation, with an assignment and a prefix word in front of it. -/
def buildScript : SimpleScript where
  first := units "npm ci "
  rest := [(.andThen, units " FOO=1 sudo node build.mjs "), (.pipe, units " tee log")]
  isFirst := .of_forall (by decide) (by decide)
  isRest := by
    intro step member
    simp only [List.mem_cons, List.not_mem_nil, or_false] at member
    rcases member with rfl | rfl
    · exact ⟨.of_forall (by decide) (by decide), fun isPipe => nomatch isPipe⟩
    · exact ⟨.of_forall (by decide) (by decide), fun _ => by decide⟩

/-- The build counts as running, and what is only an argument of it does not. -/
theorem run_contains_iff_build :
    buildScript.text = units "npm ci && FOO=1 sudo node build.mjs | tee log" ∧
      units "node build.mjs" ∉
        runContains asciiCase.toLowerCase (some buildScript.text) [units "node build.mjs"] true ∧
      units "build.mjs" ∈ runContains asciiCase.toLowerCase (some buildScript.text) [units "build.mjs"] true := by
  have begins : Begins asciiCase (units " FOO=1 sudo node build.mjs ") (units "node build.mjs") := by
    unfold Begins
    decide
  have never : ∀ command ∈ buildScript.commands, ¬ Begins asciiCase command (units "build.mjs") := by
    unfold Begins
    decide
  refine ⟨by decide, ?_, ?_⟩
  · exact ((run_contains_iff asciiCase (by decide)).2 buildScript).mpr
      ⟨_, List.mem_cons_of_mem _ List.mem_cons_self, begins⟩
  · by_contra present
    obtain ⟨command, member, isRun⟩ := ((run_contains_iff asciiCase (by decide)).2 buildScript).mp present
    exact never command member isRun

/-! ### A quoted argument -/

/-- A part of a word, by how it is quoted. -/
inductive WordPart where
  | plain (text : Utf16)
  | single (text : Utf16)
  | double (text : Utf16)

/-- A part as it is written. -/
def WordPart.text : WordPart → Utf16
  | .plain text => text
  | .single text => units "'" ++ text ++ units "'"
  | .double text => units "\"" ++ text ++ units "\""

/-- What the shell reads of a part. -/
def WordPart.value : WordPart → Utf16
  | .plain text | .single text | .double text => text

/-- A simple command as it is written, and the words the shell makes of it. -/
def commandText (command : List (List WordPart)) : Utf16 := joinWords (command.map (·.flatMap WordPart.text))

/-- The words the shell runs. -/
def shellWords (command : List (List WordPart)) : List Utf16 := command.map (·.flatMap WordPart.value)

/-- `echo "node build.mjs"`. -/
def announcement : List (List WordPart) := [[.plain (units "echo")], [.double (units "node build.mjs")]]

/-- The only command is `echo`, and its quoted argument counts as running the build. -/
theorem quoted_argument_counts :
    commandText announcement = units "echo \"node build.mjs\"" ∧
      runContains asciiCase.toLowerCase (some (commandText announcement)) [units "node build.mjs"] true = [] ∧
      ¬ (words (units "node build.mjs")).map asciiCase.toLowerCase <+:
        (commandWords 8 (shellWords announcement)).map asciiCase.toLowerCase := by
  refine ⟨by decide, by decide, by decide⟩

end JumptotechLabs.Verifier
