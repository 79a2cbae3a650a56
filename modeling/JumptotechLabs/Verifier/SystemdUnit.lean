/-
Module: JumptotechLabs.Verifier.SystemdUnit
Layer: Verifier (services/verifier/src/systemd-unit.ts)
Purpose: The reader of systemd units: lines joined at their backslashes, then read one by one into a map of
  sections. What a unit says is put independently of the maps: the values given to a directive under
  headers of one name, in file order, behind the last empty one.
Main exports: parseSystemdUnit, SystemdUnit, UnitLine, Says, Renders, given, inEffect, Reading,
  reading_readLines, assignments_follow_rules
-/
import JumptotechLabs.Core.Keyed
import JumptotechLabs.Core.Lines

namespace JumptotechLabs.Verifier

open JumptotechLabs.Core
open JumptotechLabs.Core.Utf16 (isSpace trim dropReturn splitSpaces isLetter isDigit cutAt)

/-! ### The source -/

/-- A line that is no unit's, and why. -/
structure SystemdUnitParseError where
  line : Nat
  reason : String
deriving DecidableEq

/-- One directive, with the assignments that survived resets. -/
structure UnitDirective where
  key : Utf16
  values : List Utf16
deriving DecidableEq

/-- A section with its directives, in order. -/
structure UnitSection where
  name : Utf16
  directives : List UnitDirective
deriving DecidableEq

/-- Section, directive, and the assignments that survived resets; the maps keep insertion order. -/
structure SystemdUnit where
  sections : List UnitSection
deriving DecidableEq

namespace SystemdUnit

/-- Whether a section stands in the unit. -/
def hasSection (parsed : SystemdUnit) (name : Utf16) : Bool :=
  (Keyed.lookup UnitSection.name name parsed.sections).isSome

/-- Every assignment still in effect for a directive, in file order. -/
def assignments (parsed : SystemdUnit) (name directive : Utf16) : List Utf16 :=
  match Keyed.lookup UnitSection.name name parsed.sections with
  | none => []
  | some found =>
      match Keyed.lookup UnitDirective.key directive found.directives with
      | none => []
      | some existing => existing.values

/-- The last assignment, or null. -/
def scalar (parsed : SystemdUnit) (name directive : Utf16) : Option Utf16 :=
  (parsed.assignments name directive).getLast?

/-- One pair of quotes around a token is taken off. -/
def stripOneQuotePair (token : Utf16) : Utf16 :=
  if token.length < 2 then token
  else if token.head? = some 34 ∧ token.getLast? = some 34 ∨
      token.head? = some 39 ∧ token.getLast? = some 39 then
    token.tail.dropLast
  else token

/-- A list directive's accumulated members. -/
def tokens (parsed : SystemdUnit) (name directive : Utf16) : List Utf16 :=
  (((parsed.assignments name directive).flatMap splitSpaces).filter fun token => !token.isEmpty).map
    stripOneQuotePair

/-- Whether a directive has an assignment in effect. -/
def isSet (parsed : SystemdUnit) (name directive : Utf16) : Bool :=
  !(parsed.assignments name directive).isEmpty

end SystemdUnit

/-- A logical line, and the line it started on. -/
structure UnitStatement where
  text : Utf16
  line : Nat
deriving DecidableEq

/-- A line that ends in a backslash goes on. -/
def continues (value : Utf16) : Bool := value.getLast? == some 92

/-- The logical lines. `pending` is one that a backslash left open; where no line follows, the backslash
    stays. -/
def statementsFrom : Option UnitStatement → Nat → List Utf16 → List UnitStatement
  | none, _, [] => []
  | some pending, _, [] => [pending]
  | none, line, raw :: rest =>
      let value := dropReturn raw
      if continues value then statementsFrom (some ⟨value, line⟩) (line + 1) rest
      else ⟨value, line⟩ :: statementsFrom none (line + 1) rest
  | some pending, line, raw :: rest =>
      let value := pending.text.dropLast ++ 32 :: dropReturn raw
      if continues value then statementsFrom (some ⟨value, pending.line⟩) (line + 1) rest
      else ⟨value, pending.line⟩ :: statementsFrom none (line + 1) rest

/-- `SECTION_LINE`, `^\[([^\]]*)\]$`, and its group. -/
def sectionLine (trimmed : Utf16) : Option Utf16 :=
  match trimmed with
  | [] => none
  | first :: rest =>
      if first = 91 then
        match cutAt 93 rest with
        | some (inner, []) => some inner
        | _ => none
      else none

/-- `DIRECTIVE_NAME`, `^[A-Za-z][A-Za-z0-9-]*$`. -/
def isDirectiveName : Utf16 → Bool
  | [] => false
  | first :: rest => isLetter first && rest.all fun unit => isLetter unit || isDigit unit || unit == 45

/-- The loop's variables: the sections so far, and which of them the last header named. -/
structure UnitReader where
  sections : List UnitSection
  current : Option Utf16
deriving DecidableEq

namespace UnitReader

/-- `sections.get(name) ?? new Map()`, set under the name. -/
def openSection (reader : UnitReader) (name : Utf16) : UnitReader :=
  { sections :=
      if (Keyed.lookup UnitSection.name name reader.sections).isSome then reader.sections
      else reader.sections ++ [⟨name, []⟩]
    current := some name }

/-- An empty value clears the list of a directive, any other is added to it. -/
def assign (directives : List UnitDirective) (key value : Utf16) : List UnitDirective :=
  if value.isEmpty then Keyed.put UnitDirective.key ⟨key, []⟩ directives
  else
    match Keyed.lookup UnitDirective.key key directives with
    | some existing => Keyed.put UnitDirective.key ⟨key, existing.values ++ [value]⟩ directives
    | none => Keyed.put UnitDirective.key ⟨key, [value]⟩ directives

/-- One logical line. -/
def read (reader : UnitReader) (statement : UnitStatement) : Except SystemdUnitParseError UnitReader :=
  let trimmed := trim statement.text
  if trimmed.isEmpty then .ok reader
  else if trimmed.head? = some 35 ∨ trimmed.head? = some 59 then .ok reader
  else if trimmed.head? = some 91 then
    match sectionLine trimmed with
    | none => .error ⟨statement.line, "malformed section header"⟩
    | some inner =>
        if (trim inner).isEmpty then .error ⟨statement.line, "malformed section header"⟩
        else .ok (reader.openSection (trim inner))
  else
    match cutAt 61 trimmed with
    | none => .error ⟨statement.line, "expected a directive assignment"⟩
    | some (before, after) =>
        match reader.current with
        | none => .error ⟨statement.line, "directive appears before any section header"⟩
        | some name =>
            if isDirectiveName (trim before) then
              .ok { reader with
                sections := Keyed.modify UnitSection.name name
                  (fun found => { found with directives := assign found.directives (trim before) (trim after) })
                  reader.sections }
            else .error ⟨statement.line, "malformed directive name"⟩

end UnitReader

/-- The logical lines, one after the other. -/
def readStatements : UnitReader → List UnitStatement → Except SystemdUnitParseError UnitReader
  | reader, [] => .ok reader
  | reader, statement :: rest =>
      match reader.read statement with
      | .error failure => .error failure
      | .ok next => readStatements next rest

/-- Parse a unit file. -/
def parseSystemdUnit (text : Utf16) : Except SystemdUnitParseError SystemdUnit :=
  match readStatements ⟨[], none⟩ (statementsFrom none 1 (text.splitOn 10)) with
  | .error failure => .error failure
  | .ok reader => .ok ⟨reader.sections⟩

/-! ### What a unit says -/

/-- What a logical line can be. -/
inductive UnitLine where
  /-- Blank, or a comment. -/
  | silent
  | header (name : Utf16)
  | assignment (directive value : Utf16)
deriving DecidableEq

/-- A text says a line: with any white space around it, around the name of a header and around the `=`. -/
inductive Says (text : Utf16) : UnitLine → Prop where
  | blank : trim text = [] → Says text .silent
  | comment {marker : UInt16} : (trim text).head? = some marker → marker = 35 ∨ marker = 59 →
      Says text .silent
  | header {inner : Utf16} : trim text = 91 :: (inner ++ [93]) → 93 ∉ inner → trim inner ≠ [] →
      Says text (.header (trim inner))
  | assignment {before after : Utf16} : trim text = before ++ 61 :: after →
      isDirectiveName (trim before) = true → Says text (.assignment (trim before) (trim after))

/-- The section that is open behind the lines. -/
def sectionAfter : Option Utf16 → List UnitLine → Option Utf16
  | current, [] => current
  | _, .header name :: rest => sectionAfter (some name) rest
  | current, .silent :: rest => sectionAfter current rest
  | current, .assignment _ _ :: rest => sectionAfter current rest

/-- The values the lines give to a directive under headers of a name, in order. -/
def given (name directive : Utf16) : Option Utf16 → List UnitLine → List Utf16
  | _, [] => []
  | _, .header opened :: rest => given name directive (some opened) rest
  | current, .silent :: rest => given name directive current rest
  | current, .assignment key value :: rest =>
      if current = some name ∧ key = directive then value :: given name directive current rest
      else given name directive current rest

/-- The values behind the last empty one. -/
def inEffect (values : List Utf16) : List Utf16 := values.rtakeWhile fun value => !value.isEmpty

/-- No assignment stands in front of the first header. -/
def WellPlaced : List UnitLine → Prop
  | [] => True
  | .silent :: rest => WellPlaced rest
  | .header _ :: _ => True
  | .assignment _ _ :: _ => False

theorem sectionAfter_append (current : Option Utf16) (first second : List UnitLine) :
    sectionAfter current (first ++ second) = sectionAfter (sectionAfter current first) second := by
  induction first generalizing current with
  | nil => rfl
  | cons line rest ih =>
      cases line with
      | silent => exact ih current
      | header name => exact ih (some name)
      | assignment directive value => exact ih current

theorem given_append (name directive : Utf16) (current : Option Utf16) (first second : List UnitLine) :
    given name directive current (first ++ second) =
      given name directive current first ++
        given name directive (sectionAfter current first) second := by
  induction first generalizing current with
  | nil => rfl
  | cons line rest ih =>
      cases line with
      | silent => exact ih current
      | header opened => exact ih (some opened)
      | assignment key value =>
          rw [List.cons_append, given, given, sectionAfter, ih]
          split <;> rfl

theorem inEffect_concat (values : List Utf16) (value : Utf16) :
    inEffect (values ++ [value]) = if value.isEmpty then [] else inEffect values ++ [value] := by
  rw [inEffect, List.rtakeWhile_concat]
  cases value with
  | nil => rfl
  | cons unit rest => rfl

theorem sectionAfter_some_ne_none (name : Utf16) (lines : List UnitLine) :
    sectionAfter (some name) lines ≠ none := by
  induction lines generalizing name with
  | nil => exact Option.some_ne_none name
  | cons line rest ih =>
      cases line with
      | silent => exact ih name
      | header opened => exact ih opened
      | assignment directive value => exact ih name

theorem wellPlaced_append {first second : List UnitLine} :
    WellPlaced (first ++ second) ↔
      WellPlaced first ∧ (sectionAfter none first = none → WellPlaced second) := by
  induction first with
  | nil => simp [WellPlaced, sectionAfter]
  | cons line rest ih =>
      cases line with
      | silent => exact ih
      | header name =>
          constructor
          · intro _
            exact ⟨trivial, fun closed => absurd closed (sectionAfter_some_ne_none name rest)⟩
          · intro _
            trivial
      | assignment directive value =>
          constructor
          · intro placed
            exact placed.elim
          · rintro ⟨placed, -⟩
            exact placed.elim

/-! ### One line -/

theorem head?_of_isDirectiveName {name : Utf16} (named : isDirectiveName name = true) :
    ∃ first rest, name = first :: rest ∧ isLetter first = true := by
  cases name with
  | nil => cases named
  | cons first rest =>
      rw [isDirectiveName, Bool.and_eq_true] at named
      exact ⟨first, rest, rfl, named.1⟩

/-- The text of an assignment starts with the letter its directive starts with. -/
theorem head?_of_assignment {text before after : Utf16} (whole : trim text = before ++ 61 :: after)
    (named : isDirectiveName (trim before) = true) :
    ∃ first, (trim text).head? = some first ∧ isLetter first = true := by
  obtain ⟨first, rest, starts, letter⟩ := head?_of_isDirectiveName named
  obtain ⟨-, -, -, -, -, visible, -⟩ := Utf16.exists_trim text
  cases before with
  | nil => cases starts
  | cons unit others =>
      have shown : isSpace unit = false := visible unit (by rw [whole]; rfl)
      have same : (Utf16.trimStart (unit :: others)).head? = some unit := by
        rw [Utf16.trimStart, List.dropWhile_cons_of_neg (by rw [shown]; exact Bool.false_ne_true)]
        rfl
      rw [Utf16.head?_trimStart, starts] at same
      cases same
      exact ⟨first, by rw [whole]; rfl, letter⟩

theorem not_mem_of_isDirectiveName {before : Utf16} (named : isDirectiveName (trim before) = true) :
    61 ∉ before := by
  intro inside
  obtain ⟨lead, trail, whole, blankLead, blankTrail, -⟩ := Utf16.exists_trim before
  rw [whole] at inside
  rcases List.mem_append.mp inside with front | behind
  · rcases List.mem_append.mp front with inLead | inName
    · have space := blankLead _ inLead
      revert space
      decide
    · obtain ⟨first, rest, isName, letter⟩ := head?_of_isDirectiveName named
      rw [isName] at inName named
      rcases List.mem_cons.mp inName with rfl | later
      · revert letter
        decide
      · rw [isDirectiveName, Bool.and_eq_true, List.all_eq_true] at named
        have fits := named.2 61 later
        revert fits
        decide
  · have space := blankTrail _ behind
    revert space
    decide

namespace UnitReader

/-- What a line does to the reader. -/
def apply (reader : UnitReader) : UnitLine → UnitReader
  | .silent => reader
  | .header name => reader.openSection name
  | .assignment directive value =>
      match reader.current with
      | none => reader
      | some name =>
          { reader with
            sections := Keyed.modify UnitSection.name name
              (fun found => { found with directives := assign found.directives directive value })
              reader.sections }

/-- A line that can be read here: an assignment needs an open section. -/
def Fits (reader : UnitReader) : UnitLine → Prop
  | .assignment _ _ => reader.current ≠ none
  | _ => True

theorem sectionLine_eq_some {trimmed inner : Utf16} :
    sectionLine trimmed = some inner ↔ trimmed = 91 :: (inner ++ [93]) ∧ 93 ∉ inner := by
  cases trimmed with
  | nil => simp [sectionLine]
  | cons first rest =>
      rw [sectionLine]
      by_cases opens : first = 91
      · subst opens
        rw [if_pos rfl]
        constructor
        · intro found
          split at found
          · rename_i inner' cut
            cases found
            obtain ⟨whole, free⟩ := Utf16.cutAt_eq_some_iff.mp cut
            rw [whole]
            exact ⟨rfl, free⟩
          · cases found
        · rintro ⟨whole, free⟩
          rw [Utf16.cutAt_eq_some_iff.mpr ⟨(List.cons.inj whole).2, free⟩]
      · rw [if_neg opens]
        constructor
        · intro found
          cases found
        · rintro ⟨whole, -⟩
          exact absurd (List.cons.inj whole).1 opens

/-- An assignment needs an open section. -/
theorem read_of_assignment {statement : UnitStatement} {before after : Utf16}
    (whole : trim statement.text = before ++ 61 :: after)
    (named : isDirectiveName (trim before) = true) (reader : UnitReader) :
    reader.read statement =
      match reader.current with
      | none => .error ⟨statement.line, "directive appears before any section header"⟩
      | some _ => .ok (reader.apply (.assignment (trim before) (trim after))) := by
  obtain ⟨first, starts, letter⟩ := head?_of_assignment whole named
  have present : ¬ (trim statement.text).isEmpty = true := by
    intro empty
    rw [List.isEmpty_iff.mp empty] at starts
    cases starts
  have noMark : ∀ marker : UInt16, marker = 35 ∨ marker = 59 ∨ marker = 91 →
      (trim statement.text).head? ≠ some marker := by
    intro marker marks same
    rw [starts] at same
    cases same
    rcases marks with rfl | rfl | rfl <;> revert letter <;> decide
  have noComment : ¬ ((trim statement.text).head? = some 35 ∨ (trim statement.text).head? = some 59) := by
    rintro (hash | semicolon)
    · exact noMark 35 (by simp) hash
    · exact noMark 59 (by simp) semicolon
  rw [read]
  rw [if_neg present, if_neg noComment, if_neg (noMark 91 (by simp)),
    Utf16.cutAt_eq_some_iff.mpr ⟨whole, not_mem_of_isDirectiveName named⟩]
  dsimp only
  cases isOpen : reader.current with
  | none => rfl
  | some name =>
      dsimp only
      rw [if_pos named, apply, isOpen]

theorem read_of_line {reader : UnitReader} {statement : UnitStatement} {line : UnitLine}
    (isSaid : Says statement.text line) (fits : reader.Fits line) :
    reader.read statement = .ok (reader.apply line) := by
  cases isSaid with
  | blank nothing =>
      rw [read]
      rw [if_pos (by rw [nothing]; rfl)]
      rfl
  | comment first marks =>
      have present : ¬ (trim statement.text).isEmpty = true := by
        intro empty
        rw [List.isEmpty_iff.mp empty] at first
        cases first
      rw [read]
      rw [if_neg present, if_pos]
      · rfl
      · rcases marks with rfl | rfl
        · exact .inl first
        · exact .inr first
  | @header inner whole free nonempty =>
      rw [read, whole]
      rw [if_neg (by simp), if_neg (by simp), if_pos (by simp), sectionLine_eq_some.mpr ⟨rfl, free⟩]
      dsimp only
      rw [if_neg (by simpa using nonempty)]
      rfl
  | @assignment before after whole named =>
      rw [read_of_assignment whole named]
      cases isOpen : reader.current with
      | none => exact absurd isOpen fits
      | some name => rfl

/-- What is read without an error fits. -/
theorem fits_of_read {reader next : UnitReader} {statement : UnitStatement} {line : UnitLine}
    (isSaid : Says statement.text line) (isRead : reader.read statement = .ok next) :
    reader.Fits line := by
  cases isSaid with
  | blank _ => trivial
  | comment _ _ => trivial
  | header _ _ _ => trivial
  | @assignment before after whole named =>
      intro closed
      rw [read_of_assignment whole named, closed] at isRead
      cases isRead

theorem exists_says_of_read {reader next : UnitReader} {statement : UnitStatement}
    (isRead : reader.read statement = .ok next) : ∃ line, Says statement.text line := by
  rw [read] at isRead
  split at isRead
  · rename_i nothing
    exact ⟨.silent, .blank (List.isEmpty_iff.mp nothing)⟩
  split at isRead
  · rename_i marks
    rcases marks with hash | semicolon
    · exact ⟨.silent, .comment hash (.inl rfl)⟩
    · exact ⟨.silent, .comment semicolon (.inr rfl)⟩
  split at isRead
  · split at isRead
    · cases isRead
    · rename_i inner found
      split at isRead
      · cases isRead
      · rename_i nonempty
        obtain ⟨whole, free⟩ := sectionLine_eq_some.mp found
        exact ⟨.header (trim inner), .header whole free (by simpa using nonempty)⟩
  split at isRead
  · cases isRead
  · rename_i before after cut
    split at isRead
    · cases isRead
    · split at isRead
      · rename_i named
        exact ⟨.assignment (trim before) (trim after),
          .assignment (Utf16.cutAt_eq_some_iff.mp cut).1 named⟩
      · cases isRead

/-- The lines that are to come can all be read. -/
def Ready (reader : UnitReader) (lines : List UnitLine) : Prop :=
  reader.current ≠ none ∨ WellPlaced lines

theorem current_apply_assignment (reader : UnitReader) (directive value : Utf16) :
    (reader.apply (.assignment directive value)).current = reader.current := by
  cases isOpen : reader.current with
  | none => rw [apply, isOpen, isOpen]
  | some name => rw [apply, isOpen]

theorem ready_cons {reader : UnitReader} {line : UnitLine} {rest : List UnitLine} :
    reader.Ready (line :: rest) ↔ reader.Fits line ∧ (reader.apply line).Ready rest := by
  cases line with
  | silent => exact (true_and _).to_iff.symm
  | header name =>
      constructor
      · intro _
        exact ⟨trivial, .inl (Option.some_ne_none name)⟩
      · intro _
        exact .inr trivial
  | assignment directive value =>
      rw [Ready, Ready, current_apply_assignment, Fits, WellPlaced, or_false]
      constructor
      · intro isOpen
        exact ⟨isOpen, .inl isOpen⟩
      · exact And.left

theorem readStatements_eq_ok {reader next : UnitReader} {statements : List UnitStatement}
    {lines : List UnitLine}
    (said : List.Forall₂ (fun statement line => Says statement.text line) statements lines) :
    readStatements reader statements = .ok next ↔
      reader.Ready lines ∧ next = lines.foldl apply reader := by
  induction said generalizing reader with
  | nil =>
      rw [readStatements, List.foldl_nil, Except.ok.injEq]
      constructor
      · intro same
        exact ⟨.inr trivial, same.symm⟩
      · rintro ⟨-, same⟩
        exact same.symm
  | @cons statement line statements lines isSaid _ ih =>
      rw [readStatements, ready_cons, List.foldl_cons]
      constructor
      · intro accepted
        cases isRead : reader.read statement with
        | error failure => rw [isRead] at accepted; cases accepted
        | ok middle =>
            have fits := fits_of_read isSaid isRead
            rw [read_of_line isSaid fits] at accepted
            obtain ⟨ready, same⟩ := ih.mp accepted
            exact ⟨⟨fits, ready⟩, same⟩
      · rintro ⟨⟨fits, ready⟩, same⟩
        rw [read_of_line isSaid fits]
        exact ih.mpr ⟨ready, same⟩

theorem exists_lines_of_readStatements {reader next : UnitReader} {statements : List UnitStatement}
    (accepted : readStatements reader statements = .ok next) :
    ∃ lines, List.Forall₂ (fun statement line => Says statement.text line) statements lines := by
  induction statements generalizing reader with
  | nil => exact ⟨[], .nil⟩
  | cons statement rest ih =>
      rw [readStatements] at accepted
      split at accepted
      · cases accepted
      · rename_i middle isRead
        obtain ⟨line, isSaid⟩ := exists_says_of_read isRead
        obtain ⟨lines, said⟩ := ih accepted
        exact ⟨line :: lines, .cons isSaid said⟩

end UnitReader

/-! ### What the reader holds -/

theorem values_assign (directives : List UnitDirective) (key value other : Utf16) :
    ((Keyed.lookup UnitDirective.key other (UnitReader.assign directives key value)).map
        UnitDirective.values).getD [] =
      if key = other then
        if value.isEmpty then []
        else ((Keyed.lookup UnitDirective.key other directives).map UnitDirective.values).getD [] ++ [value]
      else ((Keyed.lookup UnitDirective.key other directives).map UnitDirective.values).getD [] := by
  rw [UnitReader.assign]
  by_cases same : key = other
  · subst same
    rw [if_pos rfl]
    split
    · rw [Keyed.lookup_put, if_pos rfl]
      rfl
    · cases found : Keyed.lookup UnitDirective.key key directives with
      | none =>
          dsimp only
          rw [Keyed.lookup_put, if_pos rfl]
          rfl
      | some existing =>
          dsimp only
          rw [Keyed.lookup_put, if_pos rfl]
          rfl
  · rw [if_neg same]
    split
    · rw [Keyed.lookup_put, if_neg same]
    · split
      · rw [Keyed.lookup_put, if_neg same]
      · rw [Keyed.lookup_put, if_neg same]

theorem assignments_eq (parsed : SystemdUnit) (name directive : Utf16) :
    parsed.assignments name directive =
      ((Keyed.lookup UnitSection.name name parsed.sections).map fun found =>
        ((Keyed.lookup UnitDirective.key directive found.directives).map
          UnitDirective.values).getD []).getD [] := by
  rw [SystemdUnit.assignments]
  cases Keyed.lookup UnitSection.name name parsed.sections with
  | none => rfl
  | some found =>
      dsimp only [Option.map_some, Option.getD_some]
      cases Keyed.lookup UnitDirective.key directive found.directives with
      | none => rfl
      | some existing => rfl

/-- The reader holds what the lines it has read say. -/
structure Reading (reader : UnitReader) (lines : List UnitLine) : Prop where
  current : reader.current = sectionAfter none lines
  opened : ∀ name, reader.current = some name →
    (Keyed.lookup UnitSection.name name reader.sections).isSome = true
  headers : ∀ name, (Keyed.lookup UnitSection.name name reader.sections).isSome = true ↔
    .header name ∈ lines
  values : ∀ name directive, (SystemdUnit.mk reader.sections).assignments name directive =
    inEffect (given name directive none lines)

theorem lookup_openSection (reader : UnitReader) (name other : Utf16) :
    Keyed.lookup UnitSection.name other (reader.openSection name).sections =
      (Keyed.lookup UnitSection.name other reader.sections).or
        (if name = other then some ⟨name, []⟩ else none) := by
  rw [UnitReader.openSection]
  dsimp only
  split
  · rename_i present
    by_cases same : name = other
    · subst same
      rw [if_pos rfl, Option.or_of_isSome present]
    · rw [if_neg same, Option.or_none]
  · rw [Keyed.lookup_append]

theorem Reading.openSection {reader : UnitReader} {lines : List UnitLine} (reading : Reading reader lines)
    (name : Utf16) : Reading (reader.openSection name) (lines ++ [.header name]) := by
  refine ⟨?_, ?_, ?_, ?_⟩
  · rw [sectionAfter_append]
    rfl
  · intro other isOpen
    cases isOpen
    rw [lookup_openSection, if_pos rfl, Option.isSome_or, Option.isSome_some, Bool.or_true]
  · intro other
    rw [lookup_openSection, Option.isSome_or, Bool.or_eq_true, reading.headers, List.mem_append,
      List.mem_singleton, UnitLine.header.injEq]
    by_cases same : name = other
    · subst same
      simp
    · rw [if_neg same]
      simp [Ne.symm same]
  · intro other directive
    have before := reading.values other directive
    rw [assignments_eq] at before ⊢
    rw [given_append, given, given, List.append_nil, ← before]
    dsimp only at before ⊢
    rw [lookup_openSection]
    cases Keyed.lookup UnitSection.name other reader.sections with
    | some found => rfl
    | none =>
        rw [Option.none_or]
        split <;> rfl

theorem Reading.assign {reader : UnitReader} {lines : List UnitLine} (reading : Reading reader lines)
    {name : Utf16} (isOpen : reader.current = some name) (directive value : Utf16) :
    Reading (reader.apply (.assignment directive value)) (lines ++ [.assignment directive value]) := by
  have after : sectionAfter none lines = some name := reading.current.symm.trans isOpen
  rw [UnitReader.apply, isOpen]
  dsimp only
  have kept : ∀ other, Keyed.lookup UnitSection.name other (Keyed.modify UnitSection.name name
      (fun found => { found with directives := UnitReader.assign found.directives directive value })
      reader.sections) = _ :=
    fun other => Keyed.lookup_modify name other _ reader.sections fun found => rfl
  refine ⟨?_, ?_, ?_, ?_⟩
  · rw [sectionAfter_append, after]
    rfl
  · intro other stays
    dsimp only
    rw [kept, Option.isSome_map]
    exact reading.opened other (isOpen.trans stays)
  · intro other
    dsimp only
    rw [kept, Option.isSome_map, reading.headers, List.mem_append, List.mem_singleton]
    simp
  · intro other key
    have before := reading.values other key
    rw [assignments_eq] at before ⊢
    dsimp only at before ⊢
    rw [kept, given_append, after, given, given]
    cases found : Keyed.lookup UnitSection.name other reader.sections with
    | none =>
        have absent : name ≠ other := by
          rintro rfl
          have present := reading.opened name isOpen
          rw [found] at present
          cases present
        rw [found] at before
        rw [if_neg (by rintro ⟨same, -⟩; exact absent (Option.some.inj same)), List.append_nil, ← before]
        rfl
    | some row =>
        have isRow : row.name = other := Keyed.key_of_lookup found
        rw [found] at before
        dsimp only [Option.map_some, Option.getD_some] at before ⊢
        by_cases same : name = other
        · subst same
          rw [if_pos isRow, values_assign, before]
          by_cases sameKey : directive = key
          · subst sameKey
            rw [if_pos rfl, if_pos (And.intro rfl rfl), inEffect_concat]
          · rw [if_neg sameKey, if_neg (fun both => sameKey both.2), List.append_nil]
        · rw [if_neg (fun equal => same (equal.symm.trans isRow)),
            if_neg (by rintro ⟨equal, -⟩; exact same (Option.some.inj equal)), List.append_nil, before]

/-- Every line keeps the reading. -/
theorem Reading.apply {reader : UnitReader} {lines : List UnitLine} (reading : Reading reader lines)
    {line : UnitLine} (fits : reader.Fits line) :
    Reading (reader.apply line) (lines ++ [line]) := by
  cases line with
  | silent =>
      refine ⟨?_, reading.opened, ?_, ?_⟩
      · rw [sectionAfter_append]
        exact reading.current
      · intro name
        rw [List.mem_append, List.mem_singleton, UnitReader.apply, reading.headers]
        simp
      · intro name directive
        rw [given_append, given, given, List.append_nil]
        exact reading.values name directive
  | header name => exact reading.openSection name
  | assignment directive value =>
      cases isOpen : reader.current with
      | none => exact absurd isOpen fits
      | some name => exact reading.assign isOpen directive value

theorem Reading.foldl {reader : UnitReader} {before lines : List UnitLine} (reading : Reading reader before)
    (ready : reader.Ready lines) : Reading (lines.foldl UnitReader.apply reader) (before ++ lines) := by
  induction lines generalizing reader before with
  | nil => simpa using reading
  | cons line rest ih =>
      obtain ⟨fits, later⟩ := UnitReader.ready_cons.mp ready
      have whole := ih (reading.apply fits) later
      rwa [List.append_assoc, List.singleton_append] at whole

theorem reading_nil : Reading ⟨[], none⟩ [] := by
  refine ⟨rfl, ?_, ?_, ?_⟩
  · intro name isOpen
    cases isOpen
  · intro name
    simp [Keyed.lookup]
  · intro name directive
    rfl

/-! ### Physical and logical lines -/

/-- Lines put together at their backslashes, each of which becomes a space. A backslash at the end of the
    last line stays. -/
inductive UnitJoined : List Utf16 → List Utf16 → Prop where
  | nil : UnitJoined [] []
  | last (raw : Utf16) : UnitJoined [raw] [dropReturn raw]
  | plain {raw : Utf16} {raws texts : List Utf16} : continues (dropReturn raw) = false →
      UnitJoined raws texts → UnitJoined (raw :: raws) (dropReturn raw :: texts)
  | continued {raw piece text : Utf16} {raws texts : List Utf16} : dropReturn raw = piece ++ [92] →
      UnitJoined raws (text :: texts) → UnitJoined (raw :: raws) ((piece ++ 32 :: text) :: texts)

/-- A text says lines, one for each of its logical lines. -/
def Renders (lines : List UnitLine) (text : Utf16) : Prop :=
  ∃ texts, UnitJoined (text.splitOn 10) texts ∧ List.Forall₂ Says texts lines

theorem continues_iff {value : Utf16} : continues value = true ↔ ∃ piece, value = piece ++ [92] := by
  rw [continues, beq_iff_eq, List.getLast?_eq_some_iff]

theorem continues_append (piece value : Utf16) : continues (piece ++ 32 :: value) = continues value := by
  rw [continues, continues]
  cases value with
  | nil =>
      rw [List.getLast?_concat]
      rfl
  | cons unit rest =>
      rw [List.getLast?_append_of_ne_nil _ (List.cons_ne_nil _ _), List.getLast?_cons_cons]

/-- What a backslash left open is put in front of the next logical line. -/
theorem statementsFrom_pending (piece : Utf16) (started line : Nat) (raw : Utf16) (raws : List Utf16) :
    ∃ first rest, (statementsFrom none line (raw :: raws)).map UnitStatement.text = first :: rest ∧
      (statementsFrom (some ⟨piece ++ [92], started⟩) line (raw :: raws)).map UnitStatement.text =
        (piece ++ 32 :: first) :: rest := by
  induction raws generalizing piece started line raw with
  | nil =>
      refine ⟨dropReturn raw, [], ?_, ?_⟩
      · rw [statementsFrom]
        split <;> rfl
      · rw [statementsFrom]
        dsimp only
        rw [List.dropLast_concat]
        split <;> rfl
  | cons next others ih =>
      cases goes : continues (dropReturn raw) with
      | false =>
          refine ⟨dropReturn raw, (statementsFrom none (line + 1) (next :: others)).map UnitStatement.text,
            ?_, ?_⟩
          · rw [statementsFrom, goes, if_neg Bool.false_ne_true, List.map_cons]
          · conv_lhs => rw [statementsFrom]
            rw [List.dropLast_concat, continues_append, goes, if_neg Bool.false_ne_true, List.map_cons]
      | true =>
          obtain ⟨more, isMore⟩ := continues_iff.mp goes
          obtain ⟨first, rest, whole, alone⟩ := ih more line (line + 1) next
          obtain ⟨first', rest', whole', joined⟩ := ih (piece ++ 32 :: more) started (line + 1) next
          rw [whole] at whole'
          cases whole'
          refine ⟨more ++ 32 :: first, rest, ?_, ?_⟩
          · rw [statementsFrom, goes, if_pos rfl, isMore]
            exact alone
          · rw [statementsFrom]
            dsimp only
            rw [List.dropLast_concat, continues_append, goes, if_pos rfl, isMore, ← List.cons_append,
              ← List.append_assoc]
            rw [joined, List.append_assoc, List.cons_append]

/-- The loop over the lines joins them. -/
theorem unitJoined_statementsFrom (line : Nat) (raws : List Utf16) :
    UnitJoined raws ((statementsFrom none line raws).map UnitStatement.text) := by
  induction raws generalizing line with
  | nil => exact .nil
  | cons raw others ih =>
      cases goes : continues (dropReturn raw) with
      | false =>
          rw [statementsFrom]
          rw [goes, if_neg Bool.false_ne_true, List.map_cons]
          exact .plain goes (ih (line + 1))
      | true =>
          rw [statementsFrom]
          rw [goes, if_pos rfl]
          cases others with
          | nil => exact .last raw
          | cons next others =>
              obtain ⟨piece, isPiece⟩ := continues_iff.mp goes
              obtain ⟨first, rest, whole, joined⟩ :=
                statementsFrom_pending piece line (line + 1) next others
              have rejoined := ih (line + 1)
              rw [whole] at rejoined
              rw [isPiece, joined]
              exact .continued isPiece rejoined

/-- The texts of the loop's statements are the lines joined. -/
theorem unitJoined_of_statementsFrom {raws texts : List Utf16}
    (joins : (statementsFrom none 1 raws).map UnitStatement.text = texts) : UnitJoined raws texts := by
  rw [← joins]
  exact unitJoined_statementsFrom 1 raws

theorem UnitJoined.eq_statementsFrom {raws texts : List Utf16} (joined : UnitJoined raws texts) (line : Nat) :
    (statementsFrom none line raws).map UnitStatement.text = texts := by
  induction joined generalizing line with
  | nil => rfl
  | last raw =>
      rw [statementsFrom]
      split <;> rfl
  | plain stops _ ih =>
      rw [statementsFrom]
      rw [stops, if_neg Bool.false_ne_true, List.map_cons, ih]
  | @continued raw piece text raws texts goes rejoined ih =>
      cases raws with
      | nil => cases rejoined
      | cons next others =>
          obtain ⟨first, rest, whole, joined⟩ := statementsFrom_pending piece line (line + 1) next others
          rw [ih] at whole
          cases whole
          rw [statementsFrom]
          rw [goes, continues_iff.mpr ⟨piece, rfl⟩, if_pos rfl, joined]

/-! ### A whole text -/

/-- A text is accepted where no assignment precedes the headers. -/
theorem parse_of_renders {text : Utf16} {lines : List UnitLine} (rendered : Renders lines text)
    {parsed : SystemdUnit} :
    parseSystemdUnit text = .ok parsed ↔
      WellPlaced lines ∧ parsed = ⟨(lines.foldl UnitReader.apply ⟨[], none⟩).sections⟩ := by
  obtain ⟨texts, joined, said⟩ := rendered
  rw [← joined.eq_statementsFrom 1, List.forall₂_map_left_iff] at said
  have run : ∀ next, readStatements ⟨[], none⟩ (statementsFrom none 1 (text.splitOn 10)) = .ok next ↔ _ :=
    fun next => UnitReader.readStatements_eq_ok said
  rw [parseSystemdUnit]
  constructor
  · intro accepted
    cases whole : readStatements ⟨[], none⟩ (statementsFrom none 1 (text.splitOn 10)) with
    | error failure => rw [whole] at accepted; cases accepted
    | ok reader =>
        rw [whole] at accepted
        obtain ⟨ready, same⟩ := (run reader).mp whole
        rw [← same]
        exact ⟨ready.resolve_left (fun isOpen => isOpen rfl), (Except.ok.inj accepted).symm⟩
  · rintro ⟨placed, same⟩
    rw [(run _).mpr ⟨.inr placed, rfl⟩, same]

theorem exists_renders {text : Utf16} {parsed : SystemdUnit} (accepted : parseSystemdUnit text = .ok parsed) :
    ∃ lines, Renders lines text := by
  rw [parseSystemdUnit] at accepted
  split at accepted
  · cases accepted
  · rename_i reader whole
    obtain ⟨lines, said⟩ := UnitReader.exists_lines_of_readStatements whole
    exact ⟨lines, _, unitJoined_statementsFrom 1 _, List.forall₂_map_left_iff.mpr said⟩

/-- An accepted text is read as what it says. -/
theorem reading_of_parse {text : Utf16} {lines : List UnitLine} (rendered : Renders lines text)
    {parsed : SystemdUnit} (accepted : parseSystemdUnit text = .ok parsed) :
    (∀ name, parsed.hasSection name = true ↔ .header name ∈ lines) ∧
      ∀ name directive, parsed.assignments name directive =
        inEffect (given name directive none lines) := by
  obtain ⟨placed, rfl⟩ := (parse_of_renders rendered).mp accepted
  have reading : Reading _ ([] ++ lines) := reading_nil.foldl (.inr placed)
  rw [List.nil_append] at reading
  exact ⟨reading.headers, reading.values⟩

/-! ### Values that are taken apart -/

theorem inEffect_append (first second : List Utf16) :
    inEffect (first ++ second) =
      if [] ∈ second then inEffect second else inEffect first ++ second := by
  induction second using List.reverseRecOn with
  | nil => rw [List.append_nil, if_neg List.not_mem_nil, List.append_nil]
  | append_singleton second value ih =>
      rw [← List.append_assoc, inEffect_concat, inEffect_concat, ih]
      cases value with
      | nil => simp
      | cons unit rest =>
          simp only [List.isEmpty_cons, Bool.false_eq_true, if_false, List.mem_append,
            List.mem_singleton, reduceCtorEq, or_false]
          split
          · rfl
          · rw [List.append_assoc]

/-- The pieces of a text between white space. -/
def words (text : Utf16) : List Utf16 := (text.splitOnP isSpace).filter fun piece => !piece.isEmpty

theorem filter_splitSpaces (text : Utf16) :
    ((splitSpaces text).filter fun token => !token.isEmpty) = words text := by
  rw [splitSpaces, words]
  cases text.splitOnP isSpace with
  | nil => rfl
  | cons first rest =>
      dsimp only
      rw [List.filter_cons, List.filter_cons, List.filter_append, List.filter_filter]
      have whole : rest.filter (fun piece => !piece.isEmpty) =
          rest.dropLast.filter (fun piece => !piece.isEmpty) ++
            rest.getLast?.toList.filter fun piece => !piece.isEmpty := by
        rw [← List.filter_append]
        rcases List.eq_nil_or_concat rest with rfl | ⟨init, last, rfl⟩
        · rfl
        · rw [List.concat_eq_append, List.dropLast_concat, List.getLast?_concat]
          rfl
      simp only [Bool.and_self]
      rw [whole]

theorem words_append_space (first second : Utf16) {unit : UInt16} (space : isSpace unit = true) :
    words (first ++ unit :: second) = words first ++ words second := by
  rw [words, List.splitOnP_append_cons _ _ space, List.filter_append]
  rfl

theorem words_space (second : Utf16) {unit : UInt16} (space : isSpace unit = true) :
    words (unit :: second) = words second := by
  have alone := words_append_space [] second space
  rw [List.nil_append] at alone
  rw [alone]
  rfl

theorem words_append_blank {gap : Utf16} (blank : Blank gap) (nonempty : gap ≠ []) (first second : Utf16) :
    words (first ++ gap ++ second) = words first ++ words second := by
  obtain ⟨unit, rest, rfl⟩ := List.exists_cons_of_ne_nil nonempty
  obtain ⟨space, others⟩ := blank_cons.mp blank
  rw [List.append_assoc, List.cons_append, words_append_space _ _ space]
  congr 1
  clear blank nonempty space
  induction rest with
  | nil => rfl
  | cons next rest ih =>
      obtain ⟨space, blank⟩ := blank_cons.mp others
      rw [List.cons_append, words_space _ space, ih blank]

theorem tokens_eq (parsed : SystemdUnit) (name directive : Utf16) :
    parsed.tokens name directive =
      ((parsed.assignments name directive).flatMap words).map SystemdUnit.stripOneQuotePair := by
  rw [SystemdUnit.tokens, List.filter_flatMap]
  simp only [filter_splitSpaces]

theorem flatMap_inEffect_split {value first second : Utf16} (nonempty : value ≠ []) (one : first ≠ [])
    (other : second ≠ []) (same : words value = words first ++ words second)
    (front back : List Utf16) :
    (inEffect (front ++ [first, second] ++ back)).flatMap words =
      (inEffect (front ++ [value] ++ back)).flatMap words := by
  rw [inEffect_append (front ++ [first, second]), inEffect_append (front ++ [value])]
  split
  · rfl
  · rw [inEffect_append front, inEffect_append front, if_neg (by simp [one.symm, other.symm]),
      if_neg (by simp [nonempty.symm])]
    simp [same]

/-- Systemd assignments follow the documented rules. A unit is accepted where its first directive stands
    behind a header; a directive then has the values given to it under the headers of its section, behind
    the last empty one; and a value taken apart at white space, into two assignments in its place, leaves
    all tokens as they are. -/
theorem assignments_follow_rules {text : Utf16} {lines : List UnitLine} (rendered : Renders lines text) :
    ((∃ parsed, parseSystemdUnit text = .ok parsed) ↔ WellPlaced lines) ∧
      ∀ parsed, parseSystemdUnit text = .ok parsed →
        (∀ name directive,
          parsed.assignments name directive = inEffect (given name directive none lines) ∧
            parsed.scalar name directive = (inEffect (given name directive none lines)).getLast?) ∧
        ∀ front back directive first gap second rewritten,
          lines = front ++ .assignment directive (first ++ gap ++ second) :: back →
          first ≠ [] → second ≠ [] → gap ≠ [] → Blank gap →
          Renders (front ++ .assignment directive first :: .assignment directive second :: back)
            rewritten →
          ∃ parsed', parseSystemdUnit rewritten = .ok parsed' ∧
            ∀ name key, parsed'.tokens name key = parsed.tokens name key := by
  refine ⟨?_, ?_⟩
  · constructor
    · rintro ⟨parsed, accepted⟩
      exact ((parse_of_renders rendered).mp accepted).1
    · intro placed
      exact ⟨_, (parse_of_renders rendered).mpr ⟨placed, rfl⟩⟩
  intro parsed accepted
  obtain ⟨-, values⟩ := reading_of_parse rendered accepted
  refine ⟨?_, ?_⟩
  · intro name directive
    refine ⟨values name directive, ?_⟩
    rw [SystemdUnit.scalar, values]
  intro front back directive first gap second rewritten whole one other nonempty blank rendered'
  have placed := ((parse_of_renders rendered).mp accepted).1
  rw [whole, wellPlaced_append] at placed
  have placed' : WellPlaced
      (front ++ .assignment directive first :: .assignment directive second :: back) :=
    wellPlaced_append.mpr ⟨placed.1, placed.2⟩
  have accepted' := (parse_of_renders rendered').mpr ⟨placed', rfl⟩
  obtain ⟨-, values'⟩ := reading_of_parse rendered' accepted'
  refine ⟨_, accepted', ?_⟩
  intro name key
  rw [tokens_eq, tokens_eq, values, values', whole, given_append, given_append, given, given, given]
  congr 1
  by_cases named : sectionAfter none front = some name ∧ directive = key
  · rw [if_pos named, if_pos named, if_pos named]
    have joined : first ++ gap ++ second ≠ [] := by simp [one]
    have split := flatMap_inEffect_split joined one other (words_append_blank blank nonempty first second)
      (given name key none front) (given name key (sectionAfter none front) back)
    simpa using split
  · rw [if_neg named, if_neg named, if_neg named]

theorem says_header {text inner name : Utf16} (whole : trim text = 91 :: (inner ++ [93]))
    (free : 93 ∉ inner) (named : trim inner = name) (nonempty : name ≠ []) : Says text (.header name) := by
  subst named
  exact .header whole free nonempty

theorem says_assignment {text before after directive value : Utf16}
    (whole : trim text = before ++ 61 :: after) (named : trim before = directive)
    (shape : isDirectiveName directive = true) (isValue : trim after = value) :
    Says text (.assignment directive value) := by
  subst named isValue
  exact .assignment whole shape

/-- A reopened section, a reset, a value over two lines, and white space around the `=`. -/
theorem assignments_follow_rules_reopened :
    ∃ parsed, parseSystemdUnit (units "[Unit]\nAfter=a\n[Service]\n[Unit]\nAfter =\nAfter = b\\\nc") =
        .ok parsed ∧
      parsed.assignments (units "Unit") (units "After") = [units "b c"] := by
  have rendered : Renders
      [.header (units "Unit"), .assignment (units "After") (units "a"), .header (units "Service"),
        .header (units "Unit"), .assignment (units "After") [], .assignment (units "After") (units "b c")]
      (units "[Unit]\nAfter=a\n[Service]\n[Unit]\nAfter =\nAfter = b\\\nc") := by
    refine ⟨[units "[Unit]", units "After=a", units "[Service]", units "[Unit]", units "After =",
      units "After = b c"], unitJoined_of_statementsFrom (by decide),
      .cons ?_ (.cons ?_ (.cons ?_ (.cons ?_ (.cons ?_ (.cons ?_ .nil)))))⟩
    · exact @says_header _ (units "Unit") _ (by decide) (by decide)
        (by decide) (by decide)
    · exact @says_assignment _ (units "After") (units "a") _ _ (by decide) (by decide)
        (by decide) (by decide)
    · exact @says_header _ (units "Service") _ (by decide) (by decide)
        (by decide) (by decide)
    · exact @says_header _ (units "Unit") _ (by decide) (by decide)
        (by decide) (by decide)
    · exact @says_assignment _ (units "After ") [] _ _ (by decide) (by decide)
        (by decide) (by decide)
    · exact @says_assignment _ (units "After ") (units " b c") _ _ (by decide)
        (by decide) (by decide) (by decide)
  obtain ⟨accepted, values⟩ := assignments_follow_rules rendered
  obtain ⟨parsed, isParsed⟩ := accepted.mpr trivial
  refine ⟨parsed, isParsed, ?_⟩
  rw [((values parsed isParsed).1 _ _).1]
  decide

end JumptotechLabs.Verifier
