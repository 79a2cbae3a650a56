/-
Module: JumptotechLabs.Core.Lines
Layer: Core (library)
Purpose: Texts by lines and by words: white space at the ends of a text, the lines a text is split into,
  its words, and how each of them goes with putting texts together.
Main exports: Blank, Utf16.trimStart, Utf16.trimEnd, Utf16.trim_of_decomposition, Utf16.exists_trim,
  Utf16.splitLines, Utf16.splitLines_append, Utf16.splitSpaces
-/
import JumptotechLabs.Core.Utf16

namespace JumptotechLabs.Core

/-- White space only. -/
def Blank (text : Utf16) : Prop := ∀ unit ∈ text, Utf16.isSpace unit = true

instance (text : Utf16) : Decidable (Blank text) :=
  List.decidableBAll (fun unit => Utf16.isSpace unit = true) text

theorem Blank.nil : Blank [] := fun _ inside => by cases inside

theorem Blank.append {first second : Utf16} (one : Blank first) (other : Blank second) :
    Blank (first ++ second) := by
  intro unit inside
  rcases List.mem_append.mp inside with before | behind
  · exact one unit before
  · exact other unit behind

theorem blank_append {first second : Utf16} :
    Blank (first ++ second) ↔ Blank first ∧ Blank second := by
  constructor
  · intro blank
    exact ⟨fun unit inside => blank unit (List.mem_append_left _ inside),
      fun unit inside => blank unit (List.mem_append_right _ inside)⟩
  · rintro ⟨one, other⟩
    exact one.append other

theorem blank_cons {unit : UInt16} {rest : Utf16} :
    Blank (unit :: rest) ↔ Utf16.isSpace unit = true ∧ Blank rest := by
  simp [Blank]

namespace Utf16

/-- `text.trimStart()`. -/
def trimStart (text : Utf16) : Utf16 := text.dropWhile isSpace

/-- `text.trimEnd()`. -/
def trimEnd (text : Utf16) : Utf16 := text.rdropWhile isSpace

theorem trim_eq (text : Utf16) : trim text = trimEnd (trimStart text) := rfl

theorem trimStart_eq_nil_iff {text : Utf16} : trimStart text = [] ↔ Blank text :=
  List.dropWhile_eq_nil_iff

theorem trimEnd_eq_nil_iff {text : Utf16} : trimEnd text = [] ↔ Blank text :=
  List.rdropWhile_eq_nil_iff

/-- A text is its leading white space, and what starts with none. -/
theorem exists_trimStart (text : Utf16) :
    ∃ lead, text = lead ++ trimStart text ∧ Blank lead ∧
      ∀ unit ∈ (trimStart text).head?, isSpace unit = false := by
  refine ⟨text.takeWhile isSpace, List.takeWhile_append_dropWhile.symm, ?_, ?_⟩
  · intro unit inside
    exact List.mem_takeWhile_imp inside
  · intro unit first
    have stops := List.head?_dropWhile_not isSpace text
    rw [Option.mem_def] at first
    rw [show text.dropWhile isSpace = trimStart text from rfl, first] at stops
    simpa using stops

/-- A text is what ends with no white space, and its trailing white space. -/
theorem exists_trimEnd (text : Utf16) :
    ∃ trail, text = trimEnd text ++ trail ∧ Blank trail ∧
      ∀ unit ∈ (trimEnd text).getLast?, isSpace unit = false := by
  refine ⟨text.rtakeWhile isSpace, List.rdropWhile_append_rtakeWhile.symm, ?_, ?_⟩
  · intro unit inside
    exact List.mem_rtakeWhile_imp inside
  · intro unit last
    have nonempty : trimEnd text ≠ [] := by
      rintro nothing
      rw [nothing] at last
      cases last
    have stops := List.rdropWhile_last_not isSpace text nonempty
    rw [Option.mem_def, List.getLast?_eq_some_getLast nonempty, Option.some.injEq] at last
    rw [← last]
    exact Bool.eq_false_iff.mpr stops

theorem trimStart_blank_append {lead : Utf16} (blank : Blank lead) (text : Utf16) :
    trimStart (lead ++ text) = trimStart text := List.dropWhile_append_of_pos blank

theorem trimStart_append {first : Utf16} (visible : ¬ Blank first) (second : Utf16) :
    trimStart (first ++ second) = trimStart first ++ second := by
  have nonempty : trimStart first ≠ [] := fun nothing => visible (trimStart_eq_nil_iff.mp nothing)
  rw [trimStart, List.dropWhile_append, if_neg]
  · rfl
  · rw [List.isEmpty_iff]
    exact nonempty

theorem trimEnd_append_blank {trail : Utf16} (blank : Blank trail) (text : Utf16) :
    trimEnd (text ++ trail) = trimEnd text := by
  rw [trimEnd, trimEnd, List.rdropWhile, List.rdropWhile, List.reverse_append,
    List.dropWhile_append_of_pos]
  intro unit inside
  exact blank unit (List.mem_reverse.mp inside)

theorem trimEnd_append {second : Utf16} (visible : ¬ Blank second) (first : Utf16) :
    trimEnd (first ++ second) = first ++ trimEnd second := by
  have nonempty : second.reverse.dropWhile isSpace ≠ [] := by
    intro nothing
    apply visible
    intro unit inside
    exact List.dropWhile_eq_nil_iff.mp nothing unit (List.mem_reverse.mpr inside)
  rw [trimEnd, trimEnd, List.rdropWhile, List.rdropWhile, List.reverse_append, List.dropWhile_append,
    if_neg (by rw [List.isEmpty_iff]; exact nonempty), List.reverse_append, List.reverse_reverse]

/-- A text between white space is what trimming leaves, if it starts and ends with none. -/
theorem trim_of_decomposition {lead core trail : Utf16} (before : Blank lead) (behind : Blank trail)
    (starts : ∀ unit ∈ core.head?, isSpace unit = false)
    (ends : ∀ unit ∈ core.getLast?, isSpace unit = false) : trim (lead ++ core ++ trail) = core := by
  rw [trim_eq, List.append_assoc, trimStart_blank_append before]
  cases core with
  | nil =>
      rw [List.nil_append, trimStart_eq_nil_iff.mpr behind]
      rfl
  | cons unit rest =>
      have visible : ¬ Blank (unit :: rest) := by
        intro blank
        have space := blank unit List.mem_cons_self
        rw [starts unit rfl] at space
        cases space
      rw [trimStart_append visible, trimEnd_append_blank behind]
      exact trim_eq_self starts ends

theorem exists_trim (text : Utf16) :
    ∃ lead trail, text = lead ++ trim text ++ trail ∧ Blank lead ∧ Blank trail ∧
      (∀ unit ∈ (trim text).head?, isSpace unit = false) ∧
      ∀ unit ∈ (trim text).getLast?, isSpace unit = false := by
  obtain ⟨lead, start, before, starts⟩ := exists_trimStart text
  obtain ⟨trail, stop, behind, ends⟩ := exists_trimEnd (trimStart text)
  refine ⟨lead, trail, ?_, before, behind, ?_, ends⟩
  · rw [trim_eq, List.append_assoc, ← stop, ← start]
  · intro unit first
    apply starts
    obtain ⟨rest, whole⟩ : ∃ rest, trim text = unit :: rest := List.head?_eq_some_iff.mp first
    rw [stop, ← trim_eq, whole]
    rfl

theorem trim_eq_nil_iff {text : Utf16} : trim text = [] ↔ Blank text := by
  constructor
  · intro nothing
    obtain ⟨lead, trail, whole, before, behind, -⟩ := exists_trim text
    rw [whole, nothing, List.append_nil]
    exact before.append behind
  · intro blank
    rw [trim_eq, trimStart_eq_nil_iff.mpr blank]
    rfl

theorem trim_blank_append {lead : Utf16} (blank : Blank lead) (text : Utf16) :
    trim (lead ++ text) = trim text := by
  rw [trim_eq, trimStart_blank_append blank, trim_eq]

theorem trim_append_blank {trail : Utf16} (blank : Blank trail) (text : Utf16) :
    trim (text ++ trail) = trim text := by
  obtain ⟨lead, behind, whole, before, after, starts, ends⟩ := exists_trim text
  conv_lhs => rw [whole, List.append_assoc]
  exact trim_of_decomposition before (after.append blank) starts ends

theorem mem_of_mem_trim {unit : UInt16} {text : Utf16} (inside : unit ∈ trim text) : unit ∈ text := by
  obtain ⟨lead, trail, whole, -⟩ := exists_trim text
  rw [whole]
  exact List.mem_append_left _ (List.mem_append_right _ inside)

theorem trim_trim (text : Utf16) : trim (trim text) = trim text := by
  obtain ⟨lead, trail, -, -, -, starts, ends⟩ := exists_trim text
  exact trim_eq_self starts ends

theorem trim_trimEnd (text : Utf16) : trim (trimEnd text) = trim text := by
  obtain ⟨trail, whole, blank, -⟩ := exists_trimEnd text
  conv_rhs => rw [whole]
  rw [trim_append_blank blank]

/-- What starts a text behind its white space also starts the text trimmed. -/
theorem head?_trimStart (text : Utf16) : (trimStart text).head? = (trim text).head? := by
  obtain ⟨trail, whole, blank, -⟩ := exists_trimEnd (trimStart text)
  obtain ⟨-, -, -, starts⟩ := exists_trimStart text
  rw [trim_eq]
  cases kept : trimEnd (trimStart text) with
  | nil =>
      have all : Blank (trimStart text) := trimEnd_eq_nil_iff.mp kept
      cases first : trimStart text with
      | nil => rfl
      | cons unit rest =>
          rw [first] at all starts
          have space := all unit List.mem_cons_self
          rw [starts unit rfl] at space
          cases space
  | cons unit rest =>
      rw [whole, kept]
      rfl

theorem trimEnd_dropReturn (line : Utf16) :
    trimEnd (if line.getLast? = some 13 then line.dropLast else line) = trimEnd line := by
  split
  · rename_i returns
    obtain ⟨before, rfl⟩ := List.getLast?_eq_some_iff.mp returns
    have space : Blank [13] := by decide
    rw [List.dropLast_concat, trimEnd_append_blank space]
  · rfl

/-! ### Lines and words -/

/-- `line.replace(/\r$/, '')`. -/
def dropReturn (line : Utf16) : Utf16 := if line.getLast? = some 13 then line.dropLast else line

/-- `text.split(/\r?\n/)`. -/
def splitLines (text : Utf16) : List Utf16 :=
  let pieces := text.splitOn 10
  pieces.dropLast.map dropReturn ++ pieces.getLast?.toList

/-- What stands before a line feed is lines of its own. -/
theorem splitLines_append (before after : Utf16) :
    splitLines (before ++ 10 :: after) = (before.splitOn 10).map dropReturn ++ splitLines after := by
  have split : (before ++ 10 :: after).splitOn 10 = before.splitOn 10 ++ after.splitOn 10 :=
    List.splitOn_append_cons_self before after
  have nonempty : after.splitOn 10 ≠ [] := List.splitOn_ne_nil 10 after
  simp only [splitLines, split]
  rw [List.dropLast_append_of_ne_nil nonempty, List.getLast?_append_of_ne_nil _ nonempty,
    List.map_append, List.append_assoc]

/-- `text.split(/\s+/)`: a run of white space parts two pieces, and one at an end leaves an empty piece. -/
def splitSpaces (text : Utf16) : List Utf16 :=
  match text.splitOnP isSpace with
  | [] => []
  | first :: rest =>
      first :: (rest.dropLast.filter (fun piece => !piece.isEmpty) ++ rest.getLast?.toList)

/-- The upper case of an ASCII letter. -/
def upperAscii (unit : UInt16) : UInt16 := if 97 ≤ unit && unit ≤ 122 then unit - 32 else unit

/-- `[A-Za-z]`. -/
def isLetter (unit : UInt16) : Bool := (65 ≤ unit && unit ≤ 90) || (97 ≤ unit && unit ≤ 122)

/-- `[A-Za-z0-9_]`, or `\w`. -/
def isWord (unit : UInt16) : Bool := isLetter unit || isDigit unit || unit == 95

end Utf16

end JumptotechLabs.Core
