/-
Module: JumptotechLabs.Verifier.SystemdComments
Layer: Verifier (services/verifier/src/systemd-unit.ts)
Purpose: Comment lines put between the lines of a systemd unit. One that ends in a backslash takes the
  logical line behind it with it: what the unit loses by that, and when it loses nothing.
Main exports: Undone, inEffect_eq_iff, leading, Idle, idle_iff, unit_comment_invisible_iff
-/
import JumptotechLabs.Verifier.SystemdUnit

namespace JumptotechLabs.Verifier

open JumptotechLabs.Core
open JumptotechLabs.Core.Utf16 (isSpace trim trimStart dropReturn)

/-! ### Values that count for nothing -/

/-- Values that stand between others and count for nothing: they are cleared behind them, there are none,
    or they clear what they add and what they cleared they give again. -/
def Undone (before values after : List Utf16) : Prop :=
  [] ∈ after ∨ values = [] ∨ ([] ∈ values ∧ inEffect values = inEffect before)

theorem inEffect_eq_iff {before values after : List Utf16} :
    inEffect (before ++ after) = inEffect (before ++ values ++ after) ↔ Undone before values after := by
  rw [inEffect_append before after, inEffect_append (before ++ values) after, Undone]
  by_cases cleared : [] ∈ after
  · rw [if_pos cleared, if_pos cleared]
    exact ⟨fun _ => .inl cleared, fun _ => rfl⟩
  rw [if_neg cleared, if_neg cleared, List.append_left_inj, inEffect_append]
  by_cases clears : [] ∈ values
  · rw [if_pos clears]
    constructor
    · intro same
      exact .inr (.inr ⟨clears, same.symm⟩)
    · rintro (later | none | ⟨-, same⟩)
      · exact absurd later cleared
      · rw [none] at clears
        cases clears
      · exact same.symm
  · rw [if_neg clears, List.self_eq_append_right]
    constructor
    · intro nothing
      exact .inr (.inl nothing)
    · rintro (later | none | ⟨inside, -⟩)
      · exact absurd later cleared
      · exact none
      · exact absurd inside clears

/-- The values given to a directive in front of the first header. -/
def leading (directive : Utf16) : List UnitLine → List Utf16
  | [] => []
  | .header _ :: _ => []
  | .silent :: rest => leading directive rest
  | .assignment key value :: rest =>
      if key = directive then value :: leading directive rest else leading directive rest

/-- The lines in front of the first header go to the section that is open there. -/
theorem given_eq_leading (name directive : Utf16) (current : Option Utf16) (lines : List UnitLine) :
    given name directive current lines =
      (if current = some name then leading directive lines else []) ++ given name directive none lines := by
  induction lines with
  | nil => simp [given, leading]
  | cons line rest ih =>
      cases line with
      | silent => exact ih
      | header opened => simp [given, leading]
      | assignment key value =>
          rw [given, given, leading, ih]
          by_cases isOpen : current = some name
          · by_cases same : key = directive <;> simp [isOpen, same]
          · simp [isOpen]

theorem sectionAfter_eq_some {current : Option Utf16} {lines : List UnitLine} {name : Utf16}
    (isOpen : sectionAfter current lines = some name) : current = some name ∨ .header name ∈ lines := by
  induction lines generalizing current with
  | nil => exact .inl isOpen
  | cons line rest ih =>
      cases line with
      | silent => exact (ih isOpen).imp_right (List.mem_cons_of_mem _)
      | assignment directive value => exact (ih isOpen).imp_right (List.mem_cons_of_mem _)
      | header opened =>
          rcases ih isOpen with same | inside
          · cases same
            exact .inr List.mem_cons_self
          · exact .inr (List.mem_cons_of_mem _ inside)

theorem header_mem_of_sectionAfter {lines : List UnitLine} {name : Utf16}
    (isOpen : sectionAfter none lines = some name) : .header name ∈ lines :=
  (sectionAfter_eq_some isOpen).resolve_left (fun closed => by cases closed)

/-! ### A line that is taken out -/

/-- Two sequences of lines make the same unit, and the second is accepted. -/
def SameUnit (lines others : List UnitLine) : Prop :=
  WellPlaced others ∧ (∀ name, .header name ∈ others ↔ .header name ∈ lines) ∧
    ∀ name directive, inEffect (given name directive none others) =
      inEffect (given name directive none lines)

/-- A line that says nothing there: it is silent, its value counts for nothing, or it opens the section
    that is open; or else it opens one that is declared by another line, and what stands under it up to the
    next header counts for nothing both there and in the section that was open. -/
def Idle (before : List UnitLine) : UnitLine → List UnitLine → Prop
  | .silent, _ => True
  | .assignment directive value, after => ∀ name, sectionAfter none before = some name →
      Undone (given name directive none before) [value] (given name directive (some name) after)
  | .header name, after => sectionAfter none before = some name ∨
      (.header name ∈ before ++ after ∧ (sectionAfter none before = none → WellPlaced after) ∧
        ∀ other directive, other = name ∨ sectionAfter none before = some other →
          Undone (given other directive none before) (leading directive after)
            (given other directive none after))

theorem idle_assignment_iff {before after : List UnitLine} {directive value : Utf16}
    (placed : WellPlaced (before ++ .assignment directive value :: after)) :
    SameUnit (before ++ .assignment directive value :: after) (before ++ .silent :: after) ↔
      Idle before (.assignment directive value) after := by
  obtain ⟨front, behind⟩ := wellPlaced_append.mp placed
  cases isOpen : sectionAfter none before with
  | none => exact (behind isOpen).elim
  | some name =>
      have kept : WellPlaced (before ++ .silent :: after) := by
        rw [wellPlaced_append, isOpen]
        exact ⟨front, fun closed => absurd closed (Option.some_ne_none name)⟩
      have headers : ∀ other, .header other ∈ before ++ .silent :: after ↔
          .header other ∈ before ++ .assignment directive value :: after := by
        intro other
        simp
      have values : ∀ other key, given other key none (before ++ .silent :: after) =
          given other key none before ++ given other key (some name) after := by
        intro other key
        rw [given_append, isOpen, given]
      rw [Idle, isOpen]
      constructor
      · rintro ⟨-, -, same⟩ other isName
        cases isName
        have equal := same name directive
        rw [values, given_append, isOpen, given, if_pos ⟨rfl, rfl⟩] at equal
        rw [← inEffect_eq_iff, List.append_assoc]
        exact equal
      · intro undone
        refine ⟨kept, headers, ?_⟩
        intro other key
        rw [values, given_append, isOpen, given]
        split
        · rename_i same
          obtain ⟨isName, rfl⟩ := same
          cases isName
          have equal := inEffect_eq_iff.mpr (undone name rfl)
          rwa [List.append_assoc] at equal
        · rfl

theorem idle_header_iff {before after : List UnitLine} {name : Utf16}
    (placed : WellPlaced (before ++ .header name :: after)) :
    SameUnit (before ++ .header name :: after) (before ++ .silent :: after) ↔
      Idle before (.header name) after := by
  obtain ⟨front, -⟩ := wellPlaced_append.mp placed
  have accepted : WellPlaced (before ++ .silent :: after) ↔
      (sectionAfter none before = none → WellPlaced after) := by
    rw [wellPlaced_append]
    exact and_iff_right front
  have headers : (∀ other, .header other ∈ before ++ .silent :: after ↔
      .header other ∈ before ++ .header name :: after) ↔ .header name ∈ before ++ after := by
    constructor
    · intro same
      have inside := (same name).mpr (by simp)
      simpa using inside
    · intro inside other
      simp only [List.mem_append, List.mem_cons, reduceCtorEq, false_or, UnitLine.header.injEq] at inside ⊢
      constructor
      · rintro (inFront | behind)
        · exact .inl inFront
        · exact .inr (.inr behind)
      · rintro (inFront | rfl | behind)
        · exact .inl inFront
        · exact inside
        · exact .inr behind
  have silent : ∀ other directive, given other directive none (before ++ .silent :: after) =
      given other directive none before ++ ((if sectionAfter none before = some other then
        leading directive after else []) ++ given other directive none after) := by
    intro other directive
    rw [given_append, given, given_eq_leading other directive _ after]
  have opened : ∀ other directive, given other directive none (before ++ .header name :: after) =
      given other directive none before ++ ((if some name = some other then
        leading directive after else []) ++ given other directive none after) := by
    intro other directive
    rw [given_append, given, given_eq_leading other directive _ after]
  rw [SameUnit, accepted, headers, Idle]
  by_cases isOpen : sectionAfter none before = some name
  · constructor
    · intro _
      exact .inl isOpen
    · intro _
      refine ⟨fun closed => ?_, ?_, ?_⟩
      · rw [isOpen] at closed
        cases closed
      · exact List.mem_append_left _ (header_mem_of_sectionAfter isOpen)
      · intro other directive
        rw [silent, opened, isOpen]
  · rw [or_iff_right isOpen]
    constructor
    · rintro ⟨ready, declared, same⟩
      refine ⟨declared, ready, ?_⟩
      intro other directive which
      have equal := same other directive
      rw [silent, opened] at equal
      rw [← inEffect_eq_iff, List.append_assoc]
      rcases which with rfl | isOther
      · rw [if_neg isOpen, if_pos rfl] at equal
        exact equal
      · have distinct : ¬ some name = some other := by
          rintro alike
          rw [isOther] at isOpen
          exact isOpen alike.symm
        rw [if_pos isOther, if_neg distinct] at equal
        exact equal.symm
    · rintro ⟨declared, ready, undone⟩
      refine ⟨ready, declared, ?_⟩
      intro other directive
      rw [silent, opened]
      by_cases isName : some name = some other
      · cases isName
        rw [if_neg isOpen, if_pos rfl, List.nil_append, ← List.append_assoc]
        exact inEffect_eq_iff.mpr (undone name directive (.inl rfl))
      · rw [if_neg isName]
        split
        · rename_i isOther
          rw [List.nil_append, ← List.append_assoc]
          exact (inEffect_eq_iff.mpr (undone other directive (.inr isOther))).symm
        · rfl

theorem idle_iff {before after : List UnitLine} {line : UnitLine}
    (placed : WellPlaced (before ++ line :: after)) :
    SameUnit (before ++ line :: after) (before ++ .silent :: after) ↔ Idle before line after := by
  cases line with
  | silent =>
      constructor
      · intro _
        trivial
      · intro _
        exact ⟨placed, fun _ => Iff.rfl, fun _ _ => rfl⟩
  | header name => exact idle_header_iff placed
  | assignment directive value => exact idle_assignment_iff placed

/-! ### A comment between two lines -/

/-- No line is open at the end of a text. -/
def Closed (text : Utf16) : Prop :=
  ∀ raw ∈ (text.splitOn 10).getLast?, continues (dropReturn raw) = false

instance (text : Utf16) : Decidable (Closed text) :=
  inferInstanceAs (Decidable (∀ raw ∈ (text.splitOn 10).getLast?, continues (dropReturn raw) = false))

/-- A line whose first visible unit is `#` or `;`. -/
structure UnitComment (comment : Utf16) : Prop where
  oneLine : 10 ∉ comment
  marked : (trimStart comment).head? = some 35 ∨ (trimStart comment).head? = some 59

theorem UnitJoined.append {raws others texts rest : List Utf16} (joined : UnitJoined raws texts)
    (closed : ∀ raw ∈ raws.getLast?, continues (dropReturn raw) = false) (behind : UnitJoined others rest) :
    UnitJoined (raws ++ others) (texts ++ rest) := by
  induction joined with
  | nil => exact behind
  | last raw => exact .plain (closed raw rfl) behind
  | @plain raw raws texts stops rejoined ih =>
      refine .plain stops ?_
      cases raws with
      | nil =>
          cases rejoined
          exact behind
      | cons next raws => exact ih closed
  | @continued raw piece text raws texts goes rejoined ih =>
      refine .continued goes ?_
      cases raws with
      | nil => cases rejoined
      | cons next raws => exact ih closed

theorem splitOn_lineFeed (before after : Utf16) :
    (before ++ 10 :: after).splitOn 10 = before.splitOn 10 ++ after.splitOn 10 :=
  List.splitOn_append_cons_self before after

/-- Texts put together at a line feed say what each of them says. -/
theorem Renders.append {before after : Utf16} {front back : List UnitLine} (first : Renders front before)
    (closed : Closed before) (second : Renders back after) :
    Renders (front ++ back) (before ++ 10 :: after) := by
  obtain ⟨texts, joined, said⟩ := first
  obtain ⟨others, joined', said'⟩ := second
  refine ⟨texts ++ others, ?_, List.rel_append said said'⟩
  rw [splitOn_lineFeed]
  exact joined.append closed joined'

theorem unitJoined_texts (raws : List Utf16) : ∃ texts, UnitJoined raws texts :=
  ⟨_, unitJoined_statementsFrom 1 raws⟩

theorem UnitJoined.unique {raws texts others : List Utf16} (one : UnitJoined raws texts)
    (other : UnitJoined raws others) : texts = others :=
  (one.eq_statementsFrom 1).symm.trans (other.eq_statementsFrom 1)

/-- What a text of two parts says is said by the parts. -/
theorem Renders.split {before after : Utf16} {lines : List UnitLine} (closed : Closed before)
    (rendered : Renders lines (before ++ 10 :: after)) :
    ∃ front back, lines = front ++ back ∧ Renders front before ∧ Renders back after := by
  obtain ⟨texts, joined, said⟩ := rendered
  obtain ⟨first, isFirst⟩ := unitJoined_texts (before.splitOn 10)
  obtain ⟨second, isSecond⟩ := unitJoined_texts (after.splitOn 10)
  rw [splitOn_lineFeed] at joined
  rw [joined.unique (isFirst.append closed isSecond)] at said
  refine ⟨lines.take first.length, lines.drop first.length, (List.take_append_drop _ _).symm,
    ⟨first, isFirst, ?_⟩, ⟨second, isSecond, ?_⟩⟩
  · have taken := List.forall₂_take first.length said
    rwa [List.take_left] at taken
  · have dropped := List.forall₂_drop first.length said
    rwa [List.drop_left] at dropped

theorem Renders.ne_nil {text : Utf16} {lines : List UnitLine} (rendered : Renders lines text) :
    lines ≠ [] := by
  rintro rfl
  obtain ⟨texts, joined, said⟩ := rendered
  cases said
  have nonempty : text.splitOn 10 ≠ [] := List.splitOn_ne_nil 10 text
  revert joined nonempty
  cases text.splitOn 10 with
  | nil => exact fun _ nonempty => absurd rfl nonempty
  | cons raw raws =>
      intro joined
      cases joined

/-- What starts a comment makes a comment of whatever follows it. -/
theorem UnitComment.silent {comment : Utf16} (isComment : UnitComment comment) {piece ending : Utf16}
    (whole : comment = piece ++ ending) (hash : 35 ∉ ending) (semicolon : 59 ∉ ending) (rest : Utf16) :
    Says (piece ++ rest) .silent := by
  have visible : ¬ Blank piece := by
    intro blank
    have marked := isComment.marked
    rw [whole, Utf16.trimStart_blank_append blank] at marked
    have inside : ∀ unit, (trimStart ending).head? = some unit → unit ∈ ending := by
      intro unit first
      exact (List.dropWhile_sublist isSpace).subset (List.mem_of_mem_head? first)
    rcases marked with isHash | isSemicolon
    · exact hash (inside 35 isHash)
    · exact semicolon (inside 59 isSemicolon)
  have nonempty : trimStart piece ≠ [] := fun nothing => visible (Utf16.trimStart_eq_nil_iff.mp nothing)
  have same : (trim (piece ++ rest)).head? = (trimStart comment).head? := by
    rw [← Utf16.head?_trimStart, whole, Utf16.trimStart_append visible, Utf16.trimStart_append visible,
      List.head?_append_of_ne_nil _ nonempty, List.head?_append_of_ne_nil _ nonempty]
  rcases isComment.marked with isHash | isSemicolon
  · exact .comment (same.trans isHash) (.inl rfl)
  · exact .comment (same.trans isSemicolon) (.inr rfl)

theorem exists_dropReturn (line : Utf16) :
    ∃ ending, line = dropReturn line ++ ending ∧ (ending = [] ∨ ending = [13]) := by
  rw [dropReturn]
  split
  · rename_i returns
    obtain ⟨front, rfl⟩ := List.getLast?_eq_some_iff.mp returns
    refine ⟨[13], ?_, .inr rfl⟩
    rw [List.dropLast_concat]
  · exact ⟨[], (List.append_nil line).symm, .inl rfl⟩

theorem UnitComment.splitOn {comment : Utf16} (isComment : UnitComment comment) :
    comment.splitOn 10 = [comment] := List.splitOn_eq_singleton isComment.oneLine

/-- A comment with no backslash at its end is a line of its own. -/
theorem UnitComment.renders_alone {comment after : Utf16} (isComment : UnitComment comment)
    (stops : continues (dropReturn comment) = false) {lines : List UnitLine}
    (rendered : Renders lines after) : Renders (.silent :: lines) (comment ++ 10 :: after) := by
  obtain ⟨texts, joined, said⟩ := rendered
  obtain ⟨ending, whole, which⟩ := exists_dropReturn comment
  refine ⟨dropReturn comment :: texts, ?_, .cons ?_ said⟩
  · rw [splitOn_lineFeed, isComment.splitOn]
    exact .plain stops joined
  · have alone := isComment.silent whole (by rcases which with rfl | rfl <;> decide)
      (by rcases which with rfl | rfl <;> decide) []
    rwa [List.append_nil] at alone

/-- One with a backslash takes the logical line behind it with it. -/
theorem UnitComment.renders_swallowing {comment after : Utf16} (isComment : UnitComment comment)
    (goes : continues (dropReturn comment) = true) {line : UnitLine} {lines : List UnitLine}
    (rendered : Renders (line :: lines) after) : Renders (.silent :: lines) (comment ++ 10 :: after) := by
  obtain ⟨texts, joined, said⟩ := rendered
  obtain ⟨piece, isPiece⟩ := continues_iff.mp goes
  obtain ⟨ending, whole, which⟩ := exists_dropReturn comment
  cases said with
  | @cons text _ texts _ isSaid said =>
      refine ⟨(piece ++ 32 :: text) :: texts, ?_, .cons ?_ said⟩
      · rw [splitOn_lineFeed, isComment.splitOn]
        exact .continued isPiece joined
      · rw [isPiece, List.append_assoc] at whole
        exact isComment.silent whole (by rcases which with rfl | rfl <;> decide)
          (by rcases which with rfl | rfl <;> decide) _

/-- A text is accepted as the unit another one is, as far as what they say goes. -/
theorem sameUnit_iff {text other : Utf16} {lines others : List UnitLine} (rendered : Renders lines text)
    (rendered' : Renders others other) {parsed : SystemdUnit}
    (accepted : parseSystemdUnit text = .ok parsed) :
    (∃ widened, parseSystemdUnit other = .ok widened ∧
        (∀ name, widened.hasSection name = parsed.hasSection name) ∧
        ∀ name directive, widened.assignments name directive = parsed.assignments name directive) ↔
      SameUnit lines others := by
  obtain ⟨headers, values⟩ := reading_of_parse rendered accepted
  constructor
  · rintro ⟨widened, accepted', sections, same⟩
    obtain ⟨headers', values'⟩ := reading_of_parse rendered' accepted'
    refine ⟨((parse_of_renders rendered').mp accepted').1, ?_, ?_⟩
    · intro name
      rw [← headers, ← headers', sections]
    · intro name directive
      rw [← values, ← values', same]
  · rintro ⟨placed, sections, same⟩
    have accepted' := (parse_of_renders rendered').mpr ⟨placed, rfl⟩
    obtain ⟨headers', values'⟩ := reading_of_parse rendered' accepted'
    refine ⟨_, accepted', ?_, ?_⟩
    · intro name
      rw [Bool.eq_iff_iff, headers', headers]
      exact sections name
    · intro name directive
      rw [values', values]
      exact same name directive

theorem sameUnit_silent {front back : List UnitLine} (placed : WellPlaced (front ++ back)) :
    SameUnit (front ++ back) (front ++ .silent :: back) := by
  obtain ⟨first, second⟩ := wellPlaced_append.mp placed
  refine ⟨wellPlaced_append.mpr ⟨first, second⟩, ?_, ?_⟩
  · intro name
    simp
  · intro name directive
    rw [given_append, given_append, given]

/-- A comment line put between two lines of an accepted unit, where no line is open, leaves the unit as it
    is exactly where the comment does not end in a backslash, or the logical line it then takes with it
    says nothing there. -/
theorem unit_comment_invisible_iff {before after comment : Utf16} {parsed : SystemdUnit}
    (accepted : parseSystemdUnit (before ++ 10 :: after) = .ok parsed) (closed : Closed before)
    (isComment : UnitComment comment) :
    (∃ widened, parseSystemdUnit (before ++ 10 :: (comment ++ 10 :: after)) = .ok widened ∧
        (∀ name, widened.hasSection name = parsed.hasSection name) ∧
        ∀ name directive, widened.assignments name directive = parsed.assignments name directive) ↔
      continues (dropReturn comment) = false ∨
        ∃ front line back, Renders front before ∧ Renders (line :: back) after ∧ Idle front line back := by
  -- What the text says is the same whichever way it is put; the lines are read off on both sides.
  have swallowed : ∀ front line back, Renders front before → Renders (line :: back) after →
      continues (dropReturn comment) = true →
      ((∃ widened, parseSystemdUnit (before ++ 10 :: (comment ++ 10 :: after)) = .ok widened ∧
        (∀ name, widened.hasSection name = parsed.hasSection name) ∧
        ∀ name directive, widened.assignments name directive = parsed.assignments name directive) ↔
          Idle front line back) := by
    intro front line back first second goes
    have rendered := first.append closed second
    have widened := first.append closed (isComment.renders_swallowing goes second)
    rw [sameUnit_iff rendered widened accepted]
    exact idle_iff ((parse_of_renders rendered).mp accepted).1
  obtain ⟨lines, rendered⟩ := exists_renders accepted
  obtain ⟨front, behind, rfl, first, second⟩ := rendered.split closed
  cases goes : continues (dropReturn comment) with
  | false =>
      have widened := first.append closed (isComment.renders_alone goes second)
      rw [sameUnit_iff rendered widened accepted]
      exact ⟨fun _ => .inl rfl,
        fun _ => sameUnit_silent ((parse_of_renders rendered).mp accepted).1⟩
  | true =>
      rw [or_iff_right (by decide)]
      obtain ⟨line, back, rfl⟩ := List.exists_cons_of_ne_nil second.ne_nil
      constructor
      · intro same
        exact ⟨front, line, back, first, second, (swallowed front line back first second goes).mp same⟩
      · rintro ⟨front', line', back', first', second', idle⟩
        exact (swallowed front' line' back' first' second' goes).mpr idle

/-- A comment whose backslash takes a value with it that the next line clears anyway. -/
theorem unit_comment_invisible_cleared :
    ∃ widened, parseSystemdUnit (units "[Unit]\n# was:\\\nAfter=a\nAfter=") = .ok widened ∧
      widened.assignments (units "Unit") (units "After") = [] := by
  have first : Renders [.header (units "Unit")] (units "[Unit]") := by
    refine ⟨[units "[Unit]"], unitJoined_of_statementsFrom (by decide), .cons ?_ .nil⟩
    exact @says_header _ (units "Unit") _ (by decide) (by decide)
      (by decide) (by decide)
  have second : Renders [.assignment (units "After") (units "a"), .assignment (units "After") []]
      (units "After=a\nAfter=") := by
    refine ⟨[units "After=a", units "After="], unitJoined_of_statementsFrom (by decide),
      .cons ?_ (.cons ?_ .nil)⟩
    · exact @says_assignment _ (units "After") (units "a") _ _ (by decide) (by decide)
        (by decide) (by decide)
    · exact @says_assignment _ (units "After") [] _ _ (by decide) (by decide)
        (by decide) (by decide)
  have closed : Closed (units "[Unit]") := by decide
  have isComment : UnitComment (units "# was:\\") := ⟨by decide, by decide⟩
  have cleared : Idle [.header (units "Unit")] (.assignment (units "After") (units "a"))
      [.assignment (units "After") []] := by
    intro name isOpen
    cases isOpen
    exact .inl (by decide)
  have accepted := (parse_of_renders (first.append closed second)).mpr ⟨trivial, rfl⟩
  obtain ⟨widened, isParsed, -, values⟩ := (unit_comment_invisible_iff accepted closed isComment).mpr
    (.inr ⟨_, _, _, first, second, cleared⟩)
  refine ⟨widened, isParsed, ?_⟩
  rw [values, (reading_of_parse (first.append closed second) accepted).2]
  decide

/-- A comment that ends in a backslash, in front of the unit's only directive. -/
theorem unit_comment_takes_directive :
    ∃ parsed,
      parseSystemdUnit (units "[Service]" ++ 10 :: units "ExecStart=/bin/app") = .ok parsed ∧
      Closed (units "[Service]") ∧ UnitComment (units "# set by hand \\") ∧
      ¬ ∃ widened,
        parseSystemdUnit (units "[Service]" ++ 10 :: (units "# set by hand \\" ++ 10 ::
          units "ExecStart=/bin/app")) = .ok widened ∧
        (∀ name, widened.hasSection name = parsed.hasSection name) ∧
        ∀ name directive, widened.assignments name directive = parsed.assignments name directive := by
  refine ⟨⟨[⟨units "Service", [⟨units "ExecStart", [units "/bin/app"]⟩]⟩]⟩, by decide,
    by decide, ⟨by decide, by decide⟩, ?_⟩
  rintro ⟨widened, isParsed, -, same⟩
  have bare : parseSystemdUnit (units "[Service]" ++ 10 :: (units "# set by hand \\" ++ 10 ::
      units "ExecStart=/bin/app")) = .ok ⟨[⟨units "Service", []⟩]⟩ := by decide
  cases isParsed.symm.trans bare
  have lost := same (units "Service") (units "ExecStart")
  revert lost
  decide

end JumptotechLabs.Verifier
