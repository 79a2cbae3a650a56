/-
Module: JumptotechLabs.Verifier.LineValue
Layer: Verifier (services/verifier/src/line-value.ts)
Purpose: The rest of a line without its trailing white space, in linear time: the value behind a prefix, and the
  value behind the first separator. The latter is compared with the regular expression it replaced, as a
  backtracking matcher runs it.
Main exports: matchLineValue, valueAfterSeparator, separatorExpression, firstValue, capture_search,
  valueAfterSeparator_eq
-/
import JumptotechLabs.Core.Lines
import JumptotechLabs.Core.Pattern

namespace JumptotechLabs.Verifier

open JumptotechLabs.Core
open JumptotechLabs.Core.Utf16 (isSpace trim trimStart trimEnd)

/-! ### The source -/

/-- `LINE_TERMINATOR`: what `.` does not match. -/
def isLineTerminator (unit : UInt16) : Bool :=
  unit == 10 || unit == 13 || unit == 0x2028 || unit == 0x2029

/-- The groups of the prefix, and the value behind it. -/
def matchLineValue (line : Utf16) (startsWith : Pattern UInt16) :
    Option (Pattern.Match UInt16 × Utf16) :=
  match startsWith.exec line with
  | none => none
  | some groups =>
      if groups.index ≠ 0 then none
      else
        let value := trimEnd (line.drop groups.text.length)
        if value.isEmpty || value.any isLineTerminator then none else some (groups, value)

/-- `[:=]`. -/
def isSeparator (unit : UInt16) : Bool := unit == 58 || unit == 61

/-- What follows the first unit of a class. -/
def afterFirst (holds : UInt16 → Bool) : Utf16 → Option Utf16
  | [] => none
  | unit :: rest => if holds unit then some rest else afterFirst holds rest

/-- What stands before and after the last unit of a class. -/
def cutAtLast (holds : UInt16 → Bool) : Utf16 → Option (Utf16 × Utf16)
  | [] => none
  | unit :: rest =>
      match cutAtLast holds rest with
      | some (before, after) => some (unit :: before, after)
      | none => if holds unit then some ([], rest) else none

/-- `valueFrom`, of what follows the separator. -/
def valueFrom (rest : Utf16) : Option Utf16 :=
  let value := trimStart rest
  if value.isEmpty || value.any isLineTerminator then none else some value

/-- `valueAfterSeparator`, by scans in place of the expression. -/
def valueAfterSeparator (line : Utf16) : Option Utf16 :=
  let trimmed := trimEnd line
  match cutAtLast isLineTerminator trimmed with
  | none => (afterFirst isSeparator trimmed).bind valueFrom
  | some (before, after) =>
      -- The loop goes back over white space, from the terminator on.
      let kept := trimEnd before
      if kept.getLast?.any isSeparator then valueFrom (trimmed.drop kept.length)
      else (afterFirst isSeparator after).bind valueFrom

/-! ### The expression it replaced -/

/-- `\s*$`. -/
def blankToEnd : Pattern UInt16 := .seq (.many true isSpace) .atEnd

/-- `\s*(.+?)\s*$`. -/
def valueExpression : Pattern UInt16 :=
  .seq (.many true isSpace)
    (.seq (.group 1 (.plus false fun unit => !isLineTerminator unit)) blankToEnd)

/-- `[:=]\s*(.+?)\s*$`. -/
def separatorExpression : Pattern UInt16 := .seq (.one isSeparator) valueExpression

/-! ### The value of a line -/

theorem firstWay_blankToEnd {previous : Option UInt16} {text : Utf16} (blank : Blank text) :
    blankToEnd.firstWay ⟨previous, text⟩ = some ⟨⟨Pattern.passed previous text, []⟩, []⟩ := by
  rw [blankToEnd, Pattern.firstWay_seq]
  conv_lhs => rw [← List.append_nil text]
  exact Pattern.findSome?_greedy_of_success _ blank (by simp) rfl

theorem way_blankToEnd {cursor : Cursor UInt16} {way : Pattern.Way UInt16}
    (inWays : way ∈ blankToEnd.ways cursor) : Blank cursor.ahead ∧ way.groups = [] := by
  obtain ⟨middle, run, last, atEnd, rfl⟩ := Pattern.mem_ways_seq.mp inWays
  obtain ⟨plain, units, whole, blank, -⟩ := Pattern.mem_ways_many.mp run
  rw [Pattern.ways] at atEnd
  split at atEnd
  · rename_i nothing
    rw [List.isEmpty_iff.mp nothing, List.append_nil] at whole
    cases List.mem_singleton.mp atEnd
    rw [whole]
    exact ⟨blank, by rw [plain]; rfl⟩
  · cases atEnd

theorem firstWay_blankToEnd_visible {previous : Option UInt16} {text : Utf16} (visible : ¬ Blank text) :
    blankToEnd.firstWay ⟨previous, text⟩ = none := by
  rw [Pattern.firstWay_eq_none_iff, List.eq_nil_iff_forall_not_mem]
  intro way inWays
  exact visible (way_blankToEnd inWays).1

/-- Whatever way the tail of the expression matches, its group is a text without line terminators that has
    only white space around it. -/
theorem way_valueExpression {cursor : Cursor UInt16} {way : Pattern.Way UInt16}
    (inWays : way ∈ valueExpression.ways cursor) :
    ∃ lead value trail, cursor.ahead = lead ++ value ++ trail ∧ Blank lead ∧ Blank trail ∧
      (∀ unit ∈ value, isLineTerminator unit = false) ∧ way.groups = [(1, value)] := by
  obtain ⟨middle, run, last, behind, rfl⟩ := Pattern.mem_ways_seq.mp inWays
  obtain ⟨plain, lead, whole, blank, -⟩ := Pattern.mem_ways_many.mp run
  obtain ⟨held, inGroup, rest, toEnd, rfl⟩ := Pattern.mem_ways_seq.mp behind
  obtain ⟨inner, inPlus, rfl⟩ := Pattern.mem_ways_group.mp inGroup
  obtain ⟨one, first, many, further, rfl⟩ := Pattern.mem_ways_seq.mp inPlus
  obtain ⟨unit, ahead, starts, fits, rfl⟩ := Pattern.mem_ways_one.mp first
  obtain ⟨noGroups, units, split, all, -⟩ := Pattern.mem_ways_many.mp further
  obtain ⟨trail, noOthers⟩ := way_blankToEnd toEnd
  have value : middle.cursor.ahead = (unit :: units) ++ many.cursor.ahead := by
    rw [starts, List.cons_append, ← split]
  refine ⟨lead, unit :: units, many.cursor.ahead, ?_, blank, trail, ?_, ?_⟩
  · rw [whole, value, List.append_assoc]
  · intro other inside
    rcases List.mem_cons.mp inside with rfl | later
    · simpa using fits
    · simpa using all other later
  · rw [plain, noOthers, noGroups, value, Pattern.between_append]
    rfl

/-- The tail matches a text that holds no line terminator inside, and its group is the text trimmed. -/
theorem firstWay_valueExpression {previous : Option UInt16} {text : Utf16} (visible : ¬ Blank text)
    (inLine : ∀ unit ∈ trim text, isLineTerminator unit = false) :
    ∃ way, valueExpression.firstWay ⟨previous, text⟩ = some way ∧ way.groups = [(1, trim text)] := by
  obtain ⟨lead, trail, whole, before, behind, starts, ends⟩ := Utf16.exists_trim text
  generalize core : trim text = value at whole starts ends inLine
  cases value with
  | nil => exact absurd (Utf16.trim_eq_nil_iff.mp core) visible
  | cons first others =>
      have value : (Pattern.seq (.group 1 (.plus false fun unit => !isLineTerminator unit)) blankToEnd).firstWay
          ⟨Pattern.passed previous lead, first :: (others ++ trail)⟩ =
            some ⟨⟨Pattern.passed (Pattern.passed (some first) others) trail, []⟩, [(1, first :: others)]⟩ := by
        rw [Pattern.firstWay_seq, Pattern.findSome?_ways_group, Pattern.plus, Pattern.findSome?_ways_seq,
          Pattern.findSome?_one_cons, if_pos (by simp [inLine first List.mem_cons_self])]
        -- The value grows until only white space is left.
        refine Pattern.findSome?_lazy_of_success _ ?_ ?_ ?_
        · intro unit inside
          simp [inLine unit (List.mem_cons_of_mem _ inside)]
        · intro done left split nonempty
          have visibleLeft : ¬ Blank (left ++ trail) := by
            intro blank
            have last : isSpace (left.getLast nonempty) = true :=
              blank _ (List.mem_append_left _ (List.getLast_mem nonempty))
            rw [ends (left.getLast nonempty)] at last
            · cases last
            · rw [split, ← List.cons_append, List.getLast?_append_of_ne_nil _ nonempty]
              exact List.getLast?_eq_some_getLast nonempty
          rw [firstWay_blankToEnd_visible visibleLeft]
          rfl
        · have taken : Pattern.between (first :: (others ++ trail)) trail = first :: others :=
            Pattern.between_append (first :: others) trail
          rw [firstWay_blankToEnd behind]
          simp only [Option.map_some]
          rw [taken]
          rfl
      refine ⟨⟨⟨Pattern.passed (Pattern.passed (some first) others) trail, []⟩, [(1, first :: others)]⟩, ?_,
        rfl⟩
      rw [valueExpression, Pattern.firstWay_seq, whole, List.append_assoc]
      -- The white space in front is taken whole.
      refine Pattern.findSome?_greedy_of_success _ before (fun unit isFirst => starts unit isFirst) ?_
      rw [List.cons_append, value]
      rfl

/-! ### The value behind the first separator -/

/-- A text that can be a value: something on one line. -/
def Usable (value : Utf16) : Prop := value ≠ [] ∧ ∀ unit ∈ value, isLineTerminator unit = false

instance (value : Utf16) : Decidable (Usable value) :=
  inferInstanceAs (Decidable (value ≠ [] ∧ ∀ unit ∈ value, isLineTerminator unit = false))

/-- What both readings come to: the first separator with a usable text behind it. -/
def firstValue : Utf16 → Option Utf16
  | [] => none
  | unit :: rest =>
      if isSeparator unit = true ∧ Usable (trim rest) then some (trim rest) else firstValue rest

theorem isSpace_of_isLineTerminator {unit : UInt16} (terminates : isLineTerminator unit = true) :
    isSpace unit = true := by
  simp only [isLineTerminator, Bool.or_eq_true, beq_iff_eq] at terminates
  rcases terminates with ((rfl | rfl) | rfl) | rfl <;> decide

theorem not_isSpace_of_isSeparator {unit : UInt16} (separates : isSeparator unit = true) :
    isSpace unit = false := by
  simp only [isSeparator, Bool.or_eq_true, beq_iff_eq] at separates
  rcases separates with rfl | rfl <;> decide

theorem not_isSeparator_of_isSpace {unit : UInt16} (space : isSpace unit = true) :
    isSeparator unit = false := by
  by_contra separates
  rw [Bool.not_eq_false] at separates
  rw [not_isSpace_of_isSeparator separates] at space
  cases space

theorem firstValue_blank {text : Utf16} (blank : Blank text) : firstValue text = none := by
  induction text with
  | nil => rfl
  | cons unit rest ih =>
      obtain ⟨space, others⟩ := blank_cons.mp blank
      rw [firstValue, if_neg, ih others]
      rw [not_isSeparator_of_isSpace space]
      simp

theorem firstValue_append_blank {trail : Utf16} (blank : Blank trail) (text : Utf16) :
    firstValue (text ++ trail) = firstValue text := by
  induction text with
  | nil => exact firstValue_blank blank
  | cons unit rest ih =>
      rw [List.cons_append, firstValue, firstValue, Utf16.trim_append_blank blank, ih]

theorem matchAt_separatorExpression {index : Nat} {previous : Option UInt16} {unit : UInt16}
    {rest : Utf16} (separates : isSeparator unit = true) :
    separatorExpression.matchAt index previous (unit :: rest) =
      (valueExpression.firstWay ⟨some unit, rest⟩).map fun way =>
        ⟨index, Pattern.between (unit :: rest) way.cursor.ahead, way.groups⟩ := by
  rw [Pattern.matchAt, separatorExpression, Pattern.firstWay_seq, Pattern.findSome?_one_cons,
    if_pos separates, Option.map_map]
  rfl

theorem matchAt_separatorExpression_none {index : Nat} {previous : Option UInt16} {unit : UInt16}
    {rest : Utf16} (other : isSeparator unit = false) :
    separatorExpression.matchAt index previous (unit :: rest) = none := by
  rw [Pattern.matchAt, separatorExpression, Pattern.firstWay_seq, Pattern.findSome?_one_cons,
    if_neg (by rw [other]; exact Bool.false_ne_true)]
  rfl

/-- The group of a match, where it is more than white space. -/
def capture (found : Option (Pattern.Match UInt16)) : Option Utf16 :=
  (found.bind fun matched => matched.group 1).filter fun value => !decide (Blank value)

theorem capture_search (text : Utf16) (index : Nat) (previous : Option UInt16) :
    capture (separatorExpression.search index previous text) = firstValue text := by
  induction text generalizing index previous with
  | nil => rfl
  | cons unit rest ih =>
      rw [Pattern.search, firstValue]
      by_cases separates : isSeparator unit = true
      · rw [matchAt_separatorExpression separates]
        by_cases visible : Blank rest
        · -- White space is all that is left: what matches is white space, and no separator is behind.
          have unusable : ¬ (isSeparator unit = true ∧ Usable (trim rest)) := by
            rintro ⟨-, nonempty, -⟩
            exact nonempty (Utf16.trim_eq_nil_iff.mpr visible)
          rw [if_neg unusable, firstValue_blank visible]
          cases first : valueExpression.firstWay ⟨some unit, rest⟩ with
          | none =>
              have later := ih (index + 1) (some unit)
              rw [firstValue_blank visible] at later
              exact later
          | some way =>
              obtain ⟨lead, value, trail, whole, -, -, -, group⟩ :=
                way_valueExpression (Pattern.mem_of_firstWay first)
              have blank : Blank value := by
                have parts : Blank (lead ++ value ++ trail) := whole ▸ visible
                exact (blank_append.mp (blank_append.mp parts).1).2
              simp [capture, Pattern.Match.group, group, blank]
        · by_cases inLine : ∀ other ∈ trim rest, isLineTerminator other = false
          · obtain ⟨way, first, group⟩ :=
              @firstWay_valueExpression (some unit) _ visible inLine
            have nonempty : trim rest ≠ [] := fun nothing => visible (Utf16.trim_eq_nil_iff.mp nothing)
            have visibleValue : ¬ Blank (trim rest) := by
              intro blank
              apply nonempty
              rw [← Utf16.trim_trim]
              exact Utf16.trim_eq_nil_iff.mpr blank
            rw [if_pos ⟨separates, nonempty, inLine⟩, first]
            simp [capture, Pattern.Match.group, group, visibleValue]
          · have unusable : ¬ (isSeparator unit = true ∧ Usable (trim rest)) :=
              fun usable => inLine usable.2.2
            have noWay : valueExpression.firstWay ⟨some unit, rest⟩ = none := by
              rw [Pattern.firstWay_eq_none_iff, List.eq_nil_iff_forall_not_mem]
              intro way inWays
              obtain ⟨lead, value, trail, whole, before, behind, free, -⟩ := way_valueExpression inWays
              apply inLine
              intro other inside
              apply free
              have isRest : rest = lead ++ value ++ trail := whole
              rw [isRest, Utf16.trim_append_blank behind, Utf16.trim_blank_append before] at inside
              exact Utf16.mem_of_mem_trim inside
            rw [if_neg unusable, noWay]
            exact ih (index + 1) (some unit)
      · rw [matchAt_separatorExpression_none (Bool.eq_false_iff.mpr separates),
          if_neg fun usable => separates usable.1]
        exact ih (index + 1) (some unit)

theorem cutAtLast_none {holds : UInt16 → Bool} {text : Utf16} (uncut : cutAtLast holds text = none) :
    ∀ unit ∈ text, holds unit = false := by
  induction text with
  | nil => simp
  | cons unit rest ih =>
      rw [cutAtLast] at uncut
      cases later : cutAtLast holds rest with
      | some parts =>
          rw [later] at uncut
          cases uncut
      | none =>
          rw [later] at uncut
          by_cases held : holds unit = true
          · simp [held] at uncut
          · intro other inside
            rcases List.mem_cons.mp inside with rfl | deeper
            · exact Bool.eq_false_iff.mpr held
            · exact ih later other deeper

theorem cutAtLast_some {holds : UInt16 → Bool} {text before after : Utf16}
    (cut : cutAtLast holds text = some (before, after)) :
    ∃ unit, text = before ++ unit :: after ∧ holds unit = true ∧
      ∀ other ∈ after, holds other = false := by
  induction text generalizing before with
  | nil => cases cut
  | cons unit rest ih =>
      rw [cutAtLast] at cut
      cases later : cutAtLast holds rest with
      | some parts =>
          obtain ⟨inner, behind⟩ := parts
          rw [later] at cut
          cases cut
          obtain ⟨last, rfl, held, free⟩ := ih later
          exact ⟨last, rfl, held, free⟩
      | none =>
          rw [later] at cut
          by_cases held : holds unit = true
          · simp only [held, if_true] at cut
            cases cut
            exact ⟨unit, rfl, held, cutAtLast_none later⟩
          · simp [held] at cut

/-- What a separator is followed by is its value, where the line ends with no white space. -/
theorem valueFrom_eq {rest : Utf16} (ends : ∀ unit ∈ rest.getLast?, isSpace unit = false) :
    valueFrom rest = if Usable (trim rest) then some (trim rest) else none := by
  have same : trimStart rest = trim rest := by
    rw [Utf16.trim_eq, eq_comm, trimEnd, List.rdropWhile_eq_self_iff]
    intro nonempty
    obtain ⟨lead, whole, -⟩ := Utf16.exists_trimStart rest
    have last : rest.getLast? = some ((trimStart rest).getLast nonempty) := by
      conv_lhs => rw [whole, List.getLast?_append_of_ne_nil _ nonempty]
      exact List.getLast?_eq_some_getLast nonempty
    rw [ends _ last]
    exact Bool.false_ne_true
  have refused : ((trim rest).isEmpty || (trim rest).any isLineTerminator) = true ↔
      ¬ Usable (trim rest) := by
    rw [Bool.or_eq_true, List.isEmpty_iff, List.any_eq_true, Usable, not_and_or, not_not]
    simp only [not_forall, Bool.not_eq_false, exists_prop]
  rw [valueFrom, same]
  by_cases usable : Usable (trim rest)
  · rw [if_pos usable]
    exact if_neg fun isRefused => refused.mp isRefused usable
  · rw [if_neg usable]
    exact if_pos (refused.mpr usable)

theorem getLast?_of_suffix {unit : UInt16} {rest : Utf16}
    (ends : ∀ last ∈ (unit :: rest).getLast?, isSpace last = false) :
    ∀ last ∈ rest.getLast?, isSpace last = false := by
  intro last isLast
  apply ends
  cases rest with
  | nil => cases isLast
  | cons next rest =>
      rw [List.getLast?_cons_cons]
      exact isLast

/-- On one line the first separator decides. -/
theorem firstValue_of_line {text : Utf16} (ends : ∀ unit ∈ text.getLast?, isSpace unit = false)
    (free : ∀ unit ∈ text, isLineTerminator unit = false) :
    (afterFirst isSeparator text).bind valueFrom = firstValue text := by
  induction text with
  | nil => rfl
  | cons unit rest ih =>
      have endsRest := getLast?_of_suffix ends
      rw [afterFirst, firstValue]
      by_cases separates : isSeparator unit = true
      · rw [if_pos separates, Option.bind_some, valueFrom_eq endsRest]
        by_cases usable : Usable (trim rest)
        · rw [if_pos usable, if_pos ⟨separates, usable⟩]
        · have blank : Blank rest := by
            by_contra visible
            apply usable
            refine ⟨fun nothing => visible (Utf16.trim_eq_nil_iff.mp nothing), ?_⟩
            intro other inside
            exact free other (List.mem_cons_of_mem _ (Utf16.mem_of_mem_trim inside))
          rw [if_neg usable, if_neg fun both => usable both.2, firstValue_blank blank]
      · rw [if_neg separates, if_neg fun both => separates both.1]
        exact ih endsRest fun other inside => free other (List.mem_cons_of_mem _ inside)

/-- Before the last line terminator, only the separator with nothing else between is used. -/
theorem firstValue_across {before after : Utf16} {terminator : UInt16}
    (terminates : isLineTerminator terminator = true)
    (free : ∀ unit ∈ after, isLineTerminator unit = false) (visible : ¬ Blank after) :
    firstValue (before ++ terminator :: after) =
      if (trimEnd before).getLast?.any isSeparator then some (trim after) else firstValue after := by
  have space : Blank [terminator] := by
    intro unit inside
    rw [List.mem_singleton.mp inside]
    exact isSpace_of_isLineTerminator terminates
  have usable : Usable (trim after) :=
    ⟨fun nothing => visible (Utf16.trim_eq_nil_iff.mp nothing),
      fun unit inside => free unit (Utf16.mem_of_mem_trim inside)⟩
  induction before with
  | nil =>
      have plain : isSeparator terminator = false :=
        not_isSeparator_of_isSpace (isSpace_of_isLineTerminator terminates)
      rw [List.nil_append, firstValue, plain]
      simp [trimEnd]
  | cons unit rest ih =>
      rw [List.cons_append, firstValue]
      by_cases blank : Blank rest
      · have between : trim (rest ++ terminator :: after) = trim after := by
          rw [show rest ++ terminator :: after = (rest ++ [terminator]) ++ after by simp]
          exact Utf16.trim_blank_append (blank.append space) after
        have kept : trimEnd (unit :: rest) = trimEnd [unit] := by
          rw [← List.singleton_append, Utf16.trimEnd_append_blank blank]
        rw [between, kept]
        by_cases separates : isSeparator unit = true
        · have shown : trimEnd [unit] = [unit] := by
            simp [trimEnd, List.rdropWhile_singleton, not_isSpace_of_isSeparator separates]
          rw [if_pos ⟨separates, usable⟩, shown]
          simp [separates]
        · have other : isSeparator unit = false := Bool.eq_false_iff.mpr separates
          have none : (trimEnd [unit]).getLast?.any isSeparator = false := by
            rw [trimEnd, List.rdropWhile_singleton]
            split <;> simp [other]
          have nothing : trimEnd rest = [] := Utf16.trimEnd_eq_nil_iff.mpr blank
          rw [if_neg fun both => separates both.1, ih, nothing, none]
          rfl
      · have broken : ¬ (isSeparator unit = true ∧ Usable (trim (rest ++ terminator :: after))) := by
          rintro ⟨-, -, unbroken⟩
          have inside : terminator ∈ trim (rest ++ terminator :: after) := by
            have behind : ¬ Blank (terminator :: after) := fun all => visible (blank_cons.mp all).2
            rw [Utf16.trim_eq, Utf16.trimStart_append blank, Utf16.trimEnd_append behind,
              ← List.singleton_append, Utf16.trimEnd_append visible]
            simp
          rw [unbroken terminator inside] at terminates
          cases terminates
        have kept : trimEnd (unit :: rest) = unit :: trimEnd rest := by
          rw [← List.singleton_append, Utf16.trimEnd_append blank]
          rfl
        have nonempty : trimEnd rest ≠ [] := fun nothing => blank (Utf16.trimEnd_eq_nil_iff.mp nothing)
        have last : (unit :: trimEnd rest).getLast? = (trimEnd rest).getLast? := by
          rw [← List.singleton_append, List.getLast?_append_of_ne_nil _ nonempty]
        rw [if_neg broken, ih, kept, last]

/-- The scan finds what the expression captures. -/
theorem valueAfterSeparator_eq (line : Utf16) : valueAfterSeparator line = firstValue line := by
  obtain ⟨trail, whole, blank, ends⟩ := Utf16.exists_trimEnd line
  have trimmed : firstValue line = firstValue (trimEnd line) := by
    conv_lhs => rw [whole]
    exact firstValue_append_blank blank _
  rw [valueAfterSeparator, trimmed]
  cases cut : cutAtLast isLineTerminator (trimEnd line) with
  | none => exact firstValue_of_line ends (cutAtLast_none cut)
  | some parts =>
      obtain ⟨before, after⟩ := parts
      obtain ⟨terminator, split, terminates, free⟩ := cutAtLast_some cut
      have space : isSpace terminator = true := isSpace_of_isLineTerminator terminates
      rw [split] at ends
      have visible : ¬ Blank after := by
        intro all
        have last : isSpace ((before ++ terminator :: after).getLast (by simp)) = true := by
          rw [List.getLast_append_of_ne_nil _ (List.cons_ne_nil terminator after)]
          exact blank_cons.mpr ⟨space, all⟩ _ (List.getLast_mem _)
        rw [ends _ (List.getLast?_eq_some_getLast _)] at last
        cases last
      have endsAfter : ∀ unit ∈ after.getLast?, isSpace unit = false := by
        rw [List.getLast?_append_of_ne_nil _ (List.cons_ne_nil _ _)] at ends
        exact getLast?_of_suffix ends
      simp only
      rw [split, firstValue_across terminates free visible]
      by_cases separated : (trimEnd before).getLast?.any isSeparator = true
      · obtain ⟨gap, isBefore, blankGap, -⟩ := Utf16.exists_trimEnd before
        have behind : (before ++ terminator :: after).drop (trimEnd before).length =
            gap ++ terminator :: after := by
          conv_lhs => rw [isBefore, List.append_assoc]
          have kept : trimEnd (trimEnd before ++ gap) = trimEnd before := by rw [← isBefore]
          rw [kept, List.drop_left]
        have gapEnds : ∀ unit ∈ (gap ++ terminator :: after).getLast?, isSpace unit = false := by
          rw [List.getLast?_append_of_ne_nil _ (List.cons_ne_nil _ _)] at ends ⊢
          exact ends
        have value : trim (gap ++ terminator :: after) = trim after := by
          rw [show gap ++ terminator :: after = (gap ++ [terminator]) ++ after by simp]
          refine Utf16.trim_blank_append (blankGap.append ?_) after
          intro unit inside
          rw [List.mem_singleton.mp inside]
          exact space
        have usable : Usable (trim after) :=
          ⟨fun nothing => visible (Utf16.trim_eq_nil_iff.mp nothing),
            fun unit inside => free unit (Utf16.mem_of_mem_trim inside)⟩
        rw [if_pos separated, if_pos separated, behind, valueFrom_eq gapEnds, value, if_pos usable]
      · rw [if_neg separated, if_neg separated]
        exact firstValue_of_line endsAfter free

end JumptotechLabs.Verifier
