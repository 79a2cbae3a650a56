/-
Module: JumptotechLabs.Verifier.JenkinsHeaders
Layer: Verifier (services/verifier/src/ci/jenkinsfile.ts)
Purpose: The stage headers of a text, told from the text alone: where a word starts one, where its name and
  its brace stand, and where the braces behind it meet. The round of `readStages` finds the first of them,
  and the loop reports each one that stands in no stage reported before it.
Main exports: HeaderStart, HeaderEnd, BracesMeet, Lead, Free, WholeHeader, closingBrace_eq_some_iff,
  stageSpan_eq_some_iff, exists_wholeHeader_of_mem, mem_or_inside
-/
import JumptotechLabs.Verifier.JenkinsMasks
import Mathlib.Data.List.Pairwise

namespace JumptotechLabs.Verifier

open JumptotechLabs.Core
open JumptotechLabs.Core.Utf16 (isSpace isWord)

/-! ### Headers of a text -/

/-- `stage ('` from a place of the text on: the word, a parenthesis and a quote, with only blanks between.
    The name starts behind the quote. -/
def HeaderStart (text : Utf16) (word nameStart : Nat) (quote : UInt16) : Prop :=
  (quote = 39 ∨ quote = 34) ∧
  ∃ gap middle rest, Blank gap ∧ Blank middle ∧
    text.drop word = units "stage" ++ (gap ++ 40 :: (middle ++ quote :: rest)) ∧
    nameStart = word + (units "stage" ++ (gap ++ 40 :: (middle ++ [quote]))).length

/-- The rest of a header: a name on one line up to the quote it started with, a parenthesis, and the brace. -/
def HeaderEnd (text : Utf16) (nameStart : Nat) (quote : UInt16) (nameEnd opening : Nat) : Prop :=
  ∃ name gap middle rest, quote ∉ name ∧ 10 ∉ name ∧ Blank gap ∧ Blank middle ∧
    text.drop nameStart = name ++ quote :: (gap ++ 41 :: (middle ++ 123 :: rest)) ∧
    nameEnd = nameStart + name.length ∧ opening = nameEnd + (quote :: (gap ++ 41 :: middle)).length

/-- From the opening place on, the braces of the mask are even at a closing one, and at none before it. -/
def BracesMeet (masked : Utf16) (opening closing : Nat) : Prop :=
  ∃ inside after, masked.drop opening = inside ++ 125 :: after ∧ closing = opening + inside.length ∧
    nesting inside = 1 ∧ ∀ front back, inside = front ++ 125 :: back → nesting front ≠ 1

/-- A word can start a header at the start of the text, and behind a unit that belongs to no name. -/
def Lead (text : Utf16) (word : Nat) : Prop :=
  ∀ unit ∈ (text.take word).getLast?, isWord unit = false ∧ unit ≠ 46

/-- A word that can start a header and does not stand right behind the quote of a header in front of it. Of
    headers that are written one behind the quote of the other every second one is free: that quote cannot
    be the unit in front of a word too. -/
def Free (text : Utf16) (word : Nat) : Prop :=
  Lead text word ∧
    ∀ earlier, (h : earlier < word) → Free text earlier → ∀ quote, ¬ HeaderStart text earlier word quote
termination_by word

/-- The places of a header: its word, its name, its brace, and where its stage closes. -/
structure HeaderPlaces where
  word : Nat
  nameStart : Nat
  nameEnd : Nat
  opening : Nat
  closing : Nat

/-- A whole header of a text without comments, whose braces are those of the mask. -/
structure WholeHeader (masked uncommented : Utf16) (header : HeaderPlaces) : Prop where
  free : Free uncommented header.word
  written : ∃ quote, HeaderStart uncommented header.word header.nameStart quote ∧
    HeaderEnd uncommented header.nameStart quote header.nameEnd header.opening
  closes : BracesMeet masked header.opening header.closing

/-! ### What the expressions match -/

/-- What a header starts with, from a place where it starts. -/
structure HeaderText (lead gap middle : Utf16) (quote : UInt16) (text rest : Utf16) : Prop where
  whole : text = lead ++ (units "stage" ++ (gap ++ 40 :: (middle ++ quote :: rest)))
  gapBlank : Blank gap
  middleBlank : Blank middle
  isQuote : quote = 39 ∨ quote = 34

/-- What stands in front of the word: nothing at the start of a text, and one unit elsewhere. -/
def LeadText (previous : Option UInt16) (lead : Utf16) : Prop :=
  (previous = none ∧ lead = []) ∨ ∃ unit, lead = [unit] ∧ isWord unit = false ∧ unit ≠ 46

/-- A match of the header, in parts. -/
theorem stageHeader_matchAt {index : Nat} {previous : Option UInt16} {text : Utf16}
    {found : Pattern.Match UInt16} (isMatch : stageHeader.matchAt index previous text = some found) :
    ∃ lead gap middle quote rest, HeaderText lead gap middle quote text rest ∧ LeadText previous lead ∧
      found.index = index ∧ found.text ++ rest = text ∧ found.group 1 = some lead ∧
      found.group 2 = some [quote] := by
  obtain ⟨way, inWays, rfl⟩ := Pattern.matchAt_eq_some isMatch
  obtain ⟨afterLead, inLead, behindLead, inBehindLead, rfl⟩ := Pattern.mem_ways_seq.mp inWays
  obtain ⟨afterWord, inWord, behindWord, inBehindWord, rfl⟩ := Pattern.mem_ways_seq.mp inBehindLead
  obtain ⟨afterGap, inGap, behindGap, inBehindGap, rfl⟩ := Pattern.mem_ways_seq.mp inBehindWord
  obtain ⟨afterParen, inParen, behindParen, inBehindParen, rfl⟩ := Pattern.mem_ways_seq.mp inBehindGap
  obtain ⟨afterMiddle, inMiddle, behindMiddle, inBehindMiddle, rfl⟩ :=
    Pattern.mem_ways_seq.mp inBehindParen
  obtain ⟨afterQuote, inQuote, last, inEmpty, rfl⟩ := Pattern.mem_ways_seq.mp inBehindMiddle
  cases Pattern.mem_ways_empty.mp inEmpty
  obtain ⟨quoted, isQuoted, rfl⟩ := Pattern.mem_ways_group.mp inQuote
  obtain ⟨quote, rest, quoteAhead, isQuote, rfl⟩ := Pattern.mem_ways_one.mp isQuoted
  obtain ⟨noGroups, middle, middleAhead, middleBlank, -⟩ := Pattern.mem_ways_many.mp inMiddle
  obtain ⟨paren, parenRest, parenAhead, isParen, rfl⟩ := Pattern.mem_ways_one.mp inParen
  obtain ⟨noGroups', gap, gapAhead, gapBlank, -⟩ := Pattern.mem_ways_many.mp inGap
  rw [Pattern.ways_literal] at inWord
  split at inWord
  · rename_i starts
    cases List.mem_singleton.mp inWord
    obtain ⟨wordRest, isWordRest⟩ := starts
    obtain ⟨lead, leadAhead, leadGroups, isLead⟩ :
        ∃ lead, text = lead ++ afterLead.cursor.ahead ∧ afterLead.groups = [(1, lead)] ∧
          LeadText previous lead := by
      obtain ⟨inner, inAlt, rfl⟩ := Pattern.mem_ways_group.mp inLead
      rcases Pattern.mem_ways_alt.mp inAlt with atStart | one
      · obtain ⟨isStart, rfl⟩ := Pattern.mem_ways_atStart.mp atStart
        refine ⟨[], rfl, ?_, .inl ⟨isStart, rfl⟩⟩
        simp [Pattern.between]
      · obtain ⟨unit, after, ahead, held, rfl⟩ := Pattern.mem_ways_one.mp one
        refine ⟨[unit], ahead, ?_, .inr ⟨unit, rfl, by simpa using held⟩⟩
        dsimp only at ahead ⊢
        rw [ahead, Pattern.between_cons]
    dsimp only at parenAhead middleAhead quoteAhead gapAhead noGroups noGroups'
    rw [← isWordRest, List.drop_left] at gapAhead
    have isParen : paren = 40 := by simpa using isParen
    have parts : HeaderText lead gap middle quote text rest := by
      refine ⟨?_, gapBlank, middleBlank, by simpa using isQuote⟩
      rw [leadAhead, ← isWordRest, gapAhead, parenAhead, isParen, middleAhead, quoteAhead]
    have whole : text = (lead ++ (units "stage" ++ (gap ++ 40 :: (middle ++ [quote])))) ++ rest := by
      rw [parts.whole]
      simp
    refine ⟨lead, gap, middle, quote, rest, parts, isLead, rfl, ?_, ?_, ?_⟩
    · dsimp only
      rw [whole, Pattern.between_append]
    · simp [Pattern.Match.group, leadGroups]
    · simp [Pattern.Match.group, leadGroups, noGroups, noGroups', quoteAhead, List.lookup_cons]
  · cases inWord

/-- Where the parts of a header stand, its expression matches. -/
theorem exists_stageHeader_matchAt {lead gap middle text rest : Utf16} {quote : UInt16}
    (parts : HeaderText lead gap middle quote text rest) {previous : Option UInt16}
    (isLead : LeadText previous lead) (index : Nat) :
    ∃ found, stageHeader.matchAt index previous text = some found := by
  obtain ⟨whole, gapBlank, middleBlank, isQuote⟩ := parts
  have behind : (Pattern.chain [.literal (units "stage"), .many true isSpace, .one (· == 40),
      .many true isSpace, .group 2 (.one fun unit => unit == 39 || unit == 34)]).Takes
      (units "stage" ++ (gap ++ 40 :: (middle ++ quote :: rest))) rest :=
    (Pattern.takes_literal _ _).seq <| (Pattern.takes_many gapBlank).seq <|
      (Pattern.takes_one (by decide)).seq <| (Pattern.takes_many middleBlank).seq <|
        ((Pattern.takes_one (by simpa using isQuote)).group 2).seq (Pattern.takes_empty rest)
  have inLead : ∃ way ∈ wordStart.ways ⟨previous, text⟩,
      way.cursor.ahead = units "stage" ++ (gap ++ 40 :: (middle ++ quote :: rest)) := by
    rcases isLead with ⟨rfl, rfl⟩ | ⟨unit, rfl, noWord, noDot⟩
    · refine ⟨_, Pattern.mem_ways_group.mpr ⟨_, Pattern.mem_ways_alt.mpr
        (.inl (Pattern.mem_ways_atStart.mpr ⟨rfl, rfl⟩)), rfl⟩, ?_⟩
      exact whole
    · refine ⟨_, Pattern.mem_ways_group.mpr ⟨_, Pattern.mem_ways_alt.mpr
        (.inr (Pattern.mem_ways_one.mpr ⟨unit, _, whole, ?_, rfl⟩)), rfl⟩, rfl⟩
      simp [noWord, noDot]
  obtain ⟨way, inWays, ahead⟩ := inLead
  obtain ⟨last, inLast, -⟩ := behind way.cursor.previous
  rw [← ahead] at inLast
  exact Pattern.exists_matchAt (Pattern.mem_ways_seq.mpr ⟨way, inWays, last, inLast, rfl⟩)

/-- What `afterName` matches. -/
theorem afterName_matchAt {index : Nat} {previous : Option UInt16} {text : Utf16}
    {found : Pattern.Match UInt16} (isMatch : afterName.matchAt index previous text = some found) :
    ∃ gap middle rest, text = gap ++ 41 :: (middle ++ 123 :: rest) ∧ Blank gap ∧ Blank middle ∧
      found.text = gap ++ 41 :: (middle ++ [123]) := by
  obtain ⟨way, inWays, rfl⟩ := Pattern.matchAt_eq_some isMatch
  obtain ⟨afterGap, inGap, behindGap, inBehindGap, rfl⟩ := Pattern.mem_ways_seq.mp inWays
  obtain ⟨afterParen, inParen, behindParen, inBehindParen, rfl⟩ := Pattern.mem_ways_seq.mp inBehindGap
  obtain ⟨afterMiddle, inMiddle, behindMiddle, inBehindMiddle, rfl⟩ :=
    Pattern.mem_ways_seq.mp inBehindParen
  obtain ⟨afterBrace, inBrace, last, inEmpty, rfl⟩ := Pattern.mem_ways_seq.mp inBehindMiddle
  cases Pattern.mem_ways_empty.mp inEmpty
  obtain ⟨brace, rest, braceAhead, isBrace, rfl⟩ := Pattern.mem_ways_one.mp inBrace
  obtain ⟨-, middle, middleAhead, middleBlank, -⟩ := Pattern.mem_ways_many.mp inMiddle
  obtain ⟨paren, parenRest, parenAhead, isParen, rfl⟩ := Pattern.mem_ways_one.mp inParen
  obtain ⟨-, gap, gapAhead, gapBlank, -⟩ := Pattern.mem_ways_many.mp inGap
  dsimp only at parenAhead middleAhead braceAhead gapAhead
  have isParen : paren = 41 := by simpa using isParen
  have isBrace : brace = 123 := by simpa using isBrace
  have whole : text = (gap ++ 41 :: (middle ++ [123])) ++ rest := by
    rw [gapAhead, parenAhead, middleAhead, braceAhead, isParen, isBrace]
    simp
  refine ⟨gap, middle, rest, by rw [whole]; simp, gapBlank, middleBlank, ?_⟩
  dsimp only
  rw [whole, Pattern.between_append]

/-- Blanks in front of a visible unit are told from the text. -/
theorem blank_append_inj {gap gap' rest rest' : Utf16} {unit unit' : UInt16} (visible : isSpace unit = false)
    (visible' : isSpace unit' = false) (gapBlank : Blank gap) (gapBlank' : Blank gap')
    (same : gap ++ unit :: rest = gap' ++ unit' :: rest') : gap = gap' ∧ unit = unit' ∧ rest = rest' := by
  have noBlank : ∀ {other : UInt16} {run : Utf16}, isSpace other = false → Blank (other :: run) → False := by
    intro other run shown blank
    rw [blank other List.mem_cons_self] at shown
    cases shown
  induction gap generalizing gap' with
  | nil =>
      cases gap' with
      | nil =>
          obtain ⟨rfl, rfl⟩ := List.cons.inj same
          exact ⟨rfl, rfl, rfl⟩
      | cons first gap' =>
          obtain ⟨rfl, -⟩ := List.cons.inj same
          exact (noBlank visible gapBlank').elim
  | cons first gap ih =>
      cases gap' with
      | nil =>
          obtain ⟨rfl, -⟩ := List.cons.inj same
          exact (noBlank visible' gapBlank).elim
      | cons first' gap' =>
          obtain ⟨rfl, behind⟩ := List.cons.inj same
          obtain ⟨rfl, rest⟩ := ih (fun unit member => gapBlank unit (List.mem_cons_of_mem _ member))
            (fun unit member => gapBlank' unit (List.mem_cons_of_mem _ member)) behind
          exact ⟨rfl, rest⟩

/-- Where the parts behind a name stand, `afterName` matches just them. -/
theorem exists_afterName_matchAt {gap middle rest : Utf16} (gapBlank : Blank gap)
    (middleBlank : Blank middle) (index : Nat) (previous : Option UInt16) :
    ∃ found, afterName.matchAt index previous (gap ++ 41 :: (middle ++ 123 :: rest)) = some found ∧
      found.text = gap ++ 41 :: (middle ++ [123]) := by
  have taken : afterName.Takes (gap ++ 41 :: (middle ++ 123 :: rest)) rest :=
    (Pattern.takes_many gapBlank).seq <| (Pattern.takes_one (by decide)).seq <|
      (Pattern.takes_many middleBlank).seq <| (Pattern.takes_one (by decide)).seq (Pattern.takes_empty rest)
  obtain ⟨way, inWays, -⟩ := taken previous
  obtain ⟨found, isMatch⟩ := @Pattern.exists_matchAt _ _ index _ _ _ inWays
  obtain ⟨gap', middle', rest', same, gapBlank', middleBlank', isText⟩ := afterName_matchAt isMatch
  obtain ⟨rfl, -, behind⟩ := blank_append_inj (by decide) (by decide) gapBlank gapBlank' same
  obtain ⟨rfl, -⟩ := blank_append_inj (by decide) (by decide) middleBlank middleBlank' behind
  exact ⟨found, isMatch, isText⟩

/-! ### The places of a header -/

theorem plain_of_isSpace {unit : UInt16} (space : isSpace unit = true) :
    unit ≠ 115 ∧ unit ≠ 125 ∧ unit ≠ 39 ∧ unit ≠ 34 := by
  refine ⟨?_, ?_, ?_, ?_⟩ <;> rintro rfl <;> revert space <;> decide

theorem visible_of_quote {quote : UInt16} (isQuote : quote = 39 ∨ quote = 34) :
    isSpace quote = false ∧ quote ≠ 115 ∧ quote ≠ 125 := by
  rcases isQuote with rfl | rfl <;> decide

section Start

variable {text : Utf16} {word nameStart : Nat} {quote : UInt16} (starts : HeaderStart text word nameStart quote)

include starts

/-- What starts at a word is told from the text. -/
theorem HeaderStart.unique {nameStart' : Nat} {quote' : UInt16}
    (starts' : HeaderStart text word nameStart' quote') : nameStart = nameStart' ∧ quote = quote' := by
  obtain ⟨isQuote, gap, middle, rest, gapBlank, middleBlank, written, rfl⟩ := starts
  obtain ⟨isQuote', gap', middle', rest', gapBlank', middleBlank', written', rfl⟩ := starts'
  rw [written, List.append_cancel_left_eq] at written'
  obtain ⟨rfl, -, behind⟩ := blank_append_inj (by decide) (by decide) gapBlank gapBlank' written'
  obtain ⟨rfl, rfl, -⟩ := blank_append_inj (visible_of_quote isQuote).1 (visible_of_quote isQuote').1
    middleBlank middleBlank' behind
  exact ⟨by simp, rfl⟩

theorem HeaderStart.bounds : word + 6 < nameStart ∧ nameStart ≤ text.length := by
  obtain ⟨-, gap, middle, rest, -, -, written, rfl⟩ := starts
  have lengths := congrArg List.length written
  have five : (units "stage").length = 5 := rfl
  simp only [List.length_drop, List.length_append, List.length_cons, List.length_nil, five] at lengths ⊢
  omega

theorem HeaderStart.at_word : text[word]? = some 115 := by
  obtain ⟨-, gap, middle, rest, -, -, written, -⟩ := starts
  rw [← Nat.add_zero word, ← List.getElem?_drop, written]
  rfl

/-- Behind the first letter of the word there is no `s`, no closing brace, and no quote but the last unit. -/
theorem HeaderStart.unit_at {place : Nat} (behind : word < place) (ahead : place < nameStart) :
    ∃ unit, text[place]? = some unit ∧ unit ≠ 115 ∧ unit ≠ 125 ∧
      (place + 1 < nameStart → unit ≠ 39 ∧ unit ≠ 34) ∧ (place + 1 = nameStart → unit = quote) := by
  obtain ⟨isQuote, gap, middle, rest, gapBlank, middleBlank, written, rfl⟩ := starts
  have split : text.drop (word + 1) = (units "tage" ++ (gap ++ 40 :: middle)) ++ quote :: rest := by
    rw [← List.drop_drop, written, show units "stage" = 115 :: units "tage" from rfl]
    simp
  have plain : ∀ unit ∈ units "tage" ++ (gap ++ 40 :: middle),
      unit ≠ 115 ∧ unit ≠ 125 ∧ unit ≠ 39 ∧ unit ≠ 34 := by
    have letters : ∀ unit ∈ units "tage" ++ [40], unit ≠ 115 ∧ unit ≠ 125 ∧ unit ≠ 39 ∧ unit ≠ 34 :=
      List.forall_iff_forall_mem.mp (by decide)
    intro unit member
    simp only [List.mem_append, List.mem_cons] at member
    rcases member with inWord | inGap | rfl | inMiddle
    · exact letters unit (List.mem_append_left _ inWord)
    · exact plain_of_isSpace (gapBlank unit inGap)
    · decide
    · exact plain_of_isSpace (middleBlank unit inMiddle)
  have five : (units "stage").length = 5 ∧ (units "tage").length = 4 := ⟨rfl, rfl⟩
  have isPlace : text[place]? = (text.drop (word + 1))[place - (word + 1)]? := by
    rw [List.getElem?_drop]
    congr 1
    omega
  simp only [List.length_append, List.length_cons, List.length_nil, five.1] at ahead ⊢
  by_cases last : place - (word + 1) < (units "tage" ++ (gap ++ 40 :: middle)).length
  · obtain ⟨noS, noBrace, noQuote⟩ := plain _ (List.getElem_mem last)
    refine ⟨_, ?_, noS, noBrace, fun _ => noQuote, fun isLast => ?_⟩
    · rw [isPlace, split, List.getElem?_append_left last, List.getElem?_eq_getElem last]
    · simp only [List.length_append, List.length_cons, five.2] at last
      omega
  · have isLast : place - (word + 1) = (units "tage" ++ (gap ++ 40 :: middle)).length := by
      simp only [List.length_append, List.length_cons, five.2] at last ⊢
      omega
    refine ⟨quote, ?_, (visible_of_quote isQuote).2.1, (visible_of_quote isQuote).2.2, fun further => ?_,
      fun _ => rfl⟩
    · rw [isPlace, split, isLast, List.getElem?_append_right (Nat.le_refl _), Nat.sub_self]
      rfl
    · simp only [List.length_append, List.length_cons, five.2] at isLast
      omega

/-- No other header starts in the front of one, except right behind its quote. -/
theorem HeaderStart.apart {other nameStart' : Nat} {quote' : UInt16}
    (starts' : HeaderStart text other nameStart' quote') (behind : word < other) : nameStart ≤ other := by
  by_contra within
  obtain ⟨unit, isUnit, noS, -⟩ := starts.unit_at behind (Nat.not_le.mp within)
  rw [starts'.at_word] at isUnit
  exact noS (Option.some.inj isUnit).symm

end Start

/-! ### The header that is found -/

/-- A word ahead of a place: the unit in front of it is not passed yet. -/
def Ahead (place word : Nat) : Prop := place < word ∨ (place = 0 ∧ word = 0)

/-- Where the match of a header starts that has its word at a place. -/
def MatchStart (index word : Nat) : Prop := word = index + 1 ∨ (index = 0 ∧ word = 0)

theorem getLast?_take_succ {text rest : Utf16} {place : Nat} {unit : UInt16}
    (ahead : text.drop place = unit :: rest) : (text.take (place + 1)).getLast? = some unit := by
  have inside : place < text.length := by
    by_contra outside
    rw [List.drop_eq_nil_iff.mpr (Nat.not_lt.mp outside)] at ahead
    cases ahead
  rw [List.drop_eq_getElem_cons inside] at ahead
  rw [← List.take_append_getElem inside, List.getLast?_concat, (List.cons.inj ahead).1]

/-- A match at a place of the text is one of a header with its word there, or right behind. -/
theorem headerStart_of_matchAt {text : Utf16} {index : Nat} {found : Pattern.Match UInt16}
    (isMatch : stageHeader.matchAt index (text.take index).getLast? (text.drop index) = some found) :
    ∃ word nameStart quote, HeaderStart text word nameStart quote ∧ Lead text word ∧ MatchStart index word ∧
      found.index = index ∧ found.index + found.text.length = nameStart ∧
      found.index + ((found.group 1).getD []).length = word ∧ found.group 2 = some [quote] := by
  obtain ⟨lead, gap, middle, quote, rest, parts, isLead, rfl, same, one, two⟩ := stageHeader_matchAt isMatch
  have isText : found.text = lead ++ (units "stage" ++ (gap ++ 40 :: (middle ++ [quote]))) := by
    apply @List.append_cancel_right _ _ rest
    rw [same, parts.whole]
    simp
  have starts : HeaderStart text (found.index + lead.length) (found.index + found.text.length) quote := by
    refine ⟨parts.isQuote, gap, middle, rest, parts.gapBlank, parts.middleBlank, ?_, ?_⟩
    · rw [← List.drop_drop, parts.whole, List.drop_left]
    · rw [isText, List.length_append]
      omega
  refine ⟨_, _, quote, starts, ?_, ?_, rfl, rfl, by rw [one]; rfl, two⟩
  · rcases isLead with ⟨atStart, rfl⟩ | ⟨unit, rfl, noWord, noDot⟩
    · intro unit isLast
      rw [List.length_nil, Nat.add_zero, atStart] at isLast
      cases isLast
    · intro other isLast
      rw [List.length_singleton, getLast?_take_succ parts.whole] at isLast
      cases isLast
      exact ⟨noWord, noDot⟩
  · rcases isLead with ⟨atStart, rfl⟩ | ⟨unit, rfl, -⟩
    · rw [List.getLast?_eq_none_iff, List.take_eq_nil_iff] at atStart
      rcases atStart with atStart | empty
      · exact .inr ⟨atStart, by rw [atStart]; rfl⟩
      · have whole := parts.whole
        rw [empty] at whole
        simp at whole
    · exact .inl rfl

/-- A header of the text is matched. -/
theorem exists_matchAt_of_headerStart {text : Utf16} {word nameStart index : Nat} {quote : UInt16}
    (starts : HeaderStart text word nameStart quote) (lead : Lead text word) (isStart : MatchStart index word) :
    ∃ found, stageHeader.matchAt index (text.take index).getLast? (text.drop index) = some found := by
  have bounds := starts.bounds
  obtain ⟨isQuote, gap, middle, rest, gapBlank, middleBlank, written, -⟩ := starts
  rcases isStart with rfl | ⟨rfl, rfl⟩
  · have ahead : text.drop index = [text[index]] ++ text.drop (index + 1) :=
      List.drop_eq_getElem_cons (by omega)
    rw [written] at ahead
    exact exists_stageHeader_matchAt ⟨ahead, gapBlank, middleBlank, isQuote⟩
      (.inr ⟨_, rfl, lead _ (getLast?_take_succ ahead)⟩) index
  · exact exists_stageHeader_matchAt ⟨written, gapBlank, middleBlank, isQuote⟩ (.inl ⟨rfl, rfl⟩) 0

/-- The search from a place of a text tries the places from there on. -/
theorem passed_getLast? {text before after : Utf16} {place : Nat}
    (whole : text.drop place = before ++ after) :
    Pattern.passed (text.take place).getLast? before = (text.take (place + before.length)).getLast? ∧
      after = text.drop (place + before.length) := by
  constructor
  · rw [List.take_add, whole, List.take_left, List.getLast?_append]
    rfl
  · rw [← List.drop_drop, whole, List.drop_left]

theorem exists_drop_split {text : Utf16} {place index : Nat} (within : place ≤ index)
    (inside : index ≤ text.length) :
    ∃ before, text.drop place = before ++ text.drop index ∧ place + before.length = index := by
  refine ⟨(text.drop place).take (index - place), ?_, ?_⟩
  · conv_lhs => rw [← List.take_append_drop (index - place) (text.drop place)]
    rw [List.drop_drop, Nat.add_sub_cancel' within]
  · rw [List.length_take, List.length_drop]
    omega

/-- What `nextHeader` finds: the first header ahead of the place. -/
theorem nextHeader_spec {text : Utf16} {place : Nat} {found : Pattern.Match UInt16}
    (isFound : nextHeader text place = some found) :
    ∃ word nameStart quote, HeaderStart text word nameStart quote ∧ Lead text word ∧ Ahead place word ∧
      found.index + found.text.length = nameStart ∧
      found.index + ((found.group 1).getD []).length = word ∧ found.group 2 = some [quote] ∧
      ∀ other nameStart' quote', Ahead place other → Lead text other →
        HeaderStart text other nameStart' quote' → word ≤ other := by
  obtain ⟨before, after, whole, isIndex, isMatch⟩ := Pattern.search_eq_some isFound
  obtain ⟨isPassed, rfl⟩ := passed_getLast? whole
  rw [isPassed, ← isIndex] at isMatch
  obtain ⟨word, nameStart, quote, starts, lead, isStart, -, isName, isWord, two⟩ :=
    headerStart_of_matchAt isMatch
  refine ⟨word, nameStart, quote, starts, lead, ?_, isName, isWord, two, ?_⟩
  · rcases isStart with rfl | ⟨atStart, rfl⟩
    · exact .inl (by omega)
    · exact .inr ⟨by omega, rfl⟩
  · intro other nameStart' quote' ahead lead' starts'
    by_contra less
    -- A header in front would have been matched in front.
    have earlier : ∀ index, place ≤ index → MatchStart index other → found.index ≤ index := by
      intro index within isStart'
      by_contra further
      obtain ⟨other', isOther⟩ := exists_matchAt_of_headerStart starts' lead' isStart'
      have bounds := starts'.bounds
      obtain ⟨passed, split, long⟩ := @exists_drop_split text place index within
        (by rcases isStart' with rfl | ⟨rfl, -⟩ <;> omega)
      have none := Pattern.matchAt_of_search_ahead isFound split (by omega)
      rw [(passed_getLast? split).1, long, isOther] at none
      cases none
    rcases ahead with beyond | ⟨atStart, rfl⟩
    · have least := earlier (other - 1) (by omega) (.inl (by omega))
      rcases isStart with rfl | ⟨-, rfl⟩
      · omega
      · omega
    · have least := earlier 0 (by omega) (.inr ⟨rfl, rfl⟩)
      rcases isStart with rfl | ⟨-, rfl⟩
      · -- The text starts with the word, so what stands there belongs to a name.
        have first : text.drop 0 = 115 :: text.drop 1 := by
          have bounds := starts'.bounds
          rw [List.drop_eq_getElem_cons (by omega),
            (List.getElem?_eq_some_iff.mp starts'.at_word).2]
        have isFirst : found.index = 0 := Nat.le_zero.mp least
        have noWord := (lead 115 (by rw [isFirst]; exact getLast?_take_succ first)).1
        revert noWord
        decide
      · omega

/-- Where `nextHeader` finds nothing, no header is ahead. -/
theorem nextHeader_none {text : Utf16} {place : Nat}
    (missing : nextHeader text place = none) {word nameStart : Nat} {quote : UInt16}
    (ahead : Ahead place word) (lead : Lead text word) : ¬ HeaderStart text word nameStart quote := by
  intro starts
  have bounds := starts.bounds
  obtain ⟨index, within, isStart⟩ : ∃ index, place ≤ index ∧ MatchStart index word := by
    rcases ahead with beyond | ⟨rfl, rfl⟩
    · exact ⟨word - 1, by omega, .inl (by omega)⟩
    · exact ⟨0, Nat.le_refl _, .inr ⟨rfl, rfl⟩⟩
  have least : index ≤ word := by
    rcases isStart with rfl | ⟨rfl, rfl⟩ <;> omega
  obtain ⟨found, isFound⟩ := exists_matchAt_of_headerStart starts lead isStart
  obtain ⟨passed, split, long⟩ := @exists_drop_split text place index within (by omega)
  have none := Pattern.matchAt_of_search_none missing split
  rw [(passed_getLast? split).1, long, isFound] at none
  cases none

/-! ### Where braces meet -/

/-- Counted from a depth on, the braces of a text are even at the closing place, and at no closing brace before. -/
def MeetsFrom (depth : Int) (index : Nat) (text : Utf16) (closing : Nat) : Prop :=
  ∃ inside after, text = inside ++ 125 :: after ∧ closing = index + inside.length ∧
    depth + nesting inside = 1 ∧ ∀ front back, inside = front ++ 125 :: back → depth + nesting front ≠ 1

/-- A unit that does not end the walk is counted, and the walk goes on behind it. -/
theorem meetsFrom_cons {depth : Int} {index closing : Nat} {unit : UInt16} {rest : Utf16}
    (goesOn : unit = 125 → depth ≠ 1) :
    MeetsFrom (depth + nesting [unit]) (index + 1) rest closing ↔ MeetsFrom depth index (unit :: rest) closing := by
  have nothing : nesting [] = 0 := rfl
  constructor
  · rintro ⟨inside, after, rfl, rfl, level, first⟩
    refine ⟨unit :: inside, after, rfl, ?_, ?_, ?_⟩
    · rw [List.length_cons]
      omega
    · rw [← List.singleton_append, nesting_append]
      omega
    · intro front back split
      cases front with
      | nil =>
          obtain ⟨rfl, -⟩ := List.cons.inj split
          have other := goesOn rfl
          omega
      | cons unit' front =>
          obtain ⟨rfl, rfl⟩ := List.cons.inj split
          have later := first front back rfl
          rw [← List.singleton_append, nesting_append]
          omega
  · rintro ⟨inside, after, whole, rfl, level, first⟩
    cases inside with
    | nil =>
        obtain ⟨rfl, -⟩ := List.cons.inj whole
        have other := goesOn rfl
        omega
    | cons unit' inside =>
        obtain ⟨rfl, rfl⟩ := List.cons.inj whole
        rw [← List.singleton_append, nesting_append] at level
        refine ⟨inside, after, rfl, ?_, by omega, ?_⟩
        · rw [List.length_cons]
          omega
        · rintro front back rfl
          have later := first (unit :: front) back rfl
          rw [← List.singleton_append, nesting_append] at later
          omega

/-- At depth one the walk ends at a closing brace. -/
theorem meetsFrom_closing {index closing : Nat} {rest : Utf16} :
    index = closing ↔ MeetsFrom 1 index (125 :: rest) closing := by
  constructor
  · rintro rfl
    refine ⟨[], rest, rfl, rfl, rfl, ?_⟩
    intro front back split
    simp at split
  · rintro ⟨inside, after, whole, rfl, level, first⟩
    cases inside with
    | nil => rfl
    | cons unit inside =>
        obtain ⟨rfl, -⟩ := List.cons.inj whole
        exact absurd rfl (first [] inside rfl)

/-- A brace walk from a depth on stops at the first closing brace at which the depth is one in front. -/
theorem closingBrace_eq_some_iff {depth : Int} {index closing : Nat} {text : Utf16} :
    closingBrace depth index text = some closing ↔ MeetsFrom depth index text closing := by
  induction text generalizing depth index with
  | nil => simp [closingBrace, MeetsFrom]
  | cons unit rest ih =>
      rw [closingBrace]
      split
      case isTrue opens =>
        subst opens
        exact (@ih (depth + nesting [123]) (index + 1)).trans (meetsFrom_cons (by rintro ⟨⟩))
      case isFalse noOpening =>
        split
        case isTrue isClosing =>
          subst isClosing
          split
          case isTrue ends =>
            obtain rfl : depth = 1 := by omega
            rw [Option.some.injEq, meetsFrom_closing]
          case isFalse goesOn =>
            exact (@ih (depth + nesting [125]) (index + 1)).trans (meetsFrom_cons fun _ same => goesOn (by omega))
        case isFalse noClosing =>
          have level : depth + nesting [unit] = depth := by
            rw [nesting_singleton ⟨noOpening, noClosing⟩, Int.add_zero]
          rw [ih, ← meetsFrom_cons fun isClosing => absurd isClosing noClosing, level]

/-- The walk of the source from an opening place on finds where the braces meet. -/
theorem bracesMeet_iff {masked : Utf16} {opening closing : Nat} :
    closingBrace 0 opening (masked.drop opening) = some closing ↔ BracesMeet masked opening closing := by
  rw [closingBrace_eq_some_iff, MeetsFrom, BracesMeet]
  simp only [Int.zero_add]

/-! ### The round for a header -/

theorem indexOf_unit {text name rest : Utf16} {quote : UInt16} {position : Nat}
    (ahead : text.drop position = name ++ quote :: rest) (free : quote ∉ name) :
    indexOf text [quote] position = some (position + name.length) := by
  have inside : position ≤ text.length := by
    by_contra outside
    rw [List.drop_eq_nil_iff.mpr (Nat.not_le.mp outside).le] at ahead
    simp at ahead
  cases isFound : indexOf text [quote] position with
  | none =>
      refine absurd ?_ (indexOf_none isFound (position + name.length) (Nat.le_add_right _ _))
      rw [← List.drop_drop, ahead, List.drop_left]
      exact List.prefix_append [quote] rest
  | some found =>
      obtain ⟨beyond, -, isStop, isFirst⟩ := indexOf_some isFound inside
      have cut := (NextStop.mk beyond isStop isFirst).cut
      rw [Utf16.cutAt_eq_some_iff.mpr ⟨ahead, free⟩] at cut
      obtain ⟨rfl, -⟩ := Prod.mk.inj (Option.some.inj cut)
      rw [length_slice (NextStop.mk beyond isStop isFirst).inside.le]
      congr 1
      omega

/-- The round of the source for a header that was found makes a stage exactly where the header ends on one
    line and the braces behind it meet. -/
theorem stageSpan_eq_some_iff {maskedStages stagesBody text : Utf16} {found : Pattern.Match UInt16}
    {word nameStart : Nat} {quote : UInt16} (starts : HeaderStart text word nameStart quote)
    (isName : found.index + found.text.length = nameStart)
    (isWord : found.index + ((found.group 1).getD []).length = word) (isQuote : found.group 2 = some [quote])
    {span : StageSpan} :
    stageSpan maskedStages stagesBody text found = some span ↔
      ∃ nameEnd, HeaderEnd text nameStart quote nameEnd span.opening ∧
        BracesMeet maskedStages span.opening span.closing ∧ span.keyword = word ∧
        span.name = slice stagesBody nameStart nameEnd := by
  have startInside := starts.bounds.2
  rw [stageSpan, isQuote, isName, isWord]
  dsimp only [Option.getD_some]
  constructor
  · intro isSpan
    split at isSpan
    · cases isSpan
    rename_i quoteAt isQuoteAt
    obtain ⟨aheadQuote, -, isStop, isFirst⟩ := indexOf_some isQuoteAt startInside
    have next : NextStop text quote nameStart quoteAt := ⟨aheadQuote, isStop, isFirst⟩
    obtain ⟨named, free⟩ := Utf16.cutAt_eq_some_iff.mp next.cut
    split at isSpan
    · cases isSpan
    rename_i oneLine
    split at isSpan
    · cases isSpan
    rename_i behind isBehind
    obtain ⟨gap, middle, rest, after, gapBlank, middleBlank, behindText⟩ := afterName_matchAt isBehind
    split at isSpan
    · cases isSpan
    rename_i closing isClosing
    cases isSpan
    refine ⟨quoteAt, ⟨slice text nameStart quoteAt, gap, middle, rest, free, oneLine, gapBlank, middleBlank, ?_,
      ?_, ?_⟩, bracesMeet_iff.mp isClosing, rfl, rfl⟩
    · rw [named, after]
    · rw [length_slice next.inside.le]
      omega
    · rw [behindText]
      simp only [List.length_append, List.length_cons, List.length_nil]
      omega
  · rintro ⟨nameEnd, ⟨name, gap, middle, rest, free, oneLine, gapBlank, middleBlank, written, rfl, isOpening⟩,
      closes, isKeyword, isSpanName⟩
    obtain ⟨keyword, spanName, opening, closing⟩ := span
    dsimp only at isOpening closes isKeyword isSpanName
    subst isKeyword isSpanName
    have isSlice : slice text nameStart (nameStart + name.length) = name := by
      rw [slice, List.take_add, written, List.take_left, List.drop_append_of_le_length (by simp [startInside]),
        List.drop_eq_nil_of_le (by simp [startInside]), List.nil_append]
    have behind : text.drop (nameStart + name.length + 1) = gap ++ 41 :: (middle ++ 123 :: rest) := by
      rw [Nat.add_assoc, ← List.drop_drop, written, ← List.drop_drop, List.drop_left]
      rfl
    obtain ⟨after, isMatch, isText⟩ := @exists_afterName_matchAt gap middle rest gapBlank middleBlank
      (nameStart + name.length + 1) (text.drop (nameStart + name.length)).head?
    rw [← behind] at isMatch
    rw [indexOf_unit written free]
    dsimp only
    rw [isSlice, if_neg oneLine, isMatch]
    dsimp only
    have same : nameStart + name.length + 1 + after.text.length - 1 = opening := by
      rw [isText, isOpening]
      simp only [List.length_append, List.length_cons, List.length_nil]
      omega
    rw [same, bracesMeet_iff.mpr closes]

/-! ### The loop over the headers -/

theorem BracesMeet.bounds {masked : Utf16} {opening closing : Nat} (meets : BracesMeet masked opening closing) :
    opening < closing ∧ closing < masked.length ∧ masked[closing]? = some 125 := by
  obtain ⟨inside, after, whole, rfl, level, -⟩ := meets
  have nonempty : inside ≠ [] := by
    rintro rfl
    simp [nesting] at level
  have long := List.length_pos_of_ne_nil nonempty
  have lengths := congrArg List.length whole
  rw [List.length_drop, List.length_append, List.length_cons] at lengths
  refine ⟨by omega, by omega, ?_⟩
  rw [← List.getElem?_drop, whole, List.getElem?_append_right (Nat.le_refl _), Nat.sub_self]
  rfl

theorem HeaderEnd.bounds {text : Utf16} {nameStart nameEnd opening : Nat} {quote : UInt16}
    (ends : HeaderEnd text nameStart quote nameEnd opening) : nameStart ≤ nameEnd ∧ nameEnd < opening := by
  obtain ⟨name, gap, middle, rest, -, -, -, -, -, rfl, rfl⟩ := ends
  simp only [List.length_cons, List.length_append]
  omega

/-- Behind the name of a header there is neither an `s` nor a closing brace, up to and with its brace. -/
theorem HeaderEnd.unit_at {text : Utf16} {nameStart nameEnd opening : Nat} {quote : UInt16}
    (ends : HeaderEnd text nameStart quote nameEnd opening) {place : Nat} (behind : nameEnd < place)
    (ahead : place ≤ opening) : ∃ unit, text[place]? = some unit ∧ unit ≠ 115 ∧ unit ≠ 125 := by
  obtain ⟨name, gap, middle, rest, -, -, gapBlank, middleBlank, written, rfl, rfl⟩ := ends
  have split : text.drop (nameStart + name.length + 1) = (gap ++ 41 :: (middle ++ [123])) ++ rest := by
    rw [Nat.add_assoc, ← List.drop_drop, written, ← List.drop_drop, List.drop_left]
    simp
  have blank : ∀ unit, isSpace unit = true → unit ≠ 115 ∧ unit ≠ 125 := fun unit space =>
    ⟨(plain_of_isSpace space).1, (plain_of_isSpace space).2.1⟩
  have plain : ∀ unit ∈ gap ++ 41 :: (middle ++ [123]), unit ≠ 115 ∧ unit ≠ 125 := by
    intro unit member
    simp only [List.mem_append, List.mem_cons, List.not_mem_nil, or_false] at member
    rcases member with inGap | rfl | inMiddle | rfl
    · exact blank unit (gapBlank unit inGap)
    · decide
    · exact blank unit (middleBlank unit inMiddle)
    · decide
  have within : place - (nameStart + name.length + 1) < (gap ++ 41 :: (middle ++ [123])).length := by
    simp only [List.length_append, List.length_cons, List.length_nil] at ahead ⊢
    omega
  refine ⟨_, ?_, plain _ (List.getElem_mem within)⟩
  rw [← List.getElem?_eq_getElem, ← List.getElem?_append_left within, ← split, List.getElem?_drop]
  congr 1
  omega

theorem WholeHeader.bounds {masked uncommented : Utf16} {header : HeaderPlaces}
    (whole : WholeHeader masked uncommented header) :
    header.word < header.nameStart ∧ header.nameStart ≤ header.nameEnd ∧ header.nameEnd < header.opening ∧
      header.opening < header.closing ∧ header.closing < masked.length := by
  obtain ⟨quote, starts, ends⟩ := whole.written
  have first := starts.bounds
  have second := ends.bounds
  have third := whole.closes.bounds
  omega

/-- Where the loop goes on: at the start, behind the quote of a free header, and at a closing brace. -/
def GoesOn (uncommented : Utf16) (place : Nat) : Prop :=
  place = 0 ∨ (∃ word quote, Free uncommented word ∧ HeaderStart uncommented word place quote) ∨
    uncommented[place]? = some 125

/-- The first header ahead of a place where the loop goes on is a free one. -/
theorem free_of_first {text : Utf16} {place word : Nat} (goesOn : GoesOn text place) (lead : Lead text word)
    (ahead : Ahead place word)
    (first : ∀ other nameStart' quote', Ahead place other → Lead text other →
      HeaderStart text other nameStart' quote' → word ≤ other) : Free text word := by
  rw [Free]
  refine ⟨lead, ?_⟩
  intro earlier less free quote' starts'
  have free' := free
  rw [Free] at free'
  obtain ⟨lead', noneBefore⟩ := free'
  -- The header in front is not ahead, so the place stands in it.
  have behind : ¬ Ahead place earlier := fun isAhead =>
    absurd (first earlier word quote' isAhead lead' starts') (Nat.not_le.mpr less)
  have place_bounds : earlier ≤ place ∧ place < word ∧ place ≠ 0 := by
    unfold Ahead at behind ahead
    omega
  rcases goesOn with atStart | ⟨other, quote'', freeOther, startsOther⟩ | closes
  · exact place_bounds.2.2 atStart
  · have before := startsOther.bounds
    obtain ⟨last, isLast, -, -, -, isQuote⟩ := @HeaderStart.unit_at _ _ _ _ startsOther (place - 1)
      (by omega) (by omega)
    obtain rfl := isQuote (by omega)
    rcases Nat.eq_or_lt_of_le place_bounds.1 with rfl | further
    · exact noneBefore other (by omega) freeOther _ startsOther
    · rcases Nat.eq_or_lt_of_le (Nat.le_sub_one_of_lt further) with isWord | within
      · rw [← isWord, starts'.at_word] at isLast
        exact (visible_of_quote startsOther.1).2.1 (Option.some.inj isLast).symm
      · obtain ⟨unit, isUnit, -, -, noQuote, -⟩ := starts'.unit_at within (by omega)
        rw [isLast] at isUnit
        obtain rfl := Option.some.inj isUnit
        obtain ⟨noSingle, noDouble⟩ := noQuote (by omega)
        rcases startsOther.1 with single | double
        · exact noSingle single
        · exact noDouble double
  · rcases Nat.eq_or_lt_of_le place_bounds.1 with rfl | further
    · rw [starts'.at_word] at closes
      cases closes
    · obtain ⟨unit, isUnit, -, noBrace, -⟩ := starts'.unit_at further place_bounds.2.1
      rw [closes] at isUnit
      exact noBrace (Option.some.inj isUnit).symm

/-- The stage that is reported for a header. -/
structure ReportOf (stagesBody : Utf16) (header : HeaderPlaces) (span : StageSpan) : Prop where
  word : span.keyword = header.word
  name : span.name = slice stagesBody header.nameStart header.nameEnd
  opening : span.opening = header.opening
  closing : span.closing = header.closing

section Loop

variable {maskedStages stagesBody uncommented : Utf16}
  (shown : ∀ place : Nat, maskedStages[place]? = some 125 → uncommented[place]? = some 125)

/-- What a round does: it ends at no header, steps over the start of a free one, or reports a whole one. -/
theorem round_cases {place : Nat} (goesOn : GoesOn uncommented place) {found : Pattern.Match UInt16}
    (isFound : nextHeader uncommented place = some found) :
    ∃ word nameStart quote, HeaderStart uncommented word nameStart quote ∧ Free uncommented word ∧
      Ahead place word ∧ found.index + found.text.length = nameStart ∧
      (∀ other nameStart' quote', Ahead place other → Lead uncommented other →
        HeaderStart uncommented other nameStart' quote' → word ≤ other) ∧
      ∀ span, stageSpan maskedStages stagesBody uncommented found = some span ↔
        ∃ header, WholeHeader maskedStages uncommented header ∧ header.word = word ∧
          ReportOf stagesBody header span := by
  obtain ⟨word, nameStart, quote, starts, lead, ahead, isName, isWord, isQuote, first⟩ := nextHeader_spec isFound
  have free := free_of_first goesOn lead ahead first
  refine ⟨word, nameStart, quote, starts, free, ahead, isName, first, ?_⟩
  intro span
  rw [stageSpan_eq_some_iff starts isName isWord isQuote]
  constructor
  · rintro ⟨nameEnd, ends, meets, isKeyword, isSpanName⟩
    exact ⟨⟨word, nameStart, nameEnd, span.opening, span.closing⟩, ⟨free, ⟨quote, starts, ends⟩, meets⟩, rfl,
      ⟨isKeyword, isSpanName, rfl, rfl⟩⟩
  · rintro ⟨header, whole, rfl, report⟩
    obtain ⟨quote', starts', ends⟩ := whole.written
    obtain ⟨rfl, rfl⟩ := starts.unique starts'
    refine ⟨header.nameEnd, ?_, ?_, report.word, report.name⟩
    · rw [report.opening]
      exact ends
    · rw [report.opening, report.closing]
      exact whole.closes

include shown

theorem goesOn_closing {header : HeaderPlaces} (whole : WholeHeader maskedStages uncommented header) :
    GoesOn uncommented header.closing :=
  .inr (.inr (shown _ whole.closes.bounds.2.2))

/-- Every stage that is reported has a whole header, ahead of where the loop goes on. -/
theorem exists_wholeHeader_of_mem {rounds place : Nat} (goesOn : GoesOn uncommented place) {span : StageSpan}
    (member : span ∈ stageSpansFrom maskedStages stagesBody uncommented rounds place) :
    ∃ header, WholeHeader maskedStages uncommented header ∧ ReportOf stagesBody header span ∧
      Ahead place header.word := by
  induction rounds generalizing place with
  | zero => cases member
  | succ rounds ih =>
      rw [stageSpansFrom] at member
      split at member
      · cases member
      rename_i found isFound
      obtain ⟨word, nameStart, quote, starts, free, ahead, isName, -, reports⟩ :=
        @round_cases maskedStages stagesBody _ _ goesOn _ isFound
      have bounds := starts.bounds
      -- A stage reported later is further on.
      have later : ∀ {place' : Nat}, GoesOn uncommented place' → word < place' →
          span ∈ stageSpansFrom maskedStages stagesBody uncommented rounds place' →
          ∃ header, WholeHeader maskedStages uncommented header ∧ ReportOf stagesBody header span ∧
            Ahead place header.word := by
        intro place' goesOn' further isLater
        obtain ⟨header, whole, report, ahead'⟩ := ih goesOn' isLater
        refine ⟨header, whole, report, .inl ?_⟩
        unfold Ahead at ahead ahead'
        omega
      split at member
      · rw [isName] at member
        exact later (.inr (.inl ⟨word, quote, free, starts⟩)) (by omega) member
      · rename_i other isSpan
        obtain ⟨header, whole, rfl, report⟩ := (reports other).mp isSpan
        rcases List.mem_cons.mp member with rfl | rest
        · exact ⟨header, whole, report, ahead⟩
        · rw [report.closing] at rest
          have wide := whole.bounds
          exact later (goesOn_closing shown whole) (by omega) rest

/-- Every whole header ahead of where the loop goes on is reported, or stands in a stage that is. -/
theorem mem_or_inside {rounds place : Nat} (goesOn : GoesOn uncommented place)
    (enough : uncommented.length + 1 ≤ rounds + place) {header : HeaderPlaces}
    (whole : WholeHeader maskedStages uncommented header) (ahead : Ahead place header.word) :
    ∃ span ∈ stageSpansFrom maskedStages stagesBody uncommented rounds place,
      ReportOf stagesBody header span ∨ (span.keyword < header.word ∧ header.word < span.closing) := by
  obtain ⟨quote', starts', -⟩ := whole.written
  have bounds' := starts'.bounds
  have isFree := whole.free
  rw [Free] at isFree
  obtain ⟨lead', noneBefore⟩ := isFree
  induction rounds generalizing place with
  | zero =>
      unfold Ahead at ahead
      omega
  | succ rounds ih =>
      rw [stageSpansFrom]
      split
      · rename_i missing
        exact absurd starts' (nextHeader_none missing ahead lead')
      rename_i found isFound
      obtain ⟨word, nameStart, quote, starts, free, isAhead, isName, first, reports⟩ :=
        @round_cases maskedStages stagesBody _ _ goesOn _ isFound
      have bounds := starts.bounds
      have further : place ≤ word := by
        unfold Ahead at isAhead
        omega
      rcases Nat.eq_or_lt_of_le (first _ _ _ ahead lead' starts') with rfl | beyond
      · -- The round is the one for this header.
        have reported := (reports ⟨header.word, slice stagesBody header.nameStart header.nameEnd, header.opening,
          header.closing⟩).mpr ⟨header, whole, rfl, rfl, rfl, rfl, rfl⟩
        rw [reported]
        exact ⟨_, List.mem_cons_self, .inl ⟨rfl, rfl, rfl, rfl⟩⟩
      · have apart := starts.apart starts' beyond
        split
        · rename_i noSpan
          have visible : nameStart < header.word := by
            refine Nat.lt_of_le_of_ne apart ?_
            rintro rfl
            exact noneBefore word beyond free quote starts
          rw [isName]
          exact ih (.inr (.inl ⟨word, quote, free, starts⟩)) (by omega) (.inl visible)
        · rename_i span isSpan
          obtain ⟨outer, wholeOuter, rfl, report⟩ := (reports span).mp isSpan
          have wide := wholeOuter.bounds
          rcases Nat.lt_trichotomy header.word outer.closing with inside | atBrace | behind
          · refine ⟨span, List.mem_cons_self, .inr ⟨?_, ?_⟩⟩
            · rw [report.word]
              exact beyond
            · rw [report.closing]
              exact inside
          · have isBrace := shown _ wholeOuter.closes.bounds.2.2
            rw [← atBrace, starts'.at_word] at isBrace
            cases isBrace
          · obtain ⟨other, member, stands⟩ := @ih outer.closing (goesOn_closing shown wholeOuter) (by omega)
              (.inl behind)
            rw [report.closing]
            exact ⟨other, List.mem_cons_of_mem _ member, stands⟩

/-- Stages are reported in file order, each header behind the brace that closes the stage before. -/
theorem stageSpansFrom_ordered {rounds place : Nat} (goesOn : GoesOn uncommented place) :
    (stageSpansFrom maskedStages stagesBody uncommented rounds place).Pairwise
      fun one other => one.closing < other.keyword := by
  induction rounds generalizing place with
  | zero => exact .nil
  | succ rounds ih =>
      rw [stageSpansFrom]
      split
      · exact .nil
      rename_i found isFound
      obtain ⟨word, nameStart, quote, starts, free, -, isName, -, reports⟩ :=
        @round_cases maskedStages stagesBody _ _ goesOn _ isFound
      split
      · rw [isName]
        exact ih (.inr (.inl ⟨word, quote, free, starts⟩))
      · rename_i span isSpan
        obtain ⟨header, whole, rfl, report⟩ := (reports span).mp isSpan
        have goesOn' := goesOn_closing shown whole
        rw [report.closing]
        refine .cons ?_ (ih goesOn')
        intro other member
        obtain ⟨later, wholeLater, reportLater, ahead⟩ := exists_wholeHeader_of_mem shown goesOn' member
        have wide := whole.bounds
        rw [reportLater.word, report.closing]
        unfold Ahead at ahead
        omega

/-- Of two reported stages the first closes in front of the word of the second. -/
theorem closing_lt_of_keyword_lt {rounds place : Nat} (goesOn : GoesOn uncommented place) {span other : StageSpan}
    (member : span ∈ stageSpansFrom maskedStages stagesBody uncommented rounds place)
    (isOther : other ∈ stageSpansFrom maskedStages stagesBody uncommented rounds place)
    (before : span.keyword < other.keyword) (wide : other.keyword < other.closing) :
    span.closing < other.keyword := by
  have ordered : (stageSpansFrom maskedStages stagesBody uncommented rounds place).Pairwise fun one other =>
      one.closing < other.keyword ∨ other.closing < one.keyword :=
    (stageSpansFrom_ordered shown goesOn).imp fun isBefore => .inl isBefore
  have differ : span ≠ other := by
    rintro rfl
    exact Nat.lt_irrefl _ before
  have symmetric : Std.Symm fun one other : StageSpan =>
      one.closing < other.keyword ∨ other.closing < one.keyword := ⟨fun _ _ => Or.symm⟩
  rcases ordered.forall member isOther differ with isBefore | isBehind
  · exact isBefore
  · omega

/-- All the headers that are reported have a property exactly where each whole header without it stands in a
    stage whose header has it, as far as such stages nest. -/
theorem all_reported_iff {good : HeaderPlaces → Prop} {rounds : Nat} (enough : uncommented.length + 1 ≤ rounds)
    (nests : ∀ inner outer, WholeHeader maskedStages uncommented inner →
      WholeHeader maskedStages uncommented outer → good inner → good outer → outer.word < inner.word →
      inner.word < outer.closing → inner.closing ≤ outer.closing) :
    (∀ span ∈ stageSpansFrom maskedStages stagesBody uncommented rounds 0, ∀ header,
        WholeHeader maskedStages uncommented header → ReportOf stagesBody header span → good header) ↔
      ∀ header, WholeHeader maskedStages uncommented header → ¬ good header →
        ∃ outer, WholeHeader maskedStages uncommented outer ∧ good outer ∧ outer.word < header.word ∧
          header.word < outer.closing := by
  have start : GoesOn uncommented 0 := .inl rfl
  have isAhead : ∀ word, Ahead 0 word := by
    unfold Ahead
    omega
  have reach : ∀ {header}, WholeHeader maskedStages uncommented header →
      ∃ span ∈ stageSpansFrom maskedStages stagesBody uncommented rounds 0,
        ReportOf stagesBody header span ∨ (span.keyword < header.word ∧ header.word < span.closing) :=
    fun whole => mem_or_inside shown start (by omega) whole (isAhead _)
  constructor
  · intro all header whole bad
    obtain ⟨span, member, report | ⟨before, inside⟩⟩ := reach whole
    · exact absurd (all span member header whole report) bad
    · obtain ⟨outer, wholeOuter, report, -⟩ := exists_wholeHeader_of_mem shown start member
      rw [report.word] at before
      rw [report.closing] at inside
      exact ⟨outer, wholeOuter, all span member outer wholeOuter report, before, inside⟩
  · intro covered
    have disjoint := @closing_lt_of_keyword_lt _ stagesBody _ shown rounds _ start
    -- Of the reported headers without the property none is the first.
    intro span member header whole report
    induction isWord : header.word using Nat.strong_induction_on generalizing header span with
    | _ word ih =>
        subst isWord
        by_contra bad
        obtain ⟨outer, wholeOuter, goodOuter, before, inside⟩ := covered header whole bad
        have wide := whole.bounds
        obtain ⟨span', member', report' | ⟨before', inside'⟩⟩ := reach wholeOuter
        · have apart := disjoint member' member (by rw [report'.word, report.word]; exact before)
            (by rw [report.word, report.closing]; omega)
          rw [report'.closing, report.word] at apart
          omega
        · obtain ⟨first, wholeFirst, reportFirst, -⟩ := exists_wholeHeader_of_mem shown start member'
          rw [reportFirst.word] at before'
          rw [reportFirst.closing] at inside'
          have goodFirst := ih first.word (by omega) span' member' first wholeFirst reportFirst rfl
          have nested := nests outer first wholeOuter wholeFirst goodOuter goodFirst before' inside'
          have apart := disjoint member' member (by rw [reportFirst.word, report.word]; omega)
            (by rw [report.word, report.closing]; omega)
          rw [reportFirst.closing, report.word] at apart
          omega

end Loop

end JumptotechLabs.Verifier
