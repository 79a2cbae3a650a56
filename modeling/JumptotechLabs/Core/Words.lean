/-
Module: JumptotechLabs.Core.Words
Layer: Core (library)
Purpose: Texts as words with white space between them: what `replace(/\s+/g, ' ')` makes of them, and when one text of
  words begins with another.
Main exports: IsWord, Worded, exists_worded, squeeze, joinWords, Worded.squeeze_append, trim_squeeze, joined_prefix_iff
-/
import JumptotechLabs.Core.Lines

namespace JumptotechLabs.Core.Utf16

/-- Something, and no white space in it. -/
def IsWord (word : Utf16) : Prop := word ≠ [] ∧ ∀ unit ∈ word, isSpace unit = false

instance (word : Utf16) : Decidable (IsWord word) := inferInstanceAs (Decidable (_ ∧ _))

/-- A text that starts with a word and ends with one. -/
inductive Worded : Utf16 → List Utf16 → Prop where
  | last {word : Utf16} (isWord : IsWord word) : Worded word [word]
  | more {word gap rest : Utf16} {words : List Utf16} (isWord : IsWord word) (blank : Blank gap) (isGap : gap ≠ [])
      (further : Worded rest words) : Worded (word ++ (gap ++ rest)) (word :: words)

/-- The words with one blank between any two. -/
def joinWords (words : List Utf16) : Utf16 := [32].intercalate words

theorem joinWords_single (word : Utf16) : joinWords [word] = word := List.intercalate_singleton

theorem joinWords_cons (word : Utf16) {words : List Utf16} (more : words ≠ []) :
    joinWords (word :: words) = word ++ 32 :: joinWords words := by
  rw [joinWords, List.intercalate_cons_of_ne_nil more, List.append_assoc]
  rfl

theorem isSpace_blank : isSpace 32 = true := by decide

theorem blank_single : Blank [32] := by decide

variable {text : Utf16} {words : List Utf16}

namespace Worded

theorem all_words (worded : Worded text words) : words ≠ [] ∧ ∀ word ∈ words, IsWord word := by
  induction worded with
  | last isWord =>
      refine ⟨List.cons_ne_nil _ _, fun word member => ?_⟩
      rw [List.mem_singleton] at member
      exact member ▸ isWord
  | more isWord _ _ _ ih =>
      refine ⟨List.cons_ne_nil _ _, fun word member => ?_⟩
      rcases List.mem_cons.mp member with rfl | later
      · exact isWord
      · exact ih.2 word later

theorem starts (worded : Worded text words) : ∃ unit rest, text = unit :: rest ∧ isSpace unit = false := by
  have ofWord : ∀ {word : Utf16} (behind : Utf16), IsWord word →
      ∃ unit rest, word ++ behind = unit :: rest ∧ isSpace unit = false := by
    rintro word behind ⟨nonempty, visible⟩
    obtain ⟨unit, rest, rfl⟩ := List.exists_cons_of_ne_nil nonempty
    exact ⟨unit, rest ++ behind, rfl, visible unit List.mem_cons_self⟩
  cases worded with
  | last isWord => simpa using ofWord [] isWord
  | more isWord _ _ _ => exact ofWord _ isWord

theorem ends (worded : Worded text words) : ∃ front unit, text = front ++ [unit] ∧ isSpace unit = false := by
  induction worded with
  | last isWord =>
      rename_i word
      rcases List.eq_nil_or_concat word with rfl | ⟨front, unit, rfl⟩
      · exact absurd rfl isWord.1
      · refine ⟨front, unit, List.concat_eq_append, isWord.2 unit ?_⟩
        rw [List.concat_eq_append]
        exact List.mem_append_right _ List.mem_cons_self
  | more _ _ _ _ ih =>
      obtain ⟨front, unit, rfl, visible⟩ := ih
      exact ⟨_, unit, by rw [← List.append_assoc, ← List.append_assoc], visible⟩

/-- The words with single blanks are a text of them. -/
theorem joined (nonempty : words ≠ []) (all : ∀ word ∈ words, IsWord word) : Worded (joinWords words) words := by
  induction words with
  | nil => exact absurd rfl nonempty
  | cons word rest ih =>
      cases rest with
      | nil =>
          rw [joinWords_single]
          exact .last (all word List.mem_cons_self)
      | cons second rest =>
          rw [joinWords, List.intercalate_cons_cons, List.append_assoc]
          exact .more (all word List.mem_cons_self) blank_single (List.cons_ne_nil _ _)
            (ih (List.cons_ne_nil _ _) fun other member => all other (List.mem_cons_of_mem _ member))

end Worded

/-- A text that starts and ends with no white space is made of words; by induction on its length, word by word. -/
theorem exists_worded {text : Utf16} (nonempty : text ≠ []) (starts : ∀ unit ∈ text.head?, isSpace unit = false)
    (ends : ∀ unit ∈ text.getLast?, isSpace unit = false) : ∃ words, Worded text words := by
  have visibleWord : IsWord (text.takeWhile fun unit => !isSpace unit) := by
    refine ⟨fun nothing => ?_, fun unit member => by simpa using List.mem_takeWhile_imp member⟩
    obtain ⟨unit, rest, rfl⟩ := List.exists_cons_of_ne_nil nonempty
    rw [List.takeWhile_cons_of_pos (by simp [starts unit rfl])] at nothing
    cases nothing
  have whole : (text.takeWhile fun unit => !isSpace unit) ++ (text.dropWhile fun unit => !isSpace unit) = text :=
    List.takeWhile_append_dropWhile
  cases behind : text.dropWhile fun unit => !isSpace unit with
  | nil =>
      rw [behind, List.append_nil] at whole
      exact ⟨[text], .last (whole ▸ visibleWord)⟩
  | cons space further =>
      have stops := List.head?_dropWhile_not (fun unit => !isSpace unit) text
      rw [behind] at stops
      have isSpaceHere : isSpace space = true := by simpa using stops
      obtain ⟨gap, wholeBehind, blank, restStarts⟩ := exists_trimStart (space :: further)
      have isGap : gap ≠ [] := by
        rintro rfl
        rw [List.nil_append] at wholeBehind
        rw [← wholeBehind] at restStarts
        have visible := restStarts space rfl
        rw [isSpaceHere] at visible
        cases visible
      rw [behind, wholeBehind] at whole
      have isRest : trimStart (space :: further) ≠ [] := by
        intro nothing
        rw [nothing, List.append_nil] at whole
        obtain ⟨front, last, rfl⟩ : ∃ front last, gap = front ++ [last] :=
          ⟨gap.dropLast, gap.getLast isGap, (List.dropLast_append_getLast isGap).symm⟩
        have visible := ends last (by rw [← whole, ← List.append_assoc, List.getLast?_concat]; rfl)
        rw [blank last (List.mem_append_right _ List.mem_cons_self)] at visible
        cases visible
      have shorter : (trimStart (space :: further)).length < text.length := by
        rw [← whole, List.length_append, List.length_append]
        have := List.length_pos_of_ne_nil visibleWord.1
        omega
      obtain ⟨words, worded⟩ := exists_worded isRest restStarts fun unit last => ends unit (by
        rw [← whole, List.getLast?_append_of_ne_nil _ (by simp [isRest]), List.getLast?_append_of_ne_nil _ isRest]
        exact last)
      have remade := Worded.more visibleWord blank isGap worded
      rw [whole] at remade
      exact ⟨_, remade⟩
termination_by text.length

/-! ### One blank for each run of white space -/

/-- `text.replace(/\s+/g, ' ')`, told whether the unit before is white space. -/
def squeeze : Bool → Utf16 → Utf16
  | _, [] => []
  | inRun, unit :: rest =>
      if isSpace unit then (if inRun then squeeze true rest else 32 :: squeeze true rest)
      else unit :: squeeze false rest

theorem squeeze_visible {word : Utf16} (visible : ∀ unit ∈ word, isSpace unit = false) (behind : Utf16) :
    squeeze false (word ++ behind) = word ++ squeeze false behind := by
  induction word with
  | nil => rfl
  | cons unit rest ih =>
      rw [List.cons_append, squeeze, if_neg (by rw [visible unit List.mem_cons_self]; decide),
        ih fun other member => visible other (List.mem_cons_of_mem _ member)]
      rfl

theorem squeeze_run {gap : Utf16} (blank : Blank gap) {behind : Utf16}
    (starts : ∀ unit ∈ behind.head?, isSpace unit = false) :
    squeeze true (gap ++ behind) = squeeze false behind := by
  induction gap with
  | nil =>
      cases behind with
      | nil => rfl
      | cons unit rest =>
          have visible := starts unit rfl
          rw [List.nil_append, squeeze, squeeze, if_neg (by rw [visible]; decide), if_neg (by rw [visible]; decide)]
  | cons unit rest ih =>
      obtain ⟨space, blank⟩ := blank_cons.mp blank
      rw [List.cons_append, squeeze, if_pos space, if_pos rfl, ih blank]

theorem squeeze_gap {gap : Utf16} (blank : Blank gap) (isGap : gap ≠ []) {behind : Utf16}
    (starts : ∀ unit ∈ behind.head?, isSpace unit = false) :
    squeeze false (gap ++ behind) = 32 :: squeeze false behind := by
  obtain ⟨unit, rest, rfl⟩ := List.exists_cons_of_ne_nil isGap
  obtain ⟨space, blank⟩ := blank_cons.mp blank
  rw [List.cons_append, squeeze, if_pos space, if_neg (by decide), squeeze_run blank starts]

theorem Worded.starts_visible (worded : Worded text words) (behind : Utf16) :
    ∀ unit ∈ (text ++ behind).head?, isSpace unit = false := by
  obtain ⟨first, rest, rfl, visible⟩ := worded.starts
  rintro unit same
  cases same
  exact visible

/-- Between the words there is one blank each. -/
theorem Worded.squeeze_append (worded : Worded text words) (behind : Utf16) :
    squeeze false (text ++ behind) = joinWords words ++ squeeze false behind := by
  induction worded with
  | last isWord => rw [squeeze_visible isWord.2, joinWords_single]
  | more isWord blank isGap further ih =>
      rw [List.append_assoc, List.append_assoc, squeeze_visible isWord.2,
        squeeze_gap blank isGap (further.starts_visible behind), ih, joinWords_cons _ further.all_words.1,
        List.append_assoc, List.cons_append]

theorem blank_squeeze {gap : Utf16} (blank : Blank gap) : Blank (squeeze false gap) := by
  by_cases isGap : gap = []
  · rw [isGap]
    exact .nil
  · have squeezed : squeeze false (gap ++ []) = 32 :: squeeze false [] :=
      squeeze_gap blank isGap fun unit impossible => nomatch impossible
    rw [List.append_nil] at squeezed
    rw [squeezed]
    exact blank_single

/-- `text.replace(/\s+/g, ' ').trim()`. -/
theorem trim_squeeze (worded : Worded (trim text) words) : trim (squeeze false text) = joinWords words := by
  obtain ⟨lead, trail, whole, before, behind, -, -⟩ := exists_trim text
  have inner := worded.squeeze_append trail
  have outer : ∃ gap, Blank gap ∧ squeeze false text = gap ++ (joinWords words ++ squeeze false trail) := by
    rw [whole, List.append_assoc]
    by_cases isGap : lead = []
    · exact ⟨[], .nil, by rw [isGap, List.nil_append, List.nil_append, inner]⟩
    · refine ⟨[32], blank_single, ?_⟩
      rw [squeeze_gap before isGap (worded.starts_visible trail), inner]
      rfl
  obtain ⟨gap, blank, squeezed⟩ := outer
  have rejoined := Worded.joined worded.all_words.1 worded.all_words.2
  rw [squeezed, ← List.append_assoc]
  refine trim_of_decomposition blank (blank_squeeze behind) ?_ ?_
  · simpa using rejoined.starts_visible []
  · obtain ⟨front, last, same, visible⟩ := rejoined.ends
    rw [same, List.getLast?_concat]
    rintro unit isLast
    cases isLast
    exact visible

/-! ### Beginning with words -/

theorem not_mem_blank {word : Utf16} (isWord : IsWord word) : (32 : UInt16) ∉ word := by
  intro member
  have visible := isWord.2 32 member
  rw [isSpace_blank] at visible
  cases visible

theorem splitOn_joinWords (nonempty : words ≠ []) (all : ∀ word ∈ words, IsWord word) :
    (joinWords words).splitOn 32 = words :=
  List.splitOn_intercalate 32 (fun word member => not_mem_blank (all word member)) nonempty

theorem joinWords_append {front behind : List Utf16} (nonempty : front ≠ []) (more : behind ≠ []) :
    joinWords (front ++ behind) = joinWords front ++ 32 :: joinWords behind := by
  induction front with
  | nil => exact absurd rfl nonempty
  | cons first rest ih =>
      cases rest with
      | nil =>
          rw [List.singleton_append, joinWords_cons _ more, joinWords_single]
      | cons second rest =>
          rw [List.cons_append, joinWords_cons _ (by simp), ih (List.cons_ne_nil _ _),
            joinWords_cons _ (List.cons_ne_nil _ _), List.append_assoc, List.cons_append]

/-- The joined words are the wanted ones, or go on with a blank behind them, exactly if they begin with them. -/
theorem joined_prefix_iff {wanted : List Utf16} (nonempty : wanted ≠ []) (all : ∀ word ∈ wanted, IsWord word)
    (more : words ≠ []) (allWords : ∀ word ∈ words, IsWord word) :
    joinWords words = joinWords wanted ∨ joinWords wanted ++ [32] <+: joinWords words ↔ wanted <+: words := by
  constructor
  · rintro (same | ⟨rest, same⟩)
    · have split := congrArg (List.splitOn 32) same
      rw [splitOn_joinWords more allWords, splitOn_joinWords nonempty all] at split
      rw [split]
    · rw [List.append_assoc, List.singleton_append] at same
      have split := congrArg (List.splitOn 32) same
      rw [List.splitOn_append_cons_self, splitOn_joinWords nonempty all, splitOn_joinWords more allWords] at split
      exact ⟨_, split⟩
  · rintro ⟨rest, rfl⟩
    by_cases isEnd : rest = []
    · left
      rw [isEnd, List.append_nil]
    · right
      refine ⟨joinWords rest, ?_⟩
      rw [joinWords_append nonempty isEnd, List.append_assoc]
      rfl

end JumptotechLabs.Core.Utf16
