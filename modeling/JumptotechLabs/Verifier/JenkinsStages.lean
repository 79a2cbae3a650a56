/-
Module: JumptotechLabs.Verifier.JenkinsStages
Layer: Verifier (services/verifier/src/ci/jenkinsfile.ts)
Purpose: Where the stages that are reported stand in a Jenkinsfile. Their headers are looked for with
  literals left in, their braces with literals blanked; comments can never hold either, a literal can.
Main exports: InCode, InLiteral, StagesBlock, StageAt, HeaderInCode, real_stages_iff
-/
import JumptotechLabs.Verifier.JenkinsHeaders

namespace JumptotechLabs.Verifier

open JumptotechLabs.Core
open JumptotechLabs.Core.Utf16 (isSpace isWord)

/-! ### Places in code and in literals -/

/-- The piece a place of a text belongs to. -/
def PieceAt (text : Utf16) (place : Nat) (piece : JenkinsPiece) : Prop :=
  ∃ front back, Lexes text (front ++ piece :: back) ∧
    (front.flatMap JenkinsPiece.text).length ≤ place ∧
    place < (front.flatMap JenkinsPiece.text).length + piece.text.length

/-- Neither in a comment nor in a string literal. -/
def InCode (text : Utf16) (place : Nat) : Prop := ∃ unit, PieceAt text place (.code unit)

/-- A place inside a string literal. -/
def InLiteral (text : Utf16) (place : Nat) : Prop := ∃ literal, PieceAt text place (.literal literal)

/-- Every place of the pieces is in one of them. -/
theorem exists_piece {pieces : List JenkinsPiece} {place : Nat}
    (inside : place < (pieces.flatMap JenkinsPiece.text).length) :
    ∃ front piece back, pieces = front ++ piece :: back ∧
      (front.flatMap JenkinsPiece.text).length ≤ place ∧
      place < (front.flatMap JenkinsPiece.text).length + piece.text.length := by
  induction pieces generalizing place with
  | nil => simp at inside
  | cons piece pieces ih =>
      by_cases here : place < piece.text.length
      · exact ⟨[], piece, pieces, rfl, Nat.zero_le _, by simpa using here⟩
      · rw [List.flatMap_cons, List.length_append] at inside
        obtain ⟨front, other, back, rfl, least, most⟩ := @ih (place - piece.text.length) (by omega)
        refine ⟨piece :: front, other, back, rfl, ?_, ?_⟩
        · rw [List.flatMap_cons, List.length_append]
          omega
        · rw [List.flatMap_cons, List.length_append]
          omega

/-- Every place of a text is in a piece. -/
theorem Lexes.pieceAt {text : Utf16} {pieces : List JenkinsPiece} (lexes : Lexes text pieces) {place : Nat}
    (inside : place < text.length) : ∃ piece, PieceAt text place piece := by
  rw [lexes.text_eq] at inside
  obtain ⟨front, piece, back, rfl, first, last⟩ := exists_piece inside
  exact ⟨piece, front, back, lexes, first, last⟩

/-- A place is in one piece only. -/
theorem PieceAt.unique {text : Utf16} {place : Nat} {one other : JenkinsPiece}
    (isOne : PieceAt text place one) (isOther : PieceAt text place other) : one = other := by
  obtain ⟨front, back, lexes, first, last⟩ := isOne
  obtain ⟨front', back', lexes', first', last'⟩ := isOther
  rcases List.append_eq_append_iff.mp (lexes.unique lexes') with ⟨middle, rfl, same⟩ | ⟨middle, rfl, same⟩
  · cases middle with
    | nil => exact (List.cons.inj same).1
    | cons piece middle =>
        obtain ⟨rfl, -⟩ := List.cons.inj same
        rw [List.flatMap_append, List.flatMap_cons, List.length_append, List.length_append] at first'
        omega
  · cases middle with
    | nil => exact (List.cons.inj same).1.symm
    | cons piece middle =>
        obtain ⟨rfl, -⟩ := List.cons.inj same
        rw [List.flatMap_append, List.flatMap_cons, List.length_append, List.length_append] at first
        omega

theorem not_inLiteral_of_inCode {text : Utf16} {place : Nat} (code : InCode text place) :
    ¬ InLiteral text place := by
  rintro ⟨literal, isLiteral⟩
  obtain ⟨unit, isCode⟩ := code
  cases isCode.unique isLiteral

/-- A place of a part that is cut between pieces is in the piece it is in in the whole. -/
theorem PieceAt.in_whole {text : Utf16} {start stop : Nat} (ahead : start ≤ stop)
    (first : Outside text start) (second : Outside text stop) {place : Nat} {piece : JenkinsPiece}
    (isPiece : PieceAt (slice text start stop) place piece) : PieceAt text (start + place) piece := by
  obtain ⟨front, middle, back, lexes, isStart, isStop⟩ := first.between ahead second
  have part : slice text start stop = middle.flatMap JenkinsPiece.text := by
    rw [lexes.text_eq, List.flatMap_append, List.flatMap_append]
    exact slice_append isStart (by rw [← List.flatMap_append]; exact isStop)
  obtain ⟨before, behind, lexesPart, least, most⟩ := isPiece
  rw [part] at lexesPart
  obtain rfl := (lexes.of_front).of_back.unique lexesPart
  refine ⟨front ++ before, behind ++ back, by simpa using lexes, ?_, ?_⟩
  · rw [List.flatMap_append, List.length_append, isStart]
    omega
  · rw [List.flatMap_append, List.length_append, isStart]
    omega

/-- A stretch between two places outside pieces has the pieces that the text has there. -/
theorem pieceAt_slice_iff {text : Utf16} {start stop : Nat} (ahead : start ≤ stop)
    (inside : stop ≤ text.length) (first : Outside text start) (second : Outside text stop) {place : Nat}
    (within : start + place < stop) {piece : JenkinsPiece} :
    PieceAt (slice text start stop) place piece ↔ PieceAt text (start + place) piece := by
  constructor
  · exact PieceAt.in_whole ahead first second
  · intro isPiece
    obtain ⟨front, middle, back, lexes, isStart, isStop⟩ := first.between ahead second
    have part : slice text start stop = middle.flatMap JenkinsPiece.text := by
      rw [lexes.text_eq, List.flatMap_append, List.flatMap_append]
      exact slice_append isStart (by rw [← List.flatMap_append]; exact isStop)
    have lexesPart : Lexes (slice text start stop) middle := by
      rw [part]
      exact (lexes.of_front).of_back
    obtain ⟨other, isOther⟩ := @Lexes.pieceAt _ _ lexesPart place (by rw [length_slice inside]; omega)
    rwa [isPiece.unique (isOther.in_whole ahead first second)]

theorem getElem?_masked (blankStrings : Bool) {front back : List JenkinsPiece} {piece : JenkinsPiece}
    {place : Nat} (first : (front.flatMap JenkinsPiece.text).length ≤ place)
    (last : place < (front.flatMap JenkinsPiece.text).length + piece.text.length) :
    ((front ++ piece :: back).flatMap (JenkinsPiece.masked blankStrings))[place]? =
      (piece.masked blankStrings)[place - (front.flatMap JenkinsPiece.text).length]? := by
  rw [← length_flatMap_masked blankStrings] at first last ⊢
  rw [List.flatMap_append, List.getElem?_append_right first, List.flatMap_cons, List.getElem?_append_left]
  rw [piece.length_masked]
  omega

theorem blank_of_getElem?_map {text : Utf16} {place : Nat} {unit : UInt16}
    (shown : (text.map blankUnit)[place]? = some unit) : unit = 10 ∨ unit = 32 := by
  rw [List.getElem?_map, Option.map_eq_some_iff] at shown
  obtain ⟨other, -, rfl⟩ := shown
  rw [blankUnit]
  split
  · exact .inl rfl
  · exact .inr rfl

/-- What is visible in a mask is code, or in a literal where literals are left in. -/
theorem inCode_or_inLiteral {text masked : Utf16} {blankStrings : Bool}
    (isMask : mask text blankStrings = .ok masked) {place : Nat} {unit : UInt16}
    (shown : masked[place]? = some unit) (noNewline : unit ≠ 10) (noSpace : unit ≠ 32) :
    PieceAt text place (.code unit) ∨ (blankStrings = false ∧ InLiteral text place) := by
  obtain ⟨pieces, lexes, rfl⟩ := mask_eq_ok_iff.mp isMask
  have inside : place < text.length := by
    rw [lexes.text_eq, ← length_flatMap_masked blankStrings]
    exact (List.getElem?_eq_some_iff.mp shown).1
  obtain ⟨piece, front, back, lexes', first, last⟩ := lexes.pieceAt inside
  obtain rfl := lexes.unique lexes'
  rw [getElem?_masked blankStrings first last] at shown
  cases piece with
  | code other =>
      have here : place - (front.flatMap JenkinsPiece.text).length = 0 := by
        rw [JenkinsPiece.text, List.length_singleton] at last
        omega
      rw [here] at shown
      cases shown
      exact .inl ⟨front, back, lexes, first, last⟩
  | comment comment =>
      rcases blank_of_getElem?_map shown with isNewline | isSpace
      · exact absurd isNewline noNewline
      · exact absurd isSpace noSpace
  | literal literal =>
      cases blankStrings with
      | false => exact .inr ⟨rfl, literal, front, back, lexes, first, last⟩
      | true =>
          rcases blank_of_getElem?_map shown with isNewline | isSpace
          · exact absurd isNewline noNewline
          · exact absurd isSpace noSpace

/-- Code is shown as it stands. -/
theorem masked_of_code {text masked : Utf16} {blankStrings : Bool}
    (isMask : mask text blankStrings = .ok masked) {place : Nat} {unit : UInt16}
    (code : PieceAt text place (.code unit)) : masked[place]? = some unit := by
  obtain ⟨pieces, lexes, rfl⟩ := mask_eq_ok_iff.mp isMask
  obtain ⟨front, back, lexes', first, last⟩ := code
  obtain rfl := lexes.unique lexes'
  rw [getElem?_masked blankStrings first last]
  have here : place - (front.flatMap JenkinsPiece.text).length = 0 := by
    rw [JenkinsPiece.text, List.length_singleton] at last
    omega
  rw [here]
  rfl

/-- Both ends of a unit of code are outside comments and literals. -/
theorem PieceAt.outside {text : Utf16} {place : Nat} {unit : UInt16}
    (code : PieceAt text place (.code unit)) : Outside text place ∧ Outside text (place + 1) := by
  obtain ⟨front, back, lexes, first, last⟩ := code
  rw [JenkinsPiece.text, List.length_singleton] at last
  have here : (front.flatMap JenkinsPiece.text).length = place := by omega
  refine ⟨⟨front, .code unit :: back, lexes, here⟩, ⟨front ++ [.code unit], back, by simpa using lexes, ?_⟩⟩
  rw [List.flatMap_append, List.length_append, here]
  rfl

/-! ### The literal of a name -/

/-- A whole header in a text: the word, its quoted name, and the brace behind it. -/
structure StageHeader (text front gap name gap' rest : Utf16) (quote : UInt16) : Prop where
  whole : text = front ++ (units "stage" ++
    (gap ++ quote :: (name ++ quote :: (gap' ++ 123 :: rest))))
  gapPlain : ∀ unit ∈ gap, isSpace unit = true ∨ unit = 40
  gapPlain' : ∀ unit ∈ gap', isSpace unit = true ∨ unit = 41
  isQuote : quote = 39 ∨ quote = 34
  quoteFree : quote ∉ name
  oneLine : 10 ∉ name

/-- Neither a quote nor a backslash stands in the gaps of a header. -/
theorem plain_of_gap {unit : UInt16} (inGap : isSpace unit = true ∨ unit = 40 ∨ unit = 41) :
    unit ≠ 39 ∧ unit ≠ 34 ∧ unit ≠ 92 := by
  rcases inGap with space | rfl | rfl
  · refine ⟨?_, ?_, ?_⟩ <;> rintro rfl <;> revert space <;> decide
  · decide
  · decide

/-- The quoted name of a header does not start three quotes. -/
theorem StageHeader.not_triple {text front gap name gap' rest : Utf16} {quote : UInt16}
    (header : StageHeader text front gap name gap' rest quote) :
    ¬ [quote, quote] <+: name ++ quote :: (gap' ++ 123 :: rest) := by
  intro triple
  cases name with
  | nil =>
      obtain ⟨-, starts⟩ := List.cons_prefix_cons.mp triple
      cases gap' with
      | nil =>
          have same := (List.cons_prefix_cons.mp starts).1
          rcases header.isQuote with rfl | rfl <;> cases same
      | cons unit gap' =>
          obtain ⟨rfl, -⟩ := List.cons_prefix_cons.mp starts
          obtain ⟨noSingle, noDouble, -⟩ := plain_of_gap ((header.gapPlain' _ List.mem_cons_self).imp_right .inr)
          exact header.isQuote.elim noSingle noDouble
  | cons unit name =>
      have same := (List.cons_prefix_cons.mp triple).1
      exact header.quoteFree (by rw [same]; exact List.mem_cons_self)

/-- A text, read from its start, ends in a backslash that escapes what follows. -/
def endsEscaped : Utf16 → Bool
  | [] => false
  | [unit] => unit == 92
  | unit :: next :: rest => if unit = 92 then endsEscaped rest else endsEscaped (next :: rest)

/-- A plain unit stays in the literal. -/
theorem quotedRest_plain {quote unit : UInt16} (plain : unit ≠ quote ∧ unit ≠ 92 ∧ unit ≠ 10) (rest : Utf16) :
    quotedRest quote (unit :: rest) = (unit :: (quotedRest quote rest).1, (quotedRest quote rest).2) := by
  cases rest with
  | nil => rfl
  | cons next rest =>
      rw [quotedRest, if_neg plain.2.1, if_neg]
      rintro (ends | newline)
      · exact plain.1 ends
      · exact plain.2.2 newline

/-- An escaped unit stays in the literal. -/
theorem quotedRest_escaped (quote next : UInt16) (rest : Utf16) :
    quotedRest quote (92 :: next :: rest) =
      (92 :: next :: (quotedRest quote rest).1, (quotedRest quote rest).2) := by
  rw [quotedRest, if_pos rfl]

/-- A run of plain units stays in the literal. -/
theorem quotedRest_run {quote : UInt16} {run : Utf16}
    (plain : ∀ unit ∈ run, unit ≠ quote ∧ unit ≠ 92 ∧ unit ≠ 10) (rest : Utf16) :
    quotedRest quote (run ++ rest) =
      (run ++ (quotedRest quote rest).1, (quotedRest quote rest).2) := by
  induction run with
  | nil => rfl
  | cons unit run ih =>
      rw [List.cons_append, quotedRest_plain (plain unit List.mem_cons_self),
        ih fun other member => plain other (List.mem_cons_of_mem _ member)]
      rfl

/-- A quote, or the end of the line, ends the literal. -/
theorem quotedRest_ends {quote unit : UInt16} (escapes : unit ≠ 92) (ends : unit = quote ∨ unit = 10)
    (rest : Utf16) : quotedRest quote (unit :: rest) = ([unit], rest) := by
  cases rest with
  | nil => rfl
  | cons next rest => rw [quotedRest, if_neg escapes, if_pos ends]

/-- The first quote ends the literal, unless it is escaped; then the literal goes on behind it. -/
theorem quotedRest_name {quote : UInt16} (isQuote : quote = 39 ∨ quote = 34) {name : Utf16}
    (free : quote ∉ name) (oneLine : 10 ∉ name) (after : Utf16) :
    quotedRest quote (name ++ quote :: after) =
      if endsEscaped name = true then
        (name ++ quote :: (quotedRest quote after).1, (quotedRest quote after).2)
      else (name ++ [quote], after) := by
  have noEscape : quote ≠ 92 := by rcases isQuote with rfl | rfl <;> decide
  have plain : ∀ unit rest, unit :: rest = name → unit ≠ 92 → unit ≠ quote ∧ unit ≠ 92 ∧ unit ≠ 10 := by
    rintro unit rest rfl visible
    simp only [List.mem_cons, not_or] at free oneLine
    exact ⟨fun same => free.1 same.symm, visible, fun same => oneLine.1 same.symm⟩
  induction name using endsEscaped.induct with
  | case1 => exact quotedRest_ends noEscape (.inl rfl) after
  | case2 unit =>
      by_cases escapes : unit = 92
      · subst escapes
        rfl
      · have notEscaped : endsEscaped [unit] = false := by simpa [endsEscaped] using escapes
        rw [List.singleton_append, quotedRest_plain (plain unit [] rfl escapes),
          quotedRest_ends noEscape (.inl rfl), notEscaped, if_neg Bool.false_ne_true]
        rfl
  | case3 next rest ih =>
      have free' : quote ∉ rest := fun member => free (by simp [member])
      have oneLine' : 10 ∉ rest := fun member => oneLine (by simp [member])
      have inner := ih free' oneLine' (by
        rintro unit others rfl visible
        refine ⟨?_, visible, ?_⟩
        · rintro rfl
          exact free' List.mem_cons_self
        · rintro rfl
          exact oneLine' List.mem_cons_self)
      rw [List.cons_append, List.cons_append, quotedRest_escaped, inner, endsEscaped, if_pos rfl]
      split <;> rfl
  | case4 unit next rest escapes ih =>
      have free' : quote ∉ next :: rest := fun member => free (List.mem_cons_of_mem _ member)
      have oneLine' : 10 ∉ next :: rest := fun member => oneLine (List.mem_cons_of_mem _ member)
      have inner := ih free' oneLine' (by
        rintro first others same visible
        cases same
        refine ⟨?_, visible, ?_⟩
        · rintro rfl
          exact free' List.mem_cons_self
        · rintro rfl
          exact oneLine' List.mem_cons_self)
      rw [List.cons_append, quotedRest_plain (plain unit _ rfl escapes), inner, endsEscaped, if_neg escapes]
      split <;> rfl

/-- A quote starts a literal. -/
theorem nextPiece_of_quote {first : UInt16} (isQuote : first = 39 ∨ first = 34) {rest behind : Utf16}
    {piece : JenkinsPiece} (taken : nextPiece first rest = .ok (piece, behind)) :
    ∃ literal, piece = .literal literal := by
  have noSlash : first ≠ 47 := by rcases isQuote with rfl | rfl <;> decide
  rw [nextPiece, if_neg (fun slash => noSlash slash.1), if_neg (fun slash => noSlash slash.1),
    if_pos isQuote] at taken
  split at taken
  · split at taken
    · cases taken
    · cases taken
      exact ⟨_, rfl⟩
  · cases taken
    exact ⟨_, rfl⟩

/-- Only a quote starts a literal. -/
theorem quote_of_literal {first : UInt16} {rest behind literal : Utf16}
    (taken : nextPiece first rest = .ok (.literal literal, behind)) : first = 39 ∨ first = 34 := by
  by_contra noQuote
  rw [nextPiece, if_neg noQuote] at taken
  split at taken
  · cases taken
  split at taken
  · split at taken <;> cases taken
  · cases taken

/-- Code without quotes in front of a visible unit: a piece starts at the unit. -/
theorem walk {text : Utf16} {pieces : List JenkinsPiece} (lexes : Lexes text pieces) {run rest : Utf16}
    {unit : UInt16} (visible : unit ≠ 10 ∧ unit ≠ 32)
    (shown : pieces.flatMap (JenkinsPiece.masked false) = run ++ unit :: rest)
    (noQuote : ∀ other ∈ run, other ≠ 39 ∧ other ≠ 34) :
    ∃ front back, pieces = front ++ back ∧ front.flatMap (JenkinsPiece.masked false) = run ∧
      back.flatMap (JenkinsPiece.masked false) = unit :: rest := by
  induction lexes generalizing run with
  | nil => simp at shown
  | @cons first others behind piece pieces taken _ ih =>
      rw [List.flatMap_cons] at shown
      obtain ⟨inside, -, isText, -⟩ := nextPiece_spec taken
      cases run with
      | nil => exact ⟨[], piece :: pieces, rfl, rfl, shown⟩
      | cons head run =>
          have later : ∀ piecesMasked, piece.masked false = piecesMasked →
              ∀ run', head :: run = piecesMasked ++ run' →
              ∃ front back, piece :: pieces = front ++ back ∧
                front.flatMap (JenkinsPiece.masked false) = head :: run ∧
                back.flatMap (JenkinsPiece.masked false) = unit :: rest := by
            rintro piecesMasked rfl run' split
            rw [split, List.append_assoc, List.append_cancel_left_eq] at shown
            obtain ⟨front, back, rfl, isRun, isRest⟩ := ih shown fun other member =>
              noQuote other (by rw [split]; exact List.mem_append_right _ member)
            refine ⟨piece :: front, back, rfl, ?_, isRest⟩
            rw [List.flatMap_cons, isRun, split]
          cases piece with
          | code code =>
              have same : code = head := (List.cons.inj shown).1
              exact later [code] rfl run (by rw [same]; rfl)
          | comment comment =>
              rcases List.append_eq_append_iff.mp shown with ⟨run', split, -⟩ | ⟨more, split, whole⟩
              · exact later _ rfl run' split
              · cases more with
                | nil =>
                    rw [List.append_nil] at split
                    exact later _ rfl [] (by rw [List.append_nil]; exact split.symm)
                | cons blank more =>
                    obtain ⟨rfl, -⟩ := List.cons.inj whole
                    have inComment : unit ∈ comment.map blankUnit := by
                      rw [show comment.map blankUnit = _ from split]
                      simp
                    obtain ⟨index, isIndex⟩ := List.mem_iff_getElem?.mp inComment
                    rcases blank_of_getElem?_map isIndex with newline | space
                    · exact absurd newline visible.1
                    · exact absurd space visible.2
          | literal literal =>
              have same : first = head := by
                rw [JenkinsPiece.text] at isText
                rw [JenkinsPiece.masked, if_neg Bool.false_ne_true, isText] at shown
                exact (List.cons.inj shown).1
              obtain ⟨noSingle, noDouble⟩ := noQuote head List.mem_cons_self
              rcases quote_of_literal taken with single | double
              · exact absurd (same.symm.trans single) noSingle
              · exact absurd (same.symm.trans double) noDouble

/-- A brace behind code without quotes is code. -/
theorem walk_to_brace {text : Utf16} {pieces : List JenkinsPiece} (lexes : Lexes text pieces)
    {run rest : Utf16} (shown : pieces.flatMap (JenkinsPiece.masked false) = run ++ 123 :: rest)
    (noQuote : ∀ other ∈ run, other ≠ 39 ∧ other ≠ 34) :
    ∃ front back, pieces = front ++ .code 123 :: back ∧
      front.flatMap (JenkinsPiece.masked false) = run := by
  obtain ⟨front, back, rfl, isRun, isRest⟩ := walk lexes (by decide) shown noQuote
  have behind := lexes.of_back
  cases back with
  | nil => simp at isRest
  | cons piece back =>
      refine ⟨front, back, ?_, isRun⟩
      rw [List.flatMap_cons] at isRest
      cases piece with
      | code unit =>
          cases (List.cons.inj isRest).1
          rfl
      | comment comment =>
          have nonempty : comment ≠ [] := lexes.text_ne_nil (.comment comment) (by simp)
          obtain ⟨unit, comment, rfl⟩ := List.exists_cons_of_ne_nil nonempty
          have blank : blankUnit unit = 123 := (List.cons.inj isRest).1
          rw [blankUnit] at blank
          split at blank <;> simp at blank
      | literal literal =>
          generalize ((JenkinsPiece.literal literal) :: back).flatMap JenkinsPiece.text = text' at behind
          cases behind with
          | cons taken _ =>
              obtain ⟨inside, -, isText, -⟩ := nextPiece_spec taken
              rw [JenkinsPiece.text] at isText
              rw [JenkinsPiece.masked, if_neg Bool.false_ne_true, isText] at isRest
              rcases quote_of_literal taken with rfl | rfl
              · cases isRest
              · cases isRest

/-- A piece that shows a quote at its start is a literal. -/
theorem literal_of_shown {head quote : UInt16} {others behind shown more : Utf16} {piece : JenkinsPiece}
    (isQuote : quote = 39 ∨ quote = 34) (taken : nextPiece head others = .ok (piece, behind))
    (isShown : piece.masked false ++ shown = quote :: more) : ∃ literal, piece = .literal literal := by
  obtain ⟨inside, -, isText, -⟩ := nextPiece_spec taken
  cases piece with
  | literal literal => exact ⟨literal, rfl⟩
  | comment comment =>
      rw [JenkinsPiece.text] at isText
      rw [JenkinsPiece.masked, isText] at isShown
      have blank : blankUnit head = quote := (List.cons.inj isShown).1
      rw [← blank, blankUnit] at isQuote
      split at isQuote
      · exact absurd isQuote (by decide)
      · exact absurd isQuote (by decide)
  | code code =>
      cases isText
      have same : head = quote := (List.cons.inj isShown).1
      exact nextPiece_of_quote (same ▸ isQuote) taken

/-- Where the lexer stands in front of the quoted name of a header whose word is code: at a literal that
    starts there, and that the round takes from what is shown. -/
theorem literal_of_header {text masked front gap name gap' rest : Utf16} {quote : UInt16}
    (isMask : mask text false = .ok masked) (header : StageHeader masked front gap name gap' rest quote)
    (word : InCode text front.length) :
    ∃ before back, Lexes text (before ++
        .literal (quote :: (quotedRest quote (name ++ quote :: (gap' ++ 123 :: rest))).1) :: back) ∧
      before.flatMap (JenkinsPiece.masked false) = front ++ (units "stage" ++ gap) ∧
      back.flatMap (JenkinsPiece.masked false) =
        (quotedRest quote (name ++ quote :: (gap' ++ 123 :: rest))).2 := by
  obtain ⟨pieces, lexes, rfl⟩ := mask_eq_ok_iff.mp isMask
  obtain ⟨unit, first, second, lexes', least, most⟩ := word
  obtain rfl := lexes.unique lexes'
  rw [JenkinsPiece.text, List.length_singleton] at most
  have whole := header.whole
  rw [List.flatMap_append] at whole
  have fronts := List.append_inj whole (by rw [length_flatMap_masked]; omega)
  obtain ⟨isFront, shown⟩ := fronts
  have noQuote : ∀ other ∈ units "stage" ++ gap, other ≠ 39 ∧ other ≠ 34 := by
    intro other member
    rcases List.mem_append.mp member with inWord | inGap
    · have plain : (units "stage").all (fun letter => letter ≠ 39 ∧ letter ≠ 34) = true := by decide
      exact of_decide_eq_true (List.all_eq_true.mp plain other inWord)
    · obtain ⟨noSingle, noDouble, -⟩ := plain_of_gap ((header.gapPlain other inGap).imp_right .inl)
      exact ⟨noSingle, noDouble⟩
  have visible : quote ≠ 10 ∧ quote ≠ 32 := by rcases header.isQuote with rfl | rfl <;> decide
  obtain ⟨run, back, split, isRun, isRest⟩ :=
    walk lexes.of_back visible (by rw [shown, List.append_assoc]) noQuote
  rw [split, ← List.append_assoc] at lexes
  have behind := lexes.of_back
  cases back with
  | nil => simp at isRest
  | cons piece back =>
      rw [List.flatMap_cons] at isRest
      have nonempty := lexes.text_ne_nil piece (by simp)
      generalize (piece :: back).flatMap JenkinsPiece.text = text' at behind
      cases behind with
      | @cons head others after _ _ taken later =>
          obtain ⟨inside, -, isText, again, -⟩ := nextPiece_spec taken
          have retaken := again _ (later.follows false)
          obtain ⟨literal, rfl⟩ := literal_of_shown header.isQuote taken isRest
          rw [JenkinsPiece.text] at isText
          rw [JenkinsPiece.masked, if_neg Bool.false_ne_true, isText] at isRest
          obtain ⟨rfl, isRest⟩ := List.cons.inj isRest
          have noSlash : head ≠ 47 := by rcases header.isQuote with rfl | rfl <;> decide
          rw [show inside ++ _ = _ from isRest, nextPiece, if_neg (fun slash => noSlash slash.1),
            if_neg (fun slash => noSlash slash.1), if_pos header.isQuote, if_neg header.not_triple] at retaken
          have taken' := Except.ok.inj retaken
          have isLiteral := congrArg Prod.fst taken'
          have isBehind := congrArg Prod.snd taken'
          dsimp only at isLiteral isBehind
          rw [← isLiteral] at lexes
          refine ⟨first ++ run, back, lexes, ?_, isBehind.symm⟩
          rw [List.flatMap_append, isFront, isRun]

/-- The name of a header whose word is code stands in a literal, with the quotes around it. -/
theorem name_inLiteral {text masked front gap name gap' rest : Utf16} {quote : UInt16}
    (isMask : mask text false = .ok masked) (header : StageHeader masked front gap name gap' rest quote)
    (word : InCode text front.length) {place : Nat}
    (least : (front ++ (units "stage" ++ gap)).length ≤ place)
    (most : place ≤ (front ++ (units "stage" ++ gap)).length + 1 + name.length) : InLiteral text place := by
  obtain ⟨before, back, lexes, isBefore, -⟩ := literal_of_header isMask header word
  rw [quotedRest_name header.isQuote header.quoteFree header.oneLine] at lexes
  refine ⟨_, before, back, lexes, ?_, ?_⟩
  · rw [← length_flatMap_masked false, isBefore]
    exact least
  · rw [← length_flatMap_masked false, isBefore, JenkinsPiece.text]
    split <;> simp only [List.length_cons, List.length_append, List.length_nil] at most ⊢ <;> omega

/-- A brace behind a literal, with no quotes between, is code. -/
theorem inCode_behind {text : Utf16} {before back : List JenkinsPiece} {literal run rest : Utf16}
    (lexes : Lexes text (before ++ .literal literal :: back))
    (shown : back.flatMap (JenkinsPiece.masked false) = run ++ 123 :: rest)
    (noQuote : ∀ other ∈ run, other ≠ 39 ∧ other ≠ 34) {place : Nat}
    (isPlace : place =
      (before.flatMap (JenkinsPiece.masked false)).length + (literal.length + run.length)) :
    InCode text place := by
  have lexes' : Lexes text ((before ++ [.literal literal]) ++ back) := by simpa using lexes
  obtain ⟨front, behind, rfl, isRun⟩ := walk_to_brace lexes'.of_back shown noQuote
  have length : ((before ++ .literal literal :: front).flatMap JenkinsPiece.text).length = place := by
    rw [List.flatMap_append, List.flatMap_cons, List.length_append, List.length_append,
      ← length_flatMap_masked false, ← length_flatMap_masked false, isRun, isPlace]
    rfl
  exact ⟨123, before ++ .literal literal :: front, behind, by simpa using lexes, by omega,
    by rw [length]; exact Nat.lt_succ_self _⟩

/-- The brace of a header whose word is code is code too, unless the quote behind the name is escaped and no
    newline ends the literal in front of the brace. -/
theorem brace_inCode_iff {text masked front gap name gap' rest : Utf16} {quote : UInt16}
    (isMask : mask text false = .ok masked) (header : StageHeader masked front gap name gap' rest quote)
    (word : InCode text front.length) {place : Nat}
    (isPlace : place = (front ++ (units "stage" ++ (gap ++ quote :: (name ++ quote :: gap')))).length) :
    InCode text place ↔ ¬ (endsEscaped name = true ∧ 10 ∉ gap') := by
  obtain ⟨before, back, lexes, isBefore, isBack⟩ := literal_of_header isMask header word
  rw [quotedRest_name header.isQuote header.quoteFree header.oneLine] at lexes isBack
  have plain : ∀ other ∈ gap', other ≠ 39 ∧ other ≠ 34 ∧ other ≠ 92 := fun other inGap =>
    plain_of_gap ((header.gapPlain' other inGap).imp_right .inr)
  have noQuote : ∀ other ∈ gap', other ≠ 39 ∧ other ≠ 34 := fun other inGap =>
    ⟨(plain other inGap).1, (plain other inGap).2.1⟩
  have unescaped : ∀ unit ∈ gap', unit ≠ 10 → unit ≠ quote ∧ unit ≠ 92 ∧ unit ≠ 10 := by
    intro unit member inLine
    obtain ⟨noSingle, noDouble, noEscape⟩ := plain unit member
    refine ⟨?_, noEscape, inLine⟩
    rcases header.isQuote with rfl | rfl
    · exact noSingle
    · exact noDouble
  by_cases escaped : endsEscaped name = true
  · rw [if_pos escaped] at lexes isBack
    dsimp only at lexes isBack
    by_cases newline : 10 ∈ gap'
    · -- The newline ends the literal, and the brace is behind it.
      refine ⟨fun _ both => both.2 newline, fun _ => ?_⟩
      obtain ⟨line, others, rfl, free⟩ := List.eq_append_cons_of_mem newline
      have ends : quotedRest quote (line ++ 10 :: others ++ 123 :: rest) =
          (line ++ [10], others ++ 123 :: rest) := by
        rw [List.append_assoc, quotedRest_run fun unit member =>
            unescaped unit (List.mem_append_left _ member) fun same => free (same ▸ member),
          List.cons_append, quotedRest_ends (by decide) (.inr rfl)]
      rw [ends] at lexes isBack
      apply inCode_behind lexes isBack fun other member =>
        noQuote other (List.mem_append_right _ (List.mem_cons_of_mem _ member))
      rw [isPlace, isBefore]
      simp
      omega
    · -- The literal goes on to the brace and beyond.
      rw [quotedRest_run fun unit member => unescaped unit member fun same => newline (same ▸ member),
        quotedRest_plain (by rcases header.isQuote with rfl | rfl <;> decide)] at lexes
      constructor
      · intro code
        exfalso
        refine not_inLiteral_of_inCode code ⟨_, before, back, lexes, ?_, ?_⟩
        · rw [← length_flatMap_masked false, isBefore, isPlace]
          simp
        · rw [← length_flatMap_masked false, isBefore, isPlace, JenkinsPiece.text]
          simp
          omega
      · intro both
        exact absurd ⟨escaped, newline⟩ both
  · rw [if_neg escaped] at lexes isBack
    refine ⟨fun _ both => escaped both.1, fun _ => ?_⟩
    apply inCode_behind lexes isBack noQuote
    rw [isPlace, isBefore]
    simp
    omega

/-! ### Braces -/

/-- The brace that matches an opening one: the nesting comes back there, and nowhere before. -/
structure MatchingBrace (masked : Utf16) (opening closing : Nat) : Prop where
  opens : masked[opening]? = some 123
  closes : masked[closing]? = some 125
  ahead : opening < closing
  level : nesting (slice masked opening (closing + 1)) = 0
  above : ∀ between, opening < between → between ≤ closing → 0 < nesting (slice masked opening between)

/-- From a depth of one on the nesting stays there, as long as no closing brace meets it. -/
theorem nesting_above {inside : Utf16} {depth : Int} (deep : 1 ≤ depth)
    (first : ∀ front back, inside = front ++ 125 :: back → depth + nesting front ≠ 1) (front : Utf16)
    (starts : front <+: inside) : 1 ≤ depth + nesting front := by
  induction front using List.reverseRecOn with
  | nil => simpa [nesting] using deep
  | append_singleton front unit ih =>
      obtain ⟨back, whole⟩ := starts
      have before := ih ⟨unit :: back, by rw [← whole, List.append_assoc]; rfl⟩
      rw [nesting_append]
      by_cases isClosing : unit = 125
      · subst isClosing
        have even := first front back (by rw [← whole, List.append_assoc]; rfl)
        rw [show nesting [125] = -1 from rfl]
        omega
      · by_cases isOpening : unit = 123
        · subst isOpening
          rw [show nesting [123] = 1 from rfl]
          omega
        · rw [nesting_singleton ⟨isOpening, isClosing⟩]
          omega

theorem slice_eq_of_drop {text before behind : Utf16} {start stop : Nat} (inside : start ≤ text.length)
    (rest : text.drop start = before ++ behind) (isStop : stop = start + before.length) :
    slice text start stop = before := by
  have whole : text = text.take start ++ before ++ behind := by
    rw [List.append_assoc, ← rest, List.take_append_drop]
  have length : (text.take start).length = start := by
    rw [List.length_take, Nat.min_eq_left inside]
  conv_lhs => rw [whole]
  exact slice_append length (by rw [List.length_append, length, isStop])

/-- Where the opening place is an opening brace of the mask, the braces meet at the brace that matches it. -/
theorem BracesMeet.matchingBrace {masked : Utf16} {opening closing : Nat}
    (meets : BracesMeet masked opening closing) (opens : masked[opening]? = some 123) :
    MatchingBrace masked opening closing := by
  obtain ⟨ahead, -, isClosing⟩ := meets.bounds
  obtain ⟨inside, after, whole, place, level, first⟩ := meets
  have within : opening < masked.length := (List.getElem?_eq_some_iff.mp opens).1
  obtain ⟨body, rfl⟩ : ∃ body, inside = 123 :: body := by
    cases inside with
    | nil => simp [nesting] at level
    | cons unit body =>
        rw [List.drop_eq_getElem_cons within, (List.getElem?_eq_some_iff.mp opens).2] at whole
        exact ⟨body, by rw [(List.cons.inj whole).1]⟩
  have above := @nesting_above body 1 (by omega) fun front back split even => by
    refine first (123 :: front) back (by rw [split]; rfl) ?_
    rw [← List.singleton_append, nesting_append]
    exact even
  have shown : masked.drop opening = ((123 :: body) ++ [125]) ++ after := by
    rw [whole]
    simp
  refine ⟨opens, isClosing, ahead, ?_, ?_⟩
  · rw [slice_eq_of_drop within.le shown (by simp only [List.length_append, List.length_singleton]; omega),
      nesting_append, level]
    rfl
  · intro between after' before
    rw [List.length_cons] at place
    have shown' : masked.drop opening = (123 :: body.take (between - opening - 1)) ++
        (body.drop (between - opening - 1) ++ 125 :: after) := by
      rw [whole, List.cons_append, List.cons_append, ← List.append_assoc, List.take_append_drop]
    rw [slice_eq_of_drop within.le shown' (by rw [List.length_cons, List.length_take]; omega),
      ← List.singleton_append, nesting_append, show nesting [123] = 1 from rfl]
    have deep := above _ (List.take_prefix (between - opening - 1) body)
    omega

/-- Matching braces nest: what opens between two that match closes between them. -/
theorem MatchingBrace.nest {masked : Utf16} {opening closing opening' closing' : Nat}
    (outer : MatchingBrace masked opening closing) (inner : MatchingBrace masked opening' closing')
    (behind : opening < opening') (inside : opening' < closing) : closing' ≤ closing := by
  by_contra further
  have first := outer.above opening' behind inside.le
  have second := inner.above (closing + 1) (by omega) (by omega)
  have whole : slice masked opening (closing + 1) =
      slice masked opening opening' ++ slice masked opening' (closing + 1) := by
    have within := (List.getElem?_eq_some_iff.mp inner.closes).1
    rw [slice, slice, slice, List.drop_take, List.drop_take, List.drop_take,
      show closing + 1 - opening = (opening' - opening) + (closing + 1 - opening') by omega, List.take_add,
      List.drop_drop, Nat.add_sub_cancel' behind.le]
  have level := outer.level
  rw [whole, nesting_append] at level
  omega

/-! ### Blocks -/

theorem slice_slice {text : Utf16} {start stop first last : Nat} (inside : start + last ≤ stop) :
    slice (slice text start stop) first last = slice text (start + first) (start + last) := by
  rw [slice, slice, slice, List.take_drop, List.take_take, Nat.min_eq_left inside, List.drop_drop]

/-- A block stands between two braces of the mask, and its body is what the text has there. -/
theorem findBlock_spec {masked original searchIn : Utf16} {header : Pattern UInt16} {block : JenkinsBlock}
    (found : findBlockIn masked original header searchIn = some block) :
    ∃ opening, block.bodyStart = opening + 1 ∧ masked[opening]? = some 123 ∧
      opening < block.bodyEnd ∧ block.bodyEnd < masked.length ∧ masked[block.bodyEnd]? = some 125 ∧
      block.body = slice original block.bodyStart block.bodyEnd := by
  rw [findBlockIn] at found
  split at found
  · cases found
  split at found
  · cases found
  rename_i opening isOpening
  split at found
  · cases found
  rename_i closing isClosing
  cases found
  obtain ⟨offset, rfl, -, starts, -⟩ := indexFrom_some isOpening
  obtain ⟨ahead, inside, closes⟩ := (bracesMeet_iff.mp isClosing).bounds
  refine ⟨_, rfl, ?_, ahead, inside, closes, rfl⟩
  rw [List.drop_drop] at starts
  obtain ⟨behind, shown⟩ := starts
  rw [← Nat.add_zero (_ + offset), ← List.getElem?_drop, ← shown]
  rfl

/-! ### The stages block -/

/-- The block of a text whose stages are reported: of the mask and of the text, from `start` to `stop`. -/
structure StagesBlock (text masked : Utf16) (start stop : Nat) : Prop where
  isMask : mask text true = .ok masked
  found : ∃ pipelineBlock stagesBlock,
    findBlock masked text (blockHeader (units "pipeline")) = some pipelineBlock ∧
      findBlock (slice masked pipelineBlock.bodyStart pipelineBlock.bodyEnd) pipelineBlock.body
        (blockHeader (units "stages")) = some stagesBlock ∧
      start = pipelineBlock.bodyStart + stagesBlock.bodyStart ∧
      stop = pipelineBlock.bodyStart + stagesBlock.bodyEnd

/-- Both ends of a block are outside comments and literals. -/
theorem outside_of_findBlock {text masked : Utf16} (isMask : mask text true = .ok masked)
    {header : Pattern UInt16} {block : JenkinsBlock} (found : findBlock masked text header = some block) :
    (∃ opening, block.bodyStart = opening + 1 ∧ PieceAt text opening (.code 123)) ∧
      PieceAt text block.bodyEnd (.code 125) ∧ block.bodyStart ≤ block.bodyEnd ∧
      block.bodyEnd < text.length ∧ block.body = slice text block.bodyStart block.bodyEnd := by
  obtain ⟨opening, isStart, opens, ahead, inside, closes, isBody⟩ := findBlock_spec found
  have codeOf : ∀ {place : Nat} {unit : UInt16}, masked[place]? = some unit → unit ≠ 10 → unit ≠ 32 →
      PieceAt text place (.code unit) := by
    intro place unit shown noNewline noSpace
    rcases inCode_or_inLiteral isMask shown noNewline noSpace with code | ⟨wrong, -⟩
    · exact code
    · cases wrong
  refine ⟨⟨opening, isStart, codeOf opens (by decide) (by decide)⟩,
    codeOf closes (by decide) (by decide), by omega, ?_, isBody⟩
  rw [← (mask_shown isMask).length_eq] at inside
  exact inside

/-- The body of a block lies in the text, and starts and ends outside pieces. -/
theorem StagesBlock.bounds {text masked : Utf16} {start stop : Nat}
    (block : StagesBlock text masked start stop) :
    start ≤ stop ∧ stop ≤ text.length ∧ Outside text start ∧ Outside text stop := by
  obtain ⟨outer, inner, isOuter, isInner, rfl, rfl⟩ := block.found
  obtain ⟨⟨outerOpening, outerStart, outerOpens⟩, outerCloses, outerAhead, outerInside, outerBody⟩ :=
    outside_of_findBlock block.isMask isOuter
  have first : Outside text outer.bodyStart := outerStart ▸ outerOpens.outside.2
  have second : Outside text outer.bodyEnd := outerCloses.outside.1
  have isMask := mask_slice block.isMask outerAhead first second
  rw [← outerBody] at isMask
  obtain ⟨⟨opening, isStart, opens⟩, closes, ahead, inside, -⟩ := outside_of_findBlock isMask isInner
  rw [outerBody] at opens closes inside
  rw [length_slice outerInside.le] at inside
  have opens' := opens.in_whole outerAhead first second
  have closes' := closes.in_whole outerAhead first second
  refine ⟨by omega, by omega, ?_, closes'.outside.1⟩
  rw [isStart, ← Nat.add_assoc]
  exact opens'.outside.2

/-- What is reported of an accepted text is read from its stages block. -/
theorem exists_stagesBlock {text : Utf16} {pipeline : JenkinsPipeline}
    (accepted : parseJenkinsfile text = .ok pipeline) :
    ∃ masked start stop, StagesBlock text masked start stop ∧
      pipeline.stages = readStages (slice masked start stop) (slice text start stop) := by
  rw [parseJenkinsfile] at accepted
  split at accepted
  · cases accepted
  rename_i masked isMask
  split at accepted
  · cases accepted
  split at accepted
  · cases accepted
  rename_i outer isOuter
  dsimp only at accepted
  split at accepted
  · cases accepted
  rename_i inner isInner
  cases accepted
  refine ⟨masked, _, _, ⟨isMask, outer, inner, isOuter, isInner, rfl, rfl⟩, ?_⟩
  obtain ⟨⟨outerOpening, outerStart, outerOpens⟩, outerCloses, outerAhead, outerInside, outerBody⟩ :=
    outside_of_findBlock isMask isOuter
  have maskOfBody := mask_slice isMask outerAhead (outerStart ▸ outerOpens.outside.2)
    outerCloses.outside.1
  rw [← outerBody] at maskOfBody
  obtain ⟨-, -, -, inside, innerBody⟩ := outside_of_findBlock maskOfBody isInner
  rw [outerBody, length_slice outerInside.le] at inside
  rw [innerBody, outerBody, slice_slice (by omega), slice_slice (by omega)]

/-! ### Reported stages -/

/-- A reported stage in a block: its word and its brace, the brace that matches where this one is code, and
    its steps between the two. -/
structure StageAt (text : Utf16) (start : Nat) (maskedStages stagesBody : Utf16) (span : StageSpan) :
    Prop where
  word : units "stage" <+: stagesBody.drop span.keyword
  brace : stagesBody[span.opening]? = some 123
  ahead : span.keyword < span.opening ∧ span.opening < span.closing ∧ span.closing < stagesBody.length
  matching : InCode text (start + span.opening) → MatchingBrace maskedStages span.opening span.closing
  steps : ∀ order body, (readStage maskedStages stagesBody order span).stepsBody = some body →
    ∃ first last, span.opening < first ∧ first ≤ last ∧ last ≤ span.closing ∧
      body = slice stagesBody first last

/-- The word of a header stands in no literal, and the quote that ends its name is not an escaped one in a
    literal that goes on to the brace. -/
structure HeaderInCode (text : Utf16) (start : Nat) (uncommented : Utf16) (header : HeaderPlaces) : Prop where
  word : ¬ InLiteral text (start + header.word)
  name : ¬ (endsEscaped (slice uncommented header.nameStart header.nameEnd) = true ∧
    10 ∉ slice uncommented header.nameEnd header.opening)

theorem prefix_of_shown {text shown word : Utf16} (isShown : List.Forall₂ Shown text shown)
    (visible : 32 ∉ word) (starts : word <+: shown) : word <+: text := by
  induction isShown generalizing word with
  | nil => exact starts
  | @cons unit other _ _ same _ ih =>
      cases word with
      | nil => exact List.nil_prefix
      | cons first word =>
          obtain ⟨rfl, behind⟩ := List.cons_prefix_cons.mp starts
          rw [List.mem_cons, not_or] at visible
          rcases same with rfl | ⟨space, -⟩
          · exact List.cons_prefix_cons.mpr ⟨rfl, ih visible.2 behind⟩
          · exact absurd space.symm visible.1

/-- The mask and the text of a block are as long as the text without comments. -/
structure SameLength (maskedStages stagesBody : Utf16) : Prop where
  mask : maskedStages.length = (stripComments stagesBody).length
  body : stagesBody.length = (stripComments stagesBody).length

/-- A stages block read as a text of its own: its masks, and where its places are in the whole. -/
structure BlockRead (text : Utf16) (start : Nat) (maskedStages stagesBody : Utf16) : Prop where
  isMask : mask stagesBody true = .ok maskedStages
  isUncommented : mask stagesBody false = .ok (stripComments stagesBody)
  same : SameLength maskedStages stagesBody
  pieces : ∀ place < stagesBody.length, ∀ piece,
    PieceAt stagesBody place piece ↔ PieceAt text (start + place) piece

/-- What is read of a block is its stretch of the text and of the masked text. -/
theorem StagesBlock.read {text masked : Utf16} {start stop : Nat}
    (block : StagesBlock text masked start stop) :
    BlockRead text start (slice masked start stop) (slice text start stop) := by
  obtain ⟨ahead, inside, first, second⟩ := block.bounds
  have isMask := mask_slice block.isMask ahead first second
  obtain ⟨pieces, lexes, -⟩ := mask_eq_ok_iff.mp isMask
  have uncommented : mask (slice text start stop) false = .ok _ := mask_eq_ok_iff.mpr ⟨pieces, lexes, rfl⟩
  have isUncommented : mask (slice text start stop) false = .ok (stripComments (slice text start stop)) := by
    rw [stripComments, uncommented]
  have lengths := (mask_shown isUncommented).length_eq
  refine ⟨isMask, isUncommented, ⟨?_, lengths⟩, ?_⟩
  · rw [← lengths]
    exact (mask_shown isMask).length_eq.symm
  · intro place within piece
    rw [length_slice inside] at within
    exact pieceAt_slice_iff ahead inside first second (by omega)

section Read

variable {text maskedStages stagesBody : Utf16} {start : Nat}

/-- A place of the body is code exactly if it is in the text. -/
theorem BlockRead.inCode_iff (read : BlockRead text start maskedStages stagesBody) {place : Nat}
    (inside : place < stagesBody.length) : InCode text (start + place) ↔ InCode stagesBody place :=
  exists_congr fun unit => (read.pieces place inside (.code unit)).symm

/-- A place of the body is in a literal exactly if it is in the text. -/
theorem BlockRead.inLiteral_iff (read : BlockRead text start maskedStages stagesBody) {place : Nat}
    (inside : place < stagesBody.length) : InLiteral text (start + place) ↔ InLiteral stagesBody place :=
  exists_congr fun literal => (read.pieces place inside (.literal literal)).symm

/-- A whole header in parts. -/
theorem WholeHeader.stageHeader {masked uncommented : Utf16} {header : HeaderPlaces}
    (whole : WholeHeader masked uncommented header) :
    ∃ front gap name gap' rest quote, StageHeader uncommented front gap name gap' rest quote ∧
      front.length = header.word ∧ (front ++ (units "stage" ++ gap)).length + 1 = header.nameStart ∧
      header.nameStart + name.length = header.nameEnd ∧
      (front ++ (units "stage" ++ (gap ++ quote :: (name ++ quote :: gap')))).length = header.opening := by
  obtain ⟨quote, starts, ends⟩ := whole.written
  have bounds := starts.bounds
  obtain ⟨isQuote, gap, middle, rest, gapBlank, middleBlank, written, isName⟩ := starts
  obtain ⟨name, gap', middle', rest', free, oneLine, gapBlank', middleBlank', behind, isEnd, isOpening⟩ := ends
  have isRest : rest = name ++ quote :: (gap' ++ 41 :: (middle' ++ 123 :: rest')) := by
    rw [← behind, isName, ← List.drop_drop, written,
      show units "stage" ++ (gap ++ 40 :: (middle ++ quote :: rest)) =
        (units "stage" ++ (gap ++ 40 :: (middle ++ [quote]))) ++ rest by simp, List.drop_left]
  have isFront : (uncommented.take header.word).length = header.word := by
    rw [List.length_take]
    omega
  refine ⟨uncommented.take header.word, gap ++ 40 :: middle, name, gap' ++ 41 :: middle', rest', quote,
    ⟨?_, ?_, ?_, isQuote, free, oneLine⟩, isFront, ?_, isEnd.symm, ?_⟩
  · conv_lhs => rw [← List.take_append_drop header.word uncommented, written, isRest]
    simp
  · intro unit member
    rcases List.mem_append.mp member with inGap | rest
    · exact .inl (gapBlank unit inGap)
    · rcases List.mem_cons.mp rest with rfl | inMiddle
      · exact .inr rfl
      · exact .inl (middleBlank unit inMiddle)
  · intro unit member
    rcases List.mem_append.mp member with inGap | rest
    · exact .inl (gapBlank' unit inGap)
    · rcases List.mem_cons.mp rest with rfl | inMiddle
      · exact .inr rfl
      · exact .inl (middleBlank' unit inMiddle)
  · rw [List.length_append, isFront, isName]
    simp only [List.length_append, List.length_cons, List.length_nil]
    omega
  · rw [List.length_append, isFront, isOpening, isEnd, isName]
    simp only [List.length_append, List.length_cons, List.length_nil]
    omega

/-- The word and the brace of a whole header are both code, or the header is in a literal or its name ends
    at an escaped quote. -/
theorem BlockRead.header_inCode_iff (read : BlockRead text start maskedStages stagesBody)
    {header : HeaderPlaces} (whole : WholeHeader maskedStages (stripComments stagesBody) header) :
    (InCode text (start + header.word) ∧ InCode text (start + header.opening)) ↔
      HeaderInCode text start (stripComments stagesBody) header := by
  have bounds := whole.bounds
  obtain ⟨front, gap, name, gap', rest, quote, parts, isWord, isName, isEnd, isOpening⟩ := whole.stageHeader
  rw [read.same.mask, ← read.same.body] at bounds
  have wordInside : header.word < stagesBody.length := by omega
  have openingInside : header.opening < stagesBody.length := by omega
  rw [read.inCode_iff wordInside, read.inCode_iff openingInside]
  have isNameText : slice (stripComments stagesBody) header.nameStart header.nameEnd = name := by
    have split : stripComments stagesBody = (front ++ (units "stage" ++ (gap ++ [quote]))) ++ name ++
        (quote :: (gap' ++ 123 :: rest)) := by
      rw [parts.whole]
      simp
    have isStart : (front ++ (units "stage" ++ (gap ++ [quote]))).length = header.nameStart := by
      rw [← isName]
      simp only [List.length_append, List.length_cons, List.length_nil]
      omega
    rw [split]
    exact slice_append isStart (by rw [List.length_append, isStart, isEnd])
  have isGap : slice (stripComments stagesBody) header.nameEnd header.opening = quote :: gap' := by
    have split : stripComments stagesBody = (front ++ (units "stage" ++ (gap ++ quote :: name))) ++
        (quote :: gap') ++ (123 :: rest) := by
      rw [parts.whole]
      simp
    rw [split]
    apply slice_append
    · rw [← isEnd, ← isName]
      simp only [List.length_append, List.length_cons]
      omega
    · rw [← isOpening]
      simp
  have noNewline : 10 ∉ quote :: gap' ↔ 10 ∉ gap' := by
    rw [List.mem_cons, not_or, and_iff_right]
    rcases parts.isQuote with rfl | rfl <;> decide
  have ends (word : InCode stagesBody header.word) := by
    rw [← isWord] at word
    exact brace_inCode_iff read.isUncommented parts word isOpening.symm
  constructor
  · rintro ⟨word, brace⟩
    refine ⟨fun literal => ?_, ?_⟩
    · exact not_inLiteral_of_inCode word ((read.inLiteral_iff wordInside).mp literal)
    · rw [isNameText, isGap, noNewline]
      exact (ends word).mp brace
  · rintro ⟨word, escaped⟩
    obtain ⟨quote', starts, -⟩ := whole.written
    have isCode : InCode stagesBody header.word := by
      rcases inCode_or_inLiteral read.isUncommented starts.at_word (by decide) (by decide) with
        code | ⟨-, literal⟩
      · exact ⟨115, code⟩
      · exact absurd ((read.inLiteral_iff wordInside).mpr literal) word
    rw [isNameText, isGap, noNewline] at escaped
    exact ⟨isCode, (ends isCode).mpr escaped⟩

/-- Between the word and the brace of a header whose word is code, what is code is neither the first letter
    of a word nor a closing brace. -/
theorem BlockRead.code_in_header (read : BlockRead text start maskedStages stagesBody)
    {header : HeaderPlaces} (whole : WholeHeader maskedStages (stripComments stagesBody) header)
    (word : InCode stagesBody header.word) {place : Nat} (code : InCode stagesBody place)
    (behind : header.word < place) (ahead : place ≤ header.opening) :
    ∃ unit, (stripComments stagesBody)[place]? = some unit ∧ unit ≠ 115 ∧ unit ≠ 125 := by
  obtain ⟨quote, starts, ends⟩ := whole.written
  obtain ⟨front, gap, name, gap', rest, quote', parts, isWord, isName, isEnd, -⟩ := whole.stageHeader
  by_cases inFront : place < header.nameStart
  · obtain ⟨unit, isUnit, noS, noBrace, -⟩ := starts.unit_at behind inFront
    exact ⟨unit, isUnit, noS, noBrace⟩
  · by_cases inName : place ≤ header.nameEnd
    · rw [← isWord] at word
      exact absurd (name_inLiteral read.isUncommented parts word (by omega) (by omega))
        (not_inLiteral_of_inCode code)
    · exact ends.unit_at (Nat.not_le.mp inName) ahead

/-- What closes a brace of the mask is code, and shown in the text without comments. -/
theorem BlockRead.closing_shown (read : BlockRead text start maskedStages stagesBody) (place : Nat)
    (isClosing : maskedStages[place]? = some 125) :
    PieceAt stagesBody place (.code 125) ∧ (stripComments stagesBody)[place]? = some 125 := by
  rcases inCode_or_inLiteral read.isMask isClosing (by decide) (by decide) with code | ⟨wrong, -⟩
  · exact ⟨code, masked_of_code read.isUncommented code⟩
  · cases wrong

/-- The brace of a header is shown in the text without comments. -/
theorem WholeHeader.at_opening {masked uncommented : Utf16} {header : HeaderPlaces}
    (whole : WholeHeader masked uncommented header) : uncommented[header.opening]? = some 123 := by
  obtain ⟨front, gap, name, gap', rest, quote, parts, -, -, -, isOpening⟩ := whole.stageHeader
  have split : uncommented =
      (front ++ (units "stage" ++ (gap ++ quote :: (name ++ quote :: gap')))) ++ 123 :: rest := by
    rw [parts.whole]
    simp
  rw [split, ← isOpening, List.getElem?_append_right (Nat.le_refl _), Nat.sub_self]
  rfl

/-- The braces of a header whose brace is code meet. -/
theorem BlockRead.matching (read : BlockRead text start maskedStages stagesBody) {header : HeaderPlaces}
    (whole : WholeHeader maskedStages (stripComments stagesBody) header)
    (brace : InCode stagesBody header.opening) : MatchingBrace maskedStages header.opening header.closing := by
  obtain ⟨unit, code⟩ := brace
  have same := (masked_of_code read.isUncommented code).symm.trans whole.at_opening
  cases same
  exact whole.closes.matchingBrace (masked_of_code read.isMask code)

/-- Stages whose headers are code nest. -/
theorem BlockRead.nests (read : BlockRead text start maskedStages stagesBody) {inner outer : HeaderPlaces}
    (wholeInner : WholeHeader maskedStages (stripComments stagesBody) inner)
    (wholeOuter : WholeHeader maskedStages (stripComments stagesBody) outer)
    (codeInner : HeaderInCode text start (stripComments stagesBody) inner)
    (codeOuter : HeaderInCode text start (stripComments stagesBody) outer) (behind : outer.word < inner.word)
    (inside : inner.word < outer.closing) : inner.closing ≤ outer.closing := by
  have wideInner := wholeInner.bounds
  have wideOuter := wholeOuter.bounds
  rw [read.same.mask, ← read.same.body] at wideInner wideOuter
  obtain ⟨wordInner, braceInner⟩ := (read.header_inCode_iff wholeInner).mpr codeInner
  obtain ⟨wordOuter, braceOuter⟩ := (read.header_inCode_iff wholeOuter).mpr codeOuter
  rw [read.inCode_iff (by omega)] at wordInner braceInner wordOuter braceOuter
  have apart : outer.opening < inner.word := by
    by_contra within
    obtain ⟨unit, isUnit, noS, -⟩ :=
      read.code_in_header wholeOuter wordOuter wordInner behind (Nat.not_lt.mp within)
    obtain ⟨quote, starts, -⟩ := wholeInner.written
    rw [starts.at_word] at isUnit
    exact noS (Option.some.inj isUnit).symm
  have closes : inner.opening < outer.closing := by
    by_contra within
    obtain ⟨code, isShown⟩ := read.closing_shown _ wholeOuter.closes.bounds.2.2
    obtain ⟨unit, isUnit, -, noBrace⟩ :=
      read.code_in_header wholeInner wordInner ⟨125, code⟩ inside (Nat.not_lt.mp within)
    rw [isShown] at isUnit
    exact noBrace (Option.some.inj isUnit).symm
  exact (read.matching wholeOuter braceOuter).nest (read.matching wholeInner braceInner) (by omega) closes

/-- A reported stage stands in the block as its header does. -/
theorem BlockRead.stageAt (read : BlockRead text start maskedStages stagesBody) {header : HeaderPlaces}
    (whole : WholeHeader maskedStages (stripComments stagesBody) header) {span : StageSpan}
    (report : ReportOf stagesBody header span) : StageAt text start maskedStages stagesBody span := by
  have bounds := whole.bounds
  have closesInside := bounds.2.2.2.2
  rw [read.same.mask, ← read.same.body] at bounds
  obtain ⟨isWord, -, isOpening, isClosing⟩ := report
  have shown := mask_shown read.isUncommented
  refine ⟨?_, ?_, by omega, ?_, ?_⟩
  · refine prefix_of_shown (List.forall₂_drop span.keyword shown) (by decide) ?_
    obtain ⟨quote, ⟨-, gap, middle, rest, -, -, written, -⟩, -⟩ := whole.written
    rw [isWord, written]
    exact List.prefix_append _ _
  · have braceShown := whole.at_opening
    have starts : [123] <+: stagesBody.drop header.opening := by
      refine prefix_of_shown (List.forall₂_drop header.opening shown) (by decide) ?_
      rw [List.drop_eq_getElem_cons (List.getElem?_eq_some_iff.mp braceShown).1,
        (List.getElem?_eq_some_iff.mp braceShown).2]
      exact ⟨_, rfl⟩
    obtain ⟨behind, isBehind⟩ := starts
    rw [isOpening, ← Nat.add_zero header.opening, ← List.getElem?_drop, ← isBehind]
    rfl
  · intro code
    rw [isOpening] at code
    rw [isOpening, isClosing]
    exact read.matching whole ((read.inCode_iff (by omega)).mp code)
  · intro order body isSteps
    rw [readStage, Option.map_eq_some_iff] at isSteps
    obtain ⟨block, isBlock, rfl⟩ := isSteps
    obtain ⟨opening, isStart, -, ahead, within, -, isBody⟩ := findBlock_spec isBlock
    rw [isClosing, isOpening] at within isBody
    rw [length_slice closesInside.le] at within
    refine ⟨span.opening + 1 + block.bodyStart, span.opening + 1 + block.bodyEnd, by omega, by omega,
      by omega, ?_⟩
    rw [isBody, isOpening, slice_slice (by omega)]

end Read

/-- Only real stages are read, as far as no literal hides a header. For an accepted text every stage that is
    reported has its steps between a brace and the brace that matches it, in file order and none inside
    another; and all their words and braces are code exactly where each whole header of the stages block that
    stands in a string literal, or whose name ends at an escaped quote of a literal that goes on to the
    brace, stands between the word and the closing brace of a whole header that is code. -/
theorem real_stages_iff {text : Utf16} {pipeline : JenkinsPipeline}
    (accepted : parseJenkinsfile text = .ok pipeline) :
    ∃ masked start stop maskedStages stagesBody, StagesBlock text masked start stop ∧
      maskedStages = slice masked start stop ∧ stagesBody = slice text start stop ∧
      pipeline.stages = (stageSpans maskedStages stagesBody).mapIdx (fun index span =>
        readStage maskedStages stagesBody (index + 1) span) ∧
      (∀ span ∈ stageSpans maskedStages stagesBody, StageAt text start maskedStages stagesBody span) ∧
      (stageSpans maskedStages stagesBody).Pairwise (fun one other => one.closing < other.keyword) ∧
      ((∀ span ∈ stageSpans maskedStages stagesBody,
          InCode text (start + span.keyword) ∧ InCode text (start + span.opening)) ↔
        ∀ header, WholeHeader maskedStages (stripComments stagesBody) header →
          ¬ HeaderInCode text start (stripComments stagesBody) header →
          ∃ outer, WholeHeader maskedStages (stripComments stagesBody) outer ∧
            HeaderInCode text start (stripComments stagesBody) outer ∧ outer.word < header.word ∧
            header.word < outer.closing) := by
  obtain ⟨masked, start, stop, block, stages⟩ := exists_stagesBlock accepted
  have read := block.read
  have shown := fun place isClosing => (read.closing_shown place isClosing).2
  refine ⟨masked, start, stop, _, _, block, rfl, rfl, stages, ?_, ?_, ?_⟩
  · intro span member
    obtain ⟨header, whole, report, -⟩ := exists_wholeHeader_of_mem shown (.inl rfl) member
    exact read.stageAt whole report
  · exact stageSpansFrom_ordered shown (.inl rfl)
  · rw [← all_reported_iff shown (Nat.le_refl _) fun inner outer wholeInner wholeOuter => read.nests wholeInner wholeOuter]
    constructor
    · intro inCode span member header whole report
      have code := inCode span member
      rw [report.word, report.opening] at code
      exact (read.header_inCode_iff whole).mp code
    · intro headers span member
      obtain ⟨header, whole, report, -⟩ := exists_wholeHeader_of_mem shown (.inl rfl) member
      rw [report.word, report.opening]
      exact (read.header_inCode_iff whole).mpr (headers span member header whole report)

/-- A header in the text of an `echo` that is a step of a stage. -/
def echoingStage : Utf16 :=
  units "pipeline \x7b stages \x7b stage('A') \x7b steps \x7b echo \"stage('X') \x7b\" \x7d \x7d \x7d \x7d"

/-- The stage that echoes is the one that is reported, so the header it echoes stands in it. -/
theorem real_stages_iff_echoing :
    ∃ masked start stop, StagesBlock echoingStage masked start stop ∧
      (∀ span ∈ stageSpans (slice masked start stop) (slice echoingStage start stop),
        StageAt echoingStage start (slice masked start stop) (slice echoingStage start stop) span) ∧
      ∀ header,
        WholeHeader (slice masked start stop) (stripComments (slice echoingStage start stop)) header →
        ¬ HeaderInCode echoingStage start (stripComments (slice echoingStage start stop)) header →
        ∃ outer, WholeHeader (slice masked start stop) (stripComments (slice echoingStage start stop)) outer ∧
          HeaderInCode echoingStage start (stripComments (slice echoingStage start stop)) outer ∧
          outer.word < header.word ∧ header.word < outer.closing := by
  have accepted : parseJenkinsfile echoingStage =
      .ok ⟨none, [⟨units "A", 1, some (units " echo \"stage('X') \x7b\" "), [], false, false⟩], [],
        [units "stages"], false⟩ := by
    decide +kernel
  obtain ⟨masked, start, stop, _, _, block, rfl, rfl, -, stands, -, inCode⟩ := real_stages_iff accepted
  refine ⟨masked, start, stop, block, stands, inCode.mp ?_⟩
  have mask_eq : mask echoingStage true = .ok (blankCommentsAndStrings echoingStage) := by decide +kernel
  obtain rfl : blankCommentsAndStrings echoingStage = masked := Except.ok.inj (mask_eq.symm.trans block.isMask)
  obtain ⟨outer, inner, isOuter, isInner, rfl, rfl⟩ := block.found
  have outerAt : findBlock (blankCommentsAndStrings echoingStage) echoingStage
      (blockHeader (units "pipeline")) = some ⟨10, 67, slice echoingStage 10 67⟩ := by decide +kernel
  obtain rfl := Option.some.inj (outerAt.symm.trans isOuter)
  have innerAt : findBlock (slice (blankCommentsAndStrings echoingStage) 10 67) (slice echoingStage 10 67)
      (blockHeader (units "stages")) = some ⟨9, 55, slice echoingStage 19 65⟩ := by decide +kernel
  obtain rfl := Option.some.inj (innerAt.symm.trans isInner)
  have reported : stageSpans (slice (blankCommentsAndStrings echoingStage) 19 65) (slice echoingStage 19 65) =
      [⟨1, units "A", 12, 44⟩] := by decide +kernel
  have shown : (blankCommentsAndStrings echoingStage)[20]? = some 115 ∧
      (blankCommentsAndStrings echoingStage)[31]? = some 123 := by decide +kernel
  have codeAt : ∀ {place : Nat} {unit : UInt16}, (blankCommentsAndStrings echoingStage)[place]? = some unit →
      unit ≠ 10 → unit ≠ 32 → InCode echoingStage place := by
    intro place unit isShown noNewline noSpace
    rcases inCode_or_inLiteral block.isMask isShown noNewline noSpace with code | ⟨wrong, -⟩
    · exact ⟨unit, code⟩
    · cases wrong
  intro span member
  rw [show (10 : Nat) + 9 = 19 from rfl, show (10 : Nat) + 55 = 65 from rfl, reported,
    List.mem_singleton] at member
  subst member
  exact ⟨codeAt shown.1 (by decide) (by decide), codeAt shown.2 (by decide) (by decide)⟩

/-- A header in the text of an `echo`, in front of a stage. -/
def echoedHeader : Utf16 :=
  units "pipeline \x7b stages \x7b echo \"stage('X') \x7b\" stage('A') \x7b steps \x7b a \x7d \x7d \x7d \x7d"

/-- What is echoed is the one stage that is reported, with the steps of the stage behind it. -/
theorem stage_in_literal :
    ∃ pipeline masked start stop, parseJenkinsfile echoedHeader = .ok pipeline ∧
      pipeline.stages.map JenkinsStage.name = [units "X"] ∧
      StagesBlock echoedHeader masked start stop ∧
      ∃ span ∈ stageSpans (slice masked start stop) (slice echoedHeader start stop),
        ¬ InCode echoedHeader (start + span.keyword) := by
  have isMask : mask echoedHeader true = .ok (blankCommentsAndStrings echoedHeader) := by
    have succeeds : (mask echoedHeader true).isOk = true := by decide +kernel
    rw [blankCommentsAndStrings]
    cases masked : mask echoedHeader true with
    | ok masked => rfl
    | error failure =>
        rw [masked] at succeeds
        cases succeeds
  have accepted : parseJenkinsfile echoedHeader =
      .ok ⟨none, [⟨units "X", 1, some (units " a "), [], false, false⟩], [], [units "stages"], false⟩ := by
    decide +kernel
  have outer : findBlock (blankCommentsAndStrings echoedHeader) echoedHeader
      (blockHeader (units "pipeline")) = some ⟨10, 69, slice echoedHeader 10 69⟩ := by decide +kernel
  have inner : findBlock (slice (blankCommentsAndStrings echoedHeader) 10 69) (slice echoedHeader 10 69)
      (blockHeader (units "stages")) = some ⟨9, 57, slice echoedHeader 19 67⟩ := by decide +kernel
  have reported : ⟨7, units "X", 18, 46⟩ ∈
      stageSpans (slice (blankCommentsAndStrings echoedHeader) 19 67) (slice echoedHeader 19 67) := by
    decide +kernel
  have uncommented : mask echoedHeader false = .ok echoedHeader := by decide +kernel
  have differ : (blankCommentsAndStrings echoedHeader)[26]? ≠ echoedHeader[26]? := by decide +kernel
  have block : StagesBlock echoedHeader (blankCommentsAndStrings echoedHeader) 19 67 :=
    ⟨isMask, _, _, outer, inner, rfl, rfl⟩
  refine ⟨_, _, 19, 67, accepted, rfl, block, _, reported, ?_⟩
  rintro ⟨unit, code⟩
  exact differ ((masked_of_code isMask code).trans (masked_of_code uncommented code).symm)

end JumptotechLabs.Verifier
