/-
Module: JumptotechLabs.Verifier.JenkinsMasks
Layer: Verifier (services/verifier/src/ci/jenkinsfile.ts)
Purpose: What the masks of a Jenkinsfile keep. A text is taken apart into pieces once; its masks are made
  piece by piece, so they keep offsets, are their own masks, and go with cutting the text between pieces.
  The mask of the top level goes over code points and keeps offsets only where no pair of surrogates is
  hidden.
Main exports: Lexes, Outside, cutAtText_eq_some_iff, nextPiece_eq_ok, mask_eq_ok_iff, Lexes.of_front,
  Lexes.of_back, Lexes.remasked, HidesPair, masks_keep_offsets_iff
-/
import JumptotechLabs.Verifier.Jenkinsfile

namespace JumptotechLabs.Verifier

open JumptotechLabs.Core
open JumptotechLabs.Core.Utf16 (isHighSurrogate isLowSurrogate)

/-! ### Cuts -/

theorem cutAtText_eq_some_iff {needle text before after : Utf16} :
    cutAtText needle text = some (before, after) ↔
      text = before ++ (needle ++ after) ∧
        ∀ place < before.length, ¬ needle <+: (before ++ needle).drop place := by
  -- What stands at a place in front of the cut does not depend on what follows it.
  have within : ∀ (front behind : Utf16) place, place < front.length →
      (needle <+: (front ++ (needle ++ behind)).drop place ↔ needle <+: (front ++ needle).drop place) := by
    intro front behind place before
    rw [← List.append_assoc, List.drop_append_of_le_length (by simp; omega)]
    constructor
    · intro starts
      exact List.prefix_of_prefix_length_le starts (List.prefix_append _ _) (by simp; omega)
    · intro starts
      exact starts.trans (List.prefix_append _ _)
  rw [cutAtText, Option.map_eq_some_iff]
  constructor
  · rintro ⟨index, found, same⟩
    cases same
    obtain ⟨-, inside, starts, earlier⟩ := indexOf_some found (Nat.zero_le _)
    obtain ⟨behind, isBehind⟩ := starts
    have rest : text.drop (index + needle.length) = behind := by
      rw [← List.drop_drop, ← isBehind, List.drop_left]
    have whole : text = text.take index ++ (needle ++ behind) := by
      rw [isBehind, List.take_append_drop]
    have length : (text.take index).length = index := by
      rw [List.length_take, Nat.min_eq_left inside]
    rw [rest]
    refine ⟨whole, ?_⟩
    intro place before
    rw [← within _ behind place before, ← whole]
    exact earlier place (Nat.zero_le _) (length ▸ before)
  · rintro ⟨rfl, earlier⟩
    refine ⟨before.length, ?_, by simp⟩
    have here : needle <+: (before ++ (needle ++ after)).drop before.length := by
      rw [List.drop_left]
      exact List.prefix_append _ _
    cases found : indexOf (before ++ (needle ++ after)) needle 0 with
    | none => exact absurd here (indexOf_none found before.length (Nat.zero_le _))
    | some index =>
        obtain ⟨-, -, starts, first⟩ := indexOf_some found (Nat.zero_le _)
        rcases Nat.lt_trichotomy index before.length with less | equal | more
        · rw [within _ _ index less] at starts
          exact absurd starts (earlier index less)
        · rw [equal]
        · exact absurd here (first before.length (Nat.zero_le _) more)

theorem cutAtText_append {needle text before after : Utf16}
    (cut : cutAtText needle text = some (before, after)) (behind : Utf16) :
    cutAtText needle (before ++ (needle ++ behind)) = some (before, behind) :=
  cutAtText_eq_some_iff.mpr ⟨rfl, (cutAtText_eq_some_iff.mp cut).2⟩

/-! ### One piece -/

/-- What may stand behind a piece in the place of what did: nothing where there was nothing, and a first
    unit that is the same, or a space where there was no newline. -/
structure Follows (behind other : Utf16) : Prop where
  nothing : behind = [] → other = []
  head : ∀ unit ∈ other.head?, behind.head? = some unit ∨ (unit = 32 ∧ behind.head? ≠ some 10)

theorem Follows.head?_ne {behind other : Utf16} (follows : Follows behind other) {unit : UInt16}
    (visible : unit ≠ 32) (absent : behind.head? ≠ some unit) : other.head? ≠ some unit := by
  intro present
  rcases follows.head unit present with same | ⟨space, -⟩
  · exact absent same
  · exact visible space

/-- A literal ends where it does whatever follows, unless it ran to the end of the text. -/
theorem quotedRest_spec (quote : UInt16) (rest : Utf16) :
    rest = (quotedRest quote rest).1 ++ (quotedRest quote rest).2 ∧
      (rest ≠ [] → (quotedRest quote rest).1 ≠ []) ∧
      ∀ other, ((quotedRest quote rest).2 = [] → other = []) →
        quotedRest quote ((quotedRest quote rest).1 ++ other) = ((quotedRest quote rest).1, other) := by
  induction rest using quotedRest.induct quote with
  | case1 =>
      refine ⟨rfl, fun nonempty => absurd rfl nonempty, fun other ends => ?_⟩
      cases ends rfl
      rfl
  | case2 unit =>
      refine ⟨rfl, fun _ => List.cons_ne_nil _ _, fun other ends => ?_⟩
      cases ends rfl
      rfl
  | case3 next rest inside behind same ih =>
      rw [same] at ih
      obtain ⟨whole, -, again⟩ := ih
      have step : quotedRest quote (92 :: next :: rest) = (92 :: next :: inside, behind) := by
        rw [quotedRest, if_pos rfl, same]
      rw [step]
      refine ⟨by rw [whole]; rfl, fun _ => List.cons_ne_nil _ _, fun other ends => ?_⟩
      change quotedRest quote (92 :: next :: (inside ++ other)) = _
      rw [quotedRest, if_pos rfl, again other ends]
  | case4 unit next rest plain ends =>
      have step : quotedRest quote (unit :: next :: rest) = ([unit], next :: rest) := by
        rw [quotedRest, if_neg plain, if_pos ends]
      rw [step]
      refine ⟨rfl, fun _ => List.cons_ne_nil _ _, fun other _ => ?_⟩
      cases other with
      | nil => rfl
      | cons first others =>
          change quotedRest quote (unit :: first :: others) = _
          rw [quotedRest, if_neg plain, if_pos ends]
  | case5 unit next rest plain goesOn inside behind same ih =>
      rw [same] at ih
      obtain ⟨whole, nonempty, again⟩ := ih
      have step : quotedRest quote (unit :: next :: rest) = (unit :: inside, behind) := by
        rw [quotedRest, if_neg plain, if_neg goesOn, same]
      rw [step]
      refine ⟨by rw [whole]; rfl, fun _ => List.cons_ne_nil _ _, fun other ends => ?_⟩
      obtain ⟨first, others, rfl⟩ := List.exists_cons_of_ne_nil (nonempty (List.cons_ne_nil _ _))
      have rejoined := again other ends
      change quotedRest quote (unit :: first :: (others ++ other)) = _
      rw [quotedRest, if_neg plain, if_neg goesOn]
      rw [List.cons_append] at rejoined
      rw [rejoined]

/-- A line comment ends at a newline or with the text. -/
theorem nextPiece_lineComment {rest other : Utf16} (opens : rest.head? = some 47)
    (follows : Follows (rest.dropWhile (· != 10)) other) :
    nextPiece 47 (rest.takeWhile (· != 10) ++ other) =
      .ok (.comment (47 :: rest.takeWhile (· != 10)), other) := by
  obtain ⟨line, rfl⟩ : ∃ line, rest = 47 :: line := List.head?_eq_some_iff.mp opens
  have inLine : ∀ unit ∈ (47 :: line : Utf16).takeWhile (· != 10), (unit != 10) = true :=
    fun unit inside => List.mem_takeWhile_imp (p := fun unit => unit != 10) inside
  have stops : ∀ unit ∈ other.head?, unit = 10 := by
    intro unit present
    have ends := List.head?_dropWhile_not (· != (10 : UInt16)) (47 :: line)
    rcases follows.head unit present with same | ⟨-, noNewline⟩
    · rw [same] at ends
      simpa using ends
    · cases dropped : (47 :: line : Utf16).dropWhile (· != 10) with
      | nil =>
          rw [follows.nothing dropped] at present
          cases present
      | cons head tail =>
          rw [dropped] at ends noNewline
          exact absurd (by simpa using ends) (fun newline : head = 10 => noNewline (by rw [newline]; rfl))
  have taken : other.takeWhile (· != 10) = [] ∧ other.dropWhile (· != 10) = other := by
    cases other with
    | nil => exact ⟨rfl, rfl⟩
    | cons unit others =>
        cases stops unit rfl
        exact ⟨rfl, rfl⟩
  have head : ((47 :: line : Utf16).takeWhile (· != 10) ++ other).head? = some 47 := rfl
  rw [nextPiece, if_pos ⟨rfl, head⟩, List.takeWhile_append_of_pos inLine,
    List.dropWhile_append_of_pos inLine, taken.1, taken.2, List.append_nil]

theorem nextPiece_blockComment {rest inside behind : Utf16}
    (cut : cutAtText [42, 47] rest.tail = some (inside, behind)) (other : Utf16) :
    nextPiece 47 (42 :: (inside ++ [42, 47]) ++ other) =
      .ok (.comment (47 :: 42 :: (inside ++ [42, 47])), other) := by
  rw [nextPiece, if_neg (by simp), if_pos ⟨rfl, rfl⟩]
  have again := cutAtText_append cut other
  rw [List.cons_append, List.tail_cons, List.append_assoc, again]

theorem nextPiece_triple {first : UInt16} (quote : first = 39 ∨ first = 34) {rest inside behind : Utf16}
    (cut : cutAtText [first, first, first] (rest.drop 2) = some (inside, behind)) (other : Utf16) :
    nextPiece first (first :: first :: (inside ++ [first, first, first]) ++ other) =
      .ok (.literal ([first, first, first] ++ inside ++ [first, first, first]), other) := by
  have noSlash : first ≠ 47 := by rcases quote with rfl | rfl <;> decide
  rw [nextPiece, if_neg (fun slash => noSlash slash.1), if_neg (fun slash => noSlash slash.1),
    if_pos quote, if_pos ⟨inside ++ [first, first, first] ++ other, by simp⟩]
  have again := cutAtText_append cut other
  rw [List.cons_append, List.cons_append, List.drop_succ_cons, List.drop_succ_cons, List.drop_zero,
    List.append_assoc, again]

/-- A literal of one quote ends where it does, and does not become one of three. -/
theorem nextPiece_quoted {first : UInt16} (quote : first = 39 ∨ first = 34) {rest other : Utf16}
    (single : ¬ [first, first] <+: rest) (follows : Follows (quotedRest first rest).2 other) :
    nextPiece first ((quotedRest first rest).1 ++ other) =
      .ok (.literal (first :: (quotedRest first rest).1), other) := by
  have noSlash : first ≠ 47 := by rcases quote with rfl | rfl <;> decide
  have noSpace : first ≠ 32 := by rcases quote with rfl | rfl <;> decide
  obtain ⟨whole, nonempty, again⟩ := quotedRest_spec first rest
  have stillSingle : ¬ [first, first] <+: (quotedRest first rest).1 ++ other := by
    generalize (quotedRest first rest).1 = inside at whole nonempty
    generalize (quotedRest first rest).2 = behind at whole follows
    intro triple
    apply single
    rw [whole]
    match inside with
    | [] =>
        have bare : rest = [] := by
          by_contra present
          exact nonempty present rfl
        rw [bare] at whole
        have nothing : behind = [] := (List.append_eq_nil_iff.mp whole.symm).2
        rw [follows.nothing nothing] at triple
        cases List.prefix_nil.mp triple
    | [unit] =>
        obtain ⟨rfl, starts⟩ := List.cons_prefix_cons.mp triple
        obtain ⟨tail, isTail⟩ := starts
        have head : other.head? = some first := by
          rw [show other = [first] ++ tail from isTail.symm]
          rfl
        rcases follows.head first head with same | ⟨space, -⟩
        · obtain ⟨later, isLater⟩ := List.head?_eq_some_iff.mp same
          exact ⟨later, by rw [isLater]; rfl⟩
        · exact absurd space noSpace
    | unit :: next :: more =>
        obtain ⟨rfl, starts⟩ := List.cons_prefix_cons.mp triple
        obtain ⟨rfl, -⟩ := List.cons_prefix_cons.mp starts
        exact List.prefix_append [first, first] _
  rw [nextPiece, if_neg (fun slash => noSlash slash.1), if_neg (fun slash => noSlash slash.1),
    if_pos quote, if_neg stillSingle, again other follows.nothing]

/-- What a round of the lexer takes is a piece of the text, and the same piece is taken from it whatever
    may follow. -/
theorem nextPiece_spec {first : UInt16} {rest behind : Utf16} {piece : JenkinsPiece}
    (taken : nextPiece first rest = .ok (piece, behind)) :
    ∃ inside, rest = inside ++ behind ∧ piece.text = first :: inside ∧
      (∀ other, Follows behind other → nextPiece first (inside ++ other) = .ok (piece, other)) ∧
      ((inside = [] ∧ piece = .code first) ∨ first = 47 ∨ first = 39 ∨ first = 34) := by
  rw [nextPiece] at taken
  split at taken
  · rename_i slashes
    obtain ⟨rfl, opens⟩ := slashes
    cases taken
    exact ⟨rest.takeWhile (· != 10), List.takeWhile_append_dropWhile.symm, rfl,
      fun other follows => nextPiece_lineComment opens follows, .inr (.inl rfl)⟩
  rename_i noLine
  split at taken
  · rename_i slashStar
    obtain ⟨rfl, opens⟩ := slashStar
    split at taken
    · cases taken
    · rename_i inside after cut
      cases taken
      obtain ⟨block, rfl⟩ := List.head?_eq_some_iff.mp opens
      refine ⟨42 :: (inside ++ [42, 47]), ?_, rfl,
        fun other _ => nextPiece_blockComment cut other, .inr (.inl rfl)⟩
      have whole := (cutAtText_eq_some_iff.mp cut).1
      rw [List.tail_cons] at whole
      rw [whole]
      simp
  rename_i noBlock
  split at taken
  · rename_i quote
    split at taken
    · rename_i triple
      split at taken
      · cases taken
      · rename_i inside after cut
        cases taken
        obtain ⟨quoted, rfl⟩ := triple
        refine ⟨first :: first :: (inside ++ [first, first, first]), ?_, rfl,
          fun other _ => nextPiece_triple quote cut other, .inr (.inr quote)⟩
        have whole := (cutAtText_eq_some_iff.mp cut).1
        rw [List.cons_append, List.cons_append, List.nil_append, List.drop_succ_cons,
          List.drop_succ_cons, List.drop_zero] at whole
        rw [whole]
        simp
    · rename_i single
      cases taken
      exact ⟨(quotedRest first rest).1, (quotedRest_spec first rest).1, rfl,
        fun other follows => nextPiece_quoted quote single follows, .inr (.inr quote)⟩
  · rename_i noQuote
    cases taken
    refine ⟨[], rfl, rfl, ?_, .inl ⟨rfl, rfl⟩⟩
    intro other follows
    rw [List.nil_append, nextPiece, if_neg, if_neg, if_neg noQuote]
    · rintro ⟨slash, star⟩
      exact follows.head?_ne (by decide) (fun same => noBlock ⟨slash, same⟩) star
    · rintro ⟨slash, again⟩
      exact follows.head?_ne (by decide) (fun same => noLine ⟨slash, same⟩) again

/-! ### A text in pieces -/

/-- The rounds of the lexer on a whole text. -/
inductive Lexes : Utf16 → List JenkinsPiece → Prop where
  | nil : Lexes [] []
  | cons {first : UInt16} {rest behind : Utf16} {piece : JenkinsPiece} {pieces : List JenkinsPiece} :
      nextPiece first rest = .ok (piece, behind) → Lexes behind pieces →
        Lexes (first :: rest) (piece :: pieces)

/-- A place between two pieces: outside comments and literals. -/
def Outside (text : Utf16) (place : Nat) : Prop :=
  ∃ front back, Lexes text (front ++ back) ∧ (front.flatMap JenkinsPiece.text).length = place

theorem Lexes.text_eq {text : Utf16} {pieces : List JenkinsPiece} (lexes : Lexes text pieces) :
    text = pieces.flatMap JenkinsPiece.text := by
  induction lexes with
  | nil => rfl
  | cons taken _ ih =>
      obtain ⟨inside, rfl, isText, -⟩ := nextPiece_spec taken
      rw [List.flatMap_cons, isText, ← ih]
      rfl

theorem Lexes.unique {text : Utf16} {pieces others : List JenkinsPiece} (one : Lexes text pieces)
    (other : Lexes text others) : pieces = others := by
  induction one generalizing others with
  | nil => cases other; rfl
  | cons taken _ ih =>
      cases other with
      | cons taken' behind =>
          rw [taken] at taken'
          cases taken'
          rw [ih behind]

/-- The loop makes the mask piece by piece. -/
theorem maskFrom_eq_ok_iff {blankStrings : Bool} {rounds : Nat} {text masked : Utf16}
    (enough : text.length ≤ rounds) :
    maskFrom blankStrings rounds text = .ok masked ↔
      ∃ pieces, Lexes text pieces ∧ masked = pieces.flatMap (JenkinsPiece.masked blankStrings) := by
  induction rounds generalizing text masked with
  | zero =>
      cases List.eq_nil_of_length_eq_zero (Nat.le_zero.mp enough)
      rw [maskFrom]
      constructor
      · intro same
        cases same
        exact ⟨[], .nil, rfl⟩
      · rintro ⟨pieces, lexes, rfl⟩
        cases lexes
        rfl
  | succ rounds ih =>
      cases text with
      | nil =>
          rw [maskFrom]
          constructor
          · intro same
            cases same
            exact ⟨[], .nil, rfl⟩
          · rintro ⟨pieces, lexes, rfl⟩
            cases lexes
            rfl
      | cons first rest =>
          rw [maskFrom]
          have shorter : ∀ {piece : JenkinsPiece} {behind : Utf16},
              nextPiece first rest = .ok (piece, behind) → behind.length ≤ rounds := by
            intro piece behind taken
            obtain ⟨inside, rfl, -⟩ := nextPiece_spec taken
            rw [List.length_cons, List.length_append] at enough
            omega
          constructor
          · intro same
            cases taken : nextPiece first rest with
            | error failure => rw [taken] at same; cases same
            | ok result =>
                obtain ⟨piece, behind⟩ := result
                rw [taken] at same
                dsimp only at same
                cases later : maskFrom blankStrings rounds behind with
                | error failure => rw [later] at same; cases same
                | ok maskedBehind =>
                    rw [later] at same
                    cases same
                    obtain ⟨pieces, lexes, rfl⟩ := (ih (shorter taken)).mp later
                    exact ⟨piece :: pieces, .cons taken lexes, rfl⟩
          · rintro ⟨pieces, lexes, rfl⟩
            cases lexes with
            | cons taken behind =>
                rw [taken]
                dsimp only
                rw [(ih (shorter taken)).mpr ⟨_, behind, rfl⟩]
                rfl

theorem mask_eq_ok_iff {blankStrings : Bool} {text masked : Utf16} :
    mask text blankStrings = .ok masked ↔
      ∃ pieces, Lexes text pieces ∧ masked = pieces.flatMap (JenkinsPiece.masked blankStrings) :=
  maskFrom_eq_ok_iff (Nat.le_refl _)

/-! ### Cutting between pieces -/

theorem Lexes.of_back {text : Utf16} {front back : List JenkinsPiece} (lexes : Lexes text (front ++ back)) :
    Lexes (back.flatMap JenkinsPiece.text) back := by
  induction front generalizing text with
  | nil =>
      have whole : text = back.flatMap JenkinsPiece.text := lexes.text_eq
      rw [← whole]
      exact lexes
  | cons piece front ih =>
      cases lexes with
      | cons _ behind => exact ih behind

/-- What follows a piece may be cut off. -/
theorem Lexes.of_front {text : Utf16} {front back : List JenkinsPiece} (lexes : Lexes text (front ++ back)) :
    Lexes (front.flatMap JenkinsPiece.text) front := by
  induction front generalizing text with
  | nil => exact .nil
  | cons piece front ih =>
      cases lexes with
      | @cons first rest behind piece pieces taken later =>
          obtain ⟨inside, rfl, isText, again, -⟩ := nextPiece_spec taken
          have whole : behind = front.flatMap JenkinsPiece.text ++ back.flatMap JenkinsPiece.text := by
            rw [later.text_eq]
            exact List.flatMap_append
          have follows : Follows behind (front.flatMap JenkinsPiece.text) := by
            refine ⟨?_, ?_⟩
            · rintro rfl
              exact (List.append_eq_nil_iff.mp whole.symm).1
            · intro unit present
              obtain ⟨others, isFront⟩ := List.head?_eq_some_iff.mp present
              exact .inl (by rw [whole, isFront]; rfl)
          rw [List.flatMap_cons, isText]
          exact .cons (again _ follows) (ih later)

theorem JenkinsPiece.length_masked (blankStrings : Bool) (piece : JenkinsPiece) :
    (piece.masked blankStrings).length = piece.text.length := by
  cases piece with
  | code unit => rfl
  | comment text => exact List.length_map _
  | literal text =>
      cases blankStrings with
      | false => rfl
      | true => exact List.length_map _

theorem length_flatMap_masked (blankStrings : Bool) (pieces : List JenkinsPiece) :
    (pieces.flatMap (JenkinsPiece.masked blankStrings)).length =
      (pieces.flatMap JenkinsPiece.text).length := by
  induction pieces with
  | nil => rfl
  | cons piece pieces ih =>
      rw [List.flatMap_cons, List.flatMap_cons, List.length_append, List.length_append, ih,
        piece.length_masked]

theorem Lexes.text_ne_nil {text : Utf16} {pieces : List JenkinsPiece} (lexes : Lexes text pieces) :
    ∀ piece ∈ pieces, piece.text ≠ [] := by
  induction lexes with
  | nil => simp
  | cons taken _ ih =>
      intro piece inside
      rcases List.mem_cons.mp inside with rfl | later
      · obtain ⟨inside, -, isText, -⟩ := nextPiece_spec taken
        rw [isText]
        exact List.cons_ne_nil _ _
      · exact ih piece later

/-- Two places between pieces part the pieces in three. -/
theorem Outside.between {text : Utf16} {start stop : Nat} (ahead : start ≤ stop)
    (first : Outside text start) (second : Outside text stop) :
    ∃ front middle back, Lexes text (front ++ middle ++ back) ∧
      (front.flatMap JenkinsPiece.text).length = start ∧
      ((front ++ middle).flatMap JenkinsPiece.text).length = stop := by
  obtain ⟨front, back, lexes, isStart⟩ := first
  obtain ⟨front', back', lexes', isStop⟩ := second
  have same := lexes.unique lexes'
  rcases List.append_eq_append_iff.mp same with ⟨middle, rfl, -⟩ | ⟨middle, rfl, -⟩
  · exact ⟨front, middle, back', lexes', isStart, isStop⟩
  · have empty : middle.flatMap JenkinsPiece.text = [] := by
      apply List.eq_nil_of_length_eq_zero
      rw [List.flatMap_append, List.length_append, isStop] at isStart
      omega
    have none : middle = [] := by
      cases middle with
      | nil => rfl
      | cons piece others =>
          have nonempty := lexes.text_ne_nil piece (by simp)
          rw [List.flatMap_cons] at empty
          exact absurd (List.append_eq_nil_iff.mp empty).1 nonempty
    subst none
    rw [List.append_nil] at isStart
    refine ⟨front', [], back', by simpa using lexes', by omega, by simpa using isStop⟩

theorem slice_append {front middle back : Utf16} {start stop : Nat} (isStart : front.length = start)
    (isStop : (front ++ middle).length = stop) : slice (front ++ middle ++ back) start stop = middle := by
  rw [slice, ← isStop, List.take_left, ← isStart, List.drop_left]

/-- The mask of a part that is cut between pieces is the part of the mask. -/
theorem mask_slice {text masked : Utf16} {blankStrings : Bool} (isMask : mask text blankStrings = .ok masked)
    {start stop : Nat} (ahead : start ≤ stop) (first : Outside text start) (second : Outside text stop) :
    mask (slice text start stop) blankStrings = .ok (slice masked start stop) := by
  obtain ⟨pieces, lexes, rfl⟩ := mask_eq_ok_iff.mp isMask
  obtain ⟨front, middle, back, lexes', isStart, isStop⟩ := first.between ahead second
  obtain rfl := lexes.unique lexes'
  rw [lexes.text_eq, mask_eq_ok_iff]
  refine ⟨middle, ?_, ?_⟩
  · rw [List.flatMap_append, List.flatMap_append,
      slice_append isStart (by rw [← List.flatMap_append]; exact isStop)]
    exact (lexes.of_front).of_back
  · rw [List.flatMap_append, List.flatMap_append]
    apply slice_append
    · rw [length_flatMap_masked, isStart]
    · rw [← List.flatMap_append, length_flatMap_masked, isStop]

/-! ### A mask's own mask -/

/-- The pieces a piece of a mask is read as. -/
def JenkinsPiece.remasked (blankStrings : Bool) (piece : JenkinsPiece) : List JenkinsPiece :=
  match piece, blankStrings with
  | .literal text, false => [.literal text]
  | piece, blankStrings => (piece.masked blankStrings).map .code

theorem nextPiece_blank (unit : UInt16) (rest : Utf16) :
    nextPiece (blankUnit unit) rest = .ok (.code (blankUnit unit), rest) := by
  have blank : blankUnit unit = 10 ∨ blankUnit unit = 32 := by
    rw [blankUnit]
    split
    · exact .inl rfl
    · exact .inr rfl
  rcases blank with isBlank | isBlank
  · rw [isBlank]; rfl
  · rw [isBlank]; rfl

theorem Lexes.blank_append {rest : Utf16} {pieces : List JenkinsPiece} (lexes : Lexes rest pieces)
    (text : Utf16) :
    Lexes (text.map blankUnit ++ rest) ((text.map blankUnit).map .code ++ pieces) := by
  induction text with
  | nil => exact lexes
  | cons unit text ih => exact .cons (nextPiece_blank unit _) ih

theorem flatMap_masked_codes (blankStrings : Bool) (text : Utf16) :
    (text.map JenkinsPiece.code).flatMap (JenkinsPiece.masked blankStrings) = text := by
  induction text with
  | nil => rfl
  | cons unit text ih =>
      rw [List.map_cons, List.flatMap_cons, ih]
      rfl

theorem JenkinsPiece.masked_remasked (blankStrings : Bool) (piece : JenkinsPiece) :
    (piece.remasked blankStrings).flatMap (JenkinsPiece.masked blankStrings) = piece.masked blankStrings := by
  cases piece with
  | code unit => rfl
  | comment text => exact flatMap_masked_codes blankStrings _
  | literal text =>
      cases blankStrings with
      | false => exact List.append_nil text
      | true => exact flatMap_masked_codes true _

/-- The mask of what follows a piece may stand behind it. -/
theorem Lexes.follows {text : Utf16} {pieces : List JenkinsPiece} (lexes : Lexes text pieces)
    (blankStrings : Bool) : Follows text (pieces.flatMap (JenkinsPiece.masked blankStrings)) := by
  cases lexes with
  | nil => exact ⟨fun _ => rfl, by simp⟩
  | @cons first rest behind piece pieces taken later =>
      refine ⟨fun nothing => absurd nothing (List.cons_ne_nil first rest), ?_⟩
      intro unit present
      obtain ⟨inside, -, isText, -, which⟩ := nextPiece_spec taken
      have newline : piece = .code first ∨ first ≠ 10 := by
        rcases which with ⟨-, isCode⟩ | rfl | rfl | rfl
        · exact .inl isCode
        · exact .inr (by decide)
        · exact .inr (by decide)
        · exact .inr (by decide)
      have blanked : first ≠ 10 → blankUnit first = 32 := fun other => if_neg other
      rw [List.flatMap_cons] at present
      cases piece with
      | code code =>
          cases isText
          exact .inl present
      | comment comment =>
          cases isText
          have other : first ≠ 10 := newline.resolve_left (by simp)
          cases present
          exact .inr ⟨blanked other, fun same => other (Option.some.inj same)⟩
      | literal literal =>
          cases isText
          have other : first ≠ 10 := newline.resolve_left (by simp)
          cases blankStrings with
          | false => exact .inl present
          | true =>
              cases present
              exact .inr ⟨blanked other, fun same => other (Option.some.inj same)⟩

/-- A mask is read as the pieces it was made of, with blanks in the place of what it blanked. -/
theorem Lexes.remasked {text : Utf16} {pieces : List JenkinsPiece} (lexes : Lexes text pieces)
    (blankStrings : Bool) :
    Lexes (pieces.flatMap (JenkinsPiece.masked blankStrings))
      (pieces.flatMap (JenkinsPiece.remasked blankStrings)) := by
  induction lexes with
  | nil => exact .nil
  | @cons first rest behind piece pieces taken later ih =>
      obtain ⟨inside, -, isText, again, -⟩ := nextPiece_spec taken
      have retaken := again _ (later.follows blankStrings)
      rw [List.flatMap_cons, List.flatMap_cons]
      cases piece with
      | code unit =>
          cases isText
          exact .cons retaken ih
      | comment comment => exact ih.blank_append comment
      | literal literal =>
          cases blankStrings with
          | true => exact ih.blank_append literal
          | false =>
              cases isText
              exact .cons retaken ih

theorem mask_mask {text masked : Utf16} {blankStrings : Bool}
    (isMask : mask text blankStrings = .ok masked) : mask masked blankStrings = .ok masked := by
  obtain ⟨pieces, lexes, rfl⟩ := mask_eq_ok_iff.mp isMask
  refine mask_eq_ok_iff.mpr ⟨_, lexes.remasked blankStrings, ?_⟩
  rw [List.flatMap_assoc]
  simp only [JenkinsPiece.masked_remasked]

/-! ### Offsets -/

/-- A unit of a mask: what stands there in the text, or a space where no newline stands. -/
def Shown (unit shown : UInt16) : Prop := shown = unit ∨ (shown = 32 ∧ unit ≠ 10)

theorem JenkinsPiece.shown (blankStrings : Bool) (piece : JenkinsPiece) :
    List.Forall₂ Shown piece.text (piece.masked blankStrings) := by
  have kept : ∀ text : Utf16, List.Forall₂ Shown text text :=
    fun text => List.forall₂_same.mpr fun unit _ => .inl rfl
  have blanked : ∀ text : Utf16, List.Forall₂ Shown text (text.map blankUnit) := by
    intro text
    rw [List.forall₂_map_right_iff, List.forall₂_same]
    intro unit _
    by_cases newline : unit = 10
    · exact .inl (by rw [newline]; rfl)
    · exact .inr ⟨if_neg newline, newline⟩
  cases piece with
  | code unit => exact kept [unit]
  | comment text => exact blanked text
  | literal text =>
      cases blankStrings with
      | false => exact kept text
      | true => exact blanked text

theorem mask_shown {text masked : Utf16} {blankStrings : Bool}
    (isMask : mask text blankStrings = .ok masked) : List.Forall₂ Shown text masked := by
  obtain ⟨pieces, lexes, rfl⟩ := mask_eq_ok_iff.mp isMask
  rw [lexes.text_eq]
  clear lexes isMask
  induction pieces with
  | nil => exact .nil
  | cons piece pieces ih =>
      rw [List.flatMap_cons, List.flatMap_cons]
      exact List.rel_append (piece.shown blankStrings) ih

theorem newlines_of_shown {text masked : Utf16} (shown : List.Forall₂ Shown text masked) (index : Nat) :
    masked[index]? = some 10 ↔ text[index]? = some 10 := by
  induction shown generalizing index with
  | nil => rfl
  | @cons unit other _ _ isShown _ ih =>
      cases index with
      | zero =>
          rw [List.getElem?_cons_zero, List.getElem?_cons_zero, Option.some.injEq, Option.some.injEq]
          rcases isShown with rfl | ⟨rfl, noNewline⟩
          · exact Iff.rfl
          · exact ⟨fun wrong => absurd wrong (by decide), fun newline => absurd newline noNewline⟩
      | succ index =>
          rw [List.getElem?_cons_succ, List.getElem?_cons_succ]
          exact ih index

/-! ### The top level -/

/-- An offset found in a text indexes another: at each place stands the same unit, or a space. -/
def KeepsOffsets (text other : Utf16) : Prop :=
  List.Forall₂ (fun unit shown => shown = unit ∨ shown = 32) text other

/-- Opening braces less closing ones. -/
def nesting (text : Utf16) : Int := text.count 123 - text.count 125

theorem nesting_append (first second : Utf16) : nesting (first ++ second) = nesting first + nesting second := by
  rw [nesting, nesting, nesting, List.count_append, List.count_append]
  omega

/-- A pair of surrogates stands at a depth other than zero. -/
def HidesPairFrom (depth : Int) (body : Utf16) : Prop :=
  ∃ front high low back, body = front ++ high :: low :: back ∧ isHighSurrogate high = true ∧
    isLowSurrogate low = true ∧ depth + nesting front ≠ 0

/-- A character outside the basic plane stands inside a nested block. -/
def HidesPair (body : Utf16) : Prop := HidesPairFrom 0 body

theorem hidesPairFrom_cons {depth : Int} {unit : UInt16} {rest : Utf16} :
    HidesPairFrom depth (unit :: rest) ↔
      (isHighSurrogate unit = true ∧ (∃ low ∈ rest.head?, isLowSurrogate low = true) ∧ depth ≠ 0) ∨
        HidesPairFrom (depth + nesting [unit]) rest := by
  constructor
  · rintro ⟨front, high, low, back, whole, isHigh, isLow, deep⟩
    cases front with
    | nil =>
        cases whole
        exact .inl ⟨isHigh, ⟨low, rfl, isLow⟩, by simpa [nesting] using deep⟩
    | cons first front =>
        cases whole
        refine .inr ⟨front, high, low, back, rfl, isHigh, isLow, ?_⟩
        rw [← List.singleton_append, nesting_append] at deep
        omega
  · rintro (⟨isHigh, ⟨low, starts, isLow⟩, deep⟩ | ⟨front, high, low, back, rfl, isHigh, isLow, deep⟩)
    · obtain ⟨back, rfl⟩ := List.head?_eq_some_iff.mp starts
      exact ⟨[], unit, low, back, rfl, isHigh, isLow, by simpa [nesting] using deep⟩
    · refine ⟨unit :: front, high, low, back, rfl, isHigh, isLow, ?_⟩
      rw [← List.singleton_append, nesting_append]
      omega

theorem not_isBrace_of_isHighSurrogate {unit : UInt16} (high : isHighSurrogate unit = true) :
    unit ≠ 123 ∧ unit ≠ 125 := by
  constructor <;> rintro rfl <;> revert high <;> decide

theorem not_isBrace_of_isLowSurrogate {unit : UInt16} (low : isLowSurrogate unit = true) :
    unit ≠ 123 ∧ unit ≠ 125 ∧ isHighSurrogate unit = false := by
  refine ⟨?_, ?_, ?_⟩
  · rintro rfl
    revert low
    decide
  · rintro rfl
    revert low
    decide
  · simp only [isLowSurrogate, isHighSurrogate, Bool.and_eq_true, decide_eq_true_eq,
      Bool.and_eq_false_iff, decide_eq_false_iff_not, UInt16.le_iff_toNat_le] at low ⊢
    have values : (0xDC00 : UInt16).toNat = 0xDC00 ∧ (0xDFFF : UInt16).toNat = 0xDFFF ∧
      (0xD800 : UInt16).toNat = 0xD800 ∧ (0xDBFF : UInt16).toNat = 0xDBFF := by decide
    omega

theorem nesting_singleton {unit : UInt16} (plain : unit ≠ 123 ∧ unit ≠ 125) : nesting [unit] = 0 := by
  rw [nesting, List.count_singleton, List.count_singleton]
  simp [plain.1, plain.2]

/-- The loop over one unit: one unit is shown for it, and the depth is what the unit makes it. -/
theorem topLevelFrom_single (depth : Int) (unit : UInt16) (rest : List Utf16) :
    ∃ shown, topLevelFrom depth ([unit] :: rest) = shown :: topLevelFrom (depth + nesting [unit]) rest ∧
      (shown = unit ∨ shown = 32) := by
  rw [topLevelFrom]
  by_cases opens : unit = 123
  · subst opens
    rw [if_pos rfl, show nesting [123] = 1 from rfl]
    split
    · exact ⟨123, rfl, .inl rfl⟩
    · exact ⟨32, rfl, .inr rfl⟩
  rw [if_neg (by simpa using opens)]
  by_cases closes : unit = 125
  · subst closes
    rw [if_pos rfl, show nesting [125] = -1 from rfl, ← Int.sub_eq_add_neg]
    split
    · exact ⟨125, rfl, .inl rfl⟩
    · exact ⟨32, rfl, .inr rfl⟩
  rw [if_neg (by simpa using closes), nesting_singleton ⟨opens, closes⟩, Int.add_zero]
  split
  · exact ⟨unit, rfl, .inl rfl⟩
  · exact ⟨32, rfl, .inr rfl⟩

theorem topLevelFrom_pair (depth : Int) (high low : UInt16) (rest : List Utf16) :
    topLevelFrom depth ([high, low] :: rest) =
      (if depth = 0 then [high, low] else [32]) ++ topLevelFrom depth rest := by
  rw [topLevelFrom, if_neg (by simp), if_neg (by simp)]
  simp

/-- The loop keeps offsets where no pair is hidden, and a hidden pair makes its text shorter. -/
theorem topLevelFrom_codePoints (depth : Int) (body : Utf16) :
    (topLevelFrom depth (codePoints body)).length ≤ body.length ∧
      (¬ HidesPairFrom depth body → KeepsOffsets body (topLevelFrom depth (codePoints body))) ∧
      (HidesPairFrom depth body → (topLevelFrom depth (codePoints body)).length < body.length) := by
  induction body using codePoints.induct generalizing depth with
  | case1 =>
      refine ⟨Nat.le_refl _, fun _ => .nil, ?_⟩
      rintro ⟨front, high, low, back, whole, -⟩
      simp at whole
  | case2 unit =>
      obtain ⟨shown, step, isShown⟩ := topLevelFrom_single depth unit []
      rw [codePoints, step]
      refine ⟨Nat.le_refl _, fun _ => .cons isShown .nil, ?_⟩
      rintro ⟨front, high, low, back, whole, -⟩
      have lengths := congrArg List.length whole
      simp at lengths
      omega
  | case3 high low rest paired ih =>
      rw [Bool.and_eq_true] at paired
      have lowFacts := not_isBrace_of_isLowSurrogate paired.2
      have hides : HidesPairFrom depth (high :: low :: rest) ↔ depth ≠ 0 ∨ HidesPairFrom depth rest := by
        rw [hidesPairFrom_cons, nesting_singleton (not_isBrace_of_isHighSurrogate paired.1), Int.add_zero,
          hidesPairFrom_cons, nesting_singleton ⟨lowFacts.1, lowFacts.2.1⟩, Int.add_zero, lowFacts.2.2]
        simp [paired]
      obtain ⟨shorter, keeps, shrinks⟩ := ih depth
      rw [codePoints, if_pos (by rw [paired.1, paired.2]; rfl), topLevelFrom_pair, hides]
      by_cases top : depth = 0
      · rw [if_pos top]
        refine ⟨by simpa using shorter, ?_, ?_⟩
        · intro shown
          exact .cons (.inl rfl) (.cons (.inl rfl) (keeps fun later => shown (.inr later)))
        · intro hidden
          simpa using shrinks (hidden.resolve_left (fun deep => deep top))
      · rw [if_neg top]
        refine ⟨?_, fun shown => absurd (.inl top) shown, fun _ => ?_⟩
        · simp
          omega
        · simp
          omega
  | case4 unit next rest alone ih =>
      obtain ⟨shown, step, isShown⟩ := topLevelFrom_single depth unit (codePoints (next :: rest))
      obtain ⟨shorter, keeps, shrinks⟩ := ih (depth + nesting [unit])
      have hides : HidesPairFrom depth (unit :: next :: rest) ↔
          HidesPairFrom (depth + nesting [unit]) (next :: rest) := by
        rw [hidesPairFrom_cons, or_iff_right]
        rintro ⟨isHigh, ⟨low, starts, isLow⟩, -⟩
        cases starts
        exact alone (by rw [isHigh, isLow]; rfl)
      rw [codePoints, if_neg alone, step, hides]
      refine ⟨Nat.succ_le_succ shorter, ?_, ?_⟩
      · intro visible
        exact .cons isShown (keeps visible)
      · intro hidden
        exact Nat.succ_lt_succ (shrinks hidden)

theorem topLevelOnly_keepsOffsets_iff (body : Utf16) :
    KeepsOffsets body (topLevelOnly body) ↔ ¬ HidesPair body := by
  obtain ⟨-, keeps, shrinks⟩ := topLevelFrom_codePoints 0 body
  constructor
  · intro kept hidden
    have shorter := shrinks hidden
    rw [show topLevelFrom 0 (codePoints body) = topLevelOnly body from rfl, ← kept.length_eq] at shorter
    exact Nat.lt_irrefl _ shorter
  · exact keeps

/-- Masks keep offsets. A mask is as long as its text with its newlines where they were, is its own mask, and
    is cut with the text wherever both cuts are outside comments and literals; the text of the top level
    keeps the offsets of a body exactly where the body has no pair of surrogates inside a nested block. -/
theorem masks_keep_offsets_iff (text : Utf16) (blankStrings : Bool) (body : Utf16) :
    (∀ masked, mask text blankStrings = .ok masked →
      masked.length = text.length ∧ (∀ index : Nat, masked[index]? = some 10 ↔ text[index]? = some 10) ∧
      mask masked blankStrings = .ok masked ∧
      ∀ start stop, start ≤ stop → Outside text start → Outside text stop →
        mask (slice text start stop) blankStrings = .ok (slice masked start stop)) ∧
    (KeepsOffsets body (topLevelOnly body) ↔ ¬ HidesPair body) := by
  refine ⟨?_, topLevelOnly_keepsOffsets_iff body⟩
  intro masked isMask
  have shown := mask_shown isMask
  exact ⟨shown.length_eq.symm, newlines_of_shown shown, mask_mask isMask,
    fun start stop ahead first second => mask_slice isMask ahead first second⟩

/-- A character outside the basic plane in the options of a pipeline. -/
theorem topLevelOnly_shrinks :
    mask (units "options \x7b 😀 \x7d agent any") true = .ok (units "options \x7b 😀 \x7d agent any") ∧
      checkBraces (units "options \x7b 😀 \x7d agent any") = .ok () ∧
      ¬ KeepsOffsets (units "options \x7b 😀 \x7d agent any")
        (topLevelOnly (units "options \x7b 😀 \x7d agent any")) := by
  refine ⟨by decide, by decide, ?_⟩
  intro kept
  have lengths := kept.length_eq
  revert lengths
  decide

end JumptotechLabs.Verifier
