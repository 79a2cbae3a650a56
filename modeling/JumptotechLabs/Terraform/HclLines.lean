/-
Module: JumptotechLabs.Terraform.HclLines
Layer: Terraform (services/lab-orchestrator/src/terraform/hcl.ts)
Purpose: Lines that the scanner closes: no literal and no comment in them is open where they end. Their lexemes
  are the same whatever follows them, and what follows is read as a text of its own.
Main exports: Closed, nextRound_append, Closed.lexemesFrom
-/
import JumptotechLabs.Terraform.HclLexemes
import Mathlib.Algebra.GroupWithZero.Nat

namespace JumptotechLabs.Terraform

open JumptotechLabs.Core
open JumptotechLabs.Core.Utf16 (isSpace isDigit isLetter isWord trim)

theorem LiteralRead.width_behind (read : LiteralRead) (taken : Utf16) (newlines : Nat) :
    (read.behind taken newlines).width = taken.length + read.width := rfl

theorem quotedFrom_append {depth : Nat} {text : Utf16} (ends : (quotedFrom depth text).width < text.length)
    (behind : Utf16) : quotedFrom depth (text ++ behind) = quotedFrom depth text := by
  induction depth, text using quotedFrom.induct with
  | case1 depth => exact absurd ends (Nat.not_lt_zero _)
  | case2 => simp [quotedFrom] at ends
  | case3 => simp [quotedFrom] at ends
  | case4 unit noEscape noQuote =>
      rw [quotedFrom, if_neg noEscape, if_neg noQuote] at ends
      exact absurd ends (lt_irrefl _)
  | case5 next rest ih =>
      rw [quotedFrom, if_pos rfl, LiteralRead.width_behind] at ends
      change quotedFrom 0 (92 :: next :: (rest ++ behind)) = _
      rw [quotedFrom, quotedFrom, if_pos rfl, if_pos rfl, ih (by simp only [List.length_cons] at ends; omega)]
  | case6 unit next rest noEscape opens ih =>
      rw [quotedFrom, if_neg noEscape, if_pos opens, LiteralRead.width_behind] at ends
      change quotedFrom 0 (unit :: next :: (rest ++ behind)) = _
      rw [quotedFrom, quotedFrom, if_neg noEscape, if_neg noEscape, if_pos opens, if_pos opens,
        ih (by simp only [List.length_cons] at ends; omega)]
  | case7 next rest noEscape noOpening =>
      change quotedFrom 0 (34 :: next :: (rest ++ behind)) = _
      rw [quotedFrom, quotedFrom, if_neg noEscape, if_neg noEscape, if_neg noOpening, if_neg noOpening,
        if_pos rfl, if_pos rfl]
  | case8 unit next rest noEscape noOpening noQuote ih =>
      rw [quotedFrom, if_neg noEscape, if_neg noOpening, if_neg noQuote, LiteralRead.width_behind] at ends
      change quotedFrom 0 (unit :: next :: (rest ++ behind)) = _
      rw [quotedFrom, quotedFrom, if_neg noEscape, if_neg noEscape, if_neg noOpening, if_neg noOpening,
        if_neg noQuote, if_neg noQuote]
      have again := ih (by simp only [List.length_cons, List.length_nil] at ends ⊢; omega)
      rw [List.cons_append] at again
      rw [again]
  | case9 depth rest ih =>
      rw [quotedFrom, if_pos rfl, LiteralRead.width_behind] at ends
      rw [List.cons_append, quotedFrom, quotedFrom, if_pos rfl, if_pos rfl, ih (by simp only [List.length_cons] at ends; omega)]
  | case10 depth rest noOpening ih =>
      rw [quotedFrom, if_neg noOpening, if_pos rfl, LiteralRead.width_behind] at ends
      rw [List.cons_append, quotedFrom, quotedFrom, if_neg noOpening, if_neg noOpening, if_pos rfl,
        if_pos rfl, ih (by simp only [List.length_cons] at ends; omega)]
  | case11 depth unit rest noOpening noClosing ih =>
      rw [quotedFrom, if_neg noOpening, if_neg noClosing, LiteralRead.width_behind] at ends
      rw [List.cons_append, quotedFrom, quotedFrom, if_neg noOpening, if_neg noOpening, if_neg noClosing,
        if_neg noClosing, ih (by simp only [List.length_cons] at ends; omega)]

theorem blockCommentFrom_append {text : Utf16} (ends : (blockCommentFrom text).1 < text.length)
    (behind : Utf16) : blockCommentFrom (text ++ behind) = blockCommentFrom text := by
  induction text using blockCommentFrom.induct with
  | case1 => exact absurd ends (Nat.not_lt_zero _)
  | case2 => exact absurd ends (lt_irrefl _)
  | case3 unit next rest closes =>
      change blockCommentFrom (unit :: next :: (rest ++ behind)) = _
      rw [blockCommentFrom, blockCommentFrom, if_pos closes, if_pos closes]
  | case4 unit next rest goesOn width newlines found ih =>
      rw [blockCommentFrom, if_neg goesOn] at ends
      change blockCommentFrom (unit :: next :: (rest ++ behind)) = _
      rw [blockCommentFrom, blockCommentFrom, if_neg goesOn, if_neg goesOn]
      have again := ih (by simp only [List.length_cons] at ends ⊢; omega)
      rw [List.cons_append] at again
      rw [again]

/-- A heredoc that ends in front of the last of its lines ends there whatever follows them. -/
theorem heredocLines_append {tag : Utf16} {lines : List Utf16}
    (ends : (heredocLines tag (lines ++ [[]])).width < (lines.map fun line => line.length + 1).sum)
    {more : List Utf16} (nonempty : more ≠ []) :
    heredocLines tag (lines ++ more) = heredocLines tag (lines ++ [[]]) := by
  induction lines with
  | nil => exact absurd ends (Nat.not_lt_zero _)
  | cons line lines ih =>
      have split : ∀ last : List Utf16, last ≠ [] → heredocLines tag (line :: (lines ++ last)) =
          if trim line = tag then ⟨[], line.length, 0⟩
          else (heredocLines tag (lines ++ last)).behind (line ++ [10]) 1 := by
        intro last present
        obtain ⟨next, rest, same⟩ := List.exists_cons_of_ne_nil (List.append_ne_nil_of_right_ne_nil lines present)
        rw [same, heredocLines]
      rw [List.cons_append, split _ (List.cons_ne_nil _ _)] at ends
      rw [List.cons_append, List.cons_append, split more nonempty, split _ (List.cons_ne_nil _ _)]
      by_cases isTag : trim line = tag
      · rw [if_pos isTag, if_pos isTag]
      · rw [if_neg isTag, LiteralRead.width_behind, List.map_cons, List.sum_cons, List.length_append,
          List.length_singleton] at ends
        rw [if_neg isTag, if_neg isTag, ih (by omega)]

theorem sum_length_splitOn (text : Utf16) :
    ((text.splitOn 10).map fun line => line.length + 1).sum = text.length + 1 := by
  induction text with
  | nil => rfl
  | cons unit text ih =>
      rw [List.splitOn_cons_eq_if_modifyHead]
      obtain ⟨first, more, same⟩ := List.exists_cons_of_ne_nil (List.splitOn_ne_nil 10 text)
      rw [same, List.map_cons, List.sum_cons] at ih
      split
      · rw [same, List.map_cons, List.sum_cons, List.map_cons, List.sum_cons, ih]
        exact Nat.add_comm _ _
      · rw [same, List.modifyHead_cons, List.map_cons, List.sum_cons, List.length_cons, List.length_cons]
        omega

theorem takeWhile_append_of_mem {holds : UInt16 → Bool} {text : Utf16} {unit : UInt16}
    (present : unit ∈ text) (stops : holds unit = false) (behind : Utf16) :
    (text ++ behind).takeWhile holds = text.takeWhile holds := by
  rw [List.takeWhile_append, if_neg]
  intro whole
  have all := List.takeWhile_eq_self_iff.mp
    ((List.takeWhile_prefix holds).eq_of_length whole) unit present
  rw [stops] at all
  cases all

theorem dropWhile_append_of_mem {holds : UInt16 → Bool} {text : Utf16} {unit : UInt16}
    (present : unit ∈ text) (stops : holds unit = false) (behind : Utf16) :
    (text ++ behind).dropWhile holds = text.dropWhile holds ++ behind := by
  rw [List.dropWhile_append, if_neg]
  intro nothing
  have all := List.dropWhile_eq_nil_iff.mp (List.isEmpty_iff.mp nothing) unit present
  rw [stops] at all
  cases all

theorem behindDash_append (lines behind : Utf16) :
    ∃ tagged, behindDash (lines ++ [10]) = tagged ++ [10] ∧ tagged ++ [10] <:+ lines ++ [10] ∧
      behindDash (lines ++ [10] ++ behind) = tagged ++ [10] ++ behind := by
  cases lines with
  | nil => exact ⟨[], rfl, List.suffix_rfl, rfl⟩
  | cons first lines =>
      by_cases dash : first = 45
      · exact ⟨lines, by simp [behindDash, dash], List.suffix_cons _ _, by simp [behindDash, dash]⟩
      · exact ⟨first :: lines, by simp [behindDash, dash], List.suffix_rfl, by simp [behindDash, dash]⟩

/-- A heredoc that ends in front of the last newline ends there whatever follows. -/
theorem readHeredoc_append {lines : Utf16}
    (ends : ∀ read, readHeredoc (lines ++ [10]) = some read → read.width ≤ lines.length + 2)
    (behind : Utf16) : readHeredoc (lines ++ [10] ++ behind) = readHeredoc (lines ++ [10]) := by
  obtain ⟨tagged, isTagged, isSuffix, goesOn⟩ := behindDash_append lines behind
  have breaks : (10 : UInt16) ∈ tagged ++ [10] := by simp
  have sameTag : (tagged ++ [10] ++ behind).takeWhile isIdentPart = (tagged ++ [10]).takeWhile isIdentPart :=
    takeWhile_append_of_mem breaks (by decide) behind
  have sameOpening : ((tagged ++ [10] ++ behind).dropWhile (· != 10)).tail =
      ((tagged ++ [10]).dropWhile (· != 10)).tail ++ behind := by
    rw [dropWhile_append_of_mem breaks (by decide)]
    exact List.tail_append_of_ne_nil fun nothing => by
      have all := List.dropWhile_eq_nil_iff.mp nothing 10 breaks
      cases all
  have bodySuffix : ((tagged ++ [10]).dropWhile (· != 10)).tail <:+ lines ++ [10] :=
    (List.tail_suffix _).trans ((List.dropWhile_suffix _).trans isSuffix)
  rw [readHeredoc] at ends
  rw [readHeredoc, readHeredoc]
  dsimp only at ends ⊢
  rw [isTagged] at ends
  rw [isTagged, goesOn, sameTag, sameOpening]
  split
  · rfl
  · rename_i tag
    rw [if_neg tag] at ends
    have bound := ends _ rfl
    generalize ((tagged ++ [10]).dropWhile (· != 10)).tail = body at bodySuffix bound
    generalize (tagged ++ [10]).takeWhile isIdentPart = tag at bound
    have shorter := bodySuffix.length_le
    dsimp only at bound
    rw [List.length_append, List.length_singleton] at bound shorter
    have inside : (heredocLines tag (body.splitOn 10)).width < body.length := by omega
    obtain rfl | ⟨inner, rfl, -⟩ := List.suffix_concat_iff.mp bodySuffix
    · exact absurd inside (Nat.not_lt_zero _)
    · have same : heredocLines tag ((inner ++ [10] ++ behind).splitOn 10) =
          heredocLines tag ((inner ++ [10]).splitOn 10) := by
        rw [List.append_assoc, List.singleton_append, List.splitOn_append_cons_self,
          List.splitOn_append_cons_self, List.splitOn_nil]
        rw [List.splitOn_append_cons_self, List.splitOn_nil] at inside
        refine heredocLines_append ?_ (List.splitOn_ne_nil _ _)
        rw [sum_length_splitOn]
        simpa using inside
      rw [same]
      congr 2
      simp only [List.length_append, List.length_singleton] at shorter ⊢
      omega

/-- A round that ends in front of the last newline is the same whatever follows. -/
theorem nextRound_append {ch : UInt16} {lines : Utf16}
    (ends : (nextRound ch (lines ++ [10])).width ≤ lines.length + 1) (behind : Utf16) :
    nextRound ch (lines ++ [10] ++ behind) = nextRound ch (lines ++ [10]) := by
  have breaks : (10 : UInt16) ∈ lines ++ [10] := by simp
  have sameHead : (lines ++ [10] ++ behind).head? = (lines ++ [10]).head? := by
    cases lines <;> rfl
  have sameTail (opens : (lines ++ [10]).head? ≠ some 10) :
      ∃ tail, (lines ++ [10]).tail = tail ++ [10] ∧ lines.length = tail.length + 1 ∧
        (lines ++ [10] ++ behind).tail = tail ++ [10] ++ behind := by
    cases lines with
    | nil => exact absurd rfl opens
    | cons first tail => exact ⟨tail, rfl, rfl, rfl⟩
  unfold nextRound at ends ⊢
  rw [sameHead]
  by_cases isBreak : ch = 10
  · rw [if_pos isBreak, if_pos isBreak]
  by_cases isSpace : ch = 32 ∨ ch = 9 ∨ ch = 13
  · rw [if_neg isBreak, if_neg isBreak, if_pos isSpace, if_pos isSpace]
  rw [if_neg isBreak, if_neg isSpace] at ends
  rw [if_neg isBreak, if_neg isBreak, if_neg isSpace, if_neg isSpace]
  by_cases isLine : ch = 35 ∨ (ch = 47 ∧ (lines ++ [10]).head? = some 47)
  · rw [if_pos isLine, if_pos isLine, takeWhile_append_of_mem breaks (by decide)]
  rw [if_neg isLine] at ends
  rw [if_neg isLine, if_neg isLine]
  by_cases block : ch = 47 ∧ (lines ++ [10]).head? = some 42
  · rw [if_pos block] at ends
    rw [if_pos block, if_pos block]
    obtain ⟨tail, isTail, length, goesOn⟩ := sameTail (by rw [block.2]; decide)
    rw [isTail] at ends
    rw [isTail, goesOn]
    dsimp only at ends ⊢
    rw [blockCommentFrom_append (by rw [List.length_append, List.length_singleton]; omega)]
  rw [if_neg block] at ends
  rw [if_neg block, if_neg block]
  have sameHeredoc : (if ch = 60 ∧ (lines ++ [10]).head? = some 60 then
        readHeredoc (lines ++ [10] ++ behind).tail else none) =
      if ch = 60 ∧ (lines ++ [10]).head? = some 60 then readHeredoc (lines ++ [10]).tail else none := by
    by_cases opens : ch = 60 ∧ (lines ++ [10]).head? = some 60
    · rw [if_pos opens] at ends
      rw [if_pos opens, if_pos opens]
      obtain ⟨tail, isTail, length, goesOn⟩ := sameTail (by rw [opens.2]; decide)
      rw [isTail] at ends
      rw [isTail, goesOn, readHeredoc_append]
      intro read found
      rw [found] at ends
      exact ends.trans (by omega)
    · rw [if_neg opens, if_neg opens]
  rw [sameHeredoc]
  cases heredoc : (if ch = 60 ∧ (lines ++ [10]).head? = some 60 then readHeredoc (lines ++ [10]).tail else none) with
  | some read => rfl
  | none =>
  rw [heredoc] at ends
  dsimp only at ends ⊢
  by_cases quote : ch = 34
  · rw [if_pos quote] at ends
    rw [if_pos quote, if_pos quote]
    have inside : (quotedFrom 0 (lines ++ [10])).width < (lines ++ [10]).length := by
      rw [List.length_append, List.length_singleton]
      simp only [readQuotedString] at ends
      omega
    simp only [readQuotedString, quotedFrom_append inside]
  · rw [if_neg quote, if_neg quote, takeWhile_append_of_mem breaks (by decide),
      takeWhile_append_of_mem breaks (by decide)]

/-- Lines that leave nothing open: the last round of the scanner is that of their last newline. -/
def Closed (lines : Utf16) : Prop := (rounds lines).getLast? = some ⟨.token .newline [10], 1, 1⟩

instance (lines : Utf16) : Decidable (Closed lines) := inferInstanceAs (Decidable (_ = _))

theorem nextRound_newline {ch : UInt16} {rest : Utf16} {value : Utf16}
    (found : (nextRound ch rest).piece = .token .newline value) : ch = 10 := by
  by_contra other
  unfold nextRound at found
  rw [if_neg other] at found
  split at found; · cases found
  split at found; · cases found
  split at found; · cases found
  split at found; · cases found
  split at found; · cases found
  split at found; · cases found
  split at found; · cases found
  split at found; · cases found
  split at found <;> cases found

/-- What closed lines hold, and what follows them. -/
theorem Closed.lexemesFrom {lines : Utf16} (closed : Closed lines) (joined : Bool) :
    (∃ line, lines = line ++ [10]) ∧ ∃ written newline, newline.kind = .newline ∧
      ∀ behind, Terraform.lexemesFrom joined (lines ++ behind) =
        written ++ newline :: Terraform.lexemesFrom false behind := by
  generalize size : lines.length = bound
  induction bound using Nat.strong_induction_on generalizing lines joined with
  | _ bound ih =>
    cases lines with
    | nil => cases closed
    | cons ch rest =>
        have takes := nextRound_width_pos ch rest
        have isLast : (nextRound ch rest :: rounds ((ch :: rest).drop (nextRound ch rest).width)).getLast? =
            some ⟨.token .newline [10], 1, 1⟩ := by
          rw [← rounds_cons]
          exact closed
        by_cases whole : (ch :: rest).drop (nextRound ch rest).width = []
        · -- The only round is that of the newline.
          rw [whole, rounds_nil, List.getLast?_singleton, Option.some.injEq] at isLast
          obtain rfl := nextRound_newline (congrArg HclRound.piece isLast)
          have nothing : rest = [] := by
            rw [isLast] at whole
            exact whole
          subst nothing
          refine ⟨⟨[], rfl⟩, [], ⟨.newline, [10], [10], joined⟩, rfl, fun behind => ?_⟩
          exact lexemesFrom_token rfl joined
        · obtain ⟨last, more, isRest⟩ := List.exists_cons_of_ne_nil whole
          have closedRest : Closed ((ch :: rest).drop (nextRound ch rest).width) := by
            rw [isRest, rounds_cons, List.getLast?_cons_cons, ← rounds_cons, ← isRest] at isLast
            exact isLast
          have shorter := length_drop_round ch rest
          obtain ⟨⟨line, isLine⟩, -⟩ := ih _ (by rw [← size]; exact Nat.lt_succ_of_le shorter) closedRest false rfl
          obtain ⟨before, isBefore⟩ : ∃ before, rest = before ++ [10] := by
            obtain ⟨front, isFront⟩ := List.drop_suffix ((nextRound ch rest).width - 1) rest
            have same : (ch :: rest).drop (nextRound ch rest).width =
                rest.drop ((nextRound ch rest).width - 1) := by
              conv_lhs => rw [← Nat.sub_add_cancel takes]
              rfl
            exact ⟨front ++ line, by rw [List.append_assoc, ← isLine, same, isFront]⟩
          subst isBefore
          have within : (nextRound ch (before ++ [10])).width ≤ before.length + 1 := by
            have length := congrArg List.length isLine
            simp only [List.length_drop, List.length_cons, List.length_append, List.length_nil] at length
            omega
          have again := nextRound_append within
          refine ⟨⟨ch :: before, rfl⟩, ?_⟩
          have goesOn (behind : Utf16) : (ch :: (before ++ [10] ++ behind)).drop (nextRound ch (before ++ [10])).width =
              (ch :: (before ++ [10])).drop (nextRound ch (before ++ [10])).width ++ behind := by
            rw [← List.cons_append, List.drop_append_of_le_length (by simp; omega)]
          have sameText (behind : Utf16) : (ch :: (before ++ [10] ++ behind)).take (nextRound ch (before ++ [10])).width =
              (ch :: (before ++ [10])).take (nextRound ch (before ++ [10])).width := by
            rw [← List.cons_append, List.take_append_of_le_length (by simp; omega)]
          cases found : (nextRound ch (before ++ [10])).piece with
          | token kind value =>
              obtain ⟨-, written, newline, isNewline, onward⟩ :=
                ih _ (by rw [← size]; exact Nat.lt_succ_of_le shorter) closedRest (kind != .newline) rfl
              refine ⟨⟨kind, value, (ch :: (before ++ [10])).take (nextRound ch (before ++ [10])).width, joined⟩ ::
                written, newline, isNewline, fun behind => ?_⟩
              have isToken : (nextRound ch (before ++ [10] ++ behind)).piece = .token kind value := by
                rw [again behind, found]
              rw [List.cons_append, lexemesFrom_token isToken, again behind, sameText, goesOn, onward behind]
              rfl
          | comment | gap =>
              obtain ⟨-, written, newline, isNewline, onward⟩ :=
                ih _ (by rw [← size]; exact Nat.lt_succ_of_le shorter) closedRest false rfl
              refine ⟨written, newline, isNewline, fun behind => ?_⟩
              rw [List.cons_append, lexemesFrom_gap (by rw [again behind, found]; simp), again behind, goesOn,
                onward behind]

end JumptotechLabs.Terraform
