/-
Module: JumptotechLabs.Observability.CutSecrets
Layer: Observability (the log)
Purpose: What is left of a registered value that the length bound cuts through. The token at the cut is dropped
  unit by unit as long as the units are of one class, so a piece of the value survives exactly where it ends in a
  unit of no such class. A value is safe in every text where its units from the eighth on, but for the last, are of
  the class, and no whole occurrence of it is left in front of one that is cut.
Main exports: Straddles, isTokenUnit, KeepsPiece, PieceBeforeCut, keepsPiece_iff,
  cutUnits, WholeStays, cut_secret_leaves_nothing_iff
-/
import JumptotechLabs.Observability.Redact
import Mathlib.Data.List.DropRight

namespace JumptotechLabs.Observability

open JumptotechLabs.Core

/-- An occurrence of the secret begins before the cut and ends after it. -/
def Straddles (secret value : Utf16) : Prop :=
  ∃ before after, value = before ++ (secret ++ after) ∧ before.length < maxScannedChars ∧
    maxScannedChars < before.length + secret.length

/-- `[A-Za-z0-9+/=_.~-]`. -/
def isTokenUnit (unit : UInt16) : Bool := isAlphanumeric unit || among "+/=_.~-" unit

/-- The text that is kept of a long one. -/
def kept (value : Utf16) : Utf16 := withoutCutToken (value.take maxScannedChars)

/-- A prefix of the secret that is long enough to matter. -/
def Piece (secret piece : Utf16) : Prop := 8 ≤ piece.length ∧ piece <+: secret

/-- The kept text ends with a piece of the secret. -/
def KeepsPiece (secret value : Utf16) : Prop := ∃ piece, Piece secret piece ∧ piece <:+ kept value

/-- Before the cut stands a piece of the secret that ends in no token unit, and behind it only token units. -/
def PieceBeforeCut (secret value : Utf16) : Prop :=
  ∃ piece run, Piece secret piece ∧ piece ++ run <:+ value.take maxScannedChars ∧
    (∀ unit ∈ run, isTokenUnit unit = true) ∧ ∃ unit ∈ piece.getLast?, isTokenUnit unit = false

variable {secret value piece : Utf16}

theorem withoutCutToken_append {head run : Utf16} (tokens : ∀ unit ∈ run, isTokenUnit unit = true) :
    withoutCutToken (head ++ run) = withoutCutToken head := by
  induction run using List.reverseRecOn with
  | nil => rw [List.append_nil]
  | append_singleton run unit ih =>
      rw [← List.append_assoc]
      have isToken := tokens unit (List.mem_append_right _ List.mem_cons_self)
      exact (List.rdropWhile_concat_pos _ _ unit isToken).trans
        (ih fun other member => tokens other (List.mem_append_left _ member))

theorem withoutCutToken_of_last {head : Utf16} {unit : UInt16} (last : unit ∈ head.getLast?)
    (noToken : isTokenUnit unit = false) : withoutCutToken head = head := by
  obtain ⟨front, rfl⟩ := List.getLast?_eq_some_iff.mp last
  exact List.rdropWhile_concat_neg _ _ unit (Bool.eq_false_iff.mp noToken)

/-- A text is what is kept of it, which ends in no token unit, and a run of token units. -/
theorem exists_cut_token (head : Utf16) :
    ∃ run, head = withoutCutToken head ++ run ∧ (∀ unit ∈ run, isTokenUnit unit = true) ∧
      ∀ unit ∈ (withoutCutToken head).getLast?, isTokenUnit unit = false := by
  induction head using List.reverseRecOn with
  | nil => exact ⟨[], rfl, by simp, by simp [withoutCutToken]⟩
  | append_singleton head unit ih =>
      cases isToken : isTokenUnit unit with
      | true =>
          obtain ⟨run, whole, tokens, last⟩ := ih
          have dropped : withoutCutToken (head ++ [unit]) = withoutCutToken head :=
            withoutCutToken_append (by simpa using isToken)
          rw [dropped]
          refine ⟨run ++ [unit], ?_, ?_, last⟩
          · rw [← List.append_assoc, ← whole]
          · intro other member
            rcases List.mem_append.mp member with before | here
            · exact tokens other before
            · rw [List.mem_singleton.mp here]
              exact isToken
      | false =>
          have held : withoutCutToken (head ++ [unit]) = head ++ [unit] :=
            withoutCutToken_of_last (by simp) isToken
          rw [held]
          refine ⟨[], (List.append_nil _).symm, by simp, ?_⟩
          intro other last
          rw [List.getLast?_concat] at last
          cases last
          exact isToken

theorem Piece.nonempty (isPiece : Piece secret piece) : piece ≠ [] := by
  rintro rfl
  exact absurd isPiece.1 (by decide)

theorem keepsPiece_iff : KeepsPiece secret value ↔ PieceBeforeCut secret value := by
  constructor
  · rintro ⟨piece, isPiece, front, isKept⟩
    obtain ⟨run, whole, tokens, last⟩ := exists_cut_token (value.take maxScannedChars)
    refine ⟨piece, run, isPiece, ⟨front, ?_⟩, tokens, piece.getLast isPiece.nonempty,
      List.getLast?_eq_some_getLast _, ?_⟩
    · rw [← List.append_assoc, isKept]
      exact whole.symm
    · apply last
      rw [show withoutCutToken (value.take maxScannedChars) = front ++ piece from isKept.symm,
        List.getLast?_append_of_ne_nil _ isPiece.nonempty]
      exact List.getLast?_eq_some_getLast _
  · rintro ⟨piece, run, isPiece, ⟨front, whole⟩, tokens, unit, isLast, noToken⟩
    have last : unit ∈ (front ++ piece).getLast? := by
      rw [List.getLast?_append_of_ne_nil _ isPiece.nonempty]
      exact isLast
    refine ⟨piece, isPiece, front, ?_⟩
    rw [kept, ← whole, ← List.append_assoc, withoutCutToken_append tokens,
      withoutCutToken_of_last last noToken]

/-- The units that a cut can come behind, from the eighth on. -/
def cutUnits (secret : Utf16) : Utf16 := (secret.dropLast.take maxScannedChars).drop 7

theorem mem_cutUnits {unit : UInt16} :
    unit ∈ cutUnits secret ↔
      ∃ index, 7 ≤ index ∧ index < maxScannedChars ∧ index + 1 < secret.length ∧ secret[index]? = some unit := by
  unfold cutUnits
  rw [List.mem_iff_getElem?]
  constructor
  · rintro ⟨place, found⟩
    rw [List.getElem?_drop, List.getElem?_take] at found
    split at found
    · rename_i inside
      rw [List.getElem?_dropLast] at found
      split at found
      · exact ⟨7 + place, Nat.le_add_right _ _, inside, by omega, found⟩
      · cases found
    · cases found
  · rintro ⟨index, eighth, inside, notLast, found⟩
    refine ⟨index - 7, ?_⟩
    rw [List.getElem?_drop, Nat.add_sub_cancel' eighth, List.getElem?_take, if_pos inside,
      List.getElem?_dropLast, if_pos (by omega)]
    exact found

/-- A secret has the last unit of its pieces. -/
theorem Piece.getLast? (isPiece : Piece secret piece) : piece.getLast? = secret[piece.length - 1]? := by
  obtain ⟨long, rest, rfl⟩ := isPiece
  rw [List.getLast?_eq_getElem?, List.getElem?_append_left (by omega)]

/-- A piece that is kept, and is not all of the secret, ends in a unit that the cut came behind. -/
theorem exists_cutUnit (isPiece : Piece secret piece) (proper : piece ≠ secret) (ends : piece <:+ kept value) :
    ∃ unit ∈ cutUnits secret, isTokenUnit unit = false := by
  have last : isTokenUnit (piece.getLast isPiece.nonempty) = false := by
    obtain ⟨run, -, -, noToken⟩ := exists_cut_token (value.take maxScannedChars)
    obtain ⟨front, isKept⟩ := ends
    apply noToken
    rw [show withoutCutToken (value.take maxScannedChars) = front ++ piece from isKept.symm,
      List.getLast?_append_of_ne_nil _ isPiece.nonempty]
    exact List.getLast?_eq_some_getLast _
  have short : piece.length ≤ maxScannedChars :=
    ends.length_le.trans ((List.rdropWhile_prefix _ _).length_le.trans (List.length_take_le _ _))
  have notAll : piece.length < secret.length :=
    lt_of_le_of_ne isPiece.2.length_le fun same => proper (isPiece.2.eq_of_length same)
  have long := isPiece.1
  have found := isPiece.getLast?
  rw [List.getLast?_eq_some_getLast isPiece.nonempty] at found
  refine ⟨_, mem_cutUnits.mpr ⟨piece.length - 1, ?_, ?_, ?_, found.symm⟩, last⟩
  · omega
  · omega
  · omega

/-- A text that is cut right behind a unit of the secret. -/
def cutBehind (secret : Utf16) (index : Nat) : Utf16 :=
  List.replicate (maxScannedChars - (index + 1)) 32 ++ (secret ++ [])

theorem straddles_cutBehind {index : Nat} (inside : index < maxScannedChars)
    (notLast : index + 1 < secret.length) : Straddles secret (cutBehind secret index) := by
  refine ⟨_, _, rfl, ?_, ?_⟩
  · rw [List.length_replicate]
    omega
  · rw [List.length_replicate]
    omega

theorem kept_cutBehind {unit : UInt16} {index : Nat} (inside : index < maxScannedChars)
    (found : secret[index]? = some unit) (noToken : isTokenUnit unit = false) :
    kept (cutBehind secret index) =
      List.replicate (maxScannedChars - (index + 1)) 32 ++ secret.take (index + 1) := by
  have head : (cutBehind secret index).take maxScannedChars =
      List.replicate (maxScannedChars - (index + 1)) 32 ++ secret.take (index + 1) := by
    rw [cutBehind, List.append_nil, List.take_append, List.length_replicate,
      List.take_of_length_le (by rw [List.length_replicate]; omega)]
    congr 2
    omega
  rw [kept, head]
  refine withoutCutToken_of_last ?_ noToken
  rw [List.take_add_one, found, Option.toList_some, ← List.append_assoc]
  exact List.getLast?_concat

/-- A secret that can stay whole in front of a cut that another occurrence of it straddles: the other one begins
    right behind it, with a unit that is dropped, or it begins within it, with an end of the secret that is also
    a beginning. -/
structure WholeStays (secret : Utf16) : Prop where
  long : 8 ≤ secret.length
  last : ∃ unit ∈ secret.getLast?, isTokenUnit unit = false
  again : (secret.length < maxScannedChars ∧ ∃ unit ∈ secret.head?, isTokenUnit unit = true) ∨
    (secret.length ≤ maxScannedChars ∧ ∃ border, border ≠ [] ∧ border ≠ secret ∧ border <+: secret ∧
      border <:+ secret)

/-- A secret that is kept whole, where the cut goes through another occurrence of it. -/
theorem WholeStays.of_kept (isPiece : Piece secret secret) (straddles : Straddles secret value)
    (ends : secret <:+ kept value) : WholeStays secret := by
  obtain ⟨before, after, rfl, begins, behind⟩ := straddles
  obtain ⟨run, whole, tokens, noToken⟩ := exists_cut_token ((before ++ (secret ++ after)).take maxScannedChars)
  have notCut : secret <:+ withoutCutToken ((before ++ (secret ++ after)).take maxScannedChars) := ends
  obtain ⟨front, isKept⟩ := notCut
  rw [← isKept] at whole noToken
  -- The head of the text ends with the part of the straddling occurrence that is in front of the cut.
  have head : (before ++ (secret ++ after)).take maxScannedChars =
      before ++ secret.take (maxScannedChars - before.length) := by
    rw [List.take_append, List.take_of_length_le begins.le, List.take_append_of_le_length (by omega)]
  rw [head] at whole
  have partLength : (secret.take (maxScannedChars - before.length)).length = maxScannedChars - before.length := by
    rw [List.length_take]
    omega
  have size := congrArg List.length whole
  simp only [List.length_append, partLength] at size
  have last : ∃ unit ∈ secret.getLast?, isTokenUnit unit = false := by
    refine ⟨_, List.getLast?_eq_some_getLast isPiece.nonempty, noToken _ ?_⟩
    rw [List.getLast?_append_of_ne_nil _ isPiece.nonempty]
    exact List.getLast?_eq_some_getLast _
  have isSuffix : secret.take (maxScannedChars - before.length) <:+ (front ++ secret) ++ run := ⟨before, whole⟩
  by_cases inRun : maxScannedChars - before.length ≤ run.length
  · -- All of that part is dropped, so the secret begins with a unit that is.
    refine ⟨isPiece.1, last, .inl ⟨by omega, ?_⟩⟩
    have dropped := List.suffix_of_suffix_length_le isSuffix (List.suffix_append _ run) (by omega)
    cases secret with
    | nil => exact absurd isPiece.1 (by decide)
    | cons first rest =>
        refine ⟨first, rfl, tokens first (dropped.subset ?_)⟩
        obtain ⟨more, isMore⟩ : ∃ n, maxScannedChars - before.length = n + 1 := ⟨_, (Nat.succ_pred (by omega)).symm⟩
        rw [isMore, List.take_succ_cons]
        exact List.mem_cons_self
  · -- What is not dropped of it is an end of the occurrence that is kept.
    refine ⟨isPiece.1, last, .inr ⟨by omega, ?_⟩⟩
    obtain ⟨border, isPart⟩ := List.suffix_of_suffix_length_le (List.suffix_append _ run) isSuffix (by omega)
    have partSize := congrArg List.length isPart
    rw [List.length_append, partLength] at partSize
    refine ⟨border, ?_, ?_, ?_, ?_⟩
    · rintro rfl
      rw [List.length_nil] at partSize
      omega
    · rintro rfl
      omega
    · exact (isPart ▸ List.prefix_append border run).trans (List.take_prefix _ _)
    · have bothEnd : border <:+ front ++ secret := by
        obtain ⟨start, isWhole⟩ := isSuffix
        rw [← isPart, ← List.append_assoc] at isWhole
        exact ⟨start, List.append_cancel_right isWhole⟩
      exact List.suffix_of_suffix_length_le bothEnd (List.suffix_append front secret) (by omega)

/-- A text whose kept part ends right behind the secret. -/
theorem keepsPiece_whole (long : 8 ≤ secret.length) {unit : UInt16} (last : unit ∈ secret.getLast?)
    (noToken : isTokenUnit unit = false) {front run after : Utf16} (tokens : ∀ unit ∈ run, isTokenUnit unit = true)
    (cut : (front ++ secret ++ run).length = maxScannedChars) :
    KeepsPiece secret (front ++ secret ++ run ++ after) := by
  rw [keepsPiece_iff]
  refine ⟨secret, run, ⟨long, List.prefix_refl _⟩, ⟨front, ?_⟩, tokens, unit, last, noToken⟩
  rw [← cut, List.take_left, List.append_assoc]

/-- Such a secret, written twice. -/
theorem WholeStays.exists_text (stays : WholeStays secret) :
    ∃ text, Straddles secret text ∧ KeepsPiece secret text := by
  obtain ⟨long, ⟨unit, isLast, noToken⟩, again⟩ := stays
  rcases again with ⟨short, first, isFirst, isToken⟩ | ⟨short, border, notEmpty, notAll, ⟨rest, isStart⟩, start, isEnd⟩
  · obtain ⟨rest, rfl⟩ := List.head?_eq_some_iff.mp isFirst
    refine ⟨_, ⟨List.replicate (maxScannedChars - (rest.length + 2)) 32 ++ first :: rest, [], rfl, ?_, ?_⟩, ?_⟩
    · simp only [List.length_append, List.length_replicate, List.length_cons] at short ⊢
      omega
    · simp only [List.length_append, List.length_replicate, List.length_cons] at short long ⊢
      omega
    · have again := @keepsPiece_whole _ long unit isLast noToken
        (List.replicate (maxScannedChars - (rest.length + 2)) 32) [first] rest (by simpa using isToken) (by
          simp only [List.length_append, List.length_replicate, List.length_cons, List.length_nil] at short ⊢
          omega)
      simpa using again
  · have sizes := congrArg List.length isStart
    have sizes' := congrArg List.length isEnd
    have positive := List.length_pos_iff.mpr notEmpty
    rw [List.length_append] at sizes sizes'
    have notSame : border.length ≠ secret.length := fun same =>
      notAll (List.IsPrefix.eq_of_length ⟨rest, isStart⟩ same)
    refine ⟨_, ⟨List.replicate (maxScannedChars - secret.length) 32 ++ start, [], rfl, ?_, ?_⟩, ?_⟩
    · rw [List.length_append, List.length_replicate]
      omega
    · rw [List.length_append, List.length_replicate]
      omega
    · have again := @keepsPiece_whole _ long unit isLast noToken
        (List.replicate (maxScannedChars - secret.length) 32) [] rest (by simp) (by
          rw [List.append_nil, List.length_append, List.length_replicate]
          omega)
      have same : List.replicate (maxScannedChars - secret.length) 32 ++ start ++ (secret ++ []) =
          List.replicate (maxScannedChars - secret.length) 32 ++ secret ++ [] ++ rest := by
        rw [List.append_nil, List.append_nil, List.append_assoc, List.append_assoc]
        congr 1
        nth_rewrite 1 [← isStart]
        rw [← List.append_assoc, isEnd]
      rw [same]
      exact again

/-- A cut leaves nothing of a secret exactly where no piece of it, ended by a unit that is no token unit, stands
    before the cut with token units alone between them. A secret is safe in every text exactly where all units
    that a cut can come behind, from the eighth on, are token units, and it cannot stay whole in front of another
    occurrence of it. -/
theorem cut_secret_leaves_nothing_iff (secret value : Utf16) :
    ((Straddles secret value → ¬ KeepsPiece secret value) ↔
      (Straddles secret value → ¬ PieceBeforeCut secret value)) ∧
    ((∀ text, Straddles secret text → ¬ KeepsPiece secret text) ↔
      (∀ unit ∈ cutUnits secret, isTokenUnit unit = true) ∧ ¬ WholeStays secret) := by
  refine ⟨by rw [keepsPiece_iff], ?_, ?_⟩
  · intro safe
    refine ⟨fun unit member => ?_, fun stays => ?_⟩
    · obtain ⟨index, eighth, inside, notLast, found⟩ := mem_cutUnits.mp member
      by_contra noToken
      refine safe _ (straddles_cutBehind inside notLast) ⟨secret.take (index + 1), ⟨?_, List.take_prefix _ _⟩, ?_⟩
      · rw [List.length_take]
        omega
      · rw [kept_cutBehind inside found (Bool.eq_false_iff.mpr noToken)]
        exact List.suffix_append _ _
    · obtain ⟨text, straddles, keeps⟩ := stays.exists_text
      exact safe text straddles keeps
  · rintro ⟨tokens, noWhole⟩ text straddles ⟨piece, isPiece, ends⟩
    by_cases all : piece = secret
    · subst all
      exact noWhole (.of_kept isPiece straddles ends)
    · obtain ⟨unit, member, noToken⟩ := exists_cutUnit isPiece all ends
      rw [tokens unit member] at noToken
      cases noToken

/-- An operator's password with an exclamation mark, cut right behind it. -/
theorem cut_secret_leaves_piece :
    units "p4ssw0rd!2026" ∈ registered [[some (units "p4ssw0rd!2026")]] ∧
      Straddles (units "p4ssw0rd!2026") (cutBehind (units "p4ssw0rd!2026") 8) ∧
      KeepsPiece (units "p4ssw0rd!2026") (cutBehind (units "p4ssw0rd!2026") 8) := by
  refine ⟨by decide +kernel, straddles_cutBehind (by decide) (by decide +kernel),
    (units "p4ssw0rd!2026").take 9, ⟨by decide +kernel, List.take_prefix _ _⟩, ?_⟩
  rw [@kept_cutBehind _ 33 8 (by decide) (by decide +kernel) (by decide +kernel)]
  exact List.suffix_append _ _

end JumptotechLabs.Observability
