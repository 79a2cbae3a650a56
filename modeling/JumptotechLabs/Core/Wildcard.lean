/-
Module: JumptotechLabs.Core.Wildcard
Layer: Core (library)
Purpose: Patterns with a unit that stands for any sequence and a unit that stands for any one unit, and
  the greedy matcher that remembers only the last such unit it met. The matcher tests for an equal unit
  before it tests for the wildcard, so a wildcard that faces the same unit in the value stands for that
  one alone; it decides the language of the pattern where such a reading exists.
Main exports: Globs, Scan, Scan.next, scanLoop, globMatch, scanLoop_terminates, Faces, Faces.globs,
  globMatch_iff, globMatch_exact_iff
-/
import Mathlib.Data.List.Forall2
import Mathlib.Tactic.Ring

namespace JumptotechLabs.Core

variable {α : Type}

/-- The language of a pattern: `star` stands for any sequence, `any` for one unit, every other unit for
    itself. -/
inductive Globs (star any : α) : List α → List α → Prop
  | nil : Globs star any [] []
  | literal (unit : α) {pattern value : List α} (notStar : unit ≠ star) (notAny : unit ≠ any)
      (rest : Globs star any pattern value) : Globs star any (unit :: pattern) (unit :: value)
  | one (unit : α) {pattern value : List α} (rest : Globs star any pattern value) :
      Globs star any (any :: pattern) (unit :: value)
  | stop {pattern value : List α} (rest : Globs star any pattern value) :
      Globs star any (star :: pattern) value
  | absorb (unit : α) {pattern value : List α} (rest : Globs star any (star :: pattern) value) :
      Globs star any (star :: pattern) (unit :: value)

/-! ### The matcher -/

/-- Where the matcher stands: what is left of the pattern and of the value, and what was left of them
    behind the last `star` it met, when it met it or rewound to it last. -/
structure Scan (α : Type) where
  pattern : List α
  value : List α
  mark : Option (List α × List α)

section Matcher

variable [DecidableEq α] (star any : α)

/-- The last `star` takes one more unit. -/
def Scan.rewind (scan : Scan α) : Option (Scan α) :=
  scan.mark.map fun (behind, matched) => ⟨behind, matched.tail, some (behind, matched.tail)⟩

/-- One turn of the loop, on a value that has a unit left; nothing where it gives up. -/
def Scan.next (scan : Scan α) (unit : α) (value : List α) : Option (Scan α) :=
  match scan.pattern with
  | [] => scan.rewind
  | head :: rest =>
      if head = any ∨ head = unit then some ⟨rest, value, scan.mark⟩
      else if head = star then some ⟨rest, unit :: value, some (rest, unit :: value)⟩
      else scan.rewind

/-- The loop, and the test behind it: only `star` may be left of the pattern. -/
def scanLoop : Nat → Scan α → Option Bool
  | 0, _ => none
  | fuel + 1, scan =>
      match scan.value with
      | [] => some (scan.pattern.dropWhile (· = star)).isEmpty
      | unit :: value =>
          match scan.next star any unit value with
          | none => some false
          | some next => scanLoop fuel next

/-- More turns than the loop can take. -/
def scanFuel (pattern value : List α) : Nat :=
  (value.length + 1) * (pattern.length + value.length + 1) + pattern.length + value.length + 1

/-- Does the matcher accept the value? -/
def globMatch (pattern value : List α) : Bool :=
  (scanLoop star any (scanFuel pattern value) ⟨pattern, value, none⟩).getD false

end Matcher

/-! ### The loop ends -/

section Termination

variable [DecidableEq α] {star any : α}

/-- The lengths a scan of this pattern and this value can have. -/
structure Scan.Within (patternLength valueLength : Nat) (scan : Scan α) : Prop where
  pattern : scan.pattern.length ≤ patternLength
  value : scan.value.length ≤ valueLength
  behind : ∀ mark ∈ scan.mark, mark.1.length ≤ patternLength
  matched : ∀ mark ∈ scan.mark, scan.value.length ≤ mark.2.length ∧ mark.2.length ≤ valueLength

/-- What gets smaller with every turn: first the units the last `star` has not taken, then what is left
    of the pattern and of the value. -/
def Scan.measure (patternLength valueLength : Nat) (scan : Scan α) : Nat :=
  (match scan.mark with
    | none => valueLength + 1
    | some mark => mark.2.length) * (patternLength + valueLength + 1) +
    scan.pattern.length + scan.value.length

omit [DecidableEq α] in
theorem Scan.rewind_smaller {m n : Nat} {scan next : Scan α} (within : scan.Within m n)
    (nonempty : 0 < scan.value.length) (rewound : scan.rewind = some next) :
    next.Within m n ∧ next.measure m n < scan.measure m n := by
  obtain ⟨⟨behind, matched⟩, isMark, rfl⟩ := Option.map_eq_some_iff.mp rewound
  have patternBound : behind.length ≤ m := within.behind _ isMark
  have ⟨long, valueBound⟩ := within.matched _ isMark
  have shorter : matched.tail.length + 1 = matched.length := by
    rw [List.length_tail]
    simp only at long
    omega
  refine ⟨⟨patternBound, ?_, ?_, ?_⟩, ?_⟩
  · simp only at valueBound ⊢
    omega
  · simpa using patternBound
  · simp only at valueBound ⊢
    simp
    omega
  · simp only at valueBound
    have step : matched.length * (m + n + 1) = matched.tail.length * (m + n + 1) + (m + n + 1) := by
      rw [← shorter]
      ring
    simp only [Scan.measure, isMark, step]
    omega

theorem Scan.next_smaller {m n : Nat} {scan next : Scan α} {unit : α} {value : List α}
    (within : scan.Within m n) (isValue : scan.value = unit :: value)
    (stepped : scan.next star any unit value = some next) :
    next.Within m n ∧ next.measure m n < scan.measure m n := by
  have nonempty : 0 < scan.value.length := by simp [isValue]
  rw [Scan.next] at stepped
  split at stepped
  · exact Scan.rewind_smaller within nonempty stepped
  · rename_i head rest isPattern
    have patternBound := within.pattern
    have valueBound := within.value
    rw [isPattern, List.length_cons] at patternBound
    rw [isValue, List.length_cons] at valueBound
    split at stepped
    · cases stepped
      refine ⟨⟨by simpa using by omega, by simpa using by omega, within.behind, ?_⟩, ?_⟩
      · intro mark isMark
        have bound := within.matched mark isMark
        rw [isValue, List.length_cons] at bound
        exact ⟨by simp only; omega, bound.2⟩
      · simp only [Scan.measure, isPattern, isValue, List.length_cons]
        omega
    · split at stepped
      · cases stepped
        refine ⟨⟨by simpa using by omega, by simpa using by omega, ?_, ?_⟩, ?_⟩
        · simp
          omega
        · simp
          omega
        · cases isMark : scan.mark with
          | none =>
              simp only [Scan.measure, isMark, isPattern, isValue, List.length_cons]
              have less : (value.length + 1) * (m + n + 1) ≤ (n + 1) * (m + n + 1) :=
                Nat.mul_le_mul_right _ (by omega)
              omega
          | some mark =>
              have bound := within.matched mark isMark
              rw [isValue, List.length_cons] at bound
              simp only [Scan.measure, isMark, isPattern, isValue, List.length_cons]
              have less : (value.length + 1) * (m + n + 1) ≤ mark.2.length * (m + n + 1) :=
                Nat.mul_le_mul_right _ bound.1
              omega
      · exact Scan.rewind_smaller within nonempty stepped

/-- With more turns than the measure the loop comes to an answer. -/
theorem scanLoop_isSome {m n : Nat} (fuel : Nat) (scan : Scan α) (within : scan.Within m n)
    (enough : scan.measure m n < fuel) : (scanLoop star any fuel scan).isSome = true := by
  induction fuel generalizing scan with
  | zero => omega
  | succ fuel ih =>
      rw [scanLoop]
      split
      · rfl
      · rename_i unit value isValue
        split
        · rfl
        · rename_i next stepped
          obtain ⟨within, smaller⟩ := Scan.next_smaller within isValue stepped
          exact ih next within (by omega)

theorem scanLoop_terminates (star any : α) (pattern value : List α) :
    (scanLoop star any (scanFuel pattern value) ⟨pattern, value, none⟩).isSome = true := by
  apply scanLoop_isSome (m := pattern.length) (n := value.length)
  · exact ⟨le_refl _, le_refl _, by simp, by simp⟩
  · simp only [Scan.measure, scanFuel]
    omega

end Termination

/-! ### What the matcher takes -/

/-- The matcher's own reading of a pattern: a `star` that faces a `star` of the value stands for that one
    alone, any other `star` for any sequence. -/
inductive Faces (star any : α) : List α → List α → Prop
  | nil : Faces star any [] []
  | equal (unit : α) {pattern value : List α} (rest : Faces star any pattern value) :
      Faces star any (unit :: pattern) (unit :: value)
  | one (unit : α) {pattern value : List α} (rest : Faces star any pattern value) :
      Faces star any (any :: pattern) (unit :: value)
  | skip (taken : List α) {pattern value : List α} (begins : (taken ++ value).head? ≠ some star)
      (rest : Faces star any pattern value) : Faces star any (star :: pattern) (taken ++ value)

section Language

variable {star any : α}

namespace Faces

variable {head unit : α} {pattern value : List α}

theorem nil_iff : Faces star any [] value ↔ value = [] := by
  constructor
  · intro reading
    cases reading
    rfl
  · rintro rfl
    exact .nil

/-- A unit that takes the first one takes it alone, `star` with `star` too. -/
theorem cons_iff (differ : star ≠ any) (takes : head = any ∨ head = unit) :
    Faces star any (head :: pattern) (unit :: value) ↔ Faces star any pattern value := by
  constructor
  · intro reading
    generalize whole : unit :: value = given at reading
    cases reading with
    | equal _ rest =>
        cases whole
        exact rest
    | one _ rest =>
        cases whole
        exact rest
    | skip taken begins rest =>
        rw [← whole, ← takes.resolve_left differ] at begins
        exact absurd rfl begins
  · intro rest
    rcases takes with rfl | rfl
    · exact .one unit rest
    · exact .equal head rest

/-- A `star` that does not face a `star` takes any part in front. -/
theorem star_iff (differ : star ≠ any) (begins : value.head? ≠ some star) :
    Faces star any (star :: pattern) value ↔
      ∃ rest, rest <:+ value ∧ Faces star any pattern rest := by
  constructor
  · intro reading
    cases reading with
    | equal _ rest => exact absurd rfl begins
    | one _ _ => exact absurd rfl differ
    | skip taken _ rest => exact ⟨_, List.suffix_append _ _, rest⟩
  · rintro ⟨rest, ⟨taken, rfl⟩, reading⟩
    exact .skip taken begins reading

theorem not_cons (notStar : head ≠ star) (refuses : ¬ (head = any ∨ head = unit)) :
    ¬ Faces star any (head :: pattern) (unit :: value) := by
  intro reading
  generalize whole : unit :: value = given at reading
  cases reading with
  | equal _ _ =>
      cases whole
      exact refuses (.inr rfl)
  | one _ _ => exact refuses (.inl rfl)
  | skip _ _ _ => exact notStar rfl

/-- What is behind a unit reads what is behind a part of the value. -/
theorem behind (reading : Faces star any (head :: pattern) value) :
    ∃ rest, rest <:+ value ∧ Faces star any pattern rest := by
  cases reading with
  | equal _ rest => exact ⟨_, List.suffix_cons _ _, rest⟩
  | one _ rest => exact ⟨_, List.suffix_cons _ _, rest⟩
  | skip taken _ rest => exact ⟨_, List.suffix_append _ _, rest⟩

/-- Why the earlier `star` may be forgotten: whatever more it takes, the pattern behind what has been read
    since then reads within what is left of the value. A `star` among what has been read faced a `star`,
    so the other reading never falls behind. -/
theorem within_of_suffix (differ : star ≠ any) {part matched : List α}
    (faced : List.Forall₂ (fun head unit => head = any ∨ head = unit) part matched)
    {later : List α} (isLater : later <:+ matched ++ value)
    (reading : Faces star any (part ++ pattern) later) :
    ∃ rest, rest <:+ value ∧ Faces star any pattern rest := by
  induction faced generalizing later with
  | nil => exact ⟨later, isLater, reading⟩
  | @cons head unit part matched takes _ ih =>
      rw [List.cons_append] at isLater reading
      rcases List.suffix_cons_iff.mp isLater with rfl | further
      · exact ih (List.suffix_refl _) ((cons_iff differ takes).mp reading)
      · obtain ⟨rest, isRest, reading⟩ := reading.behind
        exact ih (isRest.trans further) reading

theorem nil_right_iff [DecidableEq α] (any : α) (pattern : List α) :
    Faces star any pattern [] ↔ (pattern.dropWhile (· = star)).isEmpty = true := by
  induction pattern with
  | nil => simpa using Faces.nil
  | cons head pattern ih =>
      by_cases isStar : head = star
      · subst isStar
        rw [List.dropWhile_cons_of_pos (by simp), ← ih]
        constructor
        · intro reading
          obtain ⟨rest, isRest, reading⟩ := reading.behind
          rw [List.suffix_nil.mp isRest] at reading
          exact reading
        · exact Faces.skip [] (by simp)
      · rw [List.dropWhile_cons_of_neg (by simpa using isStar)]
        simp only [List.isEmpty_cons, Bool.false_eq_true, iff_false]
        intro reading
        generalize whole : ([] : List α) = given at reading
        cases reading with
        | equal _ _ => cases whole
        | one _ _ => cases whole
        | skip _ _ _ => exact isStar rfl

/-- What the matcher's reading takes is in the language. -/
theorem globs (reading : Faces star any pattern value) : Globs star any pattern value := by
  induction reading with
  | nil => exact .nil
  | equal unit _ ih =>
      by_cases isStar : unit = star
      · rw [isStar]
        exact .absorb star (.stop ih)
      · by_cases isAny : unit = any
        · rw [isAny]
          exact .one any ih
        · exact .literal unit isStar isAny ih
  | one unit _ ih => exact .one unit ih
  | skip taken begins _ ih =>
      clear begins
      induction taken with
      | nil => exact .stop ih
      | cons unit taken more => exact .absorb unit more

end Faces

end Language

/-! ### The matcher takes just that -/

section Correctness

variable [DecidableEq α] {star any : α}

/-- The scan can still succeed: as it stands, or after the last `star` takes more. -/
def Scan.Accepts (star any : α) (scan : Scan α) : Prop :=
  Faces star any scan.pattern scan.value ∨
    ∃ mark ∈ scan.mark, ∃ rest, rest <:+ mark.2.tail ∧ Faces star any mark.1 rest

/-- What the matcher has read since the last `star`, it has read unit by unit. -/
def Scan.Tracks (any : α) (scan : Scan α) : Prop :=
  ∀ mark ∈ scan.mark, ∃ part matched, mark.1 = part ++ scan.pattern ∧ mark.2 = matched ++ scan.value ∧
    List.Forall₂ (fun head unit => head = any ∨ head = unit) part matched

omit [DecidableEq α] in
/-- From the last `star` on, what is left of the pattern reads within what is left of the value. -/
theorem Scan.Tracks.within {scan : Scan α} (tracks : scan.Tracks any) (differ : star ≠ any)
    {mark : List α × List α} (isMark : mark ∈ scan.mark) {later : List α}
    (isLater : later <:+ mark.2.tail) (reading : Faces star any mark.1 later) :
    ∃ rest, rest <:+ scan.value ∧ Faces star any scan.pattern rest := by
  obtain ⟨part, matched, isPattern, isValue, faced⟩ := tracks mark isMark
  have whole : later <:+ matched ++ scan.value := isValue ▸ isLater.trans (List.tail_suffix _)
  rw [isPattern] at reading
  exact Faces.within_of_suffix differ faced whole reading

omit [DecidableEq α] in
theorem Scan.tracks_mark (any : α) (pattern value : List α) :
    Scan.Tracks any ⟨pattern, value, some (pattern, value)⟩ := by
  intro mark isMark
  cases Option.some.inj isMark
  exact ⟨[], [], rfl, rfl, .nil⟩

omit [DecidableEq α] in
/-- Whatever part a `star` takes in front, it takes none of it or takes the first unit and more. -/
theorem Scan.accepts_mark (star any : α) (pattern value : List α) :
    Scan.Accepts star any ⟨pattern, value, some (pattern, value)⟩ ↔
      ∃ rest, rest <:+ value ∧ Faces star any pattern rest := by
  simp only [Scan.Accepts, Option.mem_def, Option.some.injEq, exists_eq_left']
  constructor
  · rintro (reading | ⟨rest, isRest, reading⟩)
    · exact ⟨value, List.suffix_refl _, reading⟩
    · exact ⟨rest, isRest.trans (List.tail_suffix _), reading⟩
  · rintro ⟨rest, isRest, reading⟩
    cases value with
    | nil =>
        rw [List.suffix_nil.mp isRest] at reading
        exact .inl reading
    | cons unit value =>
        rcases List.suffix_cons_iff.mp isRest with rfl | further
        · exact .inl reading
        · exact .inr ⟨rest, further, reading⟩

omit [DecidableEq α] in
/-- Where the pattern fails here, all depends on the last `star`. -/
theorem Scan.rewind_accepts {scan : Scan α} (fails : ¬ Faces star any scan.pattern scan.value) :
    match scan.rewind with
    | none => ¬ scan.Accepts star any
    | some next => next.Tracks any ∧ (next.Accepts star any ↔ scan.Accepts star any) := by
  rw [Scan.rewind]
  cases isMark : scan.mark with
  | none => simp [Scan.Accepts, fails, isMark]
  | some mark =>
      obtain ⟨behind, matched⟩ := mark
      simp only [Option.map_some]
      refine ⟨Scan.tracks_mark any behind matched.tail, ?_⟩
      rw [Scan.accepts_mark]
      simp [Scan.Accepts, fails, isMark]

/-- One turn of the loop keeps whether the scan can succeed. -/
theorem Scan.next_accepts {scan : Scan α} {unit : α} {value : List α} (tracks : scan.Tracks any)
    (differ : star ≠ any) (isValue : scan.value = unit :: value) :
    match scan.next star any unit value with
    | none => ¬ scan.Accepts star any
    | some next => next.Tracks any ∧ (next.Accepts star any ↔ scan.Accepts star any) := by
  rw [Scan.next]
  cases isPattern : scan.pattern with
  | nil =>
      apply Scan.rewind_accepts
      simp [isPattern, isValue, Faces.nil_iff]
  | cons head rest =>
      simp only
      by_cases takes : head = any ∨ head = unit
      · rw [if_pos takes]
        constructor
        · intro mark isMark
          obtain ⟨part, matched, ofPattern, ofValue, faced⟩ := tracks mark isMark
          refine ⟨part ++ [head], matched ++ [unit], ?_, ?_, ?_⟩
          · simp [ofPattern, isPattern]
          · simp [ofValue, isValue]
          · exact List.rel_append faced (.cons takes .nil)
        · simp only [Scan.Accepts, isPattern, isValue]
          rw [Faces.cons_iff differ takes]
      · rw [if_neg takes]
        by_cases isStar : head = star
        · rw [if_pos isStar]
          subst isStar
          refine ⟨Scan.tracks_mark any rest (unit :: value), ?_⟩
          have begins : (unit :: value).head? ≠ some head := by
            intro same
            exact takes (.inr (Option.some.inj same).symm)
          rw [Scan.accepts_mark]
          constructor
          · intro reading
            left
            rw [isPattern, isValue]
            exact (Faces.star_iff differ begins).mpr reading
          · rintro (reading | ⟨mark, isMark, later, isLater, reading⟩)
            · rw [isPattern, isValue] at reading
              exact (Faces.star_iff differ begins).mp reading
            · -- The earlier `star` is forgotten: what it could still reach, this one reaches too.
              obtain ⟨part, isPart, reading⟩ := tracks.within differ isMark isLater reading
              rw [isPattern] at reading
              rw [isValue] at isPart
              obtain ⟨later, isLater, reading⟩ := reading.behind
              exact ⟨later, isLater.trans isPart, reading⟩
        · rw [if_neg isStar]
          apply Scan.rewind_accepts
          rw [isPattern, isValue]
          exact Faces.not_cons isStar takes

theorem scanLoop_iff (differ : star ≠ any) (fuel : Nat) (scan : Scan α)
    (tracks : scan.Tracks any) {answer : Bool}
    (answered : scanLoop star any fuel scan = some answer) :
    answer = true ↔ scan.Accepts star any := by
  induction fuel generalizing scan with
  | zero => cases answered
  | succ fuel ih =>
      rw [scanLoop] at answered
      split at answered
      · rename_i atEnd
        cases answered
        rw [← Faces.nil_right_iff any, Scan.Accepts, atEnd]
        constructor
        · exact .inl
        · rintro (reading | ⟨mark, isMark, later, isLater, reading⟩)
          · exact reading
          · obtain ⟨rest, isRest, reading⟩ := tracks.within differ isMark isLater reading
            rw [atEnd] at isRest
            rw [List.suffix_nil.mp isRest] at reading
            exact reading
      · rename_i unit value isValue
        have stepped := Scan.next_accepts tracks differ isValue
        split at answered
        · rename_i gaveUp
          cases answered
          rw [gaveUp] at stepped
          simpa using stepped
        · rename_i next isNext
          rw [isNext] at stepped
          rw [ih next stepped.1 answered, stepped.2]

/-- The matcher accepts what its own reading of the pattern takes. -/
theorem globMatch_iff (differ : star ≠ any) (pattern value : List α) :
    globMatch star any pattern value = true ↔ Faces star any pattern value := by
  obtain ⟨answer, answered⟩ :=
    Option.isSome_iff_exists.mp (scanLoop_terminates star any pattern value)
  rw [globMatch, answered, Option.getD_some, scanLoop_iff differ _ _ (by simp [Scan.Tracks]) answered]
  simp [Scan.Accepts]

/-- The matcher decides the language where a value of the language can be read with every `star` that
    faces a `star` standing for it alone. -/
theorem globMatch_exact_iff (differ : star ≠ any) (pattern value : List α) :
    (globMatch star any pattern value = true ↔ Globs star any pattern value) ↔
      (Globs star any pattern value → Faces star any pattern value) := by
  rw [globMatch_iff differ]
  constructor
  · exact fun same => same.mpr
  · intro reads
    exact ⟨Faces.globs, reads⟩

end Correctness

end JumptotechLabs.Core
