/-
Module: JumptotechLabs.Verifier.IamConditions
Layer: Verifier (services/verifier/src/iam-policy.ts)
Purpose: What the operators of a condition block say. However an operator is spelled, its qualifier and
  its suffix come off in one way; a negated operator is the complement of its counterpart, but for
  `NumericNotEquals` of what is not a number; and a key that is missing is answered by a table.
Main exports: Builtins.LowersAscii, Spells, ConditionForm.text, conditionForm_of_spells,
  presentHolds_negated, numericNotEquals_complement_iff, negated_operators_complement_iff
-/
import JumptotechLabs.Verifier.IamPolicy

namespace JumptotechLabs.Verifier

open JumptotechLabs.Core

/-- On ASCII texts `toLowerCase` lowers the letters `A` to `Z`. -/
def Builtins.LowersAscii (builtins : Builtins) : Prop :=
  ∀ text : Utf16, (∀ unit ∈ text, unit < 128) → builtins.toLowerCase text = text.map Utf16.lowerAscii

/-- The text is the name, in whatever case its letters are. -/
def Spells (text name : Utf16) : Prop := text.map Utf16.lowerAscii = name

instance (text name : Utf16) : Decidable (Spells text name) := inferInstanceAs (Decidable (_ = _))

theorem ConditionOperator.mem_all (op : ConditionOperator) : op ∈ ConditionOperator.all := by
  cases op <;> decide

namespace ConditionForm

/-- The name of the form, in lower case. -/
def text (form : ConditionForm) : Utf16 :=
  (match form.setQualifier with
    | none => []
    | some .any => units "foranyvalue:"
    | some .all => units "forallvalues:") ++
    form.op.name ++ if form.ifExists then units "ifexists" else []

/-- Every form there is. -/
def forms : List ConditionForm :=
  [none, some SetQualifier.any, some SetQualifier.all].flatMap fun setQualifier =>
    [true, false].flatMap fun ifExists => ConditionOperator.all.map fun op => ⟨setQualifier, ifExists, op⟩

theorem mem_forms (form : ConditionForm) : form ∈ forms := by
  obtain ⟨setQualifier, ifExists, op⟩ := form
  simp only [forms, List.mem_flatMap, List.mem_map]
  refine ⟨setQualifier, ?_, ifExists, ?_, op, ?_, rfl⟩
  · rcases setQualifier with - | (- | -) <;> simp
  · cases ifExists <;> simp
  · exact op.mem_all

end ConditionForm

/-! ### How an operator is read -/

theorem map_lowerAscii_map (text : Utf16) :
    (text.map Utf16.lowerAscii).map Utf16.lowerAscii = text.map Utf16.lowerAscii := by
  rw [List.map_map]
  exact List.map_congr_left fun unit _ => Utf16.lowerAscii_lowerAscii unit

theorem startsWithWord_map (word text : Utf16) :
    startsWithWord word (text.map Utf16.lowerAscii) = startsWithWord word text := by
  rw [startsWithWord, startsWithWord, ← List.map_take, map_lowerAscii_map]

theorem endsWithWord_map (word text : Utf16) :
    endsWithWord word (text.map Utf16.lowerAscii) = endsWithWord word text := by
  rw [endsWithWord, endsWithWord, List.length_map, ← List.map_drop, map_lowerAscii_map]

/-- What comes off in front does not depend on the case of the letters. -/
theorem peelQualifier_map (operator : Utf16) :
    peelQualifier (operator.map Utf16.lowerAscii) =
      ((peelQualifier operator).1, (peelQualifier operator).2.map Utf16.lowerAscii) := by
  simp only [peelQualifier, startsWithWord_map]
  split
  · rw [List.map_drop]
  · split
    · rw [List.map_drop]
    · rfl

/-- Nor does what comes off behind. -/
theorem peelIfExists_map (operator : Utf16) :
    peelIfExists (operator.map Utf16.lowerAscii) =
      ((peelIfExists operator).1, (peelIfExists operator).2.map Utf16.lowerAscii) := by
  simp only [peelIfExists, endsWithWord_map, List.length_map]
  split
  · rw [List.map_take]
  · rfl

/-- The name of a form comes apart into its qualifier, its suffix and its operator. -/
theorem peel_text : ∀ form ∈ ConditionForm.forms,
    (peelQualifier form.text).1 = form.setQualifier ∧
      peelIfExists (peelQualifier form.text).2 = (form.ifExists, form.op.name) := by
  decide +kernel

theorem names_are_ascii : ∀ op ∈ ConditionOperator.all,
    ConditionOperator.ofName op.name = some op ∧ ∀ unit ∈ op.name, unit < 128 := by
  have checked : ∀ op ∈ ConditionOperator.all,
      ConditionOperator.ofName op.name = some op ∧ op.name.all (· < 128) = true := by
    decide
  intro op known
  refine ⟨(checked op known).1, fun unit member => ?_⟩
  exact of_decide_eq_true (List.all_eq_true.mp (checked op known).2 unit member)

/-- An operator is read as the form it spells. -/
theorem conditionForm_of_spells {builtins : Builtins} (lowers : builtins.LowersAscii)
    {raw : Utf16} {form : ConditionForm} (spells : Spells raw form.text) :
    conditionForm builtins raw = some form := by
  obtain ⟨isQualifier, isRest⟩ := peel_text form (ConditionForm.mem_forms form)
  rw [← spells, peelQualifier_map] at isQualifier isRest
  rw [peelIfExists_map, Prod.mk.injEq] at isRest
  obtain ⟨isIfExists, isOperator⟩ := isRest
  have ascii : ∀ unit ∈ (peelIfExists (peelQualifier raw).2).2, unit < 128 := by
    intro unit inside
    apply Utf16.ascii_of_lowerAscii
    apply (names_are_ascii form.op form.op.mem_all).2
    rw [← isOperator]
    exact List.mem_map_of_mem inside
  have sameQualifier : (peelQualifier raw).1 = form.setQualifier := isQualifier
  rw [conditionForm]
  simp only [lowers _ ascii, isOperator,
    (names_are_ascii form.op form.op.mem_all).1, Option.map_some]
  rw [isIfExists, sameQualifier]

/-! ### A key that is present -/

/-- The operator a negated one is the complement of. -/
def ConditionOperator.positive : ConditionOperator → Option ConditionOperator
  | stringNotEquals => some stringEquals
  | stringNotEqualsIgnoreCase => some stringEqualsIgnoreCase
  | stringNotLike => some stringLike
  | arnNotEquals => some arnEquals
  | arnNotLike => some arnLike
  | numericNotEquals => some numericEquals
  | notIpAddress => some ipAddress
  | _ => none

theorem presentHolds_negated (builtins : Builtins) {op positive : ConditionOperator}
    (isPositive : op.positive = some positive) (notNumeric : op ≠ .numericNotEquals) (value : Utf16)
    (expected : List Utf16) :
    presentHolds builtins op value expected = !presentHolds builtins positive value expected := by
  cases op <;> cases isPositive
  case numericNotEquals => exact absurd rfl notNumeric
  all_goals rfl

/-- The context value is a finite number, and every listed one is, or one of them is the same number. -/
def Comparable (builtins : Builtins) (value : Utf16) (expected : List Utf16) : Prop :=
  ∃ number, builtins.toNumber value = .finite number ∧
    ((∀ listed ∈ expected, ∃ bound, builtins.toNumber listed = .finite bound) ∨
      ∃ listed ∈ expected, builtins.toNumber listed = .finite number)

theorem numericEquals_iff {actual bound : Number} :
    numericCompare .numericEquals actual bound = true ↔
      ∃ number, actual = .finite number ∧ bound = .finite number := by
  cases actual <;> cases bound <;> simp [numericCompare, Number.toFinite]
  exact eq_comm

theorem numericNotEquals_iff {actual bound : Number} :
    numericCompare .numericNotEquals actual bound = true ↔
      ∃ number other, actual = .finite number ∧ bound = .finite other ∧ number ≠ other := by
  cases actual <;> cases bound <;> simp [numericCompare, Number.toFinite]

/-- `NumericNotEquals` is the complement of `NumericEquals` just where numbers can be compared. -/
theorem numericNotEquals_complement_iff (builtins : Builtins) (value : Utf16) {expected : List Utf16}
    (nonempty : expected ≠ []) :
    (presentHolds builtins .numericNotEquals value expected = true ↔
        ¬ presentHolds builtins .numericEquals value expected = true) ↔
      Comparable builtins value expected := by
  simp only [presentHolds, List.all_eq_true, List.any_eq_true, numericEquals_iff, numericNotEquals_iff]
  constructor
  · intro complement
    by_cases same : ∃ listed ∈ expected, ∃ number, builtins.toNumber value = .finite number ∧
        builtins.toNumber listed = .finite number
    · obtain ⟨listed, isListed, number, isValue, isBound⟩ := same
      exact ⟨number, isValue, .inr ⟨listed, isListed, isBound⟩⟩
    · have differ := complement.mpr same
      obtain ⟨first, isFirst⟩ := List.exists_mem_of_ne_nil expected nonempty
      obtain ⟨number, -, isValue, -, -⟩ := differ first isFirst
      refine ⟨number, isValue, .inl ?_⟩
      intro listed isListed
      obtain ⟨-, bound, -, isBound, -⟩ := differ listed isListed
      exact ⟨bound, isBound⟩
  · rintro ⟨number, isValue, comparable⟩
    simp only [isValue, Number.finite.injEq]
    constructor
    · rintro differ ⟨listed, isListed, same, rfl, isSame⟩
      obtain ⟨_, bound, rfl, isBound, notSame⟩ := differ listed isListed
      rw [isSame, Number.finite.injEq] at isBound
      exact notSame isBound
    · intro notSame listed isListed
      rcases comparable with bounds | ⟨same, isSame, isBound⟩
      · obtain ⟨bound, isBound⟩ := bounds listed isListed
        refine ⟨number, bound, rfl, isBound, ?_⟩
        rintro rfl
        exact notSame ⟨listed, isListed, number, rfl, isBound⟩
      · exact absurd ⟨same, isSame, number, rfl, isBound⟩ notSame

theorem conditionHolds_of_spells {builtins : Builtins} (lowers : builtins.LowersAscii) {raw : Utf16}
    {form : ConditionForm} (spells : Spells raw form.text) (value : Option Utf16)
    (expected : List Utf16) :
    conditionHolds builtins raw value expected = .ok (form.holds builtins value expected) := by
  rw [conditionHolds_eq, conditionForm_of_spells lowers spells]

theorem holds_of_present (builtins : Builtins) {form : ConditionForm} (notNull : form.op ≠ .null)
    (value : Utf16) (expected : List Utf16) :
    form.holds builtins (some value) expected = presentHolds builtins form.op value expected := by
  rw [ConditionForm.holds, if_neg notNull]

theorem holds_of_missing (builtins : Builtins) {form : ConditionForm} (notNull : form.op ≠ .null)
    (expected : List Utf16) :
    form.holds builtins none expected =
      (form.ifExists || form.setQualifier == some .all ||
        (form.setQualifier == none && form.op.negated)) := by
  rw [ConditionForm.holds, if_neg notNull]
  obtain ⟨_ | _ | _, ifExists, op⟩ := form <;> cases ifExists <;> rfl

/-- A negated operator is the complement of its counterpart for a key that is present, but
    `NumericNotEquals` only where numbers can be compared. A key that is missing makes a positive operator
    false, a negated one true, `…IfExists` true, `ForAnyValue:` false and `ForAllValues:` true; `Null`
    tests for it. -/
theorem negated_operators_complement_iff (builtins : Builtins) (lowers : builtins.LowersAscii) :
    (∀ (form : ConditionForm) (positive : ConditionOperator), form.op.positive = some positive →
      ∀ raw rawPositive, Spells raw form.text → Spells rawPositive { form with op := positive }.text →
      ∀ value expected, expected ≠ [] →
        ((conditionHolds builtins raw (some value) expected = .ok true ↔
            ¬ conditionHolds builtins rawPositive (some value) expected = .ok true) ↔
          (form.op = .numericNotEquals → Comparable builtins value expected))) ∧
    (∀ op : ConditionOperator, op ≠ .null → ∀ raw expected,
      (Spells raw op.name → conditionHolds builtins raw none expected = .ok op.negated) ∧
      (Spells raw (op.name ++ units "ifexists") →
        conditionHolds builtins raw none expected = .ok true) ∧
      (Spells raw (units "foranyvalue:" ++ op.name) →
        conditionHolds builtins raw none expected = .ok false) ∧
      (Spells raw (units "forallvalues:" ++ op.name) →
        conditionHolds builtins raw none expected = .ok true)) ∧
    ∀ raw value expected, Spells raw (units "null") →
      conditionHolds builtins raw value expected =
        .ok (value.isNone == expected.any fun listed => builtins.toLowerCase listed = units "true") := by
  refine ⟨?_, ?_, ?_⟩
  · intro form positive isPositive raw rawPositive spells spellsPositive value expected nonempty
    have notNull : form.op ≠ .null := by
      intro isNull
      rw [isNull] at isPositive
      cases isPositive
    have positiveNotNull : positive ≠ .null := by
      rintro rfl
      revert isPositive
      cases form.op <;> simp [ConditionOperator.positive]
    rw [conditionHolds_of_spells lowers spells, conditionHolds_of_spells lowers spellsPositive,
      holds_of_present builtins notNull, holds_of_present builtins positiveNotNull]
    simp only [Except.ok.injEq]
    by_cases numeric : form.op = .numericNotEquals
    · rw [numeric] at isPositive ⊢
      cases isPositive
      rw [numericNotEquals_complement_iff builtins value nonempty]
      simp
    · rw [presentHolds_negated builtins isPositive numeric]
      simp [numeric]
  · intro op notNull raw expected
    have answer : ∀ form : ConditionForm, form.op = op → Spells raw form.text →
        conditionHolds builtins raw none expected = .ok (form.ifExists || form.setQualifier == some .all ||
          (form.setQualifier == none && op.negated)) := by
      rintro form rfl spells
      rw [conditionHolds_of_spells lowers spells, holds_of_missing builtins notNull]
    refine ⟨?_, ?_, ?_, ?_⟩
    · intro spells
      exact answer ⟨none, false, op⟩ rfl (by simpa [ConditionForm.text] using spells)
    · intro spells
      exact answer ⟨none, true, op⟩ rfl (by simpa [ConditionForm.text] using spells)
    · intro spells
      exact answer ⟨some .any, false, op⟩ rfl (by simpa [ConditionForm.text] using spells)
    · intro spells
      exact answer ⟨some .all, false, op⟩ rfl (by simpa [ConditionForm.text] using spells)
  · intro raw value expected spells
    have spelled : Spells raw (ConditionForm.mk none false .null).text := by
      simpa [ConditionForm.text, ConditionOperator.name] using spells
    rw [conditionHolds_of_spells lowers spelled]
    simp only [ConditionForm.holds, if_true]
    cases expected.any fun listed => decide (builtins.toLowerCase listed = units "true") with
    | true => simp
    | false => cases value <;> rfl

theorem lowersAscii_asciiBuiltins : asciiBuiltins.LowersAscii := fun _ _ => rfl

theorem negated_operators_complement_iff_ports :
    (conditionHolds asciiBuiltins (units "NumericNotEquals") (some (units "22")) [units "80"] = .ok true ↔
        ¬ conditionHolds asciiBuiltins (units "NumericEquals") (some (units "22")) [units "80"] =
          .ok true) ∧
      conditionHolds asciiBuiltins (units "ForAllValues:StringLike") none [units "a*"] = .ok true := by
  obtain ⟨present, missing, -⟩ := negated_operators_complement_iff asciiBuiltins lowersAscii_asciiBuiltins
  constructor
  · apply (present ⟨none, false, .numericNotEquals⟩ .numericEquals rfl _ _ (by decide)
      (by decide) _ _ (by simp)).mpr
    intro _
    refine ⟨22, by decide, .inl ?_⟩
    intro listed isListed
    rw [List.mem_singleton.mp isListed]
    exact ⟨80, by decide⟩
  · exact (missing .stringLike (by decide) _ _).2.2.2 (by decide)

/-- Of a text that is no number, `NumericEquals` and `NumericNotEquals` both say no. -/
theorem numericNotEquals_of_no_number :
    ¬ (conditionHolds asciiBuiltins (units "NumericNotEquals") (some (units "many")) [units "5"] = .ok true ↔
      ¬ conditionHolds asciiBuiltins (units "NumericEquals") (some (units "many")) [units "5"] =
        .ok true) := by
  have notEquals : conditionHolds asciiBuiltins (units "NumericNotEquals") (some (units "many"))
      [units "5"] = .ok false := by
    decide
  have equals : conditionHolds asciiBuiltins (units "NumericEquals") (some (units "many"))
      [units "5"] = .ok false := by
    decide
  rw [notEquals, equals]
  simp

end JumptotechLabs.Verifier
