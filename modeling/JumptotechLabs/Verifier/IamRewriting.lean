/-
Module: JumptotechLabs.Verifier.IamRewriting
Layer: Verifier (services/verifier/src/iam-policy.ts)
Purpose: One policy written down in another order: its statements, the entries of its lists, and the
  operators, keys and values of its condition blocks. The first condition that does not hold stops the
  evaluation of a block, so a block with a condition that fails and one that cannot be evaluated says no
  or raises an error by its order; and of two members of one name the last counts. Those are the only
  ways in which the order shows.
Main exports: PermBy, ConditionBlock, WrittenStatement, Rewritten, RewrittenPolicy, outcomeOf,
  allM_append, CanRaise, CanHold, CanFail, OrderFree, evaluation_order_free_iff
-/
import JumptotechLabs.Core.Properties
import JumptotechLabs.Verifier.IamConditions
import Mathlib.Data.List.Forall2

namespace JumptotechLabs.Verifier

open JumptotechLabs.Core

/-! ### Lists in another order -/

section PermBy

variable {α : Type} {related : α → α → Prop} {items others : List α}

/-- The items in another order, each replaced by a related one. -/
def PermBy (related : α → α → Prop) (items others : List α) : Prop :=
  ∃ middle, items.Perm middle ∧ List.Forall₂ related middle others

theorem PermBy.refl (reflexive : ∀ item, related item item) (items : List α) :
    PermBy related items items :=
  ⟨items, .refl items, List.forall₂_same.mpr fun item _ => reflexive item⟩

theorem PermBy.of_forall₂ (each : List.Forall₂ related items others) : PermBy related items others :=
  ⟨items, .refl items, each⟩

theorem PermBy.of_perm (reflexive : ∀ item, related item item) (perm : items.Perm others) :
    PermBy related items others :=
  ⟨others, perm, List.forall₂_same.mpr fun item _ => reflexive item⟩

/-- Every item has a related one among the others. -/
theorem PermBy.exists_right (perm : PermBy related items others) {item : α} (member : item ∈ items) :
    ∃ other ∈ others, related item other := by
  obtain ⟨middle, permuted, each⟩ := perm
  have inMiddle := permuted.mem_iff.mp member
  clear permuted
  induction each with
  | nil => cases inMiddle
  | cons first rest ih =>
      rcases List.mem_cons.mp inMiddle with rfl | inRest
      · exact ⟨_, List.mem_cons_self, first⟩
      · obtain ⟨other, isOther, same⟩ := ih inRest
        exact ⟨other, List.mem_cons_of_mem _ isOther, same⟩

/-- Every other is related to one of the items. -/
theorem PermBy.exists_left (perm : PermBy related items others) {other : α} (member : other ∈ others) :
    ∃ item ∈ items, related item other := by
  obtain ⟨middle, permuted, each⟩ := perm
  have back : PermBy (flip related) others middle := PermBy.of_forall₂ each.flip
  obtain ⟨item, isItem, same⟩ := back.exists_right member
  exact ⟨item, permuted.mem_iff.mpr isItem, same⟩

end PermBy

/-! ### Policies as they are written -/

/-- A condition block as a document writes it: operators, under each of them keys, and under each key values.
    Nothing keeps a name from being written twice. -/
abbrev ConditionBlock := List (Utf16 × List (Utf16 × List Utf16))

/-- The conditions of one operator, by the entries of the object under it. -/
def operatorConditions (entry : Utf16 × List (Utf16 × List Utf16)) : List IamCondition :=
  (entriesOf entry.2).map fun (key, values) => ⟨entry.1, key, values⟩

/-- `parseConditions`: the conditions of the block that `JSON.parse` makes of it, which lists indices before
    other names and holds the last member of each name. -/
def ConditionBlock.conditions (block : ConditionBlock) : List IamCondition :=
  (entriesOf block).flatMap operatorConditions

/-- A statement with its condition block as it was written. -/
structure WrittenStatement where
  effect : IamEffect
  actions : List Utf16
  notActions : List Utf16
  resources : List Utf16
  notResources : List Utf16
  condition : ConditionBlock
deriving DecidableEq

/-- The statement the parser makes of it. -/
def WrittenStatement.statement (written : WrittenStatement) : IamStatement :=
  ⟨written.effect, written.actions, written.notActions, written.resources, written.notResources,
    written.condition.conditions⟩

/-- The policy of a document. -/
def policyOf (document : List WrittenStatement) : IamPolicy :=
  ⟨document.map WrittenStatement.statement⟩

/-- The same key with its values in another order. -/
def SameKey (entry other : Utf16 × List Utf16) : Prop := entry.1 = other.1 ∧ entry.2.Perm other.2

/-- The same operator with its keys, and their values, in another order. -/
def SameOperator (entry other : Utf16 × List (Utf16 × List Utf16)) : Prop :=
  entry.1 = other.1 ∧ PermBy SameKey entry.2 other.2

/-- The same statement with its lists, and its condition block, in another order. -/
structure Rewritten (written other : WrittenStatement) : Prop where
  effect : written.effect = other.effect
  actions : written.actions.Perm other.actions
  notActions : written.notActions.Perm other.notActions
  resources : written.resources.Perm other.resources
  notResources : written.notResources.Perm other.notResources
  condition : PermBy SameOperator written.condition other.condition

/-- The same policy with its statements in another order, and each of them rewritten. -/
def RewrittenPolicy (document other : List WrittenStatement) : Prop := PermBy Rewritten document other

theorem SameKey.refl (entry : Utf16 × List Utf16) : SameKey entry entry := ⟨rfl, .refl _⟩

theorem SameOperator.refl (entry : Utf16 × List (Utf16 × List Utf16)) : SameOperator entry entry :=
  ⟨rfl, .refl SameKey.refl _⟩

theorem Rewritten.refl (written : WrittenStatement) : Rewritten written written :=
  ⟨rfl, .refl _, .refl _, .refl _, .refl _, .refl SameOperator.refl _⟩

/-- What an evaluation comes to: a decision, or an operator that cannot be evaluated. -/
inductive IamOutcome where
  | decided (decision : IamDecision)
  | unsupported
deriving DecidableEq

/-- The decision on a request, or that the grader does not support it. -/
def outcomeOf (builtins : Builtins) (document : List WrittenStatement) (request : IamRequest) :
    IamOutcome :=
  match evaluateIamPolicy builtins (policyOf document) request with
  | .ok decision => .decided decision
  | .error _ => .unsupported

/-! ### What does not depend on the order -/

section Order

variable {builtins : Builtins} {context : List (Utf16 × Utf16)}

theorem holds_perm (builtins : Builtins) (form : ConditionForm) (value : Option Utf16)
    {expected others : List Utf16} (perm : expected.Perm others) :
    form.holds builtins value expected = form.holds builtins value others := by
  obtain ⟨setQualifier, ifExists, op⟩ := form
  have any : ∀ test : Utf16 → Bool, expected.any test = others.any test := fun test => perm.any_eq
  have all : ∀ test : Utf16 → Bool, expected.all test = others.all test := fun test => perm.all_eq
  cases value with
  | none => simp only [ConditionForm.holds, any]
  | some value =>
      have present : ∀ op, presentHolds builtins op value expected =
          presentHolds builtins op value others := by
        intro op
        cases op <;> simp only [presentHolds, insideAny, any, all]
      simp only [ConditionForm.holds, any, present]

theorem conditionHolds_perm (builtins : Builtins) (operator : Utf16) (value : Option Utf16)
    {expected others : List Utf16} (perm : expected.Perm others) :
    conditionHolds builtins operator value expected = conditionHolds builtins operator value others := by
  rw [conditionHolds_eq, conditionHolds_eq]
  cases conditionForm builtins operator with
  | none => rfl
  | some form => simp only [holds_perm builtins form value perm]

/-- What one condition says of the context. -/
def conditionAnswer (builtins : Builtins) (context : List (Utf16 × Utf16)) (condition : IamCondition) :
    Except Utf16 Bool :=
  conditionHolds builtins condition.operator (contextValue builtins context condition.key)
    condition.values

theorem covers_perm {matching : Utf16 → Bool} {patterns others notPatterns notOthers : List Utf16}
    (perm : patterns.Perm others) (notPerm : notPatterns.Perm notOthers) :
    covers matching patterns notPatterns = covers matching others notOthers := by
  simp only [covers, perm.length_eq, notPerm.length_eq, perm.any_eq, notPerm.any_eq]

theorem covers_rewritten {written other : WrittenStatement} (rewritten : Rewritten written other)
    (action resource : Utf16) :
    statementCovers builtins written.statement action resource =
      statementCovers builtins other.statement action resource := by
  have ofActions : statementCoversAction builtins written.statement action =
      statementCoversAction builtins other.statement action :=
    covers_perm rewritten.actions rewritten.notActions
  have ofResources : statementCoversResource builtins written.statement resource =
      statementCoversResource builtins other.statement resource :=
    covers_perm rewritten.resources rewritten.notResources
  rw [statementCovers, statementCovers, ofActions, ofResources]

end Order

/-! ### What a block can come to -/

section Evaluation

variable {α ε : Type} {answer : α → Except ε Bool} {items more : List α}

theorem allM_cons (item : α) (rest : List α) :
    (item :: rest).allM answer =
      match answer item with
      | .error failure => .error failure
      | .ok true => rest.allM answer
      | .ok false => .ok false := by
  rw [List.allM]
  cases answer item with
  | error failure => rfl
  | ok holds => cases holds <;> rfl

/-- The first item that does not say yes decides. -/
theorem allM_cases (answer : α → Except ε Bool) (items : List α) :
    (items.allM answer = .ok true ∧ ∀ item ∈ items, answer item = .ok true) ∨
      (items.allM answer = .ok false ∧ ∃ item ∈ items, answer item = .ok false) ∨
      ∃ failure, items.allM answer = .error failure ∧ ∃ item ∈ items, answer item = .error failure := by
  induction items with
  | nil => exact .inl ⟨rfl, by simp⟩
  | cons item rest ih =>
      rw [allM_cons]
      cases isAnswer : answer item with
      | error failure => exact .inr (.inr ⟨failure, rfl, item, List.mem_cons_self, isAnswer⟩)
      | ok holds =>
          cases holds with
          | false => exact .inr (.inl ⟨rfl, item, List.mem_cons_self, isAnswer⟩)
          | true =>
              rcases ih with ⟨result, each⟩ | ⟨result, other, isOther, fails⟩ |
                ⟨failure, result, other, isOther, fails⟩
              · exact .inl ⟨result, List.forall_mem_cons.mpr ⟨isAnswer, each⟩⟩
              · exact .inr (.inl ⟨result, other, List.mem_cons_of_mem _ isOther, fails⟩)
              · exact .inr (.inr ⟨failure, result, other, List.mem_cons_of_mem _ isOther, fails⟩)

/-- What comes behind items is asked only where each of them says yes. -/
theorem allM_append (answer : α → Except ε Bool) (items more : List α) :
    (items ++ more).allM answer =
      match items.allM answer with
      | .ok true => more.allM answer
      | decided => decided := by
  induction items with
  | nil => rfl
  | cons item rest ih =>
      rw [List.cons_append, allM_cons, allM_cons, ih]
      cases answer item with
      | error failure => rfl
      | ok holds => cases holds <;> rfl

/-- Items that cannot be evaluated raise an error, if there are any. -/
theorem allM_of_error (each : ∀ item ∈ items, ∃ failure, answer item = .error failure) (some : items ≠ []) :
    ∃ failure, items.allM answer = .error failure := by
  cases items with
  | nil => exact absurd rfl some
  | cons item rest =>
      obtain ⟨failure, isError⟩ := each item List.mem_cons_self
      exact ⟨failure, by rw [allM_cons, isError]⟩

end Evaluation

section Blocks

variable {builtins : Builtins} {context : List (Utf16 × Utf16)} {block other : ConditionBlock}

theorem conditionAnswer_error_iff {condition : IamCondition} :
    (∃ failure, conditionAnswer builtins context condition = .error failure) ↔
      conditionForm builtins condition.operator = none := by
  rw [conditionAnswer, conditionHolds_eq]
  cases conditionForm builtins condition.operator with
  | none => simp
  | some form => simp

/-- What is left of an operator without its qualifier and its suffix is some of its units. -/
theorem mem_of_mem_peel {operator : Utf16} {unit : UInt16}
    (inside : unit ∈ (peelIfExists (peelQualifier operator).2).2) : unit ∈ operator := by
  have ofSuffix : ∀ text : Utf16, unit ∈ (peelIfExists text).2 → unit ∈ text := by
    intro text inside
    rw [peelIfExists] at inside
    split at inside
    · exact List.mem_of_mem_take inside
    · exact inside
  have ofQualifier := ofSuffix _ inside
  rw [peelQualifier] at ofQualifier
  split at ofQualifier
  · exact List.mem_of_mem_drop ofQualifier
  · split at ofQualifier
    · exact List.mem_of_mem_drop ofQualifier
    · exact ofQualifier

/-- An operator that is an index cannot be evaluated. -/
theorem conditionForm_of_index (lowers : builtins.LowersAscii) {operator : Utf16}
    (isIndex : isIndexKey operator = true) : conditionForm builtins operator = none := by
  have digits : ∀ unit ∈ (peelIfExists (peelQualifier operator).2).2, Utf16.isDigit unit = true := fun unit inside =>
    List.all_eq_true.mp (isDigit_of_isIndexKey isIndex) unit (mem_of_mem_peel inside)
  rw [conditionForm, Option.map_eq_none_iff]
  generalize (peelIfExists (peelQualifier operator).2).2 = text at digits ⊢
  have small : ∀ unit ∈ text, unit < 128 ∧ Utf16.lowerAscii unit = unit := by
    intro unit inside
    have bounds := digits unit inside
    rw [Utf16.isDigit, Bool.and_eq_true_iff, decide_eq_true_eq, decide_eq_true_eq] at bounds
    refine ⟨UInt16.lt_of_le_of_lt bounds.2 (by decide : (57 : UInt16) < 128), ?_⟩
    rw [Utf16.lowerAscii, if_neg]
    rw [Bool.and_eq_true_iff, decide_eq_true_eq, decide_eq_true_eq]
    exact fun upper => absurd (UInt16.le_trans upper.1 bounds.2) (by decide : ¬ (65 : UInt16) ≤ 57)
  have lowered : builtins.toLowerCase text = text := by
    rw [lowers text fun unit inside => (small unit inside).1]
    exact (List.map_congr_left fun unit inside => (small unit inside).2).trans (List.map_id text)
  rw [lowered, ConditionOperator.ofName, List.find?_eq_none]
  intro op known isName
  have noNumber : ∀ op ∈ ConditionOperator.all, op.name.all Utf16.isDigit = false := by decide
  have letters := noNumber op known
  rw [of_decide_eq_true isName, List.all_eq_true.mpr digits] at letters
  cases letters

/-- The evaluation of the conditions of a block. -/
def blockAnswer (builtins : Builtins) (context : List (Utf16 × Utf16)) (block : ConditionBlock) :
    Except Utf16 Bool :=
  block.conditions.allM (conditionAnswer builtins context)

/-- An operator that cannot be evaluated has a key. -/
def CanRaise (builtins : Builtins) (block : ConditionBlock) : Prop :=
  ∃ entry ∈ block, conditionForm builtins entry.1 = none ∧ entry.2 ≠ []

/-- Under every operator there is a member whose keys all have values that hold. -/
def CanHold (builtins : Builtins) (context : List (Utf16 × Utf16)) (block : ConditionBlock) : Prop :=
  ∀ entry ∈ block, ∃ other ∈ block, other.1 = entry.1 ∧
    ∀ member ∈ other.2, ∃ written ∈ other.2, written.1 = member.1 ∧
      conditionAnswer builtins context ⟨other.1, written.1, written.2⟩ = .ok true

/-- Some condition can be evaluated and fails, and every operator that is an index has a member without keys. -/
def CanFail (builtins : Builtins) (context : List (Utf16 × Utf16)) (block : ConditionBlock) : Prop :=
  (∃ entry ∈ block, ∃ member ∈ entry.2,
      conditionAnswer builtins context ⟨entry.1, member.1, member.2⟩ = .ok false) ∧
    ∀ entry ∈ block, isIndexKey entry.1 = true → ∃ other ∈ block, other.1 = entry.1 ∧ other.2 = []

/-- A property of members that the order of their values does not touch. -/
theorem conditionAnswer_sameKey {operator : Utf16} {member written : Utf16 × List Utf16}
    (same : SameKey member written) :
    conditionAnswer builtins context ⟨operator, member.1, member.2⟩ =
      conditionAnswer builtins context ⟨operator, written.1, written.2⟩ := by
  simp only [conditionAnswer, same.1, conditionHolds_perm builtins operator _ same.2]

theorem sameOperator_nil {entry other : Utf16 × List (Utf16 × List Utf16)} (same : SameOperator entry other) :
    entry.2 = [] ↔ other.2 = [] := by
  constructor
  · intro none
    refine List.eq_nil_iff_forall_not_mem.mpr fun member inside => ?_
    obtain ⟨before, isBefore, -⟩ := same.2.exists_left inside
    rw [none] at isBefore
    cases isBefore
  · intro none
    refine List.eq_nil_iff_forall_not_mem.mpr fun member inside => ?_
    obtain ⟨after, isAfter, -⟩ := same.2.exists_right inside
    rw [none] at isAfter
    cases isAfter

theorem CanRaise.of_perm (can : CanRaise builtins other) (perm : PermBy SameOperator block other) :
    CanRaise builtins block := by
  obtain ⟨entry, isEntry, unsupported, hasKey⟩ := can
  obtain ⟨before, isBefore, same⟩ := perm.exists_left isEntry
  exact ⟨before, isBefore, same.1 ▸ unsupported, fun none => hasKey ((sameOperator_nil same).mp none)⟩

theorem CanFail.of_perm (can : CanFail builtins context other) (perm : PermBy SameOperator block other) :
    CanFail builtins context block := by
  obtain ⟨⟨entry, isEntry, member, isMember, fails⟩, indices⟩ := can
  constructor
  · obtain ⟨before, isBefore, same⟩ := perm.exists_left isEntry
    obtain ⟨written, isWritten, sameKey⟩ := same.2.exists_left isMember
    exact ⟨before, isBefore, written, isWritten, by rw [same.1, conditionAnswer_sameKey sameKey, fails]⟩
  · intro entry isEntry isIndex
    obtain ⟨after, isAfter, same⟩ := perm.exists_right isEntry
    obtain ⟨empty, isEmpty, isName, none⟩ := indices after isAfter (same.1 ▸ isIndex)
    obtain ⟨before, isBefore, sameEmpty⟩ := perm.exists_left isEmpty
    exact ⟨before, isBefore, sameEmpty.1.trans (isName.trans same.1.symm), (sameOperator_nil sameEmpty).mpr none⟩

theorem CanHold.of_perm (can : CanHold builtins context other) (perm : PermBy SameOperator block other) :
    CanHold builtins context block := by
  intro entry isEntry
  obtain ⟨after, isAfter, same⟩ := perm.exists_right isEntry
  obtain ⟨good, isGood, isName, holds⟩ := can after isAfter
  obtain ⟨before, isBefore, sameGood⟩ := perm.exists_left isGood
  refine ⟨before, isBefore, sameGood.1.trans (isName.trans same.1.symm), fun member isMember => ?_⟩
  obtain ⟨written, isWritten, sameKey⟩ := sameGood.2.exists_right isMember
  obtain ⟨value, isValue, isKey, holdsHere⟩ := holds written isWritten
  obtain ⟨first, isFirst, sameValue⟩ := sameGood.2.exists_left isValue
  refine ⟨first, isFirst, sameValue.1.trans (isKey.trans sameKey.1.symm), ?_⟩
  rw [sameGood.1, conditionAnswer_sameKey sameValue, holdsHere]

theorem mem_conditions {condition : IamCondition} :
    condition ∈ block.conditions ↔
      ∃ entry ∈ entriesOf block, ∃ member ∈ entriesOf entry.2, condition = ⟨entry.1, member.1, member.2⟩ := by
  simp only [ConditionBlock.conditions, operatorConditions, List.mem_flatMap, List.mem_map, eq_comm]

/-- The conditions of operators that are indices raise an error, if there are any. -/
theorem indices_raise (lowers : builtins.LowersAscii) {entries : List (Utf16 × List (Utf16 × List Utf16))}
    (areIndices : ∀ entry ∈ entries, isIndexKey entry.1 = true) :
    ∀ condition ∈ entries.flatMap operatorConditions,
      ∃ failure, conditionAnswer builtins context condition = .error failure := by
  intro condition isCondition
  obtain ⟨entry, isEntry, inOperator⟩ := List.mem_flatMap.mp isCondition
  obtain ⟨member, -, rfl⟩ := List.mem_map.mp inOperator
  exact conditionAnswer_error_iff.mpr (conditionForm_of_index lowers (areIndices entry isEntry))

theorem operatorConditions_eq_nil {entry : Utf16 × List (Utf16 × List Utf16)} :
    operatorConditions entry = [] ↔ entry.2 = [] := by
  rw [operatorConditions, List.map_eq_nil_iff, entriesOf_eq_nil]

/-- A block that raises an error has an operator that cannot be evaluated, with a key. -/
theorem canRaise_of_error {failure : Utf16} (raised : blockAnswer builtins context block = .error failure) :
    CanRaise builtins block := by
  rcases allM_cases (conditionAnswer builtins context) block.conditions with ⟨result, -⟩ | ⟨result, -⟩ |
    ⟨failure, -, condition, isCondition, isError⟩
  · rw [blockAnswer, result] at raised
    cases raised
  · rw [blockAnswer, result] at raised
    cases raised
  · obtain ⟨entry, isEntry, member, isMember, rfl⟩ := mem_conditions.mp isCondition
    have unsupported := conditionAnswer_error_iff.mp ⟨failure, isError⟩
    refine ⟨entry, mem_of_mem_entriesOf isEntry, unsupported, fun none => ?_⟩
    rw [none] at isMember
    cases isMember

/-- A block that says no has a condition that fails, and no index with a key in front of it. -/
theorem canFail_of_false (lowers : builtins.LowersAscii)
    (failed : blockAnswer builtins context block = .ok false) : CanFail builtins context block := by
  constructor
  · rcases allM_cases (conditionAnswer builtins context) block.conditions with ⟨result, -⟩ |
      ⟨-, condition, isCondition, fails⟩ | ⟨failure, result, -⟩
    · rw [blockAnswer, result] at failed
      cases failed
    · obtain ⟨entry, isEntry, member, isMember, rfl⟩ := mem_conditions.mp isCondition
      exact ⟨entry, mem_of_mem_entriesOf isEntry, member, mem_of_mem_entriesOf isMember, fails⟩
    · rw [blockAnswer, result] at failed
      cases failed
  · intro entry isEntry isIndex
    have inIndices : entry ∈ block.filter fun entry => isIndexKey entry.1 :=
      List.mem_filter.mpr ⟨isEntry, isIndex⟩
    obtain ⟨listed, isListed, isName⟩ := exists_mem_entriesOf inIndices
    refine ⟨listed, (List.mem_filter.mp (mem_of_mem_entriesOf isListed)).1, isName, ?_⟩
    -- The indices come first, so one of them with a key would have raised an error.
    by_contra hasKey
    have areIndices : ∀ entry ∈ entriesOf (block.filter fun entry => isIndexKey entry.1),
        isIndexKey entry.1 = true := fun entry inside => (List.mem_filter.mp (mem_of_mem_entriesOf inside)).2
    obtain ⟨failure, raised⟩ := allM_of_error (@indices_raise _ context lowers _ areIndices) fun none =>
      hasKey (operatorConditions_eq_nil.mp (List.flatMap_eq_nil_iff.mp none listed isListed))
    rw [blockAnswer, ConditionBlock.conditions, entriesOf_eq_append, List.flatMap_append, allM_append, raised] at failed
    cases failed

/-- A block that holds has, under every operator, a member that does. -/
theorem canHold_of_true (held : blockAnswer builtins context block = .ok true) : CanHold builtins context block := by
  rcases allM_cases (conditionAnswer builtins context) block.conditions with ⟨-, each⟩ | ⟨result, -⟩ |
    ⟨failure, result, -⟩
  · intro entry isEntry
    obtain ⟨listed, isListed, isName⟩ := exists_mem_entriesOf isEntry
    refine ⟨listed, mem_of_mem_entriesOf isListed, isName, fun member isMember => ?_⟩
    obtain ⟨written, isWritten, isKey⟩ := exists_mem_entriesOf isMember
    refine ⟨written, mem_of_mem_entriesOf isWritten, isKey, each _ ?_⟩
    exact mem_conditions.mpr ⟨listed, isListed, written, isWritten, rfl⟩
  · rw [blockAnswer, result] at held
    cases held
  · rw [blockAnswer, result] at held
    cases held

/-- A block with an operator that cannot be evaluated, and a key under it, can be written so that it raises an
    error. -/
theorem exists_raising_block (lowers : builtins.LowersAscii) (can : CanRaise builtins block) :
    ∃ other, PermBy SameOperator block other ∧ ∃ failure, blockAnswer builtins context other = .error failure := by
  obtain ⟨entry, isEntry, unsupported, hasKey⟩ := can
  have hasCondition : operatorConditions entry ≠ [] := fun none => hasKey (operatorConditions_eq_nil.mp none)
  -- The indices are written so that one with a key lasts, where there is one.
  obtain ⟨indexed, perm, good⟩ := Keyed.exists_perm_lasting Prod.fst
    (fun entry : Utf16 × List (Utf16 × List Utf16) => entry.2 ≠ []) (block.filter fun entry => isIndexKey entry.1)
  have areIndices : ∀ entry ∈ entriesOf indexed, isIndexKey entry.1 = true := fun entry inside =>
    (List.mem_filter.mp (perm.mem_iff.mpr (mem_of_mem_entriesOf inside))).2
  have indicesRaise := @indices_raise _ context lowers _ areIndices
  by_cases isIndex : isIndexKey entry.1 = true
  · have inIndices : entry ∈ block.filter fun entry => isIndexKey entry.1 := List.mem_filter.mpr ⟨isEntry, isIndex⟩
    obtain ⟨listed, isListed, isName⟩ := exists_mem_entriesOf (perm.mem_iff.mp inIndices)
    have hasKeys := good listed (mem_entriesOf.mp isListed) ⟨entry, inIndices, isName.symm, hasKey⟩
    obtain ⟨failure, raised⟩ := allM_of_error indicesRaise fun none =>
      hasKeys (operatorConditions_eq_nil.mp (List.flatMap_eq_nil_iff.mp none listed isListed))
    refine ⟨indexed ++ block.filter fun entry => !isIndexKey entry.1, .of_perm SameOperator.refl ?_, failure, ?_⟩
    · exact (List.filter_append_perm _ _).symm.trans (perm.append_right _)
    · have first : (indexed ++ block.filter fun entry => !isIndexKey entry.1).filter
          (fun entry => isIndexKey entry.1) = indexed := by
        rw [List.filter_append, List.filter_eq_self.mpr fun entry inside =>
            (List.mem_filter.mp (perm.mem_iff.mpr inside)).2,
          List.filter_eq_nil_iff.mpr fun entry inside => by simpa using (List.mem_filter.mp inside).2,
          List.append_nil]
      rw [blockAnswer, ConditionBlock.conditions, entriesOf_eq_append, first, List.flatMap_append, allM_append, raised]
  · obtain ⟨same, others, permuted, lists⟩ := exists_perm_first isEntry (Bool.eq_false_iff.mpr isIndex) perm
    obtain ⟨rest, entries⟩ := lists entry rfl
    refine ⟨_, .of_perm SameOperator.refl permuted, ?_⟩
    rw [blockAnswer, ConditionBlock.conditions, entries, List.flatMap_append, List.flatMap_cons, allM_append]
    by_cases none : (entriesOf indexed).flatMap operatorConditions = []
    · have itsRaise : ∀ condition ∈ operatorConditions entry,
          ∃ failure, conditionAnswer builtins context condition = .error failure := by
        intro condition isCondition
        obtain ⟨member, -, rfl⟩ := List.mem_map.mp isCondition
        exact conditionAnswer_error_iff.mpr unsupported
      obtain ⟨failure, raised⟩ := allM_of_error itsRaise hasCondition
      exact ⟨failure, by rw [none, List.allM_nil, allM_append, raised]; rfl⟩
    · obtain ⟨failure, raised⟩ := allM_of_error indicesRaise none
      exact ⟨failure, by rw [raised]⟩

/-- A block with a condition that fails, and no index that has to have a key, can be written so that it says no. -/
theorem exists_failing_block (lowers : builtins.LowersAscii) (can : CanFail builtins context block) :
    ∃ other, PermBy SameOperator block other ∧ blockAnswer builtins context other = .ok false := by
  obtain ⟨⟨entry, isEntry, member, isMember, fails⟩, indices⟩ := can
  have supported : conditionForm builtins entry.1 ≠ none := by
    intro unsupported
    obtain ⟨failure, isError⟩ := (@conditionAnswer_error_iff builtins context
      ⟨entry.1, member.1, member.2⟩).mpr unsupported
    rw [isError] at fails
    cases fails
  have plain : isIndexKey entry.1 = false := Bool.eq_false_iff.mpr fun isIndex =>
    supported (conditionForm_of_index lowers isIndex)
  -- The indices are written so that they have no keys, and the operator so that the condition is one of its own.
  obtain ⟨indexed, perm, good⟩ := Keyed.exists_perm_lasting Prod.fst
    (fun entry : Utf16 × List (Utf16 × List Utf16) => entry.2 = []) (block.filter fun entry => isIndexKey entry.1)
  obtain ⟨sameKey, otherKeys, keysPerm, -, apart⟩ := Keyed.exists_perm_front Prod.fst isMember
  obtain ⟨same, others, permuted, lists⟩ := exists_perm_first isEntry plain perm
  obtain ⟨rest, entries⟩ := lists (entry.1, sameKey ++ member :: otherKeys) rfl
  refine ⟨indexed ++ (same ++ (entry.1, sameKey ++ member :: otherKeys) :: others), ⟨_, permuted, ?_⟩, ?_⟩
  · refine List.rel_append (List.forall₂_same.mpr fun one _ => .refl one)
      (List.rel_append (List.forall₂_same.mpr fun one _ => .refl one) (.cons ⟨rfl, ?_⟩ ?_))
    · exact .of_perm SameKey.refl keysPerm
    · exact List.forall₂_same.mpr fun one _ => .refl one
  · have none : (entriesOf indexed).flatMap operatorConditions = [] := by
      rw [List.flatMap_eq_nil_iff]
      intro index isListed
      have inIndices := List.mem_filter.mp (perm.mem_iff.mpr (mem_of_mem_entriesOf isListed))
      obtain ⟨empty, isEmpty, isName, noKeys⟩ := indices index inIndices.1 inIndices.2
      refine operatorConditions_eq_nil.mpr (good index (mem_entriesOf.mp isListed) ⟨empty, ?_, isName, noKeys⟩)
      exact List.mem_filter.mpr ⟨isEmpty, by rw [isName]; exact inIndices.2⟩
    have isCondition : (⟨entry.1, member.1, member.2⟩ : IamCondition) ∈
        operatorConditions (entry.1, sameKey ++ member :: otherKeys) := by
      refine List.mem_map.mpr ⟨member, mem_entriesOf.mpr (Keyed.mem_lasting_iff.mpr ?_), rfl⟩
      exact ⟨sameKey, otherKeys, rfl, fun later isLater => (apart later isLater).symm⟩
    have answers : (operatorConditions (entry.1, sameKey ++ member :: otherKeys)).allM
        (conditionAnswer builtins context) = .ok false := by
      rcases allM_cases (conditionAnswer builtins context)
          (operatorConditions (entry.1, sameKey ++ member :: otherKeys)) with ⟨-, each⟩ | ⟨result, -⟩ |
        ⟨failure, -, condition, inOperator, isError⟩
      · rw [each _ isCondition] at fails
        cases fails
      · exact result
      · obtain ⟨written, -, rfl⟩ := List.mem_map.mp inOperator
        exact absurd (conditionAnswer_error_iff.mp ⟨failure, isError⟩) supported
    rw [blockAnswer, ConditionBlock.conditions, entries, List.flatMap_append, List.flatMap_cons, none, List.nil_append,
      allM_append, answers]

/-- The keys under an operator can be written so that the last values of each hold, where some do. -/
theorem exists_holding_member {entry : Utf16 × List (Utf16 × List Utf16)}
    (can : ∀ member ∈ entry.2, ∃ written ∈ entry.2, written.1 = member.1 ∧
      conditionAnswer builtins context ⟨entry.1, written.1, written.2⟩ = .ok true) :
    ∃ other, SameOperator entry other ∧
      ∀ condition ∈ operatorConditions other, conditionAnswer builtins context condition = .ok true := by
  obtain ⟨keys, perm, good⟩ := Keyed.exists_perm_lasting Prod.fst
    (fun member => conditionAnswer builtins context ⟨entry.1, member.1, member.2⟩ = .ok true) entry.2
  refine ⟨(entry.1, keys), ⟨rfl, .of_perm SameKey.refl perm⟩, fun condition isCondition => ?_⟩
  obtain ⟨listed, isListed, rfl⟩ := List.mem_map.mp isCondition
  obtain ⟨written, isWritten, isKey, holds⟩ := can listed (perm.mem_iff.mpr (mem_of_mem_entriesOf isListed))
  exact good listed (mem_entriesOf.mp isListed) ⟨written, isWritten, isKey, holds⟩

/-- A block that has, under every operator, a member that holds can be written so that it holds. -/
theorem exists_holding_block (can : CanHold builtins context block) :
    ∃ other, PermBy SameOperator block other ∧ blockAnswer builtins context other = .ok true := by
  classical
  obtain ⟨middle, perm, good⟩ := Keyed.exists_perm_lasting Prod.fst
    (fun entry : Utf16 × List (Utf16 × List Utf16) => ∀ member ∈ entry.2, ∃ written ∈ entry.2,
      written.1 = member.1 ∧ conditionAnswer builtins context ⟨entry.1, written.1, written.2⟩ = .ok true) block
  have lasts : ∀ entry ∈ Keyed.lasting Prod.fst middle, ∀ member ∈ entry.2, ∃ written ∈ entry.2,
      written.1 = member.1 ∧ conditionAnswer builtins context ⟨entry.1, written.1, written.2⟩ = .ok true := by
    intro entry isLast
    obtain ⟨other, isOther, isName, holds⟩ := can entry (perm.mem_iff.mpr (Keyed.mem_of_mem_lasting _ isLast))
    exact good entry isLast ⟨other, isOther, isName, holds⟩
  -- Each member that can hold is written so that it does.
  have each : ∀ entry : Utf16 × List (Utf16 × List Utf16), ∃ other, SameOperator entry other ∧
      ((∀ member ∈ entry.2, ∃ written ∈ entry.2, written.1 = member.1 ∧
          conditionAnswer builtins context ⟨entry.1, written.1, written.2⟩ = .ok true) →
        ∀ condition ∈ operatorConditions other, conditionAnswer builtins context condition = .ok true) := by
    intro entry
    by_cases can : ∀ member ∈ entry.2, ∃ written ∈ entry.2, written.1 = member.1 ∧
        conditionAnswer builtins context ⟨entry.1, written.1, written.2⟩ = .ok true
    · obtain ⟨other, same, holds⟩ := exists_holding_member can
      exact ⟨other, same, fun _ => holds⟩
    · exact ⟨entry, .refl entry, fun holds => absurd holds can⟩
  choose written same holds using each
  have matching : List.Forall₂ (fun entry other => other = written entry) middle (middle.map written) :=
    List.forall₂_map_right_iff.mpr (List.forall₂_same.mpr fun _ _ => rfl)
  refine ⟨middle.map written, ⟨middle, perm, matching.imp ?_⟩, ?_⟩
  · rintro entry _ rfl
    exact same entry
  · have lasting : List.Forall₂ _ (Keyed.lasting Prod.fst middle) (Keyed.lasting Prod.fst (middle.map written)) :=
      Keyed.lasting_forall₂ (by
        rintro entry _ rfl
        exact (same entry).1) matching
    rcases allM_cases (conditionAnswer builtins context) (ConditionBlock.conditions (middle.map written)) with
      ⟨result, -⟩ | ⟨-, condition, isCondition, fails⟩ | ⟨failure, -, condition, isCondition, fails⟩
    · exact result
    all_goals
      obtain ⟨entry, isEntry, inOperator⟩ := List.mem_flatMap.mp isCondition
      obtain ⟨before, isBefore, isWritten⟩ := (PermBy.of_forall₂ lasting).exists_left (mem_entriesOf.mp isEntry)
      subst isWritten
      rw [holds before (lasts before isBefore) condition inOperator] at fails
      cases fails

end Blocks

/-! ### What a statement can come to -/

section Applies

variable {builtins : Builtins} {request : IamRequest} {context : List (Utf16 × Utf16)}
  {written : WrittenStatement}

/-- The statement covers what is requested. -/
def Covers (builtins : Builtins) (request : IamRequest) (written : WrittenStatement) : Prop :=
  statementCovers builtins written.statement request.action request.resource = true

theorem statementApplies_of_covers (isContext : request.context = some context)
    (covers : Covers builtins request written) :
    statementApplies builtins request written.statement =
      blockAnswer builtins context written.condition := by
  rw [Covers] at covers
  rw [statementApplies, if_pos covers, isContext]
  rfl

theorem statementApplies_of_not_covers (notCovers : ¬ Covers builtins request written) :
    statementApplies builtins request written.statement = .ok false := by
  rw [Covers] at notCovers
  rw [statementApplies, if_neg notCovers]

/-- The evaluation of the statement raises an error. -/
def Raises (builtins : Builtins) (request : IamRequest) (written : WrittenStatement) : Prop :=
  ∃ failure, statementApplies builtins request written.statement = .error failure

/-- In some order the statement raises an error. -/
def MayRaise (builtins : Builtins) (request : IamRequest) (written : WrittenStatement) : Prop :=
  Covers builtins request written ∧ CanRaise builtins written.condition

/-- In some order the statement applies. -/
def MayApply (builtins : Builtins) (request : IamRequest) (context : List (Utf16 × Utf16))
    (written : WrittenStatement) : Prop :=
  Covers builtins request written ∧ CanHold builtins context written.condition

/-- In some order the statement does not apply. -/
def MayMiss (builtins : Builtins) (request : IamRequest) (context : List (Utf16 × Utf16))
    (written : WrittenStatement) : Prop :=
  ¬ Covers builtins request written ∨ CanFail builtins context written.condition

theorem covers_iff {other : WrittenStatement} (rewritten : Rewritten written other) :
    Covers builtins request written ↔ Covers builtins request other := by
  rw [Covers, Covers, covers_rewritten rewritten]

theorem rewritten_condition {block : ConditionBlock}
    (perm : PermBy SameOperator written.condition block) :
    Rewritten written { written with condition := block } :=
  ⟨rfl, .refl _, .refl _, .refl _, .refl _, perm⟩

/-- What a rewritten statement comes to, it can come to. -/
theorem may_of_rewritten (lowers : builtins.LowersAscii) (isContext : request.context = some context)
    {other : WrittenStatement} (rewritten : Rewritten written other) :
    (Raises builtins request other → MayRaise builtins request written) ∧
      (statementApplies builtins request other.statement = .ok true → MayApply builtins request context written) ∧
      (statementApplies builtins request other.statement = .ok false → MayMiss builtins request context written) := by
  by_cases covers : Covers builtins request other
  · have isCovered := (covers_iff rewritten).mpr covers
    rw [Raises, statementApplies_of_covers isContext covers]
    refine ⟨?_, fun held => ⟨isCovered, (canHold_of_true held).of_perm rewritten.condition⟩,
      fun failed => .inr ((canFail_of_false lowers failed).of_perm rewritten.condition)⟩
    rintro ⟨failure, raised⟩
    exact ⟨isCovered, (canRaise_of_error raised).of_perm rewritten.condition⟩
  · rw [Raises, statementApplies_of_not_covers covers]
    refine ⟨?_, fun held => (by cases held), fun _ => .inl fun isCovered => covers ((covers_iff rewritten).mp isCovered)⟩
    rintro ⟨failure, raised⟩
    cases raised

theorem MayRaise.exists_rewritten (lowers : builtins.LowersAscii) (isContext : request.context = some context)
    (may : MayRaise builtins request written) :
    ∃ other, Rewritten written other ∧ Raises builtins request other := by
  obtain ⟨block, perm, failure, raised⟩ := @exists_raising_block _ context _ lowers may.2
  have rewritten := rewritten_condition perm
  refine ⟨_, rewritten, failure, ?_⟩
  rw [statementApplies_of_covers isContext ((covers_iff rewritten).mp may.1), raised]

theorem MayApply.exists_rewritten (isContext : request.context = some context)
    (may : MayApply builtins request context written) :
    ∃ other, Rewritten written other ∧ statementApplies builtins request other.statement = .ok true := by
  obtain ⟨block, perm, held⟩ := exists_holding_block may.2
  have rewritten := rewritten_condition perm
  refine ⟨_, rewritten, ?_⟩
  rw [statementApplies_of_covers isContext ((covers_iff rewritten).mp may.1), held]

theorem MayMiss.exists_rewritten (lowers : builtins.LowersAscii) (isContext : request.context = some context)
    (may : MayMiss builtins request context written) :
    ∃ other, Rewritten written other ∧ statementApplies builtins request other.statement = .ok false := by
  by_cases covers : Covers builtins request written
  · obtain ⟨block, perm, failed⟩ := exists_failing_block lowers (may.resolve_left (not_not_intro covers))
    have rewritten := rewritten_condition perm
    refine ⟨_, rewritten, ?_⟩
    rw [statementApplies_of_covers isContext ((covers_iff rewritten).mp covers), failed]
  · exact ⟨written, .refl written, statementApplies_of_not_covers covers⟩

/-- A statement that is not bound to raise an error applies in some order, or does not. -/
theorem applies_or_misses (written : WrittenStatement) (calm : ¬ Raises builtins request written) :
    statementApplies builtins request written.statement = .ok true ∨
      statementApplies builtins request written.statement = .ok false := by
  cases applies : statementApplies builtins request written.statement with
  | error failure => exact absurd ⟨failure, applies⟩ calm
  | ok holds => cases holds <;> simp

end Applies

/-! ### What a policy comes to -/

section Outcomes

variable {builtins : Builtins} {request : IamRequest} {document other : List WrittenStatement}

theorem matchingStatements_error_iff {statements : List IamStatement} :
    (∃ failure, matchingStatements builtins request statements = .error failure) ↔
      ∃ statement ∈ statements, ∃ failure,
        statementApplies builtins request statement = .error failure := by
  induction statements with
  | nil => simp [matchingStatements]
  | cons first rest ih =>
      rw [List.exists_mem_cons_iff, ← ih, matchingStatements]
      cases statementApplies builtins request first with
      | error failure => simp [bind, Except.bind]
      | ok applies =>
          cases matchingStatements builtins request rest with
          | error failure => simp [bind, Except.bind]
          | ok later => simp [bind, Except.bind]

/-- An error is raised where a statement raises one. -/
theorem outcomeOf_unsupported_iff :
    outcomeOf builtins document request = .unsupported ↔
      ∃ written ∈ document, Raises builtins request written := by
  have raises := @matchingStatements_error_iff builtins request
    (document.map WrittenStatement.statement)
  simp only [List.mem_map, exists_exists_and_eq_and] at raises
  rw [outcomeOf, evaluateIamPolicy, policyOf]
  cases evaluated : matchingStatements builtins request (document.map WrittenStatement.statement) with
  | error failure =>
      rw [evaluated] at raises
      simpa [Except.map, Raises] using raises
  | ok matching =>
      rw [evaluated] at raises
      simpa [Except.map, Raises] using raises

theorem decisionOf_eq_deny_iff {matching : List IamStatement} :
    decisionOf matching = .explicitDeny ↔ ∃ statement ∈ matching, statement.effect = .deny := by
  rw [decisionOf]
  split
  · rename_i denied
    simpa using denied
  · rename_i notDenied
    have noDeny : ¬ ∃ statement ∈ matching, statement.effect = .deny := by simpa using notDenied
    split
    · exact ⟨fun same => (by cases same), fun denied => absurd denied noDeny⟩
    · exact ⟨fun same => (by cases same), fun denied => absurd denied noDeny⟩

/-- Where no statement raises an error, the effects of those that apply decide. -/
theorem decided_of_calm (calm : ¬ ∃ written ∈ document, Raises builtins request written) :
    ∃ matching, outcomeOf builtins document request = .decided (decisionOf matching) ∧
      ∀ effect, (∃ statement ∈ matching, statement.effect = effect) ↔
        ∃ written ∈ document, written.effect = effect ∧
          statementApplies builtins request written.statement = .ok true := by
  rw [← outcomeOf_unsupported_iff, outcomeOf, evaluateIamPolicy, policyOf] at calm
  cases evaluated : matchingStatements builtins request (document.map WrittenStatement.statement) with
  | error failure =>
      rw [evaluated] at calm
      exact absurd rfl calm
  | ok matching =>
      refine ⟨matching, ?_, ?_⟩
      · rw [outcomeOf, evaluateIamPolicy, policyOf, evaluated]
        rfl
      · intro effect
        simp only [mem_matchingStatements_iff evaluated, List.mem_map]
        constructor
        · rintro ⟨_, ⟨⟨written, isWritten, rfl⟩, applies⟩, isEffect⟩
          exact ⟨written, isWritten, isEffect, applies⟩
        · rintro ⟨written, isWritten, isEffect, applies⟩
          exact ⟨_, ⟨⟨written, isWritten, rfl⟩, applies⟩, isEffect⟩

/-- A statement of this effect applies. -/
def SomeApplies (builtins : Builtins) (request : IamRequest) (document : List WrittenStatement)
    (effect : IamEffect) : Prop :=
  ∃ written ∈ document, written.effect = effect ∧ statementApplies builtins request written.statement = .ok true

/-- Where no statement raises an error, an applying `Deny` decides, and then an applying `Allow`. -/
theorem outcomeOf_of_calm (calm : ¬ ∃ written ∈ document, Raises builtins request written) :
    (outcomeOf builtins document request = .decided .explicitDeny ↔ SomeApplies builtins request document .deny) ∧
      (outcomeOf builtins document request = .decided .allow ↔
        ¬ SomeApplies builtins request document .deny ∧ SomeApplies builtins request document .allow) ∧
      ∃ decision, outcomeOf builtins document request = .decided decision := by
  obtain ⟨matching, isOutcome, effects⟩ := decided_of_calm calm
  rw [isOutcome]
  simp only [IamOutcome.decided.injEq]
  refine ⟨?_, ?_, _, rfl⟩
  · rw [decisionOf_eq_deny_iff]
    exact effects .deny
  · rw [decisionOf_eq_allow_iff, SomeApplies, SomeApplies, ← effects, ← effects]
    exact and_congr_left fun _ => ⟨fun none => fun ⟨one, isOne, isDeny⟩ => none one isOne isDeny,
      fun none one isOne isDeny => none ⟨one, isOne, isDeny⟩⟩

/-- Two policies that raise no error decide alike where the same effects apply. -/
theorem outcomeOf_congr (calm : ¬ ∃ written ∈ document, Raises builtins request written)
    (otherCalm : ¬ ∃ written ∈ other, Raises builtins request written)
    (deny : SomeApplies builtins request document .deny ↔ SomeApplies builtins request other .deny)
    (allow : ¬ SomeApplies builtins request document .deny →
      (SomeApplies builtins request document .allow ↔ SomeApplies builtins request other .allow)) :
    outcomeOf builtins document request = outcomeOf builtins other request := by
  obtain ⟨denied, allowed, decision, isDecision⟩ := outcomeOf_of_calm calm
  obtain ⟨otherDenied, otherAllowed, otherDecision, isOther⟩ := outcomeOf_of_calm otherCalm
  rw [isDecision] at denied allowed ⊢
  rw [isOther] at otherDenied otherAllowed ⊢
  by_cases denies : SomeApplies builtins request document .deny
  · rw [denied.mpr denies, otherDenied.mpr (deny.mp denies)]
  · have notDenies := fun denies' => denies (deny.mpr denies')
    by_cases allows : SomeApplies builtins request document .allow
    · rw [allowed.mpr ⟨denies, allows⟩, otherAllowed.mpr ⟨notDenies, (allow denies).mp allows⟩]
    · have notAllows := fun allows' => allows ((allow denies).mpr allows')
      cases decision with
      | explicitDeny => exact absurd (denied.mp rfl) denies
      | allow => exact absurd (allowed.mp rfl).2 allows
      | implicitDeny =>
          cases otherDecision with
          | explicitDeny => exact absurd (otherDenied.mp rfl) notDenies
          | allow => exact absurd (otherAllowed.mp rfl).2 notAllows
          | implicitDeny => rfl

end Outcomes

/-! ### The orders of a policy -/

section Orders

variable {builtins : Builtins} {request : IamRequest} {context : List (Utf16 × Utf16)}
  {document other : List WrittenStatement}

/-- Each statement can be rewritten on its own. -/
theorem exists_rewriting {holds : WrittenStatement → WrittenStatement → Prop}
    (each : ∀ written ∈ document, ∃ other, Rewritten written other ∧ holds written other) :
    ∃ others, RewrittenPolicy document others ∧
      (∀ written ∈ document, ∃ other ∈ others, Rewritten written other ∧ holds written other) ∧
      ∀ other ∈ others, ∃ written ∈ document, Rewritten written other ∧ holds written other := by
  have matching : ∃ others,
      List.Forall₂ (fun written other => Rewritten written other ∧ holds written other) document others := by
    induction document with
    | nil => exact ⟨[], .nil⟩
    | cons written rest ih =>
        obtain ⟨first, isFirst⟩ := each written List.mem_cons_self
        obtain ⟨others, related⟩ := ih fun one isOne => each one (List.mem_cons_of_mem _ isOne)
        exact ⟨first :: others, .cons isFirst related⟩
  obtain ⟨others, related⟩ := matching
  refine ⟨others, .of_forall₂ (related.imp fun _ _ both => both.1), ?_, ?_⟩
  · exact fun written isWritten => (PermBy.of_forall₂ related).exists_right isWritten
  · exact fun other isOther => (PermBy.of_forall₂ related).exists_left isOther

/-- A policy can be written so that a statement raises an error that can. -/
theorem exists_raising_document (lowers : builtins.LowersAscii) (isContext : request.context = some context)
    (may : ∃ written ∈ document, MayRaise builtins request written) :
    ∃ other, RewrittenPolicy document other ∧ outcomeOf builtins other request = .unsupported := by
  obtain ⟨written, isWritten, mayRaise⟩ := may
  obtain ⟨others, rewritten, forward, -⟩ := @exists_rewriting document
    (fun written other => MayRaise builtins request written → Raises builtins request other) fun one _ => by
      by_cases may : MayRaise builtins request one
      · obtain ⟨other, same, raises⟩ := may.exists_rewritten lowers isContext
        exact ⟨other, same, fun _ => raises⟩
      · exact ⟨one, .refl one, fun holds => absurd holds may⟩
  obtain ⟨other, isOther, -, raises⟩ := forward written isWritten
  exact ⟨others, rewritten, outcomeOf_unsupported_iff.mpr ⟨other, isOther, raises mayRaise⟩⟩

/-- A policy of statements that raise no error can be written so that those apply that can, of those that are
    chosen, and so that those do not apply that need not, of the others. -/
theorem exists_deciding_document (lowers : builtins.LowersAscii) (isContext : request.context = some context)
    (chosen : WrittenStatement → Prop)
    (calm : ∀ written ∈ document, MayApply builtins request context written ∨ MayMiss builtins request context written) :
    ∃ other, RewrittenPolicy document other ∧ (¬ ∃ written ∈ other, Raises builtins request written) ∧
      ∀ effect, SomeApplies builtins request other effect ↔
        ∃ written ∈ document, written.effect = effect ∧
          MayApply builtins request context written ∧ (chosen written ∨ ¬ MayMiss builtins request context written) := by
  obtain ⟨others, rewritten, forward, back⟩ := @exists_rewriting document
    (fun written other =>
      statementApplies builtins request other.statement = .ok true ∧ MayApply builtins request context written ∧
          (chosen written ∨ ¬ MayMiss builtins request context written) ∨
        statementApplies builtins request other.statement = .ok false ∧
          ¬ (MayApply builtins request context written ∧
            (chosen written ∨ ¬ MayMiss builtins request context written)))
    fun one isOne => by
      by_cases applies : MayApply builtins request context one ∧
          (chosen one ∨ ¬ MayMiss builtins request context one)
      · obtain ⟨other, same, holds⟩ := applies.1.exists_rewritten isContext
        exact ⟨other, same, .inl ⟨holds, applies⟩⟩
      · have misses : MayMiss builtins request context one := by
          by_contra never
          exact applies ⟨(calm one isOne).resolve_right never, .inr never⟩
        obtain ⟨other, same, fails⟩ := misses.exists_rewritten lowers isContext
        exact ⟨other, same, .inr ⟨fails, applies⟩⟩
  refine ⟨others, rewritten, ?_, fun effect => ⟨?_, ?_⟩⟩
  · rintro ⟨other, isOther, failure, raised⟩
    obtain ⟨one, -, -, ⟨applies, -⟩ | ⟨misses, -⟩⟩ := back other isOther
    · rw [applies] at raised
      cases raised
    · rw [misses] at raised
      cases raised
  · rintro ⟨other, isOther, isEffect, applies⟩
    obtain ⟨one, isOne, same, ⟨-, can⟩ | ⟨misses, -⟩⟩ := back other isOther
    · exact ⟨one, isOne, same.effect.trans isEffect, can⟩
    · rw [applies] at misses
      cases misses
  · rintro ⟨one, isOne, isEffect, can⟩
    obtain ⟨other, isOther, same, ⟨applies, -⟩ | ⟨-, cannot⟩⟩ := forward one isOne
    · exact ⟨other, isOther, same.effect.symm.trans isEffect, applies⟩
    · exact absurd can cannot

end Orders

/-- The statements of one effect decide alike in every order: some of them applies in all, or none in any. -/
def Settled (builtins : Builtins) (request : IamRequest) (context : List (Utf16 × Utf16))
    (document : List WrittenStatement) (effect : IamEffect) : Prop :=
  (∃ written ∈ document, written.effect = effect ∧ ¬ MayMiss builtins request context written) ∨
    ∀ written ∈ document, written.effect = effect → ¬ MayApply builtins request context written

/-- No context is given; or some statement raises an error in every order; or none raises one in any, and the
    `Deny`s are settled, and so are the `Allow`s where no `Deny` applies. -/
def OrderFree (builtins : Builtins) (document : List WrittenStatement) (request : IamRequest) : Prop :=
  ∀ context ∈ request.context,
    (∃ written ∈ document, ¬ MayApply builtins request context written ∧ ¬ MayMiss builtins request context written) ∨
      ((∀ written ∈ document, ¬ MayRaise builtins request written) ∧
        Settled builtins request context document .deny ∧
        ((∃ written ∈ document, written.effect = .deny ∧ ¬ MayMiss builtins request context written) ∨
          Settled builtins request context document .allow))

section OrderFree

variable {builtins : Builtins} {request : IamRequest} {context : List (Utf16 × Utf16)}
  {document other : List WrittenStatement}

/-- A statement that neither applies nor misses in any order raises an error in each. -/
theorem unsupported_of_must (lowers : builtins.LowersAscii) (isContext : request.context = some context)
    (rewritten : RewrittenPolicy document other)
    (must : ∃ written ∈ document,
      ¬ MayApply builtins request context written ∧ ¬ MayMiss builtins request context written) :
    outcomeOf builtins other request = .unsupported := by
  obtain ⟨written, isWritten, neverApplies, neverMisses⟩ := must
  obtain ⟨one, isOne, same⟩ := rewritten.exists_right isWritten
  obtain ⟨-, applies, misses⟩ := may_of_rewritten lowers isContext same
  refine outcomeOf_unsupported_iff.mpr ⟨one, isOne, ?_⟩
  by_contra calm
  exact (applies_or_misses one calm).elim (fun holds => neverApplies (applies holds)) fun fails =>
    neverMisses (misses fails)

/-- Where no statement raises an error in any order, none of a rewritten policy does. -/
theorem calm_of_never (lowers : builtins.LowersAscii) (isContext : request.context = some context)
    (rewritten : RewrittenPolicy document other)
    (never : ∀ written ∈ document, ¬ MayRaise builtins request written) :
    ¬ ∃ written ∈ other, Raises builtins request written := by
  rintro ⟨one, isOne, raises⟩
  obtain ⟨written, isWritten, same⟩ := rewritten.exists_left isOne
  exact never written isWritten ((may_of_rewritten lowers isContext same).1 raises)

/-- Settled statements apply in every order or in none. -/
theorem Settled.applies_iff (lowers : builtins.LowersAscii) (isContext : request.context = some context)
    {effect : IamEffect} (settled : Settled builtins request context document effect)
    (rewritten : RewrittenPolicy document other) (calm : ¬ ∃ written ∈ other, Raises builtins request written) :
    SomeApplies builtins request other effect ↔
      ∃ written ∈ document, written.effect = effect ∧ ¬ MayMiss builtins request context written := by
  constructor
  · rintro ⟨one, isOne, isEffect, applies⟩
    obtain ⟨written, isWritten, same⟩ := rewritten.exists_left isOne
    refine settled.resolve_right fun never => never written isWritten (same.effect.trans isEffect) ?_
    exact (may_of_rewritten lowers isContext same).2.1 applies
  · rintro ⟨written, isWritten, isEffect, neverMisses⟩
    obtain ⟨one, isOne, same⟩ := rewritten.exists_right isWritten
    refine ⟨one, isOne, same.effect.symm.trans isEffect, ?_⟩
    refine (applies_or_misses one fun raises => calm ⟨one, isOne, raises⟩).resolve_right fun fails => ?_
    exact neverMisses ((may_of_rewritten lowers isContext same).2.2 fails)

/-- Without a context no condition is asked, and the order does not show. -/
theorem outcomeOf_of_no_context (none : request.context = none) (rewritten : RewrittenPolicy document other) :
    outcomeOf builtins other request = outcomeOf builtins document request := by
  have byCover : ∀ written : WrittenStatement, statementApplies builtins request written.statement =
      .ok (statementCovers builtins written.statement request.action request.resource) := by
    intro written
    rw [statementApplies, none]
    cases statementCovers builtins written.statement request.action request.resource <;> rfl
  have calm : ∀ document : List WrittenStatement, ¬ ∃ written ∈ document, Raises builtins request written := by
    rintro document ⟨written, -, failure, raised⟩
    rw [byCover] at raised
    cases raised
  have applies : ∀ effect, SomeApplies builtins request other effect ↔
      SomeApplies builtins request document effect := by
    intro effect
    constructor
    · rintro ⟨one, isOne, isEffect, applies⟩
      obtain ⟨written, isWritten, same⟩ := rewritten.exists_left isOne
      exact ⟨written, isWritten, same.effect.trans isEffect, by rw [byCover, covers_rewritten same, ← byCover, applies]⟩
    · rintro ⟨written, isWritten, isEffect, applies⟩
      obtain ⟨one, isOne, same⟩ := rewritten.exists_right isWritten
      exact ⟨one, isOne, same.effect.symm.trans isEffect, by rw [byCover, ← covers_rewritten same, ← byCover, applies]⟩
  exact outcomeOf_congr (calm other) (calm document) (applies .deny) fun _ => applies .allow

/-- A policy that is free of its order decides alike however it is written down. -/
theorem OrderFree.invariant (free : OrderFree builtins document request) (lowers : builtins.LowersAscii)
    (rewritten : RewrittenPolicy document other) :
    outcomeOf builtins other request = outcomeOf builtins document request := by
  have itself : RewrittenPolicy document document := .refl Rewritten.refl document
  cases isContext : request.context with
  | none => exact outcomeOf_of_no_context isContext rewritten
  | some context =>
      rcases free context isContext with must | ⟨never, deny, allow⟩
      · rw [unsupported_of_must lowers isContext rewritten must, unsupported_of_must lowers isContext itself must]
      · have calm := calm_of_never lowers isContext rewritten never
        have calmItself := calm_of_never lowers isContext itself never
        refine outcomeOf_congr calm calmItself ?_ fun noDeny => ?_
        · rw [deny.applies_iff lowers isContext rewritten calm, deny.applies_iff lowers isContext itself calmItself]
        · rw [deny.applies_iff lowers isContext rewritten calm] at noDeny
          have allow := allow.resolve_left noDeny
          rw [allow.applies_iff lowers isContext rewritten calm, allow.applies_iff lowers isContext itself calmItself]

/-- A policy that decides alike however it is written down is free of its order. -/
theorem orderFree_of_invariant (lowers : builtins.LowersAscii)
    (invariant : ∀ other, RewrittenPolicy document other →
      outcomeOf builtins other request = outcomeOf builtins document request) :
    OrderFree builtins document request := by
  intro context isContext
  by_cases must : ∃ written ∈ document,
      ¬ MayApply builtins request context written ∧ ¬ MayMiss builtins request context written
  · exact .inl must
  right
  have calm : ∀ written ∈ document,
      MayApply builtins request context written ∨ MayMiss builtins request context written := by
    intro written isWritten
    by_contra neither
    exact must ⟨written, isWritten, fun may => neither (.inl may), fun may => neither (.inr may)⟩
  -- The policy written so that as much applies as can, and so that as little does.
  obtain ⟨most, rewrittenMost, mostCalm, mostApplies⟩ :=
    exists_deciding_document lowers isContext (fun _ => True) calm
  obtain ⟨least, rewrittenLeast, leastCalm, leastApplies⟩ :=
    exists_deciding_document lowers isContext (fun _ => False) calm
  simp only [true_or, and_true, false_or] at mostApplies leastApplies
  have same := (invariant most rewrittenMost).trans (invariant least rewrittenLeast).symm
  obtain ⟨mostDenied, mostAllowed, -⟩ := outcomeOf_of_calm mostCalm
  obtain ⟨leastDenied, leastAllowed, decision, isDecision⟩ := outcomeOf_of_calm leastCalm
  have denies : SomeApplies builtins request most .deny ↔ SomeApplies builtins request least .deny := by
    rw [← mostDenied, ← leastDenied, same]
  have settled : Settled builtins request context document .deny := by
    by_cases may : ∃ written ∈ document, written.effect = .deny ∧ MayApply builtins request context written
    · obtain ⟨written, isWritten, isDeny, -, neverMisses⟩ :=
        (leastApplies .deny).mp (denies.mp ((mostApplies .deny).mpr may))
      exact .inl ⟨written, isWritten, isDeny, neverMisses⟩
    · exact .inr fun written isWritten isDeny mayApply => may ⟨written, isWritten, isDeny, mayApply⟩
  refine ⟨?_, settled, ?_⟩
  · intro written isWritten may
    obtain ⟨raising, rewrittenRaising, raises⟩ := exists_raising_document lowers isContext ⟨written, isWritten, may⟩
    have equal := (invariant raising rewrittenRaising).trans (invariant least rewrittenLeast).symm
    rw [raises, isDecision] at equal
    cases equal
  · by_cases denied : ∃ written ∈ document, written.effect = .deny ∧ ¬ MayMiss builtins request context written
    · exact .inl denied
    right
    have noDeny : ¬ SomeApplies builtins request least .deny := by
      rw [leastApplies]
      rintro ⟨written, isWritten, isDeny, -, neverMisses⟩
      exact denied ⟨written, isWritten, isDeny, neverMisses⟩
    by_cases may : ∃ written ∈ document, written.effect = .allow ∧ MayApply builtins request context written
    · have allowed := mostAllowed.mpr ⟨fun denies' => noDeny (denies.mp denies'), (mostApplies .allow).mpr may⟩
      rw [same] at allowed
      obtain ⟨written, isWritten, isAllow, -, neverMisses⟩ := (leastApplies .allow).mp (leastAllowed.mp allowed).2
      exact .inl ⟨written, isWritten, isAllow, neverMisses⟩
    · exact .inr fun written isWritten isAllow mayApply => may ⟨written, isWritten, isAllow, mayApply⟩

end OrderFree

/-- A policy decides the same however it is written down just where no context is given, or some covering
    statement can only raise an error, or none can raise one and what can apply or miss does not show in the
    decision. -/
theorem evaluation_order_free_iff (builtins : Builtins) (lowers : builtins.LowersAscii)
    (document : List WrittenStatement) (request : IamRequest) :
    (∀ other, RewrittenPolicy document other →
        outcomeOf builtins other request = outcomeOf builtins document request) ↔
      OrderFree builtins document request :=
  ⟨orderFree_of_invariant lowers, fun free _ rewritten => free.invariant lowers rewritten⟩

/-- A statement with a condition that fails in the context, and one whose operator is not known. -/
def datedStatement (condition : ConditionBlock) : WrittenStatement :=
  ⟨.allow, [units "s3:GetObject"], [], [units "*"], [], condition⟩

theorem rewritten_datedStatement {condition other : ConditionBlock}
    (perm : PermBy SameOperator condition other) :
    Rewritten (datedStatement condition) (datedStatement other) :=
  ⟨rfl, .refl _, .refl _, .refl _, .refl _, perm⟩

/-- A condition that the request fails. -/
def sourceCondition : Utf16 × List (Utf16 × List Utf16) :=
  (units "StringEquals", [(units "aws:sourcevpc", [units "vpc-1"])])

/-- A condition whose operator is not supported. -/
def dateCondition : Utf16 × List (Utf16 × List Utf16) :=
  (units "DateLessThan", [(units "aws:currenttime", [units "2030-01-01"])])

/-- A request from another network. -/
def foreignRequest : IamRequest :=
  ⟨units "s3:GetObject", units "arn", some [(units "aws:SourceVpc", units "vpc-2")]⟩

/-- A repeated operator, of which the last one counts. -/
theorem evaluation_order_free_iff_repeated :
    ¬ OrderFree asciiBuiltins
      [datedStatement [sourceCondition, (units "StringEquals", [(units "aws:SourceVpc", [units "vpc-2"])])]]
      foreignRequest := by
  rw [← evaluation_order_free_iff asciiBuiltins lowersAscii_asciiBuiltins]
  intro invariant
  have same := invariant
    [datedStatement [(units "StringEquals", [(units "aws:SourceVpc", [units "vpc-2"])]), sourceCondition]]
    (.of_forall₂ (.cons (rewritten_datedStatement (.of_perm SameOperator.refl (.swap _ _ _))) .nil))
  revert same
  decide

/-- Two operators in one order decide, in the other they raise an error. -/
theorem operators_in_the_other_order :
    RewrittenPolicy [datedStatement [sourceCondition, dateCondition]]
        [datedStatement [dateCondition, sourceCondition]] ∧
      outcomeOf asciiBuiltins [datedStatement [sourceCondition, dateCondition]] foreignRequest =
        .decided .implicitDeny ∧
      outcomeOf asciiBuiltins [datedStatement [dateCondition, sourceCondition]] foreignRequest =
        .unsupported := by
  have swapped : PermBy SameOperator [sourceCondition, dateCondition] [dateCondition, sourceCondition] :=
    .of_perm SameOperator.refl (.swap _ _ _)
  refine ⟨.of_forall₂ (.cons (rewritten_datedStatement swapped) .nil), ?_, ?_⟩
  · decide
  · decide

end JumptotechLabs.Verifier
