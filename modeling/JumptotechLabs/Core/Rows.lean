/-
Module: JumptotechLabs.Core.Rows
Layer: Core (library)
Purpose: Tables whose rows get ascending numbers: the rows newest first, and the first row of each key. Two lists that
  correspond item by item correspond as well once they are filtered, searched or cut short alike.
Main exports: orderDesc, orderDesc_eq_reverse, distinctOn, find?_distinctOn, nodup_distinctOn, distinctOn_of_nodup, Corresponding.filter,
  Corresponding.take, Corresponding.find?
-/
import Mathlib.Data.List.Forall2
import Mathlib.Data.List.Pairwise
import Mathlib.Data.List.Sort

namespace JumptotechLabs.Core

section Order

variable {ρ : Type} (number : ρ → Nat)

/-- `ORDER BY number DESC`. -/
def orderDesc (rows : List ρ) : List ρ := rows.mergeSort fun first second => decide (number second ≤ number first)

/-- Rows that stand in the order of their numbers are turned round. -/
theorem orderDesc_eq_reverse {rows : List ρ} (ascending : rows.Pairwise fun first second => number first < number second) :
    orderDesc number rows = rows.reverse := by
  have sorted : (orderDesc number rows).Pairwise fun first second => number second ≤ number first := by
    have transitive : ∀ a b c : ρ, decide (number b ≤ number a) = true → decide (number c ≤ number b) = true →
        decide (number c ≤ number a) = true := by
      intro a b c one other
      rw [decide_eq_true_eq] at one other ⊢
      exact Nat.le_trans other one
    have total : ∀ a b : ρ, (decide (number b ≤ number a) || decide (number a ≤ number b)) = true := by
      intro a b
      simpa using Nat.le_total (number b) (number a)
    exact (@List.pairwise_mergeSort ρ (fun first second => decide (number second ≤ number first)) transitive total
      rows).imp of_decide_eq_true
  have reversed : rows.reverse.Pairwise fun first second => number second ≤ number first := by
    rw [List.pairwise_reverse]
    exact ascending.imp Nat.le_of_lt
  have perm : (orderDesc number rows).Perm rows.reverse := (List.mergeSort_perm _ _).trans (List.reverse_perm _).symm
  refine List.Perm.eq_of_pairwise (fun first second isFirst isSecond one other => ?_) sorted reversed perm
  have same : number first = number second := Nat.le_antisymm other one
  have inRows : ∀ row ∈ orderDesc number rows, row ∈ rows := fun row member => List.mem_mergeSort.mp member
  have distinct : rows.Pairwise fun first second => number first ≠ number second := ascending.imp Nat.ne_of_lt
  have symmetric : Std.Symm fun first second => number first ≠ number second := ⟨fun _ _ => Ne.symm⟩
  by_contra differ
  exact distinct.forall (inRows first isFirst) (List.mem_reverse.mp isSecond) differ same

end Order

/-! ### The first row of each key -/

section Distinct

variable {ρ κ : Type} [DecidableEq κ] (key : ρ → κ)

/-- `DISTINCT ON (key)`, of rows in their order. -/
def distinctOn : List ρ → List ρ
  | [] => []
  | row :: rest => row :: (distinctOn rest).filter fun other => key other ≠ key row

theorem mem_of_mem_distinctOn {rows : List ρ} {row : ρ} (member : row ∈ distinctOn key rows) : row ∈ rows := by
  induction rows with
  | nil => exact member
  | cons first rest ih =>
      rcases List.mem_cons.mp member with isFirst | later
      · exact List.mem_cons.mpr (.inl isFirst)
      · exact List.mem_cons_of_mem first (ih (List.mem_of_mem_filter later))

theorem find?_distinctOn (rows : List ρ) (wanted : κ) :
    (distinctOn key rows).find? (fun row => key row = wanted) = rows.find? fun row => key row = wanted := by
  induction rows with
  | nil => rfl
  | cons row rest ih =>
      rw [distinctOn]
      by_cases isWanted : key row = wanted
      · rw [List.find?_cons_of_pos (by simpa using isWanted), List.find?_cons_of_pos (by simpa using isWanted)]
      · rw [List.find?_cons_of_neg (by simpa using isWanted), List.find?_cons_of_neg (by simpa using isWanted),
          List.find?_filter, ← ih]
        congr 1
        funext other
        by_cases same : key other = wanted
        · have differs : key other ≠ key row := fun equal => isWanted (equal ▸ same)
          simp [same]
          exact fun equal => isWanted equal.symm
        · simp [same]

theorem nodup_distinctOn (rows : List ρ) : ((distinctOn key rows).map key).Nodup := by
  induction rows with
  | nil => exact List.nodup_nil
  | cons row rest ih =>
      rw [distinctOn, List.map_cons, List.nodup_cons]
      refine ⟨fun member => ?_, (ih.sublist (List.filter_sublist.map key))⟩
      obtain ⟨other, isOther, same⟩ := List.mem_map.mp member
      have differs := (List.mem_filter.mp isOther).2
      simp [same] at differs

/-- Rows with keys of their own are all first. -/
theorem distinctOn_of_nodup {rows : List ρ} (distinct : (rows.map key).Nodup) : distinctOn key rows = rows := by
  induction rows with
  | nil => rfl
  | cons row rest ih =>
      rw [List.map_cons, List.nodup_cons] at distinct
      rw [distinctOn, ih distinct.2, List.filter_eq_self.mpr]
      intro other member
      rw [decide_eq_true_eq]
      exact fun same => distinct.1 (List.mem_map.mpr ⟨other, member, same⟩)

end Distinct

/-! ### Lists that correspond -/

section Corresponding

variable {α β γ : Type} {matching : α → β → Prop} {xs : List α} {ys : List β}

/-- Item by item. -/
abbrev Corresponding (matching : α → β → Prop) (xs : List α) (ys : List β) : Prop := List.Forall₂ matching xs ys

theorem Corresponding.filter (corresponding : Corresponding matching xs ys) {keep : α → Bool} {keep' : β → Bool}
    (alike : ∀ x y, matching x y → keep x = keep' y) : Corresponding matching (xs.filter keep) (ys.filter keep') :=
  List.rel_filter (fun x y here => iff_of_eq (congrArg (· = true) (alike x y here))) corresponding

theorem Corresponding.take (corresponding : Corresponding matching xs ys) (count : Nat) :
    Corresponding matching (xs.take count) (ys.take count) := List.forall₂_take count corresponding

theorem Corresponding.reverse (corresponding : Corresponding matching xs ys) :
    Corresponding matching xs.reverse ys.reverse := List.forall₂_reverse_iff.mpr corresponding

/-- What is told of corresponding items is the same. -/
theorem Corresponding.map_eq (corresponding : Corresponding matching xs ys) {tell : α → γ} {tell' : β → γ}
    (alike : ∀ x y, matching x y → tell x = tell' y) : xs.map tell = ys.map tell' := by
  induction corresponding with
  | nil => rfl
  | cons here _ ih => rw [List.map_cons, List.map_cons, alike _ _ here, ih]

theorem Corresponding.find? (corresponding : Corresponding matching xs ys) {wanted : α → Bool} {wanted' : β → Bool}
    {tell : α → γ} {tell' : β → γ} (alike : ∀ x y, matching x y → wanted x = wanted' y)
    (told : ∀ x y, matching x y → tell x = tell' y) :
    (xs.find? wanted).map tell = (ys.find? wanted').map tell' := by
  induction corresponding with
  | nil => rfl
  | cons here _ ih =>
      rw [List.find?_cons, List.find?_cons, alike _ _ here]
      split
      · exact congrArg some (told _ _ here)
      · exact ih

end Corresponding

end JumptotechLabs.Core
