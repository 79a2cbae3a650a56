/-
Module: JumptotechLabs.Core.Collect
Layer: Core (library)
Purpose: A check run over items one after the other, which collects the issues it finds and carries what it has
  seen. Where it finds none, no item had one; and where an item without an issue adds rows under new keys, the
  rows of all items are there, under distinct keys.
Main exports: collect, collect_none, collect_rows
-/
import JumptotechLabs.Core.Keyed

namespace JumptotechLabs.Core

variable {ι σ β : Type}

/-- The issues a check finds in items, in their order, and what it has seen at the end. -/
def collect (check : σ → β → List ι × σ) : List β → σ → List ι × σ
  | [], seen => ([], seen)
  | item :: items, seen =>
      let here := check seen item
      let further := collect check items here.2
      (here.1 ++ further.1, further.2)

variable {check : σ → β → List ι × σ}

/-- Without issues, the check found none in any item. -/
theorem collect_none {items : List β} {seen : σ} (none : (collect check items seen).1 = []) :
    ∀ item ∈ items, ∃ before, (check before item).1 = [] := by
  induction items generalizing seen with
  | nil => exact List.forall_mem_nil _
  | cons item items ih =>
      obtain ⟨here, further⟩ := List.append_eq_nil_iff.mp none
      exact List.forall_mem_cons.mpr ⟨⟨seen, here⟩, ih further⟩

/-- Items without an issue add their rows, under keys that are new. -/
theorem collect_rows {α κ : Type} [DecidableEq κ] {key : α → κ} {check : List α → β → List ι × List α}
    {rows : β → List α}
    (adds : ∀ seen item, (check seen item).1 = [] →
      (check seen item).2 = seen ++ rows item ∧
        (Keyed.Distinct key seen → Keyed.Distinct key (seen ++ rows item)))
    {items : List β} {seen : List α} (none : (collect check items seen).1 = []) :
    (collect check items seen).2 = seen ++ items.flatMap rows ∧
      (Keyed.Distinct key seen → Keyed.Distinct key (seen ++ items.flatMap rows)) := by
  induction items generalizing seen with
  | nil =>
      rw [List.flatMap_nil, List.append_nil]
      exact ⟨rfl, id⟩
  | cons item items ih =>
      obtain ⟨here, further⟩ := List.append_eq_nil_iff.mp none
      obtain ⟨added, isNew⟩ := adds seen item here
      obtain ⟨all, allNew⟩ := ih further
      have whole : seen ++ (item :: items).flatMap rows = (check seen item).2 ++ items.flatMap rows := by
        rw [List.flatMap_cons, added, List.append_assoc]
      rw [whole]
      refine ⟨all, fun distinct => allNew ?_⟩
      rw [added]
      exact isNew distinct

end JumptotechLabs.Core
