/-
Module: JumptotechLabs.Core.Keyed
Layer: Core (library)
Purpose: Rows kept under a key, in the order they were inserted: what a `Map` from key to record and a
  table with a primary key have in common. A change under a key keeps the row's place.
Main exports: Distinct, lookup, modify, put, remove, lookup_put, lookup_modify, lookup_remove, ext_of_keys,
  countP_modify, putAll, lasting, mem_putAll_iff, exists_perm_front, exists_perm_lasting
-/
import Mathlib.Data.List.Basic
import Mathlib.Data.List.Nodup
import Mathlib.Data.List.Forall2

namespace JumptotechLabs.Core.Keyed

variable {α κ : Type} [DecidableEq κ] (key : α → κ)

/-- No two rows share a key. -/
def Distinct (rows : List α) : Prop := (rows.map key).Nodup

/-- The row under a key. -/
def lookup (k : κ) (rows : List α) : Option α := rows.find? fun row => key row = k

/-- Change the row under a key. -/
def modify (k : κ) (change : α → α) (rows : List α) : List α :=
  rows.map fun row => if key row = k then change row else row

/-- Set the row under its key: in the place of the one there, or at the end. -/
def put (row : α) : List α → List α
  | [] => [row]
  | head :: tail => if key head = key row then row :: tail else head :: put row tail

/-- Remove the row under a key. -/
def remove (k : κ) (rows : List α) : List α := rows.filter fun row => key row ≠ k

variable {key} {k k' : κ} {rows : List α} {row : α} {change : α → α}

theorem key_of_lookup (found : lookup key k rows = some row) : key row = k := by
  simpa using List.find?_some found

theorem mem_of_lookup (found : lookup key k rows = some row) : row ∈ rows :=
  List.mem_of_find?_eq_some found

theorem lookup_eq_none : lookup key k rows = none ↔ ∀ row ∈ rows, key row ≠ k := by
  simp [lookup]

/-- With distinct keys the row under a key is the row that carries it. -/
theorem lookup_of_mem (distinct : Distinct key rows) (member : row ∈ rows) :
    lookup key (key row) rows = some row := by
  cases found : lookup key (key row) rows with
  | none => exact absurd rfl (lookup_eq_none.mp found row member)
  | some other =>
      have same : other = row :=
        List.inj_on_of_nodup_map distinct (mem_of_lookup found) member (key_of_lookup found)
      rw [same]

theorem lookup_append (k : κ) (rows : List α) (row : α) :
    lookup key k (rows ++ [row]) =
      (lookup key k rows).or (if key row = k then some row else none) := by
  simp only [lookup, List.find?_append]
  by_cases same : key row = k <;> simp [same]

theorem lookup_modify (k k' : κ) (change : α → α) (rows : List α)
    (stable : ∀ row, key (change row) = key row) :
    lookup key k' (modify key k change rows) =
      (lookup key k' rows).map fun row => if key row = k then change row else row := by
  induction rows with
  | nil => rfl
  | cons head tail ih =>
      have keyed : key (if key head = k then change head else head) = key head := by
        split
        · exact stable head
        · rfl
      simp only [lookup, modify, List.map_cons, List.find?_cons, keyed] at ih ⊢
      by_cases found : key head = k' <;> simp [found, ih]

theorem lookup_remove (k k' : κ) (rows : List α) :
    lookup key k' (remove key k rows) = if k' = k then none else lookup key k' rows := by
  induction rows with
  | nil => simp [lookup, remove]
  | cons head tail ih =>
      simp only [lookup, remove, List.filter_cons] at ih ⊢
      by_cases removed : key head = k
      · simp only [removed, ne_eq, not_true_eq_false, decide_false, Bool.false_eq_true, if_false, ih,
          List.find?_cons]
        by_cases same : k' = k
        · simp [same]
        · simp [same, Ne.symm same]
      · simp only [ne_eq, removed, not_false_eq_true, decide_true, if_true, List.find?_cons, ih]
        by_cases found : key head = k'
        · have kept : k' ≠ k := fun same => removed (found.trans same)
          simp [found, kept]
        · simp [found]

theorem lookup_put (k : κ) (row : α) (rows : List α) :
    lookup key k (put key row rows) = if key row = k then some row else lookup key k rows := by
  induction rows with
  | nil =>
      simp only [put, lookup, List.find?_cons, List.find?_nil]
      by_cases same : key row = k <;> simp [same]
  | cons head tail ih =>
      simp only [lookup] at ih ⊢
      rw [put]
      by_cases replaced : key head = key row
      · rw [if_pos replaced, List.find?_cons, List.find?_cons, replaced]
        by_cases same : key row = k <;> simp [same]
      · rw [if_neg replaced, List.find?_cons, List.find?_cons, ih]
        by_cases found : key head = k
        · have other : ¬ key row = k := fun same => replaced (found.trans same.symm)
          simp [found, other]
        · simp [found]

/-- A row under a new key goes to the end. -/
theorem put_of_absent (absent : lookup key (key row) rows = none) :
    put key row rows = rows ++ [row] := by
  rw [lookup_eq_none] at absent
  induction rows with
  | nil => rfl
  | cons head tail ih =>
      rw [put, if_neg (absent head List.mem_cons_self), List.cons_append,
        ih fun other member => absent other (List.mem_cons_of_mem _ member)]

theorem mem_put {other : α} (member : other ∈ put key row rows) : other = row ∨ other ∈ rows := by
  induction rows with
  | nil => exact .inl (List.mem_singleton.mp member)
  | cons head tail ih =>
      rw [put] at member
      split at member
      · exact (List.mem_cons.mp member).imp_right (List.mem_cons_of_mem _)
      · rcases List.mem_cons.mp member with isHead | inTail
        · exact .inr (isHead ▸ List.mem_cons_self)
        · exact (ih inTail).imp_right (List.mem_cons_of_mem _)

/-- A row that is there is replaced in its place. -/
theorem keys_put_of_present (present : lookup key (key row) rows ≠ none) :
    (put key row rows).map key = rows.map key := by
  induction rows with
  | nil => exact absurd rfl present
  | cons head tail ih =>
      rw [put]
      by_cases replaced : key head = key row
      · simp [replaced]
      · rw [if_neg replaced, List.map_cons, List.map_cons, ih]
        simpa [lookup, List.find?_cons, replaced] using present

/-- The rows under one key, once a row is set. -/
theorem filter_put (key : α → κ) (k : κ) (row : α) (rows : List α) :
    (put key row rows).filter (fun other => key other = k) =
      if key row = k then row :: (rows.filter fun other => key other = k).tail
      else rows.filter fun other => key other = k := by
  induction rows with
  | nil =>
      by_cases same : key row = k <;> simp [put, same]
  | cons head tail ih =>
      rw [put]
      by_cases replaced : key head = key row
      · rw [if_pos replaced]
        by_cases same : key row = k <;> simp [replaced, same]
      · rw [if_neg replaced]
        by_cases found : key head = k
        · have other : ¬ key row = k := fun same => replaced (found.trans same.symm)
          rw [if_neg other] at ih ⊢
          simp [found, ih]
        · simp [found, ih]

theorem mem_keys_put (k : κ) (row : α) (rows : List α)
    (member : k ∈ (put key row rows).map key) : k = key row ∨ k ∈ rows.map key := by
  obtain ⟨other, inPut, rfl⟩ := List.mem_map.mp member
  rcases mem_put inPut with rfl | inRows
  · exact .inl rfl
  · exact .inr (List.mem_map_of_mem inRows)

theorem Distinct.put (distinct : Distinct key rows) : Distinct key (put key row rows) := by
  induction rows with
  | nil => exact List.nodup_singleton _
  | cons head tail ih =>
      rw [Distinct, List.map_cons, List.nodup_cons] at distinct
      rw [Keyed.put, Distinct]
      split
      · rename_i replaced
        rw [List.map_cons, List.nodup_cons, ← replaced]
        exact distinct
      · rename_i other
        rw [List.map_cons, List.nodup_cons]
        refine ⟨?_, ih distinct.2⟩
        intro member
        rcases mem_keys_put _ _ _ member with same | inTail
        · exact other same
        · exact distinct.1 inTail

omit [DecidableEq κ] in
theorem Distinct.nil : Distinct key [] := List.nodup_nil

omit [DecidableEq κ] in
theorem Distinct.filter (distinct : Distinct key rows) (keeps : α → Bool) : Distinct key (rows.filter keeps) :=
  distinct.sublist (List.filter_sublist.map key)

/-- With distinct keys, dropping rows drops the row under a key or leaves it. -/
theorem lookup_filter (distinct : Distinct key rows) (keeps : α → Bool) (k : κ) :
    lookup key k (rows.filter keeps) = (lookup key k rows).filter keeps := by
  cases found : lookup key k rows with
  | none =>
      rw [Option.filter_none, lookup_eq_none]
      intro row member
      exact lookup_eq_none.mp found row (List.mem_filter.mp member).1
  | some row =>
      by_cases kept : keeps row = true
      · have member : row ∈ rows.filter keeps := List.mem_filter.mpr ⟨mem_of_lookup found, kept⟩
        rw [Option.filter_some, if_pos kept, ← key_of_lookup found]
        exact lookup_of_mem (distinct.filter keeps) member
      · rw [Option.filter_some, if_neg kept, lookup_eq_none]
        intro other member same
        obtain ⟨inside, kept'⟩ := List.mem_filter.mp member
        have isRow : other = row :=
          List.inj_on_of_nodup_map distinct inside (mem_of_lookup found) (same.trans (key_of_lookup found).symm)
        exact kept (isRow ▸ kept')

theorem Distinct.append (distinct : Distinct key rows)
    (isNew : lookup key (key row) rows = none) : Distinct key (rows ++ [row]) := by
  simp only [Distinct, List.map_append, List.map_cons, List.map_nil]
  refine List.nodup_append.mpr ⟨distinct, List.nodup_singleton _, ?_⟩
  rintro first inRows second inNew rfl
  obtain ⟨other, member, sameKey⟩ := List.mem_map.mp inRows
  exact lookup_eq_none.mp isNew other member (sameKey.trans (List.mem_singleton.mp inNew))

theorem Distinct.modify (distinct : Distinct key rows)
    (stable : ∀ row, key (change row) = key row) : Distinct key (modify key k change rows) := by
  have sameKeys : (Keyed.modify key k change rows).map key = rows.map key := by
    simp only [Keyed.modify, List.map_map]
    refine List.map_congr_left fun row _ => ?_
    simp only [Function.comp_apply]
    split
    · exact stable row
    · rfl
  rw [Distinct, sameKeys]
  exact distinct

/-- With distinct keys the row found under a key is every row that carries it. -/
theorem Distinct.eq_of_lookup (distinct : Distinct key rows) (found : lookup key k rows = some row)
    {other : α} (member : other ∈ rows) (isKey : key other = k) : other = row := by
  have isOther := lookup_of_mem distinct member
  rw [isKey, found] at isOther
  exact (Option.some.inj isOther).symm

/-- The rows once the one under a key is changed. -/
theorem mem_modify (distinct : Distinct key rows) (found : lookup key k rows = some row) {other : α} :
    other ∈ modify key k change rows ↔ other = change row ∨ other ∈ rows ∧ key other ≠ k := by
  constructor
  · intro member
    obtain ⟨before, inRows, rfl⟩ := List.mem_map.mp member
    by_cases isKey : key before = k
    · rw [if_pos isKey, distinct.eq_of_lookup found inRows isKey]
      exact .inl rfl
    · rw [if_neg isKey]
      exact .inr ⟨inRows, isKey⟩
  · intro member
    rcases member with rfl | ⟨inRows, isOther⟩
    · apply List.mem_map.mpr
      exact ⟨row, mem_of_lookup found, if_pos (key_of_lookup found)⟩
    · apply List.mem_map.mpr
      exact ⟨other, inRows, if_neg isOther⟩

theorem mem_remove {other : α} : other ∈ remove key k rows ↔ other ∈ rows ∧ key other ≠ k := by
  rw [Keyed.remove, List.mem_filter, decide_eq_true_eq]

theorem remove_of_absent (absent : lookup key k rows = none) : remove key k rows = rows := by
  apply List.filter_eq_self.mpr
  intro row member
  rw [decide_eq_true_eq]
  exact lookup_eq_none.mp absent row member

theorem modify_of_absent (absent : lookup key k rows = none) : modify key k change rows = rows := by
  rw [Keyed.modify]
  conv_rhs => rw [← List.map_id rows]
  apply List.map_congr_left
  intro row member
  rw [if_neg (lookup_eq_none.mp absent row member)]
  rfl

/-- The first of distinct keys is on none of the other rows. -/
theorem Distinct.tail_absent {head : α} (distinct : Distinct key (head :: rows)) :
    lookup key (key head) rows = none := by
  rw [Distinct, List.map_cons, List.nodup_cons] at distinct
  apply lookup_eq_none.mpr
  intro row member same
  apply distinct.1
  rw [← same]
  exact List.mem_map_of_mem member

omit [DecidableEq κ] in
theorem Distinct.tail {head : α} (distinct : Distinct key (head :: rows)) : Distinct key rows := by
  rw [Distinct, List.map_cons, List.nodup_cons] at distinct
  exact distinct.2

/-- Rows with the same keys in the same order, and the same row under each, are the same. -/
theorem ext_of_keys {rows' : List α} (distinct : Distinct key rows)
    (sameKeys : rows.map key = rows'.map key)
    (sameRows : ∀ k, lookup key k rows = lookup key k rows') : rows = rows' := by
  induction rows generalizing rows' with
  | nil => exact (List.map_eq_nil_iff.mp sameKeys.symm).symm
  | cons head tail ih =>
      cases rows' with
      | nil => cases sameKeys
      | cons head' tail' =>
          rw [List.map_cons, List.map_cons] at sameKeys
          injection sameKeys with sameKey restKeys
          have sameHead := sameRows (key head)
          simp only [lookup, List.find?_cons, sameKey, decide_true, Option.some.injEq] at sameHead
          subst sameHead
          rw [ih distinct.tail restKeys]
          intro k
          by_cases isHead : key head = k
          · subst isHead
            have absent' : lookup key (key head) tail' = none := by
              apply lookup_eq_none.mpr
              intro row member same
              have listed : key head ∈ tail'.map key := same ▸ List.mem_map_of_mem member
              rw [← restKeys] at listed
              rw [Distinct, List.map_cons, List.nodup_cons] at distinct
              exact distinct.1 listed
            rw [distinct.tail_absent, absent']
          · have rest := sameRows k
            simpa [lookup, List.find?_cons, isHead] using rest

/-- Removing the one row under a key takes it out of every count. -/
theorem countP_remove (counts : α → Bool) (distinct : Distinct key rows)
    (found : lookup key k rows = some row) :
    (remove key k rows).countP counts + (if counts row = true then 1 else 0) =
      rows.countP counts := by
  induction rows with
  | nil => cases found
  | cons head tail ih =>
      by_cases isHead : key head = k
      · rw [lookup, List.find?_cons_of_pos (by simpa using isHead)] at found
        cases found
        have untouched := remove_of_absent distinct.tail_absent
        rw [isHead, Keyed.remove] at untouched
        rw [Keyed.remove, List.filter_cons_of_neg (by simpa using isHead), untouched, List.countP_cons]
      · rw [lookup, List.find?_cons_of_neg (by simpa using isHead)] at found
        have rest := ih distinct.tail found
        rw [Keyed.remove] at rest ⊢
        rw [List.filter_cons_of_pos (by simpa using isHead), List.countP_cons, List.countP_cons]
        omega

theorem length_remove (distinct : Distinct key rows) (found : lookup key k rows = some row) :
    (remove key k rows).length + 1 = rows.length := by
  have counted := countP_remove (fun _ => true) distinct found
  rw [List.countP_true] at counted
  exact counted

/-- Changing the one row under a key changes a count by that row alone. -/
theorem countP_modify (counts : α → Bool) (distinct : Distinct key rows)
    (found : lookup key k rows = some row) :
    (modify key k change rows).countP counts + (if counts row = true then 1 else 0) =
      rows.countP counts + (if counts (change row) = true then 1 else 0) := by
  induction rows with
  | nil => cases found
  | cons head tail ih =>
      by_cases isHead : key head = k
      · rw [lookup, List.find?_cons_of_pos (by simpa using isHead)] at found
        cases found
        have untouched : modify key (key row) change tail = tail :=
          modify_of_absent distinct.tail_absent
        rw [isHead, Keyed.modify] at untouched
        rw [Keyed.modify, List.map_cons, untouched, if_pos isHead, List.countP_cons, List.countP_cons]
        omega
      · rw [lookup, List.find?_cons_of_neg (by simpa using isHead)] at found
        have rest := ih distinct.tail found
        rw [Keyed.modify] at rest ⊢
        rw [List.map_cons, if_neg isHead, List.countP_cons, List.countP_cons]
        omega

theorem Distinct.remove (distinct : Distinct key rows) : Distinct key (remove key k rows) :=
  List.Nodup.sublist (List.filter_sublist.map _) distinct

/-- A change that changes nothing. -/
theorem modify_of_fixed (fixed : ∀ row, change row = row) : modify key k change rows = rows := by
  apply List.map_id''
  intro row
  split
  · exact fixed row
  · rfl

/-- A change that never makes a row count does not raise the count. -/
theorem countP_modify_le (counts : α → Bool)
    (keeps : ∀ row ∈ rows, key row = k → counts (change row) = true → counts row = true) :
    (modify key k change rows).countP counts ≤ rows.countP counts := by
  rw [Keyed.modify, List.countP_map]
  refine List.countP_mono_left fun row member counted => ?_
  simp only [Function.comp_apply] at counted
  split at counted
  · rename_i same
    exact keeps row member same counted
  · exact counted

/-! ### Rows read as other rows -/

section Read

variable {β : Type} {key' : β → κ} {read : α → β}

theorem lookup_map (keyed : ∀ row, key' (read row) = key row) (k : κ) (rows : List α) :
    lookup key' k (rows.map read) = (lookup key k rows).map read := by
  rw [lookup, lookup, List.find?_map]
  congr 2
  funext row
  simp only [Function.comp_apply, keyed]

/-- A change under a key reads as the change of what is read. -/
theorem modify_map {change' : β → β} (keyed : ∀ row, key' (read row) = key row)
    (changes : ∀ row ∈ rows, key row = k → read (change row) = change' (read row)) :
    (modify key k change rows).map read = modify key' k change' (rows.map read) := by
  rw [modify, modify, List.map_map, List.map_map]
  apply List.map_congr_left
  intro row member
  simp only [Function.comp_apply, keyed]
  split
  · rename_i same
    exact changes row member same
  · rfl

theorem remove_map (keyed : ∀ row, key' (read row) = key row) (k : κ) (rows : List α) :
    (remove key k rows).map read = remove key' k (rows.map read) := by
  rw [remove, remove, List.filter_map]
  congr 2
  funext row
  simp only [Function.comp_apply, keyed]

end Read

/-! ### Setting row after row -/

/-- The rows after setting one after the other. -/
def putAll (key : α → κ) (rows : List α) : List α := rows.foldl (fun set row => put key row set) []

/-- The rows that no later row replaces. -/
def lasting (key : α → κ) : List α → List α
  | [] => []
  | row :: rest =>
      if rest.any (fun later => key later = key row) then lasting key rest
      else row :: lasting key rest

theorem mem_put_iff (distinct : Distinct key rows) (other : α) :
    other ∈ put key row rows ↔ other = row ∨ (other ∈ rows ∧ key other ≠ key row) := by
  induction rows with
  | nil => simp [put]
  | cons head tail ih =>
      rw [Distinct, List.map_cons, List.nodup_cons] at distinct
      rw [put]
      by_cases replaced : key head = key row
      · -- The head's key is the new row's, so no row of the tail has it.
        have apart : other ∈ tail → key other ≠ key row := by
          intro inTail same
          exact distinct.1 (replaced ▸ same ▸ List.mem_map_of_mem inTail)
        rw [if_pos replaced, List.mem_cons, List.mem_cons]
        constructor
        · exact Or.imp_right fun inTail => ⟨.inr inTail, apart inTail⟩
        · rintro (same | ⟨rfl | inTail, differs⟩)
          · exact .inl same
          · exact absurd replaced differs
          · exact .inr inTail
      · rw [if_neg replaced, List.mem_cons, List.mem_cons, ih distinct.2]
        constructor
        · rintro (rfl | same | ⟨inTail, differs⟩)
          · exact .inr ⟨.inl rfl, replaced⟩
          · exact .inl same
          · exact .inr ⟨.inr inTail, differs⟩
        · rintro (same | ⟨rfl | inTail, differs⟩)
          · exact .inr (.inl same)
          · exact .inl rfl
          · exact .inr (.inr ⟨inTail, differs⟩)

theorem mem_foldl_put (set : List α) (distinct : Distinct key set) (rows : List α) (other : α) :
    other ∈ rows.foldl (fun set row => put key row set) set ↔
      other ∈ lasting key rows ∨ (other ∈ set ∧ ∀ row ∈ rows, key row ≠ key other) := by
  induction rows generalizing set with
  | nil => simp [lasting]
  | cons row rest ih =>
      rw [List.foldl_cons, ih _ distinct.put, mem_put_iff distinct, lasting]
      by_cases replaced : ∃ later ∈ rest, key later = key row
      · obtain ⟨later, inRest, same⟩ := replaced
        rw [if_pos (by simpa using ⟨later, inRest, same⟩)]
        constructor
        · rintro (lasts | ⟨rfl | ⟨inSet, differs⟩, never⟩)
          · exact .inl lasts
          · exact absurd same (never later inRest)
          · refine .inr ⟨inSet, ?_⟩
            rintro row (_ | inRest)
            · exact differs.symm
            · exact never row ‹_›
        · rintro (lasts | ⟨inSet, never⟩)
          · exact .inl lasts
          · exact .inr ⟨.inr ⟨inSet, (never row List.mem_cons_self).symm⟩,
              fun row inRest => never row (List.mem_cons_of_mem _ inRest)⟩
      · rw [if_neg (by simpa using replaced), List.mem_cons]
        constructor
        · rintro (lasts | ⟨rfl | ⟨inSet, differs⟩, never⟩)
          · exact .inl (.inr lasts)
          · exact .inl (.inl rfl)
          · refine .inr ⟨inSet, ?_⟩
            rintro row (_ | inRest)
            · exact differs.symm
            · exact never row ‹_›
        · rintro ((rfl | lasts) | ⟨inSet, never⟩)
          · exact .inr ⟨.inl rfl, fun later inRest same => replaced ⟨later, inRest, same⟩⟩
          · exact .inl lasts
          · exact .inr ⟨.inr ⟨inSet, (never row List.mem_cons_self).symm⟩,
              fun row inRest => never row (List.mem_cons_of_mem _ inRest)⟩

/-- What is there after setting row after row is what no later row replaced. -/
theorem mem_putAll_iff (rows : List α) (other : α) :
    other ∈ putAll key rows ↔ other ∈ lasting key rows := by
  rw [putAll, mem_foldl_put [] Distinct.nil]
  simp

/-- What lasts is the last of its key. -/
theorem mem_lasting_iff {rows : List α} {other : α} :
    other ∈ lasting key rows ↔
      ∃ before after, rows = before ++ other :: after ∧ ∀ later ∈ after, key later ≠ key other := by
  induction rows with
  | nil => simp [lasting]
  | cons row rest ih =>
      have later_iff : (∃ before after, row :: rest = before ++ other :: after ∧ ∀ later ∈ after, key later ≠ key other) ↔
          (row = other ∧ ∀ later ∈ rest, key later ≠ key other) ∨ other ∈ lasting key rest := by
        rw [ih]
        constructor
        · rintro ⟨_ | ⟨first, before⟩, after, whole, last⟩
          · cases whole
            exact .inl ⟨rfl, last⟩
          · cases whole
            exact .inr ⟨before, after, rfl, last⟩
        · rintro (⟨rfl, last⟩ | ⟨before, after, rfl, last⟩)
          · exact ⟨[], rest, rfl, last⟩
          · exact ⟨row :: before, after, rfl, last⟩
      rw [later_iff, lasting]
      split
      case isTrue replaced =>
        obtain ⟨later, inRest, same⟩ := List.any_eq_true.mp replaced
        refine ⟨.inr, Or.rec (fun both => ?_) id⟩
        exact absurd (of_decide_eq_true same) (both.1 ▸ both.2 later inRest)
      case isFalse kept =>
        rw [List.mem_cons]
        refine or_congr_left ⟨fun same => ⟨same.symm, fun later inRest equal => ?_⟩, fun both => both.1.symm⟩
        exact kept (List.any_eq_true.mpr ⟨later, inRest, decide_eq_true (same ▸ equal)⟩)

theorem mem_of_mem_lasting {other : α} (rows : List α) (lasts : other ∈ lasting key rows) :
    other ∈ rows := by
  induction rows with
  | nil => exact lasts
  | cons row rest ih =>
      rw [lasting] at lasts
      split at lasts
      · exact List.mem_cons_of_mem _ (ih lasts)
      · rcases List.mem_cons.mp lasts with rfl | later
        · exact List.mem_cons_self
        · exact List.mem_cons_of_mem _ (ih later)

theorem mem_of_mem_putAll {other : α} {rows : List α} (isSet : other ∈ putAll key rows) :
    other ∈ rows :=
  mem_of_mem_lasting rows ((mem_putAll_iff rows other).mp isSet)

theorem distinct_putAll (rows : List α) : Distinct key (putAll key rows) := by
  have run : ∀ set, Distinct key set →
      Distinct key (rows.foldl (fun set row => put key row set) set) := by
    induction rows with
    | nil => exact fun _ distinct => distinct
    | cons row rest ih => exact fun set distinct => ih _ distinct.put
  exact run [] Distinct.nil

/-- Rows under distinct keys stay as they are. -/
theorem putAll_of_distinct {rows : List α} (distinct : Distinct key rows) : putAll key rows = rows := by
  have run : ∀ set, Distinct key (set ++ rows) →
      rows.foldl (fun set row => put key row set) set = set ++ rows := by
    clear distinct
    induction rows with
    | nil => exact fun set _ => (List.append_nil set).symm
    | cons row rows ih =>
        intro set distinct
        have isNew : lookup key (key row) set = none := by
          apply lookup_eq_none.mpr
          intro other isOther same
          rw [Distinct, List.map_append, List.map_cons] at distinct
          exact (List.nodup_append.mp distinct).2.2 _ (List.mem_map_of_mem isOther) _ List.mem_cons_self same
        rw [List.foldl_cons, put_of_absent isNew]
        have whole : set ++ row :: rows = set ++ [row] ++ rows := List.append_cons set row rows
        rw [whole] at distinct ⊢
        exact ih _ distinct
  exact run [] distinct

/-- After setting row after row, the row under a key is the last one that carries it. -/
theorem lookup_putAll_iff {rows : List α} {k : κ} {row : α} :
    lookup key k (putAll key rows) = some row ↔
      key row = k ∧ ∃ before after, rows = before ++ row :: after ∧ ∀ later ∈ after, key later ≠ key row := by
  rw [← mem_lasting_iff, ← mem_putAll_iff]
  constructor
  · exact fun found => ⟨key_of_lookup found, mem_of_lookup found⟩
  · rintro ⟨rfl, isSet⟩
    exact lookup_of_mem (distinct_putAll rows) isSet

/-- Rows that match one by one, key for key, still match after the replaced ones are dropped. -/
theorem lasting_forall₂ {β : Type} {key' : β → κ} {related : α → β → Prop} {rows : List α}
    {others : List β} (sameKey : ∀ row other, related row other → key row = key' other)
    (matching : List.Forall₂ related rows others) :
    List.Forall₂ related (lasting key rows) (lasting key' others) := by
  induction matching with
  | nil => exact .nil
  | @cons row other rest others first tails ih =>
      have keys : rest.map key = others.map key' := by
        clear ih
        induction tails with
        | nil => rfl
        | cons first _ ih => rw [List.map_cons, List.map_cons, sameKey _ _ first, ih]
      have replaced : rest.any (fun later => key later = key row) =
          others.any (fun later => key' later = key' other) := by
        have overKeys := congrArg (fun keys => keys.any fun k => k = key row) keys
        simpa [List.any_map, Function.comp_def, sameKey _ _ first] using overKeys
      rw [lasting, lasting, replaced]
      split
      · exact ih
      · exact .cons first ih

omit [DecidableEq κ] in
/-- Rows that match one by one have a row with a property exactly when the others have one with the
    matching property. -/
theorem exists_mem_iff_of_forall₂ {β : Type} {related : α → β → Prop} {holds : α → Prop}
    {holds' : β → Prop} {rows : List α} {others : List β}
    (same : ∀ row other, related row other → (holds row ↔ holds' other))
    (matching : List.Forall₂ related rows others) :
    (∃ row ∈ rows, holds row) ↔ ∃ other ∈ others, holds' other := by
  induction matching with
  | nil => simp
  | cons first _ ih => rw [List.exists_mem_cons_iff, List.exists_mem_cons_iff, same _ _ first, ih]

/-! ### Which rows last, by their order -/

/-- Setting a row of those that are kept by their keys, or of the others. -/
theorem filter_put_of_key (keeps : κ → Bool) (row : α) (set : List α) :
    (put key row set).filter (fun other => keeps (key other)) =
      if keeps (key row) = true then put key row (set.filter fun other => keeps (key other))
      else set.filter fun other => keeps (key other) := by
  induction set with
  | nil => by_cases kept : keeps (key row) = true <;> simp [put, kept]
  | cons head tail ih =>
      rw [put]
      by_cases replaced : key head = key row
      · by_cases kept : keeps (key row) = true <;> simp [replaced, kept, put]
      · rw [if_neg replaced]
        rw [List.filter_cons, List.filter_cons, ih]
        by_cases headKept : keeps (key head) = true
        · rw [if_pos headKept, if_pos headKept, put, if_neg replaced]
          split
          · rfl
          · rfl
        · rw [if_neg headKept, if_neg headKept]

/-- Rows that are kept by their keys are set as if there were no others. -/
theorem filter_putAll (keeps : κ → Bool) (rows : List α) :
    (putAll key rows).filter (fun row => keeps (key row)) = putAll key (rows.filter fun row => keeps (key row)) := by
  have run : ∀ set : List α,
      (rows.foldl (fun set row => put key row set) set).filter (fun row => keeps (key row)) =
        (rows.filter fun row => keeps (key row)).foldl (fun set row => put key row set)
          (set.filter fun row => keeps (key row)) := by
    induction rows with
    | nil => exact fun _ => rfl
    | cons row rest ih =>
        intro set
        rw [List.foldl_cons, ih, filter_put_of_key, List.filter_cons]
        by_cases kept : keeps (key row) = true
        · rw [if_pos kept, if_pos kept, List.foldl_cons]
        · rw [if_neg kept, if_neg kept]
  exact run []

/-- A row stays in front of rows with other keys. -/
theorem foldl_put_cons {rows : List α} (apart : ∀ other ∈ rows, key row ≠ key other) (set : List α) :
    rows.foldl (fun set row => put key row set) (row :: set) =
      row :: rows.foldl (fun set row => put key row set) set := by
  induction rows generalizing set with
  | nil => rfl
  | cons other rest ih =>
      obtain ⟨differs, others⟩ := List.forall_mem_cons.mp apart
      rw [List.foldl_cons, List.foldl_cons, put, if_neg differs, ih others]

/-- Rows of one key, set over one of them, leave the last. -/
theorem foldl_put_same {same : List α} (isKey : ∀ other ∈ same, key other = key row) {first : α}
    (isFirst : key first = key row) :
    (same ++ [row]).foldl (fun set row => put key row set) [first] = [row] := by
  induction same generalizing first with
  | nil => simp [put, isFirst]
  | cons head same ih =>
      obtain ⟨isHead, rest⟩ := List.forall_mem_cons.mp isKey
      rw [List.cons_append, List.foldl_cons, put, if_pos (isFirst.trans isHead.symm)]
      exact ih rest isHead

/-- A row behind those of its key, and in front of the others, comes first. -/
theorem putAll_front {same others : List α} (isKey : ∀ other ∈ same, key other = key row)
    (apart : ∀ other ∈ others, key row ≠ key other) :
    putAll key (same ++ row :: others) = row :: putAll key others := by
  have start : (same ++ [row]).foldl (fun set row => put key row set) [] = [row] := by
    cases same with
    | nil => rfl
    | cons head same =>
        obtain ⟨isHead, rest⟩ := List.forall_mem_cons.mp isKey
        exact foldl_put_same rest isHead
  rw [putAll, List.append_cons, List.foldl_append, start, foldl_put_cons apart]
  rfl

theorem mem_lasting_append {rows more : List α} {other : α} :
    other ∈ lasting key (rows ++ more) ↔
      (other ∈ lasting key rows ∧ ∀ later ∈ more, key later ≠ key other) ∨ other ∈ lasting key more := by
  induction rows with
  | nil => simp [lasting]
  | cons row rows ih =>
      rw [List.cons_append, lasting, lasting, List.any_append]
      cases inRows : rows.any (fun later => key later = key row) with
      | true =>
          rw [Bool.true_or, if_pos rfl, if_pos rfl]
          exact ih
      | false =>
          rw [Bool.false_or, if_neg Bool.false_ne_true]
          by_cases inMore : more.any (fun later => key later = key row) = true
          · rw [if_pos inMore, ih, List.mem_cons]
            refine or_congr_left (and_congr_left fun apart => (or_iff_right ?_).symm)
            rintro rfl
            obtain ⟨later, isLater, same⟩ := List.any_eq_true.mp inMore
            exact apart later isLater (of_decide_eq_true same)
          · rw [if_neg inMore, List.mem_cons, List.mem_cons, ih]
            constructor
            · rintro (rfl | ⟨lasts, apart⟩ | lasts)
              · refine .inl ⟨.inl rfl, fun later isLater same => inMore ?_⟩
                exact List.any_eq_true.mpr ⟨later, isLater, decide_eq_true same⟩
              · exact .inl ⟨.inr lasts, apart⟩
              · exact .inr lasts
            · rintro (⟨rfl | lasts, apart⟩ | lasts)
              · exact .inl rfl
              · exact .inr (.inl ⟨lasts, apart⟩)
              · exact .inr (.inr lasts)

/-- Of the rows of one key, one lasts. -/
theorem exists_mem_lasting {rows : List α} (member : row ∈ rows) : ∃ last ∈ lasting key rows, key last = key row := by
  induction rows generalizing row with
  | nil => cases member
  | cons first rest ih =>
      rw [lasting]
      rcases List.mem_cons.mp member with rfl | inRest
      · split
        · rename_i replaced
          obtain ⟨later, isLater, same⟩ := List.any_eq_true.mp replaced
          obtain ⟨last, lasts, isKey⟩ := ih isLater
          exact ⟨last, lasts, isKey.trans (of_decide_eq_true same)⟩
        · exact ⟨row, List.mem_cons_self, rfl⟩
      · obtain ⟨last, lasts, isKey⟩ := ih inRest
        split
        · exact ⟨last, lasts, isKey⟩
        · exact ⟨last, List.mem_cons_of_mem _ lasts, isKey⟩

/-- A row can be written behind those of its key and in front of the others. -/
theorem exists_perm_front (key : α → κ) {rows : List α} (member : row ∈ rows) :
    ∃ same others, rows.Perm (same ++ row :: others) ∧ (∀ other ∈ same, key other = key row) ∧
      ∀ other ∈ others, key row ≠ key other := by
  obtain ⟨before, after, rfl⟩ := List.append_of_mem member
  refine ⟨(before ++ after).filter fun other => key other = key row,
    (before ++ after).filter fun other => !decide (key other = key row), ?_, ?_, ?_⟩
  · exact (List.perm_middle.trans ((List.filter_append_perm _ _).symm.cons row)).trans List.perm_middle.symm
  · intro other isOther
    exact of_decide_eq_true (List.mem_filter.mp isOther).2
  · intro other isOther same
    have differs := (List.mem_filter.mp isOther).2
    rw [← same, decide_eq_true rfl] at differs
    cases differs

/-- Rows can be written so that a good one of each key lasts, where there is one. -/
theorem exists_perm_lasting (key : α → κ) (good : α → Prop) [DecidablePred good] (rows : List α) :
    ∃ others, rows.Perm others ∧
      ∀ last ∈ lasting key others, (∃ row ∈ rows, key row = key last ∧ good row) → good last := by
  refine ⟨(rows.filter fun row => !decide (good row)) ++ rows.filter fun row => good row, ?_, ?_⟩
  · exact ((List.filter_append_perm _ _).symm.trans List.perm_append_comm)
  · rintro last lasts ⟨row, isRow, sameKey, isGood⟩
    rcases mem_lasting_append.mp lasts with ⟨-, apart⟩ | isLast
    · exact absurd sameKey (apart row (List.mem_filter.mpr ⟨isRow, decide_eq_true isGood⟩))
    · exact of_decide_eq_true (List.mem_filter.mp (mem_of_mem_lasting _ isLast)).2

end JumptotechLabs.Core.Keyed
