/-
Module: JumptotechLabs.Core.Properties
Layer: Core (library)
Purpose: The members of an object as a text writes them, and the entries that are listed of the object. Of members
  of one name the last counts, in the place of the first; names that are indices come before all others.
Main exports: isIndexKey, inKeyOrder, entriesOf, mem_entriesOf, entriesOf_eq_append, exists_perm_first,
  isDigit_of_isIndexKey
-/
import JumptotechLabs.Core.Keyed
import JumptotechLabs.Core.Utf16
import Mathlib.Data.List.Sort

namespace JumptotechLabs.Core

/-- Is the key an index, below `2 ^ 32 - 1`? An object lists these before its other keys. -/
def isIndexKey (key : Utf16) : Bool := Utf16.decimal key.digitsValue = key ∧ key.digitsValue < 4294967295

variable {α : Type}

/-- Entries of distinct names, in the order in which an object lists them. -/
def inKeyOrder (entries : List (Utf16 × α)) : List (Utf16 × α) :=
  (entries.filter fun entry => isIndexKey entry.1).insertionSort (fun a b => a.1.digitsValue ≤ b.1.digitsValue) ++
    entries.filter fun entry => !isIndexKey entry.1

/-- `Object.entries(JSON.parse(text))`, for the members of an object as the text writes them. -/
def entriesOf (members : List (Utf16 × α)) : List (Utf16 × α) := inKeyOrder (Keyed.putAll Prod.fst members)

theorem inKeyOrder_perm (entries : List (Utf16 × α)) : (inKeyOrder entries).Perm entries := by
  have indexed := List.perm_insertionSort (fun a b => a.1.digitsValue ≤ b.1.digitsValue)
    (entries.filter fun entry => isIndexKey entry.1)
  have parted := List.filter_append_perm (fun entry => isIndexKey entry.1) entries
  exact (indexed.append_right _).trans parted

/-- What is listed is what no later member replaces. -/
theorem mem_entriesOf {members : List (Utf16 × α)} {entry : Utf16 × α} :
    entry ∈ entriesOf members ↔ entry ∈ Keyed.lasting Prod.fst members :=
  (inKeyOrder_perm _).mem_iff.trans (Keyed.mem_putAll_iff members entry)

theorem mem_of_mem_entriesOf {members : List (Utf16 × α)} {entry : Utf16 × α}
    (listed : entry ∈ entriesOf members) : entry ∈ members :=
  Keyed.mem_of_mem_lasting _ (mem_entriesOf.mp listed)

/-- Something is listed under every name that is written. -/
theorem exists_mem_entriesOf {members : List (Utf16 × α)} {entry : Utf16 × α} (member : entry ∈ members) :
    ∃ listed ∈ entriesOf members, listed.1 = entry.1 := by
  have found : ∃ last ∈ Keyed.lasting Prod.fst members, last.1 = entry.1 := Keyed.exists_mem_lasting member
  obtain ⟨last, lasts, isName⟩ := found
  exact ⟨last, mem_entriesOf.mpr lasts, isName⟩

theorem entriesOf_eq_nil {members : List (Utf16 × α)} : entriesOf members = [] ↔ members = [] := by
  constructor
  · intro none
    cases members with
    | nil => rfl
    | cons member members =>
        obtain ⟨listed, isListed, -⟩ := exists_mem_entriesOf (List.mem_cons_self (a := member) (l := members))
        rw [none] at isListed
        cases isListed
  · rintro rfl
    rfl

/-- The entries are those of the members whose names are indices, and behind them the others as they are set. -/
theorem entriesOf_eq_append (members : List (Utf16 × α)) :
    entriesOf members = entriesOf (members.filter fun member => isIndexKey member.1) ++
      Keyed.putAll Prod.fst (members.filter fun member => !isIndexKey member.1) := by
  have indexed (rows : List (Utf16 × α)) := @Keyed.filter_putAll (Utf16 × α) Utf16 _ Prod.fst isIndexKey rows
  have others (rows : List (Utf16 × α)) :=
    @Keyed.filter_putAll (Utf16 × α) Utf16 _ Prod.fst (fun name => !isIndexKey name) rows
  have same : (members.filter fun member => isIndexKey member.1).filter (fun member => isIndexKey member.1) =
      members.filter fun member => isIndexKey member.1 :=
    List.filter_eq_self.mpr fun member inside => (List.mem_filter.mp inside).2
  have none : (members.filter fun member => isIndexKey member.1).filter (fun member => !isIndexKey member.1) = [] :=
    List.filter_eq_nil_iff.mpr fun member inside => by simp [(List.mem_filter.mp inside).2]
  unfold entriesOf inKeyOrder
  rw [indexed, indexed, others, others, same, none]
  exact congrArg (· ++ _) (List.append_nil _).symm

/-- Under a name that is no index, an entry can be written so that it is listed first behind the indices. -/
theorem exists_perm_first {members indexed : List (Utf16 × α)} {entry : Utf16 × α} (member : entry ∈ members)
    (plain : isIndexKey entry.1 = false)
    (perm : (members.filter fun member => isIndexKey member.1).Perm indexed) :
    ∃ same others, members.Perm (indexed ++ (same ++ entry :: others)) ∧
      ∀ other : Utf16 × α, other.1 = entry.1 →
        ∃ rest, entriesOf (indexed ++ (same ++ other :: others)) = entriesOf indexed ++ other :: rest := by
  have isPlain : entry ∈ members.filter fun member => !isIndexKey member.1 :=
    List.mem_filter.mpr ⟨member, by rw [plain]; rfl⟩
  obtain ⟨same, others, front, isName, apart⟩ := Keyed.exists_perm_front Prod.fst isPlain
  refine ⟨same, others, (List.filter_append_perm _ _).symm.trans (perm.append front), fun other sameName => ?_⟩
  have areIndices : ∀ row ∈ indexed, isIndexKey row.1 = true :=
    fun row inside => (List.mem_filter.mp (perm.mem_iff.mpr inside)).2
  have arePlain : ∀ row ∈ same ++ other :: others, isIndexKey row.1 = false := by
    intro row inside
    have ofPart : ∀ row ∈ same ++ entry :: others, isIndexKey row.1 = false := fun row inside =>
      (Bool.not_eq_true' _).mp (List.mem_filter.mp (front.mem_iff.mpr inside)).2
    rcases List.mem_append.mp inside with inSame | inOthers
    · exact ofPart row (List.mem_append_left _ inSame)
    · rcases List.mem_cons.mp inOthers with rfl | inOthers
      · rw [sameName]
        exact plain
      · exact ofPart row (List.mem_append_right _ (List.mem_cons_of_mem _ inOthers))
  have first : (indexed ++ (same ++ other :: others)).filter (fun row => isIndexKey row.1) = indexed := by
    rw [List.filter_append, List.filter_eq_self.mpr areIndices,
      List.filter_eq_nil_iff.mpr fun row inside => by simp [arePlain row inside], List.append_nil]
  have second : (indexed ++ (same ++ other :: others)).filter (fun row => !isIndexKey row.1) =
      same ++ other :: others := by
    rw [List.filter_append, List.filter_eq_nil_iff.mpr fun row inside => by simp [areIndices row inside],
      List.filter_eq_self.mpr fun row inside => by simp [arePlain row inside], List.nil_append]
  rw [entriesOf_eq_append, first, second, Keyed.putAll_front (fun row inside => (isName row inside).trans sameName.symm)
    fun row inside => sameName ▸ apart row inside]
  exact ⟨_, rfl⟩

/-- A number is written in digits. -/
theorem isDigit_of_mem_decimal {value : Nat} {unit : UInt16} (inside : unit ∈ Utf16.decimal value) :
    Utf16.isDigit unit = true := by
  rw [Utf16.decimal, units, List.mem_flatMap] at inside
  obtain ⟨digit, isDigit, isUnit⟩ := inside
  have digits := Nat.isDigit_of_mem_toDigits (by decide) (by decide) (Nat.toList_repr ▸ isDigit)
  have bounds : 48 ≤ digit.toNat ∧ digit.toNat ≤ 57 := by
    simpa [Char.isDigit, UInt32.le_iff_toNat_le] using digits
  rw [charUnits, if_pos (by omega), List.mem_singleton] at isUnit
  rw [isUnit, Utf16.isDigit, Bool.and_eq_true_iff, decide_eq_true_eq, decide_eq_true_eq, UInt16.le_iff_toNat_le,
    UInt16.le_iff_toNat_le]
  simp
  omega

theorem isDigit_of_isIndexKey {key : Utf16} (isIndex : isIndexKey key = true) :
    key.all Utf16.isDigit = true := by
  have written := (of_decide_eq_true isIndex).1
  rw [List.all_eq_true]
  intro unit inside
  rw [← written] at inside
  exact isDigit_of_mem_decimal inside

end JumptotechLabs.Core
