/-
Module: JumptotechLabs.Progress.MigrationOrder
Layer: Progress (services/progress/src/postgres/migrator.ts)
Purpose: The order in which migrations are loaded and applied. File names are sorted as texts; the order is the
  numeric one of their prefixes except where a longer prefix, cut to the length of a shorter one, is not the
  greater number while the whole of it is.
Main exports: prefixOf, numberOf, Outruns, unitsLe_digits, textLe_iff_of_number_lt, applyPending_of_empty,
  migrations_in_numeric_order_iff
-/
import JumptotechLabs.Progress.Migrations
import Mathlib.Data.Nat.Digits.Defs
import Mathlib.Data.List.TakeWhile

namespace JumptotechLabs.Progress

open JumptotechLabs.Core

/-! ### Digits -/

/-- The digits a file name starts with. -/
def prefixOf (filename : String) : List Nat := (filename.toList.takeWhile Char.isDigit).map Char.toNat

/-- The number that units of digits write. -/
def valueOf (digits : List Nat) : Nat := Nat.ofDigits 10 (digits.map fun unit => unit - 48).reverse

/-- The numeric value of the prefix of a file name. -/
def numberOf (filename : String) : Nat := valueOf (prefixOf filename)

/-- A longer prefix that is the greater number, and is not when it is cut to the length of the shorter. -/
def Outruns (longer shorter : List Nat) : Prop :=
  shorter.length < longer.length ∧ valueOf (longer.take shorter.length) ≤ valueOf shorter ∧
    valueOf shorter < valueOf longer

instance (longer shorter : List Nat) : Decidable (Outruns longer shorter) :=
  inferInstanceAs (Decidable (_ ∧ _))

def Digits (units : List Nat) : Prop := ∀ unit ∈ units, 48 ≤ unit ∧ unit ≤ 57

theorem valueOf_cons (unit : Nat) (units : List Nat) :
    valueOf (unit :: units) = valueOf units + 10 ^ units.length * (unit - 48) := by
  rw [valueOf, List.map_cons, Nat.ofDigits_reverse_cons, List.length_map]
  rfl

theorem valueOf_lt {units : List Nat} (digits : Digits units) : valueOf units < 10 ^ units.length := by
  induction units with
  | nil => decide
  | cons unit units ih =>
      obtain ⟨bounds, digits⟩ := List.forall_mem_cons.mp digits
      have small := ih digits
      have digit : 10 ^ units.length * (unit - 48) ≤ 10 ^ units.length * 9 := Nat.mul_le_mul_left _ (by omega)
      rw [valueOf_cons, List.length_cons, Nat.pow_succ]
      omega

theorem valueOf_append (front back : List Nat) :
    valueOf (front ++ back) = valueOf front * 10 ^ back.length + valueOf back := by
  rw [valueOf, List.map_append, List.reverse_append, Nat.ofDigits_append, List.length_reverse,
    List.length_map, Nat.mul_comm, Nat.add_comm]
  rfl

/-- Units of digits of one length stand in the order of their numbers, and behind them the rest decides. -/
theorem unitsLe_digits {first second : List Nat} (length : first.length = second.length)
    (digits : Digits first) (digits' : Digits second) (rest rest' : List Nat) :
    unitsLe (first ++ rest) (second ++ rest') =
      (decide (valueOf first < valueOf second) || (valueOf first == valueOf second && unitsLe rest rest')) := by
  induction first generalizing second with
  | nil =>
      cases List.eq_nil_of_length_eq_zero length.symm
      simp
  | cons unit first ih =>
      obtain ⟨unit', second, rfl⟩ := List.exists_cons_of_length_eq_add_one length.symm
      obtain ⟨bounds, digits⟩ := List.forall_mem_cons.mp digits
      obtain ⟨bounds', digits'⟩ := List.forall_mem_cons.mp digits'
      have same : first.length = second.length := Nat.succ.inj length
      have small := valueOf_lt digits
      have small' := valueOf_lt digits'
      rw [List.cons_append, List.cons_append, unitsLe, ih same digits digits', valueOf_cons, valueOf_cons,
        same]
      rw [same] at small
      generalize 10 ^ second.length = base at small small'
      rcases Nat.lt_trichotomy unit unit' with less | rfl | more
      · have apart : base * (unit - 48) + base ≤ base * (unit' - 48) := by
          rw [← Nat.mul_succ]
          exact Nat.mul_le_mul_left _ (by omega)
        simp only [less, decide_true, Bool.true_or]
        have order : valueOf first + base * (unit - 48) < valueOf second + base * (unit' - 48) := by omega
        simp [order]
      · have sum : (valueOf first + base * (unit - 48) == valueOf second + base * (unit - 48)) =
            (valueOf first == valueOf second) := by
          rw [Bool.eq_iff_iff, beq_iff_eq, beq_iff_eq, Nat.add_right_cancel_iff]
        simp [sum]
      · have apart : base * (unit' - 48) + base ≤ base * (unit - 48) := by
          rw [← Nat.mul_succ]
          exact Nat.mul_le_mul_left _ (by omega)
        have order : valueOf second + base * (unit' - 48) < valueOf first + base * (unit - 48) := by omega
        have apartUnits : (unit == unit') = false := beq_eq_false_iff_ne.mpr more.ne'
        have apartSums : (valueOf first + base * (unit - 48) == valueOf second + base * (unit' - 48)) = false :=
          beq_eq_false_iff_ne.mpr order.ne'
        simp [Nat.not_lt.mpr more.le, Nat.not_lt.mpr order.le, apartUnits, apartSums]

theorem Digits.take {units : List Nat} (digits : Digits units) (count : Nat) : Digits (units.take count) :=
  fun unit inside => digits unit (List.mem_of_mem_take inside)

theorem Digits.drop {units : List Nat} (digits : Digits units) (count : Nat) : Digits (units.drop count) :=
  fun unit inside => digits unit (List.mem_of_mem_drop inside)

/-- A shorter prefix, ended by its underscore, stands in front of a longer one where it is the less of the
    two when the longer is cut. -/
theorem unitsLe_shorter {shorter longer : List Nat} (less : shorter.length < longer.length)
    (digits : Digits shorter) (digits' : Digits longer) (rest rest' : List Nat) :
    (unitsLe (shorter ++ 95 :: rest) (longer ++ rest') = true ↔
        valueOf shorter < valueOf (longer.take shorter.length)) ∧
      (unitsLe (longer ++ rest') (shorter ++ 95 :: rest) = true ↔
        valueOf (longer.take shorter.length) ≤ valueOf shorter) := by
  have length : shorter.length = (longer.take shorter.length).length := by
    rw [List.length_take, Nat.min_eq_left less.le]
  obtain ⟨unit, more, isDrop⟩ : ∃ unit more, longer.drop shorter.length = unit :: more :=
    List.exists_cons_of_length_pos (by rw [List.length_drop]; omega)
  have bounds : unit ≤ 57 := by
    have digit := digits'.drop shorter.length unit (by rw [isDrop]; exact List.mem_cons_self)
    exact digit.2
  have whole : longer ++ rest' = longer.take shorter.length ++ (unit :: more ++ rest') := by
    rw [← isDrop, ← List.append_assoc, List.take_append_drop]
  have before : unitsLe (95 :: rest) (unit :: more ++ rest') = false := by
    rw [List.cons_append, unitsLe]
    simp only [Bool.or_eq_false_iff, decide_eq_false_iff_not, Bool.and_eq_false_iff, beq_eq_false_iff_ne]
    omega
  have behind : unitsLe (unit :: more ++ rest') (95 :: rest) = true := by
    rw [List.cons_append, unitsLe]
    simp only [Bool.or_eq_true, decide_eq_true_eq]
    omega
  rw [whole, unitsLe_digits length digits (digits'.take _), unitsLe_digits length.symm (digits'.take _) digits,
    before, behind]
  constructor
  · simp
  · simp only [Bool.or_eq_true, decide_eq_true_eq, Bool.and_true, beq_iff_eq]
    omega

/-- Of two prefixes, the greater stands in front exactly where it outruns the other. -/
theorem unitsLe_iff_outruns {front back : List Nat} (digits : Digits front) (digits' : Digits back)
    (less : valueOf back < valueOf front) (rest rest' : List Nat) :
    unitsLe (front ++ 95 :: rest) (back ++ 95 :: rest') = true ↔ Outruns front back := by
  rcases Nat.lt_trichotomy back.length front.length with shorter | same | longer
  · rw [(unitsLe_shorter shorter digits' digits rest' (95 :: rest)).2]
    exact ⟨fun cut => ⟨shorter, cut, less⟩, fun outruns => outruns.2.1⟩
  · rw [unitsLe_digits same.symm digits digits']
    constructor
    · intro ordered
      simp only [Bool.or_eq_true, decide_eq_true_eq, Bool.and_eq_true, beq_iff_eq] at ordered
      omega
    · intro outruns
      exact absurd outruns.1 (by omega)
  · have onward : valueOf (back.take front.length) ≤ valueOf back := by
      conv_rhs => rw [← List.take_append_drop front.length back, valueOf_append]
      exact Nat.le_add_right_of_le (Nat.le_mul_of_pos_right _ (Nat.pow_pos (by decide)))
    rw [(unitsLe_shorter longer digits digits' rest (95 :: rest')).1]
    constructor
    · intro cut
      omega
    · intro outruns
      exact absurd outruns.1 (by omega)

/-! ### File names -/

theorem prefixOf_digits (filename : String) : Digits (prefixOf filename) := by
  intro unit inside
  obtain ⟨c, isPrefix, rfl⟩ := List.mem_map.mp inside
  have digit := List.mem_takeWhile_imp isPrefix
  rw [Char.isDigit, Bool.and_eq_true, decide_eq_true_eq, decide_eq_true_eq] at digit
  exact digit

theorem exists_name {filename : String} (isMigration : isMigrationFile filename = true) :
    ∃ name, filename.toList = filename.toList.takeWhile Char.isDigit ++ '_' :: name ∧
      ".sql".toList <:+ name := by
  rw [isMigrationFile] at isMigration
  split at isMigration
  · rename_i name isRest
    refine ⟨name, ?_, ?_⟩
    · rw [← isRest, List.takeWhile_append_dropWhile]
    · have ends := eq_of_beq (Bool.and_eq_true_iff.mp isMigration).2
      rw [← ends]
      exact List.dropWhile_suffix _
  · cases isMigration

/-- The units of a migration's file name: its prefix, an underscore, and the rest. -/
theorem codeUnits_migration {filename : String} (isMigration : isMigrationFile filename = true) :
    ∃ rest, codeUnits filename = prefixOf filename ++ 95 :: rest := by
  obtain ⟨name, isName, -⟩ := exists_name isMigration
  have ascii : ∀ c ∈ filename.toList.takeWhile Char.isDigit, c.toNat < 0x10000 := by
    intro c inside
    have bounds := prefixOf_digits filename c.toNat (List.mem_map_of_mem inside)
    omega
  have plain : ∀ text : List Char, (∀ c ∈ text, c.toNat < 0x10000) →
      (text.flatMap fun c => if c.toNat < 0x10000 then [c.toNat]
        else [0xD800 + (c.toNat - 0x10000) / 0x400, 0xDC00 + (c.toNat - 0x10000) % 0x400]) =
        text.map Char.toNat := by
    intro text small
    induction text with
    | nil => rfl
    | cons c text ih =>
        obtain ⟨here, small⟩ := List.forall_mem_cons.mp small
        rw [List.flatMap_cons, if_pos here, ih small]
        rfl
  rw [codeUnits, isName, List.flatMap_append, plain _ ascii, List.flatMap_cons]
  exact ⟨_, rfl⟩

/-- Of two migrations, the one with the greater number is sorted in front exactly where it outruns the
    other. -/
theorem textLe_iff_outruns {first second : String} (isMigration : isMigrationFile first = true)
    (isMigration' : isMigrationFile second = true) (less : numberOf second < numberOf first) :
    textLe first second = true ↔ Outruns (prefixOf first) (prefixOf second) := by
  obtain ⟨rest, isFirst⟩ := codeUnits_migration isMigration
  obtain ⟨rest', isSecond⟩ := codeUnits_migration isMigration'
  rw [textLe, isFirst, isSecond]
  exact unitsLe_iff_outruns (prefixOf_digits first) (prefixOf_digits second) less rest rest'

theorem unitsLe_total (first second : List Nat) : (unitsLe first second || unitsLe second first) = true := by
  induction first generalizing second with
  | nil => rfl
  | cons a first ih =>
      cases second with
      | nil => rfl
      | cons b second =>
          have onward := ih second
          rw [Bool.or_eq_true] at onward
          simp only [unitsLe, Bool.or_eq_true, decide_eq_true_eq, Bool.and_eq_true, beq_iff_eq]
          rcases Nat.lt_trichotomy a b with less | rfl | more
          · exact .inl (.inl less)
          · exact onward.imp (fun le => .inr ⟨rfl, le⟩) fun le => .inr ⟨rfl, le⟩
          · exact .inr (.inl more)

theorem unitsLe_trans (first second third : List Nat) (one : unitsLe first second = true)
    (other : unitsLe second third = true) : unitsLe first third = true := by
  induction first generalizing second third with
  | nil => rfl
  | cons a first ih =>
      cases second with
      | nil => cases one
      | cons b second =>
          cases third with
          | nil => cases other
          | cons c third =>
              simp only [unitsLe, Bool.or_eq_true, decide_eq_true_eq, Bool.and_eq_true, beq_iff_eq] at one other ⊢
              rcases one with less | ⟨rfl, one⟩
              · rcases other with less' | ⟨rfl, -⟩ <;> omega
              · rcases other with less | ⟨rfl, other⟩
                · exact .inl less
                · exact .inr ⟨rfl, ih second third one other⟩

theorem textLe_trans (first second third : String) (one : textLe first second = true)
    (other : textLe second third = true) : textLe first third = true := by
  rw [textLe] at one other ⊢
  exact unitsLe_trans _ _ _ one other

theorem textLe_total (first second : String) : (textLe first second || textLe second first) = true := by
  rw [textLe, textLe]
  exact unitsLe_total _ _

/-- File names in the order they are read. -/
theorem pairwise_sorted (files : List MigrationFile) :
    (files.mergeSort fun a b => textLe a.filename b.filename).Pairwise fun first second =>
      textLe first.filename second.filename = true := by
  apply List.pairwise_mergeSort
  · intro first second third
    exact textLe_trans first.filename second.filename third.filename
  · intro first second
    exact textLe_total first.filename second.filename

/-- A prefix that outruns another is not sorted behind it. -/
theorem not_textLe_of_outruns {longer shorter : String} (isMigration : isMigrationFile longer = true)
    (isMigration' : isMigrationFile shorter = true) (outruns : Outruns (prefixOf longer) (prefixOf shorter)) :
    textLe shorter longer = false := by
  obtain ⟨rest, isLonger⟩ := codeUnits_migration isMigration
  obtain ⟨rest', isShorter⟩ := codeUnits_migration isMigration'
  rw [← Bool.not_eq_true, textLe, isLonger, isShorter,
    (unitsLe_shorter outruns.1 (prefixOf_digits shorter) (prefixOf_digits longer) rest' (95 :: rest)).1]
  exact Nat.not_lt.mpr outruns.2.1

theorem either_of_pairwise {α : Type} {holds : α → α → Prop} {items : List α} (ordered : items.Pairwise holds)
    {first second : α} (isFirst : first ∈ items) (isSecond : second ∈ items) (differ : first ≠ second) :
    holds first second ∨ holds second first := by
  induction ordered with
  | nil => cases isFirst
  | cons ahead _ ih =>
      rcases List.mem_cons.mp isFirst with rfl | inside
      · rcases List.mem_cons.mp isSecond with rfl | inside'
        · exact absurd rfl differ
        · exact .inl (ahead second inside')
      · rcases List.mem_cons.mp isSecond with rfl | inside'
        · exact .inr (ahead first inside)
        · exact ih inside inside'

/-- Migrations sorted by their names are sorted by their numbers exactly where no prefix outruns another. -/
theorem sorted_iff {files : List MigrationFile} (all : ∀ file ∈ files, isMigrationFile file.filename = true)
    (sorted : files.Pairwise fun first second => textLe first.filename second.filename = true) :
    (files.Pairwise fun first second => numberOf first.filename ≤ numberOf second.filename) ↔
      ∀ longer ∈ files, ∀ shorter ∈ files, ¬ Outruns (prefixOf longer.filename) (prefixOf shorter.filename) := by
  constructor
  · intro numeric longer isLonger shorter isShorter outruns
    have differ : longer ≠ shorter := by
      rintro rfl
      exact lt_irrefl _ outruns.1
    rcases either_of_pairwise (sorted.and numeric) isLonger isShorter differ with ⟨-, order⟩ | ⟨order, -⟩
    · exact absurd outruns.2.2 (Nat.not_lt.mpr order)
    · rw [not_textLe_of_outruns (all longer isLonger) (all shorter isShorter) outruns] at order
      cases order
  · intro none
    refine List.Pairwise.imp_of_mem ?_ sorted
    intro first second isFirst isSecond order
    by_contra greater
    have outruns := (textLe_iff_outruns (all first isFirst) (all second isSecond)
      (Nat.lt_of_not_le greater)).mp order
    exact none first isFirst second isSecond outruns

/-! ### Loading -/

/-- The migrations among the entries of a directory. -/
def migrationFiles (files : List MigrationFile) : List MigrationFile :=
  files.filter fun file => isMigrationFile file.filename

theorem endsInSql_of_migration {filename : String} (isMigration : isMigrationFile filename = true) :
    endsInSql filename = true := by
  obtain ⟨name, isName, ends⟩ := exists_name isMigration
  rw [endsInSql, isName, List.isSuffixOf_iff_suffix]
  exact ends.trans ((List.suffix_cons _ _).trans (List.suffix_append _ _))

/-- What is loaded from entries that are well named and can be read. -/
theorem loadFiles_eq_ok (sha256 : String → String) {files : List MigrationFile}
    (named : ∀ file ∈ files, endsInSql file.filename = true → isMigrationFile file.filename = true)
    (readable : ∀ file ∈ files, isMigrationFile file.filename = true → ∃ sql, file.sql = .ok sql) :
    ∃ migrations, loadFiles sha256 files = .ok migrations ∧
      migrations.map Migration.filename = (migrationFiles files).map MigrationFile.filename ∧
      ∀ migration ∈ migrations, migration.version = versionOf migration.filename := by
  induction files with
  | nil => exact ⟨[], rfl, rfl, fun migration inside => by cases inside⟩
  | cons file files ih =>
      obtain ⟨named, moreNamed⟩ := List.forall_mem_cons.mp named
      obtain ⟨readable, moreReadable⟩ := List.forall_mem_cons.mp readable
      obtain ⟨migrations, loaded, names, versions⟩ := ih moreNamed moreReadable
      rw [loadFiles, loaded, loadFile, migrationFiles, List.filter_cons]
      by_cases isMigration : isMigrationFile file.filename = true
      · obtain ⟨sql, isRead⟩ := readable isMigration
        rw [if_pos isMigration, if_pos isMigration, isRead]
        refine ⟨_, rfl, ?_, ?_⟩
        · exact congrArg (file.filename :: ·) names
        · exact List.forall_mem_cons.mpr ⟨rfl, versions⟩
      · have noSql : ¬ endsInSql file.filename = true := fun ends => isMigration (named ends)
        rw [if_neg isMigration, if_neg isMigration, if_neg noSql]
        exact ⟨migrations, rfl, names, versions⟩

/-! ### Applying -/

section Apply

variable {run : MigrationRun}

theorem row_of_empty {ledger : Ledger} (empty : ledger.rows = []) (version : String) :
    ledger.row version = none := by
  rw [Ledger.row, empty]
  rfl

/-- Over a ledger that held nothing, the loop applies the files in their order until one fails. -/
theorem applyEach_of_empty {known : Ledger} (empty : known.rows = []) (migrations : List Migration)
    (report : MigrationReport) {db : Database} (made : db.ledger.created = true ∧ db.ledger.hasColumn = true)
    (distinct : (db.ledger.versions ++ migrations.map Migration.version).Nodup) :
    ∃ ran, ran <+: migrations ∧ (applyEach run known migrations report db).2.schema = db.schema ++ ran ∧
      ((∀ migration ∈ migrations, run.fails migration.version = none) → ran = migrations ∧
        ∃ final, (applyEach run known migrations report db).1 = .ok final ∧
          final.applied = report.applied ++ migrations.map Migration.version) := by
  induction migrations generalizing report db with
  | nil =>
      refine ⟨[], List.nil_prefix, by simp [applyEach], fun _ => ⟨rfl, report, rfl, by simp⟩⟩
  | cons migration migrations ih =>
      rw [applyEach, row_of_empty empty]
      have isNew : db.ledger.row migration.version = none := by
        rw [Ledger.row, Keyed.lookup_eq_none]
        intro row inside same
        rw [List.map_cons] at distinct
        have apart := (List.nodup_append.mp distinct).2.2 row.version (List.mem_map_of_mem inside)
          migration.version List.mem_cons_self
        exact apart same
      dsimp only
      cases fares : run.fails migration.version with
      | some cause =>
          have failed : applyOne run db migration = .error cause := by
            rw [applyOne, fares]
          rw [failed]
          refine ⟨[], List.nil_prefix, by simp, fun succeed => ?_⟩
          rw [succeed migration List.mem_cons_self] at fares
          cases fares
      | none =>
          obtain ⟨next, applied, created, column, schema, rows⟩ :
              ∃ next, applyOne run db migration = .ok next ∧ next.ledger.created = db.ledger.created ∧
                next.ledger.hasColumn = db.ledger.hasColumn ∧ next.schema = db.schema ++ [migration] ∧
                next.ledger.rows = db.ledger.rows ++ [migration.row (run.clock migration.version)] := by
            rw [applyOne, fares]
            dsimp only
            rw [dif_pos isNew, dif_pos made]
            exact ⟨_, rfl, rfl, rfl, rfl, rfl⟩
          have versions : next.ledger.versions = db.ledger.versions ++ [migration.version] := by
            rw [Ledger.versions, rows, List.map_append]
            rfl
          have stillDistinct : (next.ledger.versions ++ migrations.map Migration.version).Nodup := by
            rw [versions, List.append_assoc]
            exact distinct
          obtain ⟨ran, isPrefix, further, complete⟩ :=
            ih { report with applied := report.applied ++ [migration.version] }
              ⟨created.trans made.1, column.trans made.2⟩ stillDistinct
          rw [applied]
          refine ⟨migration :: ran, List.cons_prefix_cons.mpr ⟨rfl, isPrefix⟩, ?_, fun succeed => ?_⟩
          · dsimp only
            rw [further, schema, List.append_assoc]
            rfl
          · obtain ⟨whole, final, returned, isApplied⟩ :=
              complete fun other inside => succeed other (List.mem_cons_of_mem _ inside)
            refine ⟨by rw [whole], final, returned, ?_⟩
            rw [isApplied, List.append_assoc]
            rfl

/-- On an empty ledger the migrations are applied in the order they were loaded in, until one fails. -/
theorem applyPending_of_empty {db : Database} (empty : db.ledger.rows = []) {migrations : List Migration}
    (distinct : (migrations.map Migration.version).Nodup) :
    ∃ ran, ran <+: migrations ∧ (applyPending run migrations db).2.schema = db.schema ++ ran ∧
      ((∀ migration ∈ migrations, run.fails migration.version = none) → ran = migrations ∧
        ∃ final, (applyPending run migrations db).1 = .ok final ∧
          final.applied = migrations.map Migration.version) := by
  have emptied : db.ledger.create.rows = [] := empty
  have noVersions : db.ledger.create.versions = [] := by
    rw [Ledger.versions, emptied]
    rfl
  have noneUnknown : unknownVersions db.ledger.create migrations = [] := by
    rw [unknownVersions, noVersions, List.filter_nil, List.mergeSort_nil]
  have accepted : checkNewerSchema { db with ledger := db.ledger.create } [] run.allowNewerSchema = .ok () := rfl
  have stillDistinct : (db.ledger.create.versions ++ migrations.map Migration.version).Nodup := by
    rw [noVersions]
    exact distinct
  obtain ⟨ran, isPrefix, schema, complete⟩ := @applyEach_of_empty run _ emptied migrations
    ⟨[], [], [], db.ledger.create.rows.isEmpty, none⟩ { db with ledger := db.ledger.create } ⟨rfl, rfl⟩ stillDistinct
  rw [applyPending]
  dsimp only
  rw [noneUnknown, accepted]
  dsimp only
  cases looped : applyEach run db.ledger.create migrations
      ⟨[], [], [], db.ledger.create.rows.isEmpty, none⟩ { db with ledger := db.ledger.create } with
  | mk reply after =>
      rw [looped] at schema complete
      cases reply with
      | error failure =>
          refine ⟨ran, isPrefix, schema, fun succeed => ?_⟩
          obtain ⟨-, final, returned, -⟩ := complete succeed
          cases returned
      | ok report =>
          obtain ⟨-, -, -, same⟩ := learnClasses_rows migrations report after
          refine ⟨ran, isPrefix, same.trans schema, fun succeed => ?_⟩
          obtain ⟨whole, final, returned, isApplied⟩ := complete succeed
          cases returned
          exact ⟨whole, _, rfl, isApplied⟩

end Apply

/-! ### The order -/

/-- `versionOf` keeps the names of migrations apart. -/
theorem versionOf_inj {first second : String} (isMigration : isMigrationFile first = true)
    (isMigration' : isMigrationFile second = true) (same : versionOf first = versionOf second) :
    first = second := by
  have whole {filename : String} (named : isMigrationFile filename = true) :
      filename.toList = filename.toList.dropLast.dropLast.dropLast.dropLast ++ ".sql".toList := by
    have ends := endsInSql_of_migration named
    rw [endsInSql, List.isSuffixOf_iff_suffix] at ends
    obtain ⟨front, isFront⟩ := ends
    have letters : ".sql".toList = ['.', 's', 'q', 'l'] := rfl
    rw [← isFront, letters]
    simp
  have lists := congrArg String.toList same
  rw [versionOf, versionOf, String.toList_ofList, String.toList_ofList] at lists
  apply String.toList_inj.mp
  rw [whole isMigration, whole isMigration', lists]

/-- What a directory holds is loaded in the order of the numbers, and so applied. -/
structure NumericOrder (files : List MigrationFile) (migrations : List Migration) : Prop where
  all : (migrations.map Migration.filename).Perm ((migrationFiles files).map MigrationFile.filename)
  sorted : migrations.Pairwise fun first second => numberOf first.filename ≤ numberOf second.filename
  applied : ∀ (run : MigrationRun) (db : Database), db.ledger.rows = [] →
    ∃ ran, ran <+: migrations ∧ (applyPending run migrations db).2.schema = db.schema ++ ran ∧
      ((∀ migration ∈ migrations, run.fails migration.version = none) → ran = migrations ∧
        ∃ report, (applyPending run migrations db).1 = .ok report ∧
          report.applied = migrations.map Migration.version)

/-- Migrations that carry the names of distinct migration files have distinct versions. -/
theorem versions_nodup {migrations : List Migration}
    (versions : ∀ migration ∈ migrations, migration.version = versionOf migration.filename)
    (named : ∀ migration ∈ migrations, isMigrationFile migration.filename = true)
    (distinct : (migrations.map Migration.filename).Nodup) : (migrations.map Migration.version).Nodup := by
  induction migrations with
  | nil => exact List.nodup_nil
  | cons migration migrations ih =>
      obtain ⟨isVersion, versions⟩ := List.forall_mem_cons.mp versions
      obtain ⟨isNamed, named⟩ := List.forall_mem_cons.mp named
      rw [List.map_cons, List.nodup_cons] at distinct ⊢
      refine ⟨fun again => distinct.1 ?_, ih versions named distinct.2⟩
      obtain ⟨other, inside, same⟩ := List.mem_map.mp again
      rw [isVersion, versions other inside] at same
      rw [← versionOf_inj (named other inside) isNamed same]
      exact List.mem_map_of_mem inside

/-- The migrations of a directory are loaded, and applied to an empty ledger, in the order of their numbers
    exactly where there are any and no prefix outruns a shorter one. -/
theorem migrations_in_numeric_order_iff (sha256 : String → String) (release : Release)
    (files : List MigrationFile) (isDirectory : release.entries = .ok files)
    (distinct : (files.map MigrationFile.filename).Nodup)
    (named : ∀ file ∈ files, endsInSql file.filename = true → isMigrationFile file.filename = true)
    (readable : ∀ file ∈ files, isMigrationFile file.filename = true → ∃ sql, file.sql = .ok sql) :
    (∃ migrations, loadMigrations sha256 release = .ok migrations ∧ NumericOrder files migrations) ↔
      migrationFiles files ≠ [] ∧ ∀ longer ∈ migrationFiles files, ∀ shorter ∈ migrationFiles files,
        ¬ Outruns (prefixOf longer.filename) (prefixOf shorter.filename) := by
  have perm : (files.mergeSort fun a b => textLe a.filename b.filename).Perm files :=
    List.mergeSort_perm files _
  have sameFiles : (migrationFiles (files.mergeSort fun a b => textLe a.filename b.filename)).Perm
      (migrationFiles files) := perm.filter _
  have sorted : (migrationFiles (files.mergeSort fun a b => textLe a.filename b.filename)).Pairwise
      fun first second => textLe first.filename second.filename = true :=
    (pairwise_sorted files).filter _
  obtain ⟨migrations, loaded, names, versions⟩ := loadFiles_eq_ok sha256
    (fun file inside => named file (perm.mem_iff.mp inside))
    (fun file inside => readable file (perm.mem_iff.mp inside))
  have isLoaded : loadMigrations sha256 release =
      if migrations.isEmpty then .error (.noMigrations release.dir) else .ok migrations := by
    rw [loadMigrations, isDirectory]
    dsimp only
    rw [loaded]
  generalize files.mergeSort (fun a b => textLe a.filename b.filename) = read at *
  have none_iff : migrations = [] ↔ migrationFiles files = [] := by
    rw [← List.map_eq_nil_iff (f := Migration.filename), names, List.map_eq_nil_iff]
    exact ⟨fun none => (none ▸ sameFiles).nil_eq.symm, fun none => (none ▸ sameFiles).eq_nil⟩
  have numeric : (migrations.Pairwise fun first second => numberOf first.filename ≤ numberOf second.filename) ↔
      ∀ longer ∈ migrationFiles files, ∀ shorter ∈ migrationFiles files,
        ¬ Outruns (prefixOf longer.filename) (prefixOf shorter.filename) := by
    have same : (migrations.Pairwise fun first second => numberOf first.filename ≤ numberOf second.filename) ↔
        (migrationFiles read).Pairwise fun first second => numberOf first.filename ≤ numberOf second.filename := by
      have mapped := congrArg (List.Pairwise fun first second => numberOf first ≤ numberOf second) names
      rw [List.pairwise_map, List.pairwise_map] at mapped
      exact iff_of_eq mapped
    have isSorted := @sorted_iff (migrationFiles read) (fun file inside => (List.mem_filter.mp inside).2) sorted
    rw [same, isSorted]
    simp only [sameFiles.mem_iff]
  rw [← numeric, isLoaded]
  constructor
  · rintro ⟨others, isLoaded', order⟩
    by_cases none : migrations.isEmpty = true
    · rw [if_pos none] at isLoaded'
      cases isLoaded'
    · rw [if_neg none] at isLoaded'
      cases isLoaded'
      refine ⟨fun noFiles => none ?_, order.sorted⟩
      rw [none_iff.mpr noFiles]
      rfl
  · rintro ⟨some, order⟩
    have isSome : migrations.isEmpty = false := List.isEmpty_eq_false_iff.mpr fun none => some (none_iff.mp none)
    rw [isSome]
    have sameNames : (migrations.map Migration.filename).Perm
        ((migrationFiles files).map MigrationFile.filename) := names ▸ sameFiles.map _
    refine ⟨migrations, rfl, sameNames, order, fun run db empty => ?_⟩
    apply applyPending_of_empty empty
    apply versions_nodup versions
    · intro migration inside
      have isName : migration.filename ∈ migrations.map Migration.filename := List.mem_map_of_mem inside
      obtain ⟨file, isFile, same⟩ := List.mem_map.mp (sameNames.mem_iff.mp isName)
      rw [← same]
      exact (List.mem_filter.mp isFile).2
    · rw [sameNames.nodup_iff]
      exact distinct.sublist (List.filter_sublist.map _)

theorem migrations_in_numeric_order_padded :
    ∃ migrations, loadMigrations id ⟨"migrations", .ok
        [⟨"010_b.sql", .ok "second"⟩, ⟨"readme", .error "not read"⟩, ⟨"009_a.sql", .ok "first"⟩]⟩ = .ok migrations ∧
      NumericOrder [⟨"010_b.sql", .ok "second"⟩, ⟨"readme", .error "not read"⟩, ⟨"009_a.sql", .ok "first"⟩]
        migrations :=
  (migrations_in_numeric_order_iff id ⟨"migrations", .ok
      [⟨"010_b.sql", .ok "second"⟩, ⟨"readme", .error "not read"⟩, ⟨"009_a.sql", .ok "first"⟩]⟩ _ rfl
    (by decide)
    (List.forall_mem_cons.mpr ⟨fun _ => by decide, List.forall_mem_cons.mpr
      ⟨fun isSql => absurd isSql (by decide), List.forall_mem_cons.mpr
        ⟨fun _ => by decide, List.forall_mem_nil _⟩⟩⟩)
    (List.forall_mem_cons.mpr ⟨fun _ => ⟨_, rfl⟩, List.forall_mem_cons.mpr
      ⟨fun isMigration => absurd isMigration (by decide), List.forall_mem_cons.mpr
        ⟨fun _ => ⟨_, rfl⟩, List.forall_mem_nil _⟩⟩⟩)).mpr
    ⟨by
      rw [← List.isEmpty_eq_false_iff]
      decide, by decide⟩

/-- A prefix of four digits is a text in front of one of three: migration 1000 runs before migration 999. -/
theorem migrations_out_of_numeric_order :
    (∃ migrations, loadMigrations id ⟨"migrations", .ok
        [⟨"1000_a.sql", .ok "newer"⟩, ⟨"999_b.sql", .ok "older"⟩]⟩ = .ok migrations ∧
      migrations.map Migration.filename = ["1000_a.sql", "999_b.sql"] ∧
      migrations.map (fun migration => numberOf migration.filename) = [1000, 999] ∧
      (applyPending ⟨⟨"migrations", .ok []⟩, false, fun _ => none, fun _ => 0⟩ migrations
        ⟨textLe, .missing, []⟩).2.schema.map Migration.filename = ["1000_a.sql", "999_b.sql"]) := by
  have sorted : ([⟨"1000_a.sql", .ok "newer"⟩, ⟨"999_b.sql", .ok "older"⟩] : List MigrationFile).mergeSort
      (fun a b => textLe a.filename b.filename) =
        [⟨"1000_a.sql", .ok "newer"⟩, ⟨"999_b.sql", .ok "older"⟩] :=
    List.mergeSort_of_pairwise (List.pairwise_pair.mpr (by decide))
  have distinct : (["1000_a", "999_b"] : List String).Nodup := by decide
  rw [loadMigrations]
  dsimp only
  rw [sorted]
  refine ⟨[⟨"1000_a", "1000_a.sql", "newer", "newer", none⟩, ⟨"999_b", "999_b.sql", "older", "older", none⟩],
    by decide, rfl, by decide, ?_⟩
  obtain ⟨ran, -, schema, complete⟩ := @applyPending_of_empty
    ⟨⟨"migrations", .ok []⟩, false, fun _ => none, fun _ => 0⟩ ⟨textLe, .missing, []⟩ rfl
    [⟨"1000_a", "1000_a.sql", "newer", "newer", none⟩, ⟨"999_b", "999_b.sql", "older", "older", none⟩] distinct
  rw [schema, (complete fun _ _ => rfl).1]
  rfl

end JumptotechLabs.Progress
