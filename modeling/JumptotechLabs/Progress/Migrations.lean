/-
Module: JumptotechLabs.Progress.Migrations
Layer: Progress (services/progress/src/postgres/migrator.ts)
Purpose: What holds of a database over any history of releases: each version's SQL takes effect once, the
  ledger is exactly what took effect and never takes back what it recorded, and a release that must not run
  is refused. `verifySchema` accepts exactly what `migrate` would leave alone.
Main exports: Held, Keeps, applyEach_spec, migrate_spec, checkNewerSchema_create, verifySchema_ok_iff,
  migrate_idle_iff, migrations_run_once
-/
import JumptotechLabs.Progress.Migrator

namespace JumptotechLabs.Progress

open JumptotechLabs.Access (Instant)
open JumptotechLabs.Core

/-! ### The loop -/

/-- The ledger has a migration, as it is shipped. -/
def Held (ledger : Ledger) (migration : Migration) : Prop :=
  ∃ row, ledger.row migration.version = some row ∧ row.checksum = migration.checksum

/-- What a row recorded, it keeps. -/
structure Keeps (before after : LedgerRow) : Prop where
  version : after.version = before.version
  checksum : after.checksum = before.checksum
  olderCodeRuns : ∀ runs, before.olderCodeRuns = some runs → after.olderCodeRuns = some runs

theorem Keeps.refl (row : LedgerRow) : Keeps row row := ⟨rfl, rfl, fun _ => id⟩

theorem Keeps.trans {a b c : LedgerRow} (first : Keeps a b) (second : Keeps b c) : Keeps a c where
  version := second.version.trans first.version
  checksum := second.checksum.trans first.checksum
  olderCodeRuns runs recorded := second.olderCodeRuns runs (first.olderCodeRuns runs recorded)

section Loop

variable {run : MigrationRun} {known : Ledger} {db : Database}

/-- A file's transaction that commits: one file more took effect, and it is one row more. -/
theorem applyOne_ok {migration : Migration} {next : Database}
    (applied : applyOne run db migration = .ok next) :
    next.schema = db.schema ++ [migration] ∧
      next.ledger.rows = db.ledger.rows ++ [migration.row (run.clock migration.version)] ∧
      next.ledger.hasColumn = db.ledger.hasColumn ∧ next.collation = db.collation := by
  unfold applyOne at applied
  split at applied
  · cases applied
  split at applied
  · split at applied
    · cases applied
      exact ⟨rfl, rfl, rfl, rfl⟩
    · cases applied
  · cases applied

/-- What the loop leaves: some of the files took effect, each with its row; and when it returns, every
    other file is held. -/
theorem applyEach_spec (run : MigrationRun) (known : Ledger) (migrations : List Migration)
    (report : MigrationReport) (db : Database) :
    ∃ ran : List Migration,
      (applyEach run known migrations report db).2.schema = db.schema ++ ran ∧
      (applyEach run known migrations report db).2.ledger.rows =
        db.ledger.rows ++ ran.map (fun migration => migration.row (run.clock migration.version)) ∧
      (applyEach run known migrations report db).2.ledger.hasColumn = db.ledger.hasColumn ∧
      (applyEach run known migrations report db).2.collation = db.collation ∧
      (∀ migration ∈ ran, migration ∈ migrations) ∧
      ∀ final, (applyEach run known migrations report db).1 = .ok final →
        final.applied = report.applied ++ ran.map Migration.version ∧
        (report.skipped ≠ [] → final.skipped ≠ []) ∧
        ∀ migration ∈ migrations,
          migration ∈ ran ∨ Held known migration ∧ final.skipped ≠ [] := by
  induction migrations generalizing report db with
  | nil =>
      refine ⟨[], ?_, ?_, rfl, rfl, ?_, ?_⟩
      · simp [applyEach]
      · simp [applyEach]
      · intro migration member
        exact absurd member List.not_mem_nil
      · intro final returned
        cases returned
        refine ⟨by simp, id, ?_⟩
        intro migration member
        exact absurd member List.not_mem_nil
  | cons migration rest ih =>
      rw [applyEach]
      cases found : known.row migration.version with
      | some row =>
          simp only
          split
          · refine ⟨[], by simp, by simp, rfl, rfl, ?_, ?_⟩
            · intro migration member
              exact absurd member List.not_mem_nil
            · intro final returned
              cases returned
          · rename_i same
            obtain ⟨ran, schema, rows, column, collation, shipped, ended⟩ :=
              ih { report with skipped := report.skipped ++ [migration.version] } db
            refine ⟨ran, schema, rows, column, collation,
              fun other inRan => List.mem_cons_of_mem _ (shipped other inRan), ?_⟩
            intro final returned
            obtain ⟨applied, skipped, held⟩ := ended final returned
            have some : final.skipped ≠ [] := skipped (by simp)
            refine ⟨applied, fun _ => some, ?_⟩
            intro other member
            rcases List.mem_cons.mp member with rfl | inRest
            · exact .inr ⟨⟨row, found, Decidable.not_not.mp same⟩, some⟩
            · exact held other inRest
      | none =>
          simp only
          cases applied : applyOne run db migration with
          | error cause =>
              refine ⟨[], by simp, by simp, rfl, rfl, ?_, ?_⟩
              · intro migration member
                exact absurd member List.not_mem_nil
              · intro final returned
                cases returned
          | ok next =>
              obtain ⟨oneSchema, oneRow, oneColumn, oneCollation⟩ := applyOne_ok applied
              obtain ⟨ran, schema, rows, column, collation, shipped, ended⟩ :=
                ih { report with applied := report.applied ++ [migration.version] } next
              refine ⟨migration :: ran, ?_, ?_, column.trans oneColumn,
                collation.trans oneCollation, ?_, ?_⟩
              · rw [schema, oneSchema, List.append_assoc]
                rfl
              · rw [rows, oneRow, List.append_assoc]
                rfl
              · intro other member
                rcases List.mem_cons.mp member with rfl | inRan
                · exact List.mem_cons_self
                · exact List.mem_cons_of_mem _ (shipped other inRan)
              · intro final returned
                obtain ⟨isApplied, skipped, held⟩ := ended final returned
                refine ⟨?_, skipped, ?_⟩
                · rw [isApplied, List.append_assoc]
                  rfl
                · intro other member
                  rcases List.mem_cons.mp member with rfl | inRest
                  · exact .inl List.mem_cons_self
                  · exact (held other inRest).imp_left (List.mem_cons_of_mem _)

/-- The loop fails at a file, never for a newer schema. -/
theorem applyEach_error {migrations : List Migration} {report : MigrationReport}
    {failure : MigrationFailure}
    (failed : (applyEach run known migrations report db).1 = .error failure) :
    failure.isNewerSchema = false := by
  induction migrations generalizing report db with
  | nil => cases failed
  | cons migration rest ih =>
      rw [applyEach] at failed
      split at failed
      · split at failed
        · cases failed
          rfl
        · exact ih failed
      · split at failed
        · cases failed
          rfl
        · exact ih failed

/-- Where every file is held, the loop applies nothing. -/
theorem applyEach_of_held {migrations : List Migration}
    (held : ∀ migration ∈ migrations, Held known migration) (report : MigrationReport) :
    applyEach run known migrations report db =
      (.ok { report with skipped := report.skipped ++ migrations.map Migration.version }, db) := by
  induction migrations generalizing report with
  | nil => simp [applyEach]
  | cons migration rest ih =>
      obtain ⟨row, found, same⟩ := held migration List.mem_cons_self
      rw [applyEach, found]
      simp only [same, ne_eq, not_true_eq_false, if_false]
      rw [ih fun other inRest => held other (List.mem_cons_of_mem _ inRest)]
      simp

/-- The walk that only looks returns, with nothing pending, exactly where every file is held. -/
theorem verifyEach_idle_iff (ledger : Ledger) (migrations : List Migration)
    (pending skipped : List String) :
    (∃ found, verifyEach ledger migrations pending skipped = .ok ([], found)) ↔
      pending = [] ∧ ∀ migration ∈ migrations, Held ledger migration := by
  induction migrations generalizing pending skipped with
  | nil =>
      simp only [verifyEach, Except.ok.injEq, Prod.mk.injEq, exists_eq_right', List.not_mem_nil,
        false_imp_iff, implies_true, and_true]
  | cons migration rest ih =>
      rw [verifyEach]
      cases found : ledger.row migration.version with
      | none =>
          simp only
          rw [ih]
          constructor
          · intro impossible
            simp at impossible
          · intro held
            obtain ⟨row, isRow, _⟩ := held.2 migration List.mem_cons_self
            rw [found] at isRow
            cases isRow
      | some row =>
          simp only
          by_cases same : row.checksum = migration.checksum
          · rw [if_neg (not_not_intro same), ih, List.forall_mem_cons]
            have isHeld : Held ledger migration := ⟨row, found, same⟩
            simp [isHeld]
          · rw [if_pos same]
            constructor
            · intro impossible
              obtain ⟨_, failed⟩ := impossible
              cases failed
            · intro held
              obtain ⟨other, isOther, isSame⟩ := held.2 migration List.mem_cons_self
              rw [found] at isOther
              cases isOther
              exact absurd isSame same

end Loop

/-! ### The refusal -/

section Refusal

variable {db : Database} {migrations : List Migration}

theorem mem_unknownVersions {ledger : Ledger} {version : String} :
    version ∈ unknownVersions ledger migrations ↔
      version ∈ ledger.versions ∧ version ∉ migrations.map Migration.version := by
  simp [unknownVersions]

/-- A ledger without the column answers as one whose rows state nothing. -/
theorem checkNewerSchema_create (db : Database) (unknown : List String) (allowNewerSchema : Bool) :
    checkNewerSchema { db with ledger := db.ledger.create } unknown allowNewerSchema =
      checkNewerSchema db unknown allowNewerSchema := by
  have sameBarred : versionsOlderCodeCannotRun { db with ledger := db.ledger.create } unknown =
      versionsOlderCodeCannotRun db unknown := by
    cases hasColumn : db.ledger.hasColumn with
    | true => simp [versionsOlderCodeCannotRun, Ledger.create, hasColumn]
    | false =>
        have noneBarred : db.ledger.rows.filter (fun row =>
            unknown.contains row.version && row.olderCodeRuns == some false) = [] := by
          apply List.filter_eq_nil_iff.mpr
          intro row member
          simp [db.ledger.unstated_of_missing hasColumn row member]
        simp only [versionsOlderCodeCannotRun, Ledger.create, hasColumn, if_true, noneBarred,
          Bool.false_eq_true, if_false, List.map_nil, List.mergeSort_nil]
  simp only [checkNewerSchema, sameBarred]

/-- Nothing is unknown, or it is overridden and nothing unknown is recorded as not runnable. -/
theorem checkNewerSchema_ok_iff (db : Database) (unknown : List String) (allowNewerSchema : Bool) :
    checkNewerSchema db unknown allowNewerSchema = .ok () ↔
      unknown = [] ∨ allowNewerSchema = true ∧ ∀ row ∈ db.ledger.rows, row.version ∈ unknown →
        row.olderCodeRuns ≠ some false := by
  have noneBarred : (versionsOlderCodeCannotRun db unknown).isEmpty = true ↔
      ∀ row ∈ db.ledger.rows, row.version ∈ unknown → row.olderCodeRuns ≠ some false := by
    unfold versionsOlderCodeCannotRun
    cases hasColumn : db.ledger.hasColumn with
    | false =>
        rw [if_neg Bool.false_ne_true]
        simp only [List.isEmpty_nil, true_iff]
        intro row member _
        rw [db.ledger.unstated_of_missing hasColumn row member]
        intro impossible
        cases impossible
    | true =>
        rw [if_pos rfl, List.isEmpty_iff, ← List.length_eq_zero_iff, List.length_mergeSort,
          List.length_map, List.length_eq_zero_iff, List.filter_eq_nil_iff]
        simp
  unfold checkNewerSchema
  cases unknown with
  | nil => simp
  | cons version unknown =>
      cases allowNewerSchema with
      | false => simp
      | true =>
          simp only [List.isEmpty_cons, Bool.false_eq_true, if_false, Bool.not_true, reduceCtorEq,
            false_or, true_and]
          rw [← noneBarred]
          split
          · rename_i isEmpty
            simp [isEmpty]
          · rename_i notEmpty
            simp [notEmpty]

/-- An unknown version recorded as not runnable is refused, with or without the override. -/
theorem checkNewerSchema_of_barred {row : LedgerRow} (member : row ∈ db.ledger.rows)
    (barred : row.olderCodeRuns = some false)
    (unshipped : row.version ∉ migrations.map Migration.version) (allowNewerSchema : Bool) :
    checkNewerSchema db (unknownVersions db.ledger migrations) allowNewerSchema ≠ .ok () := by
  have isUnknown : row.version ∈ unknownVersions db.ledger migrations :=
    mem_unknownVersions.mpr ⟨List.mem_map_of_mem member, unshipped⟩
  intro checked
  rcases (checkNewerSchema_ok_iff ..).mp checked with noneUnknown | ⟨_, runnable⟩
  · exact List.ne_nil_of_mem isUnknown noneUnknown
  · exact runnable row member isUnknown barred

end Refusal

/-! ### One run -/

section Run

variable {run : MigrationRun} {db : Database} {migrations : List Migration}

theorem learned_keeps (known : List Migration) (row : LedgerRow) :
    Keeps row (Ledger.learned known row) := by
  unfold Ledger.learned
  split
  · rename_i unstated _
    refine ⟨rfl, rfl, ?_⟩
    intro runs recorded
    rw [unstated] at recorded
    cases recorded
  · exact .refl row

/-- A row of a version that is not shipped learns nothing. -/
theorem learned_of_unshipped {row : LedgerRow}
    (unshipped : row.version ∉ migrations.map Migration.version) :
    Ledger.learned (migrations.filter fun migration => migration.rollback.isSome) row = row := by
  have notFound : (migrations.filter fun migration => migration.rollback.isSome).find?
      (·.version == row.version) = none := by
    apply List.find?_eq_none.mpr
    intro migration member same
    apply unshipped
    rw [← beq_iff_eq.mp same]
    exact List.mem_map_of_mem (List.mem_filter.mp member).1
  unfold Ledger.learned
  rw [notFound]
  cases row.olderCodeRuns with
  | none => rfl
  | some runs => rfl

/-- What becomes of the rows in a run: each keeps what it recorded, and those of versions that are not
    shipped do not change. -/
structure Learns (migrations : List Migration) (change : LedgerRow → LedgerRow) : Prop where
  keeps : ∀ row, Keeps row (change row)
  others : ∀ row, row.version ∉ migrations.map Migration.version → change row = row

theorem learns_id (migrations : List Migration) : Learns migrations id :=
  ⟨Keeps.refl, fun _ _ => rfl⟩

theorem learnClasses_rows (migrations : List Migration) (report : MigrationReport)
    (db : Database) :
    ∃ change : LedgerRow → LedgerRow, Learns migrations change ∧
      (learnClasses migrations report db).ledger.rows = db.ledger.rows.map change ∧
      (learnClasses migrations report db).schema = db.schema := by
  unfold learnClasses
  simp only
  split
  · split
    · exact ⟨id, learns_id migrations, (List.map_id _).symm, rfl⟩
    · exact ⟨Ledger.learned _, ⟨learned_keeps _, fun _ => learned_of_unshipped⟩, rfl, rfl⟩
  · exact ⟨id, learns_id migrations, (List.map_id _).symm, rfl⟩

/-- After it, no row of a shipped version with a declared class is without one, when something was
    skipped. -/
theorem learnClasses_stated {report : MigrationReport} (hasColumn : db.ledger.hasColumn = true)
    (skipped : report.skipped ≠ []) {migration : Migration} (member : migration ∈ migrations)
    (declared : migration.rollback ≠ none) {row : LedgerRow}
    (inRows : row ∈ (learnClasses migrations report db).ledger.rows)
    (sameVersion : row.version = migration.version) : row.olderCodeRuns ≠ none := by
  have isKnown : migration ∈ migrations.filter fun migration => migration.rollback.isSome :=
    List.mem_filter.mpr ⟨member, Option.isSome_iff_ne_none.mpr declared⟩
  unfold learnClasses at inRows
  simp only at inRows
  rw [dif_pos hasColumn, if_neg] at inRows
  · obtain ⟨old, _, isRow⟩ := List.mem_map.mp inRows
    subst isRow
    rw [Ledger.learned_version] at sameVersion
    cases found : (migrations.filter fun migration => migration.rollback.isSome).find?
        (·.version == old.version) with
    | none =>
        have absent := List.find?_eq_none.mp found migration isKnown
        exact absurd (beq_iff_eq.mpr sameVersion.symm) absent
    | some other =>
        have otherDeclared := (List.mem_filter.mp (List.mem_of_find?_eq_some found)).2
        unfold Ledger.learned
        cases stated : old.olderCodeRuns with
        | none =>
            simp only [found]
            obtain ⟨class_, isClass⟩ := Option.isSome_iff_exists.mp otherDeclared
            simp [Migration.olderCodeRuns, isClass]
        | some runs => simp [stated]
  · have some := List.ne_nil_of_mem isKnown
    simp [skipped, some]

/-- A run that was not refused: the files that took effect, each with its row, and what it is when it
    returned. -/
structure Ran (run : MigrationRun) (migrations : List Migration) (db : Database)
    (reply : Except MigrationFailure MigrationReport) (after : Database) (ran : List Migration) :
    Prop where
  schema : after.schema = db.schema ++ ran
  shipped : ∀ migration ∈ ran, migration ∈ migrations
  rows : ∃ change : LedgerRow → LedgerRow, Learns migrations change ∧
    after.ledger.rows = (db.ledger.rows ++
      ran.map fun migration => migration.row (run.clock migration.version)).map change
  failed : ∀ failure, reply = .error failure → failure.isNewerSchema = false
  applied : ∀ report, reply = .ok report → report.applied = ran.map Migration.version
  held : ∀ report, reply = .ok report → ∀ migration ∈ migrations,
    migration ∈ ran ∨ Held db.ledger migration
  stated : ∀ report, reply = .ok report → ∀ migration ∈ migrations, migration.rollback ≠ none →
    ∀ row ∈ after.ledger.rows, row.version = migration.version → row.olderCodeRuns ≠ none

/-- The row of a file that took effect, once the run is over. -/
theorem row_of_ran {after : Database} {ran : List Migration} {change : LedgerRow → LedgerRow}
    (learns : Learns migrations change)
    (rows : after.ledger.rows = (db.ledger.rows ++
      ran.map fun migration => migration.row (run.clock migration.version)).map change)
    {migration : Migration} (member : migration ∈ ran) :
    after.ledger.row migration.version =
      some (change (migration.row (run.clock migration.version))) := by
  have inRows : change (migration.row (run.clock migration.version)) ∈ after.ledger.rows := by
    rw [rows]
    apply List.mem_map_of_mem
    exact List.mem_append_right _ (List.mem_map_of_mem member)
  have isVersion := (learns.keeps (migration.row (run.clock migration.version))).version
  have found : after.ledger.row (change (migration.row (run.clock migration.version))).version =
      some (change (migration.row (run.clock migration.version))) :=
    Keyed.lookup_of_mem after.ledger.keys inRows
  rw [isVersion] at found
  exact found

/-- Everything a run with its files loaded can do. -/
theorem applyPending_cases (run : MigrationRun) (migrations : List Migration) (db : Database) :
    (∃ failure, checkNewerSchema db (unknownVersions db.ledger migrations) run.allowNewerSchema =
        .error failure ∧
      applyPending run migrations db = (.error failure, { db with ledger := db.ledger.create })) ∨
    checkNewerSchema db (unknownVersions db.ledger migrations) run.allowNewerSchema = .ok () ∧
      ∃ ran, Ran run migrations db (applyPending run migrations db).1
        (applyPending run migrations db).2 ran := by
  have sameUnknown : unknownVersions db.ledger.create migrations =
      unknownVersions db.ledger migrations := rfl
  unfold applyPending
  simp only [sameUnknown, checkNewerSchema_create]
  cases checked : checkNewerSchema db (unknownVersions db.ledger migrations)
      run.allowNewerSchema with
  | error failure => exact .inl ⟨failure, rfl, rfl⟩
  | ok _ =>
      right
      refine ⟨rfl, ?_⟩
      simp only
      let report : MigrationReport :=
        ⟨[], [], unknownVersions db.ledger migrations, db.ledger.create.rows.isEmpty, none⟩
      obtain ⟨ran, schema, rows, column, _, shipped, ended⟩ :=
        applyEach_spec run db.ledger.create migrations report
          { db with ledger := db.ledger.create }
      refine ⟨ran, ?_⟩
      cases looped : applyEach run db.ledger.create migrations report
          { db with ledger := db.ledger.create } with
      | mk reply after =>
          rw [looped] at schema rows column ended
          cases reply with
          | error failure =>
              refine ⟨schema, shipped, ⟨id, learns_id migrations, ?_⟩, ?_, ?_, ?_, ?_⟩
              · rw [List.map_id]
                exact rows
              · intro other isFailure
                cases isFailure
                exact applyEach_error (congrArg Prod.fst looped)
              all_goals
                intro report impossible
                cases impossible
          | ok final =>
              obtain ⟨applied, _, held⟩ := ended final rfl
              obtain ⟨change, learns, isChange, sameSchema⟩ :=
                learnClasses_rows migrations final after
              rw [rows] at isChange
              refine ⟨sameSchema.trans schema, shipped, ⟨change, learns, isChange⟩, ?_, ?_, ?_, ?_⟩
              · intro failure impossible
                cases impossible
              · intro report returned
                cases returned
                exact applied
              · intro report returned migration member
                exact (held migration member).imp_right And.left
              · intro report returned migration member declared row inRows sameVersion
                rcases held migration member with isRan | ⟨_, skipped⟩
                · have found := row_of_ran learns isChange isRan
                  have isRow : (learnClasses migrations final after).ledger.row row.version =
                      some row :=
                    Keyed.lookup_of_mem (learnClasses migrations final after).ledger.keys inRows
                  rw [sameVersion, found] at isRow
                  cases isRow
                  obtain ⟨stated, isStated⟩ := Option.ne_none_iff_exists'.mp declared
                  have recorded : (migration.row (run.clock migration.version)).olderCodeRuns =
                      some (stated == .olderCodeRuns) := by
                    simp [Migration.row, Migration.olderCodeRuns, isStated]
                  rw [(learns.keeps _).olderCodeRuns _ recorded]
                  exact Option.some_ne_none _
                · exact learnClasses_stated column skipped member declared inRows sameVersion

/-- A run: it stops before the database, is refused and applies nothing, or takes effect file by file. -/
theorem migrate_cases (sha256 : String → String) (run : MigrationRun) (db : Database) :
    (∃ failure, loadMigrations sha256 run.release = .error failure ∧
      migrate sha256 run db = (.error failure, db)) ∨
    ∃ migrations, loadMigrations sha256 run.release = .ok migrations ∧
      ((∃ failure, checkNewerSchema db (unknownVersions db.ledger migrations)
            run.allowNewerSchema = .error failure ∧
          migrate sha256 run db = (.error failure, { db with ledger := db.ledger.create })) ∨
        checkNewerSchema db (unknownVersions db.ledger migrations) run.allowNewerSchema = .ok () ∧
          ∃ ran, Ran run migrations db (migrate sha256 run db).1 (migrate sha256 run db).2 ran) := by
  unfold migrate
  cases loaded : loadMigrations sha256 run.release with
  | error failure => exact .inl ⟨failure, rfl, rfl⟩
  | ok migrations => exact .inr ⟨migrations, rfl, applyPending_cases run migrations db⟩

theorem Ran.versions {reply : Except MigrationFailure MigrationReport} {after : Database}
    {ran : List Migration} (isRun : Ran run migrations db reply after ran) :
    after.ledger.versions = db.ledger.versions ++ ran.map Migration.version := by
  obtain ⟨change, learns, rows⟩ := isRun.rows
  rw [Ledger.versions, rows, List.map_map, Ledger.versions]
  have sameVersion : LedgerRow.version ∘ change = LedgerRow.version := by
    funext row
    exact (learns.keeps row).version
  rw [sameVersion, List.map_append, List.map_map]
  rfl

/-- The ledger holds exactly the versions whose SQL took effect. -/
def Exact (db : Database) : Prop := db.ledger.versions = db.schema.map Migration.version

theorem exact_migrate (sha256 : String → String) (run : MigrationRun) (exact : Exact db) :
    Exact (migrate sha256 run db).2 := by
  rcases migrate_cases sha256 run db with ⟨failure, _, same⟩ | ⟨migrations, _, refused | ⟨_, ran, isRun⟩⟩
  · rw [same]
    exact exact
  · obtain ⟨failure, _, same⟩ := refused
    rw [same]
    exact exact
  · rw [Exact, isRun.versions, isRun.schema, exact, List.map_append]

theorem keeps_migrate (sha256 : String → String) (run : MigrationRun) {row : LedgerRow}
    (member : row ∈ db.ledger.rows) :
    ∃ next ∈ (migrate sha256 run db).2.ledger.rows, Keeps row next := by
  rcases migrate_cases sha256 run db with ⟨failure, _, same⟩ | ⟨migrations, _, refused | ⟨_, ran, isRun⟩⟩
  · rw [same]
    exact ⟨row, member, .refl row⟩
  · obtain ⟨failure, _, same⟩ := refused
    rw [same]
    exact ⟨row, member, .refl row⟩
  · obtain ⟨change, learns, rows⟩ := isRun.rows
    rw [rows]
    exact ⟨change row, List.mem_map_of_mem (List.mem_append_left _ member), learns.keeps row⟩

/-- Once a run returned, every file it ships is held. -/
theorem Ran.held_after {reply : Except MigrationFailure MigrationReport} {after : Database}
    {ran : List Migration} (isRun : Ran run migrations db reply after ran) {report : MigrationReport}
    (returned : reply = .ok report) {migration : Migration} (member : migration ∈ migrations) :
    Held after.ledger migration := by
  obtain ⟨change, learns, rows⟩ := isRun.rows
  have keeps := learns.keeps
  rcases isRun.held report returned migration member with isRan | ⟨row, found, same⟩
  · exact ⟨_, row_of_ran learns rows isRan, (keeps _).checksum⟩
  · have isVersion : row.version = migration.version := Keyed.key_of_lookup found
    have inRows : change row ∈ after.ledger.rows := by
      rw [rows]
      exact List.mem_map_of_mem (List.mem_append_left _ (Keyed.mem_of_lookup found))
    have isRow : after.ledger.row (change row).version = some (change row) :=
      Keyed.lookup_of_mem after.ledger.keys inRows
    rw [(keeps row).version, isVersion] at isRow
    exact ⟨change row, isRow, (keeps row).checksum.trans same⟩

/-- A run returns and applies nothing exactly where it is not refused and every file it ships is held. -/
theorem applyPending_idle_iff (run : MigrationRun) (migrations : List Migration) (db : Database) :
    (∃ report, (applyPending run migrations db).1 = .ok report ∧ report.applied = []) ↔
      checkNewerSchema db (unknownVersions db.ledger migrations) run.allowNewerSchema = .ok () ∧
        ∀ migration ∈ migrations, Held db.ledger migration := by
  constructor
  · intro idle
    obtain ⟨report, returned, applied⟩ := idle
    rcases applyPending_cases run migrations db with ⟨failure, _, same⟩ | ⟨checked, ran, isRun⟩
    · rw [same] at returned
      cases returned
    refine ⟨checked, ?_⟩
    intro migration member
    rw [isRun.applied report returned, List.map_eq_nil_iff] at applied
    rcases isRun.held report returned migration member with isRan | held
    · rw [applied] at isRan
      exact absurd isRan List.not_mem_nil
    · exact held
  · intro accepted
    obtain ⟨checked, held⟩ := accepted
    have heldCreated : ∀ migration ∈ migrations, Held db.ledger.create migration := held
    have sameUnknown : unknownVersions db.ledger.create migrations =
        unknownVersions db.ledger migrations := rfl
    unfold applyPending
    simp only [sameUnknown, checkNewerSchema_create, checked, applyEach_of_held heldCreated]
    exact ⟨_, rfl, rfl⟩

/-- `verifySchema` accepts exactly what `migrate` would leave alone. -/
theorem verifySchema_ok_iff (sha256 : String → String) (run : MigrationRun) (db : Database) :
    (∃ report, verifySchema sha256 run.release run.allowNewerSchema db = .ok report) ↔
      ∃ report, (migrate sha256 run db).1 = .ok report ∧ report.applied = [] := by
  unfold verifySchema migrate
  cases loaded : loadMigrations sha256 run.release with
  | error failure =>
      simp only
      constructor
      · intro impossible
        obtain ⟨_, impossible⟩ := impossible
        cases impossible
      · intro impossible
        obtain ⟨_, impossible, _⟩ := impossible
        cases impossible
  | ok migrations =>
      simp only
      rw [applyPending_idle_iff]
      unfold verifyShipped
      simp only
      cases checked : checkNewerSchema db (unknownVersions db.ledger migrations)
          run.allowNewerSchema with
      | error failure => simp
      | ok _ =>
          have idle := verifyEach_idle_iff db.ledger migrations [] []
          simp only [true_and] at idle ⊢
          rw [← idle]
          cases walked : verifyEach db.ledger migrations [] [] with
          | error failure => simp
          | ok found =>
              obtain ⟨pending, skipped⟩ := found
              cases pending with
              | nil => simp
              | cons version pending => simp

/-- Files that are held stay held. -/
theorem Held.migrate {migration : Migration} (held : Held db.ledger migration)
    (sha256 : String → String) (run : MigrationRun) :
    Held (migrate sha256 run db).2.ledger migration := by
  obtain ⟨row, found, same⟩ := held
  obtain ⟨next, inRows, keeps⟩ := keeps_migrate sha256 run (Keyed.mem_of_lookup found)
  have isRow : (Progress.migrate sha256 run db).2.ledger.row next.version = some next :=
    Keyed.lookup_of_mem (Progress.migrate sha256 run db).2.ledger.keys inRows
  have isVersion : row.version = migration.version := Keyed.key_of_lookup found
  rw [keeps.version, isVersion] at isRow
  exact ⟨next, isRow, keeps.checksum.trans same⟩

/-- A run that was not refused is not refused again. -/
theorem Ran.unrefused {reply : Except MigrationFailure MigrationReport} {after : Database}
    {ran : List Migration} (isRun : Ran run migrations db reply after ran)
    {allowNewerSchema : Bool}
    (checked : checkNewerSchema db (unknownVersions db.ledger migrations) allowNewerSchema = .ok ()) :
    checkNewerSchema after (unknownVersions after.ledger migrations) allowNewerSchema = .ok () := by
  have sameUnknown : unknownVersions after.ledger migrations =
      unknownVersions db.ledger migrations := by
    have noneMore : (ran.map Migration.version).filter (fun version =>
        !(migrations.map Migration.version).contains version) = [] := by
      apply List.filter_eq_nil_iff.mpr
      intro version member
      obtain ⟨migration, inRan, rfl⟩ := List.mem_map.mp member
      simpa using ⟨migration, isRun.shipped migration inRan, rfl⟩
    rw [unknownVersions, unknownVersions, isRun.versions, List.filter_append, noneMore,
      List.append_nil]
  rw [sameUnknown]
  rcases (checkNewerSchema_ok_iff ..).mp checked with noneUnknown | ⟨allowed, runnable⟩
  · exact (checkNewerSchema_ok_iff ..).mpr (.inl noneUnknown)
  apply (checkNewerSchema_ok_iff ..).mpr
  refine .inr ⟨allowed, ?_⟩
  intro row member isUnknown
  have unshipped := (mem_unknownVersions.mp isUnknown).2
  obtain ⟨change, learns, rows⟩ := isRun.rows
  rw [rows] at member
  obtain ⟨old, wasThere, rfl⟩ := List.mem_map.mp member
  rw [(learns.keeps old).version] at isUnknown unshipped
  rw [learns.others old unshipped]
  rcases List.mem_append.mp wasThere with inLedger | isNew
  · exact runnable old inLedger isUnknown
  · obtain ⟨migration, inRan, rfl⟩ := List.mem_map.mp isNew
    exact absurd (List.mem_map_of_mem (isRun.shipped migration inRan)) unshipped

/-- A release whose files are all held applies nothing. -/
theorem schema_of_held {sha256 : String → String}
    (loaded : loadMigrations sha256 run.release = .ok migrations)
    (held : ∀ migration ∈ migrations, Held db.ledger migration) :
    (migrate sha256 run db).2.schema = db.schema ∧
      ∀ report, (migrate sha256 run db).1 = .ok report → report.applied = [] := by
  unfold migrate
  rw [loaded]
  simp only
  rcases applyPending_cases run migrations db with ⟨failure, _, same⟩ | ⟨checked, ran, isRun⟩
  · rw [same]
    refine ⟨rfl, ?_⟩
    intro report impossible
    cases impossible
  · obtain ⟨report, returned, applied⟩ :=
      (applyPending_idle_iff run migrations db).mpr ⟨checked, held⟩
    have noneRan := isRun.applied report returned
    rw [applied] at noneRan
    have isEmpty := List.map_eq_nil_iff.mp noneRan.symm
    constructor
    · rw [isRun.schema, isEmpty, List.append_nil]
    · intro other isOther
      rw [isRun.applied other isOther, isEmpty]
      rfl

/-- A run refused for versions it does not ship applies nothing. -/
theorem unchanged_of_refused {sha256 : String → String} {failure : MigrationFailure}
    (failed : (migrate sha256 run db).1 = .error failure) (isNewer : failure.isNewerSchema = true) :
    (migrate sha256 run db).2.schema = db.schema ∧
      (migrate sha256 run db).2.ledger.rows = db.ledger.rows := by
  rcases migrate_cases sha256 run db with ⟨_, _, same⟩ | ⟨migrations, _, refused | ⟨_, ran, isRun⟩⟩
  · rw [same]
    exact ⟨rfl, rfl⟩
  · obtain ⟨_, _, same⟩ := refused
    rw [same]
    exact ⟨rfl, rfl⟩
  · rw [isRun.failed failure failed] at isNewer
    cases isNewer

/-- A version recorded as not runnable by older code refuses every run that does not ship it. -/
theorem refused_of_barred {sha256 : String → String} {row : LedgerRow}
    (member : row ∈ db.ledger.rows) (barred : row.olderCodeRuns = some false)
    (unshipped : ∀ migrations, loadMigrations sha256 run.release = .ok migrations →
      row.version ∉ migrations.map Migration.version) :
    (∃ failure, (migrate sha256 run db).1 = .error failure) ∧
      (migrate sha256 run db).2.schema = db.schema := by
  rcases migrate_cases sha256 run db with ⟨_, _, same⟩ | ⟨migrations, loaded, refused | ⟨checked, _⟩⟩
  · rw [same]
    exact ⟨⟨_, rfl⟩, rfl⟩
  · obtain ⟨_, _, same⟩ := refused
    rw [same]
    exact ⟨⟨_, rfl⟩, rfl⟩
  · exact absurd checked
      (checkNewerSchema_of_barred member barred (unshipped migrations loaded) _)

/-- What a run that returned did. -/
theorem ran_of_returned {sha256 : String → String} {report : MigrationReport}
    (returned : (migrate sha256 run db).1 = .ok report) :
    ∃ migrations ran, loadMigrations sha256 run.release = .ok migrations ∧
      checkNewerSchema db (unknownVersions db.ledger migrations) run.allowNewerSchema = .ok () ∧
      Ran run migrations db (migrate sha256 run db).1 (migrate sha256 run db).2 ran := by
  rcases migrate_cases sha256 run db with
    ⟨_, _, same⟩ | ⟨migrations, loaded, refused | ⟨checked, ran, isRun⟩⟩
  · rw [same] at returned
    cases returned
  · obtain ⟨_, _, same⟩ := refused
    rw [same] at returned
    cases returned
  · exact ⟨migrations, ran, loaded, checked, isRun⟩

end Run

/-! ### Every history of releases -/

section Histories

variable {sha256 : String → String} {db : Database}

theorem keeps_after {row : LedgerRow} (member : row ∈ db.ledger.rows) (later : List MigrationRun) :
    ∃ next ∈ ((migrator sha256).after db later).ledger.rows, Keeps row next := by
  induction later generalizing db row with
  | nil => exact ⟨row, member, .refl row⟩
  | cons run later ih =>
      obtain ⟨next, inRows, first⟩ := keeps_migrate sha256 run member
      obtain ⟨last, isLast, rest⟩ := ih inRows
      exact ⟨last, isLast, first.trans rest⟩

theorem held_after {migration : Migration} (held : Held db.ledger migration)
    (later : List MigrationRun) :
    Held ((migrator sha256).after db later).ledger migration :=
  Object.after_of_step (fun db : (migrator sha256).State => Held db.ledger migration)
    (fun _ run held => held.migrate sha256 run) held later

/-- After every history of runs, by any releases, from a database whose ledger is exact. Each version's
    SQL took effect once, and the ledger holds exactly those. What it recorded stays. A run refused for
    versions it does not ship applies nothing. After a run that returned, every shipped version that
    declares a class has one in the ledger, and the same release applies nothing again. A version
    recorded as not runnable by older code refuses every later run that does not ship it. And of any
    database, `verifySchema` accepts exactly what `migrate` would leave alone. -/
theorem migrations_run_once (sha256 : String → String) (start : Database) (exact : Exact start)
    (past : List MigrationRun) :
    let db := (migrator sha256).after start past
    (db.ledger.versions = db.schema.map Migration.version ∧
        (db.schema.map Migration.version).Nodup) ∧
      (∀ row ∈ db.ledger.rows, ∀ later,
        ∃ next ∈ ((migrator sha256).after db later).ledger.rows, next.version = row.version ∧
          next.checksum = row.checksum ∧
          ∀ runs, row.olderCodeRuns = some runs → next.olderCodeRuns = some runs) ∧
      (∀ run failure, (migrate sha256 run db).1 = .error failure → failure.isNewerSchema = true →
        (migrate sha256 run db).2.schema = db.schema ∧
          (migrate sha256 run db).2.ledger.rows = db.ledger.rows) ∧
      (∀ run report migrations, (migrate sha256 run db).1 = .ok report →
        loadMigrations sha256 run.release = .ok migrations →
        ∀ migration ∈ migrations, migration.rollback ≠ none →
          ∃ row, (migrate sha256 run db).2.ledger.row migration.version = some row ∧
            row.olderCodeRuns ≠ none) ∧
      (∀ row ∈ db.ledger.rows, row.olderCodeRuns = some false → ∀ later run,
        (∀ migrations, loadMigrations sha256 run.release = .ok migrations →
          row.version ∉ migrations.map Migration.version) →
        let reached := (migrator sha256).after db later
        (∃ failure, (migrate sha256 run reached).1 = .error failure) ∧
          (migrate sha256 run reached).2.schema = reached.schema) ∧
      (∀ run report, (migrate sha256 run db).1 = .ok report →
        ∀ between again, again.release = run.release →
          let reached := (migrator sha256).after (migrate sha256 run db).2 between
          (migrate sha256 again reached).2.schema = reached.schema ∧
            (∀ answer, (migrate sha256 again reached).1 = .ok answer → answer.applied = []) ∧
            (between = [] → again.allowNewerSchema = run.allowNewerSchema →
              ∃ answer, (migrate sha256 again reached).1 = .ok answer)) ∧
      ∀ (other : Database) run,
        (∃ report, verifySchema sha256 run.release run.allowNewerSchema other = .ok report) ↔
          ∃ report, (migrate sha256 run other).1 = .ok report ∧ report.applied = [] := by
  intro db
  have isExact : Exact db := Object.after_of_step (fun db : (migrator sha256).State => Exact db)
    (fun _ run exact => exact_migrate sha256 run exact) exact past
  refine ⟨⟨isExact, ?_⟩, ?_, ?_, ?_, ?_, ?_, ?_⟩
  · rw [← isExact]
    exact db.ledger.keys
  · intro row member later
    obtain ⟨next, inRows, keeps⟩ := keeps_after member later
    exact ⟨next, inRows, keeps.version, keeps.checksum, keeps.olderCodeRuns⟩
  · intro run failure failed isNewer
    exact unchanged_of_refused failed isNewer
  · intro run report migrations returned loaded migration member declared
    obtain ⟨shipped, ran, isLoaded, _, isRun⟩ := ran_of_returned returned
    rw [loaded] at isLoaded
    cases isLoaded
    obtain ⟨row, found, _⟩ := isRun.held_after returned member
    exact ⟨row, found, isRun.stated report returned migration member declared row
      (Keyed.mem_of_lookup found) (Keyed.key_of_lookup found)⟩
  · intro row member barred later run unshipped reached
    obtain ⟨next, inRows, keeps⟩ := keeps_after member later
    apply refused_of_barred inRows (keeps.olderCodeRuns false barred)
    rw [keeps.version]
    exact unshipped
  · intro run report returned between again sameRelease reached
    obtain ⟨migrations, ran, loaded, checked, isRun⟩ := ran_of_returned returned
    have held : ∀ migration ∈ migrations, Held reached.ledger migration := by
      intro migration member
      exact held_after (isRun.held_after returned member) between
    rw [← sameRelease] at loaded
    obtain ⟨schema, applied⟩ := schema_of_held loaded held
    refine ⟨schema, applied, ?_⟩
    intro isNext sameOption
    have unrefused := isRun.unrefused checked
    rw [← sameOption] at unrefused
    have isReached : reached = (migrate sha256 run db).2 := by
      simp only [reached, isNext, Object.after]
    rw [isReached] at held ⊢
    obtain ⟨answer, isAnswer, _⟩ :=
      (applyPending_idle_iff again migrations (migrate sha256 run db).2).mpr ⟨unrefused, held⟩
    refine ⟨answer, ?_⟩
    rw [migrate, loaded]
    exact isAnswer
  · intro other run
    exact verifySchema_ok_iff sha256 run other

end Histories

/-! ### A concrete release -/

/-- A file that older code cannot run on. -/
def someSql : String := "-- rollback: restore-required\nCREATE TABLE a ();\n"

/-- The digest of that file, and of an empty one. -/
def someSha256 (text : String) : String :=
  if text = someSql then "24491531f05b64264c0188826bd8f2eee5702079294cc257adbd1f4142e7c306"
  else "e3b0c44298fc1c149afbf4c8996fb92427ae41e4649b934ca495991b7852b855"

def newRelease : MigrationRun where
  release := ⟨"migrations", .ok [⟨"011_a.sql", .ok someSql⟩]⟩
  allowNewerSchema := false
  fails := fun _ => none
  clock := fun _ => 0

/-- A release that does not ship it, and would run on anything. -/
def oldRelease : MigrationRun where
  release := ⟨"migrations", .ok [⟨"010_a.sql", .ok ""⟩]⟩
  allowNewerSchema := true
  fails := fun _ => none
  clock := fun _ => 0

def noDatabase : Database := ⟨textLe, .missing, []⟩

theorem migrations_run_once_restoreRequired :
    let db := (migrator someSha256).after noDatabase [newRelease]
    db.ledger.versions = ["011_a"] ∧ db.schema.map Migration.version = ["011_a"] ∧
      ∃ failure, (migrate someSha256 oldRelease db).1 = .error failure := by
  intro db
  have isVersions : db.ledger.versions = ["011_a"] := by decide +kernel
  have member : (⟨"011_a", someSha256 someSql, 0, some false⟩ : LedgerRow) ∈ db.ledger.rows := by
    decide +kernel
  have loaded : loadMigrations someSha256 oldRelease.release = .ok
      [⟨"010_a", "010_a.sql", "", someSha256 "", none⟩] := by
    decide +kernel
  obtain ⟨⟨exact, _⟩, _, _, _, refused, _, _⟩ :=
    migrations_run_once someSha256 noDatabase rfl [newRelease]
  refine ⟨isVersions, exact.symm.trans isVersions, ?_⟩
  apply (refused _ member rfl [] oldRelease _).1
  intro migrations isLoaded
  rw [loaded] at isLoaded
  cases isLoaded
  decide

end JumptotechLabs.Progress
