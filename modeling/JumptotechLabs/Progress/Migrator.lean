/-
Module: JumptotechLabs.Progress.Migrator
Layer: Progress (services/progress/src/postgres/migrator.ts)
Purpose: The schema's migrations: what a release ships, the ledger of what a database has run, `migrate`,
  which applies what is missing, and `verifySchema`, which only looks. A run holds the advisory lock, so
  runs follow one another; each file's SQL and its ledger row are one transaction.
Main exports: Migration, MigrationFailure, Release, loadMigrations, Ledger, Database, checkNewerSchema,
  applyPending, MigrationRun, migrate, verifySchema, migrator
-/
import JumptotechLabs.Access.Entitlements
import JumptotechLabs.Core.Keyed
import JumptotechLabs.Core.Object

namespace JumptotechLabs.Progress

open JumptotechLabs.Access (Instant)
open JumptotechLabs.Core

/-! ### Texts -/

/-- The UTF-16 code units of a text, by which `sort` compares. -/
def codeUnits (text : String) : List Nat :=
  text.toList.flatMap fun c =>
    if c.toNat < 0x10000 then [c.toNat]
    else [0xD800 + (c.toNat - 0x10000) / 0x400, 0xDC00 + (c.toNat - 0x10000) % 0x400]

def unitsLe : List Nat → List Nat → Bool
  | [], _ => true
  | _ :: _, [] => false
  | a :: as, b :: bs => decide (a < b) || (a == b && unitsLe as bs)

/-- The order of `Array.prototype.sort` on texts. -/
def textLe (a b : String) : Bool := unitsLe (codeUnits a) (codeUnits b)

/-- `MIGRATION_FILE_PATTERN`: `NNN_lower_snake_case.sql`. -/
def isMigrationFile (filename : String) : Bool :=
  let chars := filename.toList
  let isNameChar := fun c : Char => ('a' ≤ c && c ≤ 'z') || c.isDigit || c == '_' || c == '-'
  match chars.dropWhile Char.isDigit with
  | '_' :: name =>
      decide (3 ≤ (chars.takeWhile Char.isDigit).length) &&
        !(name.takeWhile isNameChar).isEmpty && name.dropWhile isNameChar == ".sql".toList
  | _ => false

/-- `filename.endsWith('.sql')`. -/
def endsInSql (filename : String) : Bool := ".sql".toList.isSuffixOf filename.toList

/-- `filename.replace(/\.sql$/, '')`, of a file that ends so. -/
def versionOf (filename : String) : String := String.ofList (filename.toList.dropLast.dropLast.dropLast.dropLast)

/-! ### What a release ships -/

/-- Can the release before a migration run on the schema it leaves? -/
inductive RollbackClass where
  | olderCodeRuns
  | restoreRequired
deriving DecidableEq, Inhabited

def RollbackClass.word : RollbackClass → String
  | .olderCodeRuns => "older-code-runs"
  | .restoreRequired => "restore-required"

/-- A character that ends a line in a multiline regular expression. -/
def isLineTerminator (c : Char) : Bool :=
  c == '\n' || c == '\r' || c == '\u2028' || c == '\u2029'

/-- The class a line states: `-- rollback: ` and the word, then only blanks and tabs. -/
def classOfLine (line : List Char) : Option RollbackClass :=
  [RollbackClass.olderCodeRuns, .restoreRequired].find? fun stated =>
    let header := ("-- rollback: " ++ stated.word).toList
    header.isPrefixOf line && (line.drop header.length).all fun c => c == ' ' || c == '\t'

/-- `ROLLBACK_HEADER`: the first line of the file that states a class. -/
def rollbackHeader (sql : String) : Option RollbackClass :=
  (sql.toList.splitOnP isLineTerminator).findSome? classOfLine

/-- `ROLLBACK_CLASS_BEFORE_HEADERS`. -/
def rollbackClassBeforeHeaders (version : String) : Option RollbackClass :=
  if version = "010_billing" then some .restoreRequired
  else if version ∈ ["001_progress", "002_sessions", "003_users_and_ownership", "004_auth_sessions",
      "005_session_recovery", "006_access_entitlements", "007_session_shell_uid", "008_session_events",
      "009_access_plans_and_kinds"] then some .olderCodeRuns
  else none

structure Migration where
  version : String
  filename : String
  sql : String
  checksum : String
  rollback : Option RollbackClass
deriving DecidableEq, Inhabited

/-- `olderCodeRuns`: what the ledger records of a migration. -/
def Migration.olderCodeRuns (migration : Migration) : Option Bool :=
  migration.rollback.map fun stated => stated == .olderCodeRuns

/-- An entry of the migrations directory: its text, or the error of reading it. -/
structure MigrationFile where
  filename : String
  sql : Except String String

/-- The migrations directory of a release: its entries, or the error of reading it. -/
structure Release where
  dir : String
  entries : Except String (List MigrationFile)

/-! ### Failures -/

/-- What a run throws: a `MigrationError`, or the error of a file that cannot be read. -/
inductive MigrationFailure where
  | unreadableDirectory (dir cause : String)
  | unreadableFile (cause : String)
  | misnamed (filename : String)
  | noMigrations (dir : String)
  | newerSchema (unknown : List String)
  | restoreRequired (barred : List String)
  | modified (filename : String)
  | failed (filename cause : String)
  | pendingMigrations (pending : List String)
deriving DecidableEq, Inhabited

/-- The text of the error. -/
def MigrationFailure.message : MigrationFailure → String
  | .unreadableDirectory dir cause =>
      "Cannot read the migrations directory " ++ dir ++ ": " ++ cause
  | .unreadableFile cause => cause
  | .misnamed filename => "Migration " ++ filename ++ " is not named NNN_lower_snake_case.sql"
  | .noMigrations dir => "No migrations found in " ++ dir
  | .newerSchema unknown =>
      "The database records migration(s) this release does not ship: " ++
        String.intercalate ", " unknown ++
        ". It was migrated by a newer release, and this code was not written for that schema."
  | .restoreRequired barred =>
      "The database records migration(s) this release does not ship: " ++
        String.intercalate ", " barred ++
        ", and the release that applied them recorded that older code cannot run on the schema they " ++
        "leave (rollback: restore-required)."
  | .modified filename => "Migration " ++ filename ++ " was modified after it was applied."
  | .failed filename cause => "Migration " ++ filename ++ " failed: " ++ cause
  | .pendingMigrations pending =>
      "DATABASE_AUTO_MIGRATE is off and the database lacks migration(s) this release needs: " ++
        String.intercalate ", " pending ++ "."

/-- A refusal for versions the release does not ship. -/
def MigrationFailure.isNewerSchema : MigrationFailure → Bool
  | .newerSchema _ | .restoreRequired _ => true
  | _ => false

/-! ### Loading -/

section Load

variable (sha256 : String → String)

/-- One entry of the directory: a migration, or nothing of interest. -/
def loadFile (file : MigrationFile) : Except MigrationFailure (Option Migration) :=
  if isMigrationFile file.filename then
    match file.sql with
    | .error cause => .error (.unreadableFile cause)
    | .ok sql =>
        .ok (some
          { version := versionOf file.filename
            filename := file.filename
            sql := sql
            checksum := sha256 sql
            rollback := (rollbackHeader sql).or
              (rollbackClassBeforeHeaders (versionOf file.filename)) })
  else if endsInSql file.filename then .error (.misnamed file.filename)
  else .ok none

/-- The loop of `loadMigrations`. -/
def loadFiles : List MigrationFile → Except MigrationFailure (List Migration)
  | [] => .ok []
  | file :: files => do
      let migration ← loadFile sha256 file
      let migrations ← loadFiles files
      return migration.toList ++ migrations

/-- What a release ships, in the order of its file names. -/
def loadMigrations (release : Release) : Except MigrationFailure (List Migration) :=
  match release.entries with
  | .error cause => .error (.unreadableDirectory release.dir cause)
  | .ok files =>
      match loadFiles sha256 (files.mergeSort fun a b => textLe a.filename b.filename) with
      | .error failure => .error failure
      | .ok migrations =>
          if migrations.isEmpty then .error (.noMigrations release.dir) else .ok migrations

end Load

/-! ### The ledger -/

/-- A row of `schema_migrations`. -/
structure LedgerRow where
  version : String
  checksum : String
  appliedAt : Instant
  /-- Not stated: the row is from before the column. -/
  olderCodeRuns : Option Bool
deriving DecidableEq, Inhabited

/-- `schema_migrations`: does it exist, and has it the column `older_code_runs`? -/
structure Ledger where
  created : Bool
  hasColumn : Bool
  rows : List LedgerRow
  keys : Keyed.Distinct LedgerRow.version rows
  empty_of_missing : created = false → rows = []
  unstated_of_missing : hasColumn = false → ∀ row ∈ rows, row.olderCodeRuns = none

/-- A database: its collation, its ledger, and the files whose SQL took effect, in order. -/
structure Database where
  collation : String → String → Bool
  ledger : Ledger
  schema : List Migration

namespace Ledger

/-- No table. -/
def missing : Ledger := ⟨false, false, [], .nil, fun _ => rfl, fun _ _ member => nomatch member⟩

/-- `CREATE TABLE IF NOT EXISTS`, `ADD COLUMN IF NOT EXISTS`. -/
def create (ledger : Ledger) : Ledger :=
  { ledger with
    created := true
    hasColumn := true
    empty_of_missing := fun impossible => nomatch impossible
    unstated_of_missing := fun impossible => nomatch impossible }

def row (ledger : Ledger) (version : String) : Option LedgerRow :=
  Keyed.lookup LedgerRow.version version ledger.rows

def versions (ledger : Ledger) : List String := ledger.rows.map LedgerRow.version

/-- What a later release states of rows that state nothing. -/
def learned (known : List Migration) (row : LedgerRow) : LedgerRow :=
  match row.olderCodeRuns, known.find? (·.version == row.version) with
  | none, some migration => { row with olderCodeRuns := migration.olderCodeRuns }
  | _, _ => row

theorem learned_version (known : List Migration) (row : LedgerRow) :
    (learned known row).version = row.version := by
  unfold learned
  split
  · rfl
  · rfl

/-- `UPDATE schema_migrations … WHERE m.older_code_runs IS NULL`. -/
def learn (ledger : Ledger) (known : List Migration) (hasColumn : ledger.hasColumn = true) :
    Ledger :=
  { ledger with
    rows := ledger.rows.map (learned known)
    keys := by
      have sameKeys : (ledger.rows.map (learned known)).map LedgerRow.version =
          ledger.rows.map LedgerRow.version := by
        rw [List.map_map]
        exact List.map_congr_left fun row _ => learned_version known row
      rw [Keyed.Distinct, sameKeys]
      exact ledger.keys
    empty_of_missing := by
      intro missing
      rw [ledger.empty_of_missing missing]
      rfl
    unstated_of_missing := by
      intro missing
      rw [hasColumn] at missing
      cases missing }

end Ledger

/-! ### Runs -/

structure MigrationReport where
  applied : List String
  skipped : List String
  unknown : List String
  initialized : Bool
  ledgerStartedAt : Option Instant
deriving DecidableEq, Inhabited

/-- One run: the release, its option, how each file's SQL fares (an error's text, or none), and when each
    file's transaction begins. -/
structure MigrationRun where
  release : Release
  allowNewerSchema : Bool
  fails : String → Option String
  clock : String → Instant

/-- The versions in the ledger that are not shipped. -/
def unknownVersions (ledger : Ledger) (migrations : List Migration) : List String :=
  (ledger.versions.filter fun version => !(migrations.map Migration.version).contains version).mergeSort
    textLe

/-- Which of the unknown versions were recorded as `restore-required`? A ledger without the column
    answers nothing. -/
def versionsOlderCodeCannotRun (db : Database) (unknown : List String) : List String :=
  if db.ledger.hasColumn then
    ((db.ledger.rows.filter fun row =>
      unknown.contains row.version && row.olderCodeRuns == some false).map
        LedgerRow.version).mergeSort db.collation
  else []

/-- Refuse when the ledger holds versions this release does not ship. -/
def checkNewerSchema (db : Database) (unknown : List String) (allowNewerSchema : Bool) :
    Except MigrationFailure Unit :=
  if unknown.isEmpty then .ok ()
  else if !allowNewerSchema then .error (.newerSchema unknown)
  else
    let barred := versionsOlderCodeCannotRun db unknown
    if barred.isEmpty then .ok () else .error (.restoreRequired barred)

/-- The row a migration is recorded by. -/
def Migration.row (migration : Migration) (time : Instant) : LedgerRow where
  version := migration.version
  checksum := migration.checksum
  appliedAt := time
  olderCodeRuns := migration.olderCodeRuns

/-- One file's transaction: its SQL and its ledger row, or neither. -/
def applyOne (run : MigrationRun) (db : Database) (migration : Migration) :
    Except String Database :=
  match run.fails migration.version with
  | some cause => .error cause
  | none =>
      if isNew : db.ledger.row migration.version = none then
        if made : db.ledger.created = true ∧ db.ledger.hasColumn = true then
          .ok
            { db with
              schema := db.schema ++ [migration]
              ledger :=
                { db.ledger with
                  rows := db.ledger.rows ++ [migration.row (run.clock migration.version)]
                  keys := db.ledger.keys.append isNew
                  empty_of_missing := by
                    intro missing
                    rw [made.1] at missing
                    cases missing
                  unstated_of_missing := by
                    intro missing
                    rw [made.2] at missing
                    cases missing } }
        else .error "relation \"schema_migrations\" does not exist"
      else .error "duplicate key value violates unique constraint \"schema_migrations_pkey\""

/-- The loop of `applyPending`, over what the ledger held before it. -/
def applyEach (run : MigrationRun) (known : Ledger) :
    List Migration → MigrationReport → Database → Except MigrationFailure MigrationReport × Database
  | [], report, db => (.ok report, db)
  | migration :: rest, report, db =>
      match known.row migration.version with
      | some row =>
          if row.checksum ≠ migration.checksum then (.error (.modified migration.filename), db)
          else
            applyEach run known rest
              { report with skipped := report.skipped ++ [migration.version] } db
      | none =>
          match applyOne run db migration with
          | .error cause => (.error (.failed migration.filename cause), db)
          | .ok next =>
              applyEach run known rest
                { report with applied := report.applied ++ [migration.version] } next

/-- Rows from before the column learn their class from this release. -/
def learnClasses (migrations : List Migration) (report : MigrationReport) (db : Database) :
    Database :=
  let known := migrations.filter fun migration => migration.rollback.isSome
  if hasColumn : db.ledger.hasColumn = true then
    if report.skipped.isEmpty || known.isEmpty then db
    else { db with ledger := db.ledger.learn known hasColumn }
  else db

def applyPending (run : MigrationRun) (migrations : List Migration) (db : Database) :
    Except MigrationFailure MigrationReport × Database :=
  let created := { db with ledger := db.ledger.create }
  let unknown := unknownVersions created.ledger migrations
  match checkNewerSchema created unknown run.allowNewerSchema with
  | .error failure => (.error failure, created)
  | .ok () =>
      let report : MigrationReport :=
        { applied := []
          skipped := []
          unknown := unknown
          initialized := created.ledger.rows.isEmpty
          ledgerStartedAt := none }
      match applyEach run created.ledger migrations report created with
      | (.error failure, after) => (.error failure, after)
      | (.ok report, after) =>
          let learnt := learnClasses migrations report after
          (.ok { report with ledgerStartedAt := (learnt.ledger.rows.map LedgerRow.appliedAt).min? },
            learnt)

/-- Apply every migration this database has not seen. -/
def migrate (sha256 : String → String) (run : MigrationRun) (db : Database) :
    Except MigrationFailure MigrationReport × Database :=
  match loadMigrations sha256 run.release with
  | .error failure => (.error failure, db)
  | .ok migrations => applyPending run migrations db

/-- The migrator, run after run. -/
abbrev migrator (sha256 : String → String) :
    Object MigrationRun (Except MigrationFailure MigrationReport) where
  State := Database
  step := fun db run => migrate sha256 run db

/-! ### Looking only -/

/-- The loop of `verifySchema`: what is missing and what is there. -/
def verifyEach (ledger : Ledger) :
    List Migration → List String → List String → Except MigrationFailure (List String × List String)
  | [], pending, skipped => .ok (pending, skipped)
  | migration :: rest, pending, skipped =>
      match ledger.row migration.version with
      | none => verifyEach ledger rest (pending ++ [migration.version]) skipped
      | some row =>
          if row.checksum ≠ migration.checksum then .error (.modified migration.filename)
          else verifyEach ledger rest pending (skipped ++ [migration.version])

/-- `verifySchema`, of what the release ships. -/
def verifyShipped (migrations : List Migration) (allowNewerSchema : Bool) (db : Database) :
    Except MigrationFailure MigrationReport :=
  let unknown := unknownVersions db.ledger migrations
  match checkNewerSchema db unknown allowNewerSchema with
  | .error failure => .error failure
  | .ok () =>
      match verifyEach db.ledger migrations [] [] with
      | .error failure => .error failure
      | .ok (pending, skipped) =>
          if pending.isEmpty then
            .ok
              { applied := []
                skipped := skipped
                unknown := unknown
                initialized := false
                ledgerStartedAt := none }
          else .error (.pendingMigrations pending)

/-- Check, without changing anything, that this release can run on the schema it finds. -/
def verifySchema (sha256 : String → String) (release : Release) (allowNewerSchema : Bool)
    (db : Database) : Except MigrationFailure MigrationReport :=
  match loadMigrations sha256 release with
  | .error failure => .error failure
  | .ok migrations => verifyShipped migrations allowNewerSchema db

end JumptotechLabs.Progress
