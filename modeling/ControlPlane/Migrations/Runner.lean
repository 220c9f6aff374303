import ControlPlane.Library.Runs
import ControlPlane.Migrations.SqlText

/-! The migration runner of a tenant's database, one D1 call at a time. The engine that runs the
SQL of a migration is a parameter; which migrations it ran is kept beside the tracking table.
-/

namespace ControlPlane.Migrations

open ControlPlane.Library

/-- One bundled migration: the filename it is tracked by, and its SQL. -/
structure StudioMigration where
  name : String
  sql : String
  deriving DecidableEq, Repr

/-- The text that is sent for a migration. -/
def StudioMigration.statements (migration : StudioMigration) : String :=
  stripSqlComments migration.sql

/-- A comment-only file has nothing to run. -/
def StudioMigration.HasStatements (migration : StudioMigration) : Prop :=
  migration.statements ≠ ""

instance (migration : StudioMigration) : Decidable migration.HasStatements :=
  inferInstanceAs (Decidable (migration.statements ≠ ""))

/-- The migrations of a release, each under a name of its own that SQL can quote. -/
structure StudioMigrationSet where
  migrations : List StudioMigration
  distinct : (migrations.map StudioMigration.name).Nodup
  quotable : ∀ migration ∈ migrations, '\'' ∉ migration.name.toList

/-- No migrations. -/
def StudioMigrationSet.empty : StudioMigrationSet where
  migrations := []
  distinct := List.nodup_nil
  quotable := by simp

def ADOPTED_PROBE_TABLE : String := "cast_members"

/-- The queries of the runner: TRACKING_DDL, the read of the tracking table, the probe of
sqlite_master, INSERT OR IGNORE of names, and the statements of a migration.
-/
inductive D1Query
  | trackingDdl
  | selectRecorded
  | probe (table : String)
  | record (names : List String)
  | statements (migration : StudioMigration)
  deriving DecidableEq, Repr

/-- What D1 answers: one entry per statement, each with the names of its rows. An answer or an
entry of another shape is none.
-/
abbrev D1Answer := Option (List (Option (List String)))

/-- The rows of all entries. A shape that is not recognised yields no rows. -/
def rowsOf (raw : D1Answer) : List String :=
  (raw.getD []).flatMap fun entry => entry.getD []

/-- SQLite over the studio's tables. Text that it refuses has no result, and changes nothing. -/
structure Sqlite (σ : Type) where
  run : σ → String → Option σ
  hasTable : σ → String → Bool

/-- One tenant database: the studio's tables, the names in schema_migrations if that table is
there, and the migrations that were executed, in order.
-/
structure StudioDatabase (σ : Type) where
  schema : σ
  schemaMigrations : Option (List String)
  executed : List StudioMigration
  deriving DecidableEq, Repr

variable {σ : Type} (sqlite : Sqlite σ)

/-- The names in the tracking table. -/
def StudioDatabase.recorded (database : StudioDatabase σ) : List String :=
  database.schemaMigrations.getD []

/-- INSERT OR IGNORE of one name. -/
def insertName (rows : List String) (name : String) : List String :=
  if name ∈ rows then rows else rows ++ [name]

@[simp]
theorem mem_insertName {rows : List String} {name other : String}
    : other ∈ insertName rows name ↔ other ∈ rows ∨ other = name := by
  unfold insertName
  split
  next present =>
    refine ⟨.inl, ?_⟩
    intro h
    rcases h with found | rfl
    · exact found
    · exact present
  next => simp

/-- The tracking table after an insert has the old names and the new ones, by induction on the
names.
-/
theorem mem_foldl_insertName {rows names : List String} {other : String}
    : other ∈ names.foldl insertName rows ↔ other ∈ rows ∨ other ∈ names := by
  induction names generalizing rows with
  | nil => simp
  | cons name rest ih => rw [List.foldl_cons, ih, mem_insertName, List.mem_cons, or_assoc]

/-- One D1 call. It is atomic, and has no result when the engine refuses it. -/
def StudioDatabase.queryD1 (database : StudioDatabase σ)
    : D1Query → Option (StudioDatabase σ × D1Answer)
  | .trackingDdl =>
      some ({ database with schemaMigrations := some database.recorded }, some [some []])
  | .selectRecorded =>
      database.schemaMigrations.map fun names => (database, some [some names])
  | .probe table =>
      some (database, some [some (if sqlite.hasTable database.schema table then [table] else [])])
  | .record names =>
      database.schemaMigrations.map fun rows =>
        ({ database with schemaMigrations := some (names.foldl insertName rows) },
          some [some []])
  | .statements migration =>
      (sqlite.run database.schema migration.statements).map fun schema =>
        ({ database with
            schema := schema
            executed := database.executed ++ [migration] },
          some [some []])

theorem queryD1_selectRecorded {database : StudioDatabase σ} {rows : List String}
    (tracked : database.schemaMigrations = some rows)
    : database.queryD1 sqlite .selectRecorded
      = some (database, some [some database.recorded]) := by
  rw [StudioDatabase.queryD1, StudioDatabase.recorded, tracked]
  rfl

theorem queryD1_record {database : StudioDatabase σ} {rows names : List String}
    (tracked : database.schemaMigrations = some rows)
    : database.queryD1 sqlite (.record names)
      = some
          ({ database with
              schemaMigrations := some (names.foldl insertName database.recorded) },
            some [some []]) := by
  rw [StudioDatabase.queryD1, StudioDatabase.recorded, tracked]
  rfl

/-- What a run of applyStudioMigrations reports. -/
structure MigrationReport where
  applied : List String
  seeded : List String
  deriving DecidableEq, Repr

/-- A run of applyStudioMigrations over a list, by the D1 call it makes next. -/
inductive Migrator
  | ensuring (migrations : List StudioMigration)
  | reading (migrations : List StudioMigration)
  | probing (migrations : List StudioMigration)
  | seeding (migrations : List StudioMigration)
  | executing (migrations : List StudioMigration) (already applied : List String)
      (migration : StudioMigration) (rest : List StudioMigration)
  | recording (migrations : List StudioMigration) (already applied : List String)
      (migration : StudioMigration) (rest : List StudioMigration)
  | returned (migrations : List StudioMigration) (report : MigrationReport)
  deriving DecidableEq, Repr

/-- The loop over the migrations, up to its next D1 call. -/
def applyForward (migrations : List StudioMigration) (already applied : List String)
    : List StudioMigration → Migrator
  | [] => .returned migrations { applied := applied, seeded := [] }
  | migration :: rest =>
      if migration.name ∈ already then applyForward migrations already applied rest
      else if migration.HasStatements then
        .executing migrations already applied migration rest
      -- a comment-only file is still recorded
      else .recording migrations already applied migration rest

/-- (recordNames names) inserts names into the tracking table; a name with a quote throws. -/
def recordNames (names : List String) : Except String D1Query :=
  (names.mapM sqlString).map fun _ => .record names

/-- Names without quotes are inserted, by induction on them. -/
theorem recordNames_ok {names : List String}
    (quotable : ∀ name ∈ names, '\'' ∉ name.toList)
    : recordNames names = .ok (.record names) := by
  have quoted : ∃ texts, names.mapM sqlString = .ok texts := by
    induction names with
    | nil => exact ⟨[], rfl⟩
    | cons name rest ih =>
        obtain ⟨texts, done⟩ := ih fun other member => quotable other (List.mem_cons_of_mem _ member)
        refine ⟨("'" ++ name ++ "'") :: texts, ?_⟩
        rw [List.mapM_cons, done, sqlString, if_neg (quotable name List.mem_cons_self)]
        rfl
  obtain ⟨texts, done⟩ := quoted
  rw [recordNames, done]
  rfl

/-- What recordNames builds is that insert. -/
theorem recordNames_eq_ok {names : List String} {query : D1Query}
    (built : recordNames names = .ok query)
    : query = .record names := by
  cases quoted : names.mapM sqlString with
  | error message =>
      rw [recordNames, quoted] at built
      cases built
  | ok texts =>
      rw [recordNames, quoted] at built
      cases built
      rfl

/-- The next D1 call of a run, or what it throws instead. -/
def Migrator.next : Migrator → Option (Except String D1Query)
  | .ensuring _ => some (.ok .trackingDdl)
  | .reading _ => some (.ok .selectRecorded)
  | .probing _ => some ((sqlString ADOPTED_PROBE_TABLE).map fun _ => .probe ADOPTED_PROBE_TABLE)
  | .seeding migrations => some (recordNames (migrations.map StudioMigration.name))
  | .executing _ _ _ migration _ => some (.ok (.statements migration))
  | .recording _ _ _ migration _ => some (recordNames [migration.name])
  | .returned _ _ => none

/-- The name of the probe table can be quoted. -/
@[simp]
theorem next_probing (migrations : List StudioMigration)
    : (Migrator.probing migrations).next = some (.ok (.probe ADOPTED_PROBE_TABLE)) := by
  have quotable : '\'' ∉ ADOPTED_PROBE_TABLE.toList := by decide
  rw [Migrator.next, sqlString, if_neg quotable]
  rfl

/-- Where a run goes when its call is answered. -/
def Migrator.answered (raw : D1Answer) : Migrator → Migrator
  | .ensuring migrations => .reading migrations
  | .reading migrations =>
      let already := rowsOf raw
      if already = [] ∧ migrations ≠ [] then .probing migrations
      else applyForward migrations already [] migrations
  | .probing migrations =>
      if rowsOf raw ≠ [] then .seeding migrations else applyForward migrations [] [] migrations
  | .seeding migrations =>
      .returned migrations { applied := [], seeded := migrations.map StudioMigration.name }
  | .executing migrations already applied migration rest =>
      .recording migrations already applied migration rest
  | .recording migrations already applied migration rest =>
      applyForward migrations already (applied ++ [migration.name]) rest
  | .returned migrations report => .returned migrations report

-----------------------------------------------------------------------------------------
-- Runs after each other on one database
-----------------------------------------------------------------------------------------

/-- A database, the release of the latest run, and that run unless it died. -/
structure Studio (σ : Type) where
  database : StudioDatabase σ
  release : StudioMigrationSet
  run : Option Migrator

/-- An empty database, before the first run. -/
def Studio.fresh (schema : σ) : Studio σ where
  database := { schema := schema, schemaMigrations := none, executed := [] }
  release := .empty
  run := none

/-- A run of a release starts; the current run makes its next call; the current run dies. -/
inductive MigrationAction
  | start (release : StudioMigrationSet)
  | call
  | die

/-- One action. A run starts when no other is at work, over a release that extends the one before.
A call that throws or is refused ends its run.
-/
def Studio.step (studio : Studio σ) : MigrationAction → Option (Studio σ)
  | .start release =>
      if (studio.run.bind Migrator.next).isNone
          ∧ studio.release.migrations <+: release.migrations then
        some { studio with
          release := release
          run := some (.ensuring release.migrations) }
      else none
  | .call =>
      studio.run.bind fun run =>
        run.next.map fun query =>
          match query with
          | .error _ => { studio with run := none }
          | .ok query =>
              match studio.database.queryD1 sqlite query with
              | none => { studio with run := none }
              | some (database, raw) =>
                  { studio with database := database, run := some (run.answered raw) }
  | .die => studio.run.map fun _ => { studio with run := none }

end ControlPlane.Migrations
