import ControlPlane.Migrations.Runner

/-! Migration runs of several releases on one database, any of whose calls may come between those of
another. A run that returns has applied its list, unless a seeding once recorded what was not
applied.
-/

namespace ControlPlane.StudioUpgrade

open ControlPlane.Migrations

variable {σ : Type}

/-- A migration is in the database: it was executed, or it has nothing to execute. -/
def Applied (database : StudioDatabase σ) (migration : StudioMigration) : Prop :=
  migration.HasStatements → migration ∈ database.executed

instance (database : StudioDatabase σ) (migration : StudioMigration)
    : Decidable (Applied database migration) :=
  inferInstanceAs (Decidable (migration.HasStatements → migration ∈ database.executed))

/-- A bundle, as far as its schema and its assets go. -/
structure StudioBundle where
  migrations : StudioMigrationSet
  shipsAssets : Bool

/-- The releases of the mirror. Shipped migrations are immutable: a name stands for one migration in
all of them.
-/
structure Releases where
  bundle : String → Option StudioBundle
  immutable
    : ∀ {first second : String} {one other : StudioBundle},
        bundle first = some one → bundle second = some other
        → ∀ migration ∈ one.migrations.migrations, ∀ found ∈ other.migrations.migrations,
            migration.name = found.name → migration = found

/-- A migration of some release. -/
def Releases.Ships (releases : Releases) (migration : StudioMigration) : Prop :=
  ∃ release bundle, releases.bundle release = some bundle
    ∧ migration ∈ bundle.migrations.migrations

/-- The names stand for migrations that are in the database. -/
def KnownApplied (releases : Releases) (database : StudioDatabase σ) (names : List String) : Prop :=
  ∀ migration, releases.Ships migration → migration.name ∈ names → Applied database migration

theorem Releases.Ships.eq {releases : Releases} {migration found : StudioMigration}
    (ships : releases.Ships migration) (also : releases.Ships found)
    (same : migration.name = found.name)
    : migration = found := by
  obtain ⟨first, one, isOne, member⟩ := ships
  obtain ⟨second, other, isOther, alsoMember⟩ := also
  exact releases.immutable isOne isOther migration member found alsoMember same

/-- What a place of a run of a list vouches for: everything ahead of it in the list, and everything
once it returned.
-/
def MigratorVouches (releases : Releases) (database : StudioDatabase σ)
    (list : List StudioMigration) : Migrator → Prop
  | .ensuring migrations | .reading migrations | .probing migrations | .seeding migrations =>
      migrations = list
  | .executing migrations already _ migration rest =>
      migrations = list ∧ KnownApplied releases database already
      ∧ ∃ front, list = front ++ migration :: rest ∧ ∀ other ∈ front, Applied database other
  | .recording migrations already _ migration rest =>
      migrations = list ∧ KnownApplied releases database already ∧ Applied database migration
      ∧ ∃ front, list = front ++ migration :: rest ∧ ∀ other ∈ front, Applied database other
  | .returned _ _ => ∀ migration ∈ list, Applied database migration

/-- A seeding would record a migration that is not in the database. -/
def Misrecords (database : StudioDatabase σ) : Migrator → Prop
  | .seeding migrations => ∃ migration ∈ migrations, ¬Applied database migration
  | _ => False

instance (database : StudioDatabase σ) (run : Migrator) : Decidable (Misrecords database run) := by
  unfold Misrecords; split <;> infer_instance

section Calls

variable {sqlite : Sqlite σ} {releases : Releases} {database later : StudioDatabase σ}
variable {list : List StudioMigration} {run : Migrator} {query : D1Query} {raw : D1Answer}

/-- No D1 call takes a migration out of the database. -/
theorem Applied.queried {migration : StudioMigration} (applied : Applied database migration)
    (landed : database.queryD1 sqlite query = some (later, raw))
    : Applied later migration := by
  intro runs
  have before := applied runs
  cases query with
  | trackingDdl =>
      cases landed
      exact before
  | selectRecorded =>
      obtain ⟨rows, -, same⟩ := Option.map_eq_some_iff.mp landed
      cases same
      exact before
  | probe table =>
      cases landed
      exact before
  | record names =>
      obtain ⟨rows, -, same⟩ := Option.map_eq_some_iff.mp landed
      cases same
      exact before
  | statements found =>
      obtain ⟨schema, -, same⟩ := Option.map_eq_some_iff.mp landed
      cases same
      exact List.mem_append_left _ before

/-- What one run vouches for stands while the database only gains migrations. -/
theorem MigratorVouches.grown (vouches : MigratorVouches releases database list run)
    (grown : ∀ migration, Applied database migration → Applied later migration)
    : MigratorVouches releases later list run := by
  have known {names : List String} (knows : KnownApplied releases database names)
      : KnownApplied releases later names :=
    fun migration ships member => grown migration (knows migration ships member)
  cases run with
  | ensuring migrations => exact vouches
  | reading migrations => exact vouches
  | probing migrations => exact vouches
  | seeding migrations => exact vouches
  | executing migrations already applied migration rest =>
      obtain ⟨same, knows, front, split, done⟩ := vouches
      exact ⟨same, known knows, front, split, fun other member => grown other (done other member)⟩
  | recording migrations already applied migration rest =>
      obtain ⟨same, knows, here, front, split, done⟩ := vouches
      exact ⟨same, known knows, grown migration here, front, split,
        fun other member => grown other (done other member)⟩
  | returned migrations report =>
      exact fun migration member => grown migration (vouches migration member)

/-- The loop vouches for all it skips, by induction on what is left. -/
theorem applyForward_vouches {already applied : List String} {front left : List StudioMigration}
    (ships : ∀ migration ∈ list, releases.Ships migration)
    (knows : KnownApplied releases database already) (split : list = front ++ left)
    (done : ∀ other ∈ front, Applied database other)
    : MigratorVouches releases database list (applyForward list already applied left) := by
  induction left generalizing front with
  | nil =>
      intro migration member
      rw [split, List.append_nil] at member
      exact done migration member
  | cons migration rest ih =>
      have isShipped : releases.Ships migration := by
        refine ships migration ?_
        rw [split]
        exact List.mem_append_right _ List.mem_cons_self
      have longer : list = (front ++ [migration]) ++ rest := by simpa using split
      rw [applyForward]
      split
      next known =>
        refine ih longer fun other member => ?_
        rcases List.mem_append.mp member with before | here
        · exact done other before
        · rw [List.mem_singleton.mp here]
          exact knows migration isShipped known
      next unknown =>
        by_cases runs : migration.HasStatements
        · rw [if_pos runs]
          exact ⟨rfl, knows, front, split, done⟩
        · rw [if_neg runs]
          exact ⟨rfl, knows, fun has => absurd has runs, front, split, done⟩

/-- A call that lands leaves the run vouching for what it did before it, and the names in the
tracking table standing for migrations that are in the database, unless it misrecords.
-/
theorem MigratorVouches.answered (ships : ∀ migration ∈ list, releases.Ships migration)
    (vouches : MigratorVouches releases database list run)
    (knows : KnownApplied releases database database.recorded)
    (truthful : ¬Misrecords database run) (made : run.next = some (.ok query))
    (landed : database.queryD1 sqlite query = some (later, raw))
    : MigratorVouches releases later list (run.answered raw)
      ∧ KnownApplied releases later later.recorded := by
  have knowsLater : KnownApplied releases later database.recorded :=
    fun migration shipped member => (knows migration shipped member).queried landed
  have still {front : List StudioMigration} (done : ∀ other ∈ front, Applied database other)
      : ∀ other ∈ front, Applied later other :=
    fun other member => (done other member).queried landed
  cases run with
  | ensuring migrations =>
      cases made
      cases landed
      exact ⟨vouches, knowsLater⟩
  | reading migrations =>
      cases made
      obtain ⟨rows, tracked, same⟩ := Option.map_eq_some_iff.mp landed
      obtain ⟨rfl, rfl⟩ := Prod.mk.inj same
      refine ⟨?_, knows⟩
      have isList : migrations = list := vouches
      have read : rowsOf (some [some rows]) = database.recorded := by
        rw [StudioDatabase.recorded, tracked]
        simp [rowsOf]
      rw [Migrator.answered, read, isList]
      split
      · rfl
      · exact applyForward_vouches ships knows (List.nil_append _).symm (by simp)
  | probing migrations =>
      cases (next_probing migrations).symm.trans made
      cases landed
      have isList : migrations = list := vouches
      refine ⟨?_, knows⟩
      rw [Migrator.answered, isList]
      split
      · rfl
      · exact applyForward_vouches ships (fun _ _ member => absurd member List.not_mem_nil)
          (List.nil_append _).symm (by simp)
  | seeding migrations =>
      cases recordNames_eq_ok (Option.some.inj made)
      obtain ⟨rows, tracked, same⟩ := Option.map_eq_some_iff.mp landed
      obtain ⟨rfl, rfl⟩ := Prod.mk.inj same
      have isList : migrations = list := vouches
      have all : ∀ migration ∈ list, Applied database migration := by
        intro migration member
        by_contra missing
        exact truthful ⟨migration, isList ▸ member, missing⟩
      refine ⟨still all, fun migration shipped member => ?_⟩
      rcases mem_foldl_insertName.mp member with before | added
      · refine knowsLater migration shipped ?_
        rwa [StudioDatabase.recorded, tracked]
      · obtain ⟨found, among, named⟩ := List.mem_map.mp added
        rw [isList] at among
        rw [shipped.eq (ships found among) named.symm]
        exact still all found among
  | executing migrations already applied migration rest =>
      cases made
      obtain ⟨isList, known, front, split, done⟩ := vouches
      obtain ⟨schema, -, same⟩ := Option.map_eq_some_iff.mp landed
      obtain ⟨rfl, rfl⟩ := Prod.mk.inj same
      refine ⟨⟨isList, fun other shipped member => (known other shipped member).queried landed,
        fun _ => List.mem_append_right _ (List.mem_singleton_self _), front, split, still done⟩, ?_⟩
      exact knowsLater
  | recording migrations already applied migration rest =>
      cases recordNames_eq_ok (Option.some.inj made)
      obtain ⟨isList, known, here, front, split, done⟩ := vouches
      obtain ⟨rows, tracked, same⟩ := Option.map_eq_some_iff.mp landed
      obtain ⟨rfl, rfl⟩ := Prod.mk.inj same
      have isShipped : releases.Ships migration := by
        refine ships migration ?_
        rw [split]
        exact List.mem_append_right _ List.mem_cons_self
      have longer : list = (front ++ [migration]) ++ rest := by simpa using split
      refine ⟨?_, fun other shipped member => ?_⟩
      · rw [Migrator.answered, isList]
        refine applyForward_vouches ships
          (fun other shipped member => (known other shipped member).queried landed) longer
          fun other member => ?_
        rcases List.mem_append.mp member with before | last
        · exact still done other before
        · rw [List.mem_singleton.mp last]
          exact here.queried landed
      · rcases mem_insertName.mp member with before | added
        · refine knowsLater other shipped ?_
          rwa [StudioDatabase.recorded, tracked]
        · rw [shipped.eq isShipped added]
          exact here.queried landed
  | returned migrations report => cases made

end Calls

end ControlPlane.StudioUpgrade
