import ControlPlane.Migrations.Runner
import Mathlib.Data.List.Nodup

/-! Runs of the migration runner that may die anywhere. Executing a migration and recording it are
two calls, so a run that dies between them leaves a migration executed and not recorded.
-/

namespace ControlPlane.Migrations

open ControlPlane.Library

variable {σ : Type} (sqlite : Sqlite σ)

/-- A run that returned has executed every migration of its list exactly once and in list order,
as far as there is something to run, and every one of them is recorded.
-/
def CaughtUp (studio : Studio σ) : Prop :=
  ∀ migrations report, studio.run = some (.returned migrations report)
    → studio.database.executed
        = migrations.filter (fun migration => migration.HasStatements)
      ∧ ∀ migration ∈ migrations, migration.name ∈ studio.database.recorded

/-- A run seeds its list only when everything in it was executed, and it executes a migration that
was executed before only when the engine refuses that.
-/
def Resumable (studio : Studio σ) : MigrationAction → Prop
  | .call =>
      match studio.run with
      | some (.seeding migrations) =>
          ∀ migration ∈ migrations, migration.HasStatements
            → migration ∈ studio.database.executed
      | some (.executing _ _ _ migration _) =>
          migration ∈ studio.database.executed
            → sqlite.run studio.database.schema migration.statements = none
      | _ => True
  | _ => True

/-- The list a run was called with. -/
def Migrator.migrations : Migrator → List StudioMigration
  | .ensuring migrations | .reading migrations | .probing migrations | .seeding migrations
  | .executing migrations _ _ _ _ | .recording migrations _ _ _ _ | .returned migrations _ =>
      migrations

/-- Every action either starts a run, or ends one without an effect, or makes a call that lands. -/
theorem Studio.step_cases {studio next : Studio σ} {action : MigrationAction}
    (h : studio.step sqlite action = some next)
    : (∃ release, action = .start release
        ∧ studio.release.migrations <+: release.migrations
        ∧ next = { studio with
            release := release
            run := some (.ensuring release.migrations) })
      ∨ next = { studio with run := none }
      ∨ ∃ run query database raw, action = .call ∧ studio.run = some run
          ∧ run.next = some (.ok query)
          ∧ studio.database.queryD1 sqlite query = some (database, raw)
          ∧ next = { studio with
              database := database
              run := some (run.answered raw) } := by
  cases action with
  | start release =>
      obtain ⟨enabled, same⟩ := Option.ite_none_right_eq_some.mp h
      exact .inl ⟨release, rfl, enabled.2, (Option.some.inj same).symm⟩
  | call =>
      obtain ⟨run, atWork, onward⟩ := Option.bind_eq_some_iff.mp h
      obtain ⟨query, made, same⟩ := Option.map_eq_some_iff.mp onward
      cases query with
      | error message => exact .inr (.inl same.symm)
      | ok query =>
          cases answer : studio.database.queryD1 sqlite query with
          | none =>
              simp only [answer] at same
              exact .inr (.inl same.symm)
          | some found =>
              simp only [answer] at same
              exact .inr (.inr ⟨run, query, found.1, found.2, rfl, atWork, made, answer, same.symm⟩)
  | die =>
      obtain ⟨run, -, same⟩ := Option.map_eq_some_iff.mp h
      exact .inr (.inl same.symm)

-----------------------------------------------------------------------------------------
-- What every run keeps to
-----------------------------------------------------------------------------------------

/-- Of the migrations ahead of a run, only those it knows to skip are recorded. -/
structure Ahead (recorded already : List String) (left : List StudioMigration) : Prop where
  distinct : (left.map StudioMigration.name).Nodup
  skipped : ∀ migration ∈ left, migration.name ∈ recorded → migration.name ∈ already

/-- What a place of a run promises of the names recorded so far. -/
def Migrator.Fresh (recorded : List String) : Migrator → Prop
  | .ensuring _ | .reading _ | .returned _ _ => True
  | .probing _ | .seeding _ => recorded = []
  | .executing _ already _ migration rest =>
      migration.name ∉ recorded ∧ Ahead recorded already (migration :: rest)
  | .recording _ already _ migration rest => Ahead recorded already (migration :: rest)

/-- A run works on the list of its release, has a tracking table once it made one, and never
executes a migration that is recorded.
-/
structure Migrator.Orderly (database : StudioDatabase σ) (release : StudioMigrationSet)
    (run : Migrator) : Prop where
  list : run.migrations = release.migrations
  tracked
    : (∀ migrations, run ≠ .ensuring migrations)
      → ∃ rows, database.schemaMigrations = some rows
  fresh : run.Fresh database.recorded

/-- The run of a studio, if there is one, is orderly. -/
def Studio.Orderly (studio : Studio σ) : Prop :=
  ∀ run, studio.run = some run → run.Orderly studio.database studio.release

theorem Ahead.tail {recorded already : List String} {migration : StudioMigration}
    {rest : List StudioMigration} (ahead : Ahead recorded already (migration :: rest))
    : Ahead recorded already rest where
  distinct := (List.nodup_cons.mp ahead.distinct).2
  skipped other member := ahead.skipped other (List.mem_cons_of_mem _ member)

/-- Recording the head leaves what is ahead as it was, because the names are distinct. -/
theorem Ahead.record {recorded already : List String} {migration : StudioMigration}
    {rest : List StudioMigration} (ahead : Ahead recorded already (migration :: rest))
    : Ahead (insertName recorded migration.name) already rest where
  distinct := ahead.tail.distinct
  skipped other member found := by
    rcases mem_insertName.mp found with found | same
    · exact ahead.tail.skipped other member found
    · have notAgain := (List.nodup_cons.mp ahead.distinct).1
      exact absurd (List.mem_map.mpr ⟨other, member, same⟩) notAgain

/-- The loop goes on with the same list, by induction on what is left. -/
theorem applyForward_migrations (migrations : List StudioMigration) (already applied : List String)
    (left : List StudioMigration)
    : (applyForward migrations already applied left).migrations = migrations := by
  induction left with
  | nil => rfl
  | cons migration rest ih =>
      rw [applyForward]
      split
      · exact ih
      · split <;> rfl

theorem applyForward_not_ensuring (migrations : List StudioMigration)
    (already applied : List String) (left : List StudioMigration)
    : ∀ other, applyForward migrations already applied left ≠ .ensuring other := by
  intro other
  induction left with
  | nil => exact Migrator.noConfusion
  | cons migration rest ih =>
      rw [applyForward]
      split
      · exact ih
      · split <;> exact Migrator.noConfusion

/-- The loop stops at a migration that is not recorded, by induction on what is left. -/
theorem applyForward_fresh {recorded already : List String} {left : List StudioMigration}
    (ahead : Ahead recorded already left) (migrations : List StudioMigration)
    (applied : List String)
    : (applyForward migrations already applied left).Fresh recorded := by
  induction left with
  | nil => trivial
  | cons migration rest ih =>
      rw [applyForward]
      split
      next => exact ih ahead.tail
      next unknown =>
        have unrecorded : migration.name ∉ recorded :=
          fun found => unknown (ahead.skipped migration List.mem_cons_self found)
        split
        · exact ⟨unrecorded, ahead⟩
        · exact ahead

/-- The names of an answer with one entry. -/
theorem rowsOf_single (names : List String) : rowsOf (some [some names]) = names := by
  simp [rowsOf]

/-- The loop leaves an orderly run, over a list whose unknown names are not recorded. -/
theorem applyForward_orderly {database : StudioDatabase σ} {release : StudioMigrationSet}
    {already applied rows : List String} {left : List StudioMigration}
    (tracked : database.schemaMigrations = some rows)
    (ahead : Ahead database.recorded already left)
    : (applyForward release.migrations already applied left).Orderly database release where
  list := applyForward_migrations ..
  tracked _ := ⟨rows, tracked⟩
  fresh := applyForward_fresh ahead ..

/-- A call that lands leaves its run orderly, by cases on the place of the run. -/
theorem Migrator.Orderly.answered {database database' : StudioDatabase σ}
    {release : StudioMigrationSet} {run : Migrator} {query : D1Query} {raw : D1Answer}
    (orderly : run.Orderly database release) (made : run.next = some (.ok query))
    (landed : database.queryD1 sqlite query = some (database', raw))
    : (run.answered raw).Orderly database' release := by
  cases run with
  | ensuring migrations =>
      cases made
      cases landed
      exact ⟨orderly.list, fun _ => ⟨_, rfl⟩, trivial⟩
  | reading migrations =>
      cases made
      obtain ⟨rows, tracked⟩ := orderly.tracked fun _ => Migrator.noConfusion
      cases (queryD1_selectRecorded sqlite tracked).symm.trans landed
      have list : migrations = release.migrations := orderly.list
      rw [Migrator.answered, rowsOf_single, list]
      split
      next nothing => exact ⟨rfl, fun _ => ⟨rows, tracked⟩, nothing.1⟩
      next => exact applyForward_orderly tracked ⟨release.distinct, fun _ _ found => found⟩
  | probing migrations =>
      cases (next_probing migrations).symm.trans made
      cases landed
      obtain ⟨rows, tracked⟩ := orderly.tracked fun _ => Migrator.noConfusion
      have list : migrations = release.migrations := orderly.list
      have nothing : database.recorded = [] := orderly.fresh
      rw [Migrator.answered, list]
      split
      next => exact ⟨rfl, fun _ => ⟨rows, tracked⟩, nothing⟩
      next =>
        refine applyForward_orderly tracked ⟨release.distinct, fun migration _ found => ?_⟩
        rwa [nothing] at found
  | seeding migrations =>
      obtain ⟨rows, tracked⟩ := orderly.tracked fun _ => Migrator.noConfusion
      cases recordNames_eq_ok (Option.some.inj made)
      cases (queryD1_record sqlite tracked).symm.trans landed
      exact ⟨orderly.list, fun _ => ⟨_, rfl⟩, trivial⟩
  | executing migrations already applied migration rest =>
      cases made
      obtain ⟨rows, tracked⟩ := orderly.tracked fun _ => Migrator.noConfusion
      obtain ⟨schema, -, same⟩ := Option.map_eq_some_iff.mp landed
      cases same
      exact ⟨orderly.list, fun _ => ⟨rows, tracked⟩, orderly.fresh.2⟩
  | recording migrations already applied migration rest =>
      obtain ⟨rows, tracked⟩ := orderly.tracked fun _ => Migrator.noConfusion
      cases recordNames_eq_ok (Option.some.inj made)
      cases (queryD1_record sqlite tracked).symm.trans landed
      have list : migrations = release.migrations := orderly.list
      have ahead : Ahead database.recorded already (migration :: rest) := orderly.fresh
      rw [Migrator.answered, list]
      exact applyForward_orderly rfl ahead.record
  | returned migrations report => cases made

theorem orderly_step {studio next : Studio σ} {action : MigrationAction}
    (orderly : studio.Orderly) (h : studio.step sqlite action = some next)
    : next.Orderly := by
  rcases Studio.step_cases sqlite h with
    ⟨release, -, -, rfl⟩ | rfl | ⟨run, query, database, raw, -, atWork, made, landed, rfl⟩
  · intro run h
    obtain ⟨⟩ := h
    exact ⟨rfl, fun other => absurd rfl (other release.migrations), trivial⟩
  · intro run h
    obtain ⟨⟩ := h
  · intro run' h
    obtain ⟨⟩ := h
    exact (orderly run atWork).answered sqlite made landed

-----------------------------------------------------------------------------------------
-- What resumable runs reach
-----------------------------------------------------------------------------------------

/-- The list splits into what is recorded and what is left. Everything recorded was executed, and
of the rest at most the head was, by a run that did not live to record it.
-/
structure Progress (database : StudioDatabase σ) (migrations done left torn : List StudioMigration)
    : Prop where
  split : migrations = done ++ left
  recorded : ∀ name, name ∈ database.recorded ↔ name ∈ done.map StudioMigration.name
  executed : database.executed = done.filter (fun migration => migration.HasStatements) ++ torn
  torn : torn = [] ∨ torn = (left.take 1).filter (fun migration => migration.HasStatements)

/-- Where a run stands in the list. -/
def Migrator.Stands (done left torn : List StudioMigration) : Migrator → Prop
  | .ensuring _ | .reading _ => True
  | .probing _ | .seeding _ => done = []
  | .executing _ already _ migration rest =>
      left = migration :: rest ∧ migration.HasStatements
      ∧ ∀ other ∈ rest, other.name ∉ already
  | .recording _ already _ migration rest =>
      left = migration :: rest
      ∧ torn = [migration].filter (fun migration => migration.HasStatements)
      ∧ ∀ other ∈ rest, other.name ∉ already
  | .returned _ _ => left = []

/-- A database that a run can resume on. -/
def Studio.Advancing (studio : Studio σ) : Prop :=
  ∃ done left torn, Progress studio.database studio.release.migrations done left torn
    ∧ ∀ run, studio.run = some run → run.Stands done left torn

/-- The loop skips what it knows, by induction on it. -/
theorem applyForward_skip {already : List String} {done : List StudioMigration}
    (known : ∀ migration ∈ done, migration.name ∈ already)
    (migrations left : List StudioMigration) (applied : List String)
    : applyForward migrations already applied (done ++ left)
      = applyForward migrations already applied left := by
  induction done with
  | nil => rfl
  | cons migration rest ih =>
      rw [List.cons_append, applyForward, if_pos (known migration List.mem_cons_self)]
      exact ih fun other member => known other (List.mem_cons_of_mem _ member)

/-- The loop stops at the head of what it does not know. -/
theorem applyForward_stands {already : List String} {done left torn : List StudioMigration}
    (unknown : ∀ migration ∈ left, migration.name ∉ already)
    (tears : torn = [] ∨ torn = (left.take 1).filter (fun migration => migration.HasStatements))
    (migrations : List StudioMigration) (applied : List String)
    : (applyForward migrations already applied left).Stands done left torn := by
  cases left with
  | nil => rfl
  | cons migration rest =>
      rw [applyForward, if_neg (unknown migration List.mem_cons_self)]
      have later : ∀ other ∈ rest, other.name ∉ already :=
        fun other member => unknown other (List.mem_cons_of_mem _ member)
      split
      next runs => exact ⟨rfl, runs, later⟩
      next nothing =>
        refine ⟨rfl, ?_, later⟩
        have skips : [migration].filter (fun migration => migration.HasStatements) = [] := by
          simp [nothing]
        rcases tears with rfl | rfl
        · exact skips.symm
        · rfl

/-- The names left are not recorded, because names are distinct. -/
theorem Progress.unrecorded {database : StudioDatabase σ} {release : StudioMigrationSet}
    {done left torn : List StudioMigration}
    (progress : Progress database release.migrations done left torn)
    : ∀ migration ∈ left, migration.name ∉ database.recorded := by
  intro migration member found
  have distinct := release.distinct
  rw [progress.split, List.map_append] at distinct
  exact (List.nodup_append.mp distinct).2.2 migration.name ((progress.recorded _).mp found)
    migration.name (List.mem_map_of_mem member) rfl

/-- Nothing is recorded exactly when nothing is done. -/
theorem Progress.done_eq_nil {database : StudioDatabase σ}
    {migrations done left torn : List StudioMigration}
    (progress : Progress database migrations done left torn) (nothing : database.recorded = [])
    : done = [] := by
  refine List.eq_nil_iff_forall_not_mem.mpr fun migration member => ?_
  have found := (progress.recorded migration.name).mpr (List.mem_map_of_mem member)
  rw [nothing] at found
  exact List.not_mem_nil found

/-- When everything in the list was executed, it was so once: the torn head is all there is to run.
-/
theorem Progress.torn_of_all {database : StudioDatabase σ} {release : StudioMigrationSet}
    {left torn : List StudioMigration} (progress : Progress database release.migrations [] left torn)
    (all
      : ∀ migration ∈ release.migrations, migration.HasStatements
          → migration ∈ database.executed)
    : release.migrations.filter (fun migration => migration.HasStatements) = torn := by
  have executed : database.executed = torn := progress.executed
  have list : release.migrations = left := progress.split
  have distinct := release.distinct
  rw [executed] at all
  rw [list] at all distinct ⊢
  cases left with
  | nil =>
      rcases progress.torn with rfl | rfl
      · rfl
      · rfl
  | cons head rest =>
      have noneLater : ∀ other ∈ rest, ¬other.HasStatements := by
        intro other member runs
        have wasTorn := all other (List.mem_cons_of_mem _ member) runs
        rcases progress.torn with rfl | rfl
        · exact List.not_mem_nil wasTorn
        · have same : other = head := by simpa using (List.mem_filter.mp wasTorn).1
          have twice := (List.nodup_cons.mp distinct).1
          exact twice (List.mem_map.mpr ⟨other, member, by rw [same]⟩)
      have rest_nil : rest.filter (fun migration => migration.HasStatements) = [] := by
        simpa using noneLater
      have headFirst : (head :: rest).filter (fun migration => migration.HasStatements)
          = ((head :: rest).take 1).filter (fun migration => migration.HasStatements) := by
        rw [List.filter_cons, rest_nil]
        simp [List.filter_cons]
      rcases progress.torn with rfl | rfl
      · by_cases runs : head.HasStatements
        · exact absurd (all head List.mem_cons_self runs) List.not_mem_nil
        · rw [List.filter_cons_of_neg (by simpa using runs), rest_nil]
      · exact headFirst

/-- Seeding a list that was executed leaves nothing to do. -/
theorem Progress.seed {database : StudioDatabase σ} {release : StudioMigrationSet}
    {left torn : List StudioMigration} (progress : Progress database release.migrations [] left torn)
    (all
      : ∀ migration ∈ release.migrations, migration.HasStatements
          → migration ∈ database.executed)
    : Progress
        { database with
          schemaMigrations := some
            ((release.migrations.map StudioMigration.name).foldl insertName []) }
        release.migrations release.migrations [] [] where
  split := (List.append_nil _).symm
  recorded name := by
    refine mem_foldl_insertName.trans ?_
    simp only [List.not_mem_nil, false_or]
  executed := by
    rw [progress.torn_of_all all, List.append_nil]
    exact progress.executed
  torn := .inl rfl

/-- Executing the head for the first time leaves it torn. -/
theorem Progress.execute {database : StudioDatabase σ}
    {migrations done rest torn : List StudioMigration} {migration : StudioMigration}
    (progress : Progress database migrations done (migration :: rest) torn)
    (runs : migration.HasStatements) (firstTime : migration ∉ database.executed) (schema : σ)
    : Progress
        { database with
          schema := schema
          executed := database.executed ++ [migration] }
        migrations done (migration :: rest) [migration] := by
  have headRuns : ((migration :: rest).take 1).filter (fun migration => migration.HasStatements)
      = [migration] := by
    simp [runs]
  have untorn : torn = [] := by
    rcases progress.torn with untorn | torn
    · exact untorn
    · refine absurd ?_ firstTime
      rw [progress.executed, torn, headRuns]
      simp
  refine ⟨progress.split, progress.recorded, ?_, .inr headRuns.symm⟩
  rw [progress.executed, untorn, List.append_nil]

/-- Recording the head, which ran if it had something to run, moves it to what is done. -/
theorem Progress.record {database : StudioDatabase σ}
    {migrations done rest : List StudioMigration} {migration : StudioMigration}
    (progress
      : Progress database migrations done (migration :: rest)
          ([migration].filter (fun migration => migration.HasStatements)))
    : Progress
        { database with
          schemaMigrations := some ([migration.name].foldl insertName database.recorded) }
        migrations (done ++ [migration]) rest [] where
  split := by rw [progress.split, List.append_assoc, List.singleton_append]
  recorded name := by
    refine mem_foldl_insertName.trans ?_
    rw [progress.recorded name, List.map_append, List.mem_append]
    rfl
  executed := by rw [progress.executed, List.filter_append, List.append_nil]
  torn := .inl rfl

/-- A resumable call that lands leaves a database to resume on, by cases on the place of the run.
-/
theorem advancing_call {studio : Studio σ} {run : Migrator} {query : D1Query} {raw : D1Answer}
    {database : StudioDatabase σ} (orderly : studio.Orderly) (advancing : studio.Advancing)
    (resumable : Resumable sqlite studio .call) (atWork : studio.run = some run)
    (made : run.next = some (.ok query))
    (landed : studio.database.queryD1 sqlite query = some (database, raw))
    : Studio.Advancing
        { studio with database := database, run := some (run.answered raw) } := by
  obtain ⟨done, left, torn, progress, place⟩ := advancing
  have stands := place run atWork
  have ordered := orderly run atWork
  cases run with
  | ensuring migrations =>
      cases made
      cases landed
      refine ⟨done, left, torn, ⟨progress.split, progress.recorded, progress.executed,
        progress.torn⟩, ?_⟩
      intro run h
      obtain ⟨⟩ := h
      trivial
  | reading migrations =>
      cases made
      obtain ⟨rows, tracked⟩ := ordered.tracked fun _ => Migrator.noConfusion
      cases (queryD1_selectRecorded sqlite tracked).symm.trans landed
      have list : migrations = done ++ left := ordered.list.trans progress.split
      refine ⟨done, left, torn, progress, ?_⟩
      intro run h
      obtain ⟨⟩ := h
      rw [Migrator.answered, rowsOf_single]
      split
      next nothing => exact progress.done_eq_nil nothing.1
      next =>
        have known : ∀ migration ∈ done, migration.name ∈ studio.database.recorded :=
          fun migration member =>
            (progress.recorded _).mpr (List.mem_map_of_mem member)
        have skips := applyForward_skip known migrations left []
        rw [← list] at skips
        rw [skips]
        exact applyForward_stands progress.unrecorded progress.torn migrations []
  | probing migrations =>
      cases (next_probing migrations).symm.trans made
      cases landed
      refine ⟨done, left, torn, progress, ?_⟩
      intro run h
      obtain ⟨⟩ := h
      have nothing : done = [] := stands
      have list : migrations = left := by
        rw [nothing] at progress
        exact ordered.list.trans progress.split
      rw [Migrator.answered]
      split
      next => exact nothing
      next =>
        rw [list]
        exact applyForward_stands (fun _ _ => List.not_mem_nil) progress.torn left []
  | seeding migrations =>
      cases recordNames_eq_ok (Option.some.inj made)
      obtain ⟨rows, tracked⟩ := ordered.tracked fun _ => Migrator.noConfusion
      cases (queryD1_record sqlite tracked).symm.trans landed
      have list : migrations = studio.release.migrations := ordered.list
      have nothing : done = [] := stands
      have fresh : studio.database.recorded = [] := ordered.fresh
      rw [Resumable, atWork] at resumable
      subst nothing list
      rw [fresh]
      refine ⟨studio.release.migrations, [], [], progress.seed resumable, ?_⟩
      intro run h
      obtain ⟨⟩ := h
      rfl
  | executing migrations already applied migration rest =>
      cases made
      obtain ⟨schema, ran, same⟩ := Option.map_eq_some_iff.mp landed
      cases same
      obtain ⟨rfl, runs, later⟩ := stands
      rw [Resumable, atWork] at resumable
      have firstTime : migration ∉ studio.database.executed := by
        intro before
        rw [resumable before] at ran
        cases ran
      refine ⟨done, migration :: rest, [migration], progress.execute runs firstTime schema, ?_⟩
      intro run h
      obtain ⟨⟩ := h
      exact ⟨rfl, by simp [runs], later⟩
  | recording migrations already applied migration rest =>
      cases recordNames_eq_ok (Option.some.inj made)
      obtain ⟨rows, tracked⟩ := ordered.tracked fun _ => Migrator.noConfusion
      cases (queryD1_record sqlite tracked).symm.trans landed
      obtain ⟨rfl, rfl, later⟩ := stands
      refine ⟨done ++ [migration], rest, [], progress.record, ?_⟩
      intro run h
      obtain ⟨⟩ := h
      exact applyForward_stands later (.inl rfl) migrations (applied ++ [migration.name])
  | returned migrations report => cases made

/-- A longer list leaves more to do. -/
theorem Progress.extend {database : StudioDatabase σ}
    {migrations longer done left torn : List StudioMigration}
    (progress : Progress database migrations done left torn) (grown : migrations <+: longer)
    : ∃ left', Progress database longer done left' torn := by
  obtain ⟨more, rfl⟩ := grown
  refine ⟨left ++ more, ?_, progress.recorded, progress.executed, ?_⟩
  · rw [progress.split, List.append_assoc]
  · rcases progress.torn with untorn | torn
    · exact .inl untorn
    · cases left with
      | nil => exact .inl torn
      | cons head rest => exact .inr torn

theorem advancing_step {studio next : Studio σ} {action : MigrationAction}
    (orderly : studio.Orderly) (advancing : studio.Advancing)
    (resumable : Resumable sqlite studio action) (h : studio.step sqlite action = some next)
    : next.Advancing := by
  rcases Studio.step_cases sqlite h with
    ⟨release, -, grown, rfl⟩ | rfl | ⟨run, query, database, raw, rfl, atWork, made, landed, rfl⟩
  · obtain ⟨done, left, torn, progress, -⟩ := advancing
    obtain ⟨left', progress'⟩ := progress.extend grown
    refine ⟨done, left', torn, progress', ?_⟩
    intro run h
    obtain ⟨⟩ := h
    trivial
  · obtain ⟨done, left, torn, progress, -⟩ := advancing
    refine ⟨done, left, torn, progress, ?_⟩
    intro run h
    obtain ⟨⟩ := h
  · exact advancing_call sqlite orderly advancing resumable atWork made landed

/-- A run that returns on a database it could resume on is caught up. -/
theorem Studio.Advancing.caughtUp {studio : Studio σ} (orderly : studio.Orderly)
    (advancing : studio.Advancing)
    : CaughtUp studio := by
  intro migrations report returned
  obtain ⟨done, left, torn, progress, place⟩ := advancing
  have finished : left = [] := place _ returned
  have list : migrations = studio.release.migrations := (orderly _ returned).list
  have all : migrations = done := by rw [list, progress.split, finished, List.append_nil]
  have untorn : torn = [] := by
    rcases progress.torn with untorn | torn
    · exact untorn
    · rw [torn, finished]
      rfl
  constructor
  · rw [progress.executed, untorn, List.append_nil, all]
  · intro migration member
    rw [all] at member
    exact (progress.recorded _).mpr (List.mem_map_of_mem member)

-----------------------------------------------------------------------------------------
-- What no later run repairs
-----------------------------------------------------------------------------------------

/-- A migration was executed twice, or it is recorded and never was. -/
def Studio.Damaged (studio : Studio σ) : Prop :=
  ¬studio.database.executed.Nodup
  ∨ ∃ migration ∈ studio.release.migrations, migration.HasStatements
      ∧ migration.name ∈ studio.database.recorded
      ∧ migration ∉ studio.database.executed

/-- What a landed call does to the log of executed migrations and to the names recorded. -/
theorem queryD1_spec {database database' : StudioDatabase σ} {query : D1Query} {raw : D1Answer}
    (landed : database.queryD1 sqlite query = some (database', raw))
    : (∀ name ∈ database.recorded, name ∈ database'.recorded)
      ∧ (database'.executed = database.executed
        ∨ ∃ migration, query = .statements migration
            ∧ database'.executed = database.executed ++ [migration]) := by
  cases query with
  | trackingDdl =>
      cases landed
      exact ⟨fun name found => found, .inl rfl⟩
  | selectRecorded =>
      obtain ⟨rows, -, same⟩ := Option.map_eq_some_iff.mp landed
      cases same
      exact ⟨fun name found => found, .inl rfl⟩
  | probe table =>
      cases landed
      exact ⟨fun name found => found, .inl rfl⟩
  | record names =>
      obtain ⟨rows, tracked, same⟩ := Option.map_eq_some_iff.mp landed
      cases same
      refine ⟨fun name found => ?_, .inl rfl⟩
      rw [StudioDatabase.recorded, tracked] at found
      exact mem_foldl_insertName.mpr (.inl found)
  | statements migration =>
      obtain ⟨schema, -, same⟩ := Option.map_eq_some_iff.mp landed
      cases same
      exact ⟨fun name found => found, .inr ⟨migration, rfl, rfl⟩⟩

/-- A run that executes a migration stands at it, and it is not recorded. -/
theorem Migrator.Orderly.unrecorded {database : StudioDatabase σ} {release : StudioMigrationSet}
    {run : Migrator} {migration : StudioMigration} (orderly : run.Orderly database release)
    (made : run.next = some (.ok (.statements migration)))
    : migration.name ∉ database.recorded := by
  cases run with
  | ensuring migrations => cases made
  | reading migrations => cases made
  | probing migrations => cases (next_probing migrations).symm.trans made
  | seeding migrations => cases recordNames_eq_ok (Option.some.inj made)
  | executing migrations already applied head rest =>
      cases made
      exact orderly.fresh.1
  | recording migrations already applied head rest =>
      cases recordNames_eq_ok (Option.some.inj made)
  | returned migrations report => cases made

theorem damaged_step {studio next : Studio σ} {action : MigrationAction}
    (orderly : studio.Orderly) (damaged : studio.Damaged)
    (h : studio.step sqlite action = some next)
    : next.Damaged := by
  rcases Studio.step_cases sqlite h with
    ⟨release, -, grown, rfl⟩ | rfl | ⟨run, query, database, raw, rfl, atWork, made, landed, rfl⟩
  · rcases damaged with twice | ⟨migration, member, runs, recorded, never⟩
    · exact .inl twice
    · exact .inr ⟨migration, grown.subset member, runs, recorded, never⟩
  · exact damaged
  · obtain ⟨kept, sameLog | ⟨late, rfl, log⟩⟩ := queryD1_spec sqlite landed
    · rcases damaged with twice | ⟨migration, member, runs, recorded, never⟩
      · exact .inl (by rwa [sameLog])
      · exact .inr ⟨migration, member, runs, kept _ recorded, by rwa [sameLog]⟩
    · rcases damaged with twice | ⟨migration, member, runs, recorded, never⟩
      · refine .inl fun once => twice ?_
        rw [log] at once
        exact (List.nodup_append.mp once).1
      · refine .inr ⟨migration, member, runs, kept _ recorded, ?_⟩
        have unrecorded := (orderly run atWork).unrecorded made
        have other : migration ≠ late := by
          intro h
          obtain rfl := h
          exact unrecorded recorded
        rw [log, List.mem_append, List.mem_singleton]
        intro h
        rcases h with before | same
        · exact never before
        · exact other same

/-- A call that is not resumable does damage: seeding records what never ran, and executing runs a
migration again.
-/
theorem damaged_of_not_resumable {studio next : Studio σ} {action : MigrationAction}
    (orderly : studio.Orderly) (unresumable : ¬Resumable sqlite studio action)
    (h : studio.step sqlite action = some next)
    : next.Damaged := by
  cases action with
  | start release => exact absurd trivial unresumable
  | die => exact absurd trivial unresumable
  | call =>
      cases atWork : studio.run with
      | none =>
          rw [Resumable, atWork] at unresumable
          exact absurd trivial unresumable
      | some run =>
          have ordered := orderly run atWork
          rw [Resumable, atWork] at unresumable
          cases run with
          | ensuring migrations => exact absurd trivial unresumable
          | reading migrations => exact absurd trivial unresumable
          | probing migrations => exact absurd trivial unresumable
          | recording migrations already applied migration rest =>
              exact absurd trivial unresumable
          | returned migrations report => exact absurd trivial unresumable
          | seeding migrations =>
              obtain ⟨rows, tracked⟩ := ordered.tracked fun _ => Migrator.noConfusion
              have list : migrations = studio.release.migrations := ordered.list
              have quotable : ∀ name ∈ migrations.map StudioMigration.name,
                  '\'' ∉ name.toList := by
                simpa [list] using studio.release.quotable
              simp only [Studio.step, atWork, Option.bind_some, Migrator.next,
                recordNames_ok quotable, Option.map_some, StudioDatabase.queryD1, tracked,
                Option.some.injEq] at h
              subst h
              have missed : ∃ migration ∈ migrations, migration.HasStatements
                  ∧ migration ∉ studio.database.executed := by
                simpa only [not_forall, exists_prop] using unresumable
              obtain ⟨migration, member, runs, never⟩ := missed
              refine .inr ⟨migration, list ▸ member, runs, ?_, never⟩
              exact mem_foldl_insertName.mpr (.inr (List.mem_map_of_mem member))
          | executing migrations already applied migration rest =>
              obtain ⟨before, landed⟩ := Classical.not_imp.mp unresumable
              obtain ⟨schema, ran⟩ := Option.ne_none_iff_exists'.mp landed
              simp only [Studio.step, atWork, Option.bind_some, Migrator.next, Option.map_some,
                StudioDatabase.queryD1, ran, Option.some.injEq] at h
              subst h
              refine .inl fun once => ?_
              exact (List.nodup_append.mp once).2.2 migration before migration
                List.mem_cons_self rfl

/-- Damage shows when a run returns. -/
theorem Studio.Damaged.not_caughtUp {studio : Studio σ} (orderly : studio.Orderly)
    (damaged : studio.Damaged) {migrations : List StudioMigration} {report : MigrationReport}
    (returned : studio.run = some (.returned migrations report))
    : ¬CaughtUp studio := by
  intro caughtUp
  obtain ⟨executed, -⟩ := caughtUp migrations report returned
  have list : migrations = studio.release.migrations := (orderly _ returned).list
  rw [list] at executed
  rcases damaged with twice | ⟨migration, member, runs, -, never⟩
  · refine twice ?_
    rw [executed]
    exact (List.Nodup.of_map _ studio.release.distinct).filter _
  · refine never ?_
    rw [executed]
    exact List.mem_filter.mpr ⟨member, by simpa using runs⟩

-----------------------------------------------------------------------------------------
-- When every run that returns is caught up
-----------------------------------------------------------------------------------------

/-- A run of the runner has returned. -/
def Studio.Returned (studio : Studio σ) : Prop :=
  ∃ migrations report, studio.run = some (.returned migrations report)

/-- From an empty database on, every run that returns is caught up exactly when nothing before a
return seeded what was not executed or executed a migration again.
-/
theorem caughtUp_iff (schema : σ) (actions : List MigrationAction)
    : Everywhere (Studio.step sqlite) CaughtUp (.fresh schema) actions
      ↔ ∀ first rest reached, actions = first ++ rest
          → exec (Studio.step sqlite) (.fresh schema) first = some reached → reached.Returned
          → Throughout (Studio.step sqlite) (Resumable sqlite) (.fresh schema) first := by
  have keeps : ∀ studio action next, Studio.Orderly studio ∧ studio.Advancing
      → Resumable sqlite studio action → studio.step sqlite action = some next
      → next.Orderly ∧ next.Advancing := by
    intro studio action next h resumable taken
    obtain ⟨orderly, advancing⟩ := h
    exact ⟨orderly_step sqlite orderly taken,
      advancing_step sqlite orderly advancing resumable taken⟩
  have falls : ∀ studio action next, Studio.Orderly studio ∧ studio.Advancing
      → ¬Resumable sqlite studio action → studio.step sqlite action = some next
      → next.Orderly ∧ next.Damaged := by
    intro studio action next h unresumable taken
    obtain ⟨orderly, -⟩ := h
    exact ⟨orderly_step sqlite orderly taken,
      damaged_of_not_resumable sqlite orderly unresumable taken⟩
  have stays : ∀ studio action next, Studio.Orderly studio ∧ studio.Damaged
      → studio.step sqlite action = some next → next.Orderly ∧ next.Damaged := by
    intro studio action next h taken
    obtain ⟨orderly, damaged⟩ := h
    exact ⟨orderly_step sqlite orderly taken, damaged_step sqlite orderly damaged taken⟩
  have working : ∀ studio : Studio σ, ¬studio.Returned → CaughtUp studio :=
    fun studio working migrations report returned =>
      absurd ⟨migrations, report, returned⟩ working
  have shows : ∀ studio : Studio σ, studio.Orderly ∧ studio.Damaged → studio.Returned
      → ¬CaughtUp studio := by
    intro studio h h'
    obtain ⟨orderly, damaged⟩ := h
    obtain ⟨migrations, report, returned⟩ := h'
    exact damaged.not_caughtUp orderly returned
  have start : (Studio.fresh schema).Orderly ∧ (Studio.fresh schema).Advancing := by
    refine ⟨fun _ => nofun, [], [], [], ⟨rfl, ?_, rfl, .inl rfl⟩, fun _ => nofun⟩
    simp [Studio.fresh, StudioDatabase.recorded]
  exact everywhere_iff_untrapped keeps falls stays
    (fun studio sound => sound.2.caughtUp sound.1) working shows start

/-- The tables that the two example migrations are about. -/
structure StudioTables where
  castMembers : Bool
  voiceId : Bool
  deriving DecidableEq, Repr

def castMembersSql : String :=
  "CREATE TABLE IF NOT EXISTS cast_members (id TEXT);"

def voiceIdSql : String :=
  "ALTER TABLE cast_members ADD COLUMN voice_id TEXT;"

/-- An engine that refuses a duplicate ADD COLUMN, exactly as SQLite does. -/
def studioTables : Sqlite StudioTables where
  run tables sql :=
    if sql = castMembersSql then some { tables with castMembers := true }
    else if sql = voiceIdSql ∧ tables.castMembers ∧ ¬tables.voiceId then
      some { tables with voiceId := true }
    else none
  hasTable tables table := table = "cast_members" ∧ tables.castMembers

def castMembersInit : StudioMigration where
  name := "0001_init.sql"
  sql := castMembersSql

def castVoice : StudioMigration where
  name := "0003_cast_voice.sql"
  sql := voiceIdSql

def castMigrations : StudioMigrationSet where
  migrations := [castMembersInit, castVoice]
  distinct := by decide
  quotable := by decide

/-- The first run dies between executing the first migration and recording it. The second one
takes the database for an adopted one.
-/
def tornRun : List MigrationAction :=
  [.start castMigrations, .call, .call, .call, .call, .die,
    .start castMigrations, .call, .call, .call, .call]

def noTables : StudioTables where
  castMembers := false
  voiceId := false

/-- On an empty database, with a list whose first member creates the probe table, the second run
returns and the second migration was never executed.
-/
theorem tornRun_missesMigration
    : studioTables.hasTable noTables ADOPTED_PROBE_TABLE = false
      ∧ (∀ tables next, studioTables.run tables castMembersInit.statements = some next
          → studioTables.hasTable next ADOPTED_PROBE_TABLE = true)
      ∧ ¬Everywhere (Studio.step studioTables) CaughtUp (.fresh noTables) tornRun := by
  have sent : castMembersInit.statements = castMembersSql := by decide +kernel
  refine ⟨rfl, ?_, ?_⟩
  · intro tables next ran
    have created : studioTables.run tables castMembersSql
        = some { tables with castMembers := true } := by simp [studioTables]
    rw [sent, created] at ran
    cases ran
    rfl
  · intro everywhere
    obtain ⟨studio, reached, seen⟩
        : ∃ studio, exec (Studio.step studioTables) (.fresh noTables) tornRun = some studio
          ∧ (studio.run, studio.database.executed)
            = (some (.returned [castMembersInit, castVoice]
                { applied := [], seeded := ["0001_init.sql", "0003_cast_voice.sql"] }),
              [castMembersInit]) :=
      Option.map_eq_some_iff.mp (by decide +kernel)
    obtain ⟨returned, executed⟩ := Prod.mk.inj seen
    have caughtUp := (everywhere.final reached _ _ returned).1
    rw [executed] at caughtUp
    revert caughtUp
    decide +kernel

end ControlPlane.Migrations
