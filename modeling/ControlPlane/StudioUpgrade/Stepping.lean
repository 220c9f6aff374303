import ControlPlane.Library.Runs
import ControlPlane.StudioUpgrade.Driver

/-! What a step of a studio upgrade can do, said once: to the jobs, to the tenant and its studio, and
to the driver that takes it.
-/

namespace ControlPlane.StudioUpgrade

open ControlPlane.Library
open ControlPlane.Migrations
open ControlPlane.Provision (jobHasLiveDriver)
open ControlPlane.Store
open ControlPlane.StudioBindings

variable {σ : Type}

-----------------------------------------------------------------------------------------
-- The statements on jobs
-----------------------------------------------------------------------------------------

/-- The statements that take a lease, or renew it. -/
def takesLease : JobCall → Bool
  | .setJobRunning _ | .claimJob _ _ | .renewJobLease _ _ | .updateJobProgress _ _ _ => true
  | .releaseJobLease _ | .finishJob _ _ _ _ => false

/-- The lease a driver takes is of the length that all drivers take. -/
def JobCall.OfDriver : JobCall → Prop
  | .renewJobLease _ leaseSeconds | .claimJob _ leaseSeconds => leaseSeconds = jobLeaseSeconds
  | .setJobRunning _ | .updateJobProgress _ _ _ | .finishJob _ _ _ _ => True
  | .releaseJobLease _ => False

/-- A lease that is just taken is live. -/
theorem live_of_taken {nowMs : Nat} {call : JobCall} {job : ProvisionJob}
    (ofDriver : JobCall.OfDriver call) (takes : takesLease call)
    (met : (call.statement (nowMs / 1000)).guard job)
    : jobHasLiveDriver nowMs ((call.statement (nowMs / 1000)).set job) = true := by
  have later : nowMs < (nowMs / 1000 + jobLeaseSeconds) * 1000 := by
    unfold jobLeaseSeconds
    omega
  cases call with
  | setJobRunning id =>
      simpa [jobHasLiveDriver, JobCall.statement, Store.setJobRunning, JobStatus.active] using later
  | claimJob id leaseSeconds =>
      obtain rfl : leaseSeconds = jobLeaseSeconds := ofDriver
      have open_ : job.status.active = true := (of_decide_eq_true met).1
      simpa [jobHasLiveDriver, JobCall.statement, Store.claimJob, open_] using later
  | renewJobLease id leaseSeconds =>
      obtain rfl : leaseSeconds = jobLeaseSeconds := ofDriver
      have open_ : job.status.active = true := met
      simpa [jobHasLiveDriver, JobCall.statement, Store.renewJobLease, open_] using later
  | updateJobProgress id step stepsDoneJson =>
      have open_ : job.status.active = true := met
      simpa [jobHasLiveDriver, JobCall.statement, Store.updateJobProgress, open_] using later
  | releaseJobLease id => cases takes
  | finishJob id outcome errorStep errorMessage => cases takes

/-- A statement that does not take a lease leaves no live one that was not there. -/
theorem live_of_untaken {nowMs now : Nat} {call : JobCall} {job : ProvisionJob}
    (untaken : takesLease call = false ∨ ¬(call.statement now).guard job)
    (live : jobHasLiveDriver nowMs ((call.statement now).onRow job) = true)
    : jobHasLiveDriver nowMs job = true := by
  rcases (call.statement now).onRow_cases job with same | ⟨met, set⟩
  · rwa [same] at live
  · rcases untaken with apart | missed
    · rw [set] at live
      cases call with
      | releaseJobLease id =>
          simp [jobHasLiveDriver, JobCall.statement, Store.releaseJobLease] at live
      | finishJob id outcome errorStep errorMessage =>
          simp [jobHasLiveDriver, JobCall.statement, Store.finishJob] at live
      | setJobRunning id => cases apart
      | claimJob id leaseSeconds => cases apart
      | renewJobLease id leaseSeconds => cases apart
      | updateJobProgress id step stepsDoneJson => cases apart
    · exact absurd met missed

-----------------------------------------------------------------------------------------
-- The driver
-----------------------------------------------------------------------------------------

/-- What a stage vouches for: once the migrations are through, that all of them are applied. -/
def Stage.Vouches (releases : Releases) (database : StudioDatabase σ)
    (list : List StudioMigration) : Stage → Prop
  | .starting | .readingBindings | .readingSecrets | .clearing | .failing _ _ | .unhandled _
  | .ended => True
  | .migrating run => MigratorVouches releases database list run
  | .uploadingAssets | .uploading | .rereadingBindings | .rereadingSecrets _ | .probing _ _
  | .marking _ | .closingShort _ | .recording | .succeeding =>
      ∀ migration ∈ list, Applied database migration

def StudioDriver.Vouches (releases : Releases) (database : StudioDatabase σ)
    (driver : StudioDriver) : Prop :=
  driver.stage.Vouches releases database driver.context.bundle.migrations.migrations

/-- What a driver vouches for stands while the database only gains migrations. -/
theorem StudioDriver.Vouches.grown {releases : Releases} {database later : StudioDatabase σ}
    {driver : StudioDriver} (vouches : driver.Vouches releases database)
    (grown : ∀ migration, Applied database migration → Applied later migration)
    : driver.Vouches releases later := by
  unfold StudioDriver.Vouches at vouches ⊢
  cases place : driver.stage with
  | migrating run =>
      rw [place] at vouches
      exact MigratorVouches.grown vouches grown
  | _ =>
      rw [place] at vouches
      first
        | trivial
        | exact fun migration member => grown migration (vouches migration member)

/-- A driver that goes on with its job and its context, and keeps vouching. -/
structure Onward (σ : Type) (driver next : StudioDriver) : Prop where
  job : next.jobId = driver.jobId
  context : next.context = driver.context
  vouches
    : ∀ (releases : Releases) (database : StudioDatabase σ),
        driver.Vouches releases database → next.Vouches releases database

/-- The effect of what a driver does next, when it lands. -/
inductive Ran (sqlite : Sqlite σ) (normalised : ByteCounts) (plane : UpgradePlane σ)
    (driver : StudioDriver) : UpgradePlane σ → StudioDriver → Prop
  | called {call : JobCall} {next : StudioDriver} (makes : driver.jobCall = some call)
      (onward : Onward σ driver next) (works : takesLease call → next.atWork)
      : Ran sqlite normalised plane driver (plane.callJob call) next
  | read {next : StudioDriver} (makes : driver.jobCall = none)
      (elsewhere : driver.stage ≠ .uploading ∧ driver.stage ≠ .recording)
      (onward : Onward σ driver next)
      : Ran sqlite normalised plane driver plane next
  | cleared {next : StudioDriver} (place : driver.stage = .clearing)
      (onward : Onward σ driver next)
      : Ran sqlite normalised plane driver (plane.setTenantStudioRelease none) next
  | queried {run : Migrator} {query : D1Query} {database : StudioDatabase σ} {raw : D1Answer}
      {next : StudioDriver} (place : driver.stage = .migrating run)
      (made : run.next = some (.ok query))
      (landed : plane.database.queryD1 sqlite query = some (database, raw))
      (job : next.jobId = driver.jobId) (context : next.context = driver.context)
      (vouches
        : ∀ releases : Releases,
            MigratorVouches releases database driver.context.bundle.migrations.migrations
              (run.answered raw)
            → next.Vouches releases database)
      : Ran sqlite normalised plane driver (plane.queried run database) next
  | uploaded {next : StudioDriver} (place : driver.stage = .uploading)
      (onward : Onward σ driver next)
      : Ran sqlite normalised plane driver (plane.uploadedBy normalised driver) next
  | recorded {next : StudioDriver} (place : driver.stage = .recording)
      (onward : Onward σ driver next)
      : Ran sqlite normalised plane driver
          (plane.setTenantStudioRelease (some driver.context.release)) next

variable {sqlite : Sqlite σ} {normalised : ByteCounts}
variable {plane after : UpgradePlane σ} {driver next : StudioDriver}

/-- A thrown driver vouches for nothing any more. -/
theorem thrown_onward (text : String) : Onward σ driver (driver.thrown text) where
  job := rfl
  context := rfl
  vouches releases database _ := by
    unfold StudioDriver.Vouches StudioDriver.thrown
    dsimp only
    split <;> trivial

/-- Marking a step goes on, once all migrations are applied. -/
theorem mark_onward (step : UpgradeStep)
    (through
      : ∀ (releases : Releases) (database : StudioDatabase σ), driver.Vouches releases database
        → ∀ migration ∈ driver.context.bundle.migrations.migrations, Applied database migration)
    : Onward σ driver (driver.mark step) where
  job := rfl
  context := rfl
  vouches releases database vouched := through releases database vouched

/-- So does what follows a marked step. -/
theorem marked_onward {step : UpgradeStep} (place : driver.stage = .marking step)
    : Onward σ driver (driver.marked step) := by
  have through (releases : Releases) (database : StudioDatabase σ)
      (vouched : driver.Vouches releases database)
      : ∀ migration ∈ driver.context.bundle.migrations.migrations, Applied database migration := by
    rwa [StudioDriver.Vouches, place] at vouched
  cases step with
  | d1Migrate =>
      rw [StudioDriver.marked]
      split
      · exact ⟨rfl, rfl, through⟩
      · exact mark_onward _ through
  | assetsUpload => exact ⟨rfl, rfl, through⟩
  | wfpUpload => exact ⟨rfl, rfl, through⟩
  | verify =>
      rw [StudioDriver.marked]
      split
      · exact ⟨rfl, rfl, through⟩
      · exact ⟨rfl, rfl, through⟩

/-- A driver whose migrations return vouches for all of them. -/
theorem migrated_vouches {releases : Releases} {database : StudioDatabase σ} {run : Migrator}
    (vouched
      : MigratorVouches releases database driver.context.bundle.migrations.migrations run)
    : (driver.migrated run).Vouches releases database := by
  unfold StudioDriver.migrated
  split
  next none =>
    cases run with
    | returned migrations report => exact vouched
    | ensuring migrations => cases none
    | reading migrations => cases none
    | probing migrations => cases none
    | seeding migrations => cases none
    | executing migrations already applied migration rest => cases none
    | recording migrations already applied migration rest => cases none
  next => exact vouched

theorem ran_cases {servingStatus : Nat}
    (ran : driver.ran sqlite normalised plane servingStatus = some (after, next))
    : Ran sqlite normalised plane driver after next := by
  have atStage {stage : Stage} (place : driver.stage = stage) {releases : Releases}
      {database : StudioDatabase σ} (vouched : driver.Vouches releases database)
      : stage.Vouches releases database driver.context.bundle.migrations.migrations :=
    place ▸ vouched
  unfold StudioDriver.ran at ran
  cases place : driver.stage with
  | starting =>
      simp only [StudioDriver.jobCall, place, Option.some.injEq, Prod.mk.injEq] at ran
      obtain ⟨rfl, rfl⟩ := ran
      exact .called (by rw [StudioDriver.jobCall, place]) ⟨rfl, rfl, fun _ _ _ => trivial⟩
        fun _ => rfl
  | marking step =>
      simp only [StudioDriver.jobCall, place, Option.some.injEq, Prod.mk.injEq] at ran
      obtain ⟨rfl, rfl⟩ := ran
      refine .called (by rw [StudioDriver.jobCall, place]) (marked_onward place) fun _ => ?_
      cases step with
      | d1Migrate =>
          rw [StudioDriver.marked]
          split <;> rfl
      | assetsUpload => rfl
      | wfpUpload => rfl
      | verify =>
          rw [StudioDriver.marked]
          split <;> rfl
  | closingShort message =>
      simp only [StudioDriver.jobCall, place, Option.some.injEq, Prod.mk.injEq] at ran
      obtain ⟨rfl, rfl⟩ := ran
      exact .called (by rw [StudioDriver.jobCall, place]) ⟨rfl, rfl, fun _ _ _ => trivial⟩
        fun takes => nomatch takes
  | succeeding =>
      simp only [StudioDriver.jobCall, place, Option.some.injEq, Prod.mk.injEq] at ran
      obtain ⟨rfl, rfl⟩ := ran
      exact .called (by rw [StudioDriver.jobCall, place]) ⟨rfl, rfl, fun _ _ _ => trivial⟩
        fun takes => nomatch takes
  | failing step message =>
      simp only [StudioDriver.jobCall, place, Option.some.injEq, Prod.mk.injEq] at ran
      obtain ⟨rfl, rfl⟩ := ran
      exact .called (by rw [StudioDriver.jobCall, place]) ⟨rfl, rfl, fun _ _ _ => trivial⟩
        fun takes => nomatch takes
  | unhandled message =>
      simp only [StudioDriver.jobCall, place, Option.some.injEq, Prod.mk.injEq] at ran
      obtain ⟨rfl, rfl⟩ := ran
      exact .called (by rw [StudioDriver.jobCall, place]) ⟨rfl, rfl, fun _ _ _ => trivial⟩
        fun takes => nomatch takes
  | readingBindings =>
      simp only [StudioDriver.jobCall, place, Option.some.injEq, Prod.mk.injEq] at ran
      obtain ⟨rfl, rfl⟩ := ran
      exact .read (by rw [StudioDriver.jobCall, place]) (by simp [place])
        ⟨rfl, rfl, fun _ _ _ => trivial⟩
  | readingSecrets =>
      simp only [StudioDriver.jobCall, place, Option.some.injEq, Prod.mk.injEq] at ran
      obtain ⟨rfl, rfl⟩ := ran
      exact .read (by rw [StudioDriver.jobCall, place]) (by simp [place])
        ⟨rfl, rfl, fun _ _ _ => trivial⟩
  | clearing =>
      simp only [StudioDriver.jobCall, place, Option.some.injEq, Prod.mk.injEq] at ran
      obtain ⟨rfl, rfl⟩ := ran
      exact .cleared place ⟨rfl, rfl, fun _ _ _ => rfl⟩
  | migrating run =>
      simp only [StudioDriver.jobCall, place] at ran
      split at ran
      next query made =>
        obtain ⟨⟨database, raw⟩, landed, same⟩ := Option.map_eq_some_iff.mp ran
        obtain ⟨rfl, rfl⟩ := Prod.mk.inj same
        refine .queried place made landed ?_ ?_ fun _ => migrated_vouches
        · unfold StudioDriver.migrated
          split <;> rfl
        · unfold StudioDriver.migrated
          split <;> rfl
      next => cases ran
  | uploadingAssets =>
      simp only [StudioDriver.jobCall, place, Option.some.injEq, Prod.mk.injEq] at ran
      obtain ⟨rfl, rfl⟩ := ran
      exact .read (by rw [StudioDriver.jobCall, place]) (by simp [place])
        (mark_onward _ fun _ _ => atStage place)
  | uploading =>
      simp only [StudioDriver.jobCall, place, Option.some.injEq, Prod.mk.injEq] at ran
      obtain ⟨rfl, rfl⟩ := ran
      exact .uploaded place (mark_onward _ fun _ _ => atStage place)
  | rereadingBindings =>
      simp only [StudioDriver.jobCall, place, Option.some.injEq, Prod.mk.injEq] at ran
      obtain ⟨rfl, rfl⟩ := ran
      exact .read (by rw [StudioDriver.jobCall, place]) (by simp [place])
        ⟨rfl, rfl, fun _ _ => atStage place⟩
  | rereadingSecrets found =>
      simp only [StudioDriver.jobCall, place, Option.some.injEq, Prod.mk.injEq] at ran
      obtain ⟨rfl, rfl⟩ := ran
      exact .read (by rw [StudioDriver.jobCall, place]) (by simp [place])
        ⟨rfl, rfl, fun _ _ => atStage place⟩
  | probing found secretsAfter =>
      simp only [StudioDriver.jobCall, place, Option.some.injEq, Prod.mk.injEq] at ran
      obtain ⟨rfl, rfl⟩ := ran
      exact .read (by rw [StudioDriver.jobCall, place]) (by simp [place])
        ⟨rfl, rfl, fun _ _ => atStage place⟩
  | recording =>
      simp only [StudioDriver.jobCall, place, Option.some.injEq, Prod.mk.injEq] at ran
      obtain ⟨rfl, rfl⟩ := ran
      exact .recorded place ⟨rfl, rfl, fun _ _ => atStage place⟩
  | ended =>
      simp only [StudioDriver.jobCall, place] at ran
      cases ran

-----------------------------------------------------------------------------------------
-- What a driver may do
-----------------------------------------------------------------------------------------

/-- A driver's statements are on its own job. -/
theorem jobCall_own {call : JobCall} (makes : driver.jobCall = some call)
    : call.jobId = driver.jobId ∧ JobCall.OfDriver call := by
  unfold StudioDriver.jobCall at makes
  split at makes <;> cases makes <;> exact ⟨rfl, trivial⟩

/-- A driver that takes a lease goes on even when the answer is lost. -/
theorem atWork_thrown {call : JobCall} (makes : driver.jobCall = some call)
    (takes : takesLease call) (text : String)
    : (driver.thrown text).atWork = true := by
  cases place : driver.stage with
  | starting => simp [StudioDriver.atWork, StudioDriver.thrown, place]
  | marking step => simp [StudioDriver.atWork, StudioDriver.thrown, place]
  | _ =>
      simp only [StudioDriver.jobCall, place, Option.some.injEq, reduceCtorEq] at makes
      all_goals
        subst makes
        cases takes

/-- What landed has landed, whether or not the driver gets the answer. -/
theorem Ran.lost (ran : Ran sqlite normalised plane driver after next) (text : String)
    : Ran sqlite normalised plane driver after (driver.thrown text) := by
  cases ran with
  | called makes onward works =>
      exact .called makes (thrown_onward text) fun takes => atWork_thrown makes takes text
  | read makes elsewhere onward => exact .read makes elsewhere (thrown_onward text)
  | cleared place onward => exact .cleared place (thrown_onward text)
  | queried place made landed job context vouches =>
      refine .queried place made landed rfl rfl fun releases _ => ?_
      simp only [StudioDriver.Vouches, StudioDriver.thrown, place, Stage.Vouches]
  | uploaded place onward => exact .uploaded place (thrown_onward text)
  | recorded place onward => exact .recorded place (thrown_onward text)

/-- The effect of what the driver does next lands. -/
def DriverAct.lands : DriverAct → Bool
  | .run _ | .lose _ => true
  | .fail _ | .beat | .die => false

/-- The statement on the job of a driver that an act makes. -/
def StudioDriver.actCall (driver : StudioDriver) : DriverAct → Option JobCall
  | .run _ | .lose _ => driver.jobCall
  | .beat => some (.renewJobLease driver.jobId jobLeaseSeconds)
  | .fail _ | .die => none

/-- What an act does to the plane and to the driver. -/
inductive Acted (sqlite : Sqlite σ) (normalised : ByteCounts) (plane : UpgradePlane σ)
    (driver : StudioDriver) (act : DriverAct) : UpgradePlane σ → StudioDriver → Prop
  | landed {after : UpgradePlane σ} {next : StudioDriver} (lands : act.lands)
      (makes : driver.actCall act = driver.jobCall)
      (ran : Ran sqlite normalised plane driver after next)
      : Acted sqlite normalised plane driver act after next
  | beat (beats : act = .beat)
      : Acted sqlite normalised plane driver act
          (plane.callJob (.renewJobLease driver.jobId jobLeaseSeconds)) driver
  | silent {next : StudioDriver} (lands : act.lands = false) (makes : driver.actCall act = none)
      (onward : Onward σ driver next)
      : Acted sqlite normalised plane driver act plane next

/-- Only a driver at work acts. -/
theorem act_cases {act : DriverAct}
    (acted : driver.act sqlite normalised plane act = some (after, next))
    : driver.atWork = true ∧ Acted sqlite normalised plane driver act after next := by
  have ranAtWork {servingStatus : Nat}
      {done : UpgradePlane σ × StudioDriver}
      (ran : driver.ran sqlite normalised plane servingStatus = some done)
      : driver.atWork = true := by
    cases place : driver.stage with
    | ended => simp [StudioDriver.ran, StudioDriver.jobCall, place] at ran
    | _ => simp [StudioDriver.atWork, place]
  cases act with
  | run servingStatus =>
      exact ⟨ranAtWork acted, .landed rfl rfl (ran_cases acted)⟩
  | lose text =>
      obtain ⟨⟨landed, went⟩, ran, same⟩ := Option.map_eq_some_iff.mp acted
      obtain ⟨rfl, rfl⟩ := Prod.mk.inj same
      exact ⟨ranAtWork ran, .landed rfl rfl ((ran_cases ran).lost text)⟩
  | fail text =>
      obtain ⟨atWork, same⟩ := Option.ite_none_right_eq_some.mp acted
      obtain ⟨rfl, rfl⟩ := Prod.mk.inj (Option.some.inj same)
      exact ⟨atWork, .silent rfl rfl (thrown_onward text)⟩
  | beat =>
      obtain ⟨beats, same⟩ := Option.ite_none_right_eq_some.mp acted
      obtain ⟨rfl, rfl⟩ := Prod.mk.inj (Option.some.inj same)
      refine ⟨?_, .beat rfl⟩
      unfold StudioDriver.beats at beats
      unfold StudioDriver.atWork
      split <;> rename_i place <;> simp_all
  | die =>
      obtain ⟨atWork, same⟩ := Option.ite_none_right_eq_some.mp acted
      obtain ⟨rfl, rfl⟩ := Prod.mk.inj (Option.some.inj same)
      exact ⟨atWork, .silent rfl rfl ⟨rfl, rfl, fun _ _ _ => trivial⟩⟩

end ControlPlane.StudioUpgrade
