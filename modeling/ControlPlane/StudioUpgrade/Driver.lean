import Mathlib.Data.List.Sort
import ControlPlane.Kek.TokenCrypto
import ControlPlane.Library.JsonText
import ControlPlane.Provision.Driving
import ControlPlane.StudioBindings.Writers
import ControlPlane.StudioUpgrade.Schema

/-! Studio upgrades of one live tenant: the requests of the route and the drivers they start, one
statement, one call or one read at a time. Any number of them are under way, and any may die.
-/

namespace ControlPlane.StudioUpgrade

open ControlPlane.Kek (trim)
open ControlPlane.Library
open ControlPlane.Migrations
open ControlPlane.Provision (jobHasLiveDriver)
open ControlPlane.Store
open ControlPlane.StudioBindings
open ControlPlane.Workers

inductive UpgradeStep
  | d1Migrate
  | assetsUpload
  | wfpUpload
  | verify
  deriving DecidableEq, Repr

def UpgradeStep.text : UpgradeStep → String
  | .d1Migrate => "d1_migrate"
  | .assetsUpload => "assets_upload"
  | .wfpUpload => "wfp_upload"
  | .verify => "verify"

/-- What a driver of upgradeTenantStudio does next. -/
inductive Stage
  | starting
  | readingBindings
  | readingSecrets
  | clearing
  | migrating (run : Migrator)
  | uploadingAssets
  | uploading
  | rereadingBindings
  | rereadingSecrets (after : List CensusEntry)
  | probing (after : List CensusEntry) (secretsAfter : List String)
  | marking (step : UpgradeStep)
  | closingShort (message : String)
  | recording
  | succeeding
  | failing (step : UpgradeStep) (message : String)
  | unhandled (message : String)
  | ended

/-- A run of upgradeTenantStudio, with what it has read and marked. -/
structure StudioDriver where
  jobId : String
  tenant : StudioTenant
  context : StudioUpgradeContext StudioBundle
  before : List CensusEntry := []
  secretsBefore : List String := []
  done : List UpgradeStep := []
  step : UpgradeStep := .d1Migrate
  short : Option String := none
  stage : Stage := .starting

/-- Where a request of the upgrade-studio route is. -/
inductive RequestAt
  | idle
  | checking (tenant : StudioTenant) (release : String)
  | preflighting (tenant : StudioTenant) (release : String)
  | inserting (tenant : StudioTenant) (context : StudioUpgradeContext StudioBundle)
  | auditing (jobId : String) (tenant : StudioTenant) (context : StudioUpgradeContext StudioBundle)
  | starting (jobId : String) (tenant : StudioTenant) (context : StudioUpgradeContext StudioBundle)
  | driving (driver : StudioDriver)
  | answered (status : Nat)

/-- The jobs of the plane, the tenant with its database and its studio script, and where every
request is. Beside them stands the release of the last upload that landed, and whether a seeding
ever recorded a migration that was not applied.
-/
structure UpgradePlane (σ : Type) where
  nowMs : Nat
  config : PlaneConfig
  jobs : Jobs
  tenant : StudioTenant
  database : StudioDatabase σ
  script : ScriptBindings
  uploaded : Option String
  misrecorded : Bool
  requests : Nat → RequestAt

variable {σ : Type}

namespace UpgradePlane

/-- datetime('now'). -/
def now (plane : UpgradePlane σ) : Nat := plane.nowMs / 1000

def put (plane : UpgradePlane σ) (request : Nat) (place : RequestAt) : UpgradePlane σ :=
  { plane with requests := Function.update plane.requests request place }

/-- One of the statements on jobs. -/
def callJob (plane : UpgradePlane σ) (call : JobCall) : UpgradePlane σ :=
  { plane with jobs := (call.statement plane.now).apply plane.jobs }

/-- setTenantStudioRelease on the row of the tenant. -/
def setTenantStudioRelease (plane : UpgradePlane σ) (release : Option String) : UpgradePlane σ :=
  { plane with tenant := { plane.tenant with studioRelease := release } }

/-- A D1 call of a migration run, once it landed. -/
def queried (plane : UpgradePlane σ) (run : Migrator) (database : StudioDatabase σ)
    : UpgradePlane σ :=
  { plane with
    database := database
    misrecorded := plane.misrecorded || decide (Misrecords plane.database run) }

/-- The upload of the studio script, once it landed. -/
def uploadedBy (plane : UpgradePlane σ) (normalised : ByteCounts) (driver : StudioDriver)
    : UpgradePlane σ :=
  { plane with
    script := plane.script.after (upgradeBindings normalised plane.config driver.tenant driver.before)
    uploaded := some driver.context.release }

end UpgradePlane

-----------------------------------------------------------------------------------------
-- The driver
-----------------------------------------------------------------------------------------

/-- JSON.stringify of the steps that are done. -/
def stepsJson (done : List UpgradeStep) : String :=
  (Json.array (done.map fun step => .str step.text)).stringify

/-- The next step is marked: it is noted before the statement that records it. -/
def StudioDriver.mark (driver : StudioDriver) (step : UpgradeStep) : StudioDriver :=
  { driver with step := step, done := driver.done ++ [step], stage := .marking step }

def REQUIRED_TENANT_STUDIO_VARS : List String :=
  ["AUTH_MODE", "R2_S3_BUCKET", "R2_S3_ENDPOINT"]

def sortedNames (names : List String) : List String :=
  names.insertionSort fun one other => one ≤ other

/-- What the readback lacks, as the message of a failed job. -/
def shortfall (before after : List CensusEntry) (secretsBefore secretsAfter : List String)
    (servingStatus : Nat) : Option String :=
  let afterNames := after.map CensusEntry.name
  let missingBindings :=
    (sortedNames (before.map CensusEntry.name)).filter fun name => name ∉ afterNames
  let missingSecrets := (sortedNames secretsBefore).filter fun name => name ∉ secretsAfter
  let missingRequiredVars :=
    REQUIRED_TENANT_STUDIO_VARS.filter fun name => name ∉ afterNames ++ secretsAfter
  if missingBindings = [] ∧ missingSecrets = [] ∧ missingRequiredVars = [] ∧ servingStatus < 500 then
    none
  else
    some
      ("post-upgrade readback is short: missing_bindings=[" ++ ", ".intercalate missingBindings
        ++ "] missing_secrets=[" ++ ", ".intercalate missingSecrets ++ "] missing_required_vars=["
        ++ ", ".intercalate missingRequiredVars ++ "] serving_status=" ++ toString servingStatus)

/-- Where a driver goes once a step is recorded. -/
def StudioDriver.marked (driver : StudioDriver) : UpgradeStep → StudioDriver
  | .d1Migrate =>
      if driver.context.bundle.shipsAssets then { driver with stage := .uploadingAssets }
      else driver.mark .assetsUpload
  | .assetsUpload => { driver with stage := .uploading }
  | .wfpUpload => { driver with stage := .rereadingBindings }
  | .verify =>
      match driver.short with
      | none => { driver with stage := .recording }
      | some message => { driver with stage := .closingShort message }

/-- A run that made its last call has returned. -/
def StudioDriver.migrated (driver : StudioDriver) (run : Migrator) : StudioDriver :=
  match run.next with
  | none => driver.mark .d1Migrate
  | some _ => { driver with stage := .migrating run }

/-- A driver whose call throws: what failed is named by the step it is part of. -/
def StudioDriver.thrown (driver : StudioDriver) (text : String) : StudioDriver :=
  { driver with
    stage :=
      match driver.stage with
      | .migrating _ => .failing .d1Migrate ("tenant D1 migration failed: " ++ text)
      | .uploadingAssets => .failing .assetsUpload ("studio asset upload failed: " ++ text)
      | .uploading => .failing .wfpUpload ("studio script upload failed: " ++ text)
      -- the catch closes the job itself, and the route catches what that throws
      | .failing _ _ => .unhandled ("studio upgrade driver threw: " ++ text)
      | .unhandled _ | .ended => .ended
      | _ => .failing driver.step text }

/-- The statement on its job that a driver makes next. -/
def StudioDriver.jobCall (driver : StudioDriver) : Option JobCall :=
  match driver.stage with
  | .starting => some (.setJobRunning driver.jobId)
  | .marking step => some (.updateJobProgress driver.jobId step.text (stepsJson driver.done))
  | .closingShort message =>
      some (.finishJob driver.jobId .failed (some UpgradeStep.verify.text) (some message))
  | .succeeding => some (.finishJob driver.jobId .succeeded none none)
  | .failing step message =>
      some (.finishJob driver.jobId .failed (some step.text) (some message))
  | .unhandled message => some (.finishJob driver.jobId .failed none (some message))
  | _ => none

variable (sqlite : Sqlite σ) (normalised : ByteCounts)

/-- The effect of what a driver does next, with the driver as it goes on. A D1 call that the engine
refuses has none, and only throws.
-/
def StudioDriver.ran (plane : UpgradePlane σ) (servingStatus : Nat) (driver : StudioDriver)
    : Option (UpgradePlane σ × StudioDriver) :=
  match driver.jobCall with
  | some call =>
      some
        (plane.callJob call,
          match driver.stage with
          | .starting => { driver with stage := .readingBindings }
          | .marking step => driver.marked step
          | _ => { driver with stage := .ended })
  | none =>
      match driver.stage with
      | .readingBindings =>
          some
            (plane,
              { driver with before := getScriptBindings plane.script, stage := .readingSecrets })
      | .readingSecrets =>
          some
            (plane,
              { driver with
                secretsBefore := getScriptSecretNames plane.script
                stage := .clearing })
      | .clearing =>
          some
            (plane.setTenantStudioRelease none,
              { driver with
                stage := .migrating (.ensuring driver.context.bundle.migrations.migrations) })
      | .migrating run =>
          match run.next with
          | some (.ok query) =>
              (plane.database.queryD1 sqlite query).map fun answer =>
                (plane.queried run answer.1, driver.migrated (run.answered answer.2))
          | _ => none
      | .uploadingAssets => some (plane, driver.mark .assetsUpload)
      | .uploading => some (plane.uploadedBy normalised driver, driver.mark .wfpUpload)
      | .rereadingBindings =>
          some (plane, { driver with stage := .rereadingSecrets (getScriptBindings plane.script) })
      | .rereadingSecrets after =>
          some (plane, { driver with stage := .probing after (getScriptSecretNames plane.script) })
      | .probing after secretsAfter =>
          let short := shortfall driver.before after driver.secretsBefore secretsAfter servingStatus
          some (plane, { driver with short := short }.mark .verify)
      | .recording =>
          some
            (plane.setTenantStudioRelease (some driver.context.release),
              { driver with stage := .succeeding })
      | _ => none

/-- What a driver does next lands, with its answer got or lost; or it throws without an effect; the
heartbeat fires; or the driver dies.
-/
inductive DriverAct
  | run (servingStatus : Nat)
  | lose (text : String)
  | fail (text : String)
  | beat
  | die
  deriving DecidableEq, Repr

/-- A driver that has not ended. -/
def StudioDriver.atWork (driver : StudioDriver) : Bool :=
  match driver.stage with
  | .ended => false
  | _ => true

/-- The timer stops when the function returns or throws. -/
def StudioDriver.beats (driver : StudioDriver) : Bool :=
  match driver.stage with
  | .unhandled _ | .ended => false
  | _ => true

def StudioDriver.act (plane : UpgradePlane σ) (driver : StudioDriver)
    : DriverAct → Option (UpgradePlane σ × StudioDriver)
  | .run servingStatus => driver.ran sqlite normalised plane servingStatus
  | .lose text =>
      (driver.ran sqlite normalised plane 0).map fun done => (done.1, driver.thrown text)
  | .fail text => if driver.atWork then some (plane, driver.thrown text) else none
  | .beat =>
      if driver.beats then
        some (plane.callJob (.renewJobLease driver.jobId jobLeaseSeconds), driver)
      else none
  | .die => if driver.atWork then some (plane, { driver with stage := .ended }) else none

-----------------------------------------------------------------------------------------
-- The route
-----------------------------------------------------------------------------------------

/-- getLatestJobForTenant: a job of the tenant that none was created after, if there is one. -/
def IsLatest (jobs : Jobs) (tenantId : String) : Option ProvisionJob → Prop
  | none => ∀ job ∈ jobs.rows, job.tenantId ≠ tenantId
  | some latest =>
      latest ∈ jobs.rows ∧ latest.tenantId = tenantId
      ∧ ∀ job ∈ jobs.rows, job.tenantId = tenantId → job.createdAt ≤ latest.createdAt

instance (jobs : Jobs) (tenantId : String) (latest : Option ProvisionJob)
    : Decidable (IsLatest jobs tenantId latest) := by
  unfold IsLatest; cases latest <;> infer_instance

/-- The row createStudioUpgradeJob inserts. -/
def studioUpgradeJob (now : Nat) (id tenantId : String) (fromRelease : Option String)
    (toRelease : String) : ProvisionJob :=
  { queuedJob now id tenantId .studioUpgrade none (some toRelease) with fromRelease := fromRelease }

/-- The release a body names. -/
def requestedRelease (release : Option String) : String :=
  trim (release.getD "")

/-- The reads of a preflight, with the bundle that the mirror has for the release. -/
def fetchedReads {α : Type} (reads : StudioReads α) (bundle : Except String StudioBundle)
    : StudioReads StudioBundle where
  studioToken := reads.studioToken
  rootStatus := reads.rootStatus
  bundle := bundle
  contract := reads.contract
  storage := reads.storage
  modulesReadable := reads.modulesReadable
  capabilityReason := reads.capabilityReason

/-- Time passes; a request arrives and goes on, statement by statement; it dies before its driver is
there; or its driver acts.
-/
inductive UpgradeAction
  | pass (ms : Nat)
  | arrive (request : Nat) (release : Option String)
  | check (request : Nat) (latest : Option ProvisionJob)
  | preflight (request : Nat) (reads : StudioReads Unit)
  | insert (request : Nat) (jobId : String)
  | audit (request : Nat)
  | start (request : Nat)
  | abandon (request : Nat)
  | drive (request : Nat) (act : DriverAct)

variable (releases : Releases)

/-- The bundle a fetch finds: one that the mirror does not have is not fetched. -/
def fetchedBundle (release : String) (fetch : Except String Unit)
    : Option (Except String StudioBundle) :=
  match fetch with
  | .error thrown => some (.error thrown)
  | .ok () => (releases.bundle release).map .ok

namespace UpgradePlane

/-- One action, where it is enabled. -/
def step (plane : UpgradePlane σ) : UpgradeAction → Option (UpgradePlane σ)
  | .pass ms => some { plane with nowMs := plane.nowMs + ms }
  | .arrive request release =>
      match plane.requests request with
      | .idle =>
          some
            (plane.put request
              (if requestedRelease release = "" then .answered 400
              else .checking plane.tenant (requestedRelease release)))
      | _ => none
  | .check request latest =>
      match plane.requests request with
      | .checking tenant release =>
          if IsLatest plane.jobs tenant.id latest then
            some
              (plane.put request
                (if latest.any (jobHasLiveDriver plane.nowMs) then .answered 409
                else .preflighting tenant release))
          else none
      | _ => none
  | .preflight request reads =>
      match plane.requests request with
      | .preflighting tenant release =>
          (fetchedBundle releases release reads.bundle).map fun bundle =>
            plane.put request
              (match
                preflightStudioUpgrade normalised plane.config tenant release
                  (fetchedReads reads bundle)
              with
              | .error refusal => .answered refusal.status
              | .ok context => .inserting tenant context)
      | _ => none
  | .insert request jobId =>
      match plane.requests request with
      | .inserting tenant context =>
          let job :=
            studioUpgradeJob plane.now jobId tenant.id tenant.studioRelease context.release
          if free : ∀ old ∈ plane.jobs.rows, old.id ≠ job.id then
            some
              ({ plane with jobs := plane.jobs.insert job free }.put request
                (.auditing jobId tenant context))
          else none
      | _ => none
  | .audit request =>
      match plane.requests request with
      | .auditing jobId tenant context =>
          some (plane.put request (.starting jobId tenant context))
      | _ => none
  | .start request =>
      match plane.requests request with
      | .starting jobId tenant context =>
          some
            ((plane.callJob (.setJobRunning jobId)).put request
              (.driving { jobId := jobId, tenant := tenant, context := context }))
      | _ => none
  | .abandon request =>
      match plane.requests request with
      | .idle | .driving _ | .answered _ => none
      | _ => some (plane.put request (.answered 500))
  | .drive request act =>
      match plane.requests request with
      | .driving driver =>
          (driver.act sqlite normalised plane act).map fun acted =>
            acted.1.put request (.driving acted.2)
      | _ => none

end UpgradePlane

end ControlPlane.StudioUpgrade
