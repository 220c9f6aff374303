import ControlPlane.Library.Programs
import ControlPlane.Library.Runs
import ControlPlane.Modules.Upload
import ControlPlane.Provision.Steps

/-! Module upgrades of one live tenant, one at a time. A run uploads the whole catalog from one
release, has the studio install it, and verifies it; it yields to nobody, so a spent budget ends it.
-/

namespace ControlPlane.Modules

open ControlPlane.Library
open ControlPlane.Provision (ProvisionStep TenantEndpoint inferStep stringifySteps)
open ControlPlane.Store
open ControlPlane.Workers

/-- A module worker as a release publishes it. -/
structure ModuleBundle where
  mainModule : String
  moduleText : String
  compatibilityDate : String
  compatibilityFlags : Option (List String)
  deriving DecidableEq, Repr

/-- A bundle that was fetched at a release. -/
structure FetchedBundle (release : String) where
  module : String
  bundle : ModuleBundle

/-- What a preflight has gathered for a run, with the bundles of the release it fetched. -/
structure ModuleUpgradeContext where
  script : String
  endpoints : List TenantEndpoint
  studioApiToken : String
  release : String
  bundles : List (FetchedBundle release)

/-- What configuration and the calls outside the store hand to a run. -/
structure UpgradeAnswers where
  plane : ModulePlane
  aigTokenValue : String
  fetchBundle : (release : String) → String → Except String ModuleBundle

/-- A call of a run, in the order of the source. -/
inductive UpgradeCall
  | setJobRunning
  | setTenantModulesRelease (release : Option String)
  | revokeByName (name : String)
  | mintAigToken (name : String)
  | createDispatchNamespace
  | uploadUserWorker (scriptName release : String) (fetched : FetchedBundle release)
      (bindings : List WorkerBinding)
  | awaitStudioTokenLive (script : String)
  | installModule (script module scriptName : String)
  | verifyStudio (script : String)
  | mark (step : ProvisionStep)
  | finishSucceeded
  | refuse (step : ProvisionStep) (message : String)

/-- A call to a module, to Cloudflare or to a studio, whose failure is the run's. That a revoke fails
is only logged.
-/
def UpgradeCall.external : UpgradeCall → Bool
  | .mintAigToken _ | .createDispatchNamespace | .uploadUserWorker _ _ _ _
  | .awaitStudioTokenLive _ | .installModule _ _ _ | .verifyStudio _ => true
  | _ => false

-----------------------------------------------------------------------------------------
-- What a run calls
-----------------------------------------------------------------------------------------

def tenantAigTokenName (slug : String) : String := "vivijure-tenant-" ++ slug ++ "-aig"

/-- A prefetched bundle, or one fetched inline at the same release. -/
def bundleFor (answers : UpgradeAnswers) (context : ModuleUpgradeContext) (module : String)
    : Except String (FetchedBundle context.release) :=
  match context.bundles.find? fun fetched => fetched.module = module with
  | some fetched => .ok fetched
  | none =>
      (answers.fetchBundle context.release module).map fun bundle =>
        { module := module, bundle := bundle }

/-- What an inline fetch says, where it fails. -/
def fetchFailure (answers : UpgradeAnswers) (context : ModuleUpgradeContext) (module : String)
    : Option String :=
  match bundleFor answers context module with
  | .error message => some message
  | .ok _ => none

/-- The uploads of a list of modules, up to the first that is refused. -/
def uploadCalls (answers : UpgradeAnswers) (context : ModuleUpgradeContext) (tenantId : String)
    (telemetryD1Id : String) (tenant : ModuleTenant)
    : List TenantModuleSpec → List UpgradeCall
  | [] => []
  | spec :: rest =>
      let bindings :=
        moduleBindings answers.plane tenantId telemetryD1Id tenant
          (answers.plane.proxyBinding tenant.runpodMode tenantId) (fetchFailure answers context) spec
      match bindings, bundleFor answers context spec.module with
      | .error message, _ => [.refuse .modulesUpload message]
      | .ok _, .error message => [.refuse .modulesUpload message]
      | .ok bindings, .ok fetched =>
          .uploadUserWorker (tenantModuleScriptName tenantId spec.module) context.release fetched
              bindings
            :: uploadCalls answers context tenantId telemetryD1Id tenant rest

/-- What the upload is given of the tenant row. -/
def moduleTenant (tenant : Tenant) (endpoints : List TenantEndpoint) (aigTokenValue : Option String)
    : ModuleTenant where
  slug := tenant.slug
  endpoints := endpoints
  telemetryD1Id := tenant.d1DatabaseId
  bucketName := tenant.r2BucketName
  runpodMode := readRunPodMode tenant.runpodMode
  aigTokenValue := aigTokenValue

/-- The upload of the whole catalog. A tenant without a database is refused. -/
def uploadCatalog (answers : UpgradeAnswers) (context : ModuleUpgradeContext) (tenantId : String)
    (tenant : ModuleTenant)
    : List UpgradeCall :=
  if given tenant.telemetryD1Id then
    .createDispatchNamespace
      :: uploadCalls answers context tenantId (tenant.telemetryD1Id.getD "") tenant
        TENANT_MODULE_CATALOG
  else
    [.refuse .modulesUpload
      ("no tenant D1 id for the TELEMETRY_DB binding; refusing to upload module workers that would "
        ++ "record no RunPod job rows (cp#248). Repair tenants.d1_database_id or re-provision")]

/-- The token of the gateway, minted again where the plane has a gateway. -/
def aigTokenCalls (answers : UpgradeAnswers) (slug : String) : List UpgradeCall :=
  if given answers.plane.aiGatewayId then
    [.revokeByName (tenantAigTokenName slug), .mintAigToken (tenantAigTokenName slug)]
  else []

/-- installTenantModules: the studio installs one module after another. -/
def installCalls (script tenantId : String) : List UpgradeCall :=
  .awaitStudioTokenLive script
    :: TENANT_MODULE_CATALOG.map fun spec =>
      .installModule script spec.module (tenantModuleScriptName tenantId spec.module)

/-- runModuleSteps of an upgrade, which skips no step. -/
def runModuleSteps (answers : UpgradeAnswers) (context : ModuleUpgradeContext) (tenant : Tenant)
    : List UpgradeCall :=
  let aigTokenValue :=
    if given answers.plane.aiGatewayId then some answers.aigTokenValue else none
  aigTokenCalls answers tenant.slug
  ++ uploadCatalog answers context tenant.id (moduleTenant tenant context.endpoints aigTokenValue)
  ++ [.mark .modulesUpload]
  ++ installCalls context.script tenant.id
  ++ [.mark .modulesInstall, .verifyStudio context.script, .mark .verify]

/-- The calls of upgradeTenantModules. The release column is cleared before the first upload. -/
def upgradeTenantModules (answers : UpgradeAnswers) (context : ModuleUpgradeContext)
    (tenant : Tenant)
    : List UpgradeCall :=
  [.setJobRunning, .setTenantModulesRelease none]
  ++ runModuleSteps answers context tenant
  ++ [.setTenantModulesRelease (some context.release), .finishSucceeded]

-----------------------------------------------------------------------------------------
-- What the calls leave behind
-----------------------------------------------------------------------------------------

/-- The module scripts of the tenant: the release each was last uploaded from, on which the last pass
of installs has got through as they are, and whether the last verification passed on them.
-/
structure ModuleScripts where
  uploadedFrom : String → Option String
  installed : String → Bool
  verified : Bool

/-- What a call that comes back does to the scripts. -/
def UpgradeCall.landsOn (scripts : ModuleScripts) : UpgradeCall → ModuleScripts
  | .uploadUserWorker _ release fetched _ =>
      { uploadedFrom := Function.update scripts.uploadedFrom fetched.module (some release)
        installed := Function.update scripts.installed fetched.module false
        verified := false }
  -- a pass of installs starts here
  | .awaitStudioTokenLive _ => { scripts with installed := fun _ => false, verified := false }
  | .installModule _ module _ =>
      { scripts with installed := Function.update scripts.installed module true, verified := false }
  | .verifyStudio _ => { scripts with verified := true }
  | _ => scripts

/-- What a call that throws, or that its run dies in, does to them. An upload may have landed, and a
pass that had started has not passed.
-/
def UpgradeCall.breaksOn (landed : Bool) (scripts : ModuleScripts) : UpgradeCall → ModuleScripts
  | .uploadUserWorker scriptName release fetched bindings =>
      if landed then
        UpgradeCall.landsOn scripts (.uploadUserWorker scriptName release fetched bindings)
      else scripts
  | .awaitStudioTokenLive _ => { scripts with installed := fun _ => false, verified := false }
  | .installModule _ module _ =>
      { scripts with installed := Function.update scripts.installed module false, verified := false }
  | .verifyStudio _ => { scripts with verified := false }
  | _ => scripts

/-- Where a run is. -/
inductive UpgradeStage
  | calling (rest : List UpgradeCall)
  | failing (step : ProvisionStep) (message : String)
  | ended
  | died

/-- One run, with the release it ships, the clock it started at and its budget. -/
structure UpgradeRun where
  release : String
  startedAt : Int
  budgetMs : Int
  done : List ProvisionStep := []
  stage : UpgradeStage

/-- The tenant row, the module scripts, and the run that was started last, with its job. -/
structure ModuleUpgrades where
  now : Nat
  tenant : Tenant
  scripts : ModuleScripts
  current : Option (ProvisionJob × UpgradeRun)

/-- What can happen: time passes, a run starts, its next call comes back by some reading of the clock,
throws, or is its last one as the run dies, and the heartbeat beats.
-/
inductive ModuleUpgradeAction
  | tick (seconds : Nat)
  | start (jobId : String) (answers : UpgradeAnswers) (context : ModuleUpgradeContext)
      (seen : Tenant) (startedAt budgetMs : Int)
  | call (clock : Int)
  | throws (named : Option ProvisionStep) (message : String) (landed : Bool)
  | die (landed : Bool)
  | beat

/-- What a run that runs out of its budget leaves on its job. -/
def exhaustedMessage (after : ProvisionStep) : String :=
  "the upgrade ran out of its invocation budget after " ++ after.text
    ++ "; module bytes may be mixed (see steps_done) and the tenant is still serving. Re-run the "
    ++ "upgrade to finish it, or re-run at from_release to go back."

/-- No run is at work. -/
def UpgradeRun.over (run : UpgradeRun) : Bool :=
  match run.stage with
  | .ended | .died => true
  | _ => false

/-- The row createModuleUpgradeJob inserts. -/
def moduleUpgradeJob (now : Nat) (id tenantId : String) (fromRelease : Option String)
    (toRelease : String)
    : ProvisionJob :=
  { queuedJob now id tenantId .moduleUpgrade none (some toRelease) with fromRelease := fromRelease }

/-- The call that a run is to make next. -/
def UpgradeRun.next (run : UpgradeRun) : Option (UpgradeCall × List UpgradeCall) :=
  match run.stage with
  | .calling (call :: rest) => some (call, rest)
  | _ => none

/-- A call that comes back. No statement of the store fails. -/
def ModuleUpgrades.calls (state : ModuleUpgrades) (job : ProvisionJob) (run : UpgradeRun)
    (clock : Int) (rest : List UpgradeCall)
    : UpgradeCall → ModuleUpgrades
  | .setJobRunning =>
      { state with
        current :=
          some ((Store.setJobRunning state.now job.id).onRow job, { run with stage := .calling rest }) }
  | .setTenantModulesRelease release =>
      { state with
        tenant := (Store.setTenantModulesRelease state.tenant.id release).onRow state.tenant
        current := some (job, { run with stage := .calling rest }) }
  | .mark step =>
      let done := run.done ++ [step]
      let progress := updateJobProgress state.now job.id step.text (stringifySteps done)
      { state with
        current :=
          some
            (progress.onRow job,
              { run with
                done := done
                stage :=
                  if run.budgetMs ≤ clock - run.startedAt then .failing step (exhaustedMessage step)
                  else .calling rest }) }
  | .finishSucceeded =>
      { state with
        current :=
          some ((finishJob state.now job.id .succeeded none none).onRow job,
            { run with stage := .ended }) }
  | .refuse step message =>
      { state with current := some (job, { run with stage := .failing step message }) }
  | call =>
      { state with
        scripts := call.landsOn state.scripts
        current := some (job, { run with stage := .calling rest }) }

/-- The state after an action. -/
def ModuleUpgrades.step (state : ModuleUpgrades) : ModuleUpgradeAction → Option ModuleUpgrades
  | .tick seconds => some { state with now := state.now + seconds }
  | .start jobId answers context seen startedAt budgetMs =>
      if (state.current.all fun before => before.2.over) ∧ seen.id = state.tenant.id then
        some
          { state with
            current :=
              some
                (moduleUpgradeJob state.now jobId seen.id seen.modulesRelease context.release,
                  { release := context.release
                    startedAt := startedAt
                    budgetMs := budgetMs
                    stage := .calling (upgradeTenantModules answers context seen) }) }
      else none
  | .call clock =>
      match state.current with
      | none => none
      | some (job, run) =>
          match run.stage with
          | .calling (call :: rest) => some (state.calls job run clock rest call)
          | .failing step message =>
              let close := finishJob state.now job.id .failed (some step.text) (some message)
              some
                { state with current := some (close.onRow job, { run with stage := .ended }) }
          | _ => none
  | .throws named message landed =>
      match state.current with
      | none => none
      | some (job, run) =>
          match run.next with
          | none => none
          | some (call, _) =>
              if call.external then
                some
                  { state with
                    scripts := call.breaksOn landed state.scripts
                    current :=
                      some
                        (job,
                          { run with
                            stage := .failing (named.getD (inferStep run.done)) message }) }
              else none
  | .die landed =>
      match state.current with
      | none => none
      | some (job, run) =>
          if run.over then none
          else
            some
              { state with
                scripts :=
                  match run.next with
                  | some (call, _) => call.breaksOn landed state.scripts
                  | none => state.scripts
                current := some (job, { run with stage := .died }) }
  | .beat =>
      state.current.map fun current =>
        { state with
          current :=
            some
              ((renewJobLease state.now current.1.id jobLeaseSeconds).onRow current.1, current.2) }

end ControlPlane.Modules
