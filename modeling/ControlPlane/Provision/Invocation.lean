import ControlPlane.Provision.Endpoints
import ControlPlane.Provision.Steps
import ControlPlane.Store.StudioTokens
import ControlPlane.Store.TenantResources
import ControlPlane.Store.Tenants
import ControlPlane.Teardown.Pass

/-! One invocation that drives a provision. What it will call is decided when it starts, from the
tenant row and the progress it was handed; then it makes one call after another, and may yield
after a step, throw at any call, or die between two of them.
-/

namespace ControlPlane.Provision

open ControlPlane.Library
open ControlPlane.Store
open ControlPlane.Teardown (truthy tenantScriptName tenantR2TokenName)

-----------------------------------------------------------------------------------------
-- What an invocation calls
-----------------------------------------------------------------------------------------

def tenantD1Name (slug : String) : String := "vivijure-tenant-" ++ slug

def tenantBucketName (slug : String) : String := "vivijure-tenant-" ++ slug

theorem tenantBucketName_ne_empty (slug : String) : tenantBucketName slug ≠ "" := by
  intro empty
  have parts := String.append_eq_empty_iff.mp empty
  exact absurd parts.1 (by simp)

/-- The advice of a refusal that no continuation can mend. -/
def reprovisionDestroys : String :=
  "this cannot be continued. POST /api/tenant/provision with the same name again destroys the "
  ++ "partial environment and starts over from scratch"

/-- What configuration and the calls outside the store hand to one invocation. Without a pinned
release there is no provisioner, and no ciphertext is empty.
-/
structure Answers where
  sharedPool : Option SharedRunPodPool
  release : { release : String // release ≠ "" }
  databaseId : String
  tokenId : String
  studioTokenEnc : { enc : String // enc ≠ "" }

/-- A call of an invocation, in the order of the source. Calls whose answer goes nowhere but into
an upload are part of that upload.
-/
inductive ProvisionCall
  | setJobRunning
  | setTenantStatus (status : TenantLifecycle)
  | fetchBundle (release : String)
  | createD1 (name : String)
  | setTenantD1 (databaseId : String)
  | applyStudioMigrations (databaseId : Option String) (release : String)
  | createR2Bucket (bucket : String)
  | setTenantBucket (bucket : String)
  | mintBucketToken (name bucket : String)
  | setTenantR2Token (tokenId : String)
  | setTenantRunPodMode (mode : RunPodMode)
  | setTenantEndpoints (endpointsJson : String)
  | uploadStudioScript (scriptName release : String) (databaseId : Option String)
      (bucket tokenId : String)
  | setTenantScript (scriptName release : String)
  | setTenantStudioToken (encValue : String)
  | revoke (tokenId : String)
  | uploadTenantModules (release : String) (endpoints : List TenantEndpoint)
      (databaseId bucket : String) (mode : RunPodMode)
  | installTenantModules (scriptName : String)
  | verifyStudio (scriptName : String)
  | setTenantModulesRelease (release : String)
  | mark (step : ProvisionStep) (mayYield : Bool)
  | finishSucceeded
  | refuse (step message : String)
  deriving DecidableEq, Repr

/-- The module half refuses a tenant without a database or a bucket. The bucket is missed by the
first module of the catalog that writes renders.
-/
def uploadTenantModules (release : String) (endpoints : List TenantEndpoint)
    (databaseId bucket : Option String) (mode : RunPodMode)
    : List ProvisionCall :=
  match truthy databaseId, truthy bucket with
  | none, _ =>
      [.refuse "modules_upload"
        ("no tenant D1 id for the TELEMETRY_DB binding; refusing to upload module workers that "
          ++ "would record no RunPod job rows (cp#248). Repair tenants.d1_database_id or "
          ++ "re-provision")]
  | some _, none =>
      [.refuse "modules_upload"
        ("module alibaba-wan writes tenant renders but the tenant has no R2 bucket recorded; "
          ++ "uploading it would write those renders into the operator bucket")]
  | some databaseId, some bucket => [.uploadTenantModules release endpoints databaseId bucket mode]

/-- How far an earlier invocation got, and the release it is building. -/
structure ProvisionResume where
  done : List ProvisionStep
  release : String

/-- The refusal of an endpoint list that does not read back. -/
def endpointsUnreadable : ProvisionCall :=
  .refuse "runpod_endpoints"
    ("the endpoints recorded for this tenant cannot be read, although the provision got past the "
      ++ "step that writes them; " ++ reprovisionDestroys)

/-- The token that was bound before, once the worker is bound to a new one. -/
def revokePrevious (previousTokenId : Option String) (tokenId : String) : List ProvisionCall :=
  match truthy previousTokenId with
  | some previous => if previous = tokenId then [] else [.revoke previous]
  | none => []

/-- The steps of a provision from the upload on, with the endpoints at hand. -/
def uploadAndVerify (answers : Answers) (tenant : Tenant) (release : String)
    (databaseId : Option String) (endpoints : List TenantEndpoint) (mode : RunPodMode)
    : List ProvisionCall :=
  let script := tenantScriptName tenant.slug
  let bucket := tenantBucketName tenant.slug
  let studio : List ProvisionCall :=
    [.mark .runpodEndpoints true,
      .uploadStudioScript script release databaseId bucket answers.tokenId,
      .setTenantScript script release, .setTenantStudioToken answers.studioTokenEnc,
      .mark .wfpUpload true]
  let ending : List ProvisionCall :=
    [.mark .modulesUpload true, .installTenantModules script, .mark .modulesInstall true,
      .setTenantModulesRelease release, .verifyStudio script, .mark .verify true,
      .setTenantStatus .awaitingGoLive, .finishSucceeded]
  studio ++ revokePrevious tenant.r2TokenId answers.tokenId
  ++ uploadTenantModules release endpoints databaseId (some bucket) mode ++ ending

/-- The endpoints step. A plane without a pool returns, and leaves the job as it is. -/
def endpointsOnward (answers : Answers) (tenant : Tenant) (done : List ProvisionStep)
    (release : String) (databaseId : Option String)
    : List ProvisionCall :=
  if .runpodEndpoints ∈ done then
    match readTenantEndpoints tenant with
    | [] => [endpointsUnreadable]
    | endpoints =>
        uploadAndVerify answers tenant release databaseId endpoints
          (readRunPodMode tenant.runpodMode)
  else
    match answers.sharedPool with
    | none => []
    | some pool =>
        -- the mode before the endpoints, so that pooled ids never stand under the default mode
        [.setTenantRunPodMode .shared, .setTenantEndpoints (stringifyEndpoints pool.endpoints)]
        ++ uploadAndVerify answers tenant release databaseId pool.endpoints .shared

/-- The calls of runProvisionJob. -/
def runProvisionJob (answers : Answers) (tenant : Tenant) (resume : Option ProvisionResume)
    : List ProvisionCall :=
  let done := (resume.map ProvisionResume.done).getD []
  let release := (resume.map ProvisionResume.release).getD answers.release
  let databaseId := if .d1Create ∈ done then tenant.d1DatabaseId else some answers.databaseId
  let bucket := tenantBucketName tenant.slug
  let opening : List ProvisionCall :=
    [.setJobRunning, .setTenantStatus .provisioning, .fetchBundle release]
  let database : List ProvisionCall :=
    if .d1Create ∈ done then []
    else
      [.createD1 (tenantD1Name tenant.slug), .setTenantD1 answers.databaseId,
        .mark .d1Create true]
  let schema : List ProvisionCall :=
    if .d1Migrate ∈ done then []
    else [.applyStudioMigrations databaseId release, .mark .d1Migrate true]
  let storage : List ProvisionCall :=
    if .r2Bucket ∈ done then []
    else [.createR2Bucket bucket, .setTenantBucket bucket, .mark .r2Bucket true]
  -- always minted again; a resume carries the new secret through to the upload
  let token : List ProvisionCall :=
    [.mintBucketToken (tenantR2TokenName tenant.slug) bucket, .setTenantR2Token answers.tokenId,
      .mark .r2Token resume.isNone]
  opening ++ database ++ schema ++ storage ++ token
  ++ endpointsOnward answers tenant done release databaseId

/-- The calls of runModuleSteps, of which a resume skips what is done. -/
def runModuleSteps (tenant : Tenant) (done : List ProvisionStep)
    (endpoints : List TenantEndpoint) (release : String)
    : List ProvisionCall :=
  let script := tenantScriptName tenant.slug
  (if .modulesUpload ∈ done then []
    else
      uploadTenantModules release endpoints tenant.d1DatabaseId tenant.r2BucketName
        (readRunPodMode tenant.runpodMode)
      ++ [.mark .modulesUpload true])
  ++ (if .modulesInstall ∈ done then []
      else [.installTenantModules script, .mark .modulesInstall true])
  ++ (if .verify ∈ done then [] else [.verifyStudio script, .mark .verify true])

-----------------------------------------------------------------------------------------
-- What a continuation refuses
-----------------------------------------------------------------------------------------

/-- The refusals of continueProvisionJob. -/
inductive ResumeRefusal
  | notContiguous (done : List ProvisionStep)
  | noDatabaseId
  | jobGone (jobId : String)
  | modeUnrecorded
  | keyNotStored
  | releaseUnrecorded
  | modeUnrecognised (mode : String)
  | endpointsUnreadable
  | noStudioToken
  | noStudioRelease
  deriving DecidableEq, Repr

/-- The step a refusal names, where the steps done do not say. -/
def ResumeRefusal.step (done : List ProvisionStep) : ResumeRefusal → ProvisionStep
  | .noDatabaseId => .d1Create
  | .endpointsUnreadable => .runpodEndpoints
  | .noStudioToken | .noStudioRelease => .wfpUpload
  | _ => inferStep done

def ResumeRefusal.message : ResumeRefusal → String
  | .notContiguous done =>
      "job progress is not contiguous (" ++ stringifySteps done
        ++ "), so no step order can be inferred from it; this row cannot be resumed"
  | .noDatabaseId =>
      "the job progress record says the database was created but the tenant row has no database "
        ++ "id, so this row is inconsistent and cannot be resumed"
  | .jobGone jobId => "job " ++ jobId ++ " no longer exists; this row cannot be resumed"
  | .modeUnrecorded =>
      "this provision was started before the plane recorded which RunPod shape it was for, so "
        ++ "there is no way to tell whether it can be finished without the original key; "
        ++ reprovisionDestroys
  | .keyNotStored =>
      "provisioning was interrupted before the studio was uploaded, and the RunPod key needed to "
        ++ "finish it is never stored; " ++ reprovisionDestroys
  | .releaseUnrecorded =>
      "this provision did not record which release it was building, so resuming it could upload "
        ++ "a studio that does not match the database schema already created for it; "
        ++ reprovisionDestroys
  | .modeUnrecognised mode =>
      "this provision records an unrecognised RunPod shape (" ++ (Json.str mode).stringify
        ++ "), so it cannot be resumed; " ++ reprovisionDestroys
  | .endpointsUnreadable =>
      "the endpoints recorded for this tenant cannot be read, although the provision got past the "
        ++ "step that writes them; " ++ reprovisionDestroys
  | .noStudioToken =>
      "no studio token is recorded for this tenant, although the provision got past the step that "
        ++ "writes it, so its studio cannot be reached; " ++ reprovisionDestroys
  | .noStudioRelease =>
      "no studio release recorded for this tenant, so the modules that pair with its studio "
        ++ "cannot be identified; " ++ reprovisionDestroys

/-- What a continuation that is not refused does. -/
inductive ResumePlan
  | provision (release : String)
  | modules (endpoints : List TenantEndpoint) (release : String)
  deriving DecidableEq, Repr

/-- Before the upload, only a pooled provision with a recorded release goes on. -/
def planBeforeUpload (job : ProvisionJob) : Except ResumeRefusal ResumePlan :=
  match job.runpodMode with
  | none => .error .modeUnrecorded
  | some mode =>
      if mode = "dedicated" then .error .keyNotStored
      else if mode = "shared" then
        match truthy job.toRelease with
        | none => .error .releaseUnrecorded
        | some release => .ok (.provision release)
      else .error (.modeUnrecognised mode)

/-- Past the upload, each guard names what the row has to say. -/
def planPastUpload (tenant : Tenant) : Except ResumeRefusal ResumePlan :=
  match readTenantEndpoints tenant with
  | [] => .error .endpointsUnreadable
  | endpoints =>
      match truthy tenant.studioTokenEnc, truthy tenant.studioRelease with
      | none, _ => .error .noStudioToken
      | some _, none => .error .noStudioRelease
      | some _, some release => .ok (.modules endpoints release)

/-- The guards of continueProvisionJob, in their order. -/
def planResume (jobId : String) (job : Option ProvisionJob) (tenant : Tenant)
    (done : List ProvisionStep)
    : Except ResumeRefusal ResumePlan :=
  if ¬ Contiguous done then .error (.notContiguous done)
  else if .d1Create ∈ done ∧ tenant.d1DatabaseId = none then .error .noDatabaseId
  else
    match job with
    | none => .error (.jobGone jobId)
    | some job =>
        if .wfpUpload ∈ done then planPastUpload tenant else planBeforeUpload job

/-- The calls of continueProvisionJob. -/
def continueProvisionJob (answers : Answers) (jobId : String) (job : Option ProvisionJob)
    (tenant : Tenant) (done : List ProvisionStep)
    : List ProvisionCall :=
  match planResume jobId job tenant done with
  | .error refusal => [.refuse (refusal.step done).text refusal.message]
  | .ok (.provision release) => runProvisionJob answers tenant (some ⟨done, release⟩)
  | .ok (.modules endpoints release) =>
      runModuleSteps tenant done endpoints release
      ++ [.setTenantModulesRelease release, .setTenantStatus .awaitingGoLive, .finishSucceeded]

/-- A text that is recorded is not empty. -/
theorem truthy_ne_empty {value : Option String} {text : String}
    (recorded : truthy value = some text)
    : text ≠ "" := by
  intro empty
  cases value with
  | none => exact nomatch recorded
  | some other => simp_all [truthy]

/-- Before the upload, what goes on is a provision of a recorded release. -/
theorem planBeforeUpload_eq_ok {job : ProvisionJob} {plan : ResumePlan}
    (planned : planBeforeUpload job = .ok plan)
    : ∃ release, plan = .provision release ∧ release ≠ "" := by
  unfold planBeforeUpload at planned
  split at planned
  · exact nomatch planned
  · split at planned
    · exact nomatch planned
    · split at planned
      · split at planned
        · exact nomatch planned
        · next release recorded =>
            exact ⟨release, (Except.ok.inj planned).symm, truthy_ne_empty recorded⟩
      · exact nomatch planned

/-- Past the upload, what goes on are the module steps, with the endpoints of the row. -/
theorem planPastUpload_eq_ok {tenant : Tenant} {plan : ResumePlan}
    (planned : planPastUpload tenant = .ok plan)
    : ∃ release, plan = .modules (readTenantEndpoints tenant) release
      ∧ readTenantEndpoints tenant ≠ [] ∧ release ≠ "" := by
  unfold planPastUpload at planned
  split at planned
  · exact nomatch planned
  · next readable =>
      split at planned
      · exact nomatch planned
      · exact nomatch planned
      · next release _ recorded =>
          exact ⟨release, (Except.ok.inj planned).symm, readable, truthy_ne_empty recorded⟩

/-- A continuation that goes on has passed the guards on one side of the upload. -/
theorem planResume_eq_ok {jobId : String} {job : Option ProvisionJob} {tenant : Tenant}
    {done : List ProvisionStep} {plan : ResumePlan}
    (planned : planResume jobId job tenant done = .ok plan)
    : (.wfpUpload ∈ done ∧ planPastUpload tenant = .ok plan)
      ∨ (.wfpUpload ∉ done ∧ ∃ recorded, job = some recorded
        ∧ planBeforeUpload recorded = .ok plan) := by
  unfold planResume at planned
  split at planned
  · exact nomatch planned
  · split at planned
    · exact nomatch planned
    · split at planned
      · exact nomatch planned
      · next recorded =>
          split at planned
          · next uploaded => exact .inl ⟨uploaded, planned⟩
          · next notUploaded => exact .inr ⟨notUploaded, recorded, rfl, planned⟩

-----------------------------------------------------------------------------------------
-- An invocation, one call after another
-----------------------------------------------------------------------------------------

/-- The two rows of a provision. -/
structure Rows where
  job : ProvisionJob
  tenant : Tenant
  deriving DecidableEq, Repr

/-- What a call does to the tenant row. -/
def ProvisionCall.onTenant (now : Nat) (tenant : Tenant) : ProvisionCall → Tenant
  | .setTenantStatus status => (Store.setTenantStatus now tenant.id status).onRow tenant
  | .setTenantD1 databaseId => (Store.setTenantD1 tenant.id databaseId).onRow tenant
  | .setTenantBucket bucket => (Store.setTenantBucket tenant.id bucket).onRow tenant
  | .setTenantR2Token tokenId => (Store.setTenantR2Token tenant.id tokenId).onRow tenant
  | .setTenantRunPodMode mode => (Store.setTenantRunPodMode tenant.id mode).onRow tenant
  | .setTenantEndpoints endpointsJson =>
      (Store.setTenantEndpoints tenant.id endpointsJson).onRow tenant
  | .setTenantScript scriptName release =>
      (Store.setTenantScript tenant.id scriptName release).onRow tenant
  | .setTenantStudioToken encValue =>
      (Store.setTenantStudioToken tenant.id encValue).onRow tenant
  | .setTenantModulesRelease release =>
      (Store.setTenantModulesRelease tenant.id (some release)).onRow tenant
  | _ => tenant

/-- What a call other than a mark does to the job row. -/
def ProvisionCall.onJob (now : Nat) (job : ProvisionJob) : ProvisionCall → ProvisionJob
  | .setJobRunning => (Store.setJobRunning now job.id).onRow job
  | .finishSucceeded => (finishJob now job.id .succeeded none none).onRow job
  | _ => job

/-- What a call does to the two rows. A call outside the store does nothing to them. -/
def ProvisionCall.run (now : Nat) (rows : Rows) (call : ProvisionCall) : Rows where
  job := call.onJob now rows.job
  tenant := call.onTenant now rows.tenant

/-- Where an invocation is between two of its calls. -/
inductive Invocation
  | working (done : List ProvisionStep) (rest : List ProvisionCall)
  | yielding (after : ProvisionStep)
  | failing (step message : String)
  | owesStatus
  | rollingBack
  | returned
  deriving DecidableEq, Repr

/-- What an invocation does next. -/
inductive Move
  | call (budgetSpent : Bool)
  | throws (step message : String)
  | rollback (left : Tenant)

/-- The rows and the invocation after its next call. A throw is possible at every call, also at
those whose failure is only logged, and a rollback leaves some row behind.
-/
def Invocation.step (now : Nat) (rows : Rows) : Invocation → Move → Option (Rows × Invocation)
  | .working done (.mark step mayYield :: rest), .call budgetSpent =>
      let next := record done step
      let progress := updateJobProgress now rows.job.id step.text (stringifySteps next)
      some ({ rows with job := progress.onRow rows.job },
        if mayYield && budgetSpent then .yielding step else .working next rest)
  | .working _ (.refuse step message :: _), .call _ => some (rows, .failing step message)
  | .working done (call :: rest), .call _ => some (call.run now rows, .working done rest)
  | .working _ [], .call _ => some (rows, .returned)
  | .working _ _, .throws step message => some (rows, .failing step message)
  | .yielding _, .call _ =>
      some ({ rows with job := (releaseJobLease rows.job.id).onRow rows.job }, .returned)
  | .failing step message, .call _ =>
      -- a refused close means that this driver does not own the outcome
      let close := finishJob now rows.job.id .failed (some step) (some message)
      some ({ rows with job := close.onRow rows.job },
        if close.guard rows.job then .owesStatus else .returned)
  | .owesStatus, .call _ =>
      let write := Store.setTenantStatus now rows.tenant.id .failed
      some ({ rows with tenant := write.onRow rows.tenant }, .rollingBack)
  | .rollingBack, .rollback left => some ({ rows with tenant := left }, .returned)
  | _, _ => none

end ControlPlane.Provision
