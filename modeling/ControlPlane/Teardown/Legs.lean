import ControlPlane.Teardown.Pass

/-! The legs of a teardown in their order: the studio worker, the module scripts, the
credentials, and then the data. What holds preserve is not touched at all.
-/

namespace ControlPlane.Teardown

open ControlPlane.Library
open ControlPlane.Store

variable (outside : Outside) (namespaces : Namespaces) (tenant : Tenant) (opts : TeardownOpts)
  (referrers : List ResourceReferrer)

/-- The studio's script: the stored name, or the derived one when the row has none. -/
def scriptToDelete : String :=
  tenant.scriptName.getD (tenantScriptName tenant.slug)

def deleteStudio (pass : Pass) : Pass × Option Thrown :=
  (pass.call (.deleteUserWorker namespaces.studios (scriptToDelete tenant)),
    outside.deleteUserWorker namespaces.studios (scriptToDelete tenant))

/-- Delete the studio worker, so that the tenant stops being reachable first. -/
def workerLeg (pass : Pass) : Pass :=
  let (asked, refused) := guarded outside tenant opts referrers .worker pass
  if refused then asked
  else
    asked.attempt outside tenant.id "worker" (deleteStudio outside namespaces tenant)
      (some .worker) isScriptAbsent

/-- Delete one module script. One that vanished since the listing is where it should be. -/
def deleteModule (pass : Pass) (script : String) : Pass :=
  let issued := pass.call (.deleteUserWorker namespaces.modules script)
  match outside.deleteUserWorker namespaces.modules script with
  | none => issued
  | some thrown =>
      if isScriptAbsent thrown then issued.gone ("module:" ++ script) thrown.text
      else issued.fail ("module:" ++ script) thrown.text

/-- teardownTenantModules: sweep the tenant's prefix, and prove that nothing is left of it. -/
def modulesLeg (pass : Pass) : Pass :=
  let own := fun script : String => (tenantModuleScriptPrefix tenant.id).isPrefixOf script
  match outside.listedModules with
  | .error thrown => pass.fail "modules_list" thrown.text
  | .ok listed =>
      let swept := (listed.filter own).foldl (deleteModule outside namespaces) pass
      match outside.remainingModules with
      | .error thrown => swept.fail "modules_census" thrown.text
      | .ok resident =>
          let remaining := resident.filter own
          if 0 < remaining.length then
            swept.fail "modules_census"
              (toString remaining.length ++ " module script(s) still resident: " ++
                ", ".intercalate remaining)
          else
            swept

/-- Revoke a credential by its name. That there is none is not a failure. -/
def revokeByName (resource name : String) (pass : Pass) : Pass :=
  pass.attempt outside tenant.id resource
    (fun before => (before.call (.revokeByName name), outside.revokeByName name))
    none (fun _ => false)

/-- Revoke the R2 credential by its id, and say whether that worked. -/
def revokeById (tokenId : String) (pass : Pass) : Pass × Bool :=
  let issued := pass.call (.revoke tokenId)
  match outside.revoke tokenId with
  | none => (issued.clearColumn outside tenant.id "r2_token" .r2Token, true)
  | some thrown => (issued.fail "r2_token" thrown.text, false)

/-- Revoke the credential whose id is on the row, and say whether that worked. -/
def revokeStored (pass : Pass) : Pass × Bool :=
  match truthy tenant.r2TokenId with
  | some tokenId => revokeById outside tenant tokenId pass
  | none => (pass, false)

/-- Revoke the credentials before the data they point at: by id, by name where that did not
happen, and the AI Gateway tokens by name only.
-/
def tokensLeg (pass : Pass) : Pass :=
  let (asked, tokenGuarded) := guarded outside tenant opts referrers .r2Token pass
  if tokenGuarded then asked
  else
    let (byId, revokedById) := revokeStored outside tenant asked
    let byName :=
      if revokedById then byId
      else revokeByName outside tenant "r2_token_by_name" (tenantR2TokenName tenant.slug) byId
    let modules :=
      revokeByName outside tenant "aig_token_by_name" (tenantAigTokenName tenant.slug) byName
    revokeByName outside tenant "aig_studio_token_by_name"
      (tenantStudioAigTokenName tenant.slug) modules

/-- Harvest the job log of a database before its source is gone. A partial read is refused. -/
def harvestLeg (pass : Pass) : Pass :=
  match outside.harvestComplete with
  | .error thrown => pass.fail "job_index_harvest" thrown.text
  | .ok false =>
      pass.fail "job_index_harvest"
        ("Error: job log exceeded the 5000-row harvest ceiling, so the index would be silently " ++
          "short of the log we are about to delete; paging is needed before this tenant can be " ++
          "torn down")
  | .ok true =>
      match outside.indexRunpodJobs with
      | some thrown => pass.fail "job_index_harvest" thrown.text
      | none => pass

/-- Harvest and delete the database. A harvest that failed keeps it. -/
def databaseLeg (pass : Pass) : Pass :=
  match truthy tenant.d1DatabaseId with
  | none => pass
  | some databaseId =>
      let (asked, refused) := guarded outside tenant opts referrers .d1 pass
      if refused then asked
      else
        let harvested := harvestLeg outside asked
        if harvested.failures.any fun failure => failure.resource = "job_index_harvest" then
          harvested
        else
          harvested.attempt outside tenant.id "d1"
            (fun before => (before.call (.deleteD1 databaseId), outside.deleteD1))
            (some .d1) (fun _ => false)

/-- Empty a bucket and delete it, under a credential minted for it. -/
def emptyAndDelete (bucket : String) (pass : Pass) : Pass × Option Thrown :=
  let emptying := pass.call (.emptyBucket bucket)
  match outside.emptyBucket with
  | .error thrown => (emptying, some thrown)
  | .ok result =>
      if ¬ result.emptied then
        (emptying, some (.other ("Error: bucket not emptied this cycle (deleted " ++
          toString result.deleted ++ " object(s)" ++
          (match result.stalled with
            | some stalled => if stalled = "" then "" else ", stalled: " ++ stalled
            | none => "") ++
          "); re-run teardown to continue")))
      else
        (emptying.call (.deleteR2Bucket bucket), outside.deleteR2Bucket)

/-- Mint, work, revoke. The revoke comes on every path behind the mint. -/
def emptyThenDeleteBucket (bucket : String) (pass : Pass) : Pass × Option Thrown :=
  let minted := pass.call (.mintBucketToken (tenantR2TeardownTokenName tenant.slug) bucket)
  match outside.mintBucketToken with
  | .error thrown => (minted, some thrown)
  | .ok credentialId =>
      let (worked, thrown) := emptyAndDelete outside bucket minted
      let revoked := worked.call (.revoke credentialId)
      match outside.revoke credentialId with
      | none => (revoked, thrown)
      | some stranded =>
          (revoked.fail "r2_empty_credential"
            ("teardown credential " ++ credentialId ++
              " could NOT be revoked, revoke it by hand: " ++ stranded.text), thrown)

/-- Empty and delete the bucket. A bucket another row points at is not opened. -/
def bucketLeg (pass : Pass) : Pass :=
  match truthy tenant.r2BucketName with
  | none => pass
  | some bucket =>
      let (asked, refused) := guarded outside tenant opts referrers .r2Bucket pass
      if refused then asked
      else
        asked.attempt outside tenant.id "r2_bucket" (emptyThenDeleteBucket outside tenant bucket)
          (some .r2Bucket) (fun _ => false)

/-- The legs behind the studio worker. -/
def reapBehindWorker (pass : Pass) : Pass :=
  let modules := modulesLeg outside namespaces tenant pass
  let tokens := tokensLeg outside tenant opts referrers modules
  if opts.deleteData then
    bucketLeg outside tenant opts referrers (databaseLeg outside tenant opts referrers tokens)
  else
    tokens

/-- The legs of a pass that holds and referrers let through. -/
def reap (pass : Pass) : Pass :=
  reapBehindWorker outside namespaces tenant opts referrers
    (workerLeg outside namespaces tenant opts referrers pass)

/-- The row records what happened, unless the store fails. -/
def recordTeardownSafely (pass : Pass) : Pass :=
  match outside.recordTeardown with
  | none => { pass with recorded := some pass.failures }
  | some _ => pass

/-- One open hold, as a refusal reports it. -/
def PreservationHold.describe (hold : PreservationHold) : String :=
  let clock :=
    match truthy hold.expiresAt with
    | some expiresAt => "preserve-until " ++ expiresAt
    | none => "no clock set"
  hold.id ++ " (" ++ hold.kind ++ ", " ++ clock ++ ", opened " ++ hold.openedAt ++ " by " ++
    hold.openedBy ++ ": " ++ hold.reason ++ ")"

/-- Who else points at the tenant's resources. A row without any is not asked about. -/
def readReferrers (tenants : Tenants) : Except Thrown (List ResourceReferrer) :=
  if resourceKinds.all fun kind => (tenant.resource kind).isNone then .ok []
  else
    match outside.referrers with
    | some thrown => .error thrown
    | none => .ok (findResourceReferrers tenants tenant)

/-- One teardown. An open hold, or a read that cannot tell, refuses the whole pass. -/
def teardownTenant (store : TenantStore) : Pass :=
  let fresh : Pass := { store := store }
  match outside.holds with
  | .error thrown =>
      recordTeardownSafely outside (fresh.fail "preservation_hold"
        ("refused: could not determine whether a preservation hold is open, refusing every " ++
          "deletion: " ++ thrown.text))
  | .ok (hold :: more) =>
      recordTeardownSafely outside (fresh.fail "preservation_hold"
        ("refused: " ++ toString (more.length + 1) ++ " open preservation hold(s) on this " ++
          "tenant, teardown is NEVER permitted while one is open -- suspend instead, and release " ++
          "the hold explicitly if the duty is genuinely over: " ++
          "; ".intercalate ((hold :: more).map PreservationHold.describe)))
  | .ok [] =>
      match readReferrers outside tenant store.tenants with
      | .error thrown =>
          recordTeardownSafely outside (fresh.fail "guard"
            ("referential guard could not run, refusing every deletion: " ++ thrown.text))
      | .ok referrers =>
          recordTeardownSafely outside (reap outside namespaces tenant opts referrers fresh)

structure TeardownOutcome where
  ok : Bool
  failures : List TeardownFailure
  absent : List Absence
  deriving DecidableEq, Repr

/-- What the pass answers: it is ok when nothing failed. Absence is no failure. -/
def Pass.outcome (pass : Pass) : TeardownOutcome where
  ok := pass.failures.length = 0
  failures := pass.failures
  absent := pass.absent

end ControlPlane.Teardown
