import ControlPlane.Store.Rows

/-! The statements that record what a provision has built. The four that name a resource also
claim its ownership, in a statement of its own that leaves the tenants table alone.
-/

namespace ControlPlane.Store

open ControlPlane.Library

/-- How a tenant reaches RunPod. -/
inductive RunPodMode
  | dedicated
  | shared
  deriving DecidableEq, Repr

def RunPodMode.text : RunPodMode → String
  | .dedicated => "dedicated"
  | .shared => "shared"

/-- Anything that is not recognised reads as dedicated. -/
def readRunPodMode (raw : String) : RunPodMode :=
  if raw = "shared" then .shared else .dedicated

/-- UPDATE tenants SET ... WHERE id. -/
def setTenant (id : String) (set : Tenant → Tenant) (keeps : ∀ tenant, (set tenant).id = tenant.id)
    : Update Tenant.id where
  target := id
  guard _ := true
  set := set
  keeps := keeps

def setTenantD1 (id databaseId : String) : Update Tenant.id :=
  setTenant id (fun tenant => { tenant with d1DatabaseId := some databaseId }) fun _ => rfl

def setTenantBucket (id bucket : String) : Update Tenant.id :=
  setTenant id (fun tenant => { tenant with r2BucketName := some bucket }) fun _ => rfl

def setTenantR2Token (id tokenId : String) : Update Tenant.id :=
  setTenant id (fun tenant => { tenant with r2TokenId := some tokenId }) fun _ => rfl

def setTenantEndpoints (id endpointsJson : String) : Update Tenant.id :=
  setTenant id (fun tenant => { tenant with endpointsJson := some endpointsJson }) fun _ => rfl

def setTenantRunPodMode (id : String) (mode : RunPodMode) : Update Tenant.id :=
  setTenant id (fun tenant => { tenant with runpodMode := mode.text }) fun _ => rfl

/-- The studio and its release are recorded by one statement. -/
def setTenantScript (id scriptName release : String) : Update Tenant.id :=
  setTenant id
    (fun tenant =>
      { tenant with scriptName := some scriptName, studioRelease := some release })
    fun _ => rfl

def setTenantModulesRelease (id : String) (release : Option String) : Update Tenant.id :=
  setTenant id (fun tenant => { tenant with modulesRelease := release }) fun _ => rfl

/-- A statement without a test of its own sets the row it names. -/
@[simp] theorem setTenant_onRow (tenant : Tenant) (set : Tenant → Tenant)
    (keeps : ∀ tenant, (set tenant).id = tenant.id)
    : (setTenant tenant.id set keeps).onRow tenant = set tenant :=
  Update.onRow_of_match rfl rfl

end ControlPlane.Store
