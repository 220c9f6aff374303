import ControlPlane.Modules.Catalog

/-! The two operations on the scripts of a tenant's modules: uploading them, and installing the
tenant's RunPod key on them. Either may stop at any call.
-/

namespace ControlPlane.Modules

open ControlPlane.Provision (TenantEndpoint)
open ControlPlane.Store
open ControlPlane.Workers

/-- What a plane has configured when it uploads modules or installs a key. -/
structure ModulePlane where
  hmacHex : HmacHex
  runpodProxy : Option RunpodProxy
  aiGatewayId : Option String
  vpcDoors : (capability : PlannedDoorCapability) → Option (ResolvedDoor capability)

/-- What an upload is given of a tenant. -/
structure ModuleTenant where
  slug : String
  endpoints : List TenantEndpoint
  telemetryD1Id : Option String
  bucketName : Option String
  runpodMode : RunPodMode
  aigTokenValue : Option String

/-- What became of a call: it was done, it failed, or it was done and its answer was lost. -/
inductive CallAnswer
  | done
  | failed (message : String)
  | lost (message : String)
  deriving DecidableEq, Repr

/-- The capability of our own hardware that a module is served by. -/
def doorCapability (spec : TenantModuleSpec) : Option PlannedDoorCapability :=
  if given spec.endpointKey then
    doorBackedPlan.find? fun capability => some capability.key = spec.endpointKey
  else none

/-- The tenant endpoint a module renders against. -/
def endpointOf (tenant : ModuleTenant) (spec : TenantModuleSpec) : Option TenantEndpoint :=
  if given spec.endpointKey ∧ doorCapability spec = none then
    tenant.endpoints.find? fun endpoint => some endpoint.key = spec.endpointKey
  else none

/-- The endpoint of a module, or its doors. Three cases are kept apart: no endpoint key at all, one
that is served by our own hardware, and one that needs an endpoint of the tenant.
-/
def transportBindings (plane : ModulePlane) (tenant : ModuleTenant) (spec : TenantModuleSpec)
    : Except String (List WorkerBinding) :=
  match doorCapability spec with
  | none =>
      match endpointOf tenant spec with
      | some endpoint => .ok [.plainText "RUNPOD_ENDPOINT_ID" endpoint.id]
      | none =>
          if given spec.endpointKey then
            .error ("module " ++ spec.module ++ " needs the " ++ spec.endpointKey.getD ""
              ++ " endpoint, which the tenant does not have")
          else .ok []
  | some capability =>
      match (plane.vpcDoors capability).filter fun door => door.doorsUrl ≠ "" with
      | some door =>
          .ok (.plainText capability.doorsUrlVar door.doorsUrl
            :: door.tokens.map fun token => .secretText token.1 token.2)
      | none =>
          .error ("module " ++ spec.module ++ " is served by our own iron, but this plane "
            ++ "configures no HTTPS door for " ++ capability.key ++ ": set "
            ++ String.intercalate " + " (capability.doorsUrlVar :: capability.tokens)
            ++ ". Workers VPC is not a fallback.")

/-- The pair that lets a module reach RunPod through the plane. Both or neither. -/
def pairBindings (moduleProxy : Option ProxyBinding) (spec : TenantModuleSpec)
    : List WorkerBinding :=
  if reachesRunpod spec then
    match moduleProxy with
    | some proxy =>
        [.plainText MODULE_PROXY_BASE_BINDING proxy.base,
          .secretText MODULE_PROXY_TOKEN_BINDING proxy.token]
    | none => []
  else []

/-- The tenant's bucket, on a module that writes renders. Without a bucket it is refused. -/
def rendersBindings (tenant : ModuleTenant) (spec : TenantModuleSpec)
    : Except String (List WorkerBinding) :=
  if spec.writesTenantRenders then
    if given tenant.bucketName then .ok [.r2Bucket "R2_RENDERS" (tenant.bucketName.getD "")]
    else
      .error ("module " ++ spec.module ++ " writes tenant renders but the tenant has no R2 bucket "
        ++ "recorded; uploading it would write those renders into the operator bucket")
  else .ok []

def telemetryBindings (telemetryD1Id : String) (spec : TenantModuleSpec) : List WorkerBinding :=
  if spec.recordsRunpodJobs then [.d1 "TELEMETRY_DB" telemetryD1Id] else []

/-- The AI Gateway bindings. The gateway and its token go together. -/
def gatewayBindings (plane : ModulePlane) (tenantId : String) (tenant : ModuleTenant)
    (spec : TenantModuleSpec) : List WorkerBinding :=
  if spec.needsAiGateway then
    [.ai "AI", .plainText "TENANT_ID" tenantId, .plainText "TENANT_SLUG" tenant.slug]
    ++ if given plane.aiGatewayId ∧ given tenant.aigTokenValue then
        [.plainText "GATEWAY_ID" (plane.aiGatewayId.getD ""),
          .secretText "CF_AIG_TOKEN" (tenant.aigTokenValue.getD "")]
      else []
  else []

/-- Bindings that must never appear on a tenant module worker. -/
def TENANT_MODULE_FORBIDDEN_BINDINGS : List String := ["RUNPOD_WORKERS_MAX"]

/-- Throw if any forbidden management binding snuck onto a tenant module upload. -/
def assertNoTenantModuleForbiddenBindings (moduleName : String) (bindings : List WorkerBinding)
    : Except String (List WorkerBinding) :=
  match TENANT_MODULE_FORBIDDEN_BINDINGS.find? fun forbidden =>
      forbidden ∈ bindings.map WorkerBinding.name with
  | some forbidden =>
      .error ("module " ++ moduleName ++ ": binding " ++ forbidden
        ++ " is forbidden on tenant modules (cf#361: management API reach must stay "
        ++ "operator-only; refuse rather than upload)")
  | none => .ok bindings

/-- The bindings one module is uploaded with. Its bundle is fetched on the way. -/
def moduleBindings (plane : ModulePlane) (tenantId telemetryD1Id : String) (tenant : ModuleTenant)
    (moduleProxy : Option ProxyBinding) (fetchBundle : String → Option String)
    (spec : TenantModuleSpec) : Except String (List WorkerBinding) := do
  let transport ← transportBindings plane tenant spec
  if let some message := fetchBundle spec.module then
    throw ("fetch module bundle " ++ spec.module ++ ": " ++ message)
  let renders ← rendersBindings tenant spec
  assertNoTenantModuleForbiddenBindings spec.module
    (transport ++ pairBindings moduleProxy spec ++ renders
      ++ telemetryBindings telemetryD1Id spec ++ gatewayBindings plane tenantId tenant spec)

/-- What an upload hears: of the namespace, of each bundle, and of each script. -/
structure UploadAnswers where
  createDispatchNamespace : Option String
  fetchBundle : String → Option String
  uploadUserWorker : String → CallAnswer

/-- One script that was uploaded. -/
structure ModuleUpload where
  spec : TenantModuleSpec
  bindings : List WorkerBinding

/-- The loop of uploadTenantModules: what was uploaded, and the script names or the failure it
stopped at.
-/
def uploadLoop (plane : ModulePlane) (tenantId telemetryD1Id : String) (tenant : ModuleTenant)
    (moduleProxy : Option ProxyBinding) (answers : UploadAnswers)
    : List TenantModuleSpec → List ModuleUpload × Except String (List String)
  | [] => ([], .ok [])
  | spec :: rest =>
      match moduleBindings plane tenantId telemetryD1Id tenant moduleProxy answers.fetchBundle spec
      with
      | .error message => ([], .error message)
      | .ok bindings =>
          match answers.uploadUserWorker spec.module with
          | .failed message => ([], .error message)
          | .lost message => ([{ spec := spec, bindings := bindings }], .error message)
          | .done =>
              let later := uploadLoop plane tenantId telemetryD1Id tenant moduleProxy answers rest
              ({ spec := spec, bindings := bindings } :: later.1,
                later.2.map fun names => tenantModuleScriptName tenantId spec.module :: names)

/-- The proxy decision of a plane for a tenant. -/
def ModulePlane.proxyBinding (plane : ModulePlane) (runpodMode : RunPodMode) (tenantId : String)
    : Option ProxyBinding :=
  tenantModuleProxyBinding plane.hmacHex runpodMode plane.runpodProxy tenantId

/-- Upload the whole catalog. Without a tenant database nothing is touched. -/
def uploadTenantModules (plane : ModulePlane) (tenantId : String) (tenant : ModuleTenant)
    (answers : UploadAnswers) : List ModuleUpload × Except String (List String) :=
  if given tenant.telemetryD1Id then
    match answers.createDispatchNamespace with
    | some message => ([], .error message)
    | none =>
        uploadLoop plane tenantId (tenant.telemetryD1Id.getD "") tenant
          (plane.proxyBinding tenant.runpodMode tenantId) answers TENANT_MODULE_CATALOG
  else
    ([], .error ("no tenant D1 id for the TELEMETRY_DB binding; refusing to upload module workers "
      ++ "that would record no RunPod job rows (cp#248). Repair tenants.d1_database_id or "
      ++ "re-provision"))

-----------------------------------------------------------------------------------------
-- Installing the key
-----------------------------------------------------------------------------------------

/-- What an install hears: of the studio's secret, of each module's, and of the readiness probe. -/
structure InstallAnswers where
  studio : CallAnswer
  module : String → CallAnswer
  ready : Option String

/-- The key reaches the scripts of the catalog one by one, up to the first that fails: on which of
them it was put, and the failure.
-/
def installLoop (scripts : Scripts) (tenantId : String) (answers : InstallAnswers)
    : List TenantModuleSpec → List TenantModuleSpec × Option String
  | [] => ([], none)
  | spec :: rest =>
      match scripts (tenantModuleScriptName tenantId spec.module) with
      | none => ([], some "wfp.putSecret: This Worker does not exist on your account.")
      | some _ =>
          match answers.module spec.module with
          | .failed message => ([], some message)
          | .lost message => ([spec], some message)
          | .done =>
              let later := installLoop scripts tenantId answers rest
              (spec :: later.1, later.2)

/-- Install the tenant's key: on the studio, and on the modules when they are not proxied. The
result is where it was put, and what was thrown.
-/
def installInvokeKey (plane : ModulePlane) (tenantId : String) (scriptName : Option String)
    (runpodMode : String) (answers : InstallAnswers) (scripts : Scripts)
    : List TenantModuleSpec × Option String :=
  if given scriptName then
    match answers.studio with
    | .failed message | .lost message => ([], some message)
    | .done =>
        match plane.proxyBinding (readRunPodMode runpodMode) tenantId with
        -- a proxied module must not receive this key
        | some _ => ([], answers.ready)
        | none =>
            let installs := installLoop scripts tenantId answers TENANT_MODULE_CATALOG
            (installs.1, installs.2.or answers.ready)
  else ([], some "tenant has no studio worker to install the key on")

end ControlPlane.Modules
