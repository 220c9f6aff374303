import ControlPlane.Provision.Endpoints
import ControlPlane.Workers.Settings

/-! The studio variables that the plane projects from its config and a tenant's record, and the
binding set that a provision uploads.
-/

namespace ControlPlane.StudioBindings

open ControlPlane.Library
open ControlPlane.Provision
open ControlPlane.Store
open ControlPlane.Workers

/-- A tenant row with the columns that the studio writers read besides. -/
structure StudioTenant extends Tenant where
  suspendedAt : Option Nat := none
  videoFinishUnreachable : Int := 0
  r2StorageQuotaOverride : Option String := none
  r2StorageQuotaBytes : Option String := none
  deriving DecidableEq, Repr

/-- A text that is there and not empty. -/
def truthy (text : Option String) : Option String :=
  text.filter fun value => value ≠ ""

/-- One plain variable, if there is a text for it. -/
def plainTextOf (name : String) (text : Option String) : List WorkerBinding :=
  (truthy text).toList.map fun value => .plainText name value

-----------------------------------------------------------------------------------------
-- The storage ceiling
-----------------------------------------------------------------------------------------

def STORAGE_QUOTA_VAR : String := "R2_STORAGE_QUOTA_BYTES"

def STORAGE_QUOTA_MODE_VAR : String := "R2_STORAGE_QUOTA_MODE"

/-- The plane's configured ceiling: the value to bind, or what was configured instead of one. -/
structure StorageQuotaConfig where
  bytes : Option String := none
  invalid : Option String := none
  mode : Option String := none
  deriving DecidableEq, Repr

/-- What a tenant row records about its own ceiling. -/
inductive StorageQuotaOverride
  | set (bytes : String)
  | none
  deriving DecidableEq, Repr

/-- The override of a row: nothing where it inherits, or a record nobody can read. -/
inductive RecordedOverride
  | inherits
  | override (recorded : StorageQuotaOverride)
  | corrupt
  deriving DecidableEq, Repr

/-- The two columns, as they come off a tenant row. -/
structure StorageQuotaRow where
  r2StorageQuotaOverride : Option String
  r2StorageQuotaBytes : Option String
  deriving DecidableEq, Repr

def StudioTenant.quotaRow (tenant : StudioTenant) : StorageQuotaRow where
  r2StorageQuotaOverride := tenant.r2StorageQuotaOverride
  r2StorageQuotaBytes := tenant.r2StorageQuotaBytes

/-- Where a ceiling came from. -/
inductive QuotaSource
  | tenant
  | tenantNone
  | plane
  | planeUnset
  deriving DecidableEq, Repr

structure ResolvedStorageQuota where
  bytes : Option String
  source : QuotaSource
  blocked : Option String
  deriving DecidableEq, Repr

/-- JSON.stringify of a column. -/
def jsonColumn (column : Option String) : String :=
  (column.elim Json.null Json.str).stringify

/-- `normalised value` is String(Number(value.trim())) where isPositiveIntegerBytes accepts the
value, and nothing where it refuses.
-/
abbrev ByteCounts := String → Option String

variable (normalised : ByteCounts)

/-- Read a tenant row's override. Unknown modes are not silently ignored. -/
def tenantStorageQuotaOverride (row : StorageQuotaRow) : RecordedOverride :=
  match truthy row.r2StorageQuotaOverride with
  | none => .inherits
  | some mode =>
      if mode = "none" then .override .none
      else if mode = "set" then
        match row.r2StorageQuotaBytes.bind normalised with
        | none => .corrupt
        | some bytes => .override (.set bytes)
      else .corrupt

/-- The one place where the effective ceiling is decided. -/
def resolveStorageQuota (plane : StorageQuotaConfig) (row : StorageQuotaRow)
    : ResolvedStorageQuota :=
  match tenantStorageQuotaOverride normalised row with
  | .corrupt =>
      { bytes := none
        source := .tenant
        blocked := some
          ("this tenant's storage-quota record is unreadable (mode="
            ++ jsonColumn row.r2StorageQuotaOverride ++ ", bytes="
            ++ jsonColumn row.r2StorageQuotaBytes
            ++ "); refusing rather than guessing whether it should be capped, because both guesses "
            ++ "are wrong in opposite directions") }
  | .override .none => { bytes := none, source := .tenantNone, blocked := none }
  | .override (.set bytes) => { bytes := some bytes, source := .tenant, blocked := none }
  | .inherits =>
      match plane.invalid with
      | some invalid =>
          { bytes := none
            source := .plane
            blocked := some
              ("this plane configures TENANT_R2_STORAGE_QUOTA_BYTES=\"" ++ invalid
                ++ "\", which is not a positive integer number of BYTES. The studio would read that "
                ++ "as NO ceiling, so this refuses rather than leaving a tenant uncapped while the "
                ++ "deploy config says otherwise. Fix the var (bytes only, no units), or record a "
                ++ "per-tenant decision on this tenant, and re-run") }
      | none =>
          { bytes := plane.bytes
            source := if plane.bytes = none then .planeUnset else .plane
            blocked := none }

/-- The projection of a ceiling. The mode is bound independently of it. -/
def storageQuotaBindings (bytes mode : Option String) : List WorkerBinding :=
  plainTextOf STORAGE_QUOTA_VAR bytes ++ plainTextOf STORAGE_QUOTA_MODE_VAR mode

def storageQuotaVars : List String :=
  [STORAGE_QUOTA_VAR, STORAGE_QUOTA_MODE_VAR]

def withStorageQuota (carried : List WorkerBinding) (bytes mode : Option String)
    : List WorkerBinding :=
  rederive storageQuotaVars (storageQuotaBindings bytes mode) carried

-----------------------------------------------------------------------------------------
-- The intake page, the finish tier and its doors
-----------------------------------------------------------------------------------------

def ABUSE_REPORT_URL_VAR : String := "ABUSE_REPORT_URL"

def abuseReportUrlBindings (url : Option String) : List WorkerBinding :=
  plainTextOf ABUSE_REPORT_URL_VAR url

def withAbuseReportUrl (carried : List WorkerBinding) (url : Option String)
    : List WorkerBinding :=
  rederive [ABUSE_REPORT_URL_VAR] (abuseReportUrlBindings url) carried

def VIDEO_FINISH_TIER_STATE_VAR : String := "VIDEO_FINISH_TIER_STATE"

def VIDEO_FINISH_UNPROVISIONABLE : String := "unprovisionable"

/-- The flag is an integer, and 1 is the only true. -/
def isVideoFinishUnreachable (videoFinishUnreachable : Int) : Bool :=
  videoFinishUnreachable = 1

def videoFinishTierStateBindings (videoFinishUnreachable : Int) : List WorkerBinding :=
  if isVideoFinishUnreachable videoFinishUnreachable then
    [.plainText VIDEO_FINISH_TIER_STATE_VAR VIDEO_FINISH_UNPROVISIONABLE]
  else []

def withVideoFinishTierState (carried : List WorkerBinding) (videoFinishUnreachable : Int)
    : List WorkerBinding :=
  rederive [VIDEO_FINISH_TIER_STATE_VAR] (videoFinishTierStateBindings videoFinishUnreachable)
    carried

/-- The doors that a plane can have. -/
def mediaDoorNames : List String :=
  ["VIDEO_FINISH_URL", "AUDIO_MIX_URL", "AUDIO_BEAT_SYNC_URL", "IMAGE_PREP_URL", "AUDIO_MASTER_URL"]

/-- The origins of the doors a plane has, each under a name of its own. -/
structure MediaDoorUrls where
  entries : List (String × String) := []
  known : (entries.map Prod.fst).Sublist mediaDoorNames := by decide

/-- No door is configured. -/
def MediaDoorUrls.none : MediaDoorUrls where

def MediaDoorUrls.names (doors : MediaDoorUrls) : List String :=
  doors.entries.map Prod.fst

def MediaDoorUrls.bindings (doors : MediaDoorUrls) : List WorkerBinding :=
  doors.entries.map fun door => .plainText door.1 door.2

/-- The studio binding of the video-finish tier. -/
def VIDEO_FINISH_BINDING : String := "VIDEO_FINISH_VPC"

-----------------------------------------------------------------------------------------
-- What a provision uploads
-----------------------------------------------------------------------------------------

/-- The part of ProvisionDeps that reaches the bindings of a studio. -/
structure PlaneConfig where
  storageQuota : StorageQuotaConfig := {}
  abuseReportUrl : Option String := none
  mediaDoorUrls : MediaDoorUrls := .none
  moduleNamespace : String := ""
  r2Endpoint : String := ""
  spendDailyCeiling : Option String := none
  aiGatewayId : Option String := none

theorem noEndpoints_planned
    : ∀ endpoint ∈ ([] : List TenantEndpoint),
        endpoint.endpointVar ∈ endpointBackedPlan.map PlannedEndpoint.endpointVar :=
  List.forall_mem_nil _

/-- What one provision has built before it uploads the studio. Its endpoints are wired into
variables of the plan.
-/
structure StudioParts where
  dbUuid : String
  bucket : String
  endpoints : List TenantEndpoint
  tokenId : String
  s3Secret : String
  studioApiToken : String
  studioAigTokenValue : Option String
  planned
    : ∀ endpoint ∈ endpoints,
        endpoint.endpointVar ∈ endpointBackedPlan.map PlannedEndpoint.endpointVar

def SPEND_RATELIMIT_NAMESPACE : String := "3001"

/-- The gateway and the token for it are bound both or neither. -/
def gatewayBindings (aiGatewayId studioAigTokenValue : Option String) : List WorkerBinding :=
  match truthy aiGatewayId, truthy studioAigTokenValue with
  | some gateway, some aigToken =>
      [.plainText "GATEWAY_ID" gateway, .secretText "CF_AIG_TOKEN" aigToken]
  | _, _ => []

/-- The bindings a provision uploads with the studio. -/
def provisionedBindings (config : PlaneConfig) (tenant : StudioTenant) (parts : StudioParts)
    : List WorkerBinding :=
  [.assets "ASSETS",
    .dispatchNamespace "MODULE_DISPATCH" config.moduleNamespace,
    .d1 "DB" parts.dbUuid,
    .r2Bucket "R2_RENDERS" parts.bucket,
    .r2Bucket "R2" parts.bucket,
    .plainText "AUTH_MODE" "token",
    .plainText "R2_S3_BUCKET" parts.bucket,
    .plainText "R2_S3_ENDPOINT" config.r2Endpoint]
  ++ parts.endpoints.map (fun endpoint => .plainText endpoint.endpointVar endpoint.id)
  ++ [.secretText "R2_S3_ACCESS_KEY_ID" parts.tokenId,
    .secretText "R2_S3_SECRET_ACCESS_KEY" parts.s3Secret,
    .secretText "STUDIO_API_TOKEN" parts.studioApiToken,
    .ratelimit "SPEND_RATE_LIMITER" SPEND_RATELIMIT_NAMESPACE 30 60]
  ++ plainTextOf "SPEND_DAILY_CEILING" config.spendDailyCeiling
  ++ storageQuotaBindings
      (resolveStorageQuota normalised config.storageQuota tenant.quotaRow).bytes
      config.storageQuota.mode
  ++ config.mediaDoorUrls.bindings
  ++ videoFinishTierStateBindings tenant.videoFinishUnreachable
  ++ abuseReportUrlBindings config.abuseReportUrl
  ++ [.ai "AI"]
  ++ gatewayBindings config.aiGatewayId parts.studioAigTokenValue

/-- The names of what a provision uploads besides the projected variables. -/
def otherStudioNames : List String :=
  ["ASSETS", "MODULE_DISPATCH", "DB", "R2_RENDERS", "R2", "AUTH_MODE", "R2_S3_BUCKET",
    "R2_S3_ENDPOINT", "R2_S3_ACCESS_KEY_ID", "R2_S3_SECRET_ACCESS_KEY", "STUDIO_API_TOKEN",
    "SPEND_RATE_LIMITER", "SPEND_DAILY_CEILING", "AI", "GATEWAY_ID", "CF_AIG_TOKEN"]
  ++ endpointBackedPlan.map PlannedEndpoint.endpointVar

/-- The variables that are projected from the config and the record. -/
def projectedVars : List String :=
  storageQuotaVars ++ mediaDoorNames ++ [VIDEO_FINISH_TIER_STATE_VAR, ABUSE_REPORT_URL_VAR]

/-- The values of the projected variables, in the order a provision binds them. -/
def projectedBindings (config : PlaneConfig) (tenant : StudioTenant) : List WorkerBinding :=
  storageQuotaBindings (resolveStorageQuota normalised config.storageQuota tenant.quotaRow).bytes
      config.storageQuota.mode
  ++ config.mediaDoorUrls.bindings
  ++ videoFinishTierStateBindings tenant.videoFinishUnreachable
  ++ abuseReportUrlBindings config.abuseReportUrl

end ControlPlane.StudioBindings
