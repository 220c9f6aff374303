import ControlPlane.Library.Runs
import ControlPlane.Store.Ownership
import ControlPlane.StudioBindings.Variables

/-! The writers of a live studio's bindings. Each one is refused by its preflight, or sends the
platform the whole set anew: what it keeps as inherited, and the variables it derives.
-/

namespace ControlPlane.StudioBindings

open ControlPlane.Library
open ControlPlane.Store
open ControlPlane.Workers

inductive WriterRefusalCode
  | notProvisioned
  | tenantDeleted
  | tenantSuspended
  | tenantNotLive
  | tenantD1Missing
  | tenantStudioTokenMissing
  | tenantStudioTokenUnreadable
  | tenantStudioNotServing
  | studioBundleUnavailable
  | studioVarContractUndecided
  | planeStorageQuotaMalformed
  | planeQuotaMalformed
  | tenantQuotaRecordUnreadable
  | invalidQuotaBytes
  | studioNotServing
  | studioPredatesQuotaReader
  | planeHasNoIntakeUrl
  | studioReaderAbsent
  | videoFinishDeclared
  deriving DecidableEq, Repr

/-- A refusal that happens before anything is written. -/
structure WriterRefusal where
  code : WriterRefusalCode
  status : Nat
  message : String
  deriving DecidableEq, Repr

variable {α : Type}

def refuse (code : WriterRefusalCode) (status : Nat) (message : String)
    : Except WriterRefusal α :=
  .error { code := code, status := status, message := message }

/-- What a studio says about its own storage, as far as a preflight tells the answers apart. -/
inductive StorageReading
  | unreadable
  | noReader
  | read
  deriving DecidableEq, Repr

/-- What the reads of a preflight find: the decrypted studio token, what the studio serves, and the
target release with its contract. An error is the text of what is thrown.
-/
structure StudioReads (α : Type) where
  studioToken : Except String String := .ok ""
  rootStatus : Nat := 200
  bundle : Except String α
  contract : Except String Unit := .ok ()
  storage : StorageReading := .read
  modulesReadable : Bool := true
  capabilityReason : Option String := none

variable (normalised : ByteCounts)

-----------------------------------------------------------------------------------------
-- Preflights
-----------------------------------------------------------------------------------------

/-- The studio token that the row records, decrypted. -/
def readStudioToken (tenant : StudioTenant) (reads : StudioReads α)
    : Except WriterRefusal String :=
  match truthy tenant.studioTokenEnc with
  | none => refuse .tenantStudioTokenMissing 422 "no studio token recorded for this tenant"
  | some _ =>
      match reads.studioToken with
      | .error thrown =>
          refuse .tenantStudioTokenUnreadable 422
            ("the stored studio token could not be decrypted: " ++ thrown)
      | .ok studioApiToken => .ok studioApiToken

/-- Everything an upgrade run needs. -/
structure StudioUpgradeContext (α : Type) where
  script : String
  release : String
  fromRelease : Option String
  bundle : α
  studioApiToken : String
  deriving DecidableEq, Repr

def preflightStudioUpgrade (config : PlaneConfig) (tenant : StudioTenant) (release : String)
    (reads : StudioReads α)
    : Except WriterRefusal (StudioUpgradeContext α) :=
  match truthy tenant.scriptName with
  | none =>
      refuse .notProvisioned 409
        ("this tenant has no studio script recorded, so there are no bytes to move; it needs a "
          ++ "provision, not an upgrade")
  | some script =>
      if tenant.deletedAt.isSome then refuse .tenantDeleted 404 "this tenant no longer exists"
      else if tenant.suspendedAt.isSome then
        refuse .tenantSuspended 409
          "this tenant is suspended; resume it before upgrading its studio"
      else if tenant.status ≠ .live then
        refuse .tenantNotLive 409
          ("this tenant is " ++ tenant.status.text
            ++ ", not live; an unfinished provision belongs to the resume path")
      else if truthy tenant.d1DatabaseId = none then
        refuse .tenantD1Missing 422
          ("no tenant D1 recorded, so the release's migrations cannot be applied; a bytes move "
            ++ "without its schema is how a studio ends up running code its database cannot serve")
      else
        match readStudioToken tenant reads with
        | .error refusal => .error refusal
        | .ok studioApiToken =>
            if 500 ≤ reads.rootStatus then
              refuse .tenantStudioNotServing 422
                ("the tenant studio answered " ++ toString reads.rootStatus
                  ++ " before the upgrade started; fix that first")
            else
              match reads.bundle, reads.contract with
              | .error thrown, _ =>
                  refuse .studioBundleUnavailable 422
                    ("studio bundle " ++ release ++ " is not usable: " ++ thrown)
              | .ok _, .error thrown => refuse .studioVarContractUndecided 422 thrown
              | .ok bundle, .ok () =>
                  match (resolveStorageQuota normalised config.storageQuota tenant.quotaRow).blocked with
                  | some blocked => refuse .planeStorageQuotaMalformed 409 blocked
                  | none =>
                      .ok
                        { script := script
                          release := release
                          fromRelease := tenant.studioRelease
                          bundle := bundle
                          studioApiToken := studioApiToken }

/-- What an operator asks for; without an intent the studio converges onto the record. -/
inductive StorageQuotaIntent
  | inherit
  | set (bytes : String)
  | none
  deriving DecidableEq, Repr

/-- The row an intent asks for. -/
def StorageQuotaIntent.row : StorageQuotaIntent → StorageQuotaRow
  | .inherit => { r2StorageQuotaOverride := Option.none, r2StorageQuotaBytes := Option.none }
  | .none => { r2StorageQuotaOverride := some "none", r2StorageQuotaBytes := Option.none }
  | .set bytes => { r2StorageQuotaOverride := some "set", r2StorageQuotaBytes := some bytes }

structure StorageQuotaContext where
  script : String
  studioApiToken : String
  bytes : Option String
  source : QuotaSource
  override : Option StorageQuotaIntent
  deriving DecidableEq, Repr

/-- The row of a tenant after an intent is applied. -/
def rowAfter (tenant : StudioTenant) (intent : Option StorageQuotaIntent) : StorageQuotaRow :=
  intent.elim tenant.quotaRow StorageQuotaIntent.row

/-- A byte count in an intent that is no positive integer. -/
def malformedBytes : Option StorageQuotaIntent → Option String
  | some (.set bytes) => if (normalised bytes).isSome then none else some bytes
  | _ => none

def preflightStorageQuota (config : PlaneConfig) (tenant : StudioTenant)
    (intent : Option StorageQuotaIntent) (reads : StudioReads α)
    : Except WriterRefusal StorageQuotaContext :=
  if tenant.deletedAt.isSome then refuse .tenantDeleted 404 "this tenant no longer exists"
  else
    match truthy tenant.scriptName, malformedBytes normalised intent with
    | none, _ =>
        refuse .notProvisioned 409
          ("this tenant has no studio script recorded, so there is nothing to bind a ceiling on; "
            ++ "it needs a provision, not a binding patch")
    | some _, some bytes =>
        refuse .invalidQuotaBytes 400
          ("quota_bytes must be a positive integer number of BYTES, with no unit suffix; got "
            ++ jsonColumn (some bytes) ++ ". 107374182400 = 100 GiB")
    | some script, none =>
        let resolved := resolveStorageQuota normalised config.storageQuota (rowAfter tenant intent)
        match resolved.blocked with
        | some blocked =>
            refuse
              (if resolved.source = .plane then .planeQuotaMalformed
                else .tenantQuotaRecordUnreadable)
              409 blocked
        | none =>
            match readStudioToken tenant reads with
            | .error refusal => .error refusal
            | .ok studioApiToken =>
                match reads.storage with
                | .unreadable =>
                    refuse .studioNotServing 422
                      ("the tenant studio did not answer GET /api/storage/usage with readable "
                        ++ "JSON, so what it enforces cannot be established; fix that before "
                        ++ "writing to it")
                | .noReader =>
                    refuse .studioPredatesQuotaReader 409
                      ("this studio answers 404 for /api/storage/usage, so its bundle predates the "
                        ++ "vivijure-cf v1.11.0 storage-quota reader. Binding the var would be a "
                        ++ "silent no-op: the tenant would carry a ceiling nothing enforces. Move "
                        ++ "the studio bytes first (POST .../upgrade-studio), then re-run this "
                        ++ "route")
                | .read =>
                    .ok
                      { script := script
                        studioApiToken := studioApiToken
                        bytes := resolved.bytes
                        source := resolved.source
                        override := intent }

structure AbuseReportUrlContext where
  script : String
  studioApiToken : String
  url : String
  deriving DecidableEq, Repr

def preflightAbuseReportUrl (config : PlaneConfig) (tenant : StudioTenant) (reads : StudioReads α)
    : Except WriterRefusal AbuseReportUrlContext :=
  if tenant.deletedAt.isSome then refuse .tenantDeleted 404 "this tenant no longer exists"
  else
    match truthy tenant.scriptName, truthy config.abuseReportUrl with
    | none, _ =>
        refuse .notProvisioned 409
          ("this tenant has no studio script recorded, so there is no studio to advertise an "
            ++ "intake path on; it needs a provision, not a binding patch")
    | some _, none =>
        refuse .planeHasNoIntakeUrl 409
          ("this plane cannot name its own abuse-report page (CONTROL_PLANE_HOST is unset), so "
            ++ "there is nothing to advertise; fix the deploy config, then re-run")
    | some script, some url =>
        match readStudioToken tenant reads with
        | .error refusal => .error refusal
        | .ok studioApiToken =>
            if reads.modulesReadable then
              .ok { script := script, studioApiToken := studioApiToken, url := url }
            else
              refuse .studioNotServing 422
                ("the tenant studio did not answer GET /api/modules with readable JSON, so what it "
                  ++ "advertises cannot be established; fix that before writing to it")

def preflightVideoFinishTierState (tenant : StudioTenant) (unreachable : Bool)
    (reads : StudioReads α)
    : Except WriterRefusal String :=
  if tenant.deletedAt.isSome then refuse .tenantDeleted 404 "this tenant no longer exists"
  else
    match truthy tenant.scriptName with
    | none =>
        refuse .notProvisioned 409
          ("this tenant has no studio script recorded, so there is no studio to project the state "
            ++ "onto; it needs a provision, not a tier-state write")
    | some script =>
        match readStudioToken tenant reads with
        | .error refusal => .error refusal
        | .ok _ =>
            if ¬reads.modulesReadable then
              refuse .studioNotServing 422
                ("the tenant studio did not answer GET /api/modules with readable JSON, so what it "
                  ++ "reads cannot be established; fix that before declaring anything about it")
            else if unreachable ∧ reads.capabilityReason = none then
              refuse .studioReaderAbsent 422
                ("this studio does not serve the capability:video-finish key on GET /api/modules, "
                  ++ "so setting " ++ VIDEO_FINISH_TIER_STATE_VAR ++ " would reach nobody. Either "
                  ++ "the video-finish tier is BOUND here (the panel resolves available by "
                  ++ "observation and a label cannot override it), or the studio runs a bundle that "
                  ++ "predates the reader (vivijure-cf v1.9.0). Move the studio bytes first, then "
                  ++ "re-run.")
            else .ok script

def preflightStudioBindings (tenant : StudioTenant) : Except WriterRefusal String :=
  match truthy tenant.scriptName with
  | none =>
      refuse .notProvisioned 409
        ("this tenant has no studio script recorded, so there is nothing to patch; it needs a "
          ++ "provision, not a binding refresh")
  | some script =>
      if isVideoFinishUnreachable tenant.videoFinishUnreachable then
        refuse .videoFinishDeclared 409
          ("this tenant is DECLARED unreachable for the video-finish tier, so attaching the tier "
            ++ "would make that record false. Clear the declaration first "
            ++ "(POST /api/admin/tenants/<id>/video-finish-tier-state with unreachable=false), "
            ++ "then re-run")
      else .ok script

def preflightStudioBindingDetach (tenant : StudioTenant) : Except WriterRefusal String :=
  if tenant.deletedAt.isSome then refuse .tenantDeleted 404 "this tenant no longer exists"
  else
    match truthy tenant.scriptName with
    | none =>
        refuse .notProvisioned 409
          "this tenant has no studio script recorded, so there is no binding set to patch"
    | some script =>
        if isVideoFinishUnreachable tenant.videoFinishUnreachable then
          refuse .videoFinishDeclared 409
            ("this tenant is DECLARED unreachable for the video-finish tier. Detaching under a "
              ++ "live declaration mixes two operator statements about the same capability; clear "
              ++ "the declaration first if you are undoing it, or leave it in place if you are not")
        else .ok script

-----------------------------------------------------------------------------------------
-- The sets the writers send
-----------------------------------------------------------------------------------------

/-- The binding that an upgrade declares its new assets on. -/
def assetsBindingName (before : List CensusEntry) : String :=
  ((before.find? fun entry => entry.type = .assets).map CensusEntry.name).getD "ASSETS"

/-- The binding set of upgradeTenantStudio. -/
def upgradeBindings (config : PlaneConfig) (tenant : StudioTenant) (before : List CensusEntry)
    : List WorkerBinding :=
  let assets := assetsBindingName before
  withStorageQuota
    (withAbuseReportUrl
      (withVideoFinishTierState (inheritAllBut [assets] before ++ [.assets assets])
        tenant.videoFinishUnreachable)
      config.abuseReportUrl)
    (resolveStorageQuota normalised config.storageQuota tenant.quotaRow).bytes
    config.storageQuota.mode

/-- The settings that applyStorageQuota patches. It names no mode. -/
def storageQuotaSettings (bytes : Option String) (before : List CensusEntry)
    : List WorkerBinding :=
  withStorageQuota (inheritAllBut [] before) bytes none

/-- The settings that applyAbuseReportUrl patches. -/
def abuseReportUrlSettings (url : String) (before : List CensusEntry) : List WorkerBinding :=
  withAbuseReportUrl (inheritAllBut [] before) (some url)

/-- The settings that applyVideoFinishTierState patches. -/
def videoFinishTierStateSettings (unreachable : Bool) (before : List CensusEntry)
    : List WorkerBinding :=
  withVideoFinishTierState (inheritAllBut [] before) (if unreachable then 1 else 0)

/-- The settings that refreshTenantStudioBindings patches. -/
def refreshSettings (doors : MediaDoorUrls) (before : List CensusEntry) : List WorkerBinding :=
  inheritAllBut (VIDEO_FINISH_BINDING :: doors.names) before ++ doors.bindings

/-- The settings that detachTenantStudioBinding patches. -/
def detachSettings (videoFinishUnreachable : Int) (before : List CensusEntry)
    : List WorkerBinding :=
  withVideoFinishTierState (inheritAllBut [VIDEO_FINISH_BINDING] before) videoFinishUnreachable

-----------------------------------------------------------------------------------------
-- Calls of the writers
-----------------------------------------------------------------------------------------

/-- A call of one writer, with what its preflight reads. -/
inductive WriterCall
  | upgradeTenantStudio (release : String) (reads : StudioReads Unit)
  | applyStorageQuota (intent : Option StorageQuotaIntent) (reads : StudioReads Unit)
  | applyAbuseReportUrl (reads : StudioReads Unit)
  | applyVideoFinishTierState (unreachable : Bool) (reads : StudioReads Unit)
  | refreshTenantStudioBindings
  | detachTenantStudioBinding

/-- setTenantStorageQuota: one statement writes both columns. -/
def setTenantStorageQuota (tenant : StudioTenant) (row : StorageQuotaRow) : StudioTenant :=
  { tenant with
    r2StorageQuotaOverride := row.r2StorageQuotaOverride
    r2StorageQuotaBytes := row.r2StorageQuotaBytes }

/-- setTenantVideoFinishUnreachable, as far as the flag goes. -/
def setTenantVideoFinishUnreachable (tenant : StudioTenant) (unreachable : Bool) : StudioTenant :=
  { tenant with videoFinishUnreachable := if unreachable then 1 else 0 }

/-- The tenant row that a call leaves: two of the writers record a decision first. -/
def WriterCall.recorded (tenant : StudioTenant) : WriterCall → StudioTenant
  | .applyStorageQuota (some intent) _ => setTenantStorageQuota tenant intent.row
  | .applyVideoFinishTierState unreachable _ => setTenantVideoFinishUnreachable tenant unreachable
  | _ => tenant

/-- What a call sends to a script of the given census, if its preflight lets it. -/
def WriterCall.sends (config : PlaneConfig) (tenant : StudioTenant) (before : List CensusEntry)
    : WriterCall → Except WriterRefusal (List WorkerBinding)
  | .upgradeTenantStudio release reads =>
      (preflightStudioUpgrade normalised config tenant release reads).map fun _ =>
        upgradeBindings normalised config tenant before
  | .applyStorageQuota intent reads =>
      (preflightStorageQuota normalised config tenant intent reads).map fun context =>
        storageQuotaSettings context.bytes before
  | .applyAbuseReportUrl reads =>
      (preflightAbuseReportUrl config tenant reads).map fun context =>
        abuseReportUrlSettings context.url before
  | .applyVideoFinishTierState unreachable reads =>
      (preflightVideoFinishTierState tenant unreachable reads).map fun _ =>
        videoFinishTierStateSettings unreachable before
  | .refreshTenantStudioBindings =>
      (preflightStudioBindings tenant).map fun _ => refreshSettings config.mediaDoorUrls before
  | .detachTenantStudioBinding =>
      (preflightStudioBindingDetach tenant).map fun _ =>
        detachSettings tenant.videoFinishUnreachable before

/-- A studio script, the row of its tenant, and the config of the plane. -/
structure StudioWorld where
  config : PlaneConfig
  tenant : StudioTenant
  script : ScriptBindings

/-- The config or the row changes, or a writer is called. -/
inductive StudioAction
  | configure (config : PlaneConfig)
  | record (tenant : StudioTenant)
  | call (writer : WriterCall)

/-- One action. A call that is refused is not enabled. -/
def StudioWorld.step (world : StudioWorld) : StudioAction → Option StudioWorld
  | .configure config => some { world with config := config }
  | .record tenant => some { world with tenant := tenant }
  | .call writer =>
      match writer.sends normalised world.config world.tenant (getScriptBindings world.script) with
      | .error _ => none
      | .ok desired =>
          some { world with
            tenant := writer.recorded world.tenant
            script := world.script.after desired }

end ControlPlane.StudioBindings
