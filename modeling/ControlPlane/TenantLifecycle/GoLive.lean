import ControlPlane.JobLifecycle.Outcome
import ControlPlane.Provision.Endpoints
import ControlPlane.Store.Ownership
import ControlPlane.Store.SlugClaims
import ControlPlane.Store.TenantResources

/-! The two routes that end the life of a tenant row or promote it: the operator's teardown and the
owner's go-live. Each decides on a row it read, and writes the lifecycle long after.
-/

namespace ControlPlane.TenantLifecycle

open ControlPlane.JobLifecycle
open ControlPlane.Library
open ControlPlane.Store

/-- An error answer: its HTTP status, its code, and what else it says. -/
structure Refusal where
  status : Nat
  code : String
  reason : Option String := none
  step : Option String := none
  slug : Option String := none
  tenantId : Option String := none
  message : Option String := none
  deriving DecidableEq, Repr

-----------------------------------------------------------------------------------------
-- Going live
-----------------------------------------------------------------------------------------

/-- What a plane has wired for a go-live: a provisioner, and the key of the shared pool. -/
structure GoLivePlane where
  provisioner : Bool
  sharedPoolInvokeKey : Option String
  deriving DecidableEq, Repr

/-- A module whose readiness could not be observed. -/
structure UnverifiedModule where
  module : String
  detail : String
  script : String
  deriving DecidableEq, Repr

structure ModuleReadiness where
  verified : List String
  unverified : List UnverifiedModule
  unconfirmed : List String
  attempts : Nat
  elapsedMs : Nat
  deriving DecidableEq, Repr

/-- Why a key was not accepted. -/
structure InvokeKeyRejection where
  reason : String
  detail : Option String
  deriving DecidableEq, Repr

/-- How installing the key and waiting for the modules ended. -/
inductive InstallOutcome
  | probed (readiness : ModuleReadiness)
  | modulesNotReady (step message : String)
  | threw
  deriving DecidableEq, Repr

inductive GoLiveAnswer
  | refused (refusal : Refusal)
  | incomplete (status : TenantLifecycle) (verifiedEndpoints : Nat) (readiness : ModuleReadiness)
      (message : String)
  | live (verifiedEndpoints : Nat) (readiness : ModuleReadiness)
  | threw
  deriving DecidableEq, Repr

/-- Where a go-live request is between two calls, with the row it read. -/
inductive GoLiveAt
  | idle
  | verifying (tenant : Tenant) (key : String) (endpoints : List String)
  | installing (tenant : Tenant) (inScope : List String)
  | promoting (tenant : Tenant) (inScope : List String) (readiness : ModuleReadiness)
  | answered (answer : GoLiveAnswer)
  deriving DecidableEq, Repr

/-- The id of a stored endpoint, which is an object or a bare text. -/
def endpointIdOf (entry : Json) : Option String :=
  entry.text?.or ((entry.field? "id").bind Json.text?)

/-- The endpoint ids of a row. What cannot be read is none. -/
def tenantEndpointIds (tenant : Tenant) : List String :=
  match tenant.endpointsJson.filter (· ≠ "") with
  | none => []
  | some stored =>
      match Json.parse stored with
      | some (.array entries) => entries.filterMap endpointIdOf
      | _ => []

def GoLiveAt.refuse (refusal : Refusal) : GoLiveAt := .answered (.refused refusal)

/-- What performInvokeKeyInstall asks of the row before it calls anything. -/
def performInvokeKeyInstall (plane : GoLivePlane) (tenant : Tenant) (key : String) : GoLiveAt :=
  let endpoints := tenantEndpointIds tenant
  if endpoints = [] then
    .refuse
      { status := 409, code := "no_endpoints"
        message :=
          some "your endpoints have not been created yet; there is nothing to scope a key to" }
  else if tenant.scriptName.getD "" = "" then
    .refuse
      { status := 409, code := "not_provisioned"
        message :=
          some ("your studio was not fully provisioned; retry provisioning before installing a "
            ++ "key") }
  else if plane.provisioner = false then
    .refuse { status := 503, code := "provisioner_unconfigured" }
  else .verifying tenant key endpoints

/-- A key that was rejected is stored nowhere. -/
def afterVerify (tenant : Tenant) : Except InvokeKeyRejection (List String) → GoLiveAt
  | .error rejection =>
      .refuse
        { status := 400, code := "invoke_key_rejected", reason := some rejection.reason
          message := rejection.detail }
  | .ok inScope => .installing tenant inScope

def incompleteMessage (readiness : ModuleReadiness) : String :=
  "the shared render key is installed. Your render modules have not finished picking it up yet "
  ++ "(checked " ++ toString readiness.attempts ++ " times over " ++ toString readiness.elapsedMs
  ++ "ms). This usually clears in under a minute: retry this request to finish going live. There "
  ++ "is no key for you to send."

/-- A tenant is promoted only when no module is left unconfirmed. -/
def afterInstall (tenant : Tenant) (inScope : List String) : InstallOutcome → GoLiveAt
  | .threw => .answered .threw
  | .modulesNotReady step message =>
      .refuse
        { status := 503, code := "modules_not_ready", step := some step, message := some message }
  | .probed readiness =>
      if readiness.unconfirmed = [] then .promoting tenant inScope readiness
      else
        .answered
          (.incomplete tenant.status inScope.length readiness (incompleteMessage readiness))

/-- The row as the session route finds it, and whether the body names a key. -/
def installInvokeKey (plane : GoLivePlane) (accountId : String) (namesKey : Bool)
    : Option Tenant → GoLiveAt
  | none => .refuse { status := 404, code := "not_found" }
  | some tenant =>
      if tenant.accountId ≠ accountId then .refuse { status := 404, code := "not_found" }
      else if namesKey then
        .refuse
          { status := 400, code := "invoke_key_not_accepted"
            message :=
              some ("this studio runs on our shared render capacity. A RunPod key is not "
                ++ "accepted. Nothing was stored.") }
      else if readRunPodMode tenant.runpodMode = .shared then
        if plane.provisioner = false then
          .refuse { status := 503, code := "provisioner_unconfigured" }
        else
          match plane.sharedPoolInvokeKey.filter (· ≠ "") with
          | none =>
              .refuse
                { status := 503, code := "shared_pool_unconfigured"
                  message :=
                    some ("this studio is set up to use our shared render capacity, which is not "
                      ++ "available on this deploy. Nothing was changed; please get in touch.") }
          | some poolKey => performInvokeKeyInstall plane tenant poolKey
      else
        .refuse
          { status := 409, code := "tenant_not_on_shared_tier"
            message :=
              some ("this studio predates the shared render tier and cannot be completed on this "
                ++ "plane. Nothing was changed; please get in touch.") }

-----------------------------------------------------------------------------------------
-- The operator's teardown
-----------------------------------------------------------------------------------------

/-- What a teardown request says. An ownership assertion may be no text at all. -/
structure TeardownBody where
  confirmSlug : Option String
  deleteData : Bool
  iOwn : Option (Option String)
  deriving DecidableEq, Repr

/-- What a teardown was asked, and the row it was asked for. -/
structure TeardownRequest where
  tenant : Tenant
  deleteData : Bool
  ignoreTombstoneReferrers : Bool
  deriving DecidableEq, Repr

/-- Where a teardown is between two calls: it has been confirmed, holds its lease and token, has
swept, has read the row back, or is answered.
-/
inductive TeardownAt
  | idle
  | confirmed (request : TeardownRequest)
  | leased (request : TeardownRequest) (lease : Tenant) (token : String)
  | swept (request : TeardownRequest) (token : String) (ok : Bool)
  | finishing (request : TeardownRequest) (token : String) (ok : Bool) (found : Option Tenant)
  | answered (status : TenantLifecycle)
  | refused (refusal : Refusal)
  deriving DecidableEq, Repr

/-- The operator has to name the slug, and may name the row as the owner of what it claims. -/
def confirmTeardown (provisioner : Bool) (body : TeardownBody) (found : Option Tenant)
    : TeardownAt :=
  if provisioner = false then .refused { status := 503, code := "provisioner_unconfigured" }
  else
    match found with
    | none => .refused { status := 404, code := "not_found" }
    | some tenant =>
        if body.confirmSlug.map Kek.trim ≠ some tenant.slug then
          .refused
            { status := 400, code := "slug_confirmation_required", slug := some tenant.slug }
        else
          match body.iOwn with
          | none =>
              .confirmed
                { tenant := tenant, deleteData := body.deleteData
                  ignoreTombstoneReferrers := false }
          | some owner =>
              if owner.map Kek.trim ≠ some tenant.id then
                .refused
                  { status := 400, code := "i_own_mismatch", tenantId := some tenant.id
                    message :=
                      some ("i_own must equal this tenant's id (you are asserting ownership of "
                        ++ "resources this row claims)") }
              else
                .confirmed
                  { tenant := tenant, deleteData := body.deleteData
                    ignoreTombstoneReferrers := true }

/-- The token that a pass under way holds. -/
def TeardownAt.token? : TeardownAt → Option String
  | .leased _ _ token | .swept _ token _ | .finishing _ token _ _ => some token
  | .idle | .confirmed _ | .answered _ | .refused _ => none

-----------------------------------------------------------------------------------------
-- One tenant row, and everything that writes its lifecycle
-----------------------------------------------------------------------------------------

/-- The tables, where every driver of every job, every go-live and every teardown is, and the tokens
that teardowns have minted.
-/
structure RowLife where
  now : Nat
  jobs : Jobs
  tenants : Tenants
  drivers : String → Driver → DriverAt
  goLives : Nat → GoLiveAt
  teardowns : Nat → TeardownAt
  minted : List String := []

/-- A store with its rows, before anything is under way. -/
def RowLife.opening (now : Nat) (jobs : Jobs) (tenants : Tenants) : RowLife where
  now := now
  jobs := jobs
  tenants := tenants
  drivers _ _ := .idle
  goLives _ := .idle
  teardowns _ := .idle

/-- A statement on the row that is none of its lifecycle's. -/
inductive ColumnWrite
  | setTenantEndpoints (endpointsJson : String)
  | setTenantScript (scriptName release : String)
  | clearTenantResource (kind : ResourceKind)
  deriving DecidableEq, Repr

def ColumnWrite.statement (tenantId : String) : ColumnWrite → Update Tenant.id
  | .setTenantEndpoints endpointsJson => Store.setTenantEndpoints tenantId endpointsJson
  | .setTenantScript scriptName release => Store.setTenantScript tenantId scriptName release
  | .clearTenantResource kind => blankResource tenantId kind

/-- Time passes, a job is queued, a driver or a poll makes a store call for a job, a column is
recorded or blanked, and a go-live or a teardown comes to its next call.
-/
inductive LifeAction
  | tick (seconds : Nat)
  | createProvisionJob (id : String) (runpodMode toRelease : Option String)
  | driver (jobId : String) (action : RaceAction)
  | column (write : ColumnWrite)
  | openGoLive (request : Nat) (accountId : String) (namesKey : Bool)
  | verifyKey (request : Nat) (verdict : Except InvokeKeyRejection (List String))
  | installKey (request : Nat) (outcome : InstallOutcome)
  | promote (request : Nat)
  | openTeardown (operator : Nat) (body : TeardownBody)
  | beginTeardown (operator : Nat) (token : String)
  | sweep (operator : Nat) (ok : Bool)
  | readBack (operator : Nat)
  | finishTeardown (operator : Nat)

namespace RowLife

/-- The job's part of the state, as its drivers see it. -/
def race (life : RowLife) (jobId : String) : Race where
  now := life.now
  jobs := life.jobs
  tenants := life.tenants
  pc := life.drivers jobId

/-- The state after a driver of the job made a call. -/
def afterRace (life : RowLife) (jobId : String) (race : Race) : RowLife :=
  { life with
    jobs := race.jobs
    tenants := race.tenants
    drivers := Function.update life.drivers jobId race.pc }

def setGoLive (life : RowLife) (request : Nat) (place : GoLiveAt) : RowLife :=
  { life with goLives := Function.update life.goLives request place }

def setTeardown (life : RowLife) (operator : Nat) (place : TeardownAt) : RowLife :=
  { life with teardowns := Function.update life.teardowns operator place }

variable (plane : GoLivePlane) (tenantId : String)

def row (life : RowLife) : Option Tenant := life.tenants.get? tenantId

def lifecycle (life : RowLife) : Option TenantLifecycle := (life.row tenantId).map Tenant.status

def runs (life : RowLife) (statement : Update Tenant.id) : RowLife :=
  { life with tenants := statement.apply life.tenants }

/-- One call, or nothing when nobody is where it is made. -/
def step (life : RowLife) : LifeAction → Option RowLife
  | .tick seconds => some { life with now := life.now + seconds }
  | .createProvisionJob id runpodMode toRelease =>
      (Store.createProvisionJob life.now life.jobs id tenantId .provision runpodMode
        toRelease).map fun jobs => { life with jobs := jobs }
  | .driver jobId action =>
      match action with
      -- the clock is everyone's, and every other writer has its own action
      | .tick _ | .otherWrite _ => none
      | call => ((life.race jobId).step jobId tenantId call).map (life.afterRace jobId)
  | .column write => some (life.runs (write.statement tenantId))
  | .openGoLive request accountId namesKey =>
      if life.goLives request = .idle then
        some
          (life.setGoLive request
            (installInvokeKey plane accountId namesKey (life.row tenantId)))
      else none
  | .verifyKey request verdict =>
      match life.goLives request with
      | .verifying tenant _ _ => some (life.setGoLive request (afterVerify tenant verdict))
      | _ => none
  | .installKey request outcome =>
      match life.goLives request with
      | .installing tenant inScope =>
          some (life.setGoLive request (afterInstall tenant inScope outcome))
      | _ => none
  | .promote request =>
      match life.goLives request with
      | .promoting _ inScope readiness =>
          some
            ((life.runs (setTenantStatus life.now tenantId .live)).setGoLive request
              (.answered (.live inScope.length readiness)))
      | _ => none
  | .openTeardown operator body =>
      if life.teardowns operator = .idle then
        some
          (life.setTeardown operator
            (confirmTeardown plane.provisioner body (life.row tenantId)))
      else none
  | .beginTeardown operator token =>
      -- randomUUID does not repeat
      if token ∈ life.minted then none
      else
        match life.teardowns operator with
        | .confirmed request =>
            let claim :=
              Store.beginTeardown life.now life.jobs tenantId reclaimLeaseSeconds token
            match claim.returning life.tenants with
            | none =>
                some
                  (life.setTeardown operator
                    (.refused
                      { status := 409, code := "teardown_in_progress"
                        message :=
                          some ("another destructive pass holds this row, or a provision job is "
                            ++ "live on it") }))
            | some lease =>
                some
                  { (life.runs claim).setTeardown operator (.leased request lease token) with
                    minted := token :: life.minted }
        | _ => none
  | .sweep operator ok =>
      match life.teardowns operator with
      | .leased request _ token => some (life.setTeardown operator (.swept request token ok))
      | _ => none
  | .readBack operator =>
      match life.teardowns operator with
      | .swept request token ok =>
          some (life.setTeardown operator (.finishing request token ok (life.row tenantId)))
      | _ => none
  | .finishTeardown operator =>
      match life.teardowns operator with
      | .finishing request token ok found =>
          let finish := Store.finishTeardown life.now tenantId token (ok && request.deleteData)
          let finished := (finish.returning life.tenants).map Tenant.status
          some
            ((life.runs finish).setTeardown operator
              (.answered
                ((finished.or (found.map Tenant.status)).getD request.tenant.status)))
      | _ => none

end RowLife

end ControlPlane.TenantLifecycle
