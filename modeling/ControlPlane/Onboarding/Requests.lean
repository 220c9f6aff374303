import ControlPlane.Library.Runs
import ControlPlane.Store.Ownership
import ControlPlane.Store.SlugClaims

/-! The two routes that give an account a studio, one store call at a time: the owner's own
provision, and the one an operator makes for an address. Any number of requests are in flight,
and what they start drives on behind them.
-/

namespace ControlPlane.Onboarding

open ControlPlane.Library
open ControlPlane.Store

inductive Route
  | owner
  | operator
  deriving DecidableEq, Repr

/-- The store call, or the teardown, that a request comes to next. -/
inductive Place
  | auditing
  | upserting
  | findingAccount
  | findingSlug
  | findingLease (tenantId : String)
  | claiming (tenantId : String)
  | intending (tenantId token : String)
  | reaping (tenantId token : String)
  | rereading (tenantId token : String) (ok : Bool)
  | reporting (tenantId token : String) (ok : Bool)
  | reclaiming (tenantId token : String)
  | creating
  | queueing (tenantId : String)
  | completing
  | refusing
  deriving DecidableEq, Repr

/-- One request in flight. How many tenant rows there were when it found none of its account is
kept beside it.
-/
structure Request where
  route : Route
  slug : String
  accountId : String
  seen : Nat
  place : Place
  deriving DecidableEq, Repr

/-- The store, the release that is current, the requests in flight, and the tenants whose provision
was started.
-/
structure FrontDoor where
  nowMs : Nat
  release : String
  tenants : Tenants
  jobs : Jobs
  requests : String → Option Request
  started : List String

/-- The database clock, in whole seconds. -/
def FrontDoor.now (state : FrontDoor) : Nat := state.nowMs / 1000

/-- A store with its rows, and no request. -/
def FrontDoor.idle (nowMs : Nat) (release : String) (tenants : Tenants) (jobs : Jobs)
    : FrontDoor where
  nowMs := nowMs
  release := release
  tenants := tenants
  jobs := jobs
  requests _ := none
  started := []

/-- A request goes on to its next call, or is answered. -/
def FrontDoor.setRequest (state : FrontDoor) (id : String) (request : Option Request)
    : FrontDoor :=
  { state with requests := Function.update state.requests id request }

def Request.at (request : Request) (place : Place) : Option Request :=
  some { request with place := place }

/-- An operator's refusal is audited before it is answered. -/
def Request.refused (request : Request) : Option Request :=
  match request.route with
  | .owner => none
  | .operator => request.at .refusing

/-- Where a request goes once its slug is free to take: the owner retakes a row, or looks for a
studio of the account; the operator has looked already, and never reclaims.
-/
def Request.afterSlug (request : Request) (reclaim : Option String) : Option Request :=
  match request.route, reclaim with
  | .owner, some tenantId => request.at (.claiming tenantId)
  | .owner, none => request.at .findingAccount
  | .operator, _ => request.at .creating

/-- The next call of a request. What it mints, if anything, is new. A call that the database
refuses ends the request.
-/
def FrontDoor.call (state : FrontDoor) (id minted : String) (request : Request) : FrontDoor :=
  match request.place with
  | .auditing => state.setRequest id (request.at .upserting)
  | .upserting => state
  | .findingAccount =>
      match getTenantForAccount state.tenants request.accountId with
      | some _ => state.setRequest id request.refused
      | none =>
          let found := { request with seen := state.tenants.rows.length }
          state.setRequest id
            (found.at
              (match request.route with
              | .owner => .creating
              | .operator => .findingSlug))
  | .findingSlug =>
      match classifySlugClaim (getTenantBySlug state.tenants request.slug) request.accountId
          state.nowMs with
      | .unavailable _ => state.setRequest id request.refused
      | .available none => state.setRequest id (request.afterSlug none)
      | .available (some reclaim) =>
          state.setRequest id (request.at (.findingLease reclaim.tenantId))
  | .findingLease tenantId =>
      if hasLiveProvisionLease state.now state.jobs tenantId then
        state.setRequest id request.refused
      else state.setRequest id (request.afterSlug (some tenantId))
  | .claiming tenantId =>
      let claim :=
        claimReclaim state.now state.jobs tenantId request.accountId reclaimLeaseSeconds minted
      match claim.returning state.tenants with
      | none => state.setRequest id none
      | some _ =>
          { state with tenants := claim.apply state.tenants }.setRequest id
            (request.at (.intending tenantId minted))
  | .intending tenantId token => state.setRequest id (request.at (.reaping tenantId token))
  | .reaping _ _ => state
  | .rereading tenantId token ok => state.setRequest id (request.at (.reporting tenantId token ok))
  | .reporting tenantId token ok =>
      -- a teardown that failed does not complete the reclaim
      state.setRequest id (if ok then request.at (.reclaiming tenantId token) else none)
  | .reclaiming tenantId token =>
      let reclaim := reclaimSlug state.now state.jobs tenantId request.accountId token
      match reclaim.returning state.tenants with
      | none => state.setRequest id none
      | some _ =>
          { state with tenants := reclaim.apply state.tenants }.setRequest id
            (request.at (.queueing tenantId))
  | .creating =>
      match createTenant state.now state.tenants minted request.slug request.accountId .pending with
      | none => state.setRequest id none
      | some tenants =>
          { state with tenants := tenants }.setRequest id (request.at (.queueing minted))
  | .queueing tenantId =>
      match createProvisionJob state.now state.jobs minted tenantId .provision (some "shared")
          (some state.release) with
      | none => state.setRequest id none
      | some jobs =>
          { state with
            jobs := jobs
            started := tenantId :: state.started }.setRequest id
            (match request.route with
            | .owner => none
            | .operator => request.at .completing)
  | .completing | .refusing => state.setRequest id none

/-- Time passes; a request arrives, makes its next call, or is dropped; an operator's address is
answered with an account or refused; a teardown blanks a column and ends; and a started provision
writes a status or to a job.
-/
inductive FrontDoorAction
  | tick (ms : Nat)
  | provision (id slug accountId : String)
  | operatorProvision (id slug : String)
  | upserted (id : String) (account : Option String)
  | call (id minted : String)
  | clear (id : String) (kind : ResourceKind)
  | reaped (id : String) (ok : Bool)
  | drop (id : String)
  | driverStatus (tenantId : String) (status : TenantLifecycle)
  | driverJob (call : JobCall)
  deriving DecidableEq, Repr

def FrontDoor.step (state : FrontDoor) : FrontDoorAction → Option FrontDoor
  | .tick ms => some { state with nowMs := state.nowMs + ms }
  | .provision id slug accountId =>
      if state.requests id = none then
        some
          (state.setRequest id
            (some
              { route := .owner, slug := slug, accountId := accountId, seen := 0
                place := .findingSlug }))
      else none
  | .operatorProvision id slug =>
      if state.requests id = none then
        some
          (state.setRequest id
            (some
              { route := .operator, slug := slug, accountId := "", seen := 0
                place := .auditing }))
      else none
  | .upserted id account =>
      match state.requests id with
      | some request =>
          if request.place = .upserting then
            some
              (state.setRequest id
                (match account with
                | none => request.refused
                | some accountId =>
                    ({ request with accountId := accountId } : Request).at .findingAccount))
          else none
      | none => none
  | .call id minted => (state.requests id).map (state.call id minted)
  | .clear id kind =>
      match state.requests id with
      | some { place := .reaping tenantId _, .. } =>
          some { state with tenants := (blankResource tenantId kind).apply state.tenants }
      | _ => none
  | .reaped id ok =>
      match state.requests id with
      | some request =>
          match request.place with
          | .reaping tenantId token =>
              some (state.setRequest id (request.at (.rereading tenantId token ok)))
          | _ => none
      | none => none
  | .drop id => some (state.setRequest id none)
  | .driverStatus tenantId status =>
      -- no driver writes deleted
      if tenantId ∈ state.started ∧ status ≠ .deleted then
        some
          { state with
            tenants := (setTenantStatus state.now tenantId status).apply state.tenants }
      else none
  | .driverJob call =>
      some { state with jobs := (call.statement state.now).apply state.jobs }

end ControlPlane.Onboarding
