import ControlPlane.FrontDoor.Responses
import ControlPlane.FrontDoor.Sessions
import ControlPlane.Library.Dialogues
import ControlPlane.Modules.Readiness
import ControlPlane.Routing.Cookies
import ControlPlane.Store.SlugClaims
import ControlPlane.TenantLifecycle.GoLive

/-! A request of an account, as a program that calls the store: its cookie is resolved, the policy in
force is asked for, and a tenant in its path has to be its own. The handlers behind these gates are a
parameter, all but the one that takes a tenant live.
-/

namespace ControlPlane.FrontDoor

open ControlPlane.Crypto
open ControlPlane.Library
open ControlPlane.Routing (Headers readSessionCookie)
open ControlPlane.Store
open ControlPlane.TenantLifecycle

-----------------------------------------------------------------------------------------
-- Requests and calls
-----------------------------------------------------------------------------------------

/-- What the platform brings: SHA-256, String of a value, and the text of a time of the database. -/
structure AccountPlatform where
  sha256 : Sha256
  asText : Json → String
  timeText : Nat → String
  tenantView : Tenant → Json

/-- What the deployment is configured to when a request comes in. -/
structure AccountEnv where
  aupVersion : String
  aupUrl : String
  goLive : GoLivePlane
  deriving DecidableEq, Repr

structure AccountRequest where
  method : String
  path : String
  headers : Headers
  body : Option Json

/-- How installing a key is answered: JSON, or what became of the go-live. -/
inductive AccountResponse
  | json (response : JsonResponse)
  | goLive (answer : GoLiveAnswer)

/-- A call of the store or the outside, or a task of a handler for an account and one of its tenants. -/
inductive AccountCall (τ : Type)
  | getSession (tokenHash : String) (now : Nat)
  | getAccountById (id : String)
  | revokeSession (tokenHash : String) (now : Nat)
  | getTenantForAccount (accountId : String)
  | hasAcceptedAup (accountId version : String)
  | getLastAupAcceptance (accountId : String)
  | fetchAup (url : String)
  | recordAupAcceptance (accountId version aupSha256 : String) (ipHash userAgent : Option String)
  | getTenantById (id : String)
  | verifyInvokeKeyScope (key : String) (endpoints : List String)
  | installInvokeKey (tenantId key : String)
  | setTenantLive (tenantId : String)
  | work (accountId : String) (tenantId : Option String) (task : τ)

abbrev AccountCall.Answer {τ : Type} : AccountCall τ → Type
  | .getSession .. => Option Session
  | .getAccountById _ => Option Account
  | .revokeSession .. => Unit
  | .getTenantForAccount _ => Option Tenant
  | .hasAcceptedAup .. => Bool
  | .getLastAupAcceptance _ => Option AupAcceptance
  | .fetchAup _ => Option String
  | .recordAupAcceptance .. => Unit
  | .getTenantById _ => Option Tenant
  | .verifyInvokeKeyScope .. => Except InvokeKeyRejection (List String)
  | .installInvokeKey .. => InstallOutcome
  | .setTenantLive _ => Unit
  | .work .. => Json

abbrev AccountProgram (τ : Type) : Type → Type := Dialogue (AccountCall τ) AccountCall.Answer

section

variable {τ : Type}

abbrev call (question : AccountCall τ) : AccountProgram τ question.Answer :=
  .ask question

def refuse (error : String) (status : Nat) (extra : List (String × Json) := [])
    : AccountProgram τ AccountResponse :=
  return .json (err error status extra)

/-- The task of a handler. -/
inductive TaskCall (τ : Type)
  | task (task : τ)

abbrev TaskCall.Answer {τ : Type} : TaskCall τ → Type
  | .task _ => Json

/-- A handler does its tasks for the account of the request, and for the tenant in its path. -/
def TaskCall.under (accountId : String) (tenantId : Option String)
    : (question : TaskCall τ) → AccountProgram τ question.Answer
  | .task given => call (.work accountId tenantId given)

/-- The handlers that are not spelled out, for an account or for a tenant of its. -/
structure AccountHandlers (τ : Type) where
  account : AccountRequest → Account → Dialogue (TaskCall τ) TaskCall.Answer AccountResponse
  tenant : AccountRequest → Account → Tenant → Dialogue (TaskCall τ) TaskCall.Answer AccountResponse

end

-----------------------------------------------------------------------------------------
-- Sessions
-----------------------------------------------------------------------------------------

section

variable {τ : Type} (platform : AccountPlatform) (env : AccountEnv) (request : AccountRequest)
  (now : Nat)

/-- The account of the cookie. A suspended or deleted account is none. -/
def resolveSession : AccountProgram τ (Option Account) :=
  match readSessionCookie request.headers with
  | none => return none
  | some token => do
      let session : Option Session ← call (.getSession (sha256Hex platform.sha256 token) now)
      match session with
      | none => return none
      | some session =>
          let account : Option Account ← call (.getAccountById session.accountId)
          return account.filter fun account =>
            account.suspendedAt = none ∧ account.deletedAt = none

/-- POST /api/auth/logout ends the session of the cookie. -/
def endSession : AccountProgram τ AccountResponse := do
  match readSessionCookie request.headers with
  | none => return .json ⟨204, none⟩
  | some token =>
      call (.revokeSession (sha256Hex platform.sha256 token) now)
      return .json ⟨204, none⟩

-----------------------------------------------------------------------------------------
-- The policy
-----------------------------------------------------------------------------------------

/-- The version that a request says it has read. -/
def submittedVersion (body : Option Json) : String :=
  match body.bind (Json.field? "version") with
  | none | some .null => ""
  | some (.str version) => version
  | some other => platform.asText other

/-- Record an acceptance of the version in force, with the digest of the text as it is served. A text
that was not served is not accepted.
-/
def acceptAup (accountId : String) (served : Option String) : AccountProgram τ AccountResponse := do
  if submittedVersion platform request.body ≠ env.aupVersion then
    refuse "aup_version_stale" 409 [("current", .str env.aupVersion)]
  else
    match served with
    | none =>
        refuse "aup_unverifiable" 503
          [("message", .str "we could not verify the policy text; nothing was recorded")]
    | some text =>
        let ipHash :=
          ((request.headers.get "cf-connecting-ip").filter fun ip => ip ≠ "").map
            (sha256Hex platform.sha256)
        let userAgent :=
          ((request.headers.get "user-agent").filter fun agent => agent ≠ "").map (Modules.slice 256)
        call (.recordAupAcceptance accountId env.aupVersion (sha256Hex platform.sha256 text) ipHash
          userAgent)
        return .json ⟨204, none⟩

/-- Routes of an account that has not accepted the version in force. -/
def AUP_EXEMPT : List String :=
  ["/api/me", "/api/aup/current", "/api/aup/accept", "/api/auth/logout"]

def isAupExempt (path : String) : Bool :=
  path ∈ AUP_EXEMPT

/-- GET /api/me -/
def me (account : Account) : AccountProgram τ AccountResponse := do
  let tenant : Option Tenant ← call (.getTenantForAccount account.id)
  let accepted : Bool ← call (.hasAcceptedAup account.id env.aupVersion)
  let last : Option AupAcceptance ← call (.getLastAupAcceptance account.id)
  return .json (json
    [("account", .object
        [("id", .str account.id), ("email", .str account.email),
          ("created_at", .str (platform.timeText account.createdAt))]),
      ("aup", .object
        [("required_version", .str env.aupVersion), ("accepted", .bool accepted),
          ("last_accepted", last.elim .null fun row =>
            .object
              [("version", .str row.version),
                ("accepted_at", .str (isoFromSqliteUtc row.acceptedAt))])]),
      ("tenant", tenant.elim .null platform.tenantView)])

-----------------------------------------------------------------------------------------
-- Tenants
-----------------------------------------------------------------------------------------

/-- ten_[a-f0-9]+ -/
def isTenantId (id : List Char) : Bool :=
  "ten_".toList.isPrefixOf id ∧ id.drop 4 ≠ [] ∧ (id.drop 4).all isLowerHex

/-- The tenant id in a path and what stands behind it: /^\/api\/tenant\/(ten_[a-f0-9]+)(.*)$/. -/
def tenantPath (path : String) : Option (String × List Char) :=
  let after := path.toList.drop "/api/tenant/".length
  let id := after.takeWhile fun c => c ≠ '/'
  if "/api/tenant/".toList.isPrefixOf path.toList ∧ isTenantId id then
    some (String.ofList id, after.drop id.length)
  else none

/-- What is asked of a tenant: its top-up, or one action or none. -/
inductive TenantAction
  | topUp
  | scoped (action : Option String)
  deriving DecidableEq, Repr

def isActionChar (c : Char) : Bool :=
  ('a' ≤ c ∧ c ≤ 'z') ∨ c = '-'

/-- A POST to /credits/topup, or at most one segment. -/
def tenantAction (method : String) (behind : List Char) : Option TenantAction :=
  if behind = "/credits/topup".toList then
    if method = "POST" then some .topUp else none
  else
    match behind with
    | [] => some (.scoped none)
    | _ :: action =>
        if action ≠ [] ∧ action.all isActionChar then some (.scoped (some (String.ofList action)))
        else none

/-- The keys of an object that its body has. -/
def namesInvokeKey (body : Option Json) : Bool :=
  (body.bind (Json.field? "runpod_invoke_key")).isSome

/-- What is left of a go-live where it stands: the key is verified, then installed, and the tenant is
promoted last.
-/
def promoted : GoLiveAt → AccountProgram τ AccountResponse
  | .promoting tenant inScope readiness => do
      call (.setTenantLive tenant.id)
      return .goLive (.live inScope.length readiness)
  | .answered answer => return .goLive answer
  | _ => return .goLive .threw

def installed (key : String) : GoLiveAt → AccountProgram τ AccountResponse
  | .installing tenant inScope => do
      let outcome : InstallOutcome ← call (.installInvokeKey tenant.id key)
      promoted (afterInstall tenant inScope outcome)
  | place => promoted place

def goesLive : GoLiveAt → AccountProgram τ AccountResponse
  | .verifying tenant key endpoints => do
      let verdict : Except InvokeKeyRejection (List String) ←
        call (.verifyInvokeKeyScope key endpoints)
      installed key (afterVerify tenant verdict)
  | place => promoted place

/-- What is done with a tenant that is the account's own. -/
def tenantHandler (handlers : AccountHandlers τ) (account : Account) (tenant : Tenant)
    (action : TenantAction)
    : AccountProgram τ AccountResponse :=
  if request.method = "POST"
      ∧ action ∈ [.scoped (some "go-live"), .scoped (some "invoke-key")] then
    goesLive (installInvokeKey env.goLive account.id (namesInvokeKey request.body) (some tenant))
  else
    (handlers.tenant request account tenant).through
      (TaskCall.under account.id (some tenant.id))

/-- The routes of an account that name no tenant. -/
def ACCOUNT_ROUTES : List (String × String) :=
  [("GET", "/api/tenant/slug-available"), ("POST", "/api/tenant/provision"),
    ("GET", "/api/tenant/provision-plan")]

/-- The routes of an account: those of the account itself, and those of a tenant, which is not there
for an account that it does not belong to.
-/
def tenantRoutes (handlers : AccountHandlers τ) (account : Account)
    : AccountProgram τ AccountResponse :=
  if ACCOUNT_ROUTES.any fun route => route = (request.method, request.path) then
    (handlers.account request account).through (TaskCall.under account.id none)
  else
    match tenantPath request.path with
    | none => refuse "not_found" 404
    | some (id, behind) =>
        match tenantAction request.method behind with
        | none => refuse "not_found" 404
        | some action => do
            let found : Option Tenant ← call (.getTenantById id)
            match found with
            | none => refuse "not_found" 404
            | some tenant =>
                if tenant.accountId ≠ account.id then refuse "not_found" 404
                else tenantHandler env request handlers account tenant action

-----------------------------------------------------------------------------------------
-- The gates
-----------------------------------------------------------------------------------------

/-- A request of an account that is known: what may be had without the policy, and then the rest. -/
def behindSession (handlers : AccountHandlers τ) (account : Account)
    : AccountProgram τ AccountResponse := do
  if (request.method, request.path) = ("GET", "/api/me") then me platform env account
  else if (request.method, request.path) = ("POST", "/api/aup/accept") then
    let served : Option String ← call (.fetchAup env.aupUrl)
    acceptAup platform env request account.id served
  else if isAupExempt request.path then tenantRoutes env request handlers account
  else
    let accepted : Bool ← call (.hasAcceptedAup account.id env.aupVersion)
    if accepted then tenantRoutes env request handlers account
    else refuse "aup_required" 403 [("version", .str env.aupVersion)]

/-- A request below /api/ that needs a session, or ends one. -/
def accountRoutes (handlers : AccountHandlers τ) : AccountProgram τ AccountResponse :=
  if (request.method, request.path) = ("POST", "/api/auth/logout") then
    endSession platform request now
  else do
    let account : Option Account ← resolveSession platform request now
    match account with
    | none => refuse "unauthorized" 401
    | some account => behindSession platform env request handlers account

end

end ControlPlane.FrontDoor
