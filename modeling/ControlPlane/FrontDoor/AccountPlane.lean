import ControlPlane.FrontDoor.Requests
import ControlPlane.Library.Runs

/-! Requests of accounts side by side over one store, one call at a time, with all that has happened so
far. Over it stands what a cookie and an acceptance are, in the terms of what happened.
-/

namespace ControlPlane.FrontDoor

open ControlPlane.Crypto
open ControlPlane.Library
open ControlPlane.Routing (readSessionCookie)
open ControlPlane.Store
open ControlPlane.TenantLifecycle

-----------------------------------------------------------------------------------------
-- The store, and what has happened
-----------------------------------------------------------------------------------------

/-- A request, with its time and the configuration it ran under, and its place among all that came. -/
structure AccountCaller where
  place : Nat
  request : AccountRequest
  env : AccountEnv
  now : Nat

inductive AccountEvent (τ : Type)
  | signedIn (accountId token : String) (now : Nat)
  | lookedUp (caller : AccountCaller)
  | found (caller : AccountCaller) (account : Account)
  | signedOut (caller : AccountCaller) (tokenHash : String)
  | served (caller : AccountCaller) (text : String)
  | accepted (caller : AccountCaller) (row : AupAcceptance)
  | worked (caller : AccountCaller) (accountId : String) (tenantId : Option String) (task : τ)
  | wentLive (caller : AccountCaller) (tenantId : String)

structure AccountDb (τ : Type) where
  accounts : Accounts
  sessions : Sessions
  acceptances : AupAcceptances
  tenants : Tenants
  history : List (AccountEvent τ)

/-- What the outside contributes to the answer of a call. -/
structure AccountInput where
  dbNow : Nat
  dbText : String
  served : Option String
  verdict : Except InvokeKeyRejection (List String)
  outcome : InstallOutcome
  given : Json

namespace AccountDb

variable {τ : Type}

def log (db : AccountDb τ) (event : AccountEvent τ) : AccountDb τ :=
  { db with history := db.history ++ [event] }

/-- A call of a request, answered. -/
def serve (caller : AccountCaller) (db : AccountDb τ) (question : AccountCall τ)
    (input : AccountInput)
    : AccountDb τ × question.Answer :=
  match question with
  | .getSession tokenHash now => (db.log (.lookedUp caller), Store.getSession db.sessions tokenHash now)
  | .getAccountById id =>
      match Store.getAccountById db.accounts id with
      | none => (db, none)
      | some account => (db.log (.found caller account), some account)
  | .revokeSession tokenHash now =>
      ({ db with sessions := (FrontDoor.revokeSession tokenHash now).apply db.sessions }.log
        (.signedOut caller tokenHash), ())
  | .getTenantForAccount accountId => (db, Store.getTenantForAccount db.tenants accountId)
  | .hasAcceptedAup accountId version =>
      (db, FrontDoor.hasAcceptedAup db.acceptances accountId version)
  | .getLastAupAcceptance accountId =>
      (db, FrontDoor.getLastAupAcceptance db.acceptances accountId)
  | .fetchAup _ =>
      match input.served with
      | none => (db, none)
      | some text => (db.log (.served caller text), some text)
  | .recordAupAcceptance accountId version aupSha256 ipHash userAgent =>
      let row : AupAcceptance :=
        { accountId, version, aupSha256, acceptedAt := input.dbText, ipHash, userAgent }
      ({ db with acceptances := FrontDoor.recordAupAcceptance db.acceptances row }.log
        (.accepted caller row), ())
  | .getTenantById id => (db, db.tenants.get? id)
  | .verifyInvokeKeyScope .. => (db, input.verdict)
  | .installInvokeKey .. => (db, input.outcome)
  | .setTenantLive tenantId =>
      ({ db with tenants := (setTenantStatus input.dbNow tenantId .live).apply db.tenants }.log
        (.wentLive caller tenantId), ())
  | .work accountId tenantId task => (db.log (.worked caller accountId tenantId task), input.given)

end AccountDb

-----------------------------------------------------------------------------------------
-- Requests side by side
-----------------------------------------------------------------------------------------

structure AccountUnderway (τ : Type) where
  caller : AccountCaller
  program : AccountProgram τ AccountResponse

structure AccountPlane (τ : Type) where
  db : AccountDb τ
  underway : List (AccountUnderway τ)

/-- A statement on tenants of the rest of the plane: none gives a row to another account, and none
takes a row live.
-/
structure OtherUpdate where
  statement : Update Tenant.id
  owner : ∀ row, (statement.set row).accountId = row.accountId
  notLive : ∀ row, (statement.set row).status = .live → row.status = .live

/-- A request arrives, puts its next call, or fails where it stands. Somebody signs in. Accounts and
tenants are written by the rest of the plane.
-/
inductive AccountAction
  | arrive (request : AccountRequest) (env : AccountEnv) (now : Nat)
  | call (place : Nat) (input : AccountInput)
  | fail (place : Nat)
  | signIn (accountId token : String) (now : Nat)
  | writeAccounts (accounts : Accounts)
  | createTenant (row : Tenant)
  | writeTenant (update : OtherUpdate)

namespace AccountPlane

variable {τ : Type}

def empty : AccountPlane τ where
  db :=
    { accounts := { table := .empty, emails := List.nodup_nil }
      sessions := .empty
      acceptances := .empty
      tenants := .empty
      history := [] }
  underway := []

def step (platform : AccountPlatform) (handlers : AccountHandlers τ) (plane : AccountPlane τ)
    : AccountAction → Option (AccountPlane τ)
  | .arrive request env now =>
      let caller : AccountCaller := { place := plane.underway.length, request, env, now }
      let program := accountRoutes platform env request now handlers
      some { plane with underway := plane.underway ++ [{ caller, program }] }
  | .call place input =>
      plane.underway[place]?.bind fun one =>
        (one.program.next (AccountDb.serve one.caller) plane.db input).map fun served =>
          { db := served.1
            underway := plane.underway.set place { one with program := served.2 } }
  | .fail place =>
      plane.underway[place]?.map fun one =>
        { plane with
          underway :=
            plane.underway.set place { one with program := .returns (.json internalError) } }
  | .signIn accountId token now =>
      (createSession plane.db.sessions (sessionRow platform.sha256 accountId token now)).map
        fun sessions =>
          { plane with
            db := { plane.db with sessions }.log (.signedIn accountId token now) }
  | .writeAccounts accounts => some { plane with db := { plane.db with accounts } }
  | .createTenant row =>
      if free : (∀ old ∈ plane.db.tenants.rows, old.id ≠ row.id) ∧ row.status ≠ .live then
        some { plane with db := { plane.db with tenants := plane.db.tenants.insert row free.1 } }
      else none
  | .writeTenant update =>
      some
        { plane with
          db := { plane.db with tenants := update.statement.apply plane.db.tenants } }

end AccountPlane

-----------------------------------------------------------------------------------------
-- What has to have happened
-----------------------------------------------------------------------------------------

section

variable {τ : Type} (platform : AccountPlatform) (history : List (AccountEvent τ))

/-- Somebody signed in to the account with the token at a time, and this is what happened since. -/
def Since (history : List (AccountEvent τ)) (accountId token : String) (time : Nat)
    (after : List (AccountEvent τ))
    : Prop :=
  ∃ before, history = before ++ .signedIn accountId token time :: after

/-- The token stands for the account: it was given out when somebody signed in, its time has not come,
and nobody signed out with it since.
-/
def SignedIn (token : String) (now : Nat) (accountId : String) : Prop :=
  ∃ given time after, Since history accountId given time after
    ∧ SameDigest platform.sha256 given token ∧ now < time + SESSION_TTL_MS
    ∧ ∀ caller, .signedOut caller (sha256Hex platform.sha256 token) ∉ after

/-- The request was made with a cookie that stood for the account when it was looked up, and the
account was neither suspended nor deleted when it was read.
-/
structure Authenticated (caller : AccountCaller) (accountId : String) : Prop where
  session : ∃ before token, before ++ [.lookedUp caller] <+: history
    ∧ readSessionCookie caller.request.headers = some token
    ∧ SignedIn platform before token caller.now accountId
  standing : ∃ account, .found caller account ∈ history ∧ account.id = accountId
    ∧ account.suspendedAt = none ∧ account.deletedAt = none

/-- The account had accepted the version that the request ran under, by a request of its own. -/
def Consented (caller : AccountCaller) (accountId : String) : Prop :=
  ∃ other row, .accepted other row ∈ history ∧ row.accountId = accountId
    ∧ row.version = caller.env.aupVersion

/-- Behind the session and behind the policy. -/
structure Gated (caller : AccountCaller) (accountId : String) : Prop where
  authenticated : Authenticated platform history caller accountId
  consented : Consented history caller accountId

/-- What happened was allowed to happen. An acceptance is the account's own, of the version in force,
and pins the text that was served to its request.
-/
def Allowed : AccountEvent τ → Prop
  | .accepted caller row =>
      Authenticated platform history caller row.accountId
      ∧ (caller.request.method, caller.request.path) = ("POST", "/api/aup/accept")
      ∧ row.version = caller.env.aupVersion
      ∧ submittedVersion platform caller.request.body = row.version
      ∧ ∃ text, .served caller text ∈ history ∧ row.aupSha256 = sha256Hex platform.sha256 text
  | .worked caller accountId _ _ => Gated platform history caller accountId
  | _ => True

end

end ControlPlane.FrontDoor
