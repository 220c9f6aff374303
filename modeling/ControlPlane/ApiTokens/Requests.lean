import Mathlib.Logic.Function.Basic
import ControlPlane.Crypto.Digests
import ControlPlane.FrontDoor.Responses
import ControlPlane.Library.KeyedTables
import ControlPlane.Library.Pools
import ControlPlane.Store.Rows

/-! The programmatic token of a tenant: the requests that read, issue and revoke it. The token is a
row in the studio database of the tenant, which keeps its digest, and every statement goes there over
the network, so it may have run although nobody hears of it.
-/

namespace ControlPlane.ApiTokens

open ControlPlane.Crypto
open ControlPlane.FrontDoor
open ControlPlane.Library
open ControlPlane.Store

-----------------------------------------------------------------------------------------
-- The table
-----------------------------------------------------------------------------------------

def PROGRAMMATIC_TOKEN_NAME : String := "programmatic"

/-- The secret that the gate of a studio requires before it looks at named tokens. -/
def STUDIO_OPERATOR_SECRET : String := "STUDIO_API_TOKEN"

/-- A row of api_tokens. -/
structure ApiTokenRow where
  name : String
  tokenHash : String
  createdAt : Option String
  revokedAt : Option String
  deriving DecidableEq, Repr

def ApiTokenRow.key (row : ApiTokenRow) : String := row.name

/-- The row as an INSERT writes it. -/
def ApiTokenRow.issued (name tokenHash dbNow : String) : ApiTokenRow where
  name := name
  tokenHash := tokenHash
  createdAt := some dbNow
  revokedAt := none

/-- ON CONFLICT(name) DO UPDATE SET token_hash, created_at and revoked_at. -/
def ApiTokenRow.reissue (row : ApiTokenRow) (tokenHash dbNow : String) : ApiTokenRow :=
  { row with
    tokenHash := tokenHash
    createdAt := some dbNow
    revokedAt := none }

theorem ApiTokenRow.reissue_keeps (tokenHash dbNow : String) (row : ApiTokenRow)
    : (row.reissue tokenHash dbNow).key = row.key :=
  rfl

def ApiTokenRow.revoke (row : ApiTokenRow) (dbNow : String) : ApiTokenRow :=
  { row with revokedAt := some dbNow }

abbrev TokenTable := Keyed ApiTokenRow.key

/-- The statements that go to a studio database. -/
inductive TokenQuery
  /-- SELECT name, created_at FROM api_tokens WHERE name = ? AND revoked_at IS NULL -/
  | selectLive (name : String)
  /-- SELECT name FROM api_tokens WHERE name = ? -/
  | selectName (name : String)
  /-- INSERT INTO api_tokens ... ON CONFLICT(name) DO UPDATE SET ... -/
  | upsert (name tokenHash : String)
  /-- UPDATE api_tokens SET revoked_at = datetime('now') WHERE name = ? -/
  | revoke (name : String)
  deriving DecidableEq, Repr

/-- The columns that are selected of a row. -/
structure SelectedRow where
  name : String
  createdAt : Option String
  deriving DecidableEq, Repr

def SelectedRow.of (row : ApiTokenRow) : SelectedRow where
  name := row.name
  createdAt := row.createdAt

/-- What D1 answers: one entry per statement, each with its rows. An answer or an entry of another
shape is none.
-/
abbrev TokenRows := Option (List (Option (List SelectedRow)))

def rowsOf (raw : TokenRows) : List SelectedRow :=
  (raw.getD []).flatMap fun entry => entry.getD []

namespace TokenQuery

def revocation (name dbNow : String) : Update ApiTokenRow.key where
  target := name
  guard _ := true
  set row := row.revoke dbNow
  keeps _ := rfl

/-- What a statement leaves of a table. -/
def write (query : TokenQuery) (dbNow : String) (table : TokenTable) : TokenTable :=
  match query with
  | .selectLive _ | .selectName _ => table
  | .upsert name tokenHash =>
      table.upsert (.issued name tokenHash dbNow) (fun row => row.reissue tokenHash dbNow)
        (ApiTokenRow.reissue_keeps tokenHash dbNow)
  | .revoke name => (revocation name dbNow).apply table

/-- The rows that a statement answers. -/
def answer (query : TokenQuery) (table : TokenTable) : TokenRows :=
  match query with
  | .selectLive name =>
      some [some (((table.get? name).toList.filter fun row => row.revokedAt.isNone).map .of)]
  | .selectName name => some [some ((table.get? name).toList.map .of)]
  | .upsert .. | .revoke _ => some [some []]

end TokenQuery

-----------------------------------------------------------------------------------------
-- Requests
-----------------------------------------------------------------------------------------

/-- The plane that requests come to. -/
structure TokenPlatform where
  provisioner : Bool
  namespaceName : String
  sha256 : Sha256

/-- A request that its gate let through, with the row of its tenant and the token that it draws. -/
structure TokenRequest where
  method : String
  tenant : Tenant
  apiTokenRotatedAt : Option String
  drawn : String
  deriving DecidableEq, Repr

inductive ApiTokenRefusal
  | tenantNotLive
  | notProvisioned
  | tenantUnreachable
  deriving DecidableEq, Repr

def ApiTokenRefusal.text : ApiTokenRefusal → String
  | .tenantNotLive => "tenant_not_live"
  | .notProvisioned => "not_provisioned"
  | .tenantUnreachable => "tenant_unreachable"

structure ApiTokenError where
  code : ApiTokenRefusal
  message : String
  deriving DecidableEq, Repr

structure ApiTokenState where
  configured : Bool
  name : Option String
  createdAt : Option String
  lastRotatedAt : Option String
  deriving DecidableEq, Repr

structure MintedApiToken where
  token : String
  name : String
  createdAt : String
  deriving DecidableEq, Repr

/-- What a request comes to. -/
inductive TokenAnswer
  | state (shown : ApiTokenState)
  | minted (given : MintedApiToken)
  | revoked
  | refused (error : ApiTokenError)
  | unconfigured
  | methodNotAllowed
  | thrown
  deriving DecidableEq, Repr

/-- What of it is sent. -/
def TokenAnswer.response : TokenAnswer → JsonResponse
  | .state shown =>
      json
        [("configured", .bool shown.configured), ("name", nullable shown.name),
          ("created_at", nullable shown.createdAt), ("last_rotated_at", nullable shown.lastRotatedAt)]
  | .minted given =>
      json
        [("token", .str given.token), ("name", .str given.name), ("created_at", .str given.createdAt)]
        201
  | .revoked => json [("configured", .bool false)]
  | .refused error => err error.code.text (if error.code = .tenantUnreachable then 503 else 409)
  | .unconfigured => err "provisioner_unconfigured" 503
  | .methodNotAllowed => err "method_not_allowed" 405
  | .thrown => internalError

/-- Why a call threw. -/
abbrev Fault := String

inductive TokenCall
  | getScriptSecretNames (namespaceName script : String)
  | queryD1 (database : String) (query : TokenQuery)
  | setApiTokenRotatedAt (tenantId : String)
  | respond (answer : TokenAnswer)

abbrev TokenCall.Answer : TokenCall → Type
  | .getScriptSecretNames .. => Except Fault (List String)
  | .queryD1 .. => Except Fault TokenRows
  | .setApiTokenRotatedAt _ => Except Fault Unit
  | .respond _ => Unit

abbrev TokenProgram : Type → Type := Dialogue TokenCall TokenCall.Answer

def call (question : TokenCall) : TokenProgram question.Answer :=
  .ask question

/-- Every refusal that a request can meet before it puts a statement. An empty text is as good as
none.
-/
def requireUsableTenant (platform : TokenPlatform) (tenant : Tenant)
    : TokenProgram (Except ApiTokenError String) :=
  if tenant.status ≠ .live then return .error ⟨.tenantNotLive, "tenant_not_live"⟩
  else
    match tenant.d1DatabaseId.filter (· ≠ ""), tenant.scriptName.filter (· ≠ "") with
    | some database, some script => do
        let listed : Except Fault (List String) ←
          call (.getScriptSecretNames platform.namespaceName script)
        match listed with
        | .error fault => return .error ⟨.tenantUnreachable, fault⟩
        | .ok secrets =>
            if secrets.contains STUDIO_OPERATOR_SECRET then return .ok database
            else
              return .error
                ⟨.notProvisioned, "tenant studio has no " ++ STUDIO_OPERATOR_SECRET
                  ++ "; a named token would be refused by its own gate"⟩
    | _, _ => return .error ⟨.notProvisioned, "not_provisioned"⟩

/-- A database that cannot be reached is not one without a token. -/
def query (database : String) (statement : TokenQuery)
    : TokenProgram (Except ApiTokenError TokenRows) := do
  let answered : Except Fault TokenRows ← call (.queryD1 database statement)
  match answered with
  | .error fault => return .error ⟨.tenantUnreachable, fault⟩
  | .ok raw => return .ok raw

/-- What is shown of the row that was found. -/
def tokenState (rotatedAt : Option String) : Option SelectedRow → ApiTokenState
  | none => { configured := false, name := none, createdAt := none, lastRotatedAt := none }
  | some row =>
      { configured := true
        name := some row.name
        createdAt := row.createdAt
        lastRotatedAt := rotatedAt }

def readTenantApiToken (platform : TokenPlatform) (request : TokenRequest)
    : TokenProgram (Except ApiTokenError ApiTokenState) := do
  let usable : Except ApiTokenError String ← requireUsableTenant platform request.tenant
  match usable with
  | .error error => return .error error
  | .ok database =>
      let answered : Except ApiTokenError TokenRows ←
        query database (.selectLive PROGRAMMATIC_TOKEN_NAME)
      match answered with
      | .error error => return .error error
      | .ok raw => return .ok (tokenState request.apiTokenRotatedAt (rowsOf raw).head?)

/-- The state is read back once the token is installed. -/
def readBack (platform : TokenPlatform) (request : TokenRequest)
    : TokenProgram TokenAnswer := do
  let read : Except ApiTokenError ApiTokenState ← readTenantApiToken platform request
  match read with
  | .error error => return .refused error
  | .ok state =>
      return .minted
        { token := request.drawn
          name := PROGRAMMATIC_TOKEN_NAME
          createdAt := state.createdAt.getD "" }

/-- Mint, or rotate in place. Only a replacement is stamped. -/
def issueTenantApiToken (platform : TokenPlatform) (request : TokenRequest)
    : TokenProgram TokenAnswer := do
  let usable : Except ApiTokenError String ← requireUsableTenant platform request.tenant
  match usable with
  | .error error => return .refused error
  | .ok database =>
      let existing : Except ApiTokenError TokenRows ←
        query database (.selectName PROGRAMMATIC_TOKEN_NAME)
      match existing with
      | .error error => return .refused error
      | .ok found =>
          let hash := sha256Hex platform.sha256 request.drawn
          let installed : Except ApiTokenError TokenRows ←
            query database (.upsert PROGRAMMATIC_TOKEN_NAME hash)
          match installed with
          | .error error => return .refused error
          | .ok _ =>
              if rowsOf found = [] then readBack platform request
              else
                let stamped : Except Fault Unit ←
                  call (.setApiTokenRotatedAt request.tenant.id)
                match stamped with
                | .error _ => return .thrown
                | .ok _ => readBack platform request

def revokeTenantApiToken (platform : TokenPlatform) (request : TokenRequest)
    : TokenProgram TokenAnswer := do
  let usable : Except ApiTokenError String ← requireUsableTenant platform request.tenant
  match usable with
  | .error error => return .refused error
  | .ok database =>
      let revoked : Except ApiTokenError TokenRows ←
        query database (.revoke PROGRAMMATIC_TOKEN_NAME)
      match revoked with
      | .error error => return .refused error
      | .ok _ => return .revoked

def showTenantApiToken (platform : TokenPlatform) (request : TokenRequest)
    : TokenProgram TokenAnswer := do
  let read : Except ApiTokenError ApiTokenState ← readTenantApiToken platform request
  match read with
  | .error error => return .refused error
  | .ok state => return .state state

/-- The api-token action of a tenant, by its method. -/
def answerTo (platform : TokenPlatform) (request : TokenRequest) : TokenProgram TokenAnswer :=
  if !platform.provisioner then return .unconfigured
  else if request.method = "GET" then showTenantApiToken platform request
  else if request.method = "POST" then issueTenantApiToken platform request
  else if request.method = "DELETE" then revokeTenantApiToken platform request
  else return .methodNotAllowed

def apiTokenRoute (platform : TokenPlatform) (request : TokenRequest) : TokenProgram Unit := do
  let answer : TokenAnswer ← answerTo platform request
  call (.respond answer)

-----------------------------------------------------------------------------------------
-- Side by side
-----------------------------------------------------------------------------------------

/-- Something that happened, and for whom. A statement that ran may not have been heard of. -/
inductive TokenEvent
  | listed (party : Party TokenRequest) (secrets : List String)
  | ran (party : Party TokenRequest) (database : String) (query : TokenQuery) (dbNow : String)
  | stamped (party : Party TokenRequest) (tenantId : String)
  | responded (party : Party TokenRequest) (answer : TokenAnswer)
  | rewritten (database : String) (table : TokenTable)

/-- The studio databases, and what has happened. -/
structure TokenDb where
  databases : String → TokenTable
  history : List TokenEvent

/-- What the outside contributes to the answer of a call: the time, the secrets that a script has, and
whether the call throws, and if so whether its statement ran all the same.
-/
structure TokenInput where
  dbNow : String
  secrets : List String
  fault : Option Fault
  ran : Bool
  deriving DecidableEq, Repr

namespace TokenDb

def start (databases : String → TokenTable) : TokenDb where
  databases := databases
  history := []

def log (db : TokenDb) (event : TokenEvent) : TokenDb :=
  { db with history := db.history ++ [event] }

/-- A statement runs in a database. -/
def run (db : TokenDb) (party : Party TokenRequest) (database : String) (query : TokenQuery)
    (dbNow : String)
    : TokenDb :=
  let table := query.write dbNow (db.databases database)
  { db with databases := Function.update db.databases database table }.log
    (.ran party database query dbNow)

/-- A call of a request, answered. -/
def serve (party : Party TokenRequest) (db : TokenDb) (question : TokenCall) (input : TokenInput)
    : TokenDb × question.Answer :=
  match question with
  | .getScriptSecretNames _ _ =>
      match input.fault with
      | some fault => (db, .error fault)
      | none => (db.log (.listed party input.secrets), .ok input.secrets)
  | .queryD1 database query =>
      match input.fault with
      | some fault =>
          (if input.ran then db.run party database query input.dbNow else db, .error fault)
      | none =>
          (db.run party database query input.dbNow, .ok (query.answer (db.databases database)))
  | .setApiTokenRotatedAt tenantId =>
      match input.fault with
      | some fault => (if input.ran then db.log (.stamped party tenantId) else db, .error fault)
      | none => (db.log (.stamped party tenantId), .ok ())
  | .respond answer => (db.log (.responded party answer), ())

/-- A studio writes its own table. Nobody but the plane writes the programmatic token. -/
def rewrite (db : TokenDb) (change : String × TokenTable) : Option TokenDb :=
  if change.2.get? PROGRAMMATIC_TOKEN_NAME
      = (db.databases change.1).get? PROGRAMMATIC_TOKEN_NAME then
    some ({ db with databases := Function.update db.databases change.1 change.2 }.log
      (.rewritten change.1 change.2))
  else none

end TokenDb

/-- Requests of a plane, and the studios beside them. -/
def tokenRules (platform : TokenPlatform)
    : PoolRules TokenCall TokenCall.Answer Unit TokenRequest TokenDb TokenInput
        (String × TokenTable) where
  program := apiTokenRoute platform
  serve := TokenDb.serve
  failed := ()
  change := TokenDb.rewrite

end ControlPlane.ApiTokens
