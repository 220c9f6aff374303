import ControlPlane.FrontDoor.Responses
import ControlPlane.Library.Dialogues
import ControlPlane.Library.Sorting
import ControlPlane.Library.TextSearch
import ControlPlane.Operators.Credentials
import ControlPlane.Operators.Routes
import ControlPlane.RunpodProxy.Gate

/-! An admin request, as a program that calls the store: it resolves its bearer, is measured against
the table, and goes on to its handler. The handlers of the credentials are spelled out. All others
are a parameter: they write audit rows under the actor of the request, and do some work.
-/

namespace ControlPlane.Operators

open ControlPlane.Crypto
open ControlPlane.FrontDoor
open ControlPlane.Library
open ControlPlane.Library.Calendar
open ControlPlane.RunpodProxy (bearerFrom)
open ControlPlane.StudioBindings (truthy)

-----------------------------------------------------------------------------------------
-- Requests and responses
-----------------------------------------------------------------------------------------

/-- How the platform reads numbers that are safe integers, and writes values in a message. -/
structure AdminPlatform extends Platform where
  safeInteger : String → Option Int
  asText : Json → String

structure AdminRequest where
  method : String
  path : String
  authorization : Option String
  body : Option Json

/-- What a request finds of the time and of chance: the clock when it begins and when it mints, and
the token and the id that it draws.
-/
structure AdminMoment where
  now : Int
  mintedAt : Int
  token : String
  newId : String
  deriving DecidableEq, Repr

-----------------------------------------------------------------------------------------
-- Calls
-----------------------------------------------------------------------------------------

/-- A row as it is created. -/
structure NewCredential where
  id : String
  name : String
  tokenSha256 : String
  scopes : String
  createdBy : String
  expiresAt : Option String
  deriving DecidableEq, Repr

/-- A call of a handler that is a parameter: an audit row, or some task. -/
inductive HandlerCall (τ : Type)
  | record (action : String) (target detail : Option String)
  | work (task : τ)

abbrev HandlerCall.Answer {τ : Type} : HandlerCall τ → Type
  | .record .. => Unit
  | .work _ => Json

/-- A call of the store, or a task of another handler. -/
inductive AdminCall (τ : Type)
  | getOperatorCredentialByHash (tokenHash : String)
  | listOperatorCredentials
  | createOperatorCredential (row : NewCredential)
  | revokeOperatorCredential (id revokedBy now : String)
  | recordAdminAction (actor action : String) (target detail : Option String)
  | work (task : τ)

abbrev AdminCall.Answer {τ : Type} : AdminCall τ → Type
  | .getOperatorCredentialByHash _ => Option OperatorCredential
  | .listOperatorCredentials => List OperatorCredential
  | .createOperatorCredential _ => Except String Unit
  | .revokeOperatorCredential .. => Bool
  | .recordAdminAction .. => Unit
  | .work _ => Json

/-- A program of admin requests. -/
abbrev AdminProgram (τ : Type) : Type → Type := Dialogue (AdminCall τ) AdminCall.Answer

section

variable {τ : Type}

abbrev call (question : AdminCall τ) : AdminProgram τ question.Answer :=
  .ask question

/-- A handler writes its audit rows under the actor of the request. -/
def HandlerCall.under (actor : String)
    : (question : HandlerCall τ) → AdminProgram τ question.Answer
  | .record action target detail => call (.recordAdminAction actor action target detail)
  | .work task => call (.work task)

/-- The handlers that are not spelled out. -/
abbrev Handlers (τ : Type) :=
  AdminHandler → OperatorPrincipal → AdminRequest
    → Dialogue (HandlerCall τ) HandlerCall.Answer JsonResponse

end

-----------------------------------------------------------------------------------------
-- Minting
-----------------------------------------------------------------------------------------

/-- What a mint request asks for. -/
structure MintRequest where
  name : String
  scopes : List OperatorScope
  days : Option Nat
  deriving DecidableEq, Repr

def readName (body : Option Json) : Option String :=
  ((body.bind (Json.field? "name")).bind Json.text?).filter isValidOperatorName

/-- The days to the expiry: none at all, or a whole number of them up to ten years. -/
def readDays (platform : AdminPlatform) (body : Option Json) : Option (Option Nat) :=
  match body.bind (Json.field? "expires_in_days") with
  | none | some .null => some none
  | some (.num spelled) =>
      match platform.safeInteger spelled with
      | some days => if 0 < days ∧ days ≤ 3650 then some (some days.toNat) else none
      | none => none
  | some _ => none

def readMint (platform : AdminPlatform) (body : Option Json) : Except JsonResponse MintRequest :=
  match readName body with
  | none =>
      .error (err "invalid_name" 400
        [("message", .str
          ("name must be 1-32 characters of lowercase letters, digits, underscore or hyphen, "
          ++ "starting with a letter or digit; it is an identity that lands in the audit trail, "
          ++ "so it should name a person"))])
  | some name =>
      match operatorNaming.canonicaliseScopes ALL_SCOPES platform.asText
          ((body.bind (Json.field? "scopes")).getD .null) with
      | .error message => .error (err "invalid_scopes" 400 [("message", .str message)])
      | .ok scopes =>
          match readDays platform body with
          | none =>
              .error (err "invalid_expiry" 400
                [("message", .str "expires_in_days must be a whole number of days between 1 and 3650")])
          | some days => .ok { name, scopes, days }

/-- The instant at which what is asked for expires. -/
def MintRequest.expiry (asked : MintRequest) (mintedAt : Int) : Option Int :=
  asked.days.map fun days => mintedAt + days * msPerDay

/-- The row of a mint. Of the token it has the hash only. -/
def MintRequest.row (platform : Platform) (moment : AdminMoment) (createdBy : String)
    (asked : MintRequest)
    : NewCredential where
  id := moment.newId
  name := asked.name
  tokenSha256 := sha256Hex platform.sha256 moment.token
  scopes := operatorNaming.formatScopes ALL_SCOPES asked.scopes
  createdBy := createdBy
  expiresAt := (asked.expiry moment.mintedAt).map toISOString

def scopeList (scopes : List OperatorScope) : Json :=
  .array (scopes.map fun scope => .str scope.id)

/-- /unique|constraint/i -/
def saysConstraint (message : String) : Bool :=
  let text := message.toList.map Char.toLower
  (cutAt "unique".toList text).isSome ∨ (cutAt "constraint".toList text).isSome

section

variable {τ : Type} (platform : AdminPlatform)

/-- POST /api/admin/operators. The response is the only place where the token stands. -/
def mintOperator (request : AdminRequest) (moment : AdminMoment) (principal : OperatorPrincipal)
    : AdminProgram τ JsonResponse :=
  match readMint platform request.body with
  | .error refusal => return refusal
  | .ok asked =>
      -- toISOString throws for an instant that no Date can be
      if (asked.expiry moment.mintedAt).all fun instant => IsDate instant then do
        let row := asked.row platform.toPlatform moment principal.actor
        let made : Except String Unit ← call (.createOperatorCredential row)
        match made with
        | .error message =>
            if saysConstraint message then
              return err "name_in_use" 409
                [("message", .str
                  ("a live credential named " ++ asked.name ++ " already exists; revoke it before "
                  ++ "minting another"))]
            else return err "mint_failed" 503
        | .ok () =>
            let facts : List (String × Json) :=
              [("name", .str asked.name), ("scopes", scopeList asked.scopes),
                ("expires_at", nullable row.expiresAt)]
            call (.recordAdminAction principal.actor "operator.mint" (some row.id)
              (some (Json.object facts).stringify))
            return json (("id", .str row.id) :: facts ++ [("token", .str moment.token)]) 201
      else return internalError

-----------------------------------------------------------------------------------------
-- The other credential handlers
-----------------------------------------------------------------------------------------

/-- The id between /api/admin/operators/ and /revoke. -/
def revokedId (path : String) : String :=
  String.ofList ((path.toList.drop "/api/admin/operators/".length).takeWhile fun c => c ≠ '/')

/-- POST /api/admin/operators/opc_.../revoke. There is an audit row even if nothing changed. -/
def revokeOperator (request : AdminRequest) (moment : AdminMoment) (principal : OperatorPrincipal)
    : AdminProgram τ JsonResponse := do
  let id := revokedId request.path
  let revoked : Bool ←
    call (.revokeOperatorCredential id principal.actor (toISOString moment.now))
  call (.recordAdminAction principal.actor "operator.revoke" (some id)
    (some (Json.object [("revoked", .bool revoked)]).stringify))
  if revoked then return ⟨204, none⟩
  else
    return err "not_found" 404
      [("message", .str "no live credential with that id; it may already be revoked")]

def operatorView (row : OperatorCredential) : Json :=
  .object
    [("id", .str row.id), ("name", .str row.name),
      ("scopes", scopeList (operatorNaming.parseScopes ALL_SCOPES (some row.scopes))),
      ("created_at", .str row.createdAt), ("created_by", .str row.createdBy),
      ("last_used_at", nullable row.lastUsedAt), ("expires_at", nullable row.expiresAt),
      ("revoked_at", nullable row.revokedAt), ("revoked_by", nullable row.revokedBy)]

/-- GET /api/admin/operators -/
def listOperators : AdminProgram τ JsonResponse := do
  let rows : List OperatorCredential ← call .listOperatorCredentials
  return json [("credentials", .array (rows.map operatorView))]

def PrincipalKind.text : PrincipalKind → String
  | .root => "root"
  | .credential => "credential"

def AdminRequirement.text : AdminRequirement → String
  | .scope needed => needed.id
  | .authenticated => "authenticated"
  | .root => "root"

def requirementView (row : Route AdminRequirement) : Json :=
  .object
    [("method", .str row.method),
      ("pattern", .str ("^" ++ String.join (row.pieces.map RoutePiece.source) ++ "$")),
      ("requires", .str row.leads.text)]

/-- GET /api/admin/whoami -/
def whoami (principal : OperatorPrincipal) : JsonResponse :=
  json
    [("actor", .str principal.actor), ("kind", .str principal.kind.text),
      ("operator", nullable principal.operator),
      ("credential_id", nullable principal.credentialId),
      ("scopes", scopeList principal.scopes),
      ("catalogue", .array (ALL_SCOPES.map fun scope =>
        .object [("id", .str scope.id), ("summary", .str scope.summary)])),
      ("requirements", .array (ADMIN_REQUIREMENTS.map requirementView))]

-----------------------------------------------------------------------------------------
-- The gate
-----------------------------------------------------------------------------------------

/-- Why a principal is refused what a route requires. -/
def refusal? (principal : OperatorPrincipal) : Option AdminRequirement → Option JsonResponse
  -- a handler without an entry is closed to everyone
  | none => some (err "not_found" 404)
  | some .authenticated => none
  | some .root =>
      if principal.kind ≠ .root then
        some (err "root_credential_required" 403
          [("message", .str
            ("operator credential lifecycle is reachable only with the shared root credential; a "
            ++ "scoped credential that could mint another one would hold every scope in two "
            ++ "requests"))])
      else none
  | some (.scope scope) =>
      if hasScope principal scope then none
      else
        some (err "insufficient_scope" 403
          [("required", .str scope.id), ("held", scopeList principal.scopes)])

/-- The handler of a request that is admitted. -/
def dispatch (handlers : Handlers τ) (request : AdminRequest) (moment : AdminMoment)
    (principal : OperatorPrincipal)
    : AdminProgram τ JsonResponse :=
  match adminHandler request.method request.path with
  | none => return err "not_found" 404
  | some .whoami => return whoami principal
  | some .listOperators => listOperators
  | some .mintOperator => mintOperator platform request moment principal
  | some .revokeOperator => revokeOperator request moment principal
  | some handler => (handlers handler principal request).through (HandlerCall.under principal.actor)

/-- A request whose bearer was looked up. -/
def authorised (rootSecret : Option String) (handlers : Handlers τ) (request : AdminRequest)
    (moment : AdminMoment) (presented : String) (found : Option OperatorCredential)
    : AdminProgram τ JsonResponse :=
  match resolveOperator platform.toPlatform rootSecret (toISOString moment.now) presented found with
  | none => return err "unauthorized" 401
  | some principal =>
      match refusal? principal (adminRequirement request.method request.path) with
      | some refusal => return refusal
      | none => dispatch platform handlers request moment principal

/-- Who is asking, and then what may they do. The last use of a credential is stamped outside of the
request.
-/
def adminRoutes (rootSecret : Option String) (handlers : Handlers τ) (request : AdminRequest)
    (moment : AdminMoment)
    : AdminProgram τ JsonResponse :=
  if IsDate moment.now then
    match truthy (bearerFrom request.authorization) with
    | none => return err "unauthorized" 401
    | some presented => do
        let found : Option OperatorCredential ←
          call (.getOperatorCredentialByHash (sha256Hex platform.sha256 presented))
        authorised platform rootSecret handlers request moment presented found
  else return internalError

end

end ControlPlane.Operators
