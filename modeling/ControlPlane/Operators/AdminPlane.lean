import Mathlib.Data.Prod.Lex
import Mathlib.Data.String.Basic
import ControlPlane.Library.Runs
import ControlPlane.Operators.Requests

/-! Admin requests side by side over one store, one call at a time, with all that has happened so far.
Over it stands what a bearer is entitled to, in the terms of what happened.
-/

namespace ControlPlane.Operators

open ControlPlane.Crypto
open ControlPlane.FrontDoor
open ControlPlane.Library
open ControlPlane.Library.Calendar
open ControlPlane.RunpodProxy (bearerFrom)
open ControlPlane.StudioBindings (truthy)

-----------------------------------------------------------------------------------------
-- The store and the trail
-----------------------------------------------------------------------------------------

/-- A row of admin_audit. -/
structure AuditRow where
  id : Nat
  actor : String
  action : String
  target : Option String
  detail : Option String
  createdAt : String
  deriving DecidableEq, Repr

/-- A request, its moment, and its place among all that arrived. -/
structure Caller where
  place : Nat
  request : AdminRequest
  moment : AdminMoment

/-- Something that happened. All but the last it happened for a request. -/
inductive Event (τ : Type)
  | lookedUp (caller : Caller)
  | minted (caller : Caller) (row : NewCredential)
  | revoked (caller : Caller) (id : String)
  | recorded (caller : Caller) (row : AuditRow)
  | worked (caller : Caller) (task : τ)
  | reclaimed (row : AuditRow)

/-- The two tables, and what has happened. -/
structure AdminDb (τ : Type) where
  credentials : OperatorCredentials
  trail : List AuditRow
  history : List (Event τ)

/-- How an INSERT fails: with what message, and whether the row is written all the same. -/
structure StoreFault where
  message : String
  applied : Bool
  deriving DecidableEq, Repr

/-- What the outside contributes to the answer of a call. -/
structure AdminInput where
  dbNow : String
  fault : Option StoreFault
  given : Json

/-- The order of a listing, latest first. -/
def listingKey (row : OperatorCredential) : (Lex (String × String))ᵒᵈ :=
  OrderDual.toDual (toLex (row.createdAt, row.id))

def NewCredential.stored (row : NewCredential) (dbNow : String) : OperatorCredential where
  id := row.id
  name := row.name
  tokenSha256 := row.tokenSha256
  scopes := row.scopes
  createdAt := dbNow
  createdBy := row.createdBy
  expiresAt := row.expiresAt

namespace AdminDb

variable {τ : Type}

def empty : AdminDb τ where
  credentials := .empty
  trail := []
  history := []

def log (db : AdminDb τ) (event : Event τ) : AdminDb τ :=
  { db with history := db.history ++ [event] }

/-- INSERT INTO admin_audit -/
def recordAdminAction (db : AdminDb τ) (dbNow actor action : String) (target detail : Option String)
    (event : AuditRow → Event τ)
    : AdminDb τ :=
  let row : AuditRow :=
    { id := db.trail.length + 1, actor, action, target, detail, createdAt := dbNow }
  { db with trail := db.trail ++ [row] }.log (event row)

def inserted (db : AdminDb τ) (caller : Caller) (row : NewCredential) (dbNow : String)
    : Option (AdminDb τ) :=
  (db.credentials.createOperatorCredential (row.stored dbNow)).map fun credentials =>
    { db with credentials }.log (.minted caller row)

def CONSTRAINT_MESSAGE : String :=
  "D1_ERROR: UNIQUE constraint failed: operator_credentials: SQLITE_CONSTRAINT"

def createOperatorCredential (db : AdminDb τ) (caller : Caller) (row : NewCredential)
    (input : AdminInput)
    : AdminDb τ × Except String Unit :=
  match input.fault with
  | some fault =>
      if fault.applied then ((db.inserted caller row input.dbNow).getD db, .error fault.message)
      else (db, .error fault.message)
  | none =>
      match db.inserted caller row input.dbNow with
      | some made => (made, .ok ())
      | none => (db, .error CONSTRAINT_MESSAGE)

def revokeOperatorCredential (db : AdminDb τ) (caller : Caller) (id revokedBy now : String)
    : AdminDb τ × Bool :=
  let statement := OperatorCredentials.revokeOperatorCredential id revokedBy now
  if statement.changes db.credentials.table = 0 then (db, false)
  else
    let credentials :=
      db.credentials.update statement (OperatorCredentials.revoke_settled id revokedBy now)
    ({ db with credentials }.log (.revoked caller id), true)

/-- UPDATE operator_credentials SET last_used_at, which no request waits for. -/
def touch (db : AdminDb τ) (id now : String) : AdminDb τ :=
  { db with
    credentials :=
      db.credentials.update (OperatorCredentials.touchOperatorCredential id now)
        (OperatorCredentials.touch_settled id now) }

/-- A call of a request, answered. -/
def serve (caller : Caller) (db : AdminDb τ) (question : AdminCall τ) (input : AdminInput)
    : AdminDb τ × question.Answer :=
  match question with
  | .getOperatorCredentialByHash tokenHash =>
      (db.log (.lookedUp caller), db.credentials.getOperatorCredentialByHash tokenHash)
  | .listOperatorCredentials => (db, sortBy listingKey db.credentials.table.rows)
  | .createOperatorCredential row => db.createOperatorCredential caller row input
  | .revokeOperatorCredential id revokedBy now =>
      db.revokeOperatorCredential caller id revokedBy now
  | .recordAdminAction actor action target detail =>
      (db.recordAdminAction input.dbNow actor action target detail (.recorded caller), ())
  | .work task => (db.log (.worked caller task), input.given)

end AdminDb

-----------------------------------------------------------------------------------------
-- Requests side by side
-----------------------------------------------------------------------------------------

/-- A request that arrived, and what is left of its program. -/
structure Underway (τ : Type) where
  request : AdminRequest
  moment : AdminMoment
  program : AdminProgram τ JsonResponse

structure AdminPlane (τ : Type) where
  db : AdminDb τ
  underway : List (Underway τ)

/-- A request arrives, puts its next call, or fails where it stands. The stamp of a credential lands
at any time, and so does the audit row of an account that takes its own name back.
-/
inductive AdminAction
  | arrive (request : AdminRequest) (moment : AdminMoment)
  | call (place : Nat) (input : AdminInput)
  | fail (place : Nat)
  | touch (id now : String)
  | reclaim (accountId action dbNow : String) (target detail : Option String)

/-- The audit actor of an account. -/
def accountActor (accountId : String) : String :=
  "account:" ++ accountId

namespace AdminPlane

variable {τ : Type}

def empty : AdminPlane τ where
  db := .empty
  underway := []

def step (platform : AdminPlatform) (rootSecret : Option String) (handlers : Handlers τ)
    (plane : AdminPlane τ)
    : AdminAction → Option (AdminPlane τ)
  | .arrive request moment =>
      let program := adminRoutes platform rootSecret handlers request moment
      some { plane with underway := plane.underway ++ [{ request, moment, program }] }
  | .call place input =>
      plane.underway[place]?.bind fun one =>
        let caller : Caller := { place, request := one.request, moment := one.moment }
        (one.program.next (AdminDb.serve caller) plane.db input).map fun served =>
          { db := served.1
            underway := plane.underway.set place { one with program := served.2 } }
  | .fail place =>
      plane.underway[place]?.map fun one =>
        { plane with
          underway := plane.underway.set place { one with program := .returns internalError } }
  | .touch id now => some { plane with db := plane.db.touch id now }
  | .reclaim accountId action dbNow target detail =>
      some
        { plane with
          db := plane.db.recordAdminAction dbNow (accountActor accountId) action target detail
            .reclaimed }

end AdminPlane

-----------------------------------------------------------------------------------------
-- What a bearer is entitled to
-----------------------------------------------------------------------------------------

/-- A credential as it was granted: to whom, under which token, for what, and until when. -/
structure Grant where
  id : String
  name : String
  token : String
  scopes : List OperatorScope
  expires : Option Int
  deriving DecidableEq, Repr

def MintRequest.grant (moment : AdminMoment) (asked : MintRequest) : Grant where
  id := moment.newId
  name := asked.name
  token := moment.token
  scopes := asked.scopes
  expires := asked.expiry moment.mintedAt

def Grant.principal (grant : Grant) : OperatorPrincipal where
  kind := .credential
  actor := operatorActor grant.name
  operator := some grant.name
  credentialId := some grant.id
  scopes := grant.scopes

/-- A mint in the history made the grant, of what its request asks for. -/
def Granted {τ : Type} (platform : AdminPlatform) (history : List (Event τ)) (grant : Grant)
    : Prop :=
  ∃ caller row asked, Event.minted caller row ∈ history
    ∧ readMint platform caller.request.body = .ok asked
    ∧ grant = asked.grant caller.moment

/-- A grant that nobody revoked, and whose time has not come. -/
structure Grant.Stands {τ : Type} (history : List (Event τ)) (now : Int) (grant : Grant)
    : Prop where
  kept : ∀ caller, Event.revoked caller grant.id ∉ history
  timely : ∀ instant, grant.expires = some instant → now < instant

/-- The bearer is a token that was granted, and the grant stands. -/
structure Entitles {τ : Type} (platform : AdminPlatform) (history : List (Event τ)) (now : Int)
    (presented : String) (grant : Grant)
    : Prop where
  granted : Granted platform history grant
  answers : SameDigest platform.sha256 presented grant.token
  stands : grant.Stands history now

/-- The bearer is the shared secret, which is set. -/
def IsRoot (platform : Platform) (rootSecret : Option String) (presented : String) : Prop :=
  ∃ secret, truthy rootSecret = some secret ∧ SameDigest platform.sha256 presented secret

/-- Who a bearer is by what has happened: the operator of a grant that entitles it, or else root. -/
inductive Resolves {τ : Type} (platform : AdminPlatform) (rootSecret : Option String)
    (history : List (Event τ)) (now : Int) (presented : String)
    : OperatorPrincipal → Prop
  | named (grant : Grant) (entitles : Entitles platform history now presented grant)
      : Resolves platform rootSecret history now presented grant.principal
  | root (nobody : ∀ grant, ¬ Entitles platform history now presented grant)
      (isRoot : IsRoot platform.toPlatform rootSecret presented)
      : Resolves platform rootSecret history now presented rootPrincipal

/-- What a principal has is what a route asks for. -/
def Meets (principal : OperatorPrincipal) : Option AdminRequirement → Prop
  | none => False
  | some .authenticated => True
  | some .root => principal = rootPrincipal
  | some (.scope scope) => scope ∈ principal.scopes

/-- The request was looked up in the course of this history, as this principal, and may do what its
route does.
-/
structure Admitted {τ : Type} (platform : AdminPlatform) (rootSecret : Option String)
    (history : List (Event τ)) (caller : Caller) (principal : OperatorPrincipal)
    : Prop where
  resolved : ∃ before presented, before ++ [.lookedUp caller] <+: history
    ∧ truthy (bearerFrom caller.request.authorization) = some presented
    ∧ Resolves platform rootSecret before caller.moment.now presented principal
  meets : Meets principal (adminRequirement caller.request.method caller.request.path)

/-- What happened was done for a request that was admitted before, and an audit row names the actor.
Only root mints and revokes. An account that takes its own name back is named by its id.
-/
def Attributed {τ : Type} (platform : AdminPlatform) (rootSecret : Option String)
    (before : List (Event τ))
    : Event τ → Prop
  | .lookedUp _ => True
  | .minted caller row =>
      Admitted platform rootSecret before caller rootPrincipal
      ∧ row.createdBy = rootPrincipal.actor
  | .revoked caller _ => Admitted platform rootSecret before caller rootPrincipal
  | .recorded caller row =>
      ∃ principal, Admitted platform rootSecret before caller principal
        ∧ row.actor = principal.actor
  | .worked caller _ => ∃ principal, Admitted platform rootSecret before caller principal
  | .reclaimed row => ∃ accountId, row.actor = accountActor accountId

/-- The audit row that was written. -/
def Event.auditRow? {τ : Type} : Event τ → Option AuditRow
  | .recorded _ row => some row
  | .reclaimed row => some row
  | _ => none

end ControlPlane.Operators
