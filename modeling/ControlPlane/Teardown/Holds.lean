import Mathlib.Data.String.Basic
import ControlPlane.FrontDoor.Responses
import ControlPlane.Kek.TokenCrypto
import ControlPlane.Library.Calendar
import ControlPlane.Library.Pools
import ControlPlane.Library.Sorting
import ControlPlane.Teardown.Legs

/-! The preservation holds of tenants, and the requests that open and release them, side by side with
teardowns. A teardown asks for the open holds of its tenant once, and deletes after that.
-/

namespace ControlPlane.Teardown

open ControlPlane.FrontDoor
open ControlPlane.Kek (trim)
open ControlPlane.Library
open ControlPlane.Library.Calendar
open ControlPlane.Store

-----------------------------------------------------------------------------------------
-- The table
-----------------------------------------------------------------------------------------

/-- Which preservation duty a hold represents. -/
inductive PreservationHoldKind
  | ncmec2258aH
  | le2703F
  | internal
  deriving DecidableEq, Repr

def PreservationHoldKind.text : PreservationHoldKind → String
  | .ncmec2258aH => "ncmec_2258a_h"
  | .le2703F => "le_2703_f"
  | .internal => "internal"

def PreservationHoldKind.ofText? (text : String) : Option PreservationHoldKind :=
  [.ncmec2258aH, .le2703F, .internal].find? fun kind => kind.text = text

/-- The days that the statute gives. A duty that has no clock yet has none. -/
def PreservationHoldKind.days? : PreservationHoldKind → Option Int
  | .ncmec2258aH => some 365
  | .le2703F => some 90
  | .internal => none

/-- A row of preservation_holds. -/
structure HoldRow extends PreservationHold where
  tenantId : String
  releasedAt : Option String
  releasedBy : Option String
  releaseReason : Option String
  deriving DecidableEq, Repr

def HoldRow.key (row : HoldRow) : String := row.id

/-- The row as a release leaves it. -/
def HoldRow.release (row : HoldRow) (releasedAt releasedBy reason : String) : HoldRow :=
  { row with
    releasedAt := some releasedAt
    releasedBy := some releasedBy
    releaseReason := some reason }

/-- A hold as it is written. When it was opened is for the database to say. -/
structure NewHold where
  id : String
  tenantId : String
  kind : String
  reason : String
  openedBy : String
  expiresAt : Option String
  deriving DecidableEq, Repr

def NewHold.stored (hold : NewHold) (dbNow : String) : HoldRow where
  id := hold.id
  tenantId := hold.tenantId
  kind := hold.kind
  reason := hold.reason
  openedAt := dbNow
  openedBy := hold.openedBy
  expiresAt := hold.expiresAt
  releasedAt := none
  releasedBy := none
  releaseReason := none

abbrev Holds := Keyed HoldRow.key

namespace Holds

/-- INSERT INTO preservation_holds, which throws where the id is taken. -/
def openPreservationHold (holds : Holds) (row : HoldRow) : Option Holds :=
  if free : ∀ old ∈ holds.rows, HoldRow.key old ≠ HoldRow.key row then some (holds.insert row free)
  else none

/-- The holds of a tenant, latest first. Open is released_at IS NULL and nothing else. -/
def listPreservationHolds (holds : Holds) (tenantId : String) (openOnly : Bool) : List HoldRow :=
  sortBy (fun row => OrderDual.toDual row.openedAt)
    (holds.rows.filter fun row => row.tenantId = tenantId ∧ (!openOnly || row.releasedAt.isNone))

/-- UPDATE preservation_holds ... WHERE id = ?1 AND released_at IS NULL RETURNING * -/
def releasePreservationHold (holdId releasedBy reason dbNow : String) : Update HoldRow.key where
  target := holdId
  guard row := row.releasedAt.isNone
  set row := row.release dbNow releasedBy reason
  keeps _ := rfl

end Holds

-----------------------------------------------------------------------------------------
-- Requests
-----------------------------------------------------------------------------------------

/-- How the platform writes a value that is no text, and under which names scripts are dispatched. -/
structure HoldPlatform where
  asText : Json → String
  namespaces : Namespaces

/-- What a request finds of the time, and the id that it draws. -/
structure HoldMoment where
  now : Int
  newId : String
  deriving DecidableEq, Repr

/-- A request that its gate let through, in the name of an actor, or a teardown of a row. -/
inductive HoldRequest
  | opening (tenantId actor : String) (body : Option Json) (moment : HoldMoment)
  | releasing (tenantId holdId actor : String) (body : Option Json)
  | teardown (outside : Outside) (store : TenantStore) (tenant : Tenant) (opts : TeardownOpts)

inductive HoldCall
  | getTenantById (id : String)
  | openPreservationHold (hold : NewHold)
  | getPreservationHold (id : String)
  | listPreservationHolds (tenantId : String) (openOnly : Bool)
  | releasePreservationHold (holdId releasedBy reason : String)
  | recordAdminAction (actor action target detail : String)
  | delete (tenantId : String) (call : TeardownCall)

abbrev HoldCall.Answer : HoldCall → Type
  | .getTenantById _ => Option Tenant
  | .openPreservationHold _ => Bool
  | .getPreservationHold _ => Option HoldRow
  | .listPreservationHolds .. => Except Thrown (List HoldRow)
  | .releasePreservationHold .. => Option HoldRow
  | .recordAdminAction .. => Unit
  | .delete .. => Unit

inductive HoldAnswer
  | json (response : JsonResponse)
  | torn (outcome : TeardownOutcome)

abbrev HoldProgram : Type → Type := Dialogue HoldCall HoldCall.Answer

namespace HoldRequest

def call (question : HoldCall) : HoldProgram question.Answer :=
  .ask question

/-- String(body?.field ?? "").trim() -/
def trimmedField (platform : HoldPlatform) (field : String) (body : Option Json) : String :=
  match body.bind (Json.field? field) with
  | none | some .null => ""
  | some (.str text) => trim text
  | some value => trim (platform.asText value)

/-- The end of the duty as it is given, or else by its statute. -/
def expiry (kind : PreservationHoldKind) (now : Int) (body : Option Json) : Option String :=
  match (((body.bind (Json.field? "expires_at")).bind Json.text?).map trim).filter (· ≠ "") with
  | some given => some given
  | none => kind.days?.map fun days => toISOString (now + days * msPerDay)

/-- The hold that a request asks for. -/
def readHold (platform : HoldPlatform) (tenantId actor : String) (body : Option Json)
    (moment : HoldMoment)
    : Except JsonResponse NewHold :=
  let reason := trimmedField platform "reason" body
  if reason = "" then .error (err "reason_required" 400)
  else
    match PreservationHoldKind.ofText? (trimmedField platform "kind" body) with
    | none =>
        .error (err "invalid_kind" 400
          [("message", .str
            ("kind must be ncmec_2258a_h (our CyberTipline submission, 1 year), le_2703_f (a "
            ++ "governmental preservation request, 90 days renewable), or internal (an open "
            ++ "report with no statutory clock yet)"))])
    | some kind =>
        .ok
          { id := moment.newId, tenantId, kind := kind.text, reason, openedBy := actor
            expiresAt := expiry kind moment.now body }

/-- A hold as a response shows it. -/
def view (row : HoldRow) : Json :=
  .object
    [("id", .str row.id), ("tenant_id", .str row.tenantId), ("kind", .str row.kind),
      ("reason", .str row.reason), ("opened_at", .str row.openedAt),
      ("opened_by", .str row.openedBy), ("expires_at", nullable row.expiresAt),
      ("released_at", nullable row.releasedAt), ("released_by", nullable row.releasedBy),
      ("release_reason", nullable row.releaseReason)]

def OPENED : String := "tenant.preservation_hold.open"

def RELEASED : String := "tenant.preservation_hold.release"

/-- POST /api/admin/tenants/:id/preservation-holds -/
def openHold (platform : HoldPlatform) (tenantId actor : String) (body : Option Json)
    (moment : HoldMoment)
    : HoldProgram HoldAnswer := do
  let found : Option Tenant ← call (.getTenantById tenantId)
  match found with
  | none => return .json (err "not_found" 404)
  | some tenant =>
      match readHold platform tenant.id actor body moment with
      | .error refusal => return .json refusal
      | .ok hold =>
          let written : Bool ← call (.openPreservationHold hold)
          if written then
            let stored : Option HoldRow ← call (.getPreservationHold hold.id)
            match stored with
            | none => return .json internalError
            | some row =>
                let detail : Json :=
                  .object
                    [("hold_id", .str row.id), ("kind", .str hold.kind),
                      ("expires_at", nullable hold.expiresAt), ("reason", .str hold.reason)]
                let _ : Unit ← call (.recordAdminAction actor OPENED tenant.id detail.stringify)
                return .json (json [("hold", view row)] 201)
          else return .json internalError

/-- POST /api/admin/tenants/:id/preservation-holds/:hold/release. The hold has to be the tenant's. -/
def releaseHold (platform : HoldPlatform) (tenantId holdId actor : String) (body : Option Json)
    : HoldProgram HoldAnswer := do
  let found : Option Tenant ← call (.getTenantById tenantId)
  match found with
  | none => return .json (err "not_found" 404)
  | some tenant =>
      let reason := trimmedField platform "reason" body
      if reason = "" then return .json (err "reason_required" 400)
      else
        let listed : Except Thrown (List HoldRow) ← call (.listPreservationHolds tenant.id false)
        match listed with
        | .error _ => return .json internalError
        | .ok holds =>
            if (holds.find? fun row => row.id = holdId).isNone then
              return .json (err "not_found" 404)
            else
              let released : Option HoldRow ← call (.releasePreservationHold holdId actor reason)
              match released with
              | none => return .json (err "already_released" 409 [("hold_id", .str holdId)])
              | some row =>
                  let detail : Json :=
                    .object
                      [("hold_id", .str row.id), ("kind", .str row.kind), ("reason", .str reason)]
                  let _ : Unit ←
                    call (.recordAdminAction actor RELEASED tenant.id detail.stringify)
                  return .json (json [("hold", view row)] 200)

/-- The calls of a pass, one after another. -/
def deletions (tenantId : String) : List TeardownCall → HoldProgram Unit
  | [] => return ()
  | issued :: later => do
      let _ : Unit ← call (.delete tenantId issued)
      deletions tenantId later

/-- teardownTenant, with its read of the holds put to the store and its calls issued in turn. -/
def tearDown (platform : HoldPlatform) (outside : Outside) (store : TenantStore) (tenant : Tenant)
    (opts : TeardownOpts)
    : HoldProgram HoldAnswer := do
  let listed : Except Thrown (List HoldRow) ← call (.listPreservationHolds tenant.id true)
  let holds := listed.map (List.map HoldRow.toPreservationHold)
  let pass := teardownTenant { outside with holds } platform.namespaces tenant opts store
  let _ : Unit ← deletions tenant.id pass.calls
  return .torn pass.outcome

def program (platform : HoldPlatform) : HoldRequest → HoldProgram HoldAnswer
  | .opening tenantId actor body moment => openHold platform tenantId actor body moment
  | .releasing tenantId holdId actor body => releaseHold platform tenantId holdId actor body
  | .teardown outside store tenant opts => tearDown platform outside store tenant opts

end HoldRequest

-----------------------------------------------------------------------------------------
-- Side by side
-----------------------------------------------------------------------------------------

/-- Something that happened, and for whom. -/
inductive HoldEvent
  | opened (party : Party HoldRequest) (row : HoldRow)
  | released (party : Party HoldRequest) (row : HoldRow)
  | recorded (party : Party HoldRequest) (actor action target detail : String)
  | asked (party : Party HoldRequest) (tenantId : String)
  | deleted (party : Party HoldRequest) (tenantId : String) (call : TeardownCall)

/-- The rows of the tenants, the holds, and what has happened. -/
structure HoldDb where
  tenants : Tenants
  holds : Holds
  history : List HoldEvent

/-- What the outside contributes to the answer of a call: the time, and whether a read fails. -/
structure HoldInput where
  dbNow : String
  fault : Option Thrown
  deriving DecidableEq, Repr

namespace HoldDb

def empty : HoldDb where
  tenants := .empty
  holds := .empty
  history := []

def log (db : HoldDb) (event : HoldEvent) : HoldDb :=
  { db with history := db.history ++ [event] }

/-- A call of a request, answered. -/
def serve (party : Party HoldRequest) (db : HoldDb) (question : HoldCall) (input : HoldInput)
    : HoldDb × question.Answer :=
  match question with
  | .getTenantById id => (db, db.tenants.get? id)
  | .openPreservationHold hold =>
      let row := hold.stored input.dbNow
      match db.holds.openPreservationHold row with
      | some holds => ({ db with holds }.log (.opened party row), true)
      | none => (db, false)
  | .getPreservationHold id => (db, db.holds.get? id)
  | .listPreservationHolds tenantId openOnly =>
      match input.fault with
      | some thrown => (db, .error thrown)
      | none =>
          (db.log (.asked party tenantId), .ok (db.holds.listPreservationHolds tenantId openOnly))
  | .releasePreservationHold holdId releasedBy reason =>
      let statement := Holds.releasePreservationHold holdId releasedBy reason input.dbNow
      match statement.returning db.holds with
      | some row =>
          ({ db with holds := statement.apply db.holds }.log (.released party row), some row)
      | none => (db, none)
  | .recordAdminAction actor action target detail =>
      (db.log (.recorded party actor action target detail), ())
  | .delete tenantId call => (db.log (.deleted party tenantId call), ())

end HoldDb

/-- Requests and teardowns of a plane. The rows of the tenants may become anything meanwhile. -/
def holdRules (platform : HoldPlatform)
    : PoolRules HoldCall HoldCall.Answer HoldAnswer HoldRequest HoldDb HoldInput Tenants where
  program := HoldRequest.program platform
  serve := HoldDb.serve
  failed := .json internalError
  change db tenants := some { db with tenants }

end ControlPlane.Teardown
