import ControlPlane.Kek.TokenCrypto
import ControlPlane.Library.JsonText
import ControlPlane.Library.Runs
import ControlPlane.PayPal.Amounts
import ControlPlane.Store.Credits
import Mathlib.Data.List.Infix

/-! The PayPal rail and its webhook. An approved order is collected and credited, a completed
capture is credited; the unique index of the ledger makes the two one credit.
-/

namespace ControlPlane.PayPal

open ControlPlane.Kek (trim)
open ControlPlane.Library
open ControlPlane.Store

def MIN_TENANT_TOPUP_MICRO_USD : Int := 10000000

def CAPTURE_COMPLETED : String := "PAYMENT.CAPTURE.COMPLETED"

/-- The buyer authorised. It is the trigger for the capture that collects. -/
def ORDER_APPROVED : String := "CHECKOUT.ORDER.APPROVED"

def ALREADY_CAPTURED : String := "ORDER_ALREADY_CAPTURED"

inductive RailRefusal
  | notConfigured
  | invalidAmount
  deriving DecidableEq, Repr

structure PayPalRail where
  clientId : String
  clientSecret : String
  webhookId : String
  deriving DecidableEq, Repr

/-- What the one purchase unit of an order asks for. -/
structure PurchaseUnit where
  currencyCode : String
  value : String
  customId : String
  deriving DecidableEq, Repr

/-- The order that a top-up asks PayPal to create. -/
def createTopUp (rail : PayPalRail) (tenantId : String) (amountMicroUsd : Int)
    : Except RailRefusal PurchaseUnit :=
  if rail.clientId = "" ∨ rail.clientSecret = "" then .error .notConfigured
  else if !isSafeInteger amountMicroUsd ∨ amountMicroUsd < MIN_TENANT_TOPUP_MICRO_USD then
    .error .invalidAmount
  else
    match microUsdToPayPalValue amountMicroUsd with
    | none => .error .invalidAmount
    | some value =>
        .ok { currencyCode := "USD", value := value, customId := tenantId }

-----------------------------------------------------------------------------------------
-- What PayPal's texts say
-----------------------------------------------------------------------------------------

/-- An order the buyer has authorised and nobody has collected yet. -/
structure ApprovedOrder where
  orderRef : String
  tenantRef : String
  deriving DecidableEq, Repr

/-- Money that has arrived. -/
structure SettlementEvent where
  tenantId : String
  amountMicroUsd : Int
  externalRef : String
  note : Option String
  deriving DecidableEq, Repr

inductive RailWebhookEvent
  | settlement (settlement : SettlementEvent)
  | approved (order : ApprovedOrder)
  deriving DecidableEq, Repr

inductive CaptureOutcome
  | settled (settlement : SettlementEvent)
  | alreadyCaptured
  deriving DecidableEq, Repr

/-- A field that holds a text. -/
def textField (key : String) (json : Json) : Option String :=
  (json.field? key).bind Json.text?

/-- A field's text without margins, or an empty text. -/
def trimmedText (key : String) (json : Json) : String :=
  trim ((textField key json).getD "")

/-- The items of a field that holds an array. -/
def arrayField (key : String) (json : Json) : Option (List Json) :=
  match json.field? key with
  | some (.array items) => some items
  | _ => none

/-- The captures inside one unit of an order. -/
def capturesOfUnit (unit : Json) : List Json :=
  ((unit.field? "payments").bind (arrayField "captures")).getD []

/-- The completed capture inside a capture response. -/
def completedCaptureFrom (body : Json) : Option Json :=
  (arrayField "purchase_units" body).bind fun units =>
    units.findSome? fun unit =>
      (capturesOfUnit unit).find? fun capture => textField "status" capture = some "COMPLETED"

/-- The positive amount of a capture in US dollars. -/
def amountOf (capture : Json) : Option Int :=
  match capture.field? "amount" with
  | some amount =>
      if textField "currency_code" amount = some "USD" then
        ((textField "value" amount).bind paypalValueToMicroUsd).filter (0 < ·)
      else none
  | none => none

def orderIdFromCapture (capture : Json) : String :=
  (((capture.field? "supplementary_data").bind (Json.field? "related_ids")).bind
    (textField "order_id")).getD ""

/-- The order id and the tenant reference off an approved order. -/
def approvedFromOrderResource (order : Json) : Option ApprovedOrder :=
  let orderRef := trimmedText "id" order
  if orderRef = "" then none
  else
    (arrayField "purchase_units" order).bind fun units =>
      (units.find? fun unit => trimmedText "custom_id" unit ≠ "").map fun unit =>
        { orderRef := orderRef, tenantRef := trimmedText "custom_id" unit }

def settlementFromVerifiedEvent (event : Json) : Option SettlementEvent :=
  if textField "event_type" event ≠ some CAPTURE_COMPLETED then none
  else
    (event.field? "resource").bind fun capture =>
      let tenantId := trimmedText "custom_id" capture
      if tenantId = "" then none
      else
        (amountOf capture).bind fun amount =>
          let captureId := (textField "id" capture).getD ""
          let externalRef := if captureId = "" then orderIdFromCapture capture else captureId
          if externalRef = "" then none
          else
            some
              { tenantId := tenantId
                amountMicroUsd := amount
                externalRef := externalRef
                note := some "paypal PAYMENT.CAPTURE.COMPLETED" }

def railEventFromVerifiedEvent (event : Json) : Option RailWebhookEvent :=
  if textField "event_type" event = some ORDER_APPROVED then
    ((event.field? "resource").bind approvedFromOrderResource).map .approved
  else (settlementFromVerifiedEvent event).map .settlement

/-- response.ok. -/
def isOk (status : Nat) : Bool :=
  200 ≤ status ∧ status ≤ 299

/-- The settlement of a completed capture, for the tenant that the order was signed for. A capture
that names another tenant is refused.
-/
def settlementOfCapture (order : ApprovedOrder) (capture : Json) : Option SettlementEvent :=
  let capTenant := trimmedText "custom_id" capture
  if capTenant ≠ "" ∧ capTenant ≠ order.tenantRef then none
  else
    (amountOf capture).bind fun amount =>
      let captureId := trimmedText "id" capture
      if captureId = "" then none
      else
        some
          { tenantId := order.tenantRef
            amountMicroUsd := amount
            externalRef := captureId
            note := some ("paypal capture of order " ++ order.orderRef) }

/-- What the answer to a capture call comes to. It throws where there is none. -/
def captureApprovedOrder (order : ApprovedOrder) (status : Nat) (text : String)
    : Option CaptureOutcome :=
  if !isOk status then
    if status = 422 ∧ ALREADY_CAPTURED.toList <:+: text.toList then some .alreadyCaptured
    else none
  else
    (Json.parse text).bind fun body =>
      (completedCaptureFrom body).bind fun capture =>
        (settlementOfCapture order capture).map .settled

-----------------------------------------------------------------------------------------
-- The webhook
-----------------------------------------------------------------------------------------

/-- Where a PayPal capture stands in the ledger. -/
def idemRefOf (externalRef : String) : String :=
  "paypal:" ++ externalRef

/-- The row that a settlement appends. -/
def applySettlement (event : SettlementEvent) (rowId now : String) : AppendLedgerRow where
  id := rowId
  tenantId := event.tenantId
  kind := .purchase
  deltaMicroUsd := event.amountMicroUsd
  costMicroUsd := none
  idemRef := idemRefOf event.externalRef
  priceListId := none
  externalRef := some event.externalRef
  note := event.note
  now := now

structure WebhookRequest where
  authAlgo : String
  certUrl : String
  transmissionId : String
  transmissionSig : String
  transmissionTime : String
  raw : String
  deriving DecidableEq, Repr

inductive WebhookAnswer
  | applied (applied : Bool)
  | refused (code : String) (status : Nat)
  deriving DecidableEq, Repr

def WebhookAnswer.status : WebhookAnswer → Nat
  | .applied _ => 200
  | .refused _ status => status

/-- The call that a delivery comes to next, or what it was answered. -/
inductive WebhookPlace
  | verifying (event : Json)
  | capturing (order : ApprovedOrder)
  | appending (settlement : SettlementEvent)
  | rereading (args : AppendLedgerRow)
  | answered (answer : WebhookAnswer)

/-- Until PayPal is asked whether it sent the delivery. -/
def paypalWebhook (rail : PayPalRail) (request : WebhookRequest) : WebhookPlace :=
  if rail.clientId = "" ∨ rail.clientSecret = "" ∨ rail.webhookId = "" then
    .answered (.refused "not_configured" 503)
  else if request.authAlgo = "" ∨ request.certUrl = "" ∨ request.transmissionId = ""
      ∨ request.transmissionSig = "" ∨ request.transmissionTime = "" then
    .answered (.refused "unverified" 400)
  else
    match Json.parse request.raw with
    | none => .answered (.refused "unverified" 400)
    | some event => .verifying event

/-- Once PayPal has answered. The text null has no verdict to read: reading it throws. -/
def afterVerify (event : Json) (status : Nat) (verdict : Json) : WebhookPlace :=
  if !isOk status then .answered (.refused "unverified" 400)
  else
    match verdict with
    | .null => .answered (.refused "webhook_failed" 503)
    | verdict =>
        if textField "verification_status" verdict ≠ some "SUCCESS" then
          .answered (.refused "unverified" 400)
        else
          match railEventFromVerifiedEvent event with
          | none => .answered (.applied false)
          | some (.settlement settlement) => .appending settlement
          | some (.approved order) => .capturing order

/-- Once the capture call has been answered. -/
def afterCapture (order : ApprovedOrder) (status : Nat) (text : String) : WebhookPlace :=
  match captureApprovedOrder order status text with
  | none => .answered (.refused "capture_failed" 503)
  | some .alreadyCaptured => .answered (.applied false)
  | some (.settled settlement) => .appending settlement

/-- Once the row has been inserted, or was there, or was rejected. -/
def afterInsert (args : AppendLedgerRow)
    (ran : Except ConstraintViolation (CreditDb × Option LedgerRow)) : WebhookPlace :=
  match ran with
  | .error _ => .answered (.refused "credit_failed" 503)
  | .ok (_, some _) => .answered (.applied true)
  | .ok (_, none) => .rereading args

/-- Once the row that was there has been looked up. -/
def afterReread (db : CreditDb) (args : AppendLedgerRow) : WebhookPlace :=
  match db.existingLedgerRow args with
  | none => .answered (.refused "credit_failed" 503)
  | some _ => .answered (.applied false)

/-- What a delivery is answered when the call it waits for throws, or the token that the call needs
is not to be had.
-/
def afterThrow : WebhookPlace → WebhookPlace
  | .verifying _ => .answered (.refused "webhook_failed" 503)
  | .capturing _ => .answered (.refused "capture_failed" 503)
  | .appending _ | .rereading _ => .answered (.refused "credit_failed" 503)
  | .answered answer => .answered answer

structure Delivery where
  request : WebhookRequest
  place : WebhookPlace

/-- The credit tables, the captures that PayPal has completed, and every delivery there was. -/
structure Webhooks where
  credits : CreditDb
  completed : List String
  deliveries : Nat → Option Delivery

/-- No delivery has come yet. -/
def Webhooks.idle (credits : CreditDb) : Webhooks where
  credits := credits
  completed := []
  deliveries _ := none

def Webhooks.setDelivery (state : Webhooks) (id : Nat) (delivery : Delivery) : Webhooks :=
  { state with deliveries := Function.update state.deliveries id (some delivery) }

/-- PayPal completes a capture or delivers an event; a delivery makes its next call, is not told
what its insert did, or has its call fail; somebody else uses the credit tables.
-/
inductive WebhookAction
  | complete (captureId : String)
  | deliver (id : Nat) (request : WebhookRequest)
  | verify (id : Nat) (status : Nat) (verdict : Json)
  | capture (id : Nat) (status : Nat) (text : String)
  | append (id : Nat) (rowId now : String) (told : Bool)
  | reread (id : Nat)
  | fail (id : Nat)
  | credit (call : CreditCall)

def Webhooks.step (rail : PayPalRail) (state : Webhooks) : WebhookAction → Option Webhooks
  | .complete captureId => some { state with completed := captureId :: state.completed }
  | .deliver id request =>
      match state.deliveries id with
      | some _ => none
      | none => some (state.setDelivery id ⟨request, paypalWebhook rail request⟩)
  | .verify id status verdict =>
      match state.deliveries id with
      | some ⟨request, .verifying event⟩ =>
          some (state.setDelivery id ⟨request, afterVerify event status verdict⟩)
      | _ => none
  | .capture id status text =>
      match state.deliveries id with
      | some ⟨request, .capturing order⟩ =>
          some (state.setDelivery id ⟨request, afterCapture order status text⟩)
      | _ => none
  | .append id rowId now told =>
      match state.deliveries id with
      | some ⟨request, .appending settlement⟩ =>
          let args := applySettlement settlement rowId now
          let place :=
            if told then afterInsert args (state.credits.appendLedgerRow args)
            else afterThrow (.appending settlement)
          some
            ({ state with credits := state.credits.step (.appendLedgerRow args) }.setDelivery id
              ⟨request, place⟩)
      | _ => none
  | .reread id =>
      match state.deliveries id with
      | some ⟨request, .rereading args⟩ =>
          some (state.setDelivery id ⟨request, afterReread state.credits args⟩)
      | _ => none
  | .fail id =>
      match state.deliveries id with
      | some ⟨request, place⟩ => some (state.setDelivery id ⟨request, afterThrow place⟩)
      | none => none
  | .credit call => some { state with credits := state.credits.step call }

end ControlPlane.PayPal
