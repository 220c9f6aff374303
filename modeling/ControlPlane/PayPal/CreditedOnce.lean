import ControlPlane.Credits.BalanceRead
import ControlPlane.PayPal.Reports
import Mathlib.Data.Set.Function

/-! PayPal money is credited once. Whatever order its deliveries come in, and wherever they are
interleaved, a capture that is completed has at most its one purchase row.
-/

namespace ControlPlane.PayPal

open ControlPlane.Credits (insertLedgerRow_cases insertedRows ledger_step)
open ControlPlane.Library
open ControlPlane.Store

variable {rail : PayPalRail}

/-- The row credits the capture of the order. -/
structure CreditOf (order : RailOrder rail) (row : LedgerRow) : Prop where
  idemRef : row.idemRef = idemRefOf order.captureId
  kind : row.kind = .purchase
  tenantId : row.tenantId = order.tenantId
  deltaMicroUsd : row.deltaMicroUsd = order.capturedMicroUsd
  externalRef : row.externalRef = some order.captureId

/-- The row stands under a reference of the rail. -/
def OfRail (row : LedgerRow) : Prop :=
  ∃ externalRef, row.idemRef = idemRefOf externalRef

/-- The request delivers a PAYMENT.CAPTURE.COMPLETED for the capture of the order. -/
def CompletionOf (order : RailOrder rail) (request : WebhookRequest) : Prop :=
  ∃ event resource, Json.parse request.raw = some event
    ∧ textField "event_type" event = some CAPTURE_COMPLETED
    ∧ event.field? "resource" = some resource
    ∧ textField "id" resource = some order.captureId

/-- An approved order and a completed capture are of the rail's orders, and are as it is told. -/
def Genuine (orders : Set (RailOrder rail)) (completed : List String) (event : Json) : Prop :=
  (textField "event_type" event = some ORDER_APPROVED →
    ∃ order ∈ orders, ∃ resource, event.field? "resource" = some resource
      ∧ ReportsOrder order resource)
  ∧ (textField "event_type" event = some CAPTURE_COMPLETED →
    ∃ order ∈ orders, order.captureId ∈ completed ∧ ∃ resource,
      event.field? "resource" = some resource ∧ ReportsCapture order resource)

/-- PayPal vouches for genuine events only, and answers a capture call for an order with no other
completed capture than the order's own. Nobody else writes under the rail's references.
-/
def Honest (orders : Set (RailOrder rail)) (state : Webhooks) : WebhookAction → Prop
  | .verify id status verdict =>
      ∀ request event, state.deliveries id = some ⟨request, .verifying event⟩
        → isOk status = true → textField "verification_status" verdict = some "SUCCESS"
        → Genuine orders state.completed event
  | .capture id status text =>
      ∀ request approved, state.deliveries id = some ⟨request, .capturing approved⟩
        → isOk status = true
        → ∀ body, Json.parse text = some body
        → ∀ capture ∈ capturesOf body, textField "status" capture = some "COMPLETED"
        → ∀ order ∈ orders, order.orderId = approved.orderRef
        → order.captureId ∈ state.completed ∧ ReportsCapture order capture
  | .credit call => ∀ row ∈ insertedRows state.credits call, ¬ OfRail row
  | _ => True

/-- A capture has at most one row over all tenants, a row of the rail is the credit of a completed
capture, and a completion that was answered 200 has been credited.
-/
structure CreditedOnce (orders : Set (RailOrder rail)) (state : Webhooks) : Prop where
  once
    : ∀ order ∈ orders,
        (state.credits.ledger.rows.filter fun row =>
          row.idemRef = idemRefOf order.captureId).length ≤ 1
  backed
    : ∀ row ∈ state.credits.ledger.rows, OfRail row
      → ∃ order ∈ orders, CreditOf order row ∧ order.captureId ∈ state.completed
  answered
    : ∀ id request answer, state.deliveries id = some ⟨request, .answered answer⟩
      → answer.status = 200
      → ∀ order ∈ orders, CompletionOf order request
      → ∃ row ∈ state.credits.ledger.rows, CreditOf order row

-----------------------------------------------------------------------------------------
-- Where a delivery stands
-----------------------------------------------------------------------------------------

/-- If the request completes a capture, the capture has its row. -/
def Credited (orders : Set (RailOrder rail)) (rows : List LedgerRow) (request : WebhookRequest)
    : Prop :=
  ∀ order ∈ orders, CompletionOf order request → ∃ row ∈ rows, CreditOf order row

/-- What is true of a delivery where it stands. -/
def Placed (orders : Set (RailOrder rail)) (completed : List String) (rows : List LedgerRow)
    (request : WebhookRequest)
    : WebhookPlace → Prop
  | .verifying event => Json.parse request.raw = some event
  | .capturing approved =>
      (∃ order ∈ orders, approved.orderRef = order.orderId ∧ approved.tenantRef = order.tenantId)
      ∧ ∀ order : RailOrder rail, ¬ CompletionOf order request
  | .appending settlement =>
      ∃ order ∈ orders, Settles order settlement ∧ order.captureId ∈ completed
        ∧ ∀ other ∈ orders, CompletionOf other request → other = order
  | .rereading _ => Credited orders rows request
  | .answered answer => answer.status = 200 → Credited orders rows request

variable {orders : Set (RailOrder rail)} {completed : List String} {rows : List LedgerRow}
variable {request : WebhookRequest} {place : WebhookPlace}

theorem Credited.grow {later : List LedgerRow} (credited : Credited orders rows request)
    (kept : rows ⊆ later)
    : Credited orders later request := by
  intro order isOrder completion
  obtain ⟨row, member, credit⟩ := credited order isOrder completion
  exact ⟨row, kept member, credit⟩

/-- A delivery stands where it stood as more is completed and credited. -/
theorem Placed.grow {laterCompleted : List String} {laterRows : List LedgerRow}
    (placed : Placed orders completed rows request place) (completes : completed ⊆ laterCompleted)
    (kept : rows ⊆ laterRows)
    : Placed orders laterCompleted laterRows request place := by
  cases place with
  | verifying event => exact placed
  | capturing approved => exact placed
  | appending settlement =>
      obtain ⟨order, isOrder, settles, isCompleted, only⟩ := placed
      exact ⟨order, isOrder, settles, completes isCompleted, only⟩
  | rereading args => exact Credited.grow placed kept
  | answered answer => exact fun ok => (placed ok).grow kept

/-- A request that is refused completes nothing. -/
theorem placed_refused {code : String} {status : Nat} (refused : status ≠ 200)
    : Placed orders completed rows request (.answered (.refused code status)) :=
  fun ok => absurd ok refused

theorem placed_paypalWebhook
    : Placed orders completed rows request (paypalWebhook rail request) := by
  unfold paypalWebhook
  split
  next => exact placed_refused (by decide)
  next =>
    split
    next => exact placed_refused (by decide)
    next =>
      cases parsed : Json.parse request.raw with
      | none => exact placed_refused (by decide)
      | some event => exact parsed

/-- A delivery whose call throws is not answered 200. -/
theorem Placed.afterThrow (placed : Placed orders completed rows request place)
    : Placed orders completed rows request (afterThrow place) := by
  cases place with
  | verifying _ | capturing _ | appending _ | rereading _ => exact placed_refused (by decide)
  | answered answer => exact placed

/-- What a request completes is told by the event that it carries. -/
theorem CompletionOf.event {order : RailOrder rail} {event : Json}
    (completion : CompletionOf order request) (parsed : Json.parse request.raw = some event)
    : textField "event_type" event = some CAPTURE_COMPLETED
      ∧ ∀ resource, event.field? "resource" = some resource →
          textField "id" resource = some order.captureId := by
  obtain ⟨other, resource, isEvent, typed, carries, isId⟩ := completion
  cases parsed.symm.trans isEvent
  refine ⟨typed, fun same isResource => ?_⟩
  cases carries.symm.trans isResource
  exact isId

/-- Once PayPal has vouched for an event, the delivery stands at what the event is. -/
theorem placed_afterVerify (apart : Set.InjOn RailOrder.captureId orders) {event : Json}
    (parsed : Json.parse request.raw = some event) (status : Nat) (verdict : Json)
    (genuine
      : isOk status = true → textField "verification_status" verdict = some "SUCCESS"
        → Genuine orders completed event)
    : Placed orders completed rows request (afterVerify event status verdict) := by
  unfold afterVerify
  split
  next => exact placed_refused (by decide)
  next accepted =>
    split
    next => exact placed_refused (by decide)
    next verdict _ =>
      split
      next => exact placed_refused (by decide)
      next vouched =>
        obtain ⟨ofOrder, ofCapture⟩ :=
          genuine (by simpa using accepted) (by simpa using vouched)
        by_cases typed : textField "event_type" event = some CAPTURE_COMPLETED
        · obtain ⟨order, isOrder, isCompleted, resource, carries, reports⟩ := ofCapture typed
          obtain ⟨settlement, isRead, settles⟩ := reports.settlement typed carries
          rw [isRead]
          refine ⟨order, isOrder, settles, isCompleted, fun other isOther completion => ?_⟩
          have isId := (completion.event parsed).2 resource carries
          rw [reports.id] at isId
          exact (apart isOrder isOther (Option.some.inj isId)).symm
        · have noCompletion : ∀ order : RailOrder rail, ¬ CompletionOf order request :=
            fun order completion => typed (completion.event parsed).1
          cases isRead : railEventFromVerifiedEvent event with
          | none => exact fun _ order _ completion => absurd completion (noCompletion order)
          | some railEvent =>
              unfold railEventFromVerifiedEvent at isRead
              split at isRead
              next approval =>
                obtain ⟨approved, isApproved, same⟩ := Option.map_eq_some_iff.mp isRead
                subst same
                obtain ⟨order, isOrder, resource, carries, reports⟩ := ofOrder approval
                rw [carries, Option.bind_some] at isApproved
                exact ⟨⟨order, isOrder, reports.approved isApproved⟩, noCompletion⟩
              next =>
                rw [settlementFromVerifiedEvent, if_pos typed] at isRead
                cases isRead

/-- Once a capture call has been answered, what it collected is about to be credited. -/
theorem placed_afterCapture {approved : ApprovedOrder}
    (placed : Placed orders completed rows request (.capturing approved)) (status : Nat)
    (text : String)
    (honest
      : isOk status = true → ∀ body, Json.parse text = some body
        → ∀ capture ∈ capturesOf body, textField "status" capture = some "COMPLETED"
        → ∀ order ∈ orders, order.orderId = approved.orderRef
        → order.captureId ∈ completed ∧ ReportsCapture order capture)
    : Placed orders completed rows request (afterCapture approved status text) := by
  obtain ⟨⟨order, isOrder, sameRef, sameTenant⟩, noCompletion⟩ := placed
  unfold afterCapture
  cases outcome : captureApprovedOrder approved status text with
  | none => exact placed_refused (by decide)
  | some collected =>
      cases collected with
      | alreadyCaptured => exact fun _ order _ completion => absurd completion (noCompletion order)
      | settled settlement =>
          unfold captureApprovedOrder at outcome
          split at outcome
          next => split at outcome <;> exact nomatch outcome
          next accepted =>
            obtain ⟨body, parsed, found⟩ := Option.bind_eq_some_iff.mp outcome
            obtain ⟨capture, isCapture, settled⟩ := Option.bind_eq_some_iff.mp found
            obtain ⟨_, isSettlement, same⟩ := Option.map_eq_some_iff.mp settled
            cases same
            obtain ⟨listed, isDone⟩ := completedCaptureFrom_mem isCapture
            obtain ⟨isCompleted, reports⟩ :=
              honest (by simpa using accepted) body parsed capture listed isDone order isOrder
                sameRef.symm
            exact ⟨order, isOrder, reports.settles sameTenant isSettlement, isCompleted,
              fun other _ completion => absurd completion (noCompletion other)⟩

-----------------------------------------------------------------------------------------
-- What a row of the ledger credits
-----------------------------------------------------------------------------------------

/-- A row of the rail is the credit of a capture that is completed. -/
def Backed (orders : Set (RailOrder rail)) (completed : List String) (rows : List LedgerRow)
    : Prop :=
  ∀ row ∈ rows, OfRail row → ∃ order ∈ orders, CreditOf order row ∧ order.captureId ∈ completed

theorem idemRefOf_injective {first second : String} (same : idemRefOf first = idemRefOf second)
    : first = second :=
  (String.append_right_inj _).mp same

/-- The row of a settlement credits the order that it settles. -/
theorem Settles.credit {order : RailOrder rail} {settlement : SettlementEvent}
    (settles : Settles order settlement) (rowId now : String)
    : CreditOf order (applySettlement settlement rowId now).row where
  idemRef := congrArg idemRefOf settles.externalRef
  kind := rfl
  tenantId := settles.tenantId
  deltaMicroUsd := settles.amountMicroUsd
  externalRef := congrArg some settles.externalRef

/-- A row under the reference of a capture credits the capture. -/
theorem Backed.credit (backed : Backed orders completed rows)
    (apart : Set.InjOn RailOrder.captureId orders) {order : RailOrder rail}
    (isOrder : order ∈ orders) {row : LedgerRow} (member : row ∈ rows)
    (isRef : row.idemRef = idemRefOf order.captureId)
    : CreditOf order row := by
  obtain ⟨other, isOther, credit, _⟩ := backed row member ⟨order.captureId, isRef⟩
  have sameCapture := idemRefOf_injective (isRef.symm.trans credit.idemRef)
  exact apart isOrder isOther sameCapture ▸ credit

/-- Rows that are backed stay backed as more is completed. -/
theorem Backed.grow {laterCompleted : List String} (backed : Backed orders completed rows)
    (completes : completed ⊆ laterCompleted)
    : Backed orders laterCompleted rows := by
  intro row member ofRail
  obtain ⟨order, isOrder, credit, isCompleted⟩ := backed row member ofRail
  exact ⟨order, isOrder, credit, completes isCompleted⟩

theorem Backed.append {more : List LedgerRow} (backed : Backed orders completed rows)
    (moreBacked : Backed orders completed more)
    : Backed orders completed (rows ++ more) := by
  intro row member ofRail
  rcases List.mem_append.mp member with before | added
  · exact backed row before ofRail
  · exact moreBacked row added ofRail

/-- An append adds no other row than its own. -/
theorem insertedRows_append {db : CreditDb} {args : AppendLedgerRow} {row : LedgerRow}
    (inserted : row ∈ insertedRows db (.appendLedgerRow args))
    : row = args.row := by
  rw [insertedRows, CreditDb.appendLedgerRow] at inserted
  rcases insertLedgerRow_cases db args.row with
    ⟨violation, rejected⟩ | ⟨replayed, _⟩ | ⟨next, added, _, _, _⟩
  · rw [rejected] at inserted
    exact absurd inserted List.not_mem_nil
  · rw [replayed] at inserted
    exact absurd inserted List.not_mem_nil
  · rw [added] at inserted
    exact List.mem_singleton.mp inserted

/-- Once a settlement has been appended, what the request completes is credited: by the new row,
or by the row that was there.
-/
theorem placed_afterInsert {db : CreditDb} (apart : Set.InjOn RailOrder.captureId orders)
    (backed : Backed orders completed db.ledger.rows) {settlement : SettlementEvent}
    (placed : Placed orders completed rows request (.appending settlement)) (rowId now : String)
    : Placed orders completed
        (db.step (.appendLedgerRow (applySettlement settlement rowId now))).ledger.rows request
        (afterInsert (applySettlement settlement rowId now)
          (db.appendLedgerRow (applySettlement settlement rowId now))) := by
  obtain ⟨order, isOrder, settles, _, only⟩ := placed
  have isCredit := settles.credit rowId now
  have credits : ∀ later : List LedgerRow, (∃ row ∈ later, CreditOf order row)
      → Credited orders later request := by
    intro later h other isOther completion
    obtain ⟨row, member, credit⟩ := h
    rw [only other isOther completion]
    exact ⟨row, member, credit⟩
  rw [ledger_step, insertedRows, CreditDb.appendLedgerRow]
  rcases insertLedgerRow_cases db (applySettlement settlement rowId now).row with
    ⟨violation, rejected⟩ | ⟨replayed, old, member, sameRef⟩ | ⟨next, added, _, _, _⟩
  · rw [rejected]
    exact placed_refused (by decide)
  · rw [replayed]
    have isRef : old.idemRef = idemRefOf order.captureId :=
      (Prod.mk.inj sameRef).2.trans isCredit.idemRef
    exact credits _
      ⟨old, List.mem_append_left _ member, backed.credit apart isOrder member isRef⟩
  · rw [added]
    exact fun _ => credits _
      ⟨_, List.mem_append_right _ (List.mem_singleton_self _), isCredit⟩

/-- A request whose row was there is answered as one that is credited. -/
theorem placed_afterReread {db : CreditDb} (credited : Credited orders rows request)
    (args : AppendLedgerRow)
    : Placed orders completed rows request (afterReread db args) := by
  unfold afterReread
  split
  next => exact placed_refused (by decide)
  next => exact fun _ => credited

-----------------------------------------------------------------------------------------
-- Every step
-----------------------------------------------------------------------------------------

/-- The rows are backed, and every delivery stands where it may. -/
structure Sound (orders : Set (RailOrder rail)) (state : Webhooks) : Prop where
  backed : Backed orders state.completed state.credits.ledger.rows
  placed
    : ∀ id request place, state.deliveries id = some ⟨request, place⟩
      → Placed orders state.completed state.credits.ledger.rows request place

/-- Deliveries stand where they stood as captures are completed and rows are added. -/
theorem Sound.grow {state later : Webhooks} (sound : Sound orders state)
    (completes : state.completed ⊆ later.completed)
    (kept : state.credits.ledger.rows ⊆ later.credits.ledger.rows)
    (same : later.deliveries = state.deliveries)
    (backed : Backed orders later.completed later.credits.ledger.rows)
    : Sound orders later where
  backed := backed
  placed id request place isDelivery :=
    (sound.placed id request place (same ▸ isDelivery)).grow completes kept

/-- One delivery moves to a place where it may stand. -/
theorem Sound.setDelivery {state : Webhooks} (sound : Sound orders state) (id : Nat)
    (placed : Placed orders state.completed state.credits.ledger.rows request place)
    : Sound orders (state.setDelivery id ⟨request, place⟩) where
  backed := sound.backed
  placed other otherRequest otherPlace isDelivery := by
    simp only [Webhooks.setDelivery] at isDelivery
    by_cases same : other = id
    · subst same
      rw [Function.update_self] at isDelivery
      cases isDelivery
      exact placed
    · rw [Function.update_of_ne same] at isDelivery
      exact sound.placed other otherRequest otherPlace isDelivery

/-- Somebody's call on the credit tables keeps deliveries where they stand. -/
theorem Sound.credit {state : Webhooks} (sound : Sound orders state) (call : CreditCall)
    (backed : Backed orders state.completed (insertedRows state.credits call))
    : Sound orders { state with credits := state.credits.step call } := by
  have grown := ledger_step state.credits call
  refine sound.grow (List.Subset.refl _) ?_ rfl ?_
  · rw [grown]
    exact List.subset_append_left _ _
  · rw [grown]
    exact sound.backed.append backed

/-- A settlement is appended, whether or not its delivery is told. -/
theorem Sound.append {state : Webhooks} (apart : Set.InjOn RailOrder.captureId orders)
    (sound : Sound orders state) {id : Nat} {settlement : SettlementEvent}
    (isDelivery : state.deliveries id = some ⟨request, .appending settlement⟩)
    (rowId now : String) (told : Bool)
    : Sound orders
        ({ state with
            credits :=
              state.credits.step (.appendLedgerRow (applySettlement settlement rowId now)) }
          |>.setDelivery id
            ⟨request,
              if told then
                afterInsert (applySettlement settlement rowId now)
                  (state.credits.appendLedgerRow (applySettlement settlement rowId now))
              else afterThrow (.appending settlement)⟩) := by
  have placed := sound.placed id request _ isDelivery
  have appended : Sound orders
      { state with
        credits := state.credits.step
          (.appendLedgerRow (applySettlement settlement rowId now)) } := by
    refine sound.credit _ fun row inserted _ => ?_
    obtain ⟨order, isOrder, settles, isCompleted, _⟩ := placed
    rw [insertedRows_append inserted]
    exact ⟨order, isOrder, settles.credit rowId now, isCompleted⟩
  refine appended.setDelivery id ?_
  cases told with
  | true => exact placed_afterInsert apart sound.backed placed rowId now
  | false => exact placed_refused (by decide)

/-- Every honest step keeps all sound, by cases of the action. -/
theorem Sound.step {state next : Webhooks} {action : WebhookAction}
    (apart : Set.InjOn RailOrder.captureId orders) (sound : Sound orders state)
    (honest : Honest orders state action) (taken : state.step rail action = some next)
    : Sound orders next := by
  cases action with
  | complete captureId =>
      cases taken
      have completes : state.completed ⊆ captureId :: state.completed :=
        List.subset_cons_self _ _
      exact sound.grow completes (List.Subset.refl _) rfl (sound.backed.grow completes)
  | deliver id request =>
      simp only [Webhooks.step] at taken
      split at taken
      next => exact nomatch taken
      next =>
        cases taken
        exact sound.setDelivery id placed_paypalWebhook
  | verify id status verdict =>
      simp only [Webhooks.step] at taken
      split at taken
      next request event isDelivery =>
        cases taken
        exact sound.setDelivery id
          (placed_afterVerify apart (sound.placed id request _ isDelivery) status verdict
            (honest request event isDelivery))
      next => exact nomatch taken
  | capture id status text =>
      simp only [Webhooks.step] at taken
      split at taken
      next request approved isDelivery =>
        cases taken
        exact sound.setDelivery id
          (placed_afterCapture (sound.placed id request _ isDelivery) status text
            (honest request approved isDelivery))
      next => exact nomatch taken
  | append id rowId now told =>
      simp only [Webhooks.step] at taken
      split at taken
      next request settlement isDelivery =>
        cases taken
        exact sound.append apart isDelivery rowId now told
      next => exact nomatch taken
  | reread id =>
      simp only [Webhooks.step] at taken
      split at taken
      next request args isDelivery =>
        cases taken
        exact sound.setDelivery id (placed_afterReread (sound.placed id request _ isDelivery) args)
      next => exact nomatch taken
  | fail id =>
      simp only [Webhooks.step] at taken
      split at taken
      next request place isDelivery =>
        cases taken
        exact sound.setDelivery id (sound.placed id request place isDelivery).afterThrow
      next => exact nomatch taken
  | credit call =>
      cases taken
      exact sound.credit call fun row inserted ofRail => absurd ofRail (honest row inserted)

/-- A ledger of which no row is the rail's is sound. -/
theorem Sound.idle {start : CreditDb} (unused : ∀ row ∈ start.ledger.rows, ¬ OfRail row)
    : Sound orders (Webhooks.idle start) where
  backed row member ofRail := absurd ofRail (unused row member)
  placed _ _ _ isDelivery := nomatch isDelivery

/-- Rows under the reference of one capture are of one tenant, and the unique index lets a tenant
have one.
-/
theorem Sound.once {state : Webhooks} (apart : Set.InjOn RailOrder.captureId orders)
    (sound : Sound orders state) {order : RailOrder rail} (isOrder : order ∈ orders)
    : (state.credits.ledger.rows.filter fun row =>
        row.idemRef = idemRefOf order.captureId).length ≤ 1 := by
  have unique := List.nodup_iff_count_le_one.mp state.credits.ledgerRefs
    (order.tenantId, idemRefOf order.captureId)
  rw [List.count, List.countP_map] at unique
  rw [← List.countP_eq_length_filter]
  refine le_of_eq_of_le (List.countP_congr fun row member => ?_) unique
  simp only [decide_eq_true_eq, Function.comp_apply, beq_iff_eq, LedgerRow.ref, Prod.mk.injEq]
  constructor
  · intro isRef
    exact ⟨(sound.backed.credit apart isOrder member isRef).tenantId, isRef⟩
  · exact And.right

/-- What PayPal collects through the rail is credited exactly once. -/
theorem creditedOnce (apart : Set.InjOn RailOrder.captureId orders) {start : CreditDb}
    (unused : ∀ row ∈ start.ledger.rows, ¬ OfRail row) {actions : List WebhookAction}
    {state : Webhooks}
    (honest : Throughout (Webhooks.step rail) (Honest orders) (.idle start) actions)
    (reached : exec (Webhooks.step rail) (.idle start) actions = some state)
    : CreditedOnce orders state := by
  have sound : Sound orders state :=
    exec_invariant (fun _ _ _ sound honest taken => Sound.step apart sound honest taken)
      (Sound.idle unused) honest reached
  refine ⟨fun order isOrder => sound.once apart isOrder, sound.backed, ?_⟩
  intro id request answer isDelivery ok order isOrder completion
  exact sound.placed id request _ isDelivery ok order isOrder completion

-----------------------------------------------------------------------------------------
-- An approval and a completion of one order
-----------------------------------------------------------------------------------------

def tenDollarRail : PayPalRail where
  clientId := "client"
  clientSecret := "secret"
  webhookId := "hook"

/-- Ten dollars for a tenant, captured in full. -/
def tenDollars : RailOrder tenDollarRail where
  tenantId := "ten_1"
  amountMicroUsd := 10000000
  unit := { currencyCode := "USD", value := "10.00", customId := "ten_1" }
  named := by decide +kernel
  created := by decide +kernel
  orderId := "O-1"
  orderIdWhole := by decide +kernel
  captureId := "CAP-1"
  captureIdWhole := by decide +kernel
  capturedCents := 1000
  capturedSome := by decide
  capturedWithin := by decide

def tenDollarCapture : Json :=
  .object
    [("id", .str "CAP-1"), ("status", .str "COMPLETED"), ("custom_id", .str "ten_1"),
      ("amount", .object [("currency_code", .str "USD"), ("value", .str "10.00")])]

def tenDollarsApproved : Json :=
  .object
    [("event_type", .str ORDER_APPROVED),
      ("resource",
        .object
          [("id", .str "O-1"),
            ("purchase_units", .array [.object [("custom_id", .str "ten_1")]])])]

def tenDollarsCompleted : Json :=
  .object [("event_type", .str CAPTURE_COMPLETED), ("resource", tenDollarCapture)]

/-- The answer to the capture call. -/
def tenDollarsCaptured : Json :=
  .object
    [("purchase_units",
      .array [.object [("payments", .object [("captures", .array [tenDollarCapture])])]])]

def vouched : Json :=
  .object [("verification_status", .str "SUCCESS")]

def requestOf (event : Json) : WebhookRequest where
  authAlgo := "SHA256withRSA"
  certUrl := "cert"
  transmissionId := "1"
  transmissionSig := "sig"
  transmissionTime := "now"
  raw := event.stringify

def tenDollarsPaid (note : String) : SettlementEvent where
  tenantId := "ten_1"
  amountMicroUsd := 10000000
  externalRef := "CAP-1"
  note := some note

/-- The approval is collected and credited, and then its completion is delivered. -/
def bothLegs : List WebhookAction :=
  [.deliver 0 (requestOf tenDollarsApproved), .verify 0 200 vouched, .complete "CAP-1",
    .capture 0 201 tenDollarsCaptured.stringify, .append 0 "led_1" "now" true,
    .deliver 1 (requestOf tenDollarsCompleted), .verify 1 200 vouched,
    .append 1 "led_2" "now" true, .reread 1]

theorem reads_member {key : String} {json : Json} (back : Json.Reads json)
    : Json.Reads (.object [(key, json)]) :=
  Json.reads_object fun _ member => List.mem_singleton.mp member ▸ back

theorem reads_item {json : Json} (back : Json.Reads json) : Json.Reads (.array [json]) :=
  Json.reads_array fun _ member => List.mem_singleton.mp member ▸ back

theorem reads_tenDollarCapture : Json.Reads tenDollarCapture := by
  refine Json.reads_object ?_
  simp [Json.reads_str, Json.reads_object]

theorem reads_tenDollarsApproved : Json.Reads tenDollarsApproved := by
  have resource
      : Json.Reads
          (.object
            [("id", .str "O-1"),
              ("purchase_units", .array [.object [("custom_id", .str "ten_1")]])]) := by
    refine Json.reads_object ?_
    simp [Json.reads_str, reads_item (reads_member (Json.reads_str "ten_1"))]
  refine Json.reads_object ?_
  simp [Json.reads_str, resource]

theorem reads_tenDollarsCompleted : Json.Reads tenDollarsCompleted := by
  refine Json.reads_object ?_
  simp [Json.reads_str, reads_tenDollarCapture]

theorem reads_tenDollarsCaptured : Json.Reads tenDollarsCaptured :=
  reads_member (reads_item (reads_member (reads_member (reads_item reads_tenDollarCapture))))

theorem paypalWebhook_requestOf {event : Json} (back : Json.Reads event)
    : paypalWebhook tenDollarRail (requestOf event) = .verifying event := by
  simp [paypalWebhook, tenDollarRail, requestOf, Json.parse_stringify back]

theorem tenDollarCapture_reports : ReportsCapture tenDollars tenDollarCapture where
  id := rfl
  customId := rfl
  amount := ⟨_, rfl, rfl, by decide⟩

theorem genuine_tenDollarsApproved (completed : List String)
    : Genuine {tenDollars} completed tenDollarsApproved := by
  refine ⟨fun _ => ⟨tenDollars, rfl, _, rfl, rfl, ?_⟩, fun typed => ?_⟩
  · intro units isUnits unit isUnit customId custom
    cases isUnits
    rw [List.mem_singleton.mp isUnit] at custom
    cases custom
    rfl
  · exact absurd typed (by decide)

theorem genuine_tenDollarsCompleted {completed : List String} (done : "CAP-1" ∈ completed)
    : Genuine {tenDollars} completed tenDollarsCompleted :=
  ⟨fun typed => absurd typed (by decide),
    fun _ => ⟨tenDollars, rfl, done, tenDollarCapture, rfl, tenDollarCapture_reports⟩⟩

theorem afterVerify_tenDollarsApproved
    : afterVerify tenDollarsApproved 200 vouched
      = .capturing { orderRef := "O-1", tenantRef := "ten_1" } := by
  have isRead : railEventFromVerifiedEvent tenDollarsApproved
      = some (.approved { orderRef := "O-1", tenantRef := "ten_1" }) := by
    rfl
  rw [afterVerify, isRead]
  · rfl
  · exact nofun

theorem afterVerify_tenDollarsCompleted
    : afterVerify tenDollarsCompleted 200 vouched
      = .appending (tenDollarsPaid "paypal PAYMENT.CAPTURE.COMPLETED") := by
  have isRead : railEventFromVerifiedEvent tenDollarsCompleted
      = some (.settlement (tenDollarsPaid "paypal PAYMENT.CAPTURE.COMPLETED")) := by
    decide +kernel
  rw [afterVerify, isRead]
  · rfl
  · exact nofun

theorem afterCapture_tenDollarsCaptured
    : afterCapture { orderRef := "O-1", tenantRef := "ten_1" } 201 tenDollarsCaptured.stringify
      = .appending (tenDollarsPaid "paypal capture of order O-1") := by
  have collected : completedCaptureFrom tenDollarsCaptured = some tenDollarCapture := rfl
  have settled : settlementOfCapture { orderRef := "O-1", tenantRef := "ten_1" } tenDollarCapture
      = some (tenDollarsPaid "paypal capture of order O-1") := by
    decide +kernel
  have accepted : ¬ (!isOk 201) = true := by decide
  rw [afterCapture, captureApprovedOrder, if_neg accepted,
    Json.parse_stringify reads_tenDollarsCaptured, Option.bind_some, collected, Option.bind_some,
    settled]
  rfl

/-- The actions can be run, and each is honest where it is taken. -/
def RunsHonestly (orders : Set (RailOrder rail)) (state : Webhooks) (actions : List WebhookAction)
    : Prop :=
  ∃ final, Throughout (Webhooks.step rail) (Honest orders) state actions
    ∧ exec (Webhooks.step rail) state actions = some final

theorem RunsHonestly.cons {state next : Webhooks} {action : WebhookAction}
    {rest : List WebhookAction} (taken : state.step rail action = some next)
    (honest : Honest orders state action) (onward : RunsHonestly orders next rest)
    : RunsHonestly orders state (action :: rest) := by
  obtain ⟨final, later, reached⟩ := onward
  exact ⟨final, (throughout_cons taken).mpr ⟨honest, later⟩,
    exec_cons.mpr ⟨next, taken, reached⟩⟩

theorem bothLegs_honest
    : RunsHonestly {tenDollars} (.idle (CreditDb.empty ["ten_1"])) bothLegs := by
  refine .cons rfl trivial ?_
  rw [paypalWebhook_requestOf reads_tenDollarsApproved]
  refine .cons rfl ?_ ?_
  · intro request event isDelivery _ _
    cases isDelivery
    exact genuine_tenDollarsApproved _
  rw [afterVerify_tenDollarsApproved]
  refine .cons rfl trivial (.cons rfl ?_ ?_)
  · intro request _ isDelivery _ body parsed capture listed _ order isOrder _
    rw [Json.parse_stringify reads_tenDollarsCaptured] at parsed
    cases parsed
    rw [Set.mem_singleton_iff.mp isOrder, List.mem_singleton.mp listed]
    exact ⟨List.mem_cons_self, tenDollarCapture_reports⟩
  rw [afterCapture_tenDollarsCaptured]
  refine .cons rfl trivial (.cons rfl trivial ?_)
  rw [paypalWebhook_requestOf reads_tenDollarsCompleted]
  refine .cons rfl ?_ ?_
  · intro request event isDelivery _ _
    cases isDelivery
    exact genuine_tenDollarsCompleted List.mem_cons_self
  rw [afterVerify_tenDollarsCompleted]
  exact .cons rfl trivial (.cons rfl trivial ⟨_, trivial, rfl⟩)

theorem bothLegs_creditedOnce
    : ∃ state,
        exec (Webhooks.step tenDollarRail) (.idle (CreditDb.empty ["ten_1"])) bothLegs
          = some state
        ∧ CreditedOnce {tenDollars} state := by
  obtain ⟨state, honest, reached⟩ := bothLegs_honest
  refine ⟨state, reached, creditedOnce (Set.injOn_singleton _ _) ?_ honest reached⟩
  exact fun row member => absurd member List.not_mem_nil

end ControlPlane.PayPal
