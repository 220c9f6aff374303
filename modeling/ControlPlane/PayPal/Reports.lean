import ControlPlane.Library.TextParts
import ControlPlane.PayPal.Rail

/-! What PayPal reports of the orders that the rail created, and what the rail reads of such a
report: the order's tenant, the amount that was captured and the id of the one capture.
-/

namespace ControlPlane.PayPal

open ControlPlane.Kek (isTrimmed trim)
open ControlPlane.Library

/-- The pattern ten_[a-f0-9]+ that the top-up route matches a tenant with. -/
def isTenantId (id : String) : Bool :=
  "ten_".toList.isPrefixOf id.toList
  && id.toList.length > 4
  && (id.toList.drop 4).all fun c => c.isDigit || ('a' ≤ c && c ≤ 'f')

/-- An order that a top-up created, and the one capture that PayPal makes of it. No more is
captured than was asked for, and PayPal's ids have no margins.
-/
structure RailOrder (rail : PayPalRail) where
  tenantId : String
  amountMicroUsd : Int
  unit : PurchaseUnit
  named : isTenantId tenantId = true
  created : createTopUp rail tenantId amountMicroUsd = .ok unit
  orderId : String
  orderIdWhole : orderId ≠ "" ∧ trim orderId = orderId
  captureId : String
  captureIdWhole : captureId ≠ "" ∧ trim captureId = captureId
  capturedCents : Nat
  capturedSome : 0 < capturedCents
  capturedWithin : (capturedCents * 10000 : Nat) ≤ amountMicroUsd

variable {rail : PayPalRail}

/-- The captured amount in micro-USD. -/
def RailOrder.capturedMicroUsd (order : RailOrder rail) : Int :=
  (order.capturedCents * 10000 : Nat)

/-- The resource is the order. -/
structure ReportsOrder (order : RailOrder rail) (resource : Json) : Prop where
  id : textField "id" resource = some order.orderId
  customId
    : ∀ units, arrayField "purchase_units" resource = some units
      → ∀ unit ∈ units, ∀ customId, textField "custom_id" unit = some customId
      → customId = order.unit.customId

/-- The resource is the capture of the order. -/
structure ReportsCapture (order : RailOrder rail) (resource : Json) : Prop where
  id : textField "id" resource = some order.captureId
  customId : textField "custom_id" resource = some order.unit.customId
  amount
    : ∃ amount, resource.field? "amount" = some amount
      ∧ textField "currency_code" amount = some order.unit.currencyCode
      ∧ textField "value" amount = some (twoDecimals order.capturedCents)

/-- The settlement is of the capture of the order. -/
structure Settles (order : RailOrder rail) (settlement : SettlementEvent) : Prop where
  tenantId : settlement.tenantId = order.tenantId
  amountMicroUsd : settlement.amountMicroUsd = order.capturedMicroUsd
  externalRef : settlement.externalRef = order.captureId

/-- The captures that a body lists. -/
def capturesOf (body : Json) : List Json :=
  ((arrayField "purchase_units" body).getD []).flatMap capturesOfUnit

-----------------------------------------------------------------------------------------
-- The order that a top-up creates
-----------------------------------------------------------------------------------------

/-- A text without white space has no margins. -/
theorem trim_of_untrimmed {text : String} (none : ∀ c ∈ text.toList, isTrimmed c = false)
    : trim text = text := by
  have same : trim text = String.ofList (TextParts.strip isTrimmed text.toList) := rfl
  rw [same, TextParts.strip_eq_self isTrimmed none, String.ofList_toList]

/-- A visible character of the ASCII range is no white space. -/
theorem isTrimmed_of_visible {c : Char} (visible : 0x21 ≤ c.toNat ∧ c.toNat ≤ 0x7e)
    : isTrimmed c = false := by
  simp [isTrimmed]
  omega

/-- The tenant of a top-up has a name without margins. -/
theorem RailOrder.tenantId_whole (order : RailOrder rail)
    : order.tenantId ≠ "" ∧ trim order.tenantId = order.tenantId := by
  have named := order.named
  simp only [isTenantId, Bool.and_eq_true, decide_eq_true_eq, List.isPrefixOf_iff_prefix] at named
  obtain ⟨⟨⟨rest, cut⟩, long⟩, digits⟩ := named
  have behind : order.tenantId.toList.drop 4 = rest := by
    rw [← cut]
    rfl
  rw [behind] at digits
  constructor
  · intro empty
    rw [empty] at long
    exact absurd long (by decide)
  · refine trim_of_untrimmed fun c member => isTrimmed_of_visible ?_
    rw [← cut] at member
    rcases List.mem_append.mp member with front | later
    · have visible : "ten_".toList.all (fun c => 0x21 ≤ c.toNat ∧ c.toNat ≤ 0x7e) = true := by
        decide
      exact of_decide_eq_true (List.all_eq_true.mp visible c front)
    · have digit := List.all_eq_true.mp digits c later
      simp only [Char.isDigit, Bool.or_eq_true, Bool.and_eq_true, decide_eq_true_eq,
        UInt32.le_iff_toNat_le, Char.le_def] at digit
      have bounds : (48 ≤ c.toNat ∧ c.toNat ≤ 57) ∨ (97 ≤ c.toNat ∧ c.toNat ≤ 102) := digit
      omega

/-- What a top-up asks for: the tenant's money in US dollars, an amount that is exact. -/
theorem createTopUp_eq_ok {tenantId : String} {amountMicroUsd : Int} {unit : PurchaseUnit}
    (created : createTopUp rail tenantId amountMicroUsd = .ok unit)
    : unit.currencyCode = "USD" ∧ unit.customId = tenantId
      ∧ isSafeInteger amountMicroUsd = true := by
  unfold createTopUp at created
  split at created
  next => exact nomatch created
  next =>
    split at created
    next => exact nomatch created
    next allowed =>
      split at created
      next => exact nomatch created
      next value spelled =>
        cases created
        refine ⟨rfl, rfl, ?_⟩
        by_contra unsafeAmount
        exact allowed (.inl (by simpa using unsafeAmount))

/-- The captured amount is read back exactly. -/
theorem RailOrder.captured_exact (order : RailOrder rail)
    : paypalValueToMicroUsd (twoDecimals order.capturedCents) = some order.capturedMicroUsd := by
  refine paypalValueToMicroUsd_twoDecimals ?_
  obtain ⟨-, -, safe⟩ := createTopUp_eq_ok order.created
  have below : (order.amountMicroUsd : ℚ) ≤ ((2 ^ 53 - 1 : ℤ) : ℚ) := by
    refine (le_of_isSafeInteger safe).trans_eq ?_
    norm_num
  have whole : order.amountMicroUsd ≤ 2 ^ 53 - 1 := by exact_mod_cast below
  have within := order.capturedWithin
  omega

-----------------------------------------------------------------------------------------
-- What is read of a report
-----------------------------------------------------------------------------------------

/-- A text without margins is read as it is. -/
theorem trimmedText_eq {key text : String} {json : Json} (field : textField key json = some text)
    (whole : trim text = text)
    : trimmedText key json = text := by
  rw [trimmedText, field, Option.getD_some, whole]

theorem ReportsCapture.tenant {order : RailOrder rail} {resource : Json}
    (reports : ReportsCapture order resource)
    : trimmedText "custom_id" resource = order.tenantId := by
  have custom := reports.customId
  rw [(createTopUp_eq_ok order.created).2.1] at custom
  exact trimmedText_eq custom order.tenantId_whole.2

theorem ReportsCapture.amountOf_eq {order : RailOrder rail} {resource : Json}
    (reports : ReportsCapture order resource)
    : amountOf resource = some order.capturedMicroUsd := by
  obtain ⟨amount, isAmount, currency, value⟩ := reports.amount
  rw [(createTopUp_eq_ok order.created).1] at currency
  have positive : (0 : Int) < order.capturedMicroUsd := by
    have some := order.capturedSome
    rw [RailOrder.capturedMicroUsd]
    omega
  rw [amountOf, isAmount]
  dsimp only
  rw [if_pos currency, value, Option.bind_some, order.captured_exact]
  exact Option.filter_some_pos (decide_eq_true positive)

/-- The event of a completed capture is read as its settlement. -/
theorem ReportsCapture.settlement {order : RailOrder rail} {event resource : Json}
    (reports : ReportsCapture order resource)
    (typed : textField "event_type" event = some CAPTURE_COMPLETED)
    (carries : event.field? "resource" = some resource)
    : ∃ settlement, railEventFromVerifiedEvent event = some (.settlement settlement)
        ∧ Settles order settlement := by
  have otherType : ¬ textField "event_type" event = some ORDER_APPROVED := by
    rw [typed]
    decide
  refine
    ⟨{ tenantId := order.tenantId
       amountMicroUsd := order.capturedMicroUsd
       externalRef := order.captureId
       note := some "paypal PAYMENT.CAPTURE.COMPLETED" },
      ?_, rfl, rfl, rfl⟩
  rw [railEventFromVerifiedEvent, if_neg otherType, settlementFromVerifiedEvent,
    if_neg (not_not_intro typed), carries, Option.bind_some]
  dsimp only
  rw [reports.tenant, if_neg order.tenantId_whole.1, reports.amountOf_eq, Option.bind_some,
    reports.id, Option.getD_some, if_neg order.captureIdWhole.1, if_neg order.captureIdWhole.1]
  rfl

/-- A capture that settles an approved order settles it for the order's tenant. -/
theorem ReportsCapture.settles {order : RailOrder rail} {approved : ApprovedOrder}
    {resource : Json} {settlement : SettlementEvent} (reports : ReportsCapture order resource)
    (tenant : approved.tenantRef = order.tenantId)
    (settled : settlementOfCapture approved resource = some settlement)
    : Settles order settlement := by
  unfold settlementOfCapture at settled
  dsimp only at settled
  split at settled
  next => exact nomatch settled
  next =>
    rw [reports.amountOf_eq, Option.bind_some,
      trimmedText_eq reports.id order.captureIdWhole.2, if_neg order.captureIdWhole.1] at settled
    cases settled
    exact ⟨tenant, rfl, rfl⟩

/-- The capture of a response is one that it lists, and is completed. -/
theorem completedCaptureFrom_mem {body capture : Json}
    (isCapture : completedCaptureFrom body = some capture)
    : capture ∈ capturesOf body ∧ textField "status" capture = some "COMPLETED" := by
  obtain ⟨units, isUnits, found⟩ := Option.bind_eq_some_iff.mp isCapture
  obtain ⟨unit, isUnit, inUnit⟩ := List.exists_of_findSome?_eq_some found
  have completed := List.find?_some inUnit
  refine ⟨?_, of_decide_eq_true completed⟩
  rw [capturesOf, isUnits, Option.getD_some]
  exact List.mem_flatMap.mpr ⟨unit, isUnit, List.mem_of_find?_eq_some inUnit⟩

/-- An approved order is read with its own id and tenant. -/
theorem ReportsOrder.approved {order : RailOrder rail} {resource : Json}
    {approved : ApprovedOrder} (reports : ReportsOrder order resource)
    (isRead : approvedFromOrderResource resource = some approved)
    : approved.orderRef = order.orderId ∧ approved.tenantRef = order.tenantId := by
  unfold approvedFromOrderResource at isRead
  rw [trimmedText_eq reports.id order.orderIdWhole.2] at isRead
  dsimp only at isRead
  rw [if_neg order.orderIdWhole.1] at isRead
  obtain ⟨units, isUnits, found⟩ := Option.bind_eq_some_iff.mp isRead
  obtain ⟨unit, first, isApproved⟩ := Option.map_eq_some_iff.mp found
  have filled : trimmedText "custom_id" unit ≠ "" := by
    have kept := List.find?_some first
    simpa using kept
  subst isApproved
  refine ⟨rfl, ?_⟩
  change trimmedText "custom_id" unit = order.tenantId
  cases custom : textField "custom_id" unit with
  | none =>
      rw [trimmedText, custom] at filled
      exact absurd (by decide +kernel) filled
  | some customId =>
      have same := reports.customId units isUnits unit (List.mem_of_find?_eq_some first)
        customId custom
      rw [same, (createTopUp_eq_ok order.created).2.1] at custom
      exact trimmedText_eq custom order.tenantId_whole.2

end ControlPlane.PayPal
