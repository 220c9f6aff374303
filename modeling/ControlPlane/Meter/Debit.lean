import Mathlib.Data.Int.Order.Basic

/-! What a metered window owes, or why it cannot be said. A window that was not fully observed has
no total, and an allowance that is not configured is not zero.
-/

namespace ControlPlane.Meter

/-- A number of the runtime: an integer, or the text that stands for another one. -/
inductive JsNumber
  | integer (value : Int)
  | other (text : String)
  deriving DecidableEq, Repr

def JsNumber.toText : JsNumber → String
  | .integer value => toString value
  | .other text => text

/-- The completeness half of any metered window. A window of an older shape has no flag. -/
structure MeterWindow where
  windowStart : String
  windowEnd : String
  complete : Option Bool
  reason : Option String
  deriving DecidableEq, Repr

/-- Billable only on an explicit true. -/
def isUnbillable (window : MeterWindow) : Bool :=
  window.complete ≠ some true

inductive MeterClass
  | llm
  | r2Storage
  deriving DecidableEq, Repr

def MeterClass.text : MeterClass → String
  | .llm => "llm"
  | .r2Storage => "r2_storage"

/-- The idempotency key for one tenant's overage in one billing period. -/
def overageIdemRef (meter : MeterClass) (periodKey : String) : String :=
  "overage:" ++ meter.text ++ ":" ++ periodKey

inductive DebitDecision
  | debit (amountMicroUsd costMicroUsd : Int) (idemRef note : String)
  | within (usedMicroUsd allowanceMicroUsd : Int) (note : String)
  | unbillable (reason : String)
  deriving DecidableEq, Repr

/-- Decide the overage for one tenant, one meter class, one billing period. The completeness of
the window is the first guard.
-/
def decideOverageDebit (meter : MeterClass) (window : MeterWindow) (usedMicroUsd : JsNumber)
    (allowanceMicroUsd : Option JsNumber) (periodKey : String)
    : DebitDecision :=
  if isUnbillable window then
    .unbillable ("the " ++ meter.text ++ " meter did not fully observe " ++ window.windowStart
      ++ ".." ++ window.windowEnd ++ ", so its total is not a number we may bill from: "
      ++ window.reason.getD "no reason recorded")
  else
    let badUsage :=
      DebitDecision.unbillable ("the " ++ meter.text ++ " meter reported a usage of "
        ++ usedMicroUsd.toText ++ " micro-USD, which is not a non-negative integer. Refusing to "
        ++ "bill from it rather than coercing it to a number that would be silently wrong")
    match usedMicroUsd with
    | .other _ => badUsage
    | .integer used =>
        if used < 0 then badUsage
        else
          match allowanceMicroUsd with
          | none =>
              .unbillable ("no included allowance is configured for the " ++ meter.text
                ++ " meter, so there is nothing to measure overage against. An unset allowance "
                ++ "is the absence of a decision, not a decision of zero, and billing every "
                ++ "micro-USD against an allowance nobody chose would charge the tenant for our "
                ++ "missing config")
          | some configured =>
              let badAllowance :=
                DebitDecision.unbillable ("the configured " ++ meter.text ++ " allowance "
                  ++ configured.toText ++ " is not a non-negative integer number of micro-USD. A "
                  ++ "malformed allowance is refused rather than rounded, because \"typed it "
                  ++ "wrong\" and \"chose no allowance\" must not be the same outcome")
              match configured with
              | .other _ => badAllowance
              | .integer allowance =>
                  if allowance < 0 then badAllowance
                  else if used ≤ allowance then
                    .within used allowance (toString used ++ " of " ++ toString allowance
                      ++ " micro-USD included " ++ meter.text ++ " allowance used in "
                      ++ periodKey ++ "; nothing owed")
                  else
                    .debit (used - allowance) used (overageIdemRef meter periodKey)
                      (meter.text ++ " overage for " ++ periodKey ++ ": " ++ toString used
                        ++ " micro-USD used against a " ++ toString allowance
                        ++ " micro-USD included allowance")

/-- What a debit rests on: a window observed to be complete, and an integer usage above the
configured allowance.
-/
structure Overage (meter : MeterClass) (window : MeterWindow) (usedMicroUsd : JsNumber)
    (allowanceMicroUsd : Option JsNumber) (periodKey : String) (amount cost : Int)
    (idemRef : String)
    : Prop where
  complete : window.complete = some true
  idemRef : idemRef = overageIdemRef meter periodKey
  used : usedMicroUsd = .integer cost
  allowance
    : ∃ allowance, allowanceMicroUsd = some (.integer allowance) ∧ 0 ≤ allowance
        ∧ allowance < cost ∧ amount = cost - allowance

/-- Only an overage is debited. -/
theorem overage_of_debit {meter : MeterClass} {window : MeterWindow} {usedMicroUsd : JsNumber}
    {allowanceMicroUsd : Option JsNumber} {periodKey : String} {amount cost : Int}
    {idemRef note : String}
    (debited
      : decideOverageDebit meter window usedMicroUsd allowanceMicroUsd periodKey
        = .debit amount cost idemRef note)
    : Overage meter window usedMicroUsd allowanceMicroUsd periodKey amount cost idemRef := by
  unfold decideOverageDebit at debited
  split at debited
  · cases debited
  · next billable =>
      have complete : window.complete = some true := by simpa [isUnbillable] using billable
      split at debited
      · cases debited
      · next used =>
          split at debited
          · cases debited
          · split at debited
            · cases debited
            · split at debited
              · cases debited
              · next allowance =>
                  split at debited
                  · cases debited
                  · next nonneg =>
                      split at debited
                      · cases debited
                      · next exceeds =>
                          cases debited
                          exact ⟨complete, rfl, rfl, allowance, rfl, Int.not_lt.mp nonneg,
                            Int.not_le.mp exceeds, rfl⟩

end ControlPlane.Meter
