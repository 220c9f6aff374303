import Mathlib.Data.Int.Log
import Mathlib.Data.Rat.Floor
import Mathlib.Data.String.Basic

/-! One roll-up of the gateway log as pure decisions: what a log row becomes, what a page adds
to a walk, and what a finished walk is worth. A value the gateway sends may have any type.
-/

namespace ControlPlane.LlmSpend

inductive JsNumber
  | finite (value : ℚ)
  | nan
  | infinite (negative : Bool)
  deriving DecidableEq, Repr

/-- A value of a JSON field. Absent, null and nested values are `other`. -/
inductive JsValue
  | text (value : String)
  | number (value : JsNumber)
  | bool (value : Bool)
  | other
  deriving DecidableEq, Repr

/-- The two keys the meter reads of a metadata object. -/
structure Metadata where
  tenantId : JsValue := .other
  slug : JsValue := .other
  deriving DecidableEq, Repr

/-- One AI Gateway log row. Metadata that is no object is none. -/
structure GatewayLogRow where
  id : JsValue
  createdAt : JsValue
  model : JsValue := .other
  cost : JsValue := .other
  tokensIn : JsValue := .other
  tokensOut : JsValue := .other
  cached : JsValue := .other
  metadata : Option Metadata := none
  deriving DecidableEq, Repr

/-- The gateway caps per_page at 50. -/
def maxPerPage : Nat := 50

/-- White space and line terminators, as trim() knows them. -/
def isJsSpace (c : Char) : Bool :=
  c.val ∈ [0x9, 0xA, 0xB, 0xC, 0xD, 0x20, 0xA0, 0x1680, 0x2028, 0x2029, 0x202F, 0x205F, 0x3000,
    0xFEFF]
  ∨ (0x2000 ≤ c.val ∧ c.val ≤ 0x200A)

def trim (text : String) : String :=
  String.ofList (((text.toList.dropWhile isJsSpace).reverse.dropWhile isJsSpace).reverse)

/-- The nearest integer, and the even one of two. -/
def roundHalfEven (value : ℚ) : ℤ :=
  let below := ⌊value⌋
  if value - below < 1 / 2 then below
  else if 1 / 2 < value - below then below + 1
  else if below % 2 = 0 then below
  else below + 1

/-- The double nearest to a number that is not negative. Overflow to infinity is not
reached by a cost in dollars.
-/
def nearestDouble (value : ℚ) : ℚ :=
  let quantum : ℚ := 2 ^ max (Int.log 2 value - 52) (-1074)
  roundHalfEven (value / quantum) * quantum

/-- Math.round: a tie goes up. -/
def mathRound (value : ℚ) : ℤ := ⌊value + 1 / 2⌋

/-- Dollars to integer micro-USD. What is not a finite number from 0 up has no price. -/
def toMicroUsd : JsValue → Option ℤ
  | .number (.finite cost) =>
      if cost < 0 then none else some (mathRound (nearestDouble (cost * 1000000)))
  | _ => none

/-- A usage row ready to write. No tenant means unattributed. -/
structure SpendEvent where
  source : String := "ai_gateway"
  sourceId : String
  tenantId : Option String
  slug : Option String
  model : Option String
  costMicroUsd : Option ℤ
  tokensIn : Option ℤ
  tokensOut : Option ℤ
  cached : Option Bool
  occurredAt : String
  deriving DecidableEq, Repr

def str : JsValue → Option String
  | .text value => if trim value = "" then none else some (trim value)
  | _ => none

/-- Math.trunc of a finite number. -/
def num : JsValue → Option ℤ
  | .number (.finite value) => some (if 0 ≤ value then ⌊value⌋ else ⌈value⌉)
  | _ => none

/-- One log row as a usage row, or nothing when it has no usable id or timestamp. -/
def parseLogRow (row : GatewayLogRow) : Option SpendEvent := do
  let sourceId ← str row.id
  let occurredAt ← str row.createdAt
  return {
    sourceId := sourceId
    tenantId := row.metadata.bind fun metadata => str metadata.tenantId
    slug := row.metadata.bind fun metadata => str metadata.slug
    model := str row.model
    costMicroUsd := toMicroUsd row.cost
    tokensIn := num row.tokensIn
    tokensOut := num row.tokensOut
    cached := match row.cached with
      | .bool value => some value
      | _ => none
    occurredAt := occurredAt }

/-- The newest occurred_at in a batch. -/
def newestOccurredAt (events : List SpendEvent) : Option String :=
  events.foldl
    (fun best event =>
      match best with
      | none => some event.occurredAt
      | some newest => if newest < event.occurredAt then some event.occurredAt else best)
    none

inductive RollupStatus
  | complete
  | incomplete
  | failed
  deriving DecidableEq, Repr

structure RollupResult where
  status : RollupStatus
  controlPassed : Bool
  gapDetected : Bool
  events : List SpendEvent
  rowsSeen : Nat
  rowsDropped : Nat
  newWatermark : Option String
  note : String
  deriving DecidableEq, Repr

/-- What an unfiltered probe reports. -/
structure Probe where
  total : Option ℤ
  oldest : Option String
  deriving DecidableEq, Repr

/-- What a page walk has gathered. -/
structure Collected where
  events : List SpendEvent := []
  rowsSeen : Nat := 0
  rowsDropped : Nat := 0
  exhausted : Bool := false
  deriving DecidableEq, Repr

/-- One page of the walk: a short page ends it. -/
def collectPage (walk : Collected) (rows : List GatewayLogRow) : Collected where
  events := walk.events ++ rows.filterMap parseLogRow
  rowsSeen := walk.rowsSeen + rows.length
  rowsDropped := walk.rowsDropped + rows.countP fun row => parseLogRow row = none
  exhausted := rows.length < maxPerPage

/-- The positive control: the probe saw rows. -/
def Probe.controlPassed (probe : Probe) : Bool :=
  match probe.total with
  | some total => 0 < total
  | none => false

/-- Rows were deleted unread: the oldest one left is newer than the watermark. -/
def Probe.gapDetected (probe : Probe) (after : Option String) : Bool :=
  match after, probe.oldest with
  | some watermark, some oldest => watermark ≠ "" ∧ oldest ≠ "" ∧ watermark < oldest
  | _, _ => false

/-- The run whose probe threw. -/
def probeThrew (message : String) : RollupResult where
  status := .failed
  controlPassed := false
  gapDetected := false
  events := []
  rowsSeen := 0
  rowsDropped := 0
  newWatermark := none
  note := "positive control threw, so nothing read is evidence: " ++ message

/-- The run whose walk threw. What it had gathered is dropped. -/
def pagingThrew (probe : Probe) (after : Option String) (message : String)
    : RollupResult where
  status := .failed
  controlPassed := probe.controlPassed
  gapDetected := probe.gapDetected after
  events := []
  rowsSeen := 0
  rowsDropped := 0
  newWatermark := none
  note := "paging failed: " ++ message

/-- String(value) of a value that may be null. -/
def orNull {α : Type} [ToString α] : Option α → String
  | some value => toString value
  | none => "null"

/-- The remarks on a walk, in the order they are made. -/
def rollupNotes (probe : Probe) (after : Option String) (pageCap : Nat) (walk : Collected)
    : List String :=
  let unpriced := walk.events.countP fun event => event.costMicroUsd = none
  let unattributed := walk.events.countP fun event => event.tenantId = none
  (if probe.controlPassed then [] else
    ["POSITIVE CONTROL FAILED: an unfiltered probe reported " ++ orNull probe.total ++
      ". An empty read is indistinguishable from wrong-gateway, wrong-account or " ++
      "no-permission, so this period is UNBILLABLE rather than zero."])
  ++ (if walk.exhausted then [] else
    ["page cap " ++ toString pageCap ++
      " reached before exhaustion; window is PARTIAL and RESUMABLE."])
  ++ (if probe.gapDetected after then
    ["GAP: the oldest row still in the gateway (" ++ orNull probe.oldest ++
      ") is newer than the watermark (" ++ after.getD "undefined" ++
      "), so rows between them were deleted UNREAD and are gone. Not resumable; this is " ++
      "retention loss, not an unfinished walk."] else [])
  ++ (if 0 < unpriced then
    [toString unpriced ++ " row(s) carried no usable cost and were kept with a NULL cost, " ++
      "never 0: a row we cannot price is recorded and unbillable rather than silently free."]
    else [])
  ++ (if 0 < walk.rowsDropped then
    [toString walk.rowsDropped ++ " row(s) unparseable and dropped; that is a gap, not a zero."]
    else [])
  ++ (if 0 < unattributed then
    [toString unattributed ++ " row(s) carried no cf-aig-metadata and are UNATTRIBUTED. " ++
      "Written with a null tenant, never spread: a rising count means the emitter regressed."]
    else [])

/-- The run whose walk ended: complete when it read to the end and nothing was lost before. -/
def rolledUp (probe : Probe) (after : Option String) (pageCap : Nat) (walk : Collected)
    : RollupResult where
  status := if walk.exhausted ∧ ¬ probe.gapDetected after then .complete else .incomplete
  controlPassed := probe.controlPassed
  gapDetected := probe.gapDetected after
  events := walk.events
  rowsSeen := walk.rowsSeen
  rowsDropped := walk.rowsDropped
  newWatermark := newestOccurredAt walk.events
  note := " ".intercalate (rollupNotes probe after pageCap walk)

/-- A row that parses keeps its own trimmed id and timestamp. -/
theorem parseLogRow_eq_some {row : GatewayLogRow} {event : SpendEvent}
    (parsed : parseLogRow row = some event)
    : str row.id = some event.sourceId
      ∧ str row.createdAt = some event.occurredAt
      ∧ event.source = "ai_gateway" := by
  simp only [parseLogRow, Option.bind_eq_bind, Option.bind_eq_some_iff, Option.pure_def,
    Option.some.injEq] at parsed
  obtain ⟨sourceId, hasId, occurredAt, hasTime, became⟩ := parsed
  subst became
  exact ⟨hasId, hasTime, rfl⟩

/-- A row is usable exactly when its id and its timestamp are. -/
theorem parseLogRow_isSome {row : GatewayLogRow}
    : (parseLogRow row).isSome ↔ (str row.id).isSome ∧ (str row.createdAt).isSome := by
  cases hasId : str row.id with
  | none => simp [parseLogRow, hasId]
  | some sourceId =>
      cases hasTime : str row.createdAt with
      | none => simp [parseLogRow, hasId, hasTime]
      | some occurredAt => simp [parseLogRow, hasId, hasTime]

theorem roundHalfEven_nonneg {value : ℚ} (nonneg : 0 ≤ value) : 0 ≤ roundHalfEven value := by
  have below : 0 ≤ ⌊value⌋ := Int.floor_nonneg.mpr nonneg
  simp only [roundHalfEven]
  split_ifs <;> omega

/-- A price is never negative, so it passes the CHECK of its column. -/
theorem toMicroUsd_nonneg {cost : JsValue} {price : ℤ} (priced : toMicroUsd cost = some price)
    : 0 ≤ price := by
  cases cost with
  | number value =>
      cases value with
      | finite amount =>
          simp only [toMicroUsd] at priced
          split at priced
          · exact absurd priced (Option.some_ne_none _).symm
          · next notNegative =>
              have product : 0 ≤ amount * 1000000 := by
                have nonneg : 0 ≤ amount := not_lt.mp notNegative
                positivity
              have double : 0 ≤ nearestDouble (amount * 1000000) := by
                have quantum : (0 : ℚ) < 2 ^ max (Int.log 2 (amount * 1000000) - 52) (-1074) :=
                  zpow_pos (by norm_num) _
                have rounded := roundHalfEven_nonneg (div_nonneg product quantum.le)
                exact mul_nonneg (by exact_mod_cast rounded) quantum.le
              rw [← Option.some.inj priced, mathRound]
              exact Int.floor_nonneg.mpr (by linarith)
      | nan => exact absurd priced (Option.some_ne_none _).symm
      | infinite negative => exact absurd priced (Option.some_ne_none _).symm
  | text value => exact absurd priced (Option.some_ne_none _).symm
  | bool value => exact absurd priced (Option.some_ne_none _).symm
  | other => exact absurd priced (Option.some_ne_none _).symm

end ControlPlane.LlmSpend
