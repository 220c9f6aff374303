import Mathlib.Data.List.Sort
import ControlPlane.Library.KeyedTables
import ControlPlane.LlmSpend.Window

/-! The statements of the LLM spend meter: the run records, the usage rows, the cursor and the
billing read. A usage row belongs to the run that ingested it, not to the window its request
fell in.
-/

namespace ControlPlane.Store

open ControlPlane.Library
open ControlPlane.LlmSpend

/-- A row of llm_rollup_periods. -/
structure RollupPeriod where
  id : String
  windowStart : String
  windowEnd : String
  status : RollupStatus
  controlPassed : Bool
  rowsIngested : Nat
  gapDetected : Bool
  startedAt : String
  finishedAt : Option String
  deriving DecidableEq, Repr

/-- A row of llm_spend_events. -/
structure SpendRow extends SpendEvent where
  insertedAt : String
  periodId : String
  deriving DecidableEq, Repr

/-- The primary key of llm_spend_events. -/
def SpendRow.key (row : SpendRow) : String × String :=
  (row.source, row.sourceId)

/-- The meter's tables. Of the cursor table only the row of the one source is read or written. -/
structure LlmSpendDb where
  periods : Keyed RollupPeriod.id
  events : Keyed SpendRow.key
  watermark : Option String

/-- What openLlmRollupPeriod writes. -/
structure RollupPeriodWrite where
  id : String
  windowStart : String
  windowEnd : String
  status : RollupStatus
  controlPassed : Bool
  gapDetected : Bool
  startedAt : String
  deriving DecidableEq, Repr

/-- The row exists so that events have a parent. It claims nothing until it is closed. -/
def RollupPeriodWrite.row (period : RollupPeriodWrite) : RollupPeriod where
  id := period.id
  windowStart := period.windowStart
  windowEnd := period.windowEnd
  status := period.status
  controlPassed := period.controlPassed
  rowsIngested := 0
  gapDetected := period.gapDetected
  startedAt := period.startedAt
  finishedAt := none

/-- One batch of writeLlmSpendEvents is one transaction of this many rows. -/
def chunkSize : Nat := 50

/-- UPDATE ... SET rows_ingested, finished_at WHERE id. -/
def closePeriod (periodId : String) (rowsIngested : Nat) (finishedAt : String)
    : Update RollupPeriod.id where
  target := periodId
  guard _ := true
  set period := { period with rowsIngested := rowsIngested, finishedAt := some finishedAt }
  keeps _ := rfl

/-- The census orders by window_end and then by id, which is total. -/
def censusOrder (first second : RollupPeriod) : Prop :=
  first.windowEnd < second.windowEnd
  ∨ (first.windowEnd = second.windowEnd ∧ first.id ≤ second.id)

instance : DecidableRel censusOrder := by
  unfold censusOrder; infer_instance

/-- The columns of the census. -/
def RollupPeriod.select (period : RollupPeriod) : RollupPeriodRow where
  id := period.id
  windowStart := period.windowStart
  windowEnd := period.windowEnd
  status := period.status
  controlPassed := period.controlPassed
  gapDetected := period.gapDetected
  finishedAt := period.finishedAt

/-- MAX_PERIODS_PER_WINDOW. -/
def maxPeriodsPerWindow : Nat := 20000

/-- The bounds of one billing read. -/
structure SpendQuery where
  tenantId : String
  windowStart : String
  windowEnd : String
  deriving DecidableEq, Repr

namespace LlmSpendDb

def readLlmWatermark (db : LlmSpendDb) : Option String :=
  db.watermark

/-- The newest window_end ever recorded. -/
def readLastPeriodEnd (db : LlmSpendDb) : Option String :=
  (db.periods.rows.map RollupPeriod.windowEnd).foldl
    (fun newest windowEnd => some (match newest with
      | none => windowEnd
      | some best => if best < windowEnd then windowEnd else best))
    none

/-- INSERT of the run record. An id that is taken makes the statement throw. -/
def openLlmRollupPeriod (db : LlmSpendDb) (period : RollupPeriodWrite) : Option LlmSpendDb :=
  if free : ∀ old ∈ db.periods.rows, old.id ≠ period.row.id then
    some { db with periods := db.periods.insert period.row free }
  else
    none

/-- The usage row of an event under a run. -/
def spendRow (periodId insertedAt : String) (event : SpendEvent) : SpendRow where
  toSpendEvent := event
  insertedAt := insertedAt
  periodId := periodId

/-- One batch of INSERT OR IGNORE statements. -/
def writeChunk (db : LlmSpendDb) (periodId insertedAt : String) (chunk : List SpendEvent)
    : LlmSpendDb :=
  { db with events := db.events.insertAll (chunk.map (spendRow periodId insertedAt)) }

/-- The sum of meta.changes over the batch: duplicates are not counted. -/
def chunkChanges (db : LlmSpendDb) (periodId insertedAt : String) (chunk : List SpendEvent)
    : Nat :=
  (db.writeChunk periodId insertedAt chunk).events.rows.length - db.events.rows.length

def closeLlmRollupPeriod (db : LlmSpendDb) (periodId : String) (rowsIngested : Nat)
    (finishedAt : String)
    : LlmSpendDb :=
  { db with periods := (closePeriod periodId rowsIngested finishedAt).apply db.periods }

/-- Monotonic by the statement: last_seen_at is the MAX of the old value and the new one. -/
def advanceLlmWatermark (db : LlmSpendDb) (lastSeenAt : String) : LlmSpendDb :=
  { db with
    watermark := some (match db.watermark with
      | none => lastSeenAt
      | some old => if old < lastSeenAt then lastSeenAt else old) }

/-- The runs a window is assigned, in the census order. -/
def windowPeriods (db : LlmSpendDb) (windowStart windowEnd : String) : List RollupPeriod :=
  (db.periods.rows.filter fun period =>
    windowStart ≤ period.windowEnd ∧ period.windowEnd < windowEnd).insertionSort censusOrder

/-- A tenant's usage rows under the reported runs of a window. The subquery is evaluated with
the sum, not with the census.
-/
def windowEvents (db : LlmSpendDb) (maxPeriods : Nat) (query : SpendQuery) : List SpendRow :=
  let reported := ((db.windowPeriods query.windowStart query.windowEnd).take maxPeriods).map
    RollupPeriod.id
  db.events.rows.filter fun row =>
    row.tenantId = some query.tenantId ∧ row.periodId ∈ reported

/-- SUM(cost_micro_usd), COUNT( * ) and the count of the NULL costs. -/
def sumsOf (rows : List SpendRow) : WindowSums where
  costMicroUsd := (rows.map fun row => row.costMicroUsd.getD 0).sum
  requests := rows.length
  unpricedRequests := rows.countP fun row => row.costMicroUsd = none

/-- One row more than the cap is selected, so that a truncation is seen. -/
def censused (db : LlmSpendDb) (maxPeriods : Nat) (query : SpendQuery) : List RollupPeriod :=
  (db.windowPeriods query.windowStart query.windowEnd).take (maxPeriods + 1)

def censusTruncated (db : LlmSpendDb) (maxPeriods : Nat) (query : SpendQuery) : Bool :=
  maxPeriods < (db.censused maxPeriods query).length

def reportedPeriods (db : LlmSpendDb) (maxPeriods : Nat) (query : SpendQuery)
    : List RollupPeriod :=
  if db.censusTruncated maxPeriods query then
    (db.censused maxPeriods query).take maxPeriods
  else
    db.censused maxPeriods query

/-- The billing read: its census sees the tables at one moment and its sum sees them at a later
one.
-/
def readTenantLlmSpend (maxPeriods : Nat) (atCensus atSum : LlmSpendDb) (query : SpendQuery)
    : LlmSpendWindow :=
  let periods := atCensus.reportedPeriods maxPeriods query
  let truncated := atCensus.censusTruncated maxPeriods query
  let sums :=
    if periods.length = 0 then
      { costMicroUsd := 0, requests := 0, unpricedRequests := 0 }
    else
      sumsOf (atSum.windowEvents maxPeriods query)
  summariseWindow (periods.map RollupPeriod.select) query.windowStart query.windowEnd sums
    truncated

/-- The runs of a window are those with a window_end in it. -/
theorem mem_windowPeriods {db : LlmSpendDb} {windowStart windowEnd : String}
    {period : RollupPeriod}
    : period ∈ db.windowPeriods windowStart windowEnd
      ↔ period ∈ db.periods.rows ∧ windowStart ≤ period.windowEnd
          ∧ period.windowEnd < windowEnd := by
  rw [windowPeriods, List.mem_insertionSort, List.mem_filter, decide_eq_true_eq]

/-- The census was cut exactly when the window has more runs than the cap. -/
theorem censusTruncated_iff {db : LlmSpendDb} {maxPeriods : Nat} {query : SpendQuery}
    : db.censusTruncated maxPeriods query
      ↔ maxPeriods < (db.windowPeriods query.windowStart query.windowEnd).length := by
  rw [censusTruncated, censused, decide_eq_true_eq, List.length_take]
  omega

/-- The census and the sum go over the same slice: the first runs, up to the cap. -/
theorem reportedPeriods_eq (db : LlmSpendDb) (maxPeriods : Nat) (query : SpendQuery)
    : db.reportedPeriods maxPeriods query
      = (db.windowPeriods query.windowStart query.windowEnd).take maxPeriods := by
  unfold reportedPeriods
  split
  · rw [censused, List.take_take, Nat.min_eq_left (Nat.le_succ maxPeriods)]
  · next notCut =>
      rw [censusTruncated_iff, not_lt] at notCut
      rw [censused, List.take_of_length_le notCut,
        List.take_of_length_le (notCut.trans (Nat.le_succ maxPeriods))]

/-- What a complete answer rests on: a census that was not cut and has a run, and every run of
it finished, read to the end, controlled and without a gap.
-/
theorem readTenantLlmSpend_complete {maxPeriods : Nat} {atCensus atSum : LlmSpendDb}
    {query : SpendQuery}
    (complete : (readTenantLlmSpend maxPeriods atCensus atSum query).complete)
    : let census := atCensus.windowPeriods query.windowStart query.windowEnd
      census.length ≤ maxPeriods
      ∧ census ≠ []
      ∧ ∀ period ∈ census,
          period.finishedAt ≠ none ∧ period.status = .complete ∧ period.controlPassed
          ∧ period.gapDetected = false := by
  intro census
  obtain ⟨notCut, observed, assigned, _⟩ := summariseWindow_complete.mp complete
  have fits : census.length ≤ maxPeriods := by
    by_contra more
    exact Bool.false_ne_true (notCut.symm.trans (censusTruncated_iff.mpr (not_le.mp more)))
  have whole : atCensus.reportedPeriods maxPeriods query = census := by
    rw [reportedPeriods_eq, List.take_of_length_le fits]
  rw [whole] at observed assigned
  refine ⟨fits, fun none => observed (by rw [none, List.map_nil]), ?_⟩
  intro period member
  obtain ⟨⟨finished, isFinished, _⟩, walked, controlled, kept⟩ :=
    assigned period.select (List.mem_map_of_mem member)
  refine ⟨fun none => ?_, walked, controlled, kept⟩
  exact Option.some_ne_none finished (isFinished.symm.trans none)

/-- With a run in its census, an answer reports the sum over the tenant's usage rows. -/
theorem readTenantLlmSpend_sums {maxPeriods : Nat} {atCensus atSum : LlmSpendDb}
    {query : SpendQuery}
    (observed : atCensus.windowPeriods query.windowStart query.windowEnd ≠ [])
    (positive : 0 < maxPeriods)
    : let answer := readTenantLlmSpend maxPeriods atCensus atSum query
      let sums := sumsOf (atSum.windowEvents maxPeriods query)
      answer.costMicroUsd = sums.costMicroUsd ∧ answer.requests = sums.requests := by
  intro answer sums
  have reported : ¬ (atCensus.reportedPeriods maxPeriods query).length = 0 := by
    have some := List.length_pos_iff.mpr observed
    rw [reportedPeriods_eq, List.length_take]
    omega
  simp only [answer, sums, readTenantLlmSpend, summariseWindow, if_neg reported, and_self]

end LlmSpendDb

end ControlPlane.Store
