import Mathlib.Logic.Function.Basic
import ControlPlane.Library.Runs
import ControlPlane.Store.LlmSpend

/-! The roll-up as a system: any number of runs that share the meter's tables, each of them a
chain of store calls and gateway reads that may end after any link. Which answers the gateway
gives is left open here.
-/

namespace ControlPlane.LlmSpend

open ControlPlane.Library
open ControlPlane.Store

/-- What a run knows before it turns to the gateway. -/
structure RunStart where
  startedAt : String
  pageCap : Nat
  watermarkBefore : Option String
  lastEnd : Option String
  deriving DecidableEq, Repr

structure IngestOutcome where
  periodId : String
  windowStart : String
  windowEnd : String
  status : RollupStatus
  controlPassed : Bool
  gapDetected : Bool
  rowsSeen : Nat
  rowsDropped : Nat
  eventsWritten : Nat
  watermarkBefore : Option String
  watermarkAfter : Option String
  note : String
  deriving DecidableEq, Repr

/-- Where an invocation of ingestLlmSpend is between two of its calls. A run that dies stays
where it is.
-/
inductive RunAt
  | idle
  | started (startedAt : String) (pageCap : Nat)
  | cursorRead (startedAt : String) (pageCap : Nat) (watermarkBefore : Option String)
  | prepared (start : RunStart)
  | paging (start : RunStart) (probe : Probe) (walk : Collected) (page : Nat)
  | rolledUp (start : RunStart) (result : RollupResult)
  | writing (start : RunStart) (result : RollupResult) (periodId : String)
      (rest : List SpendEvent) (written : Nat)
  | closed (start : RunStart) (result : RollupResult) (periodId : String) (written : Nat)
  | done (outcome : IngestOutcome)
  deriving DecidableEq, Repr

/-- The calls a run makes, with the answers that come from outside. -/
inductive RunCall
  | start (pageCap : Nat)
  | readLlmWatermark
  | readLastPeriodEnd
  | probe (answer : Except String Probe)
  | list (answer : Except String (List GatewayLogRow))
  | openLlmRollupPeriod (newId : String)
  | writeLlmSpendEvents
  | closeLlmRollupPeriod
  | advanceLlmWatermark

/-- The rows the gateway hands over in a call. -/
def RunCall.rows : RunCall → List GatewayLogRow
  | .list (.ok rows) => rows
  | _ => []

/-- The run record. The first run's window has no width. -/
def RunStart.period (start : RunStart) (result : RollupResult) (newId : String)
    : RollupPeriodWrite where
  id := newId
  windowStart := start.lastEnd.getD start.startedAt
  windowEnd := start.startedAt
  status := result.status
  controlPassed := result.controlPassed
  gapDetected := result.gapDetected
  startedAt := start.startedAt

/-- The cursor a run may move to: only a passed control moves it. -/
def RollupResult.advancesTo (result : RollupResult) : Option String :=
  if result.controlPassed then result.newWatermark.filter (fun newest => newest ≠ "") else none

def RunStart.outcome (start : RunStart) (result : RollupResult) (periodId : String)
    (written : Nat)
    : IngestOutcome where
  periodId := periodId
  windowStart := (start.period result periodId).windowStart
  windowEnd := (start.period result periodId).windowEnd
  status := result.status
  controlPassed := result.controlPassed
  gapDetected := result.gapDetected
  rowsSeen := result.rowsSeen
  rowsDropped := result.rowsDropped
  eventsWritten := written
  watermarkBefore := start.watermarkBefore
  watermarkAfter := result.advancesTo.or start.watermarkBefore
  note := result.note

/-- The walk goes on to a page within the cap, or is over. -/
def RunStart.nextPage (start : RunStart) (probe : Probe) (walk : Collected) (page : Nat)
    : RunAt :=
  if ¬ walk.exhausted ∧ page ≤ start.pageCap then
    .paging start probe walk page
  else
    .rolledUp start
      (LlmSpend.rolledUp probe start.watermarkBefore start.pageCap walk)

/-- The tables after the last call of a run, which is no call when the cursor stays. -/
def advanced (db : LlmSpendDb) (result : RollupResult) : LlmSpendDb :=
  match result.advancesTo with
  | some newest => db.advanceLlmWatermark newest
  | none => db

/-- One call of one run, or nothing when the run is not there. -/
def RunAt.step (now : String) (db : LlmSpendDb) : RunAt → RunCall → Option (LlmSpendDb × RunAt)
  | .idle, .start pageCap => some (db, .started now pageCap)
  | .started startedAt pageCap, .readLlmWatermark =>
      some (db, .cursorRead startedAt pageCap db.readLlmWatermark)
  | .cursorRead startedAt pageCap watermarkBefore, .readLastPeriodEnd =>
      some (db, .prepared
        { startedAt := startedAt
          pageCap := pageCap
          watermarkBefore := watermarkBefore
          lastEnd := db.readLastPeriodEnd })
  | .prepared start, .probe (.error message) => some (db, .rolledUp start (probeThrew message))
  | .prepared start, .probe (.ok probe) => some (db, start.nextPage probe {} 1)
  | .paging start probe _ _, .list (.error message) =>
      some (db, .rolledUp start (pagingThrew probe start.watermarkBefore message))
  | .paging start probe walk page, .list (.ok rows) =>
      some (db, start.nextPage probe (collectPage walk rows) (page + 1))
  | .rolledUp start result, .openLlmRollupPeriod newId =>
      (db.openLlmRollupPeriod (start.period result newId)).map fun opened =>
        (opened, .writing start result newId result.events 0)
  | .writing start result periodId rest written, .writeLlmSpendEvents =>
      -- one batch of at most a chunk; the loop ends when nothing is left
      if rest = [] then
        none
      else
        let chunk := rest.take chunkSize
        some (db.writeChunk periodId start.startedAt chunk,
          .writing start result periodId (rest.drop chunkSize)
            (written + db.chunkChanges periodId start.startedAt chunk))
  | .writing start result periodId [] written, .closeLlmRollupPeriod =>
      some (db.closeLlmRollupPeriod periodId written now,
        .closed start result periodId written)
  | .closed start result periodId written, .advanceLlmWatermark =>
      some (advanced db result, .done (start.outcome result periodId written))
  | _, _ => none

/-- The clock, the tables, where every run is, and which rows the gateway handed to it. -/
structure Meter where
  now : String
  db : LlmSpendDb
  runs : Nat → RunAt
  returned : Nat → List GatewayLogRow

inductive MeterAction
  | tick (next : String)
  | run (index : Nat) (call : RunCall)

/-- The meter before its first run. -/
def Meter.initial (now : String) : Meter where
  now := now
  db := { periods := .empty, events := .empty, watermark := none }
  runs _ := .idle
  returned _ := []

/-- The clock moves on, or one run makes its next call. -/
def Meter.step (meter : Meter) : MeterAction → Option Meter
  | .tick next => if meter.now ≤ next then some { meter with now := next } else none
  | .run index call =>
      ((meter.runs index).step meter.now meter.db call).map fun after =>
        { meter with
          db := after.1
          runs := Function.update meter.runs index after.2
          returned :=
            Function.update meter.returned index (meter.returned index ++ call.rows) }

/-- All that one call of a run can do. -/
inductive RunStep (now : String) (db : LlmSpendDb)
    : RunAt → RunCall → LlmSpendDb → RunAt → Prop
  | start (pageCap : Nat) : RunStep now db .idle (.start pageCap) db (.started now pageCap)
  | readLlmWatermark (startedAt : String) (pageCap : Nat)
      : RunStep now db (.started startedAt pageCap) .readLlmWatermark db
          (.cursorRead startedAt pageCap db.watermark)
  | readLastPeriodEnd (startedAt : String) (pageCap : Nat) (watermarkBefore : Option String)
      : RunStep now db (.cursorRead startedAt pageCap watermarkBefore) .readLastPeriodEnd db
          (.prepared ⟨startedAt, pageCap, watermarkBefore, db.readLastPeriodEnd⟩)
  | probeThrew (start : RunStart) (message : String)
      : RunStep now db (.prepared start) (.probe (.error message)) db
          (.rolledUp start (probeThrew message))
  | probed (start : RunStart) (probe : Probe)
      : RunStep now db (.prepared start) (.probe (.ok probe)) db (start.nextPage probe {} 1)
  | pagingThrew (start : RunStart) (probe : Probe) (walk : Collected) (page : Nat)
      (message : String)
      : RunStep now db (.paging start probe walk page) (.list (.error message)) db
          (.rolledUp start (pagingThrew probe start.watermarkBefore message))
  | listed (start : RunStart) (probe : Probe) (walk : Collected) (page : Nat)
      (rows : List GatewayLogRow)
      : RunStep now db (.paging start probe walk page) (.list (.ok rows)) db
          (start.nextPage probe (collectPage walk rows) (page + 1))
  | opened (start : RunStart) (result : RollupResult) (newId : String)
      (free : ∀ old ∈ db.periods.rows, old.id ≠ newId)
      : RunStep now db (.rolledUp start result) (.openLlmRollupPeriod newId)
          { db with periods := db.periods.insert (start.period result newId).row free }
          (.writing start result newId result.events 0)
  | wrote (start : RunStart) (result : RollupResult) (periodId : String)
      (rest : List SpendEvent) (written : Nat)
      : RunStep now db (.writing start result periodId rest written) .writeLlmSpendEvents
          (db.writeChunk periodId start.startedAt (rest.take chunkSize))
          (.writing start result periodId (rest.drop chunkSize)
            (written + db.chunkChanges periodId start.startedAt (rest.take chunkSize)))
  | closed (start : RunStart) (result : RollupResult) (periodId : String) (written : Nat)
      : RunStep now db (.writing start result periodId [] written) .closeLlmRollupPeriod
          (db.closeLlmRollupPeriod periodId written now) (.closed start result periodId written)
  | advanced (start : RunStart) (result : RollupResult) (periodId : String) (written : Nat)
      : RunStep now db (.closed start result periodId written) .advanceLlmWatermark
          (advanced db result) (.done (start.outcome result periodId written))

/-- A call that is made does what its step says, by cases on where the run is. -/
theorem RunAt.step_cases {now : String} {db db' : LlmSpendDb} {place place' : RunAt}
    {call : RunCall} (made : place.step now db call = some (db', place'))
    : RunStep now db place call db' place' := by
  unfold RunAt.step at made
  split at made
  · cases made
    exact .start _
  · cases made
    exact .readLlmWatermark _ _
  · cases made
    exact .readLastPeriodEnd _ _ _
  · cases made
    exact .probeThrew _ _
  · cases made
    exact .probed _ _
  · cases made
    exact .pagingThrew _ _ _ _ _
  · cases made
    exact .listed _ _ _ _ _
  · next start result newId =>
      obtain ⟨opened, inserted, same⟩ := Option.map_eq_some_iff.mp made
      cases same
      unfold LlmSpendDb.openLlmRollupPeriod at inserted
      split at inserted
      · next free =>
          cases inserted
          exact .opened start result newId free
      · exact absurd inserted (Option.some_ne_none _).symm
  · split at made
    · exact absurd made (Option.some_ne_none _).symm
    · cases made
      exact .wrote _ _ _ _ _
  · cases made
    exact .closed _ _ _ _
  · cases made
    exact .advanced _ _ _ _
  · exact absurd made (Option.some_ne_none _).symm

/-- A step of the meter: a tick, or one call of one run. -/
theorem Meter.step_cases {meter meter' : Meter} {action : MeterAction}
    (taken : meter.step action = some meter')
    : (∃ next, action = .tick next ∧ meter.now ≤ next ∧ meter' = { meter with now := next })
      ∨ ∃ index call db' place',
          action = .run index call
          ∧ RunStep meter.now meter.db (meter.runs index) call db' place'
          ∧ meter' =
              { meter with
                db := db'
                runs := Function.update meter.runs index place'
                returned :=
                  Function.update meter.returned index (meter.returned index ++ call.rows) } := by
  cases action with
  | tick next =>
      simp only [Meter.step] at taken
      split at taken
      · next onward =>
          cases taken
          exact .inl ⟨next, rfl, onward, rfl⟩
      · exact absurd taken (Option.some_ne_none _).symm
  | run index call =>
      obtain ⟨⟨db', place'⟩, made, same⟩ := Option.map_eq_some_iff.mp taken
      exact .inr ⟨index, call, db', place', rfl, RunAt.step_cases made, same.symm⟩

end ControlPlane.LlmSpend
