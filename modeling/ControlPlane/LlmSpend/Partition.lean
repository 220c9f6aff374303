import ControlPlane.Library.HalfOpenWindows
import ControlPlane.LlmSpend.Settlement

/-! Every metered event is billed once. The first write of a usage row fixes the run record it is
billed under, the record's window_end fixes the window, and consecutive windows share no record.
-/

namespace ControlPlane.LlmSpend

open ControlPlane.Library
open ControlPlane.Store

/-- The usage rows that an action writes, those included that the table ignores. -/
def writes (meter : Meter) : MeterAction → List SpendRow
  | .run index .writeLlmSpendEvents => (meter.runs index).batch
  | _ => []

/-- The window_end of the run record that a usage row was written under. -/
def periodEnd (db : LlmSpendDb) (row : SpendRow) : Option String :=
  (db.periods.get? row.periodId).map RollupPeriod.windowEnd

/-- The first copies of a tenant's usage rows that were written under a record of a window. -/
def billedRows (db : LlmSpendDb) (written : List SpendRow) (tenantId : String)
    (window : String × String)
    : List SpendRow :=
  (Keyed.firstCopies SpendRow.key written).filter fun row =>
    row.tenantId = some tenantId && falls window (periodEnd db row)

/-- The billing read of one window at one state of the tables. -/
def readWindow (maxPeriods : Nat) (db : LlmSpendDb) (tenantId : String)
    (window : String × String)
    : LlmSpendWindow :=
  LlmSpendDb.readTenantLlmSpend maxPeriods db db ⟨tenantId, window.1, window.2⟩

/-- The census of a window is not cut. -/
def Fits (maxPeriods : Nat) (db : LlmSpendDb) (window : String × String) : Prop :=
  (db.windowPeriods window.1 window.2).length ≤ maxPeriods

/-- What billing by window owes after a history of runs. -/
structure BilledOnce (maxPeriods : Nat) (start : Meter) (actions : List MeterAction)
    (meter : Meter)
    : Prop where
  /-- The table holds the first copy of every row that was written, and nothing else. -/
  stored
    : meter.db.events.rows
      = Keyed.firstCopies SpendRow.key (emitted Meter.step writes start actions)
  /-- What was once stored is never changed by a later write, nor moved to another window. -/
  settled
    : ∀ first rest middle, actions = first ++ rest → exec Meter.step start first = some middle
      → ∀ row ∈ middle.db.events.rows,
          meter.db.events.get? row.key = some row
          ∧ periodEnd meter.db row = periodEnd middle.db row
          ∧ periodEnd meter.db row ≠ none
  /-- The answers for consecutive windows add up to the totals from the first instant to the
  last.
  -/
  partition
    : ∀ tenantId first between last,
        (first :: (between ++ [last])).Pairwise (· < ·)
        → (∀ window ∈ windows first between last, Fits maxPeriods meter.db window)
        → let answers := (windows first between last).map
            (readWindow maxPeriods meter.db tenantId)
          let totals := LlmSpendDb.sumsOf
            (billedRows meter.db (emitted Meter.step writes start actions) tenantId
              (first, last))
          (answers.map LlmSpendWindow.costMicroUsd).sum = totals.costMicroUsd
          ∧ (answers.map LlmSpendWindow.requests).sum = totals.requests
  /-- An answer with a cut census is not complete, and is about the records it counts. -/
  truncated
    : ∀ query : SpendQuery,
        ¬ Fits maxPeriods meter.db (query.windowStart, query.windowEnd)
        → let answer := LlmSpendDb.readTenantLlmSpend maxPeriods meter.db meter.db query
          let reported := meter.db.reportedPeriods maxPeriods query
          let counted := LlmSpendDb.sumsOf (meter.db.events.rows.filter fun row =>
            row.tenantId = some query.tenantId ∧ row.periodId ∈ reported.map RollupPeriod.id)
          answer.complete = false
          ∧ answer.periods = reported.length ∧ reported.length = maxPeriods
          ∧ answer.costMicroUsd = counted.costMicroUsd ∧ answer.requests = counted.requests

/-- A step folds what it writes into the usage rows. -/
theorem Meter.events_step {meter meter' : Meter} {action : MeterAction}
    (taken : meter.step action = some meter')
    : meter'.db.events = (writes meter action).foldl Keyed.insertOrIgnore meter.db.events := by
  rcases Meter.step_cases taken
    with ⟨next, isTick, _, same⟩ | ⟨index, call, db', place', isAction, made, same⟩
  · subst same isTick
    rfl
  · subst same isAction
    generalize place : meter.runs index = before at made
    cases made with
    | wrote start result periodId rest written =>
        rw [writes, place]
        rfl
    | advanced start result periodId written => exact (advanced_periods meter.db result).2
    | _ => rfl

/-- The window_end of a run record is never changed. -/
theorem RunStep.windowEnd_kept {now : String} {db db' : LlmSpendDb} {place place' : RunAt}
    {call : RunCall} {periodId : String} {period : RollupPeriod}
    (made : RunStep now db place call db' place')
    (found : db.periods.get? periodId = some period)
    : (db'.periods.get? periodId).map RollupPeriod.windowEnd = some period.windowEnd := by
  cases made with
  | opened start result newId free => rw [Keyed.get?_insert_of_found free found, Option.map_some]
  | closed start result own written =>
      have sameEnd := (closePeriod own written now).toSweep.onRow_keeps
        RollupPeriod.windowEnd fun _ _ => rfl
      change (((closePeriod own written now).apply db.periods).get? periodId).map _ = _
      rw [Update.get?_apply, found, Option.map_some, Option.map_some]
      exact congrArg some (sameEnd period)
  | advanced start result own written =>
      rw [(advanced_periods db result).1, found, Option.map_some]
  | _ => exact congrArg (Option.map RollupPeriod.windowEnd) found

/-- A usage row that has a record is stored, and stays in its window, through every step. -/
theorem settled_step {row : SpendRow} {windowEnd : String} (meter : Meter) (action : MeterAction)
    (meter' : Meter)
    (before : row ∈ meter.db.events.rows ∧ periodEnd meter.db row = some windowEnd)
    (taken : meter.step action = some meter')
    : row ∈ meter'.db.events.rows ∧ periodEnd meter'.db row = some windowEnd := by
  obtain ⟨stored, ends⟩ := before
  rcases Meter.step_cases taken with ⟨next, _, _, same⟩ | ⟨index, call, db', place', _, made, same⟩
  · subst same
    exact ⟨stored, ends⟩
  · subst same
    obtain ⟨new, grown⟩ := made.events_grow
    obtain ⟨period, found, isEnd⟩ := Option.map_eq_some_iff.mp ends
    refine ⟨?_, isEnd ▸ made.windowEnd_kept found⟩
    rw [grown]
    exact List.mem_append_left _ stored

/-- A row is under a record of a window exactly when its record's end falls in the window. -/
theorem falls_periodEnd (db : LlmSpendDb) (query : SpendQuery) (row : SpendRow)
    : falls (query.windowStart, query.windowEnd) (periodEnd db row)
      ↔ row.periodId ∈ windowIds db query := by
  unfold periodEnd
  constructor
  · intro held
    cases found : db.periods.get? row.periodId with
    | none => simp [found, falls] at held
    | some period =>
        rw [← Keyed.get?_key found, mem_windowIds query (Keyed.get?_mem found)]
        simp only [found, Option.map_some, falls, Option.any_some, decide_eq_true_eq] at held
        exact held
  · intro listed
    obtain ⟨period, selected, isId⟩ := List.mem_map.mp listed
    obtain ⟨member, inWindow⟩ := List.mem_filter.mp selected
    rw [← isId, Keyed.get?_of_mem member]
    simp only [Option.map_some, falls, Option.any_some, decide_eq_true_eq]
    exact of_decide_eq_true inWindow

/-- A read that fits its census answers with the rows that are billed in its window. -/
theorem readWindow_of_fits {maxPeriods : Nat} {db : LlmSpendDb} {written : List SpendRow}
    {window : String × String} (tenantId : String)
    (stored : db.events.rows = Keyed.firstCopies SpendRow.key written)
    (fits : Fits maxPeriods db window)
    : (readWindow maxPeriods db tenantId window).costMicroUsd
        = (LlmSpendDb.sumsOf (billedRows db written tenantId window)).costMicroUsd
      ∧ (readWindow maxPeriods db tenantId window).requests
        = (LlmSpendDb.sumsOf (billedRows db written tenantId window)).requests := by
  have few : (windowIds db ⟨tenantId, window.1, window.2⟩).length ≤ maxPeriods := by
    rw [← windowPeriods_length]
    exact fits
  have same : db.windowEvents maxPeriods ⟨tenantId, window.1, window.2⟩
      = billedRows db written tenantId window := by
    rw [windowEvents_of_fits few, billedRows, ← stored]
    refine List.filter_congr fun row _ => ?_
    rw [Bool.eq_iff_iff, Bool.and_eq_true,
      falls_periodEnd db ⟨tenantId, window.1, window.2⟩ row]
    simp
  by_cases observed : db.windowPeriods window.1 window.2 = []
  · -- no record, no row: the read does not even run its sum
    have noIds : windowIds db ⟨tenantId, window.1, window.2⟩ = [] := by
      rw [← List.length_eq_zero_iff, ← windowPeriods_length]
      exact List.length_eq_zero_iff.mpr observed
    have noRows : billedRows db written tenantId window = [] := by
      rw [← same, windowEvents_of_fits few, noIds]
      simp
    have unreported
        : (db.reportedPeriods maxPeriods ⟨tenantId, window.1, window.2⟩).length = 0 := by
      rw [LlmSpendDb.reportedPeriods_eq, observed, List.take_nil, List.length_nil]
    simp only [readWindow, LlmSpendDb.readTenantLlmSpend, summariseWindow, if_pos unreported,
      noRows]
    exact ⟨rfl, rfl⟩
  · have positive : 0 < maxPeriods := (List.length_pos_iff.mpr observed).trans_le fits
    rw [← same]
    exact LlmSpendDb.readTenantLlmSpend_sums observed positive

/-- A figure that every answer takes from the rows billed in its window adds up over consecutive
windows.
-/
theorem sum_answers {M : Type*} [AddCommMonoid M] {maxPeriods : Nat} {db : LlmSpendDb}
    {written : List SpendRow} {tenantId first last : String} {between : List String}
    (figure : LlmSpendWindow → M) (measure : SpendRow → M)
    (increasing : (first :: (between ++ [last])).Pairwise (· < ·))
    (answered
      : ∀ window ∈ windows first between last,
          figure (readWindow maxPeriods db tenantId window)
            = ((billedRows db written tenantId window).map measure).sum)
    : (((windows first between last).map (readWindow maxPeriods db tenantId)).map figure).sum
      = ((billedRows db written tenantId (first, last)).map measure).sum := by
  have perTenant : ∀ window,
      billedRows db written tenantId window
        = ((Keyed.firstCopies SpendRow.key written).filter fun row =>
            row.tenantId = some tenantId).filter fun row => falls window (periodEnd db row) := by
    intro window
    rw [List.filter_filter, billedRows]
    exact List.filter_congr fun row _ => Bool.and_comm _ _
  rw [List.map_map]
  refine (congrArg List.sum (List.map_congr_left answered)).trans ?_
  simp only [perTenant]
  exact sum_windows (periodEnd db) measure _ increasing

/-- The answers for consecutive windows that fit add up, in cost and in requests. -/
theorem partition_of_stored {maxPeriods : Nat} {db : LlmSpendDb} {written : List SpendRow}
    {tenantId first last : String} {between : List String}
    (stored : db.events.rows = Keyed.firstCopies SpendRow.key written)
    (increasing : (first :: (between ++ [last])).Pairwise (· < ·))
    (fits : ∀ window ∈ windows first between last, Fits maxPeriods db window)
    : let answers := (windows first between last).map (readWindow maxPeriods db tenantId)
      let totals := LlmSpendDb.sumsOf (billedRows db written tenantId (first, last))
      (answers.map LlmSpendWindow.costMicroUsd).sum = totals.costMicroUsd
      ∧ (answers.map LlmSpendWindow.requests).sum = totals.requests := by
  have counted : ∀ rows : List SpendRow, rows.length = (rows.map fun _ => 1).sum := by
    simp
  constructor
  · refine sum_answers _ (fun row => row.costMicroUsd.getD 0) increasing ?_
    exact fun window member => (readWindow_of_fits tenantId stored (fits window member)).1
  · refine (sum_answers _ (fun _ => 1) increasing ?_).trans (counted _).symm
    intro window member
    rw [(readWindow_of_fits tenantId stored (fits window member)).2]
    exact counted _

/-- A cut census leaves the answer incomplete, and the sum goes over the records it counts. -/
theorem readTenantLlmSpend_truncated {maxPeriods : Nat} {db : LlmSpendDb} {query : SpendQuery}
    (more : maxPeriods < (db.windowPeriods query.windowStart query.windowEnd).length)
    : let answer := LlmSpendDb.readTenantLlmSpend maxPeriods db db query
      let sums := LlmSpendDb.sumsOf (db.windowEvents maxPeriods query)
      answer.complete = false ∧ answer.periods = maxPeriods
      ∧ (db.reportedPeriods maxPeriods query).length = maxPeriods
      ∧ answer.costMicroUsd = sums.costMicroUsd ∧ answer.requests = sums.requests := by
  intro answer sums
  have length : (db.reportedPeriods maxPeriods query).length = maxPeriods := by
    rw [LlmSpendDb.reportedPeriods_eq, List.length_take]
    omega
  have incomplete : answer.complete = false := by
    rw [Bool.eq_false_iff]
    intro complete
    exact absurd (LlmSpendDb.readTenantLlmSpend_complete complete).1 (not_le.mpr more)
  refine ⟨incomplete, ?_, length, ?_⟩
  · simp only [answer, LlmSpendDb.readTenantLlmSpend, summariseWindow, List.length_map, length]
  · by_cases positive : 0 < maxPeriods
    · refine LlmSpendDb.readTenantLlmSpend_sums ?_ positive
      exact List.length_pos_iff.mp (positive.trans more)
    · -- a cap of zero reports no record and sums no row
      have zero : maxPeriods = 0 := Nat.eq_zero_of_not_pos positive
      have noRows : db.windowEvents maxPeriods query = [] := by
        simp [LlmSpendDb.windowEvents, zero]
      simp only [answer, sums, LlmSpendDb.readTenantLlmSpend, summariseWindow,
        if_pos (length.trans zero), noRows]
      exact ⟨rfl, rfl⟩

/-- After any history of runs, complete or torn, every usage row is billed in the one window of
the record it was first written under.
-/
theorem billedOnce_of_exec {maxPeriods : Nat} {now : String} {meter : Meter}
    {actions : List MeterAction}
    (reached : exec Meter.step (Meter.initial now) actions = some meter)
    : BilledOnce maxPeriods (Meter.initial now) actions meter := by
  have folded := exec_folds (fun meter => meter.db.events)
    (fun _ _ _ => Meter.events_step) reached
  have stored : meter.db.events.rows
      = Keyed.firstCopies SpendRow.key (emitted Meter.step writes (Meter.initial now) actions) := by
    rw [folded]
    exact Keyed.insertAll_empty _
  refine ⟨stored, ?_, fun _ _ _ _ => partition_of_stored stored, ?_⟩
  · intro first rest middle cut arrived row member
    subst cut
    obtain ⟨_, again, onward⟩ := exec_append.mp reached
    cases arrived.symm.trans again
    -- the record of a stored row exists
    have parent := (Meter.sound_of_exec arrived).parented row member
    obtain ⟨period, isPeriod, isId⟩ := List.mem_map.mp parent
    have ends : periodEnd middle.db row = some period.windowEnd := by
      rw [periodEnd, ← isId, Keyed.get?_of_mem isPeriod, Option.map_some]
    have kept := exec_preserves settled_step ⟨member, ends⟩ onward
    refine ⟨Keyed.get?_of_mem kept.1, kept.2.trans ends.symm, ?_⟩
    rw [kept.2]
    exact Option.some_ne_none _
  · intro query more
    obtain ⟨incomplete, periods, length, figures⟩ :=
      readTenantLlmSpend_truncated (not_le.mp more)
    refine ⟨incomplete, periods.trans length.symm, length, ?_⟩
    rw [LlmSpendDb.reportedPeriods_eq]
    exact figures

/-- A run of August is handed the row that the late run of July has written. -/
def augustRun : List MeterAction :=
  beginRun 2
  ++ [.run 2 (.list (.ok [{
        id := .text "log_1"
        createdAt := .text "2026-07-31T23:00:00.000Z"
        metadata := some { tenantId := .text "ten_1" } }])),
    .run 2 (.openLlmRollupPeriod "llmp_2"), .run 2 .writeLlmSpendEvents]

/-- Two runs write one row of a tenant. July bills it and August does not. -/
theorem rewrittenRow_billedOnce
    : let actions := monthEnd ++ lateWrites "ten_1" ++ augustRun
      let start := Meter.initial "2026-07-31T23:58:00.000Z"
      let months := windows "2026-07-01" ["2026-08-01"] "2026-09-01"
      ∃ meter,
        exec Meter.step start actions = some meter
        ∧ BilledOnce maxPeriodsPerWindow start actions meter
        ∧ (∀ window ∈ months, Fits maxPeriodsPerWindow meter.db window)
        ∧ (months.map fun window =>
            (readWindow maxPeriodsPerWindow meter.db "ten_1" window).requests) = [1, 0] := by
  refine ⟨_, rfl, billedOnce_of_exec rfl, ?_, by decide⟩
  unfold Fits
  decide

end ControlPlane.LlmSpend
