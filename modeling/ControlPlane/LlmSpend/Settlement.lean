import ControlPlane.LlmSpend.Records

/-! When a billing answer is final. A run takes its window_end when it starts and opens its
record after it has walked the gateway, so a run that was under way at the answer can still
put a record, and usage rows, into the window.
-/

namespace ControlPlane.LlmSpend

open ControlPlane.Library
open ControlPlane.Store

/-- An instant lies in the window of a billing read. -/
def InWindow (query : SpendQuery) (instant : String) : Prop :=
  query.windowStart ≤ instant ∧ instant < query.windowEnd

instance (query : SpendQuery) (instant : String) : Decidable (InWindow query instant) := by
  unfold InWindow; infer_instance

/-- When a run that has not opened its record was started. -/
def RunAt.unopenedAt? : RunAt → Option String
  | .started startedAt _ | .cursorRead startedAt _ _ => some startedAt
  | .prepared start | .paging start _ _ _ | .rolledUp start _ => some start.startedAt
  | _ => none

/-- The rows a run writes in its next batch. -/
def RunAt.batch : RunAt → List SpendRow
  | .writing start _ periodId rest _ =>
      (rest.take chunkSize).map (LlmSpendDb.spendRow periodId start.startedAt)
  | _ => []

/-- A run that was started in the window and had not opened its record at the read. -/
def Late (query : SpendQuery) (atRead : Meter) (index : Nat) : Prop :=
  ∃ startedAt, (atRead.runs index).unopenedAt? = some startedAt ∧ InWindow query startedAt

/-- A late run opens its record only where the census has room for it. -/
def StaysWithinCap (maxPeriods : Nat) (query : SpendQuery) (atRead meter : Meter)
    : MeterAction → Prop
  | .run index (.openLlmRollupPeriod _) =>
      Late query atRead index
      → (meter.db.windowPeriods query.windowStart query.windowEnd).length < maxPeriods
  | _ => True

/-- A late run writes no usage row of the tenant that is new. -/
def AddsNoLateRow (query : SpendQuery) (atRead meter : Meter) : MeterAction → Prop
  | .run index .writeLlmSpendEvents =>
      Late query atRead index
      → ∀ row ∈ meter.db.events.newRows (meter.runs index).batch,
          row.tenantId ≠ some query.tenantId
  | _ => True

/-- Every later read of the window, whenever its two statements run, repeats the cost and the
requests of the answer.
-/
def NeverRepriced (maxPeriods : Nat) (query : SpendQuery) (answer : LlmSpendWindow)
    (answered : Meter) (later : List MeterAction)
    : Prop :=
  ∀ first second rest atCensus atSum,
    later = first ++ second ++ rest
    → exec Meter.step answered first = some atCensus
    → exec Meter.step atCensus second = some atSum
    → let again := LlmSpendDb.readTenantLlmSpend maxPeriods atCensus.db atSum.db query
      again.costMicroUsd = answer.costMicroUsd ∧ again.requests = answer.requests

/-- The ids of the run records of a window, in the order they were opened. -/
def windowIds (db : LlmSpendDb) (query : SpendQuery) : List String :=
  (db.periods.rows.filter fun period => InWindow query period.windowEnd).map RollupPeriod.id

/-- The census selects the records of the window. -/
theorem windowPeriods_perm (db : LlmSpendDb) (query : SpendQuery)
    : ((db.windowPeriods query.windowStart query.windowEnd).map RollupPeriod.id).Perm
        (windowIds db query) := by
  exact (List.perm_insertionSort _ _).map _

theorem windowPeriods_length (db : LlmSpendDb) (query : SpendQuery)
    : (db.windowPeriods query.windowStart query.windowEnd).length
      = (windowIds db query).length := by
  simpa using (windowPeriods_perm db query).length_eq

/-- Within the cap the sum goes over all records of the window. -/
theorem windowEvents_of_fits {db : LlmSpendDb} {maxPeriods : Nat} {query : SpendQuery}
    (fits : (windowIds db query).length ≤ maxPeriods)
    : db.windowEvents maxPeriods query
      = db.events.rows.filter fun row =>
          row.tenantId = some query.tenantId ∧ row.periodId ∈ windowIds db query := by
  rw [← windowPeriods_length] at fits
  unfold LlmSpendDb.windowEvents
  simp only [List.take_of_length_le fits, (windowPeriods_perm db query).mem_iff]

/-- An id is one of the window exactly when its record says so, by uniqueness of the ids. -/
theorem mem_windowIds {db : LlmSpendDb} {period : RollupPeriod} (query : SpendQuery)
    (member : period ∈ db.periods.rows)
    : period.id ∈ windowIds db query ↔ InWindow query period.windowEnd := by
  simp only [windowIds, List.mem_map, List.mem_filter, decide_eq_true_eq]
  constructor
  · intro listed
    obtain ⟨other, ⟨isOther, inWindow⟩, sameId⟩ := listed
    exact Keyed.eq_of_key isOther member sameId ▸ inWindow
  · intro inWindow
    exact ⟨period, ⟨member, inWindow⟩, rfl⟩

/-- A walk goes on, or ends, with the instant it was started at. -/
theorem nextPage_unopenedAt? (start : RunStart) (probe : Probe) (walk : Collected) (page : Nat)
    : (start.nextPage probe walk page).unopenedAt? = some start.startedAt := by
  unfold RunStart.nextPage
  split <;> rfl

/-- A run that has no record yet was started when it was, or starts now. -/
theorem RunStep.unopenedAt? {now : String} {db db' : LlmSpendDb} {place place' : RunAt}
    {call : RunCall} {startedAt : String} (made : RunStep now db place call db' place')
    (unopened : place'.unopenedAt? = some startedAt)
    : place.unopenedAt? = some startedAt ∨ (place = .idle ∧ startedAt = now) := by
  cases made with
  | start pageCap => exact .inr ⟨rfl, (Option.some.inj unopened).symm⟩
  | probed start probe => exact .inl ((nextPage_unopenedAt? _ _ _ _).symm.trans unopened)
  | listed start probe walk page rows =>
      exact .inl ((nextPage_unopenedAt? _ _ _ _).symm.trans unopened)
  | opened start result newId free => exact absurd unopened (Option.some_ne_none _).symm
  | wrote start result periodId rest written =>
      exact absurd unopened (Option.some_ne_none _).symm
  | closed start result periodId written => exact absurd unopened (Option.some_ne_none _).symm
  | advanced start result periodId written =>
      exact absurd unopened (Option.some_ne_none _).symm
  | _ => exact .inl unopened

/-- No call takes a run back to its beginning. -/
theorem RunStep.not_idle {now : String} {db db' : LlmSpendDb} {place place' : RunAt}
    {call : RunCall} (made : RunStep now db place call db' place')
    : place' ≠ .idle := by
  cases made with
  | probed start probe =>
      unfold RunStart.nextPage
      split <;> exact RunAt.noConfusion
  | listed start probe walk page rows =>
      unfold RunStart.nextPage
      split <;> exact RunAt.noConfusion
  | _ => exact RunAt.noConfusion

/-- A run that writes was writing under the same start, or has just opened its record. -/
theorem RunStep.was_writing {now : String} {db db' : LlmSpendDb} {place : RunAt}
    {call : RunCall} {start : RunStart} {result : RollupResult} {periodId : String}
    {rest : List SpendEvent} {written : Nat}
    (made : RunStep now db place call db' (.writing start result periodId rest written))
    : place = .rolledUp start result
      ∨ ∃ rest' written', place = .writing start result periodId rest' written' := by
  generalize isPlace : RunAt.writing start result periodId rest written = place' at made
  cases made with
  | opened =>
      cases isPlace
      exact .inl rfl
  | wrote =>
      cases isPlace
      exact .inr ⟨_, _, rfl⟩
  | probed start probe =>
      unfold RunStart.nextPage at isPlace
      split at isPlace <;> exact absurd isPlace RunAt.noConfusion
  | listed start probe walk page rows =>
      unfold RunStart.nextPage at isPlace
      split at isPlace <;> exact absurd isPlace RunAt.noConfusion
  | _ => exact absurd isPlace RunAt.noConfusion

/-- Closing a record leaves it in its window. -/
theorem windowIds_close (db : LlmSpendDb) (query : SpendQuery) (periodId finishedAt : String)
    (rowsIngested : Nat)
    : windowIds (db.closeLlmRollupPeriod periodId rowsIngested finishedAt) query
      = windowIds db query := by
  have sameEnd := (closePeriod periodId rowsIngested finishedAt).toSweep.onRow_keeps
    RollupPeriod.windowEnd fun _ _ => rfl
  have sameId := (closePeriod periodId rowsIngested finishedAt).toSweep.onRow_keeps
    RollupPeriod.id fun _ _ => rfl
  simp only [windowIds, LlmSpendDb.closeLlmRollupPeriod, Update.apply, Sweep.apply,
    List.filter_map, List.map_map, Function.comp_def, sameEnd, sameId]

/-- Moving the cursor leaves the windows alone. -/
theorem windowIds_advanced (db : LlmSpendDb) (query : SpendQuery) (result : RollupResult)
    : windowIds (advanced db result) query = windowIds db query := by
  unfold windowIds
  rw [(advanced_periods db result).1]

/-- A call leaves the records of a window as they are, or opens one more for a run that was
started in it.
-/
theorem RunStep.windowIds {now : String} {db db' : LlmSpendDb} {place place' : RunAt}
    {call : RunCall} (query : SpendQuery) (made : RunStep now db place call db' place')
    : windowIds db' query = windowIds db query
      ∨ ∃ start result newId,
          place = .rolledUp start result ∧ call = .openLlmRollupPeriod newId
          ∧ InWindow query start.startedAt
          ∧ windowIds db' query = windowIds db query ++ [newId] := by
  cases made with
  | opened start result newId free =>
      by_cases inWindow : InWindow query start.startedAt
      · refine .inr ⟨start, result, newId, rfl, rfl, inWindow, ?_⟩
        simp [LlmSpend.windowIds, Keyed.insert, RollupPeriodWrite.row, RunStart.period, inWindow]
      · refine .inl ?_
        simp [LlmSpend.windowIds, Keyed.insert, RollupPeriodWrite.row, RunStart.period, inWindow]
  | closed start result periodId written => exact .inl (windowIds_close db query _ _ _)
  | advanced start result periodId written => exact .inl (windowIds_advanced db query result)
  | _ => exact .inl rfl

/-- What is known of a meter since a read that no longer lies before its window's end. -/
structure Watched (maxPeriods : Nat) (query : SpendQuery) (atRead meter : Meter) : Prop where
  clock : query.windowEnd ≤ meter.now
  unstarted : ∀ index, meter.runs index = .idle → atRead.runs index = .idle
  underWay
    : ∀ index startedAt, (meter.runs index).unopenedAt? = some startedAt
      → (atRead.runs index).unopenedAt? = some startedAt
        ∨ ((atRead.runs index).unopenedAt? = none ∧ query.windowEnd ≤ startedAt)
  writers
    : ∀ index start result periodId rest written,
        meter.runs index = .writing start result periodId rest written
        → (InWindow query start.startedAt ↔ Late query atRead index)
  observed : windowIds meter.db query ≠ []
  fits : (windowIds meter.db query).length ≤ maxPeriods

/-- A run that has not opened its record is late exactly when it was started in the window:
what was started since the read was started after the window's end.
-/
theorem Watched.late_iff {maxPeriods : Nat} {query : SpendQuery} {atRead meter : Meter}
    {index : Nat} {startedAt : String} (watched : Watched maxPeriods query atRead meter)
    (unopened : (meter.runs index).unopenedAt? = some startedAt)
    : InWindow query startedAt ↔ Late query atRead index := by
  rcases watched.underWay index startedAt unopened with same | ⟨noneThen, after⟩
  · constructor
    · exact fun inWindow => ⟨startedAt, same, inWindow⟩
    · intro late
      obtain ⟨other, isOther, inWindow⟩ := late
      cases same.symm.trans isOther
      exact inWindow
  · constructor
    · exact fun inWindow => absurd inWindow.2 (not_lt.mpr after)
    · intro late
      obtain ⟨other, isOther, _⟩ := late
      exact absurd (noneThen.symm.trans isOther) (Option.some_ne_none _).symm

/-- A complete read after the window's end starts the watch: all its records are finished, so
no run still writes under one.
-/
theorem watched_of_complete {maxPeriods : Nat} {query : SpendQuery} {atRead : Meter}
    {atSum : LlmSpendDb} (sound : atRead.Sound) (issued : query.windowEnd ≤ atRead.now)
    (complete : (LlmSpendDb.readTenantLlmSpend maxPeriods atRead.db atSum query).complete)
    : Watched maxPeriods query atRead atRead := by
  obtain ⟨fits, observed, trusted⟩ := LlmSpendDb.readTenantLlmSpend_complete complete
  refine ⟨issued, fun _ idle => idle, fun _ _ unopened => .inl unopened, ?_, ?_, ?_⟩
  · intro index start result periodId rest written place
    constructor
    · intro inWindow
      have recorded := sound.recorded index
      rw [place] at recorded
      obtain ⟨period, found, _, sameEnd, unfinished⟩ := recorded
      have inCensus : period ∈ atRead.db.windowPeriods query.windowStart query.windowEnd :=
        LlmSpendDb.mem_windowPeriods.mpr ⟨Keyed.get?_mem found, sameEnd ▸ inWindow⟩
      exact absurd unfinished (trusted period inCensus).1
    · intro late
      obtain ⟨startedAt, unopened, _⟩ := late
      rw [place] at unopened
      exact absurd unopened (Option.some_ne_none _).symm
  · intro none
    have sameLength := windowPeriods_length atRead.db query
    rw [none, List.length_nil] at sameLength
    exact observed (List.length_eq_zero_iff.mp sameLength)
  · rw [← windowPeriods_length]
    exact fits

/-- The watch goes on through every step that stays within the cap. -/
theorem Watched.step {maxPeriods : Nat} {query : SpendQuery} {atRead meter meter' : Meter}
    {action : MeterAction} (watched : Watched maxPeriods query atRead meter)
    (within : StaysWithinCap maxPeriods query atRead meter action)
    (taken : meter.step action = some meter')
    : Watched maxPeriods query atRead meter' := by
  rcases Meter.step_cases taken
    with ⟨next, _, onward, same⟩ | ⟨index, call, db', place', isAction, made, same⟩
  · subst same
    exact ⟨watched.clock.trans onward, watched.unstarted, watched.underWay, watched.writers,
      watched.observed, watched.fits⟩
  · subst same isAction
    refine ⟨watched.clock, ?_, ?_, ?_, ?_, ?_⟩
    · intro other idle
      by_cases moved : other = index
      · simp only [moved, Function.update_self] at idle
        exact absurd idle made.not_idle
      · simp only [Function.update_of_ne moved] at idle
        exact watched.unstarted other idle
    · intro other startedAt unopened
      by_cases moved : other = index
      · simp only [moved, Function.update_self] at unopened
        rw [moved]
        rcases made.unopenedAt? unopened with before | ⟨idle, isNow⟩
        · exact watched.underWay index startedAt before
        · refine .inr ⟨?_, isNow ▸ watched.clock⟩
          rw [watched.unstarted index idle]
          rfl
      · simp only [Function.update_of_ne moved] at unopened
        exact watched.underWay other startedAt unopened
    · intro other start result periodId rest written place
      by_cases moved : other = index
      · simp only [moved, Function.update_self] at place
        rw [moved]
        subst place
        rcases made.was_writing with before | ⟨rest', written', before⟩
        · exact watched.late_iff (by rw [before]; rfl)
        · exact watched.writers index start result periodId rest' written' before
      · simp only [Function.update_of_ne moved] at place
        exact watched.writers other start result periodId rest written place
    · rcases made.windowIds query with kept | ⟨start, result, newId, _, _, _, grown⟩
      · exact kept ▸ watched.observed
      · simp only [grown]
        exact List.append_ne_nil_of_right_ne_nil _ (List.cons_ne_nil _ _)
    · rcases made.windowIds query
        with kept | ⟨start, result, newId, before, isOpen, inWindow, grown⟩
      · exact kept ▸ watched.fits
      · subst isOpen
        have late := (watched.late_iff (by rw [before]; rfl)).mp inWindow
        have room := within late
        rw [windowPeriods_length] at room
        simp only [grown, List.length_append, List.length_singleton]
        omega

/-- A record opened since has no usage row yet, so the sum over the window is the same with it. -/
theorem filter_windowIds_append {meter : Meter} (sound : meter.Sound) {query : SpendQuery}
    {newId : String} (free : newId ∉ meter.db.periods.rows.map RollupPeriod.id)
    : (meter.db.events.rows.filter fun row =>
        row.tenantId = some query.tenantId ∧ row.periodId ∈ windowIds meter.db query ++ [newId])
      = meter.db.events.rows.filter fun row =>
          row.tenantId = some query.tenantId ∧ row.periodId ∈ windowIds meter.db query := by
  refine List.filter_congr fun row member => ?_
  have notNew : row.periodId ≠ newId := by
    intro same
    exact free (same ▸ sound.parented row member)
  simp [notNew]

/-- A batch of a run that was started in the window goes to a record of it, and a batch of
another run does not.
-/
theorem batch_windowIds {meter : Meter} (sound : meter.Sound) (query : SpendQuery) {index : Nat}
    {start : RunStart} {result : RollupResult} {periodId : String} {rest : List SpendEvent}
    {written : Nat} (place : meter.runs index = .writing start result periodId rest written)
    : periodId ∈ windowIds meter.db query ↔ InWindow query start.startedAt := by
  have recorded := sound.recorded index
  rw [place] at recorded
  obtain ⟨period, found, _, sameEnd, _⟩ := recorded
  have listed := mem_windowIds query (Keyed.get?_mem found)
  rw [Keyed.get?_key found, sameEnd] at listed
  exact listed

/-- What a step adds to the usage rows a window's sum goes over. It is nothing exactly when the
step writes no late row.
-/
theorem windowEvents_step {maxPeriods : Nat} {query : SpendQuery} {atRead meter meter' : Meter}
    {action : MeterAction} (sound : meter.Sound)
    (watched : Watched maxPeriods query atRead meter)
    (within : StaysWithinCap maxPeriods query atRead meter action)
    (taken : meter.step action = some meter')
    : ∃ added,
        meter'.db.windowEvents maxPeriods query
          = meter.db.windowEvents maxPeriods query ++ added
        ∧ (added = [] ↔ AddsNoLateRow query atRead meter action) := by
  have watched' := watched.step within taken
  rw [windowEvents_of_fits watched'.fits, windowEvents_of_fits watched.fits]
  rcases Meter.step_cases taken
    with ⟨next, isTick, _, same⟩ | ⟨index, call, db', place', isAction, made, same⟩
  · subst same isTick
    exact ⟨[], (List.append_nil _).symm, fun _ => trivial, fun _ => rfl⟩
  · subst same isAction
    have ids := made.windowIds query
    generalize place : meter.runs index = before at made ids
    cases made with
    | opened start result newId free =>
        refine ⟨[], ?_, fun _ => trivial, fun _ => rfl⟩
        have unused : newId ∉ meter.db.periods.rows.map RollupPeriod.id := by
          intro used
          obtain ⟨old, member, sameId⟩ := List.mem_map.mp used
          exact free old member sameId
        rcases ids with kept | ⟨_, _, _, _, isOpen, _, grown⟩
        · simp only [kept, List.append_nil]
        · cases isOpen
          simp only [grown, List.append_nil]
          exact filter_windowIds_append sound unused
    | wrote start result periodId rest written =>
        have batch : (meter.runs index).batch
            = (rest.take chunkSize).map (LlmSpendDb.spendRow periodId start.startedAt) := by
          rw [place]
          rfl
        obtain ⟨grown, among⟩ := meter.db.events.insertAll_newRows (meter.runs index).batch
        refine ⟨(meter.db.events.newRows (meter.runs index).batch).filter fun row =>
          row.tenantId = some query.tenantId ∧ row.periodId ∈ windowIds meter.db query, ?_, ?_⟩
        · rw [batch] at grown ⊢
          rw [← List.filter_append, ← grown]
          rfl
        · have listed := batch_windowIds sound query place
          have lateIff := watched.writers index start result periodId rest written place
          have own : ∀ row ∈ meter.db.events.newRows (meter.runs index).batch,
              row.periodId = periodId := by
            intro row new
            have inBatch := among.subset new
            rw [batch] at inBatch
            obtain ⟨event, _, same⟩ := List.mem_map.mp inBatch
            exact same ▸ rfl
          rw [List.filter_eq_nil_iff]
          constructor
          · intro addsNone late row new ofTenant
            refine addsNone row new ?_
            rw [decide_eq_true_eq, own row new]
            exact ⟨ofTenant, listed.mpr (lateIff.mpr late)⟩
          · intro addsNone row new counted
            rw [decide_eq_true_eq, own row new] at counted
            exact addsNone (lateIff.mp (listed.mp counted.2)) row new counted.1
    | closed start result periodId written =>
        refine ⟨[], ?_, fun _ => trivial, fun _ => rfl⟩
        simp only [windowIds_close, List.append_nil]
        rfl
    | advanced start result periodId written =>
        refine ⟨[], ?_, fun _ => trivial, fun _ => rfl⟩
        simp only [windowIds_advanced, (advanced_periods meter.db result).2, List.append_nil]
    | _ => exact ⟨[], (List.append_nil _).symm, fun _ => trivial, fun _ => rfl⟩

/-- The sum over the window now, in the figures of an answer. -/
def Repeats (maxPeriods : Nat) (query : SpendQuery) (answer : LlmSpendWindow) (meter : Meter)
    : Prop :=
  let sums := LlmSpendDb.sumsOf (meter.db.windowEvents maxPeriods query)
  sums.costMicroUsd = answer.costMicroUsd ∧ sums.requests = answer.requests

/-- Each new row of the tenant is one more request, so a step keeps the figures exactly when
it writes no late row.
-/
theorem repeats_step_iff {maxPeriods : Nat} {query : SpendQuery} {answer : LlmSpendWindow}
    {atRead meter meter' : Meter} {action : MeterAction} (sound : meter.Sound)
    (watched : Watched maxPeriods query atRead meter)
    (within : StaysWithinCap maxPeriods query atRead meter action)
    (repeats : Repeats maxPeriods query answer meter)
    (taken : meter.step action = some meter')
    : Repeats maxPeriods query answer meter' ↔ AddsNoLateRow query atRead meter action := by
  obtain ⟨added, grown, none⟩ := windowEvents_step sound watched within taken
  rw [← none]
  constructor
  · intro again
    have more := again.2.trans repeats.2.symm
    simp only [LlmSpendDb.sumsOf, grown, List.length_append] at more
    exact List.length_eq_zero_iff.mp (by omega)
  · intro nothing
    rw [Repeats, grown, nothing, List.append_nil]
    exact repeats

/-- With the watch on, a read answers with the figures of the state its sum sees. -/
theorem read_figures {maxPeriods : Nat} {query : SpendQuery} {atRead atCensus : Meter}
    (watched : Watched maxPeriods query atRead atCensus) (atSum : LlmSpendDb)
    : let answer := LlmSpendDb.readTenantLlmSpend maxPeriods atCensus.db atSum query
      let sums := LlmSpendDb.sumsOf (atSum.windowEvents maxPeriods query)
      answer.costMicroUsd = sums.costMicroUsd ∧ answer.requests = sums.requests := by
  have someId := List.length_pos_iff.mpr watched.observed
  refine LlmSpendDb.readTenantLlmSpend_sums ?_ (someId.trans_le watched.fits)
  rw [← List.length_pos_iff, windowPeriods_length]
  exact someId

/-- A sound meter that is watched stays so through a step within the cap. -/
theorem sound_watched_step {maxPeriods : Nat} {query : SpendQuery} {atRead : Meter}
    (meter : Meter) (action : MeterAction) (meter' : Meter)
    (before : meter.Sound ∧ Watched maxPeriods query atRead meter)
    (within : StaysWithinCap maxPeriods query atRead meter action)
    (taken : meter.step action = some meter')
    : meter'.Sound ∧ Watched maxPeriods query atRead meter' :=
  ⟨before.1.step taken, before.2.step within taken⟩

/-- In a window that stays within the census's cap, a complete answer given after the window's
end is final exactly when no run that was under way at its census, and was started in the
window, writes a new row of the tenant after its sum.
-/
theorem neverRepriced_iff {maxPeriods : Nat} {query : SpendQuery} {now : String}
    {atCensus atSum : Meter} {before between later : List MeterAction}
    (reached : exec Meter.step (Meter.initial now) before = some atCensus)
    (issued : query.windowEnd ≤ atCensus.now)
    (onward : exec Meter.step atCensus between = some atSum)
    (complete
      : (LlmSpendDb.readTenantLlmSpend maxPeriods atCensus.db atSum.db query).complete)
    (within
      : Throughout Meter.step (StaysWithinCap maxPeriods query atCensus) atCensus
          (between ++ later))
    : NeverRepriced maxPeriods query
          (LlmSpendDb.readTenantLlmSpend maxPeriods atCensus.db atSum.db query) atSum later
      ↔ Throughout Meter.step (AddsNoLateRow query atCensus) atSum later := by
  have sound := Meter.sound_of_exec reached
  have watched := watched_of_complete sound issued complete
  obtain ⟨withinRead, withinLater⟩ := throughout_append within onward
  have start := exec_invariant sound_watched_step ⟨sound, watched⟩ withinRead onward
  have figures := read_figures watched atSum.db
  have stepIff : ∀ meter action meter',
      meter.Sound ∧ Watched maxPeriods query atCensus meter
      → StaysWithinCap maxPeriods query atCensus meter action
      → Repeats maxPeriods query
          (LlmSpendDb.readTenantLlmSpend maxPeriods atCensus.db atSum.db query) meter
      → meter.step action = some meter'
      → (Repeats maxPeriods query
            (LlmSpendDb.readTenantLlmSpend maxPeriods atCensus.db atSum.db query) meter'
          ↔ AddsNoLateRow query atCensus meter action) :=
    fun _ _ _ held permitted repeats taken =>
      repeats_step_iff held.1 held.2 permitted repeats taken
  rw [← everywhere_iff_throughout sound_watched_step stepIff start
    ⟨figures.1.symm, figures.2.symm⟩ withinLater, everywhere_iff_prefixes]
  -- a read answers with the figures of the state its sum sees, so reads and states agree
  constructor
  · intro final first rest state cut arrived
    have withinFirst := (throughout_append (cut ▸ withinLater) arrived).1
    have held := exec_invariant sound_watched_step start withinFirst arrived
    have again := final first [] rest state state (by simpa using cut) arrived rfl
    have figuresNow := read_figures held.2 state.db
    exact ⟨figuresNow.1.symm.trans again.1, figuresNow.2.symm.trans again.2⟩
  · intro repeats first second rest census sum cut arrived summed
    have withinFirst :=
      (throughout_append (by rw [← List.append_assoc, ← cut]; exact withinLater) arrived).1
    have held := exec_invariant sound_watched_step start withinFirst arrived
    have figuresThen := read_figures held.2 sum.db
    have again := repeats (first ++ second) rest sum cut
      (exec_append.mpr ⟨census, arrived, summed⟩)
    exact ⟨figuresThen.1.trans again.1, figuresThen.2.trans again.2⟩

/-- The calls of a run up to its page walk, over a gateway that has some row. -/
def beginRun (index : Nat) : List MeterAction :=
  [.run index (.start 200), .run index .readLlmWatermark, .run index .readLastPeriodEnd,
    .run index (.probe (.ok { total := some 1, oldest := none }))]

/-- The July bill of one tenant. -/
def julyQuery : SpendQuery where
  tenantId := "ten_1"
  windowStart := "2026-07-01T00:00:00.000Z"
  windowEnd := "2026-08-01T00:00:00.000Z"

/-- Two runs start two minutes before the end of July. One is done at once, the other still
walks the gateway when the month is over.
-/
def monthEnd : List MeterAction :=
  beginRun 1 ++ beginRun 0
  ++ [.run 0 (.list (.ok [])), .run 0 (.openLlmRollupPeriod "llmp_0"),
    .run 0 .closeLlmRollupPeriod, .run 0 .advanceLlmWatermark,
    .tick "2026-08-01T00:10:00.000Z"]

/-- The other run comes to its writes with one row of a tenant. -/
def lateWrites (tenantId : String) : List MeterAction :=
  [.run 1 (.list (.ok [{
      id := .text "log_1"
      createdAt := .text "2026-07-31T23:00:00.000Z"
      metadata := some { tenantId := .text tenantId } }])),
    .run 1 (.openLlmRollupPeriod "llmp_1"), .run 1 .writeLlmSpendEvents]

/-- A late run that brings rows of another tenant leaves the answer final. -/
theorem foreignLateRun_neverRepriced
    : ∃ atRead,
        exec Meter.step (Meter.initial "2026-07-31T23:58:00.000Z") monthEnd = some atRead
        ∧ NeverRepriced maxPeriodsPerWindow julyQuery
            (LlmSpendDb.readTenantLlmSpend maxPeriodsPerWindow atRead.db atRead.db julyQuery)
            atRead (lateWrites "ten_2") := by
  obtain ⟨atRead, reached, issued, complete, within, noLateRow⟩
      : ∃ atRead,
          exec Meter.step (Meter.initial "2026-07-31T23:58:00.000Z") monthEnd = some atRead
          ∧ julyQuery.windowEnd ≤ atRead.now
          ∧ (LlmSpendDb.readTenantLlmSpend maxPeriodsPerWindow atRead.db atRead.db
              julyQuery).complete
          ∧ Throughout Meter.step (StaysWithinCap maxPeriodsPerWindow julyQuery atRead) atRead
              ([] ++ lateWrites "ten_2")
          ∧ Throughout Meter.step (AddsNoLateRow julyQuery atRead) atRead
              (lateWrites "ten_2") := by
    refine ⟨_, rfl, by decide, by decide, ?_, ?_⟩
    · refine (throughout_cons rfl).mpr ⟨trivial, (throughout_cons rfl).mpr ⟨?_, ?_⟩⟩
      · exact fun _ => by decide
      · exact (throughout_cons rfl).mpr ⟨trivial, trivial⟩
    · refine (throughout_cons rfl).mpr ⟨trivial, (throughout_cons rfl).mpr ⟨trivial, ?_⟩⟩
      refine (throughout_cons rfl).mpr ⟨fun _ => ?_, trivial⟩
      decide
  exact ⟨atRead, reached,
    (neverRepriced_iff reached issued rfl complete within).mpr noLateRow⟩

/-- A late run that brings a row of the tenant changes a complete answer of a month that is
over.
-/
theorem lateRun_reprices
    : ∃ atRead,
        exec Meter.step (Meter.initial "2026-07-31T23:58:00.000Z") monthEnd = some atRead
        ∧ julyQuery.windowEnd ≤ atRead.now
        ∧ (LlmSpendDb.readTenantLlmSpend maxPeriodsPerWindow atRead.db atRead.db
            julyQuery).complete
        ∧ ¬ NeverRepriced maxPeriodsPerWindow julyQuery
            (LlmSpendDb.readTenantLlmSpend maxPeriodsPerWindow atRead.db atRead.db julyQuery)
            atRead (lateWrites "ten_1") := by
  refine ⟨_, rfl, by decide, by decide, ?_⟩
  intro final
  have again := final (lateWrites "ten_1") [] [] _ _ rfl rfl rfl
  exact absurd again.2 (by decide)

end ControlPlane.LlmSpend
