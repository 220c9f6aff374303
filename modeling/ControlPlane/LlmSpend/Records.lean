import ControlPlane.LlmSpend.Ingest

/-! What the tables say of a run, and what a run owes the tables. Each run record has one run
behind it, stays open while that run still writes, and every usable row a run was handed is
either still in its hands or stored.
-/

namespace ControlPlane.LlmSpend

open ControlPlane.Library
open ControlPlane.Store

/-- The record a run has opened. -/
def RunAt.periodId? : RunAt → Option String
  | .writing _ _ periodId _ _ | .closed _ _ periodId _ => some periodId
  | .done outcome => some outcome.periodId
  | _ => none

/-- The usage row of an event is in the table, whoever wrote it. -/
def Holds (db : LlmSpendDb) (event : SpendEvent) : Prop :=
  (event.source, event.sourceId) ∈ db.events.rows.map SpendRow.key

instance (db : LlmSpendDb) (event : SpendEvent) : Decidable (Holds db event) := by
  unfold Holds; infer_instance

/-- A record under this id says this status. -/
def SaysStatus (db : LlmSpendDb) (periodId : String) (status : RollupStatus) : Prop :=
  ∃ period, db.periods.get? periodId = some period ∧ period.status = status

/-- What the run records say of a run at a place. While it writes, its record is unfinished. -/
def RunAt.Recorded (db : LlmSpendDb) : RunAt → Prop
  | .writing start result periodId _ _ =>
      ∃ period, db.periods.get? periodId = some period ∧ period.status = result.status
        ∧ period.windowEnd = start.startedAt ∧ period.finishedAt = none
  | .closed _ result periodId _ => SaysStatus db periodId result.status
  | .done outcome => SaysStatus db outcome.periodId outcome.status
  | _ => True

/-- A result carries every usable row the run was handed, unless the run failed. -/
def RollupResult.Carries (result : RollupResult) (returned : List GatewayLogRow) : Prop :=
  result.status = .failed ∨ result.events = returned.filterMap parseLogRow

/-- Where the usable rows that a run was handed are. -/
def RunAt.Custody (db : LlmSpendDb) (returned : List GatewayLogRow) : RunAt → Prop
  | .paging _ _ walk _ => walk.events = returned.filterMap parseLogRow
  | .rolledUp _ result => result.Carries returned
  | .writing _ result _ rest _ =>
      result.Carries returned ∧ ∀ event ∈ result.events, event ∈ rest ∨ Holds db event
  | .closed _ result _ _ =>
      result.Carries returned ∧ ∀ event ∈ result.events, Holds db event
  | .done outcome =>
      outcome.status = .failed ∨ ∀ event ∈ returned.filterMap parseLogRow, Holds db event
  | _ => returned = []

/-- The tables and the runs agree. -/
structure Meter.Sound (meter : Meter) : Prop where
  distinct
    : ∀ first second periodId,
        (meter.runs first).periodId? = some periodId
        → (meter.runs second).periodId? = some periodId → first = second
  recorded : ∀ index, (meter.runs index).Recorded meter.db
  custody : ∀ index, (meter.runs index).Custody meter.db (meter.returned index)
  parented : ∀ row ∈ meter.db.events.rows, row.periodId ∈ meter.db.periods.rows.map RollupPeriod.id

/-- The last call of a run moves the cursor only. -/
theorem advanced_periods (db : LlmSpendDb) (result : RollupResult)
    : (advanced db result).periods = db.periods ∧ (advanced db result).events = db.events := by
  unfold LlmSpend.advanced
  split <;> exact ⟨rfl, rfl⟩

/-- Usage rows are only ever appended. -/
theorem RunStep.events_grow {now : String} {db db' : LlmSpendDb} {place place' : RunAt}
    {call : RunCall} (made : RunStep now db place call db' place')
    : ∃ new, db'.events.rows = db.events.rows ++ new := by
  cases made with
  | wrote start result periodId rest written =>
      obtain ⟨new, grown, _⟩ := db.events.insertAll_rows
        ((rest.take chunkSize).map (LlmSpendDb.spendRow periodId start.startedAt))
      exact ⟨new, grown⟩
  | advanced start result periodId written =>
      exact ⟨[], by rw [(advanced_periods db result).2, List.append_nil]⟩
  | _ => exact ⟨[], (List.append_nil _).symm⟩

/-- Ids of run records are only ever appended. -/
theorem RunStep.ids_grow {now : String} {db db' : LlmSpendDb} {place place' : RunAt}
    {call : RunCall} (made : RunStep now db place call db' place')
    : ∃ new, db'.periods.rows.map RollupPeriod.id = db.periods.rows.map RollupPeriod.id ++ new := by
  cases made with
  | opened start result newId free =>
      exact ⟨[newId], by simp [Keyed.insert, RollupPeriodWrite.row, RunStart.period]⟩
  | closed start result periodId written =>
      refine ⟨[], ?_⟩
      rw [List.append_nil]
      exact (closePeriod periodId written now).toSweep.map_onRow RollupPeriod.id
        (fun _ _ => rfl) db.periods.rows
  | advanced start result periodId written =>
      exact ⟨[], by rw [(advanced_periods db result).1, List.append_nil]⟩
  | _ => exact ⟨[], (List.append_nil _).symm⟩

/-- A usage row that a call adds is under the record of the run that makes it. -/
theorem RunStep.new_row {now : String} {db db' : LlmSpendDb} {place place' : RunAt}
    {call : RunCall} {row : SpendRow} (made : RunStep now db place call db' place')
    (member : row ∈ db'.events.rows)
    : row ∈ db.events.rows ∨ place.periodId? = some row.periodId := by
  cases made with
  | wrote start result periodId rest written =>
      obtain ⟨grown, among⟩ := db.events.insertAll_newRows
        ((rest.take chunkSize).map (LlmSpendDb.spendRow periodId start.startedAt))
      change row ∈ (db.events.insertAll _).rows at member
      rw [grown] at member
      rcases List.mem_append.mp member with old | new
      · exact .inl old
      · obtain ⟨event, _, same⟩ := List.mem_map.mp (among.subset new)
        exact .inr (same ▸ rfl)
  | advanced start result periodId written =>
      rw [(advanced_periods db result).2] at member
      exact .inl member
  | _ => exact .inl member

/-- A stored event stays stored. -/
theorem RunStep.holds {now : String} {db db' : LlmSpendDb} {place place' : RunAt}
    {call : RunCall} {event : SpendEvent} (made : RunStep now db place call db' place')
    (stored : Holds db event)
    : Holds db' event := by
  obtain ⟨new, grown⟩ := made.events_grow
  rw [Holds, grown, List.map_append]
  exact List.mem_append_left _ stored

/-- A run leaves the records of other runs alone. -/
theorem RunStep.period_kept {now : String} {db db' : LlmSpendDb} {place place' : RunAt}
    {call : RunCall} {periodId : String} {period : RollupPeriod}
    (made : RunStep now db place call db' place')
    (found : db.periods.get? periodId = some period)
    (foreign : place.periodId? ≠ some periodId)
    : db'.periods.get? periodId = some period := by
  cases made with
  | opened start result newId free => exact Keyed.get?_insert_of_found free found
  | closed start result own written =>
      refine (closePeriod own written now).get?_apply_of_not found fun matched => ?_
      exact foreign (congrArg some matched.1.symm)
  | advanced start result own written =>
      rw [(advanced_periods db result).1]
      exact found
  | _ => exact found

/-- A run has the record it had, or has opened one under an id that was free. -/
theorem RunStep.periodId? {now : String} {db db' : LlmSpendDb} {place place' : RunAt}
    {call : RunCall} (made : RunStep now db place call db' place')
    : place'.periodId? = place.periodId?
      ∨ ∃ newId, place.periodId? = none ∧ place'.periodId? = some newId
          ∧ ∀ old ∈ db.periods.rows, old.id ≠ newId := by
  cases made with
  | opened start result newId free => exact .inr ⟨newId, rfl, rfl, free⟩
  | probed start probe =>
      refine .inl ?_
      unfold RunStart.nextPage
      split <;> rfl
  | listed start probe walk page rows =>
      refine .inl ?_
      unfold RunStart.nextPage
      split <;> rfl
  | _ => exact .inl rfl

/-- A run that has a record is recorded in the table. -/
theorem RunAt.Recorded.found {db : LlmSpendDb} {place : RunAt} {periodId : String}
    (recorded : place.Recorded db) (own : place.periodId? = some periodId)
    : ∃ period, db.periods.get? periodId = some period := by
  cases place with
  | writing start result id rest written =>
      cases own
      obtain ⟨period, found, _⟩ := recorded
      exact ⟨period, found⟩
  | closed start result id written =>
      cases own
      obtain ⟨period, found, _⟩ := recorded
      exact ⟨period, found⟩
  | done outcome =>
      cases own
      obtain ⟨period, found, _⟩ := recorded
      exact ⟨period, found⟩
  | _ => exact absurd own (Option.some_ne_none _).symm

/-- What the tables say of a run survives a step that leaves its record alone. -/
theorem RunAt.Recorded.frame {db db' : LlmSpendDb} {place : RunAt} (recorded : place.Recorded db)
    (kept
      : ∀ periodId period, place.periodId? = some periodId
        → db.periods.get? periodId = some period → db'.periods.get? periodId = some period)
    : place.Recorded db' := by
  cases place with
  | writing start result periodId rest written =>
      obtain ⟨period, found, agrees⟩ := recorded
      exact ⟨period, kept periodId period rfl found, agrees⟩
  | closed start result periodId written =>
      obtain ⟨period, found, agrees⟩ := recorded
      exact ⟨period, kept periodId period rfl found, agrees⟩
  | done outcome =>
      obtain ⟨period, found, agrees⟩ := recorded
      exact ⟨period, kept outcome.periodId period rfl found, agrees⟩
  | _ => trivial

/-- What a run owes the tables survives the growth of the usage rows. -/
theorem RunAt.Custody.grow {db db' : LlmSpendDb} {returned : List GatewayLogRow} {place : RunAt}
    (custody : place.Custody db returned) (grows : ∀ event, Holds db event → Holds db' event)
    : place.Custody db' returned := by
  cases place with
  | writing start result periodId rest written =>
      obtain ⟨carries, kept⟩ := custody
      exact ⟨carries, fun event member => (kept event member).imp_right (grows event)⟩
  | closed start result periodId written =>
      obtain ⟨carries, kept⟩ := custody
      exact ⟨carries, fun event member => grows event (kept event member)⟩
  | done outcome =>
      exact custody.imp_right fun kept event member => grows event (kept event member)
  | _ => exact custody

/-- A page keeps the walk at the usable rows of all that was handed over. -/
theorem nextPage_custody {db : LlmSpendDb} {start : RunStart} {probe : Probe}
    {walk : Collected} {page : Nat} {returned : List GatewayLogRow}
    (gathered : walk.events = returned.filterMap parseLogRow)
    : (start.nextPage probe walk page).Custody db returned := by
  unfold RunStart.nextPage
  split
  · exact gathered
  · exact .inr gathered

/-- One call keeps what its own run owes, by cases on the call. -/
theorem RunStep.custody {now : String} {db db' : LlmSpendDb} {place place' : RunAt}
    {call : RunCall} {returned : List GatewayLogRow}
    (made : RunStep now db place call db' place') (custody : place.Custody db returned)
    : place'.Custody db' (returned ++ call.rows) := by
  have grows : ∀ event, Holds db event → Holds db' event := fun _ => made.holds
  cases made with
  | probeThrew start message => exact .inl rfl
  | probed start probe =>
      refine nextPage_custody ?_
      change returned = [] at custody
      simp [custody, RunCall.rows]
  | pagingThrew start probe walk page message => exact .inl rfl
  | listed start probe walk page rows =>
      refine nextPage_custody ?_
      change walk.events = _ at custody
      simp [collectPage, custody, RunCall.rows]
  | opened start result newId free =>
      simp only [RunCall.rows, List.append_nil]
      exact ⟨custody, fun event member => .inl member⟩
  | wrote start result periodId rest written =>
      simp only [RunCall.rows, List.append_nil]
      obtain ⟨carries, kept⟩ := custody
      refine ⟨carries, fun event member => ?_⟩
      rcases kept event member with inRest | stored
      · -- an event of the rest is in this chunk or in what remains after it
        rw [← List.take_append_drop chunkSize rest] at inRest
        rcases List.mem_append.mp inRest with inChunk | later
        · refine .inr ?_
          have row := List.mem_map_of_mem (f := LlmSpendDb.spendRow periodId start.startedAt)
            inChunk
          exact Keyed.key_mem_insertAll row
        · exact .inl later
      · exact .inr (grows event stored)
  | closed start result periodId written =>
      simp only [RunCall.rows, List.append_nil]
      obtain ⟨carries, kept⟩ := custody
      refine ⟨carries, fun event member => ?_⟩
      exact (kept event member).resolve_left List.not_mem_nil
  | advanced start result periodId written =>
      simp only [RunCall.rows, List.append_nil]
      obtain ⟨carries, kept⟩ := custody
      rcases carries with failed | all
      · exact .inl failed
      · refine .inr fun event member => ?_
        rw [← all] at member
        rw [Holds, (advanced_periods db result).2]
        exact kept event member
  | _ => simpa [RunAt.Custody, RunCall.rows] using custody

/-- One call keeps its own run recorded, by cases on the call. -/
theorem RunStep.recorded {now : String} {db db' : LlmSpendDb} {place place' : RunAt}
    {call : RunCall} (made : RunStep now db place call db' place')
    (recorded : place.Recorded db)
    : place'.Recorded db' := by
  cases made with
  | probed start probe =>
      unfold RunStart.nextPage
      split <;> trivial
  | listed start probe walk page rows =>
      unfold RunStart.nextPage
      split <;> trivial
  | opened start result newId free =>
      exact ⟨(start.period result newId).row, Keyed.get?_insert_self free, rfl, rfl, rfl⟩
  | wrote start result periodId rest written => exact recorded
  | closed start result periodId written =>
      obtain ⟨period, found, agrees, _⟩ := recorded
      exact ⟨_, (closePeriod periodId written now).get?_apply_of_match found rfl, agrees⟩
  | advanced start result periodId written =>
      obtain ⟨period, found, agrees⟩ := recorded
      refine ⟨period, ?_, agrees⟩
      rw [(advanced_periods db result).1]
      exact found
  | _ => trivial

/-- The meter starts sound. -/
theorem Meter.initial_sound (now : String) : (Meter.initial now).Sound where
  distinct _ _ _ first := absurd first (Option.some_ne_none _).symm
  recorded _ := trivial
  custody _ := rfl
  parented _ member := absurd member List.not_mem_nil

/-- Every step keeps the tables and the runs in agreement: the run that moves by its own step
lemmas, the others because their records are left alone.
-/
theorem Meter.Sound.step {meter meter' : Meter} {action : MeterAction} (sound : meter.Sound)
    (taken : meter.step action = some meter')
    : meter'.Sound := by
  rcases Meter.step_cases taken with ⟨next, _, _, same⟩ | ⟨index, call, db', place', _, made, same⟩
  · subst same
    exact ⟨sound.distinct, sound.recorded, sound.custody, sound.parented⟩
  · subst same
    -- no other run has the record that the moving run has after the step
    have foreign : ∀ other periodId, other ≠ index
        → (meter.runs other).periodId? = some periodId → place'.periodId? ≠ some periodId := by
      intro other periodId differs theirs own
      rcases made.periodId? with kept | ⟨newId, _, fresh, free⟩
      · exact differs (sound.distinct other index periodId theirs (kept ▸ own))
      · obtain ⟨period, found⟩ := (sound.recorded other).found theirs
        rw [own, Option.some.injEq] at fresh
        exact free period (Keyed.get?_mem found) ((Keyed.get?_key found).trans fresh)
    refine ⟨?_, ?_, ?_, ?_⟩
    · intro first second periodId isFirst isSecond
      by_cases moved : first = index
      · by_cases alsoMoved : second = index
        · rw [moved, alsoMoved]
        · simp only [moved, Function.update_self] at isFirst
          simp only [Function.update_of_ne alsoMoved] at isSecond
          exact absurd isFirst (foreign second periodId alsoMoved isSecond)
      · simp only [Function.update_of_ne moved] at isFirst
        by_cases alsoMoved : second = index
        · simp only [alsoMoved, Function.update_self] at isSecond
          exact absurd isSecond (foreign first periodId moved isFirst)
        · simp only [Function.update_of_ne alsoMoved] at isSecond
          exact sound.distinct first second periodId isFirst isSecond
    · intro other
      by_cases moved : other = index
      · simp only [moved, Function.update_self]
        exact made.recorded (sound.recorded index)
      · simp only [Function.update_of_ne moved]
        refine (sound.recorded other).frame fun periodId period theirs found => ?_
        refine made.period_kept found fun own => ?_
        exact moved (sound.distinct other index periodId theirs own)
    · intro other
      by_cases moved : other = index
      · simp only [moved, Function.update_self]
        exact made.custody (sound.custody index)
      · simp only [Function.update_of_ne moved]
        exact (sound.custody other).grow fun event => made.holds
    · intro row member
      obtain ⟨new, grown⟩ := made.ids_grow
      rw [grown]
      refine List.mem_append_left _ ?_
      rcases made.new_row member with old | own
      · exact sound.parented row old
      · obtain ⟨period, found⟩ := (sound.recorded index).found own
        exact Keyed.get?_key found ▸ List.mem_map_of_mem (Keyed.get?_mem found)

/-- Every meter that a run reaches is sound. -/
theorem Meter.sound_of_exec {now : String} {meter : Meter} {actions : List MeterAction}
    (reached : exec Meter.step (Meter.initial now) actions = some meter)
    : meter.Sound :=
  exec_preserves (fun _ _ _ sound taken => Meter.Sound.step sound taken)
    (Meter.initial_sound now) reached

end ControlPlane.LlmSpend
