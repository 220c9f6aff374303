import ControlPlane.LlmSpend.Settlement

/-! What a complete window says of the rows behind it. Rows that the parser cannot use are
counted in the answer of their run only, and no table keeps that count.
-/

namespace ControlPlane.LlmSpend

open ControlPlane.Library
open ControlPlane.Store

/-- The run behind a run record of the window. -/
def Assigned (meter : Meter) (query : SpendQuery) (index : Nat) : Prop :=
  ∃ period ∈ meter.db.windowPeriods query.windowStart query.windowEnd,
    (meter.runs index).periodId? = some period.id

/-- A usage row of the gateway is kept under the row's id. -/
def Present (db : LlmSpendDb) (row : GatewayLogRow) : Prop :=
  ∃ kept ∈ db.events.rows, kept.source = "ai_gateway" ∧ str row.id = some kept.sourceId

/-- No row that an assigned run was handed is missing, and none of them was unusable. -/
def HidesNoRow (meter : Meter) (query : SpendQuery) : Prop :=
  ∀ index, Assigned meter query index → ∀ row ∈ meter.returned index,
    parseLogRow row ≠ none ∧ Present meter.db row

/-- The gateway gave a text id and a text timestamp with every row it handed to the assigned
runs, neither of them blank.
-/
def WellFormedRows (meter : Meter) (query : SpendQuery) : Prop :=
  ∀ index, Assigned meter query index → ∀ row ∈ meter.returned index,
    (str row.id).isSome ∧ (str row.createdAt).isSome

/-- A row whose event is held is present. -/
theorem present_of_holds {db : LlmSpendDb} {row : GatewayLogRow} {event : SpendEvent}
    (parsed : parseLogRow row = some event) (held : Holds db event)
    : Present db row := by
  obtain ⟨hasId, _, source⟩ := parseLogRow_eq_some parsed
  obtain ⟨kept, member, keyed⟩ := List.mem_map.mp held
  obtain ⟨sameSource, sameId⟩ := Prod.mk.inj keyed
  exact ⟨kept, member, sameSource.trans source, by rw [hasId, ← sameId]⟩

/-- The run behind a finished record with a status other than failed has stored every usable
row it was handed, by cases on where the run is.
-/
theorem Meter.Sound.stored {meter : Meter} (sound : meter.Sound) {index : Nat}
    {period : RollupPeriod} (own : (meter.runs index).periodId? = some period.id)
    (member : period ∈ meter.db.periods.rows) (finished : period.finishedAt ≠ none)
    (read : period.status ≠ .failed)
    : ∀ event ∈ (meter.returned index).filterMap parseLogRow, Holds meter.db event := by
  have recorded := sound.recorded index
  have custody := sound.custody index
  have found := Keyed.get?_of_mem member
  cases place : meter.runs index with
  | writing start result periodId rest written =>
      rw [place] at own recorded
      cases own
      obtain ⟨same, isSame, _, _, unfinished⟩ := recorded
      cases found.symm.trans isSame
      exact absurd unfinished finished
  | closed start result periodId written =>
      rw [place] at own recorded custody
      cases own
      obtain ⟨same, isSame, agrees⟩ := recorded
      cases found.symm.trans isSame
      obtain ⟨carries, kept⟩ := custody
      rcases carries with failed | all
      · exact absurd (agrees.trans failed) read
      · exact all ▸ kept
  | done outcome =>
      rw [place] at own recorded custody
      obtain ⟨same, isSame, agrees⟩ := recorded
      have sameId : outcome.periodId = period.id := Option.some.inj own
      rw [sameId] at isSame
      cases found.symm.trans isSame
      exact custody.resolve_left fun failed => read (agrees.trans failed)
  | _ =>
      rw [place] at own
      exact absurd own (Option.some_ne_none _).symm

/-- Every usable row that a run assigned to a complete window was handed is present. -/
theorem present_of_complete {meter : Meter} (sound : meter.Sound) {maxPeriods : Nat}
    {atSum : LlmSpendDb} {query : SpendQuery}
    (complete : (LlmSpendDb.readTenantLlmSpend maxPeriods meter.db atSum query).complete)
    {index : Nat} (assigned : Assigned meter query index) {row : GatewayLogRow}
    (handed : row ∈ meter.returned index) {event : SpendEvent}
    (parsed : parseLogRow row = some event)
    : Present meter.db row := by
  obtain ⟨period, inWindow, own⟩ := assigned
  obtain ⟨_, _, trusted⟩ := LlmSpendDb.readTenantLlmSpend_complete complete
  obtain ⟨finished, walked, _⟩ := trusted period inWindow
  have member := (LlmSpendDb.mem_windowPeriods.mp inWindow).1
  have read : period.status ≠ .failed := by
    rw [walked]
    exact RollupStatus.noConfusion
  refine present_of_holds parsed (sound.stored own member finished read event ?_)
  exact List.mem_filterMap.mpr ⟨row, handed, parsed⟩

/-- A complete window hides no row exactly when the gateway gave its runs well-formed rows
only: a row that cannot be used is dropped, and the window stays complete.
-/
theorem hidesNoRow_iff {now : String} {meter : Meter} {actions : List MeterAction}
    {maxPeriods : Nat} {atSum : LlmSpendDb} {query : SpendQuery}
    (reached : exec Meter.step (Meter.initial now) actions = some meter)
    (complete : (LlmSpendDb.readTenantLlmSpend maxPeriods meter.db atSum query).complete)
    : HidesNoRow meter query ↔ WellFormedRows meter query := by
  constructor
  · intro hidesNone index assigned row handed
    exact parseLogRow_isSome.mp
      (Option.isSome_iff_ne_none.mpr (hidesNone index assigned row handed).1)
  · intro wellFormed index assigned row handed
    have usable := parseLogRow_isSome.mpr (wellFormed index assigned row handed)
    obtain ⟨event, parsed⟩ := Option.isSome_iff_exists.mp usable
    refine ⟨Option.isSome_iff_ne_none.mp usable, ?_⟩
    exact present_of_complete (Meter.sound_of_exec reached) complete assigned handed parsed

/-- One run, given one page. -/
def oneRun (rows : List GatewayLogRow) (writes : List MeterAction) : List MeterAction :=
  beginRun 0
  ++ [.run 0 (.list (.ok rows)), .run 0 (.openLlmRollupPeriod "llmp_1")]
  ++ writes
  ++ [.run 0 .closeLlmRollupPeriod, .run 0 .advanceLlmWatermark]

/-- A row with a usable id and timestamp, of no tenant and without a price. -/
def usableRow : GatewayLogRow where
  id := .text "log_1"
  createdAt := .text "2026-07-10T08:00:00.000Z"

/-- A row whose timestamp is missing. -/
def timelessRow : GatewayLogRow where
  id := .text "log_1"
  createdAt := .other

/-- A run that is handed a usable row leaves a complete July that hides none. -/
theorem usableRun_hidesNoRow
    : ∃ meter,
        exec Meter.step (Meter.initial "2026-07-10T09:00:00.000Z")
            (oneRun [usableRow] [.run 0 .writeLlmSpendEvents])
          = some meter
        ∧ HidesNoRow meter julyQuery := by
  obtain ⟨meter, reached, complete, handed, others⟩
      : ∃ meter, exec Meter.step (Meter.initial "2026-07-10T09:00:00.000Z")
            (oneRun [usableRow] [.run 0 .writeLlmSpendEvents]) = some meter
          ∧ (LlmSpendDb.readTenantLlmSpend maxPeriodsPerWindow meter.db meter.db
              julyQuery).complete
          ∧ meter.returned 0 = [usableRow]
          ∧ ∀ index, index ≠ 0 → meter.returned index = [] :=
    ⟨_, rfl, by decide, rfl, fun index notFirst => by simp [Meter.initial, notFirst]⟩
  refine ⟨meter, reached, (hidesNoRow_iff reached complete).mpr ?_⟩
  intro index assigned row inRows
  by_cases first : index = 0
  · rw [first, handed, List.mem_singleton] at inRows
    rw [inRows]
    decide
  · rw [others index first] at inRows
    exact absurd inRows List.not_mem_nil

/-- A run that is handed a row without a timestamp leaves a complete July all the same. -/
theorem timelessRun_hidesRow
    : ∃ meter,
        exec Meter.step (Meter.initial "2026-07-10T09:00:00.000Z") (oneRun [timelessRow] [])
          = some meter
        ∧ (LlmSpendDb.readTenantLlmSpend maxPeriodsPerWindow meter.db meter.db
            julyQuery).complete
        ∧ ¬ HidesNoRow meter julyQuery := by
  refine ⟨_, rfl, by decide, ?_⟩
  intro hidesNone
  have assigned := hidesNone 0 ⟨_, List.mem_singleton.mpr rfl, rfl⟩ timelessRow
    (List.mem_singleton.mpr rfl)
  exact assigned.1 (by decide)

end ControlPlane.LlmSpend
