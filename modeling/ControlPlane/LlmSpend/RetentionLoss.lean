import ControlPlane.LlmSpend.Retention

/-! What becomes of a row that retention takes unread. A probe sees that the oldest row left is
newer than the cursor, but it sees nothing of what goes after it, and nothing of two rows with one
timestamp.
-/

namespace ControlPlane.LlmSpend

open ControlPlane.Library
open ControlPlane.Store

-----------------------------------------------------------------------------------------
-- A run record that keeps every window around it from being complete
-----------------------------------------------------------------------------------------

/-- A verdict that no complete window can contain. -/
def RollupResult.Unbillable (result : RollupResult) : Prop :=
  result.gapDetected ∨ result.controlPassed = false ∨ result.status ≠ .complete

/-- A run record that no complete window can contain. -/
def UnbillablePeriod (period : RollupPeriod) : Prop :=
  period.gapDetected ∨ period.controlPassed = false ∨ period.status ≠ .complete

instance (period : RollupPeriod) : Decidable (UnbillablePeriod period) := by
  unfold UnbillablePeriod; infer_instance

/-- The record under an id is one of those, and belongs to the windows around this instant. -/
def Filed (db : LlmSpendDb) (periodId windowEnd : String) : Prop :=
  ∃ period, db.periods.get? periodId = some period ∧ UnbillablePeriod period
    ∧ period.windowEnd = windowEnd

/-- The record under an id is unbillable, and every billing window that contains its window_end is
incomplete from then on.
-/
def RetainedLog.Reports (state : RetainedLog) (periodId : String) : Prop :=
  ∃ period, state.db.periods.get? periodId = some period ∧ UnbillablePeriod period
    ∧ ∀ more later, exec RetainedLog.step state more = some later
        → ∀ maxPeriods atSum query,
            query.windowStart ≤ period.windowEnd → period.windowEnd < query.windowEnd
            → (LlmSpendDb.readTenantLlmSpend maxPeriods later.db atSum query).complete = false

/-- A call leaves the verdict in a run record alone. -/
theorem RunStep.filed {now : String} {db db' : LlmSpendDb} {place place' : RunAt} {call : RunCall}
    {periodId windowEnd : String} (made : RunStep now db place call db' place')
    (filed : Filed db periodId windowEnd)
    : Filed db' periodId windowEnd := by
  obtain ⟨period, found, unbillable, ends⟩ := filed
  cases made with
  | opened start result newId free =>
      exact ⟨period, Keyed.get?_insert_of_found free found, unbillable, ends⟩
  | closed start result own written =>
      by_cases same : periodId = own
      · subst same
        exact ⟨_, (closePeriod periodId written now).get?_apply_of_match found rfl, unbillable, ends⟩
      · refine ⟨period, ?_, unbillable, ends⟩
        exact (closePeriod own written now).get?_apply_of_not found fun matched => same matched.1
  | advanced start result own written =>
      refine ⟨period, ?_, unbillable, ends⟩
      rw [(advanced_periods db result).1]
      exact found
  | _ => exact ⟨period, found, unbillable, ends⟩

namespace RetainedLog

/-- No step takes the verdict of a run record back. -/
theorem filed_step {state state' : RetainedLog} {action : RetentionAction}
    {periodId windowEnd : String} (filed : Filed state.db periodId windowEnd)
    (taken : state.step action = some state')
    : Filed state'.db periodId windowEnd := by
  cases step_cases taken with
  | call call db place answered made => exact made.filed filed
  | _ => exact filed

/-- Nor does a run of them. -/
theorem filed_exec {state later : RetainedLog} {actions : List RetentionAction}
    {periodId windowEnd : String} (filed : Filed state.db periodId windowEnd)
    (onward : exec step state actions = some later)
    : Filed later.db periodId windowEnd :=
  exec_preserves (fun _ _ _ before taken => filed_step before taken) filed onward

/-- An unbillable record is reported: no complete window contains it, now or later. -/
theorem reports_of_filed {state : RetainedLog} {periodId windowEnd : String}
    (filed : Filed state.db periodId windowEnd)
    : state.Reports periodId := by
  obtain ⟨period, found, unbillable, ends⟩ := filed
  refine ⟨period, found, unbillable, ?_⟩
  intro more last reached maxPeriods atSum query starts isBefore
  obtain ⟨period', found', unbillable', ends'⟩ :=
    filed_exec ⟨period, found, unbillable, rfl⟩ reached
  by_contra notIncomplete
  have complete : (LlmSpendDb.readTenantLlmSpend maxPeriods last.db atSum query).complete := by
    simpa using notIncomplete
  obtain ⟨_, _, assigned⟩ := LlmSpendDb.readTenantLlmSpend_complete complete
  obtain ⟨_, walked, controlled, noGap⟩ := assigned period'
    (LlmSpendDb.mem_windowPeriods.mpr
      ⟨Keyed.get?_mem found', ends'.symm ▸ starts, ends'.symm ▸ isBefore⟩)
  rcases unbillable' with gap | control | status
  · exact Bool.false_ne_true (noGap.symm.trans gap)
  · exact Bool.false_ne_true (control.symm.trans controlled)
  · exact status walked

end RetainedLog

-----------------------------------------------------------------------------------------
-- The run that has to report a lost row
-----------------------------------------------------------------------------------------

/-- A run has begun and not probed the log yet. -/
def RunAt.unprobed : RunAt → Bool
  | .started _ _ | .cursorRead _ _ _ | .prepared _ => true
  | _ => false

/-- No run is under way, or its page walk is over. -/
def RunAt.settled : RunAt → Bool
  | .idle | .rolledUp _ _ | .writing _ _ _ _ _ | .closed _ _ _ _ | .done _ => true
  | _ => false

/-- A run will record an unbillable verdict, or has recorded it. -/
def RunAt.Flagged (db : LlmSpendDb) : RunAt → Prop
  | .paging start probe _ _ =>
      probe.gapDetected start.watermarkBefore ∨ probe.controlPassed = false
  | .rolledUp _ result => result.Unbillable
  | .writing _ _ periodId _ _ | .closed _ _ periodId _ => ∃ windowEnd, Filed db periodId windowEnd
  | .done outcome => ∃ windowEnd, Filed db outcome.periodId windowEnd
  | _ => False

namespace RetainedLog

/-- A row that has gone lies behind the next cursor, and no row before it is left. -/
structure Beyond (state : RetainedLog) (row : GatewayLogRow) : Prop where
  gone : row ∈ state.arrived
  left : ∀ other ∈ state.log, stamp row ≤ stamp other
  cursor : ∃ instant, state.nextCursor = some instant ∧ instant ≠ "" ∧ instant < stamp row

/-- The run under way has to report the row, unless it is stored. -/
inductive Due (state : RetainedLog) (row : GatewayLogRow) (event : SpendEvent) : Prop
  | stored (holds : Holds state.db event)
  | unprobed (place : state.run.unprobed) (cursor : state.run.HoldsCursor state.db)
      (beyond : state.Beyond row)
  | flagged (flagged : state.run.Flagged state.db)

/-- The row is due, is in the hands of the run that was under way when it went, or is left for the
next run to find out.
-/
inductive Owed (atLoss : RunAt) (state : RetainedLog) (row : GatewayLogRow) (event : SpendEvent)
    : Prop
  | stored (holds : Holds state.db event)
  | due (during : atLoss.underway) (due : state.Due row event)
  | inHand (during : atLoss.underway) (member : event ∈ state.run.inHand)
  | beyond (place : state.run.settled) (beyond : state.Beyond row)

end RetainedLog

/-- A call that begins no run is made by the run that is under way. -/
theorem underway_of_call {now : String} {db db' : LlmSpendDb} {place place' : RunAt}
    {call : RunCall} (made : RunStep now db place.vacated call db' place')
    (onward : ∀ pageCap, call ≠ .start pageCap)
    : place.underway ∧ place.vacated = place := by
  cases place with
  | idle | done outcome =>
      cases made with
      | start pageCap => exact absurd rfl (onward pageCap)
  | _ => exact ⟨rfl, rfl⟩

/-- A walk that follows a probe with a verdict ends with that verdict. -/
theorem nextPage_flagged {db : LlmSpendDb} {start : RunStart} {probe : Probe} {walk : Collected}
    {number : Nat}
    (flagged : probe.gapDetected start.watermarkBefore ∨ probe.controlPassed = false)
    : (start.nextPage probe walk number).Flagged db := by
  unfold RunStart.nextPage
  split
  · exact flagged
  · exact flagged.imp_right .inl

/-- A verdict stays with its run to the end, by cases on the call. -/
theorem RunStep.flagged {now : String} {db db' : LlmSpendDb} {place place' : RunAt} {call : RunCall}
    (made : RunStep now db place call db' place') (flagged : place.Flagged db)
    : place'.Flagged db' := by
  have kept : ∀ periodId, (∃ windowEnd, Filed db periodId windowEnd)
      → ∃ windowEnd, Filed db' periodId windowEnd := by
    intro periodId filed
    obtain ⟨windowEnd, held⟩ := filed
    exact ⟨windowEnd, made.filed held⟩
  cases made with
  | pagingThrew start probe walk number message => exact .inr (.inr nofun)
  | listed start probe walk number rows => exact nextPage_flagged flagged
  | opened start result newId free =>
      refine ⟨start.startedAt, (start.period result newId).row, ?_, flagged, rfl⟩
      exact Keyed.get?_insert_self free
  | wrote start result periodId rest written => exact kept periodId flagged
  | closed start result periodId written => exact kept periodId flagged
  | advanced start result periodId written => exact kept periodId flagged
  | _ => exact absurd flagged id

/-- An event in a run's hands stays there or is stored, unless the run fails. -/
theorem RunStep.inHand {now : String} {db db' : LlmSpendDb} {place place' : RunAt} {call : RunCall}
    {event : SpendEvent} (made : RunStep now db place call db' place')
    (member : event ∈ place.inHand)
    : Holds db' event ∨ event ∈ place'.inHand ∨ place'.Flagged db' := by
  cases made with
  | pagingThrew start probe walk number message => exact .inr (.inr (.inr (.inr nofun)))
  | listed start probe walk number rows =>
      refine .inr (.inl ?_)
      rw [RunStart.nextPage_inHand]
      exact List.mem_append_left _ member
  | opened start result newId free => exact .inr (.inl member)
  | wrote start result periodId rest written =>
      change event ∈ rest at member
      rw [← List.take_append_drop chunkSize rest] at member
      rcases List.mem_append.mp member with inChunk | later
      · have row := List.mem_map_of_mem (f := LlmSpendDb.spendRow periodId start.startedAt) inChunk
        exact .inl (Keyed.key_mem_insertAll row)
      · exact .inr (.inl later)
  | _ => exact absurd member List.not_mem_nil

/-- A place is before the probe, in the page walk, or at rest or after the walk. -/
theorem RunAt.phase_cases (place : RunAt) : place.unprobed ∨ place.walking ∨ place.settled := by
  cases place with
  | started startedAt pageCap | cursorRead startedAt pageCap watermarkBefore | prepared start =>
      exact .inl rfl
  | paging start probe walk number => exact .inr (.inl rfl)
  | _ => exact .inr (.inr rfl)

/-- A run that has not probed yet is under way. -/
theorem RunAt.underway_of_unprobed {place : RunAt} (unprobed : place.unprobed)
    : place.underway := by
  cases place with
  | idle | done outcome => exact absurd unprobed Bool.false_ne_true
  | _ => rfl

/-- A run with events in hand is under way. -/
theorem RunAt.underway_of_inHand {place : RunAt} {event : SpendEvent}
    (member : event ∈ place.inHand)
    : place.underway := by
  cases place with
  | idle | done outcome => exact absurd member List.not_mem_nil
  | _ => rfl

/-- What a run advances the cursor to depends on nothing but the stored one. -/
theorem advanced_watermark {db db' : LlmSpendDb} (same : db'.watermark = db.watermark)
    (result : RollupResult)
    : (LlmSpend.advanced db' result).watermark = (LlmSpend.advanced db result).watermark := by
  unfold LlmSpend.advanced
  split
  · simp only [LlmSpendDb.advanceLlmWatermark, same]
  · exact same

/-- Before its probe a run does not move the cursor. -/
theorem nextCursor_of_unprobed {db : LlmSpendDb} {place : RunAt} (unprobed : place.unprobed)
    : place.nextCursor db = db.watermark := by
  cases place with
  | started startedAt pageCap | cursorRead startedAt pageCap watermarkBefore | prepared start => rfl
  | _ => exact absurd unprobed Bool.false_ne_true

/-- A run whose walk is over leaves the next cursor where it is. -/
theorem RunStep.settled {now : String} {db db' : LlmSpendDb} {place place' : RunAt} {call : RunCall}
    (made : RunStep now db place call db' place') (settled : place.settled)
    (onward : ∀ pageCap, call ≠ .start pageCap)
    : place'.settled ∧ place'.nextCursor db' = place.nextCursor db := by
  cases made with
  | start pageCap => exact absurd rfl (onward pageCap)
  | opened start result newId free =>
      refine ⟨rfl, advanced_watermark ?_ result⟩
      rfl
  | wrote start result periodId rest written =>
      refine ⟨rfl, advanced_watermark ?_ result⟩
      rfl
  | closed start result periodId written =>
      refine ⟨rfl, advanced_watermark ?_ result⟩
      rfl
  | advanced start result periodId written => exact ⟨rfl, rfl⟩
  | _ => exact absurd settled Bool.false_ne_true

/-- A run before its probe reads the cursor and goes on to the probe. -/
theorem RunStep.unprobed {now : String} {db db' : LlmSpendDb} {place place' : RunAt} {call : RunCall}
    (made : RunStep now db place call db' place') (unprobed : place.unprobed)
    (cursor : place.HoldsCursor db)
    : place'.Flagged db'
      ∨ (db' = db ∧ place'.unprobed ∧ place'.HoldsCursor db)
      ∨ ∃ start probe,
          place = .prepared start ∧ call = .probe (.ok probe)
          ∧ place' = start.nextPage probe {} 1 := by
  cases made with
  | readLlmWatermark startedAt pageCap => exact .inr (.inl ⟨rfl, rfl, rfl⟩)
  | readLastPeriodEnd startedAt pageCap watermarkBefore => exact .inr (.inl ⟨rfl, rfl, cursor⟩)
  | probeThrew start message => exact .inl (.inr (.inl rfl))
  | probed start probe => exact .inr (.inr ⟨start, probe, rfl, rfl, rfl⟩)
  | _ => exact absurd unprobed Bool.false_ne_true

namespace RetainedLog

/-- What lies behind a cursor stays there while the log changes. -/
theorem Beyond.quiet {state state' : RetainedLog} {row : GatewayLogRow} (beyond : state.Beyond row)
    (quiet : Quiet state state')
    : state'.Beyond row := by
  refine ⟨quiet.more row beyond.gone, ?_, ?_⟩
  · intro other member
    rcases quiet.left other member with before | new
    · exact beyond.left other before
    · exact new row beyond.gone
  · rw [nextCursor, quiet.run, quiet.db]
    exact beyond.cursor

/-- A probe of a log that has only later rows left, or none, has a verdict. -/
theorem Beyond.probed {state : RetainedLog} {row : GatewayLogRow} {start : RunStart} {probe : Probe}
    (beyond : state.Beyond row) (place : state.run = .prepared start)
    (cursor : state.run.HoldsCursor state.db) (answered : state.answers (.probe (.ok probe)))
    : probe.gapDetected start.watermarkBefore ∨ probe.controlPassed = false := by
  rw [answers, decide_eq_true_eq] at answered
  subst answered
  cases left : state.log with
  | nil => exact .inr rfl
  | cons oldest rest =>
      obtain ⟨instant, isCursor, notEmpty, before⟩ := beyond.cursor
      have known : start.watermarkBefore = some instant := by
        rw [place] at cursor
        rw [nextCursor, place] at isCursor
        exact cursor.trans isCursor
      have later : instant < stamp oldest :=
        lt_of_lt_of_le before (beyond.left oldest (left ▸ List.mem_cons_self))
      have hasStamp : stamp oldest ≠ "" := by
        intro empty
        rw [empty, String.lt_iff_toList_lt] at later
        exact absurd later (List.not_lt_nil _)
      refine .inl ?_
      simp [Probe.gapDetected, known, notEmpty, hasStamp, later]

/-- A row that is due stays due while no run begins. -/
theorem Due.step {state state' : RetainedLog} {action : RetentionAction} {row : GatewayLogRow}
    {event : SpendEvent} (due : state.Due row event) (stepped : Stepped state action state')
    (onward : ∀ pageCap, action ≠ .call (.start pageCap))
    : state'.Due row event := by
  rcases stepped.quiet_or_call with quiet | ⟨call, db, place, isCall, answered, made, same⟩
  · cases due with
    | stored holds => exact .stored (quiet.db ▸ holds)
    | unprobed before cursor beyond =>
        refine .unprobed (quiet.run ▸ before) ?_ (beyond.quiet quiet)
        rw [quiet.run, quiet.db]
        exact cursor
    | flagged flagged =>
        refine .flagged ?_
        rw [quiet.run, quiet.db]
        exact flagged
  · subst isCall same
    obtain ⟨_, own⟩ := underway_of_call made fun pageCap same => onward pageCap (same ▸ rfl)
    rw [own] at made
    cases due with
    | stored holds => exact .stored (made.holds holds)
    | unprobed before cursor beyond =>
        rcases made.unprobed before cursor
          with flagged | ⟨same, before', cursor'⟩ | ⟨start, probe, isPrepared, isProbe, same⟩
        · exact .flagged flagged
        · subst same
          refine .unprobed before' cursor' ⟨beyond.gone, beyond.left, ?_⟩
          have still := beyond.cursor
          rw [nextCursor, nextCursor_of_unprobed before] at still
          rw [nextCursor, nextCursor_of_unprobed before']
          exact still
        · subst isProbe same
          exact .flagged (nextPage_flagged (beyond.probed isPrepared cursor answered))
    | flagged flagged => exact .flagged (made.flagged flagged)

/-- A row that is owed stays owed while no run begins. -/
theorem Owed.step {atLoss : RunAt} {state state' : RetainedLog} {action : RetentionAction}
    {row : GatewayLogRow} {event : SpendEvent} (owed : state.Owed atLoss row event)
    (stepped : Stepped state action state') (onward : ∀ pageCap, action ≠ .call (.start pageCap))
    : state'.Owed atLoss row event := by
  cases owed with
  | due during due => exact .due during (due.step stepped onward)
  | stored holds =>
      rcases stepped.quiet_or_call with quiet | ⟨call, db, place, isCall, answered, made, same⟩
      · exact .stored (quiet.db ▸ holds)
      · exact .stored (same ▸ made.holds holds)
  | inHand during member =>
      rcases stepped.quiet_or_call with quiet | ⟨call, db, place, isCall, answered, made, same⟩
      · exact .inHand during (quiet.run ▸ member)
      · subst isCall same
        obtain ⟨_, own⟩ := underway_of_call made fun pageCap same => onward pageCap (same ▸ rfl)
        rw [own] at made
        rcases made.inHand member with holds | still | flagged
        · exact .stored holds
        · exact .inHand during still
        · exact .due during (.flagged flagged)
  | beyond settled beyond =>
      rcases stepped.quiet_or_call with quiet | ⟨call, db, place, isCall, answered, made, same⟩
      · exact .beyond (quiet.run ▸ settled) (beyond.quiet quiet)
      · subst isCall same
        have begins := fun pageCap same => onward pageCap (congrArg RetentionAction.call same)
        obtain ⟨_, own⟩ := underway_of_call made begins
        rw [own] at made
        obtain ⟨settled', kept⟩ := made.settled settled begins
        refine .beyond settled' ⟨beyond.gone, beyond.left, ?_⟩
        have still := beyond.cursor
        rw [nextCursor, ← kept] at still
        exact still

/-- A stored cursor is not taken away. -/
theorem hasCursor_step {state state' : RetainedLog} {action : RetentionAction}
    (cursor : state.db.watermark ≠ none) (taken : state.step action = some state')
    : state'.db.watermark ≠ none := by
  rcases (step_cases taken).quiet_or_call
    with quiet | ⟨call, db, place, isCall, answered, made, same⟩
  · rw [quiet.db]
    exact cursor
  · subst same
    rcases made.cursor_cases with kept | ⟨start, result, periodId, written, place, moved⟩
    · rw [kept]
      exact cursor
    · rw [moved]
      unfold LlmSpend.advanced
      split
      · exact Option.some_ne_none _
      · exact cursor

/-- Nor in a run of steps. -/
theorem hasCursor_exec {state later : RetainedLog} {actions : List RetentionAction}
    (cursor : state.db.watermark ≠ none) (onward : exec step state actions = some later)
    : later.db.watermark ≠ none :=
  exec_preserves (fun _ _ _ before taken => hasCursor_step before taken) cursor onward

/-- With a stored cursor, the run under way has a next one. -/
theorem nextCursor_ne_none {state : RetainedLog} (cursor : state.db.watermark ≠ none)
    : state.nextCursor ≠ none := by
  have moved : ∀ result, (LlmSpend.advanced state.db result).watermark ≠ none := by
    intro result
    unfold LlmSpend.advanced
    split
    · exact Option.some_ne_none _
    · exact cursor
  unfold nextCursor
  cases state.run with
  | rolledUp start result | writing start result periodId rest written
  | closed start result periodId written => exact moved result
  | _ => exact cursor

/-- The oldest row is before every row left behind it. -/
theorem Sound.oldest {state : RetainedLog} (sound : state.Sound) {row other : GatewayLogRow}
    (oldest : state.log.head? = some row) (member : other ∈ state.log)
    : stamp row ≤ stamp other := by
  obtain ⟨rest, whole⟩ := List.head?_eq_some_iff.mp oldest
  have sorted : state.log.Pairwise fun first second => stamp first ≤ stamp second :=
    sound.sorted.drop
  rw [whole] at sorted member
  rcases List.mem_cons.mp member with same | later
  · rw [same]
  · exact List.rel_of_pairwise_cons sorted later

/-- A usable row that goes in a sparing step is owed. -/
theorem Sound.owed {state state' : RetainedLog} (sound : state.Sound) {row : GatewayLogRow}
    {event : SpendEvent} (cursor : state.db.watermark ≠ none)
    (oldest : state.log.head? = some row) (usable : parseLogRow row = some event)
    (spares : state.Spares .deleteOldest) (taken : state.step .deleteOldest = some state')
    : state'.Owed state.run row event := by
  have inLog : row ∈ state.log := List.mem_of_head? oldest
  cases step_cases taken with
  | deleteOldest someLeft =>
      by_cases holds : Holds state.db event
      · exact .stored holds
      by_cases member : event ∈ state.run.inHand
      · exact .inHand (RunAt.underway_of_inHand member) member
      obtain ⟨notWalking, notSame⟩ := spares row oldest event usable ⟨holds, member⟩
      obtain ⟨instant, isCursor⟩ := Option.ne_none_iff_exists'.mp (nextCursor_ne_none cursor)
      have passed := sound.nextCursor isCursor
      have before : instant < stamp row := by
        rcases lt_trichotomy (stamp row) instant with less | same | more
        · exact absurd (passed.kept row inLog event usable less) (not_or.mpr ⟨holds, member⟩)
        · exact absurd (same ▸ isCursor) notSame
        · exact more
      have notEmpty : instant ≠ "" := by
        obtain ⟨own, isOld, isOwn⟩ := passed.own
        intro empty
        have kept := str_of_isoUtc (sound.stamps own isOld)
        rw [isOwn, empty] at kept
        exact absurd kept (by decide)
      have gone : row ∈ state.arrived := mem_arrived_of_mem_log inLog
      have beyond : RetainedLog.Beyond { state with deleted := state.deleted + 1 } row :=
        ⟨gone, fun other left => sound.oldest oldest (mem_log_delete left),
          instant, isCursor, notEmpty, before⟩
      rcases state.run.phase_cases with unprobed | walking | settled
      · exact .due (RunAt.underway_of_unprobed unprobed)
          (.unprobed unprobed sound.tracks.cursor beyond)
      · exact absurd (notWalking.symm.trans walking) Bool.false_ne_true
      · exact .beyond settled beyond

end RetainedLog

-----------------------------------------------------------------------------------------
-- A row lost between two runs
-----------------------------------------------------------------------------------------

/-- A row that a run of the system loses: it arrives once a cursor is stored, is deleted, and is not
stored when the first run started after its deletion is over.
-/
structure Loss (now : String) (actions : List RetentionAction) where
  early : List RetentionAction
  late : List RetentionAction
  middle : List RetentionAction
  pageCap : Nat
  walk : List RetentionAction
  after : List RetentionAction
  metered : RetainedLog
  atDeletion : RetainedLog
  resumed : RetainedLog
  finished : RetainedLog
  row : GatewayLogRow
  event : SpendEvent
  periodId : String
  whole
    : actions = early ++ (late ++ (.deleteOldest :: middle
        ++ (.call (.start pageCap) :: walk ++ after)))
  toCursor : exec RetainedLog.step (RetainedLog.initial now) early = some metered
  cursor : metered.db.watermark ≠ none
  toDeletion : exec RetainedLog.step metered late = some atDeletion
  oldest : atDeletion.log.head? = some row
  since : metered.arrived.length ≤ atDeletion.deleted
  usable : parseLogRow row = some event
  toNext : exec RetainedLog.step atDeletion (.deleteOldest :: middle) = some resumed
  noneBetween : ∀ cap, RetentionAction.call (.start cap) ∉ middle
  toEnd : exec RetainedLog.step resumed (.call (.start pageCap) :: walk) = some finished
  noneSince : ∀ cap, RetentionAction.call (.start cap) ∉ walk
  ended : finished.run.underway = false
  recorded : finished.run.periodId? = some periodId
  unstored : ¬ Holds finished.db event

/-- The first run after the deletion reports the loss, or the run that was under way then does. -/
def Loss.Reported {now : String} {actions : List RetentionAction} (loss : Loss now actions)
    : Prop :=
  loss.finished.Reports loss.periodId
  ∨ ∃ own, loss.atDeletion.run.underway ∧ loss.resumed.run.periodId? = some own
      ∧ loss.finished.Reports own

namespace RetainedLog

/-- What every step but the first of a run keeps holds until a run begins, by induction on the
actions before it.
-/
theorem kept_until_start (Inv : RetainedLog → Prop)
    (keeps
      : ∀ state action next, Inv state → Stepped state action next
        → (∀ pageCap, action ≠ .call (.start pageCap)) → Inv next)
    {state later : RetainedLog} {actions : List RetentionAction} (start : Inv state)
    (onward : ∀ pageCap, RetentionAction.call (.start pageCap) ∉ actions)
    (reached : exec step state actions = some later)
    : Inv later := by
  induction actions generalizing state with
  | nil =>
      cases reached
      exact start
  | cons action rest ih =>
      obtain ⟨next, taken, after⟩ := exec_cons.mp reached
      refine ih (keeps state action next start (step_cases taken) ?_) ?_ after
      · exact fun pageCap same => onward pageCap (same ▸ List.mem_cons_self)
      · exact fun pageCap member => onward pageCap (List.mem_cons_of_mem _ member)

/-- When the next run begins, an owed row is due from it, or the run that was under way when the row
went has recorded an unbillable verdict.
-/
theorem Owed.start {atLoss : RunAt} {state state' : RetainedLog} {row : GatewayLogRow}
    {event : SpendEvent} {pageCap : Nat} (owed : state.Owed atLoss row event)
    (taken : state.step (.call (.start pageCap)) = some state')
    : state'.Due row event
      ∨ ∃ own windowEnd, atLoss.underway ∧ state.run = .done own
          ∧ Filed state.db own.periodId windowEnd := by
  obtain ⟨now, db, run, arrived, deleted⟩ := state
  cases step_cases taken with
  | call _ db' place answered made =>
      have atRest : run = .idle ∨ ∃ own, run = .done own := by
        cases run with
        | idle => exact .inl rfl
        | done own => exact .inr ⟨own, rfl⟩
        | _ => cases made
      have begun : db' = db ∧ place = .started now pageCap := by
        rcases atRest with idle | ⟨own, done⟩
        · subst idle
          cases made
          exact ⟨rfl, rfl⟩
        · subst done
          cases made
          exact ⟨rfl, rfl⟩
      obtain ⟨sameDb, isStarted⟩ := begun
      subst sameDb isStarted
      cases owed with
      | stored holds => exact .inl (.stored holds)
      | due during due =>
          cases due with
          | stored holds => exact .inl (.stored holds)
          | unprobed unprobed cursor beyond =>
              rcases atRest with idle | ⟨own, done⟩
              · subst idle
                exact absurd unprobed Bool.false_ne_true
              · subst done
                exact absurd unprobed Bool.false_ne_true
          | flagged flagged =>
              rcases atRest with idle | ⟨own, done⟩
              · subst idle
                exact absurd flagged id
              · subst done
                obtain ⟨windowEnd, filed⟩ := flagged
                exact .inr ⟨own, windowEnd, during, rfl, filed⟩
      | inHand during member =>
          rcases atRest with idle | ⟨own, done⟩
          · subst idle
            exact absurd member List.not_mem_nil
          · subst done
            exact absurd member List.not_mem_nil
      | beyond settled beyond =>
          refine .inl (.unprobed rfl trivial ⟨beyond.gone, beyond.left, ?_⟩)
          have still := beyond.cursor
          rcases atRest with idle | ⟨own, done⟩
          · subst idle
            exact still
          · subst done
            exact still

end RetainedLog

/-- Retention loss is reported in every run of the system in which each deletion and each page spare
the unread rows.
-/
theorem retentionLoss_reported {now : String} {actions : List RetentionAction}
    (spared
      : Throughout RetainedLog.step RetainedLog.Spares (RetainedLog.initial now) actions)
    (loss : Loss now actions)
    : loss.Reported := by
  have whole := spared
  rw [loss.whole] at whole
  obtain ⟨onEarly, later⟩ := throughout_append whole loss.toCursor
  obtain ⟨onLate, onward⟩ := throughout_append later loss.toDeletion
  have keeps := fun (state : RetainedLog) (action : RetentionAction) (next : RetainedLog)
      (sound : state.Sound) (spares : state.Spares action)
      (taken : state.step action = some next) => sound.step spares taken
  have soundCursor := exec_invariant keeps (RetainedLog.initial_sound now) onEarly loss.toCursor
  have sound := exec_invariant keeps soundCursor onLate loss.toDeletion
  have cursor : loss.atDeletion.db.watermark ≠ none :=
    RetainedLog.hasCursor_exec loss.cursor loss.toDeletion
  obtain ⟨deleted, deletes, between⟩ := exec_cons.mp loss.toNext
  have owed := sound.owed cursor loss.oldest loss.usable (onward deleted deletes).1 deletes
  obtain ⟨begun, begins, toEnd⟩ := exec_cons.mp loss.toEnd
  have still : loss.resumed.Owed loss.atDeletion.run loss.row loss.event :=
    RetainedLog.kept_until_start (fun state => state.Owed loss.atDeletion.run loss.row loss.event)
      (fun _ _ _ before stepped onward => before.step stepped onward) owed loss.noneBetween between
  rcases still.start begins with due | ⟨own, windowEnd, during, place, filed⟩
  · refine .inl ?_
    have atEnd : loss.finished.Due loss.row loss.event :=
      RetainedLog.kept_until_start (fun state => state.Due loss.row loss.event)
        (fun _ _ _ before stepped onward => before.step stepped onward) due loss.noneSince toEnd
    cases atEnd with
    | stored holds => exact absurd holds loss.unstored
    | unprobed unprobed =>
        have still := RunAt.underway_of_unprobed unprobed
        exact absurd (loss.ended.symm.trans still) Bool.false_ne_true
    | flagged flagged =>
        have recorded := loss.recorded
        cases place : loss.finished.run with
        | writing start result own rest written | closed start result own written
        | done outcome =>
            rw [place] at flagged recorded
            obtain ⟨windowEnd, filed⟩ := flagged
            rw [← Option.some.inj recorded]
            exact RetainedLog.reports_of_filed filed
        | _ =>
            rw [place] at recorded
            exact absurd recorded.symm (Option.some_ne_none _)
  · exact .inr ⟨own.periodId, during, place ▸ rfl,
      RetainedLog.reports_of_filed (RetainedLog.filed_exec filed loss.toEnd)⟩

-----------------------------------------------------------------------------------------
-- Three rows, two of which go
-----------------------------------------------------------------------------------------

/-- The calls of a run that finds its log on one page, after the first. -/
def onePageRun (periodId : String) (probe : Probe) (rows : List GatewayLogRow)
    : List RetentionAction :=
  [.readLlmWatermark, .readLastPeriodEnd, .probe (.ok probe), .list (.ok rows),
    .openLlmRollupPeriod periodId, .writeLlmSpendEvents, .closeLlmRollupPeriod,
    .advanceLlmWatermark].map .call

/-- A row arrives and is stored. -/
def oneStored : List RetentionAction :=
  let stored := logRow "log_1" "2026-07-10T08:00:00.000Z"
  .arrive stored :: .call (.start 40)
    :: onePageRun "llmp_0" { total := some 1, oldest := some "2026-07-10T08:00:00.000Z" } [stored]

/-- Two more arrive. -/
def twoNew : List RetentionAction :=
  [.arrive (logRow "log_2" "2026-07-10T08:10:00.000Z"),
    .arrive (logRow "log_3" "2026-07-10T08:20:00.000Z")]

/-- The run that reads the third row alone. -/
def thirdRead (periodId : String) : List RetentionAction :=
  onePageRun periodId { total := some 1, oldest := some "2026-07-10T08:20:00.000Z" }
    [logRow "log_3" "2026-07-10T08:20:00.000Z"]

/-- The state that a run of actions ends in. -/
def RetainedLog.last (state : RetainedLog) (actions : List RetentionAction) : RetainedLog :=
  (exec RetainedLog.step state actions).getD state

/-- Actions that run end there. -/
theorem RetainedLog.exec_last {state : RetainedLog} {actions : List RetentionAction}
    (runs : (exec RetainedLog.step state actions).isSome)
    : exec RetainedLog.step state actions = some (state.last actions) := by
  obtain ⟨final, reached⟩ := Option.isSome_iff_exists.mp runs
  rw [last, reached, Option.getD_some]

/-- The meter with its one row. -/
def oneMetered : RetainedLog :=
  (RetainedLog.initial "2026-07-10T09:00:00.000Z").last oneStored

/-- The second row as a usage row. -/
def secondEvent : SpendEvent where
  sourceId := "log_2"
  tenantId := none
  slug := none
  model := none
  costMicroUsd := none
  tokensIn := none
  tokensOut := none
  cached := none
  occurredAt := "2026-07-10T08:10:00.000Z"

/-- Two rows have arrived, and the first row has gone. -/
def twoLeft : RetainedLog :=
  oneMetered.last (twoNew ++ [.deleteOldest])

/-- The second row has gone too, with no run under way. -/
def oneLeft : RetainedLog :=
  twoLeft.last (.deleteOldest :: [])

/-- Two rows go before the next run begins. -/
def lostBetweenRuns : List RetentionAction :=
  oneStored ++ ((twoNew ++ [.deleteOldest]) ++ (.deleteOldest :: []
    ++ (.call (.start 40) :: thirdRead "llmp_1" ++ [])))

/-- The first run ends, with a cursor and the one row. -/
theorem oneMetered_facts
    : (exec RetainedLog.step (RetainedLog.initial "2026-07-10T09:00:00.000Z") oneStored).isSome
      ∧ oneMetered.db.watermark ≠ none
      ∧ oneMetered.arrived.length = 1 := by
  decide +kernel

/-- The second row is then the oldest. -/
theorem twoLeft_facts
    : (exec RetainedLog.step oneMetered (twoNew ++ [.deleteOldest])).isSome
      ∧ twoLeft.log.head? = some (logRow "log_2" "2026-07-10T08:10:00.000Z")
      ∧ twoLeft.deleted = 1 := by
  decide +kernel

/-- It goes, and another run ends. -/
theorem oneLeft_facts
    : (exec RetainedLog.step twoLeft (.deleteOldest :: [])).isSome
      ∧ (exec RetainedLog.step oneLeft (.call (.start 40) :: thirdRead "llmp_1")).isSome := by
  decide +kernel

/-- The next run is over, and the second row is not stored. -/
theorem nextRun_facts
    : let finished := oneLeft.last (.call (.start 40) :: thirdRead "llmp_1")
      finished.run.underway = false ∧ finished.run.periodId? = some "llmp_1"
      ∧ ¬ Holds finished.db secondEvent := by
  decide +kernel

/-- The second of them is lost. -/
def secondLost : Loss "2026-07-10T09:00:00.000Z" lostBetweenRuns where
  early := oneStored
  late := twoNew ++ [.deleteOldest]
  middle := []
  pageCap := 40
  walk := thirdRead "llmp_1"
  after := []
  metered := oneMetered
  atDeletion := twoLeft
  resumed := oneLeft
  finished := oneLeft.last (.call (.start 40) :: thirdRead "llmp_1")
  row := logRow "log_2" "2026-07-10T08:10:00.000Z"
  event := secondEvent
  periodId := "llmp_1"
  whole := rfl
  toCursor := RetainedLog.exec_last oneMetered_facts.1
  cursor := oneMetered_facts.2.1
  toDeletion := RetainedLog.exec_last twoLeft_facts.1
  oldest := twoLeft_facts.2.1
  since := (oneMetered_facts.2.2.trans twoLeft_facts.2.2.symm).le
  usable := by decide +kernel
  toNext := RetainedLog.exec_last oneLeft_facts.1
  noneBetween _ := List.not_mem_nil
  toEnd := RetainedLog.exec_last oneLeft_facts.2
  noneSince _ := by simp [thirdRead, onePageRun]
  ended := nextRun_facts.1
  recorded := nextRun_facts.2.1
  unstored := nextRun_facts.2.2

/-- Both deletions spare the unread rows, and the run that follows reports the gap. -/
theorem secondLost_reported : secondLost.Reported :=
  retentionLoss_reported (by decide +kernel) secondLost

/-- Two rows arrive, and a run probes the log while its oldest row is the stored one. -/
def probedFirst : List RetentionAction :=
  twoNew
    ++ [.start 40, .readLlmWatermark, .readLastPeriodEnd,
        .probe (.ok { total := some 3, oldest := some "2026-07-10T08:00:00.000Z" })].map .call

/-- The rest of that run, which finds the third row alone. -/
def walkedAfter : List RetentionAction :=
  [.list (.ok [logRow "log_3" "2026-07-10T08:20:00.000Z"]), .openLlmRollupPeriod "llmp_1",
    .writeLlmSpendEvents, .closeLlmRollupPeriod, .advanceLlmWatermark].map .call

/-- The first row has gone between the probe and the walk. -/
def betweenProbeAndWalk : RetainedLog :=
  oneMetered.last (probedFirst ++ [.deleteOldest])

/-- The second row has gone there too, and the run is over. -/
def walkedPast : RetainedLog :=
  betweenProbeAndWalk.last (.deleteOldest :: walkedAfter)

/-- Two rows go between the probe and the walk of a run, and another run follows. -/
def lostWithinRun : List RetentionAction :=
  oneStored ++ ((probedFirst ++ [.deleteOldest]) ++ (.deleteOldest :: walkedAfter
    ++ (.call (.start 40) :: thirdRead "llmp_2" ++ [])))

/-- The second row is the oldest when the walk is about to begin. -/
theorem betweenProbeAndWalk_facts
    : (exec RetainedLog.step oneMetered (probedFirst ++ [.deleteOldest])).isSome
      ∧ betweenProbeAndWalk.log.head? = some (logRow "log_2" "2026-07-10T08:10:00.000Z")
      ∧ betweenProbeAndWalk.deleted = 1 := by
  decide +kernel

/-- It goes, the run ends, and so does another. -/
theorem walkedPast_facts
    : (exec RetainedLog.step betweenProbeAndWalk (.deleteOldest :: walkedAfter)).isSome
      ∧ walkedPast.run.periodId? = some "llmp_1"
      ∧ (exec RetainedLog.step walkedPast (.call (.start 40) :: thirdRead "llmp_2")).isSome := by
  decide +kernel

/-- The next run is over, the second row is not stored, and neither record is unbillable. -/
theorem runAfter_facts
    : let finished := walkedPast.last (.call (.start 40) :: thirdRead "llmp_2")
      (finished.run.underway = false ∧ finished.run.periodId? = some "llmp_2"
        ∧ ¬ Holds finished.db secondEvent)
      ∧ (∀ period ∈ finished.db.periods.get? "llmp_1", ¬ UnbillablePeriod period)
      ∧ ∀ period ∈ finished.db.periods.get? "llmp_2", ¬ UnbillablePeriod period := by
  decide +kernel

/-- The second of them is lost. -/
def secondPassed : Loss "2026-07-10T09:00:00.000Z" lostWithinRun where
  early := oneStored
  late := probedFirst ++ [.deleteOldest]
  middle := walkedAfter
  pageCap := 40
  walk := thirdRead "llmp_2"
  after := []
  metered := oneMetered
  atDeletion := betweenProbeAndWalk
  resumed := walkedPast
  finished := walkedPast.last (.call (.start 40) :: thirdRead "llmp_2")
  row := secondLost.row
  event := secondLost.event
  periodId := "llmp_2"
  whole := rfl
  toCursor := secondLost.toCursor
  cursor := secondLost.cursor
  toDeletion := RetainedLog.exec_last betweenProbeAndWalk_facts.1
  oldest := betweenProbeAndWalk_facts.2.1
  since := (oneMetered_facts.2.2.trans betweenProbeAndWalk_facts.2.2.symm).le
  usable := secondLost.usable
  toNext := RetainedLog.exec_last walkedPast_facts.1
  noneBetween _ := by simp [walkedAfter]
  toEnd := RetainedLog.exec_last walkedPast_facts.2.2
  noneSince _ := by simp [thirdRead, onePageRun]
  ended := runAfter_facts.1.1
  recorded := runAfter_facts.1.2.1
  unstored := runAfter_facts.1.2.2

/-- A record that is complete, controlled and without a gap reports nothing. -/
theorem RetainedLog.not_reports {state : RetainedLog} {periodId : String}
    (clean : ∀ period ∈ state.db.periods.get? periodId, ¬ UnbillablePeriod period)
    : ¬ state.Reports periodId := by
  intro h
  obtain ⟨period, found, unbillable, _⟩ := h
  exact clean period found unbillable

/-- Neither the run that passed the second row nor the one after it reports it: their records are
complete, controlled and without a gap.
-/
theorem secondPassed_silent
    : ¬ ∀ loss : Loss "2026-07-10T09:00:00.000Z" lostWithinRun, loss.Reported := by
  intro reported
  rcases reported secondPassed with next | ⟨own, _, isOwn, underway⟩
  · exact RetainedLog.not_reports runAfter_facts.2.2 next
  · rw [Option.some.inj (isOwn.symm.trans walkedPast_facts.2.1)] at underway
    exact RetainedLog.not_reports runAfter_facts.2.1 underway

end ControlPlane.LlmSpend
