import ControlPlane.LlmSpend.Watermark

/-! A gateway log that loses its oldest rows while runs read it. Runs follow one another, and a
run probes the log once before it walks the pages.
-/

namespace ControlPlane.LlmSpend

open ControlPlane.Library
open ControlPlane.Store

-----------------------------------------------------------------------------------------
-- A log with a retention rule beside the runs that read it
-----------------------------------------------------------------------------------------

/-- The meter beside a gateway that forgets. Every row that ever arrived is kept in view, and the
log is what the retention rule has left of it.
-/
structure RetainedLog where
  now : String
  db : LlmSpendDb
  run : RunAt
  arrived : List GatewayLogRow
  deleted : Nat

inductive RetentionAction
  | arrive (row : GatewayLogRow)
  | deleteOldest
  | tick (next : String)
  | call (call : RunCall)

/-- A run that is over makes room for the next one. -/
def RunAt.vacated : RunAt → RunAt
  | .done _ => .idle
  | place => place

/-- A run is between its first call and its last one. -/
def RunAt.underway : RunAt → Bool
  | .idle | .done _ => false
  | _ => true

/-- A run is between its probe and the end of its page walk. -/
def RunAt.walking : RunAt → Bool
  | .paging _ _ _ _ => true
  | _ => false

/-- The usable rows a run was handed and has not stored yet. -/
def RunAt.inHand : RunAt → List SpendEvent
  | .paging _ _ walk _ => walk.events
  | .rolledUp _ result => result.events
  | .writing _ _ _ rest _ => rest
  | _ => []

/-- The cursor that is stored once a run at this place ends. -/
def RunAt.nextCursor (db : LlmSpendDb) : RunAt → Option String
  | .rolledUp _ result | .writing _ result _ _ _ | .closed _ result _ _ =>
      (advanced db result).watermark
  | _ => db.watermark

namespace RetainedLog

/-- The meter before its first run, and a gateway that has seen nothing. -/
def initial (now : String) : RetainedLog where
  now := now
  db := (Meter.initial now).db
  run := .idle
  arrived := []
  deleted := 0

/-- The rows still there, oldest first. -/
def log (state : RetainedLog) : List GatewayLogRow :=
  state.arrived.drop state.deleted

/-- A row may arrive when its timestamp is not before an earlier one. -/
def mayArrive (state : RetainedLog) (row : GatewayLogRow) : Bool :=
  isoUtc (stamp row) ∧ ∀ old ∈ state.arrived, stamp old ≤ stamp row

/-- A probe reports the log as it is, and a page is the one asked for. Either may fail. -/
def answers (state : RetainedLog) : RunCall → Bool
  | .probe (.ok probe) =>
      probe = { total := some state.log.length, oldest := state.log.head?.map stamp }
  | .list (.ok rows) =>
      match state.run with
      | .paging start _ _ number =>
          rows = listRows state.log start.watermarkBefore number maxPerPage
      | _ => true
  | _ => true

/-- A row arrives, the oldest one goes, the clock moves on, or the run makes its next call. -/
def step (state : RetainedLog) : RetentionAction → Option RetainedLog
  | .arrive row =>
      if state.mayArrive row then
        some { state with arrived := state.arrived ++ [row] }
      else
        none
  | .deleteOldest =>
      if state.deleted < state.arrived.length then
        some { state with deleted := state.deleted + 1 }
      else
        none
  | .tick next => if state.now ≤ next then some { state with now := next } else none
  | .call call =>
      if state.answers call then
        (state.run.vacated.step state.now state.db call).map fun after =>
          { state with db := after.1, run := after.2 }
      else
        none

/-- The cursor that the next run will start from. -/
def nextCursor (state : RetainedLog) : Option String :=
  state.run.nextCursor state.db

/-- A usable row that is neither stored nor with the run. -/
def Unread (state : RetainedLog) (event : SpendEvent) : Prop :=
  ¬ Holds state.db event ∧ event ∉ state.run.inHand

instance (state : RetainedLog) (event : SpendEvent) : Decidable (state.Unread event) := by
  unfold Unread; infer_instance

/-- No unread row lies in front of the page that a walk asks for next. -/
def NoneBehind (state : RetainedLog) : Prop :=
  match state.run with
  | .paging start _ _ number =>
      ∀ row ∈ (state.log.filter (passesFilter start.watermarkBefore)).take
          ((number - 1) * maxPerPage),
        ∀ event ∈ parseLogRow row, ¬ state.Unread event
  | _ => True

instance (state : RetainedLog) : Decidable state.NoneBehind := by
  unfold NoneBehind; split <;> infer_instance

/-- A deletion of an unread row is harmless outside a page walk, unless the row carries the very
timestamp of the cursor. A page is harmless when the walk has not passed over an unread row.
-/
def Spares (state : RetainedLog) : RetentionAction → Prop
  | .deleteOldest =>
      ∀ row ∈ state.log.head?, ∀ event ∈ parseLogRow row, state.Unread event
        → state.run.walking = false ∧ state.nextCursor ≠ some (stamp row)
  | .call (.list (.ok _)) => state.NoneBehind
  | _ => True

instance (state : RetainedLog) (action : RetentionAction) : Decidable (state.Spares action) := by
  unfold Spares; split <;> infer_instance

/-- All that one step can do. -/
inductive Stepped (state : RetainedLog) : RetentionAction → RetainedLog → Prop
  | arrive (row : GatewayLogRow) (iso : isoUtc (stamp row))
      (newest : ∀ old ∈ state.arrived, stamp old ≤ stamp row)
      : Stepped state (.arrive row) { state with arrived := state.arrived ++ [row] }
  | deleteOldest (some_left : state.deleted < state.arrived.length)
      : Stepped state .deleteOldest { state with deleted := state.deleted + 1 }
  | tick (next : String) : Stepped state (.tick next) { state with now := next }
  | call (call : RunCall) (db : LlmSpendDb) (place : RunAt) (answered : state.answers call)
      (made : RunStep state.now state.db state.run.vacated call db place)
      : Stepped state (.call call) { state with db := db, run := place }

/-- A step that is taken is one of these, by cases on the action. -/
theorem step_cases {state state' : RetainedLog} {action : RetentionAction}
    (taken : state.step action = some state')
    : Stepped state action state' := by
  cases action with
  | arrive row =>
      simp only [step] at taken
      split at taken
      · next may =>
          rw [mayArrive, decide_eq_true_eq] at may
          cases taken
          exact .arrive row may.1 may.2
      · exact absurd taken (Option.some_ne_none _).symm
  | deleteOldest =>
      simp only [step] at taken
      split at taken
      · next someLeft =>
          cases taken
          exact .deleteOldest someLeft
      · exact absurd taken (Option.some_ne_none _).symm
  | tick next =>
      simp only [step] at taken
      split at taken
      · cases taken
        exact .tick next
      · exact absurd taken (Option.some_ne_none _).symm
  | call call =>
      simp only [step] at taken
      split at taken
      · next answered =>
          obtain ⟨⟨db, place⟩, made, same⟩ := Option.map_eq_some_iff.mp taken
          cases same
          exact .call call db place answered (RunAt.step_cases made)
      · exact absurd taken (Option.some_ne_none _).symm

end RetainedLog

-----------------------------------------------------------------------------------------
-- What lies before a cursor is stored
-----------------------------------------------------------------------------------------

/-- The usable rows that a run's result is drawn from. -/
def RunAt.seen : RunAt → List SpendEvent
  | .paging _ _ walk _ => walk.events
  | .rolledUp _ result | .writing _ result _ _ _ | .closed _ result _ _ => result.events
  | _ => []

/-- The cursor that a run has in hand is the stored one. -/
def RunAt.HoldsCursor (db : LlmSpendDb) : RunAt → Prop
  | .cursorRead _ _ watermarkBefore => watermarkBefore = db.watermark
  | .prepared start | .paging start _ _ _ => start.watermarkBefore = db.watermark
  | _ => True

/-- The timestamp that a run may move the cursor to. -/
def RunAt.newest? : RunAt → Option String
  | .rolledUp _ result | .writing _ result _ _ _ | .closed _ result _ _ => result.newWatermark
  | _ => none

/-- A cursor is the timestamp of a row, and every usable row left before it is kept. -/
structure PassedOver (arrived log : List GatewayLogRow) (Kept : SpendEvent → Prop)
    (cursor : String)
    : Prop where
  own : ∃ row ∈ arrived, stamp row = cursor
  kept : ∀ row ∈ log, ∀ event, parseLogRow row = some event → stamp row < cursor → Kept event

/-- An event is stored, or the run will store it. -/
def RunAt.Keeps (db : LlmSpendDb) (place : RunAt) (event : SpendEvent) : Prop :=
  Holds db event ∨ event ∈ place.inHand

/-- A run knows the stored cursor, and what is left of the log before any row it has seen is
stored or in its hands.
-/
structure RunAt.Tracks (arrived log : List GatewayLogRow) (db : LlmSpendDb) (place : RunAt)
    : Prop where
  cursor : place.HoldsCursor db
  fromLog : ∀ event ∈ place.seen, ∃ row ∈ arrived, parseLogRow row = some event
  behind
    : ∀ row ∈ log, ∀ event, parseLogRow row = some event → ∀ last ∈ place.seen,
        stamp row < last.occurredAt → place.Keeps db event
  newest : ∀ instant, place.newest? = some instant → ∃ last ∈ place.seen, last.occurredAt = instant

/-- The log is in order, and neither the stored cursor nor the run has passed over a row. -/
structure RetainedLog.Sound (state : RetainedLog) : Prop where
  stamps : ∀ row ∈ state.arrived, isoUtc (stamp row)
  sorted : state.arrived.Pairwise fun first second => stamp first ≤ stamp second
  cursor
    : ∀ instant, state.db.watermark = some instant
        → PassedOver state.arrived state.log (Holds state.db) instant
  tracks : state.run.Tracks state.arrived state.log state.db

/-- Where the walk goes next it has seen what it has gathered. -/
@[simp] theorem RunStart.nextPage_seen (start : RunStart) (probe : Probe) (walk : Collected)
    (page : Nat)
    : (start.nextPage probe walk page).seen = walk.events := by
  unfold nextPage
  split <;> rfl

/-- Where the walk goes next it still has what it has gathered. -/
@[simp] theorem RunStart.nextPage_inHand (start : RunStart) (probe : Probe) (walk : Collected)
    (page : Nat)
    : (start.nextPage probe walk page).inHand = walk.events := by
  unfold nextPage
  split <;> rfl

/-- A run that has seen nothing tracks the log once it knows the cursor. -/
theorem RunAt.Tracks.ofNothing {arrived log : List GatewayLogRow} {db : LlmSpendDb}
    {place : RunAt} (cursor : place.HoldsCursor db) (nothing : place.seen = [])
    (none : place.newest? = none)
    : place.Tracks arrived log db := by
  refine ⟨cursor, ?_, ?_, ?_⟩
  · intro event member
    rw [nothing] at member
    exact absurd member List.not_mem_nil
  · intro row _ event _ last member
    rw [nothing] at member
    exact absurd member List.not_mem_nil
  · intro instant isNewest
    rw [none] at isNewest
    exact absurd isNewest (Option.some_ne_none _).symm

/-- A run that is over has seen as much as one that has not begun. -/
theorem RunAt.Tracks.vacated {arrived log : List GatewayLogRow} {db : LlmSpendDb} {place : RunAt}
    (tracks : place.Tracks arrived log db)
    : place.vacated.Tracks arrived log db := by
  cases place with
  | done outcome => exact .ofNothing trivial rfl rfl
  | _ => exact tracks

/-- A walk that goes on, or ends, with what it has gathered. -/
theorem nextPage_tracks {arrived log : List GatewayLogRow} {db : LlmSpendDb} {start : RunStart}
    {probe : Probe} {walk : Collected} {number : Nat}
    (cursor : start.watermarkBefore = db.watermark)
    (fromLog : ∀ event ∈ walk.events, ∃ row ∈ arrived, parseLogRow row = some event)
    (behind
      : ∀ row ∈ log, ∀ event, parseLogRow row = some event → ∀ last ∈ walk.events,
          stamp row < last.occurredAt → Holds db event ∨ event ∈ walk.events)
    : (start.nextPage probe walk number).Tracks arrived log db := by
  refine ⟨?_, ?_, ?_, ?_⟩
  · unfold RunStart.nextPage
    split
    · exact cursor
    · trivial
  · rw [RunStart.nextPage_seen]
    exact fromLog
  · rw [RunStart.nextPage_seen]
    intro row member event parsed last isLast less
    rw [RunAt.Keeps, RunStart.nextPage_inHand]
    exact behind row member event parsed last isLast less
  · rw [RunStart.nextPage_seen]
    unfold RunStart.nextPage
    split
    · exact fun instant none => absurd none (Option.some_ne_none _).symm
    · exact fun instant isNewest => newestOccurredAt_mem isNewest

/-- A page read where no unread row lies in front of it leaves nothing behind: a row before one of
the page is in the page, in front of it, or before the cursor.
-/
theorem behind_of_listed {log : List GatewayLogRow} {db : LlmSpendDb} {after : Option String}
    {walk : Collected} {rows : List GatewayLogRow} {number : Nat}
    (stamps : ∀ row ∈ log, isoUtc (stamp row))
    (sorted : log.Pairwise fun first second => stamp first ≤ stamp second)
    (passed
      : ∀ instant, after = some instant → ∀ row ∈ log, ∀ event,
          parseLogRow row = some event → stamp row < instant → Holds db event)
    (behind
      : ∀ row ∈ log, ∀ event, parseLogRow row = some event → ∀ last ∈ walk.events,
          stamp row < last.occurredAt → Holds db event ∨ event ∈ walk.events)
    (inFront
      : ∀ row ∈ (log.filter (passesFilter after)).take ((number - 1) * maxPerPage), ∀ event,
          parseLogRow row = some event → Holds db event ∨ event ∈ walk.events)
    (asked : rows = listRows log after number maxPerPage)
    : ∀ row ∈ log, ∀ event, parseLogRow row = some event
        → ∀ last ∈ (collectPage walk rows).events, stamp row < last.occurredAt
        → Holds db event ∨ event ∈ (collectPage walk rows).events := by
  intro row member event parsed last isLast less
  have widen : Holds db event ∨ event ∈ walk.events
      → Holds db event ∨ event ∈ (collectPage walk rows).events :=
    fun either => either.imp_right fun gathered => List.mem_append_left _ gathered
  rcases List.mem_append.mp isLast with gathered | new
  · exact widen (behind row member event parsed last gathered less)
  · obtain ⟨own, handed, ownParsed⟩ := List.mem_filterMap.mp new
    have whole : (log.filter (passesFilter after)).take ((number - 1) * maxPerPage + maxPerPage)
        = (log.filter (passesFilter after)).take ((number - 1) * maxPerPage) ++ rows := by
      rw [List.take_add, asked, listRows, page]
    have read : own ∈ (log.filter (passesFilter after)).take
        ((number - 1) * maxPerPage + maxPerPage) := by
      rw [whole]
      exact List.mem_append_right _ handed
    have ownInLog : own ∈ log := (List.mem_filter.mp (List.mem_of_mem_take read)).1
    rw [occurredAt_eq_stamp (stamps own ownInLog) ownParsed] at less
    by_cases passes : passesFilter after row
    · have among := mem_prefix_of_lt (sorted.filter _) (List.take_prefix _ _) read
        (List.mem_filter.mpr ⟨member, passes⟩) less
      rw [whole] at among
      rcases List.mem_append.mp among with earlier | same
      · exact widen (inFront row earlier event parsed)
      · exact .inr (List.mem_append_right _ (List.mem_filterMap.mpr ⟨row, same, parsed⟩))
    · -- a row that the filter leaves out lies in a second before the cursor's
      cases cursor : after with
      | none =>
          rw [cursor] at passes
          exact absurd rfl passes
      | some instant =>
          rw [cursor] at passes
          simp only [passesFilter, decide_eq_true_eq, not_or, not_le] at passes
          refine .inl (passed instant cursor row member event parsed ?_)
          by_contra notBefore
          exact absurd passes.2 (not_lt.mpr (second_le_second (not_lt.mp notBefore)))

/-- What a run tracks it still tracks as events are stored and the log shrinks or rows arrive behind
all it has seen.
-/
theorem RunAt.Tracks.grow {arrived arrived' log log' : List GatewayLogRow} {db : LlmSpendDb}
    {place : RunAt} (tracks : place.Tracks arrived log db)
    (stamps : ∀ row ∈ arrived, isoUtc (stamp row))
    (more : ∀ row ∈ arrived, row ∈ arrived')
    (left : ∀ row ∈ log', row ∈ log ∨ ∀ old ∈ arrived, stamp old ≤ stamp row)
    : place.Tracks arrived' log' db := by
  refine ⟨tracks.cursor, ?_, ?_, tracks.newest⟩
  · intro event member
    obtain ⟨row, isOld, parsed⟩ := tracks.fromLog event member
    exact ⟨row, more row isOld, parsed⟩
  · intro row member event parsed last isLast less
    rcases left row member with earlier | new
    · exact tracks.behind row earlier event parsed last isLast less
    · obtain ⟨own, isOld, ownParsed⟩ := tracks.fromLog last isLast
      rw [occurredAt_eq_stamp (stamps own isOld) ownParsed] at less
      exact absurd less (not_lt.mpr (new own isOld))

/-- A cursor that has passed over nothing has passed over nothing as the log changes so. -/
theorem PassedOver.grow {arrived arrived' log log' : List GatewayLogRow}
    {Kept Kept' : SpendEvent → Prop} {cursor : String}
    (passed : PassedOver arrived log Kept cursor) (more : ∀ row ∈ arrived, row ∈ arrived')
    (left : ∀ row ∈ log', row ∈ log ∨ ∀ old ∈ arrived, stamp old ≤ stamp row)
    (grows : ∀ event, Kept event → Kept' event)
    : PassedOver arrived' log' Kept' cursor := by
  obtain ⟨own, isOld, isOwn⟩ := passed.own
  refine ⟨⟨own, more own isOld, isOwn⟩, ?_⟩
  intro row member event parsed less
  rcases left row member with earlier | new
  · exact grows event (passed.kept row earlier event parsed less)
  · rw [← isOwn] at less
    exact absurd less (not_lt.mpr (new own isOld))

/-- One call of a run keeps its track, by cases on the call. -/
theorem RunStep.tracks {now : String} {db db' : LlmSpendDb} {place place' : RunAt} {call : RunCall}
    {arrived log : List GatewayLogRow} (made : RunStep now db place call db' place')
    (stamps : ∀ row ∈ log, isoUtc (stamp row)) (among : ∀ row ∈ log, row ∈ arrived)
    (sorted : log.Pairwise fun first second => stamp first ≤ stamp second)
    (passed : ∀ instant, db.watermark = some instant → PassedOver arrived log (Holds db) instant)
    (tracks : place.Tracks arrived log db)
    (listed
      : ∀ start probe walk number rows, place = .paging start probe walk number
        → call = .list (.ok rows)
        → rows = listRows log start.watermarkBefore number maxPerPage
          ∧ ∀ row ∈ (log.filter (passesFilter start.watermarkBefore)).take
              ((number - 1) * maxPerPage),
            ∀ event, parseLogRow row = some event → Holds db event ∨ event ∈ walk.events)
    : place'.Tracks arrived log db' := by
  have grows : ∀ event, Holds db event → Holds db' event := fun _ => made.holds
  cases made with
  | start pageCap => exact .ofNothing trivial rfl rfl
  | readLlmWatermark startedAt pageCap => exact .ofNothing rfl rfl rfl
  | readLastPeriodEnd startedAt pageCap watermarkBefore =>
      exact .ofNothing tracks.cursor rfl rfl
  | probeThrew start message => exact .ofNothing trivial rfl rfl
  | probed start probe =>
      refine nextPage_tracks tracks.cursor ?_ ?_
      · exact fun event member => absurd member List.not_mem_nil
      · exact fun _ _ _ _ last member => absurd member List.not_mem_nil
  | pagingThrew start probe walk page message => exact .ofNothing trivial rfl rfl
  | listed start probe walk number rows =>
      obtain ⟨asked, inFront⟩ := listed start probe walk number rows rfl rfl
      refine nextPage_tracks tracks.cursor ?_ ?_
      · intro event member
        rcases List.mem_append.mp member with gathered | new
        · exact tracks.fromLog event gathered
        · obtain ⟨row, handed, parsed⟩ := List.mem_filterMap.mp new
          rw [asked, listRows, page] at handed
          have inLog := (List.mem_filter.mp (List.mem_of_mem_drop (List.mem_of_mem_take handed))).1
          exact ⟨row, among row inLog, parsed⟩
      · refine behind_of_listed stamps sorted ?_ tracks.behind inFront asked
        intro instant isCursor
        exact (passed instant (tracks.cursor.symm.trans isCursor)).kept
  | opened start result newId free =>
      exact ⟨trivial, tracks.fromLog, tracks.behind, tracks.newest⟩
  | wrote start result periodId rest written =>
      refine ⟨trivial, tracks.fromLog, ?_, tracks.newest⟩
      intro row member event parsed last isLast less
      rcases tracks.behind row member event parsed last isLast less with stored | inRest
      · exact .inl (grows event stored)
      · -- an event of the rest is in this chunk or in what remains after it
        change event ∈ rest at inRest
        rw [← List.take_append_drop chunkSize rest] at inRest
        rcases List.mem_append.mp inRest with inChunk | later
        · have row := List.mem_map_of_mem (f := LlmSpendDb.spendRow periodId start.startedAt)
            inChunk
          exact .inl (Keyed.key_mem_insertAll row)
        · exact .inr later
  | closed start result periodId written =>
      exact ⟨trivial, tracks.fromLog, tracks.behind, tracks.newest⟩
  | advanced start result periodId written => exact .ofNothing trivial rfl rfl

/-- A call leaves the stored cursor alone, unless it is the last one of its run. -/
theorem RunStep.cursor_cases {now : String} {db db' : LlmSpendDb} {place place' : RunAt}
    {call : RunCall} (made : RunStep now db place call db' place')
    : db'.watermark = db.watermark
      ∨ ∃ start result periodId written,
          place = .closed start result periodId written ∧ db' = LlmSpend.advanced db result := by
  cases made with
  | advanced start result periodId written =>
      exact .inr ⟨start, result, periodId, written, rfl, rfl⟩
  | _ => exact .inl rfl

/-- The cursor that a run moves to has passed over no row, those in the run's hands apart. -/
theorem RunAt.Tracks.advanced {arrived log : List GatewayLogRow} {db : LlmSpendDb}
    {place : RunAt} {result : RollupResult} (stamps : ∀ row ∈ arrived, isoUtc (stamp row))
    (passed : ∀ instant, db.watermark = some instant → PassedOver arrived log (Holds db) instant)
    (tracks : place.Tracks arrived log db) (own : place.newest? = result.newWatermark)
    {instant : String} (isCursor : (LlmSpend.advanced db result).watermark = some instant)
    : PassedOver arrived log (place.Keeps db) instant := by
  have before : ∀ old, db.watermark = some old → PassedOver arrived log (place.Keeps db) old := by
    intro old isOld
    exact (passed old isOld).grow (fun _ member => member) (fun _ member => .inl member)
      fun _ stored => .inl stored
  unfold LlmSpend.advanced at isCursor
  split at isCursor
  · next newest advances =>
      have isNewest : result.newWatermark = some newest := by
        unfold RollupResult.advancesTo at advances
        split at advances
        · exact (Option.filter_eq_some_iff.mp advances).1
        · exact absurd advances (Option.some_ne_none _).symm
      obtain ⟨last, isLast, same⟩ := tracks.newest newest (own.trans isNewest)
      have ofNewest : PassedOver arrived log (place.Keeps db) newest := by
        refine ⟨?_, ?_⟩
        · obtain ⟨row, isOld, parsed⟩ := tracks.fromLog last isLast
          exact ⟨row, isOld, same ▸ (occurredAt_eq_stamp (stamps row isOld) parsed).symm⟩
        · intro row member event parsed less
          exact tracks.behind row member event parsed last isLast (same.symm ▸ less)
      simp only [LlmSpendDb.advanceLlmWatermark, Option.some.injEq] at isCursor
      subst isCursor
      cases stored : db.watermark with
      | none => exact ofNewest
      | some old =>
          simp only
          split
          · exact ofNewest
          · exact before old stored
  · exact before instant isCursor

namespace RetainedLog

/-- A row still there has arrived. -/
theorem mem_arrived_of_mem_log {state : RetainedLog} {row : GatewayLogRow}
    (member : row ∈ state.log)
    : row ∈ state.arrived :=
  List.mem_of_mem_drop member

/-- What is there after a row has arrived: that row, and what was there before. -/
theorem mem_log_arrive {state : RetainedLog} {row other : GatewayLogRow}
    (member : other ∈ RetainedLog.log { state with arrived := state.arrived ++ [row] })
    : other ∈ state.log ∨ other = row := by
  rw [log, List.drop_append] at member
  rcases List.mem_append.mp member with before | new
  · exact .inl before
  · exact .inr (List.mem_singleton.mp (List.mem_of_mem_drop new))

/-- What is there after the oldest row has gone was there before. -/
theorem mem_log_delete {state : RetainedLog} {row : GatewayLogRow}
    (member : row ∈ RetainedLog.log { state with deleted := state.deleted + 1 })
    : row ∈ state.log := by
  rw [log, ← List.tail_drop] at member
  exact List.mem_of_mem_tail member

/-- The log changes and the meter does not. A new row is behind all that have arrived. -/
structure Quiet (state state' : RetainedLog) : Prop where
  db : state'.db = state.db
  run : state'.run = state.run
  more : ∀ row ∈ state.arrived, row ∈ state'.arrived
  left
    : ∀ row ∈ state'.log, row ∈ state.log ∨ ∀ old ∈ state.arrived, stamp old ≤ stamp row

/-- A step is quiet, or a call. -/
theorem Stepped.quiet_or_call {state state' : RetainedLog} {action : RetentionAction}
    (stepped : Stepped state action state')
    : Quiet state state'
      ∨ ∃ call db place,
          action = .call call ∧ state.answers call
          ∧ RunStep state.now state.db state.run.vacated call db place
          ∧ state' = { state with db := db, run := place } := by
  cases stepped with
  | arrive row iso newest =>
      refine .inl ⟨rfl, rfl, fun _ member => List.mem_append_left _ member, ?_⟩
      intro other member
      rcases mem_log_arrive member with before | new
      · exact .inl before
      · exact .inr fun old isOld => new ▸ newest old isOld
  | deleteOldest someLeft =>
      exact .inl ⟨rfl, rfl, fun _ member => member, fun _ member => .inl (mem_log_delete member)⟩
  | tick next =>
      exact .inl ⟨rfl, rfl, fun _ member => member, fun _ member => .inl member⟩
  | call call db place answered made =>
      exact .inr ⟨call, db, place, rfl, answered, made, rfl⟩

/-- The meter before its first run has passed over nothing. -/
theorem initial_sound (now : String) : (initial now).Sound where
  stamps _ member := absurd member List.not_mem_nil
  sorted := List.Pairwise.nil
  cursor _ none := absurd none (Option.some_ne_none _).symm
  tracks := .ofNothing trivial rfl rfl

/-- A page that was answered truly, in the terms of the run it is for. -/
theorem listed_of_answers {state : RetainedLog} {call : RunCall} (answered : state.answers call)
    (spares : state.Spares (.call call)) {start : RunStart} {probe : Probe} {walk : Collected}
    {number : Nat} {rows : List GatewayLogRow}
    (place : state.run.vacated = .paging start probe walk number) (isList : call = .list (.ok rows))
    : rows = listRows state.log start.watermarkBefore number maxPerPage
      ∧ ∀ row ∈ (state.log.filter (passesFilter start.watermarkBefore)).take
          ((number - 1) * maxPerPage),
        ∀ event, parseLogRow row = some event → Holds state.db event ∨ event ∈ walk.events := by
  have isPaging : state.run = .paging start probe walk number := by
    cases run : state.run with
    | done outcome =>
        rw [run] at place
        exact absurd place nofun
    | _ =>
        rw [run] at place
        exact place
  subst isList
  refine ⟨?_, ?_⟩
  · simpa only [answers, isPaging, decide_eq_true_eq] using answered
  · intro row inFront event parsed
    simp only [Spares, NoneBehind, isPaging] at spares
    have read := spares row inFront event parsed
    rw [Unread, isPaging, not_and_or, not_not, not_not] at read
    exact read

/-- Every step keeps the rows that arrived in order. -/
theorem Sound.inOrder {state state' : RetainedLog} {action : RetentionAction}
    (sound : state.Sound) (stepped : Stepped state action state')
    : (∀ row ∈ state'.arrived, isoUtc (stamp row))
      ∧ state'.arrived.Pairwise fun first second => stamp first ≤ stamp second := by
  cases stepped with
  | arrive row iso newest =>
      refine ⟨forall_append_singleton sound.stamps iso, ?_⟩
      refine List.pairwise_append.mpr ⟨sound.sorted, List.pairwise_singleton _ _, ?_⟩
      intro old member new isNew
      rw [List.mem_singleton.mp isNew]
      exact newest old member
  | _ => exact ⟨sound.stamps, sound.sorted⟩

/-- Every step that spares the unread rows keeps the meter sound. -/
theorem Sound.step {state state' : RetainedLog} {action : RetentionAction} (sound : state.Sound)
    (spares : state.Spares action) (taken : state.step action = some state')
    : state'.Sound := by
  have stepped := step_cases taken
  obtain ⟨stamps, sorted⟩ := sound.inOrder stepped
  rcases stepped.quiet_or_call with quiet | ⟨call, db, place, isCall, answered, made, same⟩
  · refine ⟨stamps, sorted, ?_, ?_⟩
    · rw [quiet.db]
      exact fun instant isCursor =>
        (sound.cursor instant isCursor).grow quiet.more quiet.left fun _ stored => stored
    · rw [quiet.db, quiet.run]
      exact sound.tracks.grow sound.stamps quiet.more quiet.left
  · subst isCall same
    have tracks := sound.tracks.vacated
    have grows : ∀ event, Holds state.db event → Holds db event := fun _ => made.holds
    refine ⟨stamps, sorted, ?_, ?_⟩
    · intro instant isCursor
      rcases made.cursor_cases with kept | ⟨start, result, periodId, written, at_end, same⟩
      · exact (sound.cursor instant (kept.symm.trans isCursor)).grow (fun _ member => member)
          (fun _ member => .inl member) grows
      · rw [at_end] at tracks
        subst same
        have passed := tracks.advanced sound.stamps sound.cursor rfl isCursor
        refine passed.grow (fun _ member => member) (fun _ member => .inl member) ?_
        exact fun event keeps => grows event (keeps.resolve_right List.not_mem_nil)
    · refine made.tracks (fun row member => sound.stamps row (mem_arrived_of_mem_log member))
        (fun row member => mem_arrived_of_mem_log member) sound.sorted.drop sound.cursor tracks ?_
      exact fun start probe walk number rows place isList =>
        listed_of_answers answered spares place isList

/-- In a sound state the next cursor has passed over no row but what the run has in hand. -/
theorem Sound.nextCursor {state : RetainedLog} (sound : state.Sound) {instant : String}
    (isCursor : state.nextCursor = some instant)
    : PassedOver state.arrived state.log (state.run.Keeps state.db) instant := by
  have stored : state.db.watermark = some instant
      → PassedOver state.arrived state.log (state.run.Keeps state.db) instant := by
    intro isStored
    exact (sound.cursor instant isStored).grow (fun _ member => member)
      (fun _ member => .inl member) fun _ holds => .inl holds
  have tracks := sound.tracks
  unfold RetainedLog.nextCursor at isCursor
  cases run : state.run with
  | rolledUp start result | writing start result periodId rest written
  | closed start result periodId written =>
      rw [run] at isCursor tracks
      exact tracks.advanced sound.stamps sound.cursor rfl isCursor
  | _ =>
      rw [run] at isCursor stored
      exact stored isCursor

end RetainedLog

end ControlPlane.LlmSpend
