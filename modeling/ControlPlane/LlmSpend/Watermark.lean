import ControlPlane.Library.Pages
import ControlPlane.Library.TextParts
import ControlPlane.LlmSpend.Records

/-! The cursor over a growing gateway log. The gateway compares timestamps by the second, so
the second that the cursor lies in is read again and a row that shares it is not skipped.
-/

namespace ControlPlane.LlmSpend

open ControlPlane.Library
open ControlPlane.Store

-----------------------------------------------------------------------------------------
-- A growing log and the pages a cursor asks for
-----------------------------------------------------------------------------------------

/-- The shape of a timestamp the gateway assigns: a d stands for a digit. -/
def isoShape : List Char := "dddd-dd-ddTdd:dd:dd.dddZ".toList

/-- A character has the shape of a character. -/
def fitsShape (c shape : Char) : Bool :=
  if shape = 'd' then c.isDigit else c = shape

/-- Fixed-width ISO UTC. -/
def isoUtc (text : String) : Bool :=
  text.toList.length = isoShape.length
  ∧ (text.toList.zip isoShape).all fun pair => fitsShape pair.1 pair.2

/-- A timestamp cut after its seconds. -/
def second (text : String) : String :=
  String.ofList (text.toList.take "dddd-dd-ddTdd:dd:dd".length)

/-- The created_at of a row that has one. -/
def stamp (row : GatewayLogRow) : String :=
  match row.createdAt with
  | .text value => value
  | _ => ""

/-- The filter of the logs URL. An absent or empty cursor asks for no filter. -/
def passesFilter (after : Option String) (row : GatewayLogRow) : Bool :=
  match after with
  | some instant => instant = "" ∨ second instant ≤ second (stamp row)
  | none => true

/-- One page of the rows that pass the filter, in the order they arrived. -/
def listRows (log : List GatewayLogRow) (after : Option String) (number perPage : Nat)
    : List GatewayLogRow :=
  page (log.filter (passesFilter after)) number perPage

/-- The meter beside the log that its runs read. -/
structure Gateway where
  meter : Meter
  log : List GatewayLogRow

inductive GatewayAction
  | arrive (row : GatewayLogRow)
  | meter (action : MeterAction)

namespace Gateway

/-- The meter before its first run, and a gateway that has seen nothing. -/
def initial (now : String) : Gateway where
  meter := Meter.initial now
  log := []

/-- A row may arrive when its timestamp is not before an earlier one. -/
def mayArrive (gateway : Gateway) (row : GatewayLogRow) : Bool :=
  isoUtc (stamp row) ∧ ∀ old ∈ gateway.log, stamp old ≤ stamp row

/-- A page that is handed over is the one asked for. The gateway may fail to hand it over. -/
def answers (gateway : Gateway) : MeterAction → Bool
  | .run index (.list (.ok rows)) =>
      match gateway.meter.runs index with
      | .paging start _ _ number =>
          rows = listRows gateway.log start.watermarkBefore number maxPerPage
      | _ => true
  | _ => true

/-- A row arrives, or the meter takes a step with a true answer. -/
def step (gateway : Gateway) : GatewayAction → Option Gateway
  | .arrive row =>
      if gateway.mayArrive row then
        some { gateway with log := gateway.log ++ [row] }
      else
        none
  | .meter action =>
      if gateway.answers action then
        (gateway.meter.step action).map fun meter => { gateway with meter := meter }
      else
        none

/-- The stored cursor. -/
def watermark (gateway : Gateway) : Option String :=
  gateway.meter.db.watermark

end Gateway

/-- Every usable row of a second before the cursor's is stored, and the cursor is the
timestamp of a row.
-/
def Frontier (log : List GatewayLogRow) (db : LlmSpendDb) (cursor : Option String) : Prop :=
  ∀ instant, cursor = some instant →
    (∃ row ∈ log, stamp row = instant)
    ∧ ∀ row ∈ log, ∀ event, parseLogRow row = some event
        → second (stamp row) < second instant → Holds db event

/-- The cursor a run started from, once it has read it. -/
def RunAt.after? : RunAt → Option String
  | .cursorRead _ _ watermarkBefore => watermarkBefore
  | .prepared start | .paging start _ _ _ | .rolledUp start _ | .writing start _ _ _ _
  | .closed start _ _ _ => start.watermarkBefore
  | _ => none

/-- A result moves the cursor only to the newest row of all that the run was handed. -/
def RollupResult.Newest (result : RollupResult) (returned : List GatewayLogRow) : Prop :=
  ∀ newest, result.newWatermark = some newest →
    result.events = returned.filterMap parseLogRow
    ∧ newestOccurredAt result.events = some newest

/-- What a run was handed is a prefix of what its cursor asks for. -/
def RunAt.ReadPrefix (log : List GatewayLogRow) (returned : List GatewayLogRow) : RunAt → Prop
  | .paging start _ _ number =>
      returned <+: log.filter (passesFilter start.watermarkBefore)
      ∧ returned.length = (number - 1) * maxPerPage ∧ 1 ≤ number
  | .rolledUp start result | .writing start result _ _ _ | .closed start result _ _ =>
      returned <+: log.filter (passesFilter start.watermarkBefore)
      ∧ result.Newest returned
  | _ => True

/-- The log is in order, no cursor is past a usable row that is not stored, and every run reads
from the front.
-/
structure Gateway.Covered (gateway : Gateway) : Prop where
  sound : gateway.meter.Sound
  stamps : ∀ row ∈ gateway.log, isoUtc (stamp row)
  sorted : gateway.log.Pairwise fun first second => stamp first ≤ stamp second
  frontier : Frontier gateway.log gateway.meter.db gateway.watermark
  frontiers : ∀ index, Frontier gateway.log gateway.meter.db (gateway.meter.runs index).after?
  prefixes
    : ∀ index, (gateway.meter.runs index).ReadPrefix gateway.log (gateway.meter.returned index)

-----------------------------------------------------------------------------------------
-- Timestamps of the gateway order as texts
-----------------------------------------------------------------------------------------

/-- A text without white space is its own trim. -/
theorem trim_of_noSpace {text : String} (none : ∀ c ∈ text.toList, isJsSpace c = false)
    : trim text = text := by
  have same : trim text = String.ofList (TextParts.strip isJsSpace text.toList) := rfl
  rw [same, TextParts.strip_eq_self isJsSpace none, String.ofList_toList]

/-- A digit is no white space. -/
theorem isJsSpace_of_isDigit {c : Char} (digit : c.isDigit) : isJsSpace c = false := by
  have noSpace : ∀ code ∈ List.range' 48 10, isJsSpace (Char.ofNat code) = false := by
    decide
  have range : c.toNat ∈ List.range' 48 10 := by
    have between : 48 ≤ c.toNat ∧ c.toNat ≤ 57 := by
      simpa [Char.isDigit, UInt32.le_iff_toNat_le] using digit
    exact List.mem_range'_1.mpr ⟨between.1, by omega⟩
  rw [← Char.ofNat_toNat c]
  exact noSpace c.toNat range

/-- No character of the shape, the digits apart, is white space. -/
theorem isJsSpace_of_fitsShape {c shape : Char} (inShape : shape ∈ isoShape)
    (fits : fitsShape c shape) : isJsSpace c = false := by
  have separators : isoShape.all fun separator => separator = 'd' || !isJsSpace separator := by
    decide
  rw [fitsShape] at fits
  split at fits
  · exact isJsSpace_of_isDigit fits
  · next notDigit =>
      have separates := List.all_eq_true.mp separators shape inShape
      rw [of_decide_eq_true fits]
      simpa [notDigit] using separates

/-- Every element of a list is paired with one of a list of the same length. -/
theorem exists_mem_zip {α β : Type*} {first : List α} {other : List β}
    (sameLength : first.length = other.length) {x : α} (member : x ∈ first)
    : ∃ y, (x, y) ∈ first.zip other := by
  have whole : (first.zip other).map Prod.fst = first :=
    List.map_fst_zip (Nat.le_of_eq sameLength)
  rw [← whole] at member
  obtain ⟨pair, paired, same⟩ := List.mem_map.mp member
  exact ⟨pair.2, same ▸ paired⟩

/-- A timestamp is its own trim, and is not empty, so str keeps it. -/
theorem str_of_isoUtc {text : String} (iso : isoUtc text) : str (.text text) = some text := by
  rw [isoUtc, decide_eq_true_eq] at iso
  obtain ⟨sameLength, fits⟩ := iso
  have noSpace : ∀ c ∈ text.toList, isJsSpace c = false := by
    intro c member
    obtain ⟨shape, paired⟩ := exists_mem_zip sameLength member
    exact isJsSpace_of_fitsShape (List.of_mem_zip paired).2 (List.all_eq_true.mp fits _ paired)
  have notEmpty : text ≠ "" := by
    intro empty
    rw [empty] at sameLength
    exact absurd sameLength (by decide)
  rw [str, trim_of_noSpace noSpace, if_neg notEmpty]

/-- Cutting to the second keeps the order. -/
theorem second_le_second {first other : String} (ordered : first ≤ other)
    : second first ≤ second other := by
  rw [String.le_iff_toList_le] at ordered ⊢
  simpa only [second, String.toList_ofList] using take_le_take ordered _

/-- A row of the log is parsed with its own timestamp. -/
theorem occurredAt_eq_stamp {row : GatewayLogRow} {event : SpendEvent}
    (iso : isoUtc (stamp row)) (parsed : parseLogRow row = some event)
    : event.occurredAt = stamp row := by
  obtain ⟨_, hasTime, _⟩ := parseLogRow_eq_some parsed
  unfold stamp at iso ⊢
  cases created : row.createdAt with
  | text value =>
      rw [created] at hasTime iso
      rw [str_of_isoUtc iso] at hasTime
      exact (Option.some.inj hasTime).symm
  | _ =>
      rw [created] at hasTime
      exact absurd hasTime (Option.some_ne_none _).symm

/-- The newest timestamp of a batch is one of the batch, by induction on the batch. -/
theorem newestOccurredAt_mem {events : List SpendEvent} {newest : String}
    (isNewest : newestOccurredAt events = some newest)
    : ∃ event ∈ events, event.occurredAt = newest := by
  have found : ∀ best, newestOccurredAt events = some best
      → ∃ event ∈ events, event.occurredAt = best := by
    unfold newestOccurredAt
    refine List.foldlRecOn
      (motive := fun sofar => ∀ best, sofar = some best
        → ∃ event ∈ events, event.occurredAt = best)
      events _ (fun _ isNone => absurd isNone.symm (Option.some_ne_none _)) ?_
    intro sofar earlier event member best isBest
    cases sofar with
    | none => exact ⟨event, member, Option.some.inj isBest⟩
    | some old =>
        simp only at isBest
        split at isBest
        · exact ⟨event, member, Option.some.inj isBest⟩
        · exact earlier best isBest
  exact found newest isNewest

-----------------------------------------------------------------------------------------
-- Runs and arrivals keep the frontier
-----------------------------------------------------------------------------------------

/-- The frontier holds as more events are stored. -/
theorem Frontier.grow {log : List GatewayLogRow} {db db' : LlmSpendDb} {cursor : Option String}
    (frontier : Frontier log db cursor) (grows : ∀ event, Holds db event → Holds db' event)
    : Frontier log db' cursor := by
  intro instant isCursor
  obtain ⟨arrived, before⟩ := frontier instant isCursor
  exact ⟨arrived, fun row member event parsed less =>
    grows event (before row member event parsed less)⟩

/-- The frontier holds as rows arrive: a new row is no earlier than the cursor's own. -/
theorem Frontier.arrive {log : List GatewayLogRow} {db : LlmSpendDb} {cursor : Option String}
    {row : GatewayLogRow} (frontier : Frontier log db cursor)
    (newest : ∀ old ∈ log, stamp old ≤ stamp row)
    : Frontier (log ++ [row]) db cursor := by
  intro instant isCursor
  obtain ⟨⟨own, isOld, isOwn⟩, before⟩ := frontier instant isCursor
  refine ⟨⟨own, List.mem_append_left _ isOld, isOwn⟩, ?_⟩
  refine forall_append_singleton before ?_
  intro event parsed less
  have later := second_le_second (newest own isOld)
  rw [isOwn] at later
  exact absurd less (not_lt.mpr later)

/-- An arrival only lengthens what a cursor asks for. -/
theorem RunAt.ReadPrefix.arrive {log returned : List GatewayLogRow} {place : RunAt}
    (row : GatewayLogRow) (read : place.ReadPrefix log returned)
    : place.ReadPrefix (log ++ [row]) returned := by
  cases place with
  | paging start probe walk number => exact ⟨prefix_of_filter_append read.1, read.2⟩
  | rolledUp start result => exact ⟨prefix_of_filter_append read.1, read.2⟩
  | writing start result periodId rest written =>
      exact ⟨prefix_of_filter_append read.1, read.2⟩
  | closed start result periodId written => exact ⟨prefix_of_filter_append read.1, read.2⟩
  | _ => trivial

/-- A walk that has read a prefix goes on behind it, or ends with its newest row. -/
theorem nextPage_readPrefix {log returned : List GatewayLogRow} {start : RunStart}
    {probe : Probe} {walk : Collected} {number : Nat}
    (gathered : walk.events = returned.filterMap parseLogRow)
    (sofar : returned <+: log.filter (passesFilter start.watermarkBefore))
    (full : walk.exhausted ∨ returned.length = (number - 1) * maxPerPage) (counted : 1 ≤ number)
    : (start.nextPage probe walk number).ReadPrefix log returned := by
  unfold RunStart.nextPage
  split
  · next goesOn => exact ⟨sofar, full.resolve_left (by simpa using goesOn.1), counted⟩
  · exact ⟨sofar, fun newest isNewest => ⟨gathered, isNewest⟩⟩

/-- One true answer keeps what its run was handed a prefix, by cases on the call. -/
theorem RunStep.readPrefix {now : String} {db db' : LlmSpendDb} {place place' : RunAt}
    {call : RunCall} {log returned : List GatewayLogRow}
    (made : RunStep now db place call db' place') (custody : place.Custody db returned)
    (read : place.ReadPrefix log returned)
    (true_answer
      : ∀ start probe walk number rows, place = .paging start probe walk number
        → call = .list (.ok rows)
        → rows = listRows log start.watermarkBefore number maxPerPage)
    : place'.ReadPrefix log (returned ++ call.rows) := by
  cases made with
  | probeThrew start message =>
      change returned = [] at custody
      rw [custody]
      exact ⟨List.nil_prefix, fun newest none => absurd none (Option.some_ne_none _).symm⟩
  | probed start probe =>
      change returned = [] at custody
      rw [custody]
      exact nextPage_readPrefix rfl List.nil_prefix (.inr rfl) (Nat.le_refl 1)
  | pagingThrew start probe walk number message =>
      simp only [RunCall.rows, List.append_nil]
      exact ⟨read.1, fun newest none => absurd none (Option.some_ne_none _).symm⟩
  | listed start probe walk number rows =>
      have asked := true_answer start probe walk number rows rfl rfl
      obtain ⟨sofar, full, counted⟩ := read
      change walk.events = _ at custody
      change (start.nextPage _ _ _).ReadPrefix log (returned ++ rows)
      have extended : returned ++ rows <+: log.filter (passesFilter start.watermarkBefore) :=
        asked ▸ prefix_append_page sofar full
      refine nextPage_readPrefix (by simp [collectPage, custody]) extended ?_
        (Nat.le_add_left _ _)
      -- a page that does not end the walk is a full one
      by_cases short : rows.length < maxPerPage
      · exact .inl (decide_eq_true short)
      · refine .inr ?_
        have most : rows.length ≤ maxPerPage := by
          rw [asked, listRows, page]
          exact List.length_take_le _ _
        have exactly : rows.length = maxPerPage := by omega
        rw [List.length_append, full, exactly, Nat.add_sub_cancel, ← Nat.succ_mul]
        congr 1
        omega
  | opened start result newId free =>
      simp only [RunCall.rows, List.append_nil]
      exact read
  | wrote start result periodId rest written =>
      simp only [RunCall.rows, List.append_nil]
      exact read
  | closed start result periodId written =>
      simp only [RunCall.rows, List.append_nil]
      exact read
  | _ => trivial

/-- The cursor that a run has in hand after a call is the one it had, or the stored one. -/
theorem RunStep.after? {now : String} {db db' : LlmSpendDb} {place place' : RunAt}
    {call : RunCall} (made : RunStep now db place call db' place')
    : place'.after? = place.after? ∨ place'.after? = db.watermark ∨ place'.after? = none := by
  cases made with
  | readLlmWatermark startedAt pageCap => exact .inr (.inl rfl)
  | probed start probe =>
      refine .inl ?_
      unfold RunStart.nextPage
      split <;> rfl
  | listed start probe walk page rows =>
      refine .inl ?_
      unfold RunStart.nextPage
      split <;> rfl
  | advanced start result periodId written => exact .inr (.inr rfl)
  | _ => exact .inl rfl

/-- The stored cursor moves in the last call of a run only, to the later of the two. -/
theorem RunStep.watermark {now : String} {db db' : LlmSpendDb} {place place' : RunAt}
    {call : RunCall} (made : RunStep now db place call db' place')
    : db'.watermark = db.watermark
      ∨ ∃ start result periodId written newest,
          place = .closed start result periodId written
          ∧ result.advancesTo = some newest
          ∧ db'.watermark = some newest
          ∧ ∀ old, db.watermark = some old → old ≤ newest := by
  cases made with
  | advanced start result periodId written =>
      unfold LlmSpend.advanced
      cases moves : result.advancesTo with
      | none => exact .inl rfl
      | some newest =>
          simp only [LlmSpendDb.advanceLlmWatermark]
          cases stored : db.watermark with
          | none =>
              refine .inr ⟨start, result, periodId, written, newest, rfl, moves, rfl, ?_⟩
              exact fun old none => absurd none (Option.some_ne_none _).symm
          | some old =>
              by_cases later : old < newest
              · refine .inr ⟨start, result, periodId, written, newest, rfl, moves, ?_, ?_⟩
                · simp only [if_pos later]
                · intro other same
                  cases same
                  exact later.le
              · exact .inl (by simp only [if_neg later])
  | _ => exact .inl rfl

/-- The newest row of a run that has stored all it read is a frontier: what lies in an earlier
second was stored before the run began, or is in the prefix it read.
-/
theorem frontier_of_closed {log returned : List GatewayLogRow} {db : LlmSpendDb}
    {start : RunStart} {result : RollupResult} {periodId newest : String} {written : Nat}
    (stamps : ∀ row ∈ log, isoUtc (stamp row))
    (sorted : log.Pairwise fun first second => stamp first ≤ stamp second)
    (custody : (RunAt.closed start result periodId written).Custody db returned)
    (read : (RunAt.closed start result periodId written).ReadPrefix log returned)
    (frontier : Frontier log db start.watermarkBefore)
    (advances : result.advancesTo = some newest)
    : Frontier log db (some newest) := by
  have isNewest : result.newWatermark = some newest := by
    unfold RollupResult.advancesTo at advances
    split at advances
    · exact (Option.filter_eq_some_iff.mp advances).1
    · exact absurd advances (Option.some_ne_none _).symm
  obtain ⟨sofar, ofNewest⟩ := read
  obtain ⟨allRead, last⟩ := ofNewest newest isNewest
  obtain ⟨event, inEvents, isLast⟩ := newestOccurredAt_mem last
  rw [allRead] at inEvents
  obtain ⟨own, handed, ownParsed⟩ := List.mem_filterMap.mp inEvents
  have ownInLog := (List.mem_filter.mp (sofar.subset handed)).1
  have isOwn : stamp own = newest := by
    rw [← isLast]
    exact (occurredAt_eq_stamp (stamps own ownInLog) ownParsed).symm
  intro instant same
  cases same
  refine ⟨⟨own, ownInLog, isOwn⟩, ?_⟩
  intro row member other parsed less
  by_cases passes : passesFilter start.watermarkBefore row
  · have below : stamp row < stamp own := by
      by_contra notBelow
      rw [isOwn] at notBelow
      exact absurd less (not_lt.mpr (second_le_second (not_lt.mp notBelow)))
    have inRead := mem_prefix_of_lt (sorted.filter _) sofar handed
      (List.mem_filter.mpr ⟨member, passes⟩) below
    refine custody.2 other ?_
    rw [allRead]
    exact List.mem_filterMap.mpr ⟨row, inRead, parsed⟩
  · cases cursor : start.watermarkBefore with
    | none =>
        rw [cursor] at passes
        exact absurd rfl passes
    | some before =>
        rw [cursor] at passes frontier
        refine (frontier before rfl).2 row member other parsed ?_
        simp only [passesFilter, decide_eq_true_eq, not_or, not_le] at passes
        exact passes.2

/-- The gateway starts covered. -/
theorem Gateway.initial_covered (now : String) : (Gateway.initial now).Covered where
  sound := Meter.initial_sound now
  stamps _ member := absurd member List.not_mem_nil
  sorted := List.Pairwise.nil
  frontier _ none := absurd none (Option.some_ne_none _).symm
  frontiers _ _ none := absurd none (Option.some_ne_none _).symm
  prefixes _ := trivial

/-- An arrival keeps the gateway covered. -/
theorem Gateway.Covered.arrive {gateway : Gateway} {row : GatewayLogRow}
    (covered : gateway.Covered) (may : gateway.mayArrive row)
    : Gateway.Covered { gateway with log := gateway.log ++ [row] } := by
  rw [mayArrive, decide_eq_true_eq] at may
  obtain ⟨iso, newest⟩ := may
  refine ⟨covered.sound, forall_append_singleton covered.stamps iso, ?_,
    covered.frontier.arrive newest, fun index => (covered.frontiers index).arrive newest,
    fun index => (covered.prefixes index).arrive row⟩
  refine List.pairwise_append.mpr ⟨covered.sorted, List.pairwise_singleton _ _, ?_⟩
  intro old member new isNew
  rw [List.mem_singleton.mp isNew]
  exact newest old member

/-- A step of the meter with a true answer keeps the gateway covered. -/
theorem Gateway.Covered.meter_step {gateway : Gateway} {action : MeterAction} {meter' : Meter}
    (covered : gateway.Covered) (answered : gateway.answers action)
    (taken : gateway.meter.step action = some meter')
    : Gateway.Covered { gateway with meter := meter' } := by
  have sound' := covered.sound.step taken
  rcases Meter.step_cases taken
    with ⟨next, _, _, same⟩ | ⟨index, call, db', place', isAction, made, same⟩
  · subst same
    exact ⟨sound', covered.stamps, covered.sorted, covered.frontier, covered.frontiers,
      covered.prefixes⟩
  · subst same isAction
    have grows : ∀ event, Holds gateway.meter.db event → Holds db' event :=
      fun _ => made.holds
    refine ⟨sound', covered.stamps, covered.sorted, ?_, ?_, ?_⟩
    · rcases made.watermark
        with kept | ⟨start, result, periodId, written, newest, place, advances, moved, _⟩
      · simp only [watermark, kept]
        exact covered.frontier.grow grows
      · simp only [watermark, moved]
        have custody := covered.sound.custody index
        have read := covered.prefixes index
        have frontier := covered.frontiers index
        rw [place] at custody read frontier
        exact (frontier_of_closed covered.stamps covered.sorted custody read frontier
          advances).grow grows
    · intro other
      by_cases moved : other = index
      · simp only [moved, Function.update_self]
        rcases made.after? with same | stored | none
        · rw [same]
          exact (covered.frontiers index).grow grows
        · rw [stored]
          exact covered.frontier.grow grows
        · intro instant isCursor
          exact absurd (none.symm.trans isCursor) (Option.some_ne_none _).symm
      · simp only [Function.update_of_ne moved]
        exact (covered.frontiers other).grow grows
    · intro other
      by_cases moved : other = index
      · simp only [moved, Function.update_self]
        refine made.readPrefix (covered.sound.custody index) (covered.prefixes index) ?_
        intro start probe walk number rows place isList
        subst isList
        simpa only [answers, place, decide_eq_true_eq] using answered
      · simp only [Function.update_of_ne moved]
        exact covered.prefixes other

/-- A step of the gateway: an arrival, or a step of the meter with a true answer. -/
theorem Gateway.step_cases {gateway gateway' : Gateway} {action : GatewayAction}
    (taken : gateway.step action = some gateway')
    : (∃ row, gateway.mayArrive row ∧ gateway' = { gateway with log := gateway.log ++ [row] })
      ∨ ∃ call meter',
          gateway.answers call ∧ gateway.meter.step call = some meter'
          ∧ gateway' = { gateway with meter := meter' } := by
  cases action with
  | arrive row =>
      simp only [Gateway.step] at taken
      split at taken
      · next may =>
          cases taken
          exact .inl ⟨row, may, rfl⟩
      · exact absurd taken (Option.some_ne_none _).symm
  | meter call =>
      simp only [Gateway.step] at taken
      split at taken
      · next answered =>
          obtain ⟨meter', made, same⟩ := Option.map_eq_some_iff.mp taken
          exact .inr ⟨call, meter', answered, made, same.symm⟩
      · exact absurd taken (Option.some_ne_none _).symm

/-- Every step keeps the gateway covered. -/
theorem Gateway.Covered.step {gateway gateway' : Gateway} {action : GatewayAction}
    (covered : gateway.Covered) (taken : gateway.step action = some gateway')
    : gateway'.Covered := by
  rcases Gateway.step_cases taken with ⟨row, may, same⟩ | ⟨call, meter', answered, made, same⟩
  · exact same ▸ covered.arrive may
  · exact same ▸ covered.meter_step answered made

/-- The stored cursor of one state is no later than that of another. -/
def CursorLe (earlier later : Gateway) : Prop :=
  ∀ old, earlier.watermark = some old → ∃ new, later.watermark = some new ∧ old ≤ new

/-- No step moves the stored cursor back. -/
theorem Gateway.cursorLe_step {gateway gateway' : Gateway} {action : GatewayAction}
    (taken : gateway.step action = some gateway')
    : CursorLe gateway gateway' := by
  intro old isOld
  rcases Gateway.step_cases taken with ⟨row, _, same⟩ | ⟨call, meter', _, made, same⟩
  · exact ⟨old, same ▸ isOld, le_refl old⟩
  · subst same
    rcases Meter.step_cases made with ⟨next, _, _, same⟩ | ⟨index, call, db', place', _, step, same⟩
    · exact ⟨old, same ▸ isOld, le_refl old⟩
    · subst same
      rcases step.watermark with kept | ⟨_, _, _, _, newest, _, _, moved, later⟩
      · exact ⟨old, kept.trans isOld, le_refl old⟩
      · exact ⟨newest, moved, later old isOld⟩

/-- No run moves the stored cursor back, by induction on its steps. -/
theorem Gateway.cursorLe_of_exec {gateway later : Gateway} {actions : List GatewayAction}
    (onward : exec Gateway.step gateway actions = some later)
    : CursorLe gateway later := by
  induction actions generalizing gateway with
  | nil =>
      cases onward
      exact fun old isOld => ⟨old, isOld, le_refl old⟩
  | cons action rest ih =>
      obtain ⟨next, taken, after⟩ := exec_cons.mp onward
      intro old isOld
      obtain ⟨middle, isMiddle, first⟩ := cursorLe_step taken old isOld
      obtain ⟨new, isNew, second⟩ := ih after middle isMiddle
      exact ⟨new, isNew, first.trans second⟩

/-- In a covered gateway the stored cursor still asks for every usable row that is not stored. -/
theorem Gateway.Covered.listed {gateway : Gateway} (covered : gateway.Covered)
    {row : GatewayLogRow} {event : SpendEvent} (arrived : row ∈ gateway.log)
    (usable : parseLogRow row = some event) (unstored : ¬ Holds gateway.meter.db event)
    : ∃ number, 1 ≤ number
        ∧ row ∈ listRows gateway.log gateway.watermark number maxPerPage := by
  have passes : passesFilter gateway.watermark row := by
    cases stored : gateway.watermark with
    | none => rfl
    | some instant =>
        have before := (covered.frontier instant stored).2 row arrived event usable
        have notBefore := not_lt.mp fun less => unstored (before less)
        simpa only [passesFilter, decide_eq_true_eq] using Or.inr notBefore
  exact mem_some_page (by decide) (List.mem_filter.mpr ⟨arrived, passes⟩)

/-- The cursor never skips a row, and never moves back: in every state that arrivals and runs
reach, every arrived usable row that is not stored is on a page that the stored cursor asks
for, and the cursor of every later state is no earlier.
-/
theorem watermarkContract {now : String} {gateway : Gateway} {actions : List GatewayAction}
    (reached : exec Gateway.step (Gateway.initial now) actions = some gateway)
    : (∀ row ∈ gateway.log, ∀ event,
        parseLogRow row = some event → ¬ Holds gateway.meter.db event
        → ∃ number, 1 ≤ number
            ∧ row ∈ listRows gateway.log gateway.watermark number maxPerPage)
      ∧ ∀ more later, exec Gateway.step gateway more = some later
          → CursorLe gateway later := by
  have covered : gateway.Covered :=
    exec_preserves (fun _ _ _ before taken => Gateway.Covered.step before taken)
      (Gateway.initial_covered now) reached
  refine ⟨fun row arrived event usable unstored => covered.listed arrived usable unstored, ?_⟩
  exact fun more later onward => Gateway.cursorLe_of_exec onward

/-- A row with this id and timestamp. -/
def logRow (id createdAt : String) : GatewayLogRow where
  id := .text id
  createdAt := .text createdAt

/-- One row arrives and a run stores it; another run reads the same page, a second row of the
same second arrives, and the other run dies before its last call.
-/
def sharedSecond : List GatewayAction :=
  let first := logRow "log_1" "2026-07-10T08:00:00.100Z"
  let probe := RunCall.probe (.ok { total := some 1, oldest := none })
  let walk (index : Nat) : List RunCall :=
    [.start 200, .readLlmWatermark, .readLastPeriodEnd, probe, .list (.ok [first]),
      .openLlmRollupPeriod (if index = 0 then "llmp_0" else "llmp_1"), .writeLlmSpendEvents,
      .closeLlmRollupPeriod]
  [.arrive first]
  ++ (walk 0).map (fun call => .meter (.run 0 call))
  ++ [.meter (.run 0 .advanceLlmWatermark)]
  ++ (walk 1).map (fun call => .meter (.run 1 call))
  ++ [.arrive (logRow "log_2" "2026-07-10T08:00:00.100Z")]

/-- The second row shares the cursor's millisecond and is still asked for. -/
theorem sharedSecond_listed
    : ∃ gateway,
        exec Gateway.step (Gateway.initial "2026-07-10T09:00:00.000Z") sharedSecond
          = some gateway
        ∧ gateway.watermark = some "2026-07-10T08:00:00.100Z"
        ∧ ∃ number, 1 ≤ number
            ∧ logRow "log_2" "2026-07-10T08:00:00.100Z"
              ∈ listRows gateway.log gateway.watermark number maxPerPage := by
  obtain ⟨gateway, reached, cursor, arrived, event, usable, unstored⟩
      : ∃ gateway,
          exec Gateway.step (Gateway.initial "2026-07-10T09:00:00.000Z") sharedSecond
            = some gateway
          ∧ gateway.watermark = some "2026-07-10T08:00:00.100Z"
          ∧ logRow "log_2" "2026-07-10T08:00:00.100Z" ∈ gateway.log
          ∧ ∃ event, parseLogRow (logRow "log_2" "2026-07-10T08:00:00.100Z") = some event
            ∧ ¬ Holds gateway.meter.db event :=
    ⟨_, rfl, by decide, by decide, _, rfl, by decide⟩
  exact ⟨gateway, reached, cursor,
    (watermarkContract reached).1 _ arrived event usable unstored⟩

end ControlPlane.LlmSpend
