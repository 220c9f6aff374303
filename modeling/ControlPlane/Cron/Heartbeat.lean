import ControlPlane.Kek.TokenCrypto
import ControlPlane.Library.Calendar
import ControlPlane.Library.JsonText
import ControlPlane.Library.TextParts

/-! The heartbeat of the cron: the row that a tick stores, and what an operator is told of it. It is
to be red wherever the row does not vouch for a recent healthy tick.
-/

namespace ControlPlane.Cron

open ControlPlane.Kek (isTrimmed trim)
open ControlPlane.Library
open ControlPlane.Library.Calendar

-----------------------------------------------------------------------------------------
-- What a tick stores
-----------------------------------------------------------------------------------------

def CRON_TICK_INTERVAL_MS : Int := 5 * 60 * 1000

/-- Three missed ticks. -/
def CRON_STALE_AFTER_MS : Int := 3 * CRON_TICK_INTERVAL_MS

structure TickHalfRecord where
  ok : Bool
  detail : Option String := none
  deriving DecidableEq, Repr

/-- The record of every half: none can be left out. -/
structure TickHalves where
  llmMeter : TickHalfRecord
  runpodSweep : TickHalfRecord
  provisionDrive : TickHalfRecord
  deriving DecidableEq, Repr

def TickHalfRecord.toJson (record : TickHalfRecord) : Json :=
  .object
    (("ok", .bool record.ok) :: record.detail.toList.map fun detail => ("detail", .str detail))

def TickHalves.toJson (halves : TickHalves) : Json :=
  .object
    [("llm_meter", halves.llmMeter.toJson), ("runpod_sweep", halves.runpodSweep.toJson),
      ("provision_drive", halves.provisionDrive.toJson)]

/-- A meter that did not run has refused. -/
structure MeterTick where
  ran : Bool
  reason : Option String

structure SweepTick where
  ran : Bool
  errors : Nat
  reason : Option String

structure DriveTick where
  driveErrors : Nat
  drives : Nat
  tenantsSeen : Nat

/-- One tick: when it ended, and what each half returned or threw. -/
structure Tick where
  now : Int
  isDate : IsDate now
  meter : Except String MeterTick
  sweep : Except String SweepTick
  drive : Except String DriveTick

def threw (thrown : String) : TickHalfRecord where
  ok := false
  detail := some ("threw: " ++ thrown)

def Tick.llmMeter (tick : Tick) : TickHalfRecord :=
  match tick.meter with
  | .error thrown => threw thrown
  | .ok meter =>
      if meter.ran then { ok := true }
      else { ok := false, detail := some (meter.reason.getD "refused") }

def Tick.runpodSweep (tick : Tick) : TickHalfRecord :=
  match tick.sweep with
  | .error thrown => threw thrown
  | .ok sweep =>
      if sweep.ran then
        if sweep.errors = 0 then { ok := true }
        else { ok := false, detail := some (toString sweep.errors ++ " probe errors") }
      else { ok := false, detail := some (sweep.reason.getD "refused") }

def Tick.provisionDrive (tick : Tick) : TickHalfRecord :=
  match tick.drive with
  | .error thrown => threw thrown
  | .ok drive =>
      if drive.driveErrors = 0 then { ok := true }
      else
        { ok := false
          detail :=
            some
              ("drive_errors=" ++ toString drive.driveErrors ++ " drives=" ++ toString drive.drives
                ++ " tenants_seen=" ++ toString drive.tenantsSeen) }

def Tick.halves (tick : Tick) : TickHalves where
  llmMeter := tick.llmMeter
  runpodSweep := tick.runpodSweep
  provisionDrive := tick.provisionDrive

/-- TickHeartbeat. -/
def Tick.row (tick : Tick) : Json :=
  .object
    [("at", .str (toISOString tick.now)),
      ("ok", .bool (tick.llmMeter.ok && tick.runpodSweep.ok && tick.provisionDrive.ok)),
      ("halves", tick.halves.toJson)]

/-- The text that recordTickHeartbeat sets. -/
def Tick.stored (tick : Tick) : String :=
  tick.row.stringify

-----------------------------------------------------------------------------------------
-- What an operator reads
-----------------------------------------------------------------------------------------

structure CronLiveness where
  ran : Bool
  at_ : Option String
  ageSeconds : Option Int
  stale : Bool
  ok : Option Bool
  halves : Option Json
  detail : Option String

def never (detail : String) : CronLiveness where
  ran := false
  at_ := none
  ageSeconds := none
  stale := true
  ok := none
  halves := none
  detail := some detail

/-- A boolean. -/
def bool? : Json → Option Bool
  | .bool value => some value
  | _ => none

/-- What is there, where it is not null. -/
def nonNull : Option Json → Option Json
  | some .null => none
  | value => value

/-- Math.round(ms / 1000). -/
def roundedSeconds (ms : Int) : Int :=
  (ms + 500) / 1000

section

variable (platform : String → Option Int)

/-- The text and the instant of a row's timestamp, where it is readable. -/
def timestamp (row : Json) : Option (String × Int) :=
  ((row.field? "at").bind Json.text?).bind fun text =>
    (dateParse platform text).map fun instant => (text, instant)

/-- The view of a row with a readable timestamp. -/
def summarizeRow (row : Json) (text : String) (ageMs : Int) : CronLiveness :=
  let ok := (row.field? "ok").bind bool?
  let late := CRON_STALE_AFTER_MS < ageMs
  if ageMs < -CRON_TICK_INTERVAL_MS then
    { ran := true
      at_ := some text
      ageSeconds := some (roundedSeconds ageMs)
      stale := true
      ok := ok
      halves := nonNull (row.field? "halves")
      detail :=
        some "heartbeat timestamp is in the future: clock skew or a bad write, not a fresh tick" }
  else
    { ran := true
      at_ := some text
      ageSeconds := some (roundedSeconds ageMs)
      stale := late ∨ ok = some false
      ok := ok
      halves := nonNull (row.field? "halves")
      detail :=
        if late then
          some
            ("last tick is older than " ++ toString (CRON_STALE_AFTER_MS / 60000) ++ " minutes")
        else none }

/-- Turn the stored row into the operator view. An error is what is thrown. -/
def summarizeCronLiveness (raw : Option String) (nowMs : Int) : Except String CronLiveness :=
  match raw.filter fun text => trim text ≠ "" with
  | none =>
      .ok
        (never
          ("no tick has ever been recorded: the scheduled handler has not run since this "
            ++ "heartbeat was deployed"))
  | some text =>
      match Json.parse text with
      | none => .ok (never "heartbeat row is present but unparseable")
      -- the one value without properties that a text can be parsed to
      | some .null => .error "TypeError: Cannot read properties of null (reading 'at')"
      | some row =>
          match timestamp platform row with
          | none => .ok (never "heartbeat row carries no readable timestamp")
          | some (text, atMs) => .ok (summarizeRow row text (nowMs - atMs))

-----------------------------------------------------------------------------------------
-- When it is green
-----------------------------------------------------------------------------------------

/-- The row that is stored, where there is one that can be parsed. -/
def storedRow (raw : Option String) : Option Json :=
  (raw.filter fun text => trim text ≠ "").bind Json.parse

/-- A timestamp of the last three intervals, or of the next one. -/
def Recent (row : Json) (nowMs : Int) : Prop :=
  ∃ text atMs, timestamp platform row = some (text, atMs)
    ∧ nowMs - atMs ≤ CRON_STALE_AFTER_MS ∧ -CRON_TICK_INTERVAL_MS ≤ nowMs - atMs

/-- The stored value vouches for a recent healthy tick. -/
def Healthy (raw : Option String) (nowMs : Int) : Prop :=
  ∃ members, storedRow raw = some (.object members)
    ∧ Recent platform (.object members) nowMs
    ∧ (Json.object members).field? "ok" = some (.bool true)

/-- A summary is returned, and it is green for a healthy row only. -/
def GreenOnlyIfHealthy (raw : Option String) (nowMs : Int) : Prop :=
  ∃ view, summarizeCronLiveness platform raw nowMs = .ok view
    ∧ (view.stale = false → Healthy platform raw nowMs)

/-- The stored value is not null, and no recent row without a boolean for its ok. -/
def Accountable (raw : Option String) (nowMs : Int) : Prop :=
  storedRow raw ≠ some .null
  ∧ ∀ row, storedRow raw = some row → Recent platform row nowMs →
    ∃ ok, row.field? "ok" = some (.bool ok)

end

/-- Every half ran and found nothing wrong. -/
structure Tick.Succeeded (tick : Tick) : Prop where
  meter : ∃ meter, tick.meter = .ok meter ∧ meter.ran = true
  sweep : ∃ sweep, tick.sweep = .ok sweep ∧ sweep.ran = true ∧ sweep.errors = 0
  drive : ∃ drive, tick.drive = .ok drive ∧ drive.driveErrors = 0

/-- What is told of a tick when it is stored, and as long as it is recent. -/
def Tick.Told (platform : String → Option Int) (tick : Tick) : Prop :=
  ∀ nowMs, nowMs - tick.now ≤ CRON_STALE_AFTER_MS → -CRON_TICK_INTERVAL_MS ≤ nowMs - tick.now →
    ∃ view, summarizeCronLiveness platform (some tick.stored) nowMs = .ok view
      ∧ (view.ok = some true ∧ view.stale = false ↔ tick.Succeeded)

-----------------------------------------------------------------------------------------
-- What a summary is
-----------------------------------------------------------------------------------------

variable {platform : String → Option Int}

/-- A summary goes by the row that is stored: there is none, it is null, it has no timestamp, or it
has one.
-/
theorem summarize_cases (platform : String → Option Int) (raw : Option String) (nowMs : Int)
    : (storedRow raw = none
        ∧ ∃ detail, summarizeCronLiveness platform raw nowMs = .ok (never detail))
      ∨ (storedRow raw = some .null
        ∧ ∃ thrown, summarizeCronLiveness platform raw nowMs = .error thrown)
      ∨ (∃ row, storedRow raw = some row ∧ row ≠ .null ∧ timestamp platform row = none
        ∧ ∃ detail, summarizeCronLiveness platform raw nowMs = .ok (never detail))
      ∨ ∃ row text atMs, storedRow raw = some row ∧ row ≠ .null
        ∧ timestamp platform row = some (text, atMs)
        ∧ summarizeCronLiveness platform raw nowMs = .ok (summarizeRow row text (nowMs - atMs)) := by
  simp only [summarizeCronLiveness, storedRow]
  cases raw.filter fun text => trim text ≠ "" with
  | none => exact .inl ⟨rfl, _, rfl⟩
  | some text =>
      simp only [Option.bind_some]
      cases parsed : Json.parse text with
      | none => exact .inl ⟨rfl, _, rfl⟩
      | some row =>
          right
          by_cases isNull : row = .null
          · subst isNull
            exact .inl ⟨rfl, _, rfl⟩
          · right
            cases stamped : timestamp platform row with
            | none =>
                refine .inl
                  ⟨row, rfl, isNull, stamped, "heartbeat row carries no readable timestamp", ?_⟩
                cases row <;> first | exact absurd rfl isNull | simp only [stamped]
            | some stamp =>
                refine .inr ⟨row, stamp.1, stamp.2, rfl, isNull, stamped, ?_⟩
                cases row <;> first | exact absurd rfl isNull | simp only [stamped]

/-- A row is green while it is recent, as long as its ok is not false. -/
theorem summarizeRow_stale (row : Json) (text : String) (ageMs : Int)
    : (summarizeRow row text ageMs).stale = false
      ↔ (ageMs ≤ CRON_STALE_AFTER_MS ∧ -CRON_TICK_INTERVAL_MS ≤ ageMs)
        ∧ (row.field? "ok").bind bool? ≠ some false := by
  simp only [summarizeRow]
  split
  · next ahead =>
      constructor
      · intro stale
        exact nomatch stale
      · intro green
        omega
  · next notAhead =>
      simp only [decide_eq_false_iff_not, not_or, not_lt]
      constructor
      · intro ⟨notLate, notFalse⟩
        exact ⟨⟨notLate, not_lt.mp notAhead⟩, notFalse⟩
      · intro ⟨⟨notLate, _⟩, notFalse⟩
        exact ⟨notLate, notFalse⟩

/-- Only objects have fields. -/
theorem object_of_field? {row value : Json} {key : String} (found : row.field? key = some value)
    : ∃ members, row = .object members := by
  cases row with
  | object members => exact ⟨members, rfl⟩
  | null => exact nomatch found
  | bool held => exact nomatch found
  | num spelled => exact nomatch found
  | str held => exact nomatch found
  | array items => exact nomatch found

theorem object_of_timestamp {row : Json} {stamp : String × Int}
    (stamped : timestamp platform row = some stamp)
    : ∃ members, row = .object members := by
  rw [timestamp, Option.bind_eq_some_iff] at stamped
  obtain ⟨text, held, -⟩ := stamped
  obtain ⟨value, found, -⟩ := Option.bind_eq_some_iff.mp held
  exact object_of_field? found

theorem bool_of_bind {found : Option Json} {value : Bool} (isBool : found.bind bool? = some value)
    : found = some (.bool value) := by
  obtain ⟨json, isFound, read⟩ := Option.bind_eq_some_iff.mp isBool
  cases json with
  | bool held => rw [isFound, Option.some.inj read]
  | null => exact nomatch read
  | num spelled => exact nomatch read
  | str held => exact nomatch read
  | array items => exact nomatch read
  | object members => exact nomatch read

/-- A row with a timestamp is recent by that timestamp. -/
theorem recent_iff {row : Json} {text : String} {atMs nowMs : Int}
    (stamped : timestamp platform row = some (text, atMs))
    : Recent platform row nowMs
      ↔ nowMs - atMs ≤ CRON_STALE_AFTER_MS ∧ -CRON_TICK_INTERVAL_MS ≤ nowMs - atMs := by
  constructor
  · intro ⟨other, otherMs, again, inTime⟩
    obtain ⟨-, sameMs⟩ := Prod.mk.inj (Option.some.inj (stamped.symm.trans again))
    rwa [sameMs]
  · intro inTime
    exact ⟨text, atMs, stamped, inTime⟩

/-- A summary that is green is right where the stored value is accountable, and only there. -/
theorem greenOnlyIfHealthy_iff (platform : String → Option Int) (raw : Option String) (nowMs : Int)
    : GreenOnlyIfHealthy platform raw nowMs ↔ Accountable platform raw nowMs := by
  rcases summarize_cases platform raw nowMs with ⟨absent, detail, same⟩ | ⟨isNull, thrown, same⟩
    | ⟨row, isRow, notNull, unstamped, detail, same⟩
    | ⟨row, text, atMs, isRow, notNull, stamped, same⟩
  · have red : GreenOnlyIfHealthy platform raw nowMs := ⟨_, same, nofun⟩
    refine iff_of_true red ⟨?_, ?_⟩
    · rw [absent]
      exact nofun
    · intro row isRow
      exact nomatch absent.symm.trans isRow
  · constructor
    · intro ⟨view, isView, _⟩
      exact nomatch same.symm.trans isView
    · intro accountable
      exact absurd isNull accountable.1
  · have red : GreenOnlyIfHealthy platform raw nowMs := ⟨_, same, nofun⟩
    refine iff_of_true red ⟨?_, ?_⟩
    · rw [isRow]
      exact fun null => notNull (Option.some.inj null)
    · intro other isOther ⟨text, atMs, stamped, _⟩
      rw [← Option.some.inj (isRow.symm.trans isOther), unstamped] at stamped
      exact nomatch stamped
  · obtain ⟨members, isObject⟩ := object_of_timestamp stamped
    constructor
    · intro ⟨view, isView, green⟩
      refine ⟨?_, ?_⟩
      · rw [isRow]
        exact fun null => notNull (Option.some.inj null)
      · intro other isOther recent
        rw [← Option.some.inj (isRow.symm.trans isOther)] at recent ⊢
        cases read : (row.field? "ok").bind bool? with
        | some ok => exact ⟨ok, bool_of_bind read⟩
        | none =>
            have fresh := (recent_iff stamped).mp recent
            rw [← Except.ok.inj (same.symm.trans isView), summarizeRow_stale] at green
            obtain ⟨others, isOthers, -, isTrue⟩ := green ⟨fresh, by rw [read]; exact nofun⟩
            rw [Option.some.inj (isRow.symm.trans isOthers)]
            exact ⟨true, isTrue⟩
    · intro accountable
      refine ⟨_, same, ?_⟩
      rw [summarizeRow_stale]
      intro ⟨fresh, notFalse⟩
      have recent := (recent_iff stamped).mpr fresh
      obtain ⟨ok, isOk⟩ := accountable.2 row isRow recent
      rw [isObject] at isRow recent isOk notFalse
      refine ⟨members, isRow, recent, ?_⟩
      cases ok with
      | true => exact isOk
      | false => exact absurd (by rw [isOk]; rfl) notFalse

-----------------------------------------------------------------------------------------
-- What is told of a tick
-----------------------------------------------------------------------------------------

theorem reads_record (record : TickHalfRecord) : Json.Reads record.toJson := by
  apply Json.reads_object
  intro entry isEntry
  rcases List.mem_cons.mp isEntry with isOk | isDetail
  · rw [isOk]
    exact Json.reads_bool record.ok
  · obtain ⟨detail, -, same⟩ := List.mem_map.mp isDetail
    rw [← same]
    exact Json.reads_str detail

theorem reads_row (tick : Tick) : Json.Reads tick.row := by
  apply Json.reads_object
  intro entry isEntry
  simp only [List.mem_cons, List.not_mem_nil, or_false] at isEntry
  rcases isEntry with isAt | isOk | isHalves
  · rw [isAt]
    exact Json.reads_str _
  · rw [isOk]
    exact Json.reads_bool _
  · rw [isHalves]
    apply Json.reads_object
    intro half isHalf
    simp only [List.mem_cons, List.not_mem_nil, or_false] at isHalf
    rcases isHalf with isMeter | isSweep | isDrive
    · rw [isMeter]
      exact reads_record _
    · rw [isSweep]
      exact reads_record _
    · rw [isDrive]
      exact reads_record _

/-- An object that is stored is the row that is found. -/
theorem storedRow_object {entry : String × Json} {entries : List (String × Json)}
    (back : Json.Reads (.object (entry :: entries)))
    : storedRow (some (Json.object (entry :: entries)).stringify)
      = some (.object (entry :: entries)) := by
  have opens : '{' ∈ (Json.object (entry :: entries)).stringify.toList := by
    rw [Json.stringify, String.toList_ofList, Json.print]
    exact List.mem_cons_self
  have filled : trim (Json.object (entry :: entries)).stringify ≠ "" := by
    intro blank
    apply TextParts.strip_ne_nil isTrimmed opens (by decide)
    have nothing := congrArg String.toList blank
    rwa [trim, String.toList_ofList] at nothing
  rw [storedRow, Option.filter_some, if_pos (decide_eq_true filled), Option.bind_some,
    Json.parse_stringify back]

/-- A half is recorded as ok exactly if it ran and found nothing wrong. -/
theorem succeeded_iff (tick : Tick)
    : (tick.llmMeter.ok && tick.runpodSweep.ok && tick.provisionDrive.ok) = true
      ↔ tick.Succeeded := by
  have meter : tick.llmMeter.ok = true ↔ ∃ meter, tick.meter = .ok meter ∧ meter.ran = true := by
    rw [Tick.llmMeter]
    cases tick.meter with
    | error thrown => simp [threw]
    | ok meter => cases ran : meter.ran <;> simp [ran]
  have sweep : tick.runpodSweep.ok = true
      ↔ ∃ sweep, tick.sweep = .ok sweep ∧ sweep.ran = true ∧ sweep.errors = 0 := by
    rw [Tick.runpodSweep]
    cases tick.sweep with
    | error thrown => simp [threw]
    | ok sweep =>
        cases ran : sweep.ran with
        | true => by_cases clean : sweep.errors = 0 <;> simp [ran, clean]
        | false => simp [ran]
  have drive : tick.provisionDrive.ok = true
      ↔ ∃ drive, tick.drive = .ok drive ∧ drive.driveErrors = 0 := by
    rw [Tick.provisionDrive]
    cases tick.drive with
    | error thrown => simp [threw]
    | ok drive => by_cases clean : drive.driveErrors = 0 <;> simp [clean]
  rw [Bool.and_eq_true, Bool.and_eq_true, meter, sweep, drive]
  constructor
  · intro ⟨⟨meterRan, sweepRan⟩, driveRan⟩
    exact ⟨meterRan, sweepRan, driveRan⟩
  · intro succeeded
    exact ⟨⟨succeeded.meter, succeeded.sweep⟩, succeeded.drive⟩

/-- What is told of a tick is whether it succeeded. -/
theorem told (platform : String → Option Int) (tick : Tick) : tick.Told platform := by
  intro nowMs notLate notAhead
  have isRow : storedRow (some tick.stored) = some tick.row := storedRow_object (reads_row tick)
  have stamped : timestamp platform tick.row = some (toISOString tick.now, tick.now) := by
    have read := dateParse_toISOString platform (near_of_isDate tick.isDate)
    simp only [timestamp, Tick.row, Json.field?, List.reverse_cons, List.reverse_nil,
      List.nil_append, List.cons_append]
    simp [Json.text?, read]
  have okField : tick.row.field? "ok"
      = some (.bool (tick.llmMeter.ok && tick.runpodSweep.ok && tick.provisionDrive.ok)) := by
    simp [Tick.row, Json.field?]
  rcases summarize_cases platform (some tick.stored) nowMs with ⟨absent, -⟩ | ⟨isNull, -⟩
    | ⟨row, found, -, unstamped, -⟩ | ⟨row, text, atMs, found, -, again, same⟩
  · exact nomatch absent.symm.trans isRow
  · exact nomatch Option.some.inj (isNull.symm.trans isRow)
  · rw [Option.some.inj (found.symm.trans isRow), stamped] at unstamped
    exact nomatch unstamped
  · rw [Option.some.inj (found.symm.trans isRow)] at again same
    obtain ⟨-, sameMs⟩ := Prod.mk.inj (Option.some.inj (stamped.symm.trans again))
    refine ⟨_, same, ?_⟩
    have isOk : (summarizeRow tick.row text (nowMs - atMs)).ok
        = some (tick.llmMeter.ok && tick.runpodSweep.ok && tick.provisionDrive.ok) := by
      rw [summarizeRow]
      split <;> rw [okField] <;> rfl
    rw [isOk, summarizeRow_stale, okField, ← sameMs, ← succeeded_iff]
    constructor
    · intro ⟨allOk, _⟩
      exact Option.some.inj allOk
    · intro succeeded
      rw [succeeded]
      exact ⟨rfl, ⟨notLate, notAhead⟩, by decide⟩

-----------------------------------------------------------------------------------------
-- What is vouched for
-----------------------------------------------------------------------------------------

/-- A summary is green for a healthy row only, exactly if the stored value is accountable: it is not
null, and no recent row without a boolean for its ok. Of a tick that has just stored its
row, it tells whether the tick succeeded.
-/
theorem liveness_iff (platform : String → Option Int) (raw : Option String) (nowMs : Int)
    (tick : Tick)
    : (GreenOnlyIfHealthy platform raw nowMs ↔ Accountable platform raw nowMs)
      ∧ tick.Told platform :=
  ⟨greenOnlyIfHealthy_iff platform raw nowMs, told platform tick⟩

/-- A row with a timestamp and nothing else. -/
def stampOnly : Json :=
  .object [("at", .str (toISOString 0))]

/-- Nothing is returned for null, and a row with a timestamp and nothing else is green. -/
theorem stampOnly_green
    : ¬ GreenOnlyIfHealthy (fun _ => none) (some "null") 0
      ∧ ¬ GreenOnlyIfHealthy (fun _ => none) (some stampOnly.stringify) 0 := by
  rw [greenOnlyIfHealthy_iff, greenOnlyIfHealthy_iff]
  constructor
  · intro accountable
    exact accountable.1 rfl
  · intro accountable
    have isRow : storedRow (some stampOnly.stringify) = some stampOnly := by
      apply storedRow_object
      apply Json.reads_object
      intro entry isEntry
      rw [List.mem_singleton.mp isEntry]
      exact Json.reads_str _
    have read := dateParse_toISOString (fun _ => none) (@near_of_isDate 0 (by decide))
    have stamped : timestamp (fun _ => none) stampOnly = some (toISOString 0, 0) := by
      simp [timestamp, stampOnly, Json.field?, Json.text?, read]
    obtain ⟨ok, isOk⟩ := accountable.2 stampOnly isRow ((recent_iff stamped).mpr (by decide))
    exact nomatch isOk

end ControlPlane.Cron
