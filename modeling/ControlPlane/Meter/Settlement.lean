import ControlPlane.Credits.Ledger
import ControlPlane.Meter.Debit

/-! Settlement runs, interleaved at every statement. A run reads a window, decides, and appends
under a key that is derived from the period, so whoever comes second finds the row.
-/

namespace ControlPlane.Meter

open ControlPlane.Library
open ControlPlane.Store

structure BillingPeriod where
  key : String
  windowStart : String
  windowEnd : String
  deriving DecidableEq, Repr

/-- A tenant as the run lists it. -/
structure SettlementTenant where
  id : String
  slug : Option String
  deletedAt : Option String
  deriving DecidableEq, Repr

/-- A tenant whose deleted_at is falsy. -/
def SettlementTenant.live (tenant : SettlementTenant) : Bool :=
  tenant.deletedAt = none ∨ tenant.deletedAt = some ""

inductive SettleOutcome
  | debited (amountMicroUsd : Int) (idemRef ledgerRowId : String)
  | alreadySettled (idemRef ledgerRowId : String)
  | within (usedMicroUsd allowanceMicroUsd : Int)
  | unbillable (reason : String)
  deriving DecidableEq, Repr

inductive SettleTag
  | debited
  | alreadySettled
  | within
  | unbillable
  deriving DecidableEq, Repr

structure SettlementRow where
  tenantId : String
  slug : Option String
  outcome : SettleTag
  amountMicroUsd : Option Int := none
  reason : Option String := none
  deriving DecidableEq, Repr

/-- The counters of a run, and its rows. -/
structure SettlementTally where
  debited : Nat := 0
  alreadySettled : Nat := 0
  within : Nat := 0
  unbillable : Nat := 0
  totalDebitedMicroUsd : Int := 0
  rows : List SettlementRow := []
  deriving DecidableEq, Repr

/-- Count an outcome and add its row. -/
def SettlementTally.record (tally : SettlementTally) (tenant : SettlementTenant)
    : SettleOutcome → SettlementTally
  | .debited amount _ _ =>
      { tally with
        debited := tally.debited + 1
        totalDebitedMicroUsd := tally.totalDebitedMicroUsd + amount
        rows :=
          tally.rows
            ++ [{ tenantId := tenant.id, slug := tenant.slug, outcome := .debited,
                  amountMicroUsd := some amount }] }
  | .alreadySettled _ _ =>
      { tally with
        alreadySettled := tally.alreadySettled + 1
        rows :=
          tally.rows
            ++ [{ tenantId := tenant.id, slug := tenant.slug, outcome := .alreadySettled }] }
  | .within _ _ =>
      { tally with
        within := tally.within + 1
        rows :=
          tally.rows ++ [{ tenantId := tenant.id, slug := tenant.slug, outcome := .within }] }
  | .unbillable reason =>
      { tally with
        unbillable := tally.unbillable + 1
        rows :=
          tally.rows
            ++ [{ tenantId := tenant.id, slug := tenant.slug, outcome := .unbillable,
                  reason := some reason }] }

structure SettlementReport where
  meter : MeterClass
  periodKey : String
  windowStart : String
  windowEnd : String
  censusComplete : Bool
  considered : Nat
  debited : Nat
  alreadySettled : Nat
  within : Nat
  unbillable : Nat
  totalDebitedMicroUsd : Int
  rows : List SettlementRow
  deriving DecidableEq, Repr

-----------------------------------------------------------------------------------------
-- Settlement runs, interleaved at every statement
-----------------------------------------------------------------------------------------

/-- Where a run is with its tenant: about to read the window, to append the debit, or to look up
the row that the debit ran into.
-/
inductive SettlePhase
  | reading
  | appending (window : MeterWindow) (usedMicroUsd : JsNumber) (amountMicroUsd : Int)
      (args : AppendLedgerRow)
  | rereading (args : AppendLedgerRow)
  deriving DecidableEq, Repr

/-- A run of runLlmSettlement between two statements, and the rows it has written. -/
structure SettlementRun where
  period : BillingPeriod
  allowanceMicroUsd : Option JsNumber
  censusComplete : Bool
  considered : Nat
  todo : List SettlementTenant
  phase : SettlePhase := .reading
  tally : SettlementTally := {}
  wrote : List LedgerRow := []
  deriving DecidableEq, Repr

/-- A row that a run wrote, with the window and the usage it had read. -/
structure Charge where
  worker : Nat
  period : BillingPeriod
  allowanceMicroUsd : Option JsNumber
  window : MeterWindow
  usedMicroUsd : JsNumber
  row : LedgerRow
  deriving DecidableEq, Repr

/-- The database, the runs under way, and what has been charged and reported. -/
structure SettlementState where
  db : CreditDb
  runs : Nat → Option SettlementRun
  charges : List Charge
  reports : List (SettlementReport × List LedgerRow)

inductive SettlementAction
  | start (worker : Nat) (tenants : List SettlementTenant) (censusComplete : Bool)
      (allowanceMicroUsd : Option JsNumber) (period : BillingPeriod)
  | read (worker : Nat) (answer : Except String (MeterWindow × JsNumber)) (newId now : String)
  | append (worker : Nat) (message : String)
  | reread (worker : Nat) (thrown : Option String)
  | finish (worker : Nat)
  | stop (worker : Nat)

/-- String.prototype.slice(0, units): characters past the basic plane are two units long. -/
def sliceUnits : Nat → List Char → List Char
  | _, [] => []
  | units, c :: rest =>
      let width := if c.toNat < 0x10000 then 1 else 2
      if width ≤ units then c :: sliceUnits (units - width) rest else []

/-- What a throw is recorded as. -/
def threw (message : String) : SettleOutcome :=
  .unbillable ("settlement threw for this tenant: "
    ++ String.ofList (sliceUnits 200 message.toList))

/-- The row that a debit is written as. -/
def overageRow (tenantId newId now : String) (amountMicroUsd costMicroUsd : Int)
    (idemRef note : String)
    : AppendLedgerRow where
  id := newId
  tenantId := tenantId
  kind := .debit
  deltaMicroUsd := -amountMicroUsd
  costMicroUsd := some costMicroUsd
  idemRef := idemRef
  priceListId := none
  externalRef := none
  note := some note
  now := now

/-- The run with the outcome of its tenant recorded, about to read the next one's window. -/
def SettlementRun.settled (run : SettlementRun) (tenant : SettlementTenant)
    (rest : List SettlementTenant) (outcome : SettleOutcome)
    : SettlementRun :=
  { run with todo := rest, phase := .reading, tally := run.tally.record tenant outcome }

/-- What a run does with the window it read: a debit is left to append, and everything else is
settled.
-/
def SettlementRun.decided (run : SettlementRun) (tenant : SettlementTenant)
    (rest : List SettlementTenant) (window : MeterWindow) (usedMicroUsd : JsNumber)
    (newId now : String)
    : SettlementRun :=
  match decideOverageDebit .llm window usedMicroUsd run.allowanceMicroUsd run.period.key with
  | .unbillable reason => run.settled tenant rest (.unbillable reason)
  | .within used allowance _ => run.settled tenant rest (.within used allowance)
  | .debit amount cost idemRef note =>
      { run with
        phase :=
          .appending window usedMicroUsd amount
            (overageRow tenant.id newId now amount cost idemRef note) }

/-- The report of a run that has no tenant left. -/
def SettlementRun.report (run : SettlementRun) : SettlementReport where
  meter := .llm
  periodKey := run.period.key
  windowStart := run.period.windowStart
  windowEnd := run.period.windowEnd
  censusComplete := run.censusComplete
  considered := run.considered
  debited := run.tally.debited
  alreadySettled := run.tally.alreadySettled
  within := run.tally.within
  unbillable := run.tally.unbillable
  totalDebitedMicroUsd := run.tally.totalDebitedMicroUsd
  rows := run.tally.rows

namespace SettlementState

def setRun (state : SettlementState) (worker : Nat) (entry : Option SettlementRun)
    : SettlementState :=
  { state with runs := Function.update state.runs worker entry }

/-- The INSERT of a debit. It is rejected, or returns the new row, or ran into an old one. -/
def appendDebit (state : SettlementState) (worker : Nat) (run : SettlementRun)
    (tenant : SettlementTenant) (rest : List SettlementTenant) (window : MeterWindow)
    (usedMicroUsd : JsNumber) (amountMicroUsd : Int) (args : AppendLedgerRow) (message : String)
    : SettlementState :=
  match state.db.appendLedgerRow args with
  | .error _ => state.setRun worker (some (run.settled tenant rest (threw message)))
  | .ok (next, none) =>
      { state with
        db := next
        runs := Function.update state.runs worker (some { run with phase := .rereading args }) }
  | .ok (next, some row) =>
      { state with
        db := next
        runs :=
          Function.update state.runs worker
            (some
              { run.settled tenant rest (.debited amountMicroUsd args.idemRef row.id) with
                wrote := run.wrote ++ [row] })
        charges :=
          state.charges
            ++ [{ worker, period := run.period, allowanceMicroUsd := run.allowanceMicroUsd,
                  window, usedMicroUsd, row }] }

/-- The SELECT after a conflict. A read can throw, and one that finds nothing throws as well. -/
def rereadOutcome (state : SettlementState) (args : AppendLedgerRow) : Option String → SettleOutcome
  | some message => threw message
  | none =>
      match state.db.existingLedgerRow args with
      | some row => .alreadySettled args.idemRef row.id
      | none => threw "appendLedgerRow: conflict but no existing row"

/-- One statement of one run. -/
def step (state : SettlementState) : SettlementAction → Option SettlementState
  | .start worker tenants censusComplete allowanceMicroUsd period =>
      let live := tenants.filter SettlementTenant.live
      match state.runs worker with
      | some _ => none
      | none =>
          some
            (state.setRun worker
              (some
                { period, allowanceMicroUsd, censusComplete, considered := live.length,
                  todo := live }))
  | .read worker answer newId now =>
      match state.runs worker with
      | none => none
      | some run =>
          match run.phase, run.todo with
          | .reading, tenant :: rest =>
              match answer with
              | .error message =>
                  some (state.setRun worker (some (run.settled tenant rest (threw message))))
              | .ok (window, usedMicroUsd) =>
                  some
                    (state.setRun worker
                      (some (run.decided tenant rest window usedMicroUsd newId now)))
          | _, _ => none
  | .append worker message =>
      match state.runs worker with
      | none => none
      | some run =>
          match run.phase, run.todo with
          | .appending window usedMicroUsd amount args, tenant :: rest =>
              some
                (state.appendDebit worker run tenant rest window usedMicroUsd amount args message)
          | _, _ => none
  | .reread worker thrown =>
      match state.runs worker with
      | none => none
      | some run =>
          match run.phase, run.todo with
          | .rereading args, tenant :: rest =>
              some
                (state.setRun worker
                  (some (run.settled tenant rest (state.rereadOutcome args thrown))))
          | _, _ => none
  | .finish worker =>
      match state.runs worker with
      | none => none
      | some run =>
          match run.todo with
          | [] =>
              some
                { state with
                  runs := Function.update state.runs worker none
                  reports := state.reports ++ [(run.report, run.wrote)] }
          | _ :: _ => none
  | .stop worker => some (state.setRun worker none)

/-- No run under way, and nothing charged. -/
def initial (db : CreditDb) : SettlementState where
  db := db
  runs _ := none
  charges := []
  reports := []

end SettlementState

-----------------------------------------------------------------------------------------
-- What a charge and a report have to show
-----------------------------------------------------------------------------------------

/-- The row is the debit of an overage of the window and the usage that were read. -/
structure JustifiedDebit (period : BillingPeriod) (allowanceMicroUsd : Option JsNumber)
    (window : MeterWindow) (usedMicroUsd : JsNumber) (row : LedgerRow)
    : Prop where
  kind : row.kind = .debit
  overage
    : ∃ cost, row.costMicroUsd = some cost
        ∧ Overage .llm window usedMicroUsd allowanceMicroUsd period.key (-row.deltaMicroUsd) cost
            row.idemRef

def Charge.Justified (charge : Charge) : Prop :=
  JustifiedDebit charge.period charge.allowanceMicroUsd charge.window charge.usedMicroUsd
    charge.row

/-- What the rows of a run took from balances. -/
def chargedSum (rows : List LedgerRow) : Int :=
  (rows.map fun row => -row.deltaMicroUsd).sum

/-- The figures of a report add up, and its total is what the run itself wrote. -/
structure ReportAddsUp (report : SettlementReport) (wrote : List LedgerRow) : Prop where
  outcomes
    : report.considered
      = report.debited + report.alreadySettled + report.within + report.unbillable
  rows : report.rows.length = report.considered
  total : report.totalDebitedMicroUsd = chargedSum wrote

/-- One charge at most for a tenant and a period, each from an overage that the run that wrote it
had read in full, and reports that add up.
-/
structure OverageContract (start : CreditDb) (state : SettlementState) : Prop where
  onePerPeriod
    : ∀ tenantId key, (state.db.ledger.rows.filter fun row =>
        row.tenantId = tenantId ∧ row.idemRef = overageIdemRef .llm key).length ≤ 1
  charged
    : ∀ row ∈ state.db.ledger.rows, row ∈ start.ledger.rows
        ∨ ∃ charge ∈ state.charges, charge.row = row ∧ charge.Justified
  reports
    : ∀ finished ∈ state.reports, ReportAddsUp finished.1 finished.2
        ∧ ∀ row ∈ finished.2, row ∈ state.db.ledger.rows
            ∧ ∃ charge ∈ state.charges, charge.row = row

/-- What carries a run to its report. -/
structure RunSound (run : SettlementRun) : Prop where
  covers : run.tally.rows.length + run.todo.length = run.considered
  counts
    : run.tally.rows.length
      = run.tally.debited + run.tally.alreadySettled + run.tally.within + run.tally.unbillable
  total : run.tally.totalDebitedMicroUsd = chargedSum run.wrote
  appending
    : ∀ window usedMicroUsd amount args, run.phase = .appending window usedMicroUsd amount args
      → args.deltaMicroUsd = -amount
        ∧ JustifiedDebit run.period run.allowanceMicroUsd window usedMicroUsd args.row

/-- What an outcome adds to the total. -/
def SettleOutcome.charge : SettleOutcome → Int
  | .debited amount _ _ => amount
  | .alreadySettled _ _ | .within _ _ | .unbillable _ => 0

/-- Recording an outcome adds one row, counts it once and adds its charge. -/
theorem record_spec (tally : SettlementTally) (tenant : SettlementTenant) (outcome : SettleOutcome)
    : (tally.record tenant outcome).rows.length = tally.rows.length + 1
      ∧ (tally.record tenant outcome).debited + (tally.record tenant outcome).alreadySettled
            + (tally.record tenant outcome).within + (tally.record tenant outcome).unbillable
          = tally.debited + tally.alreadySettled + tally.within + tally.unbillable + 1
      ∧ (tally.record tenant outcome).totalDebitedMicroUsd
          = tally.totalDebitedMicroUsd + outcome.charge := by
  cases outcome with
  | debited amount idemRef ledgerRowId =>
      refine ⟨List.length_append, ?_, rfl⟩
      simp only [SettlementTally.record]
      omega
  | alreadySettled idemRef ledgerRowId =>
      refine ⟨List.length_append, ?_, (Int.add_zero _).symm⟩
      simp only [SettlementTally.record]
      omega
  | within used allowance =>
      refine ⟨List.length_append, ?_, (Int.add_zero _).symm⟩
      simp only [SettlementTally.record]
      omega
  | unbillable reason => exact ⟨List.length_append, rfl, (Int.add_zero _).symm⟩

variable {run : SettlementRun} {tenant : SettlementTenant} {rest : List SettlementTenant}

/-- A run stays sound when it records an outcome with the rows that it wrote for it. -/
theorem RunSound.recorded (sound : RunSound run) (onTenant : run.todo = tenant :: rest)
    (outcome : SettleOutcome) (wrote : List LedgerRow)
    (paid : chargedSum wrote = chargedSum run.wrote + outcome.charge)
    : RunSound { run.settled tenant rest outcome with wrote := wrote } where
  covers := by
    have covers := sound.covers
    rw [onTenant, List.length_cons] at covers
    have added := (record_spec run.tally tenant outcome).1
    simp only [SettlementRun.settled]
    omega
  counts := by
    obtain ⟨added, counted, _⟩ := record_spec run.tally tenant outcome
    have counts := sound.counts
    simp only [SettlementRun.settled]
    omega
  total := by
    have added := (record_spec run.tally tenant outcome).2.2
    rw [sound.total, ← paid] at added
    exact added
  appending := by
    intro window usedMicroUsd amount args isPhase
    cases isPhase

/-- A run stays sound when it records an outcome that writes nothing. -/
theorem RunSound.settled (sound : RunSound run) (onTenant : run.todo = tenant :: rest)
    {outcome : SettleOutcome} (free : outcome.charge = 0)
    : RunSound (run.settled tenant rest outcome) :=
  sound.recorded onTenant outcome run.wrote (by rw [free, Int.add_zero])

/-- A run stays sound when it decides on the window it read: a debit is an overage. -/
theorem RunSound.decided (sound : RunSound run) (onTenant : run.todo = tenant :: rest)
    (window : MeterWindow) (usedMicroUsd : JsNumber) (newId now : String)
    : RunSound (run.decided tenant rest window usedMicroUsd newId now) := by
  cases decision : decideOverageDebit .llm window usedMicroUsd run.allowanceMicroUsd
      run.period.key with
  | unbillable reason =>
      simp only [SettlementRun.decided, decision]
      exact sound.settled onTenant rfl
  | within used allowance note =>
      simp only [SettlementRun.decided, decision]
      exact sound.settled onTenant rfl
  | debit amount cost idemRef note =>
      simp only [SettlementRun.decided, decision]
      refine ⟨sound.covers, sound.counts, sound.total, ?_⟩
      intro readWindow readUsage owed args isPhase
      cases isPhase
      have overage := overage_of_debit decision
      refine ⟨rfl, rfl, cost, rfl, ?_⟩
      simpa [overageRow, AppendLedgerRow.row] using overage

/-- Deciding writes nothing. -/
theorem decided_wrote (run : SettlementRun) (tenant : SettlementTenant)
    (rest : List SettlementTenant) (window : MeterWindow) (usedMicroUsd : JsNumber)
    (newId now : String)
    : (run.decided tenant rest window usedMicroUsd newId now).wrote = run.wrote := by
  unfold SettlementRun.decided
  split <;> rfl

/-- What the SELECT after a conflict finds is no new charge. -/
theorem rereadOutcome_free (state : SettlementState) (args : AppendLedgerRow)
    (thrown : Option String)
    : (state.rereadOutcome args thrown).charge = 0 := by
  unfold SettlementState.rereadOutcome
  split
  · rfl
  · split <;> rfl

-----------------------------------------------------------------------------------------
-- Every charge stands in the ledger under its own key
-----------------------------------------------------------------------------------------

/-- The row is in the ledger, and is charged. -/
def Recorded (state : SettlementState) (row : LedgerRow) : Prop :=
  row ∈ state.db.ledger.rows ∧ ∃ charge ∈ state.charges, charge.row = row

/-- What carries the ledger and the runs through a run of statements. -/
structure SettlementSound (start : CreditDb) (state : SettlementState) : Prop where
  runs
    : ∀ worker run, state.runs worker = some run
      → RunSound run ∧ ∀ row ∈ run.wrote, Recorded state row
  charges : ∀ charge ∈ state.charges, charge.Justified
  ledger
    : ∀ row ∈ state.db.ledger.rows, row ∈ start.ledger.rows
        ∨ ∃ charge ∈ state.charges, charge.row = row
  reports
    : ∀ finished ∈ state.reports, ReportAddsUp finished.1 finished.2
        ∧ ∀ row ∈ finished.2, Recorded state row

variable {start : CreditDb} {state next : SettlementState} {worker : Nat}

/-- Replacing one run by a sound one that wrote what it says keeps all sound. -/
theorem SettlementSound.setRun (sound : SettlementSound start state) (worker : Nat)
    {entry : Option SettlementRun}
    (replaced
      : ∀ run, entry = some run → RunSound run ∧ ∀ row ∈ run.wrote, Recorded state row)
    : SettlementSound start (state.setRun worker entry) where
  runs := by
    intro other run holds
    rcases held_update_cases holds with isNew | before
    · exact replaced run isNew
    · exact sound.runs other run before
  charges := sound.charges
  ledger := sound.ledger
  reports := sound.reports

theorem noRun (run : SettlementRun) (isNone : none = some run)
    : RunSound run ∧ ∀ row ∈ run.wrote, Recorded state row := by
  cases isNone

/-- A run that settles its tenant without a charge keeps all sound. -/
theorem SettlementSound.settle (sound : SettlementSound start state)
    (holds : state.runs worker = some run) (onTenant : run.todo = tenant :: rest)
    {outcome : SettleOutcome} (free : outcome.charge = 0)
    : SettlementSound start (state.setRun worker (some (run.settled tenant rest outcome))) := by
  obtain ⟨runSound, wrote⟩ := sound.runs worker run holds
  refine sound.setRun worker fun later isNew => ?_
  cases isNew
  exact ⟨runSound.settled onTenant free, wrote⟩

/-- The INSERT of a justified debit keeps all sound: a new row is charged to its run, and an old
one is left for the SELECT to find.
-/
theorem SettlementSound.appendDebit (sound : SettlementSound start state)
    (holds : state.runs worker = some run) (onTenant : run.todo = tenant :: rest)
    {window : MeterWindow} {usedMicroUsd : JsNumber} {amount : Int} {args : AppendLedgerRow}
    (isPhase : run.phase = .appending window usedMicroUsd amount args) (message : String)
    : SettlementSound start
        (state.appendDebit worker run tenant rest window usedMicroUsd amount args message) := by
  obtain ⟨runSound, wrote⟩ := sound.runs worker run holds
  obtain ⟨delta, justified⟩ := runSound.appending window usedMicroUsd amount args isPhase
  rcases Credits.insertLedgerRow_cases state.db args.row with
    ⟨violation, rejected⟩ | ⟨replayed, _⟩ | ⟨db, added, _, rows, _⟩
  · simp only [SettlementState.appendDebit, CreditDb.appendLedgerRow, rejected]
    exact sound.settle holds onTenant rfl
  · simp only [SettlementState.appendDebit, CreditDb.appendLedgerRow, replayed]
    refine sound.setRun worker fun later isNew => ?_
    cases isNew
    refine ⟨⟨runSound.covers, runSound.counts, runSound.total, ?_⟩, wrote⟩
    intro _ _ _ _ isAppending
    cases isAppending
  · simp only [SettlementState.appendDebit, CreditDb.appendLedgerRow, added]
    have inLedger : args.row ∈ db.ledger.rows := by simp [rows]
    have grown : ∀ row, row ∈ state.db.ledger.rows → row ∈ db.ledger.rows := by
      intro row earlier
      rw [rows]
      exact List.mem_append_left _ earlier
    refine ⟨?_, ?_, ?_, ?_⟩
    · intro other later holdsLater
      rcases held_update_cases holdsLater with isNew | before
      · cases isNew
        refine ⟨runSound.recorded onTenant _ _ ?_, ?_⟩
        · have owed : -args.row.deltaMicroUsd = amount := by
            rw [AppendLedgerRow.row, delta, Int.neg_neg]
          simp [chargedSum, SettleOutcome.charge, owed]
        · intro row member
          rcases List.mem_append.mp member with earlier | isRow
          · obtain ⟨present, charge, charged, same⟩ := wrote row earlier
            exact ⟨grown row present, charge, List.mem_append_left _ charged, same⟩
          · rw [List.mem_singleton.mp isRow]
            exact ⟨inLedger, _, List.mem_append_right _ (List.mem_singleton_self _), rfl⟩
      · obtain ⟨otherSound, otherWrote⟩ := sound.runs other later before
        refine ⟨otherSound, fun row member => ?_⟩
        obtain ⟨present, charge, charged, same⟩ := otherWrote row member
        exact ⟨grown row present, charge, List.mem_append_left _ charged, same⟩
    · intro charge member
      rcases List.mem_append.mp member with earlier | isNew
      · exact sound.charges charge earlier
      · rw [List.mem_singleton.mp isNew]
        exact justified
    · intro row member
      rw [rows] at member
      rcases List.mem_append.mp member with earlier | isRow
      · rcases sound.ledger row earlier with before | ⟨charge, charged, same⟩
        · exact .inl before
        · exact .inr ⟨charge, List.mem_append_left _ charged, same⟩
      · rw [List.mem_singleton.mp isRow]
        exact .inr ⟨_, List.mem_append_right _ (List.mem_singleton_self _), rfl⟩
    · intro finished member
      obtain ⟨addsUp, reported⟩ := sound.reports finished member
      refine ⟨addsUp, fun row isReported => ?_⟩
      obtain ⟨present, charge, charged, same⟩ := reported row isReported
      exact ⟨grown row present, charge, List.mem_append_left _ charged, same⟩

/-- A run with no tenant left reports figures that add up. -/
theorem RunSound.report (sound : RunSound run) (finished : run.todo = [])
    : ReportAddsUp run.report run.wrote where
  outcomes := by
    have covers := sound.covers
    have counts := sound.counts
    rw [finished, List.length_nil] at covers
    simp only [SettlementRun.report]
    omega
  rows := by
    have covers := sound.covers
    rw [finished, List.length_nil] at covers
    exact covers
  total := sound.total

/-- One statement of one run keeps all sound. -/
theorem SettlementSound.step (sound : SettlementSound start state) {action : SettlementAction}
    (taken : state.step action = some next)
    : SettlementSound start next := by
  cases action with
  | start worker tenants censusComplete allowanceMicroUsd period =>
      simp only [SettlementState.step] at taken
      split at taken
      · cases taken
      · cases taken
        refine sound.setRun worker fun run isNew => ?_
        cases isNew
        refine ⟨⟨Nat.zero_add _, rfl, rfl, fun _ _ _ _ isAppending => nomatch isAppending⟩, ?_⟩
        exact fun row member => absurd member List.not_mem_nil
  | read worker answer newId now =>
      simp only [SettlementState.step] at taken
      split at taken
      · cases taken
      · next run holds =>
          split at taken
          · next tenant rest isPhase onTenant =>
              split at taken
              · cases taken
                exact sound.settle holds onTenant rfl
              · cases taken
                obtain ⟨runSound, wrote⟩ := sound.runs worker run holds
                refine sound.setRun worker fun later isNew => ?_
                cases isNew
                refine ⟨runSound.decided onTenant _ _ newId now, ?_⟩
                rw [decided_wrote]
                exact wrote
          · cases taken
  | append worker message =>
      simp only [SettlementState.step] at taken
      split at taken
      · cases taken
      · next run holds =>
          split at taken
          · next isPhase onTenant =>
              cases taken
              exact sound.appendDebit holds onTenant isPhase message
          · cases taken
  | reread worker thrown =>
      simp only [SettlementState.step] at taken
      split at taken
      · cases taken
      · next run holds =>
          split at taken
          · next args tenant rest isPhase onTenant =>
              cases taken
              exact sound.settle holds onTenant (rereadOutcome_free state args thrown)
          · cases taken
  | finish worker =>
      simp only [SettlementState.step] at taken
      split at taken
      · cases taken
      · next run holds =>
          split at taken
          · next finished =>
              cases taken
              obtain ⟨runSound, wrote⟩ := sound.runs worker run holds
              have dropped := sound.setRun worker noRun
              refine ⟨dropped.runs, sound.charges, sound.ledger, ?_⟩
              exact forall_append_singleton sound.reports ⟨runSound.report finished, wrote⟩
          · cases taken
  | stop worker =>
      cases taken
      exact sound.setRun worker noRun

/-- All is sound in every state that a run of statements reaches. -/
theorem settlementSound_of_run {actions : List SettlementAction}
    (reached : exec SettlementState.step (.initial start) actions = some state)
    : SettlementSound start state := by
  refine exec_preserves (fun _ _ _ sound taken => SettlementSound.step sound taken) ?_ reached
  refine ⟨fun worker => noRun, ?_, fun row member => .inl member, ?_⟩
  · exact fun charge member => absurd member List.not_mem_nil
  · exact fun finished member => absurd member List.not_mem_nil

/-- The unique index lets one row of a tenant have a reference. -/
theorem one_row_of_ref (db : CreditDb) (tenantId idemRef : String)
    : (db.ledger.rows.filter fun row =>
        row.tenantId = tenantId ∧ row.idemRef = idemRef).length ≤ 1 := by
  have once := List.nodup_iff_count_le_one.mp db.ledgerRefs (tenantId, idemRef)
  rw [List.count, List.countP_map] at once
  rw [← List.countP_eq_length_filter]
  refine le_of_eq_of_le (List.countP_congr fun row _ => ?_) once
  simp [LedgerRow.ref]

/-- Interleaved settlement runs keep the contract in every state that they reach. -/
theorem overageContract (start : CreditDb) (actions : List SettlementAction)
    (state : SettlementState)
    (reached : exec SettlementState.step (.initial start) actions = some state)
    : OverageContract start state := by
  have sound := settlementSound_of_run reached
  refine ⟨fun tenantId key => one_row_of_ref state.db tenantId _, ?_, sound.reports⟩
  intro row member
  rcases sound.ledger row member with before | ⟨charge, charged, same⟩
  · exact .inl before
  · exact .inr ⟨charge, charged, same, sound.charges charge charged⟩

def july : BillingPeriod where
  key := "2026-07"
  windowStart := "2026-07-01T00:00:00.000Z"
  windowEnd := "2026-08-01T00:00:00.000Z"

def observedJuly : MeterWindow where
  windowStart := july.windowStart
  windowEnd := july.windowEnd
  complete := some true
  reason := none

/-- Two runs with two allowances both decide on a debit, and the second one finds the first. -/
def overlappingRuns : List SettlementAction :=
  [.start 0 [⟨"ten_1", none, none⟩] true (some (.integer 100)) july,
    .start 1 [⟨"ten_1", none, none⟩] true (some (.integer 50)) july,
    .read 0 (.ok (observedJuly, .integer 150)) "l1" "t1",
    .read 1 (.ok (observedJuly, .integer 150)) "l2" "t1",
    .append 0 "", .append 1 "", .reread 1 none, .finish 0, .finish 1]

theorem overlappingRuns_keepContract
    : ∃ state,
        exec SettlementState.step (.initial (CreditDb.empty ["ten_1"])) overlappingRuns
          = some state
        ∧ OverageContract (CreditDb.empty ["ten_1"]) state :=
  ⟨_, rfl, overageContract (CreditDb.empty ["ten_1"]) overlappingRuns _ rfl⟩

end ControlPlane.Meter
