import ControlPlane.Credits.Ledger

/-! A balance is read by two statements, the ledger sum first, and calls can land between them.
What such a read answers is told by what those calls insert, open and close.
-/

namespace ControlPlane.Credits

open ControlPlane.Library
open ControlPlane.Store

structure Balance where
  settledMicroUsd : Int
  heldMicroUsd : Int
  availableMicroUsd : Int
  complete : Bool
  deriving DecidableEq, Repr

/-- The balance from aggregates the database already summed. -/
def balanceFromSums (settled held : Int) (complete : Bool) : Balance where
  settledMicroUsd := settled
  heldMicroUsd := held
  availableMicroUsd := settled - held
  complete := complete

/-- The balance of a read whose first SELECT runs on start and whose second one runs after the
calls between. Both sums are there, so the reader calls it complete.
-/
def readBalance (start : CreditDb) (between : List CreditCall) (tenantId : String) : Balance :=
  balanceFromSums (start.readBalanceSums tenantId).1
    ((start.after between).readBalanceSums tenantId).2 true

/-- What is available in one state. -/
def available (db : CreditDb) (tenantId : String) : Int :=
  (readBalance db [] tenantId).availableMicroUsd

/-- The answer is at most what was available in some state between the two SELECTs, these
included.
-/
def NeverOverstates (start : CreditDb) (between : List CreditCall) (tenantId : String) : Prop :=
  ∃ sofar rest, between = sofar ++ rest
    ∧ (readBalance start between tenantId).availableMicroUsd
        ≤ available (start.after sofar) tenantId

/-- The ledger row a call inserts, if it inserts one. -/
def insertedRows (db : CreditDb) : CreditCall → List LedgerRow
  | .appendLedgerRow args =>
      match db.appendLedgerRow args with
      | .ok ran => ran.2.toList
      | .error _ => []
  | .captureHold args =>
      match (afterCaptureUpdate db args).capturedHold args.holdId with
      | none => []
      | some hold =>
          match (afterCaptureUpdate db args).insertLedgerRow (args.debit hold) with
          | .ok ran => ran.2.toList
          | .error _ => []
  | _ => []

/-- The hold a call opens, if it opens one. -/
def openedHolds (db : CreditDb) : CreditCall → List HoldRow
  | .takeHold args =>
      match db.takeHold args with
      | .ok ran => ran.2.toList
      | .error _ => []
  | _ => []

/-- The open holds that a call closes, as they were. -/
def closedHolds (db : CreditDb) : CreditCall → List HoldRow
  | .captureHold args =>
      match db.captureHold args with
      | .ok _ =>
          db.holds.rows.filter fun hold => hold.id = args.holdId ∧ hold.status = .opened
      | .error _ => []
  | .releaseHold holdId _ =>
      db.holds.rows.filter fun hold => hold.id = holdId ∧ hold.status = .opened
  | .expireHolds now =>
      db.holds.rows.filter fun hold => hold.expiresAt ≤ now ∧ hold.status = .opened
  | _ => []

/-- What the calls of a run add to the ledger of a tenant. -/
def ledgerGain (tenantId : String) : CreditDb → List CreditCall → Int
  | _, [] => 0
  | db, call :: rest =>
      deltaSum tenantId (insertedRows db call) + ledgerGain tenantId (db.step call) rest

/-- What the calls of a run give back of the holds of a tenant: the holds they close, less
those they open.
-/
def holdsFreed (tenantId : String) : CreditDb → List CreditCall → Int
  | _, [] => 0
  | db, call :: rest =>
      amountSum tenantId .opened (closedHolds db call)
        - amountSum tenantId .opened (openedHolds db call)
        + holdsFreed tenantId (db.step call) rest

/-- There is a moment before which the ledger gained at least what the holds freed after it. -/
def FreedIsCovered (start : CreditDb) (between : List CreditCall) (tenantId : String) : Prop :=
  ∃ sofar rest, between = sofar ++ rest
    ∧ holdsFreed tenantId (start.after sofar) rest ≤ ledgerGain tenantId start sofar

theorem amountSum_cons (tenantId : String) (status : HoldStatus) (hold : HoldRow)
    (holds : List HoldRow)
    : amountSum tenantId status (hold :: holds)
      = (if hold.tenantId = tenantId ∧ hold.status = status then hold.amountMicroUsd else 0)
        + amountSum tenantId status holds := by
  simp only [amountSum, sum_filter_map, List.map_cons, List.sum_cons, decide_eq_true_eq]

/-- Settling takes the selected holds out of the open amount, by induction on the holds. -/
theorem amountSum_settled (tenantId : String) (which : HoldRow → Bool) {status : HoldStatus}
    (now : String) (closes : status ≠ .opened) (holds : List HoldRow)
    : amountSum tenantId .opened (holds.map (CreditDb.settle which status now).onRow)
      = amountSum tenantId .opened holds
        - amountSum tenantId .opened
            (holds.filter fun hold => which hold ∧ hold.status = .opened) := by
  induction holds with
  | nil => rfl
  | cons hold rest ih =>
      rw [List.map_cons, amountSum_cons, amountSum_cons, ih]
      by_cases selected : which hold ∧ hold.status = .opened
      · have settled : ((CreditDb.settle which status now).onRow hold).status = status := by
          simp [Sweep.onRow, CreditDb.settle, selected]
        rw [List.filter_cons_of_pos (by simpa using selected), amountSum_cons, settled]
        simp only [closes, and_false, if_false]
        omega
      · have missed : (CreditDb.settle which status now).onRow hold = hold :=
          if_neg (by simpa [CreditDb.settle] using selected)
        rw [List.filter_cons_of_neg (by simpa using selected), missed]
        omega

/-- The row that an insert returns follows the others, and a replay adds none. -/
theorem rows_insert {db next : CreditDb} {row : LedgerRow} {returned : Option LedgerRow}
    (landed : db.insertLedgerRow row = .ok (next, returned))
    : next.ledger.rows = db.ledger.rows ++ returned.toList := by
  rcases insertLedgerRow_cases db row with
    ⟨violation, rejected⟩ | ⟨replayed, _⟩ | ⟨after, added, _, rows, _⟩
  · rw [rejected] at landed
    cases landed
  · rw [replayed] at landed
    cases landed
    exact (List.append_nil _).symm
  · rw [added] at landed
    cases landed
    exact rows

/-- A call adds the row it inserts, and changes no other. -/
theorem ledger_step (db : CreditDb) (call : CreditCall)
    : (db.step call).ledger.rows = db.ledger.rows ++ insertedRows db call := by
  cases call with
  | appendLedgerRow args =>
      simp only [CreditDb.step, CreditCall.run, insertedRows]
      cases answer : db.appendLedgerRow args with
      | error violation => exact (List.append_nil _).symm
      | ok ran => exact rows_insert answer
  | takeHold args =>
      have ledger : (db.step (.takeHold args)).ledger = db.ledger := by
        rcases step_takeHold db args with same | ⟨_, kept, _⟩
        · rw [same]
        · exact kept
      rw [ledger]
      exact (List.append_nil _).symm
  | captureHold args =>
      cases selected : (afterCaptureUpdate db args).capturedHold args.holdId with
      | none =>
          rw [step_captureHold_none selected]
          simp only [insertedRows, selected]
          exact (List.append_nil _).symm
      | some hold =>
          rw [step_captureHold_some selected]
          simp only [insertedRows, selected]
          cases answer : (afterCaptureUpdate db args).insertLedgerRow (args.debit hold) with
          | error violation => exact (List.append_nil _).symm
          | ok ran =>
              have grown : ran.1.ledger.rows = _ := rows_insert answer
              exact grown
  | releaseHold holdId now => exact (List.append_nil _).symm
  | expireHolds now => exact (List.append_nil _).symm

/-- The ledger sum moves by the row that the call inserts. -/
theorem settled_step (tenantId : String) (db : CreditDb) (call : CreditCall)
    : ((db.step call).readBalanceSums tenantId).1
      = (db.readBalanceSums tenantId).1 + deltaSum tenantId (insertedRows db call) := by
  have both (rows more : List LedgerRow)
      : deltaSum tenantId (rows ++ more) = deltaSum tenantId rows + deltaSum tenantId more := by
    simp only [deltaSum, List.filter_append, List.map_append, List.sum_append]
  have moved := congrArg (deltaSum tenantId) (ledger_step db call)
  rw [both] at moved
  exact moved

/-- The ledger only grows over a run. -/
theorem ledger_after (db : CreditDb) (run : List CreditCall)
    : ∃ more, (db.after run).ledger.rows = db.ledger.rows ++ more := by
  induction run generalizing db with
  | nil => exact ⟨[], (List.append_nil _).symm⟩
  | cons call run ih =>
      obtain ⟨more, grown⟩ := ih (db.step call)
      refine ⟨insertedRows db call ++ more, ?_⟩
      rw [← List.append_assoc, ← ledger_step]
      exact grown

/-- A capture with no captured hold to debit lands. -/
theorem captureHold_none {db : CreditDb} {args : CaptureHold}
    (unselected : (afterCaptureUpdate db args).capturedHold args.holdId = none)
    : ∃ won, db.captureHold args = .ok (afterCaptureUpdate db args, won) := by
  unfold afterCaptureUpdate at unselected ⊢
  exact ⟨_, by simp only [CreditDb.captureHold, unselected]; rfl⟩

/-- A capture with a hold to debit lands when its debit does. -/
theorem captureHold_some {db : CreditDb} {args : CaptureHold} {hold : HoldRow}
    (selected : (afterCaptureUpdate db args).capturedHold args.holdId = some hold)
    : ∃ won : Bool, db.captureHold args
        = ((afterCaptureUpdate db args).insertLedgerRow (args.debit hold)).map fun ran =>
            (ran.1, won) := by
  unfold afterCaptureUpdate at selected ⊢
  exact ⟨_, by simp only [CreditDb.captureHold, selected]; rfl⟩

/-- A capture that lands closes the hold, and one that is rejected leaves it open. -/
theorem amountSum_captureHold (tenantId : String) (db : CreditDb) (args : CaptureHold)
    : amountSum tenantId .opened (db.step (.captureHold args)).holds.rows
      = amountSum tenantId .opened db.holds.rows
        - amountSum tenantId .opened (closedHolds db (.captureHold args)) := by
  have settled : amountSum tenantId .opened (afterCaptureUpdate db args).holds.rows = _ :=
    amountSum_settled tenantId _ args.now (by decide) db.holds.rows
  simp only [decide_eq_true_eq] at settled
  cases selected : (afterCaptureUpdate db args).capturedHold args.holdId with
  | none =>
      obtain ⟨won, landed⟩ := captureHold_none selected
      rw [step_captureHold_none selected, settled]
      simp only [closedHolds, landed]
  | some hold =>
      obtain ⟨won, answered⟩ := captureHold_some selected
      rw [step_captureHold_some selected]
      rcases insertLedgerRow_cases (afterCaptureUpdate db args) (args.debit hold) with
        ⟨violation, rejected⟩ | ⟨replayed, _⟩ | ⟨next, added, holds, _⟩
      · simp only [closedHolds, answered, rejected, Except.map]
        exact (Int.sub_zero _).symm
      · simp only [closedHolds, answered, replayed, Except.map]
        exact settled
      · simp only [closedHolds, answered, added, Except.map, holds]
        exact settled

/-- The open amount moves by the holds that the call opens and closes. -/
theorem held_step (tenantId : String) (db : CreditDb) (call : CreditCall)
    : ((db.step call).readBalanceSums tenantId).2
      = (db.readBalanceSums tenantId).2 + amountSum tenantId .opened (openedHolds db call)
        - amountSum tenantId .opened (closedHolds db call) := by
  change amountSum tenantId .opened (db.step call).holds.rows
    = amountSum tenantId .opened db.holds.rows + _ - _
  cases call with
  | appendLedgerRow args =>
      have holds : (db.step (.appendLedgerRow args)).holds = db.holds := by
        rcases step_appendLedgerRow db args with ⟨same, _⟩ | ⟨same, _⟩ | ⟨kept, _⟩
        · rw [same]
        · rw [same]
        · exact kept
      rw [holds]
      simp [openedHolds, closedHolds, amountSum]
  | takeHold args =>
      simp only [CreditDb.step, CreditCall.run, CreditDb.takeHold, openedHolds, closedHolds]
      rcases insertHold_cases db args.row with
        ⟨violation, rejected⟩ | replayed | ⟨next, added, holds, _⟩
      · simp [rejected, Except.map, amountSum]
      · simp [replayed, Except.map, amountSum]
      · simp only [added, Except.map, holds, amountSum_snoc, Option.toList_some, amountSum_cons]
        simp [amountSum]
  | captureHold args =>
      rw [amountSum_captureHold]
      simp [openedHolds, amountSum]
  | releaseHold holdId now =>
      have settled := amountSum_settled tenantId (fun hold => hold.id = holdId) now
        (by decide : HoldStatus.released ≠ .opened) db.holds.rows
      simp only [decide_eq_true_eq] at settled
      simp only [openedHolds, closedHolds]
      rw [show amountSum tenantId .opened [] = 0 from rfl, Int.add_zero]
      exact settled
  | expireHolds now =>
      have settled := amountSum_settled tenantId (fun hold => hold.expiresAt ≤ now) now
        (by decide : HoldStatus.expired ≠ .opened) db.holds.rows
      simp only [decide_eq_true_eq] at settled
      simp only [openedHolds, closedHolds]
      rw [show amountSum tenantId .opened [] = 0 from rfl, Int.add_zero]
      exact settled

/-- The ledger sum moves by what a run adds to it, by induction on the calls. -/
theorem settled_after (tenantId : String) (db : CreditDb) (run : List CreditCall)
    : ((db.after run).readBalanceSums tenantId).1
      = (db.readBalanceSums tenantId).1 + ledgerGain tenantId db run := by
  induction run generalizing db with
  | nil => exact (Int.add_zero _).symm
  | cons call rest ih =>
      have onward := ih (db.step call)
      rw [settled_step] at onward
      rw [ledgerGain, ← Int.add_assoc]
      exact onward

/-- The open amount moves by what a run frees of it, by induction on the calls. -/
theorem held_after (tenantId : String) (db : CreditDb) (run : List CreditCall)
    : ((db.after run).readBalanceSums tenantId).2
      = (db.readBalanceSums tenantId).2 - holdsFreed tenantId db run := by
  induction run generalizing db with
  | nil => exact (Int.sub_zero _).symm
  | cons call rest ih =>
      have onward : ((db.after (call :: rest)).readBalanceSums tenantId).2 = _ :=
        ih (db.step call)
      rw [held_step] at onward
      rw [holdsFreed]
      omega

/-- The answer stays below what was available at a moment when the ledger had gained by then
what the holds free later.
-/
theorem answer_le_available_iff (tenantId : String) (start : CreditDb)
    (sofar rest : List CreditCall)
    : (readBalance start (sofar ++ rest) tenantId).availableMicroUsd
          ≤ available (start.after sofar) tenantId
      ↔ holdsFreed tenantId (start.after sofar) rest ≤ ledgerGain tenantId start sofar := by
  have gained := settled_after tenantId start sofar
  have freed := held_after tenantId (start.after sofar) rest
  have joined : start.after (sofar ++ rest) = (start.after sofar).after rest := by
    rw [CreditDb.after, List.foldl_append]
    rfl
  rw [← joined] at freed
  simp only [available, readBalance, balanceFromSums, CreditDb.after, List.foldl_nil]
    at gained freed ⊢
  omega

/-- A balance read overstates nothing exactly when what the holds free is covered. -/
theorem neverOverstates_iff (start : CreditDb) (between : List CreditCall) (tenantId : String)
    : NeverOverstates start between tenantId ↔ FreedIsCovered start between tenantId := by
  constructor
  · intro ⟨sofar, rest, cut, bounded⟩
    subst cut
    exact ⟨sofar, rest, rfl, (answer_le_available_iff tenantId start sofar rest).mp bounded⟩
  · intro ⟨sofar, rest, cut, covered⟩
    subst cut
    exact ⟨sofar, rest, rfl, (answer_le_available_iff tenantId start sofar rest).mpr covered⟩

/-- 50 bought, 7 of them on hold. -/
def reserved : CreditDb :=
  (CreditDb.empty ["ten_1"]).after
    [.appendLedgerRow ⟨"l1", "ten_1", .purchase, 50, none, "order_1", none, none, none, "t0"⟩,
      .takeHold ⟨"h1", "ten_1", "job_1", 7, "p1", "t1", "t9"⟩]

/-- The hold is captured after the ledger was summed and before the holds are: 50 is answered,
and 43 was available all along.
-/
theorem capture_between_overstates
    : ¬ NeverOverstates reserved [.captureHold ⟨"h1", "l2", none, none, "t2"⟩] "ten_1" := by
  intro ⟨sofar, rest, cut, bounded⟩
  cases sofar with
  | nil => exact absurd bounded (by decide)
  | cons call tail =>
      obtain ⟨same, cut'⟩ := List.cons.inj cut
      obtain ⟨isEnd, _⟩ := List.append_eq_nil_iff.mp cut'.symm
      subst same
      subst isEnd
      exact absurd bounded (by decide)

end ControlPlane.Credits
