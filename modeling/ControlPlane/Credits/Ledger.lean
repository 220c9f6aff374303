import ControlPlane.Library.Runs
import ControlPlane.Store.Credits

/-! Money over whole runs of the credit statements: a hold that is captured has its one
debit, any other has none, and the balance is what was appended less what was captured.
-/

namespace ControlPlane.Credits

open ControlPlane.Library
open ControlPlane.Store

-----------------------------------------------------------------------------------------
-- What a run of credit calls has to account for
-----------------------------------------------------------------------------------------

/-- The row of an append call that no constraint rejects. -/
def acceptedAppend (db : CreditDb) : CreditCall → List LedgerRow
  | .appendLedgerRow args =>
      match db.appendLedgerRow args with
      | .ok _ => [args.row]
      | .error _ => []
  | _ => []

/-- The append calls of a run that no constraint rejected, a replay being one of them. -/
def acceptedAppends (db : CreditDb) : List CreditCall → List LedgerRow
  | [] => []
  | call :: rest => acceptedAppend db call ++ acceptedAppends (db.step call) rest

/-- Keep the first row of each (tenant_id, idem_ref). -/
def firstPerRef (rows : List LedgerRow) : List LedgerRow :=
  rows.foldl
    (fun kept row => if kept.any fun old => old.ref = row.ref then kept else kept ++ [row]) []

/-- The sum of the deltas of a tenant's rows. -/
def deltaSum (tenantId : String) (rows : List LedgerRow) : Int :=
  ((rows.filter fun row => row.tenantId = tenantId).map LedgerRow.deltaMicroUsd).sum

/-- The sum of the amounts of a tenant's holds in a status. -/
def amountSum (tenantId : String) (status : HoldStatus) (holds : List HoldRow) : Int :=
  ((holds.filter fun hold => hold.tenantId = tenantId ∧ hold.status = status).map
    HoldRow.amountMicroUsd).sum

/-- The row is the debit of the hold. -/
structure DebitOf (row : LedgerRow) (hold : HoldRow) : Prop where
  idemRef : row.idemRef = hold.id
  tenantId : row.tenantId = hold.tenantId
  priceListId : row.priceListId = some hold.priceListId
  deltaMicroUsd : row.deltaMicroUsd = -hold.amountMicroUsd

/-- No append of the run names a hold the run takes. -/
def SeparateRefs (start : CreditDb) (run : List CreditCall) : Prop :=
  ∀ call ∈ run, ∀ args, call = .appendLedgerRow args
    → ∀ hold ∈ (start.after run).holds.rows, args.idemRef ≠ hold.id

/-- A debit links the hold exactly when the hold is captured, and then there is one. -/
def OneDebitPerCapture (db : CreditDb) : Prop :=
  ∀ hold ∈ db.holds.rows,
    ((∃ row ∈ db.ledger.rows, row.holdId = some hold.id) ↔ hold.status = .captured)
    ∧ (hold.status = .captured
      → ∃ row, (db.ledger.rows.filter fun row => row.holdId = some hold.id) = [row]
          ∧ DebitOf row hold)

/-- A hold that was given back or ran out stays as it is, with no debit. -/
def ClosedHoldsKept (start : CreditDb) (run : List CreditCall) : Prop :=
  ∀ sofar later, run = sofar ++ later
    → ∀ hold ∈ (start.after sofar).holds.rows,
      hold.status = .released ∨ hold.status = .expired
      → hold ∈ (start.after run).holds.rows
        ∧ ∀ row ∈ (start.after run).ledger.rows, row.holdId ≠ some hold.id

/-- The sums are what was appended, less what was captured, and what is still open. -/
def SumsAccounted (start : CreditDb) (run : List CreditCall) : Prop :=
  ∀ tenantId, (start.after run).readBalanceSums tenantId
    = (deltaSum tenantId (firstPerRef (acceptedAppends start run))
          - amountSum tenantId .captured (start.after run).holds.rows,
        amountSum tenantId .opened (start.after run).holds.rows)

/-- The hold breaks a constraint of credit_holds. -/
def HoldViolates (db : CreditDb) (hold : HoldRow) : Prop :=
  ¬ 0 < hold.amountMicroUsd
  ∨ (∃ old ∈ db.holds.rows, old.id = hold.id ∨ old.ref = hold.ref)
  ∨ hold.tenantId ∉ db.tenants

/-- The row breaks a constraint of credit_ledger. -/
def RowViolates (db : CreditDb) (row : LedgerRow) : Prop :=
  ¬ row.SignFollowsKind
  ∨ (∃ old ∈ db.ledger.rows, old.id = row.id ∨ old.ref = row.ref)
  ∨ row.tenantId ∉ db.tenants
  ∨ ∃ holdId, row.holdId = some holdId ∧ ∀ hold ∈ db.holds.rows, hold.id ≠ holdId

/-- The holds as the first half of a capture leaves them. -/
def afterCaptureUpdate (db : CreditDb) (args : CaptureHold) : CreditDb :=
  db.settleHolds (fun hold => hold.id = args.holdId) .captured args.now

/-- The INSERT of the call breaks a CHECK or a key. -/
def InsertViolates (db : CreditDb) : CreditCall → Prop
  | .appendLedgerRow args => RowViolates db args.row
  | .takeHold args => HoldViolates db args.row
  | .captureHold args =>
      ∃ hold, (afterCaptureUpdate db args).capturedHold args.holdId = some hold
        ∧ RowViolates (afterCaptureUpdate db args) (args.debit hold)
  | .releaseHold _ _ | .expireHolds _ => False

/-- A hold insert is rejected, or is a replay, or follows the holds there are. -/
theorem insertHold_cases (db : CreditDb) (hold : HoldRow)
    : (∃ violation, db.insertHold hold = .error violation)
      ∨ db.insertHold hold = .ok (db, none)
      ∨ ∃ next, db.insertHold hold = .ok (next, some hold)
          ∧ next.holds.rows = db.holds.rows ++ [hold]
          ∧ next.ledger = db.ledger
          ∧ ¬ HoldViolates db hold := by
  unfold CreditDb.insertHold
  split
  · next positive =>
      split
      · next newRef =>
          split
          · next newId =>
              split
              · next known =>
                  refine .inr (.inr ⟨_, rfl, rfl, rfl, ?_⟩)
                  intro violates
                  rcases violates with unsigned | ⟨old, member, taken⟩ | unknown
                  · exact unsigned positive
                  · exact taken.elim (newId old member) (newRef old member)
                  · exact unknown known
              · exact .inl ⟨_, rfl⟩
          · exact .inl ⟨_, rfl⟩
      · exact .inr (.inl rfl)
  · exact .inl ⟨_, rfl⟩

/-- A ledger insert is rejected, or is a replay, or follows the rows there are. -/
theorem insertLedgerRow_cases (db : CreditDb) (row : LedgerRow)
    : (∃ violation, db.insertLedgerRow row = .error violation)
      ∨ (db.insertLedgerRow row = .ok (db, none) ∧ ∃ old ∈ db.ledger.rows, old.ref = row.ref)
      ∨ ∃ next, db.insertLedgerRow row = .ok (next, some row)
          ∧ next.holds = db.holds
          ∧ next.ledger.rows = db.ledger.rows ++ [row]
          ∧ ¬ RowViolates db row := by
  unfold CreditDb.insertLedgerRow
  split
  · next signed =>
      split
      · next newRef =>
          split
          · next newId =>
              split
              · next known =>
                  refine .inr (.inr ⟨_, rfl, rfl, rfl, ?_⟩)
                  intro violates
                  rcases violates with unsigned | ⟨old, member, taken⟩ | unknown | unlinked
                  · exact unsigned signed
                  · exact taken.elim (newId old member) (newRef old member)
                  · exact unknown known.1
                  · obtain ⟨holdId, linked, missing⟩ := unlinked
                    obtain ⟨hold, member, same⟩ := known.2 holdId linked
                    exact missing hold member same
              · exact .inl ⟨_, rfl⟩
          · exact .inl ⟨_, rfl⟩
      · next taken =>
          refine .inr (.inl ⟨rfl, ?_⟩)
          simpa using taken
  · exact .inl ⟨_, rfl⟩

/-- Settling holds no row of which is selected changes nothing. -/
theorem settleHolds_eq_self {db : CreditDb} {which : HoldRow → Bool} {status : HoldStatus}
    {now : String} (missed : ∀ hold ∈ db.holds.rows, which hold → hold.status ≠ .opened)
    : db.settleHolds which status now = db := by
  have same : (CreditDb.settle which status now).apply db.holds = db.holds := by
    refine Sweep.apply_eq_self fun hold member met => ?_
    simp only [CreditDb.settle, decide_eq_true_eq] at met
    exact missed hold member met.1 met.2
  exact CreditDb.ext rfl same rfl

/-- Settling leaves every hold that is not open as it is. -/
theorem settle_closed {which : HoldRow → Bool} {status : HoldStatus} {now : String}
    {hold : HoldRow} (closed : hold.status ≠ .opened)
    : (CreditDb.settle which status now).onRow hold = hold := by
  refine if_neg ?_
  simp [CreditDb.settle, closed]

/-- What ties the two tables together, given the rows appended so far. -/
structure Accounted (appended : List LedgerRow) (db : CreditDb) : Prop where
  unlinked : (db.ledger.rows.filter fun row => row.holdId = none) = firstPerRef appended
  linked
    : ∀ row ∈ db.ledger.rows, ∀ holdId, row.holdId = some holdId
      → ∃ hold ∈ db.holds.rows, hold.id = holdId ∧ hold.status = .captured ∧ DebitOf row hold
  debited
    : ∀ hold ∈ db.holds.rows, hold.status = .captured
      → ∃ row ∈ db.ledger.rows, row.holdId = some hold.id
  balanced
    : ∀ tenantId,
        deltaSum tenantId (db.ledger.rows.filter fun row => row.holdId ≠ none)
          + amountSum tenantId .captured db.holds.rows = 0

theorem step_captureHold_none {db : CreditDb} {args : CaptureHold}
    (unselected : (afterCaptureUpdate db args).capturedHold args.holdId = none)
    : db.step (.captureHold args) = afterCaptureUpdate db args := by
  unfold afterCaptureUpdate at unselected
  simp only [CreditDb.step, CreditCall.run, CreditDb.captureHold, unselected, Except.map]
  rfl

theorem step_captureHold_some {db : CreditDb} {args : CaptureHold} {hold : HoldRow}
    (selected : (afterCaptureUpdate db args).capturedHold args.holdId = some hold)
    : db.step (.captureHold args)
      = match (afterCaptureUpdate db args).insertLedgerRow (args.debit hold) with
        | .ok ran => ran.1
        | .error _ => db := by
  unfold afterCaptureUpdate at selected
  simp only [CreditDb.step, CreditCall.run, CreditDb.captureHold, selected]
  unfold afterCaptureUpdate
  cases (db.settleHolds _ .captured args.now).insertLedgerRow (args.debit hold) with
  | ok ran => rfl
  | error violation => rfl

-----------------------------------------------------------------------------------------
-- A capture writes the one debit of its hold
-----------------------------------------------------------------------------------------

/-- Appending a row adds it to the kept ones, or finds its reference among them. -/
theorem firstPerRef_snoc (rows : List LedgerRow) (row : LedgerRow)
    : firstPerRef (rows ++ [row])
      = if (firstPerRef rows).any fun old => old.ref = row.ref then firstPerRef rows
        else firstPerRef rows ++ [row] := by
  rw [firstPerRef, List.foldl_append]
  rfl

/-- firstPerRef keeps only rows it is given, by induction on the last one. -/
theorem firstPerRef_subset {rows : List LedgerRow}
    : ∀ row ∈ firstPerRef rows, row ∈ rows := by
  induction rows using List.reverseRecOn with
  | nil => simp [firstPerRef]
  | append_singleton init last ih =>
      intro row member
      rw [firstPerRef_snoc] at member
      split at member
      · exact List.mem_append_left _ (ih row member)
      · rcases List.mem_append.mp member with earlier | added
        · exact List.mem_append_left _ (ih row earlier)
        · exact List.mem_append_right _ added

variable {appended : List LedgerRow} {db : CreditDb}

/-- While appends keep off the hold ids, a row under a hold's own reference is its debit. -/
theorem Accounted.captured_of_ref (accounted : Accounted appended db)
    (separate : ∀ row ∈ appended, ∀ hold ∈ db.holds.rows, row.idemRef ≠ hold.id)
    {row : LedgerRow} {hold : HoldRow} (inLedger : row ∈ db.ledger.rows)
    (inHolds : hold ∈ db.holds.rows) (named : row.idemRef = hold.id)
    : hold.status = .captured := by
  cases link : row.holdId with
  | none =>
      have kept : row ∈ firstPerRef appended := by
        rw [← accounted.unlinked]
        simp [inLedger, link]
      exact absurd named (separate row (firstPerRef_subset row kept) hold inHolds)
  | some holdId =>
      obtain ⟨debited, member, same, captured, debit⟩ :=
        accounted.linked row inLedger holdId link
      have sameId : debited.id = hold.id := debit.idemRef.symm.trans named
      rw [← Keyed.eq_of_key member inHolds sameId]
      exact captured

/-- The hold a capture selects: the one it names, if the update leaves that one captured. -/
theorem capturedHold_afterCapture (db : CreditDb) (args : CaptureHold)
    : (afterCaptureUpdate db args).capturedHold args.holdId
      = ((db.holds.get? args.holdId).map
          (CreditDb.settle (fun hold => hold.id = args.holdId) .captured args.now).onRow).filter
            fun hold => hold.status = .captured := by
  rw [← Sweep.get?_apply]
  rfl

/-- A capture that names no hold does nothing. -/
theorem step_captureHold_missing {args : CaptureHold}
    (found : db.holds.get? args.holdId = none)
    : db.step (.captureHold args) = db := by
  have missing : ∀ hold ∈ db.holds.rows, hold.id ≠ args.holdId := by
    intro hold member same
    have present := Keyed.get?_of_mem member
    rw [same, found] at present
    exact absurd present (Option.some_ne_none hold).symm
  have unselected : (afterCaptureUpdate db args).capturedHold args.holdId = none := by
    rw [capturedHold_afterCapture, found]
    rfl
  rw [step_captureHold_none unselected]
  refine settleHolds_eq_self fun hold member which => ?_
  exact absurd (of_decide_eq_true which) (missing hold member)

/-- A debit that repeats a captured hold's does nothing: the reference is taken. -/
theorem Accounted.debit_again (accounted : Accounted appended db) {hold : HoldRow}
    (inHolds : hold ∈ db.holds.rows) (captured : hold.status = .captured) (args : CaptureHold)
    : (match db.insertLedgerRow (args.debit hold) with
        | .ok ran => ran.1
        | .error _ => db) = db := by
  obtain ⟨row, member, link⟩ := accounted.debited hold inHolds captured
  obtain ⟨owner, inOwners, sameId, _, debit⟩ := accounted.linked row member hold.id link
  have taken : row.ref = (args.debit hold).ref := by
    rw [Keyed.eq_of_key inOwners inHolds sameId] at debit
    exact Prod.ext debit.tenantId debit.idemRef
  rcases insertLedgerRow_cases db (args.debit hold) with
    ⟨violation, rejected⟩ | ⟨replayed, _⟩ | ⟨next, _, _, _, fits⟩
  · rw [rejected]
  · rw [replayed]
  · exact absurd (.inr (.inl ⟨row, member, .inr taken⟩)) fits

/-- A capture of a hold that is no longer open does nothing. -/
theorem Accounted.step_captureHold_closed (accounted : Accounted appended db)
    {args : CaptureHold} {hold : HoldRow} (found : db.holds.get? args.holdId = some hold)
    (closed : hold.status ≠ .opened)
    : db.step (.captureHold args) = db := by
  have inHolds := Keyed.get?_mem found
  have unchanged : afterCaptureUpdate db args = db := by
    refine settleHolds_eq_self fun other member which => ?_
    have same : other.id = hold.id :=
      (of_decide_eq_true which).trans (Keyed.get?_key found).symm
    rw [Keyed.eq_of_key member inHolds same]
    exact closed
  have selection := capturedHold_afterCapture db args
  rw [found, Option.map_some, settle_closed closed] at selection
  -- a captured hold is selected again, one that was given back or ran out is not
  by_cases captured : hold.status = .captured
  · have selected : (afterCaptureUpdate db args).capturedHold args.holdId = some hold := by
      simp [selection, captured]
    rw [step_captureHold_some selected, unchanged]
    exact accounted.debit_again inHolds captured args
  · have unselected : (afterCaptureUpdate db args).capturedHold args.holdId = none := by
      simp [selection, captured]
    rw [step_captureHold_none unselected, unchanged]

/-- A capture of an open hold settles it and adds its debit, unless a constraint rejects the
debit and takes the update back with it.
-/
theorem Accounted.step_captureHold_open (accounted : Accounted appended db)
    (separate : ∀ row ∈ appended, ∀ hold ∈ db.holds.rows, row.idemRef ≠ hold.id)
    {args : CaptureHold} {hold : HoldRow} (found : db.holds.get? args.holdId = some hold)
    (isOpen : hold.status = .opened)
    : db.step (.captureHold args) = db
      ∨ ((db.step (.captureHold args)).holds
          = (CreditDb.settle (fun hold => hold.id = args.holdId) .captured args.now).apply
              db.holds
        ∧ (db.step (.captureHold args)).ledger.rows = db.ledger.rows ++ [args.debit hold]
        ∧ ¬ InsertViolates db (.captureHold args)) := by
  have inHolds := Keyed.get?_mem found
  have matched : (CreditDb.settle (fun hold => hold.id = args.holdId) .captured args.now).guard
      hold := by
    simp [CreditDb.settle, Keyed.get?_key found, isOpen]
  have selection := capturedHold_afterCapture db args
  rw [found, Option.map_some, Sweep.onRow, if_pos matched] at selection
  obtain ⟨settled, selected, sameDebit⟩
      : ∃ settled, (afterCaptureUpdate db args).capturedHold args.holdId = some settled
          ∧ args.debit settled = args.debit hold :=
    ⟨_, selection, rfl⟩
  have step := step_captureHold_some selected
  rw [sameDebit] at step
  rcases insertLedgerRow_cases (afterCaptureUpdate db args) (args.debit hold) with
    ⟨violation, rejected⟩ | ⟨replayed, old, member, taken⟩ | ⟨next, added, holds, rows, fits⟩
  · left
    rw [step, rejected]
  · -- the reference cannot be taken: appends keep off hold ids, and the hold has no debit yet
    have named : old.idemRef = hold.id := congrArg Prod.snd taken
    have captured := accounted.captured_of_ref separate member inHolds named
    rw [isOpen] at captured
    exact HoldStatus.noConfusion captured
  · right
    have became : db.step (.captureHold args) = next := by
      rw [step, added]
    refine ⟨?_, ?_, ?_⟩
    · rw [became, holds]
      rfl
    · rw [became, rows]
      rfl
    · intro violates
      obtain ⟨other, isSelected, breaks⟩ := violates
      have same : settled = other := Option.some.inj (selected.symm.trans isSelected)
      rw [← same, sameDebit] at breaks
      exact fits breaks

/-- In an accounted database a capture does nothing, or captures an open hold and adds its
debit.
-/
theorem Accounted.captureHold_cases (accounted : Accounted appended db)
    (separate : ∀ row ∈ appended, ∀ hold ∈ db.holds.rows, row.idemRef ≠ hold.id)
    (args : CaptureHold)
    : db.step (.captureHold args) = db
      ∨ ∃ hold ∈ db.holds.rows, hold.id = args.holdId
          ∧ hold.status = .opened
          ∧ (db.step (.captureHold args)).holds
            = (CreditDb.settle (fun hold => hold.id = args.holdId) .captured args.now).apply
                db.holds
          ∧ (db.step (.captureHold args)).ledger.rows
            = db.ledger.rows ++ [args.debit hold]
          ∧ ¬ InsertViolates db (.captureHold args) := by
  cases found : db.holds.get? args.holdId with
  | none => exact .inl (step_captureHold_missing found)
  | some hold =>
      by_cases isOpen : hold.status = .opened
      · rcases accounted.step_captureHold_open separate found isOpen with rejected | captured
        · exact .inl rejected
        · exact .inr
            ⟨hold, Keyed.get?_mem found, Keyed.get?_key found, isOpen, captured⟩
      · exact .inl (accounted.step_captureHold_closed found isOpen)

theorem deltaSum_snoc (tenantId : String) (rows : List LedgerRow) (row : LedgerRow)
    : deltaSum tenantId (rows ++ [row])
      = deltaSum tenantId rows
        + if row.tenantId = tenantId then row.deltaMicroUsd else 0 := by
  simp only [deltaSum, sum_filter_map, List.map_append, List.sum_append, List.map_singleton,
    List.sum_singleton, decide_eq_true_eq]

theorem amountSum_snoc (tenantId : String) (status : HoldStatus) (holds : List HoldRow)
    (hold : HoldRow)
    : amountSum tenantId status (holds ++ [hold])
      = amountSum tenantId status holds
        + if hold.tenantId = tenantId ∧ hold.status = status then hold.amountMicroUsd else 0 := by
  simp only [amountSum, sum_filter_map, List.map_append, List.sum_append, List.map_singleton,
    List.sum_singleton, decide_eq_true_eq]

-----------------------------------------------------------------------------------------
-- Each call keeps the accounts
-----------------------------------------------------------------------------------------

/-- Taking a hold opens it, and moves no money. -/
theorem Accounted.takenHold (accounted : Accounted appended db) {next : CreditDb}
    {hold : HoldRow} (isOpen : hold.status = .opened)
    (holds : next.holds.rows = db.holds.rows ++ [hold]) (ledger : next.ledger = db.ledger)
    : Accounted appended next where
  unlinked := ledger ▸ accounted.unlinked
  linked := by
    intro row member holdId link
    rw [ledger] at member
    obtain ⟨old, inHolds, same⟩ := accounted.linked row member holdId link
    exact ⟨old, holds ▸ List.mem_append_left _ inHolds, same⟩
  debited := by
    intro other member captured
    rw [ledger]
    rcases List.mem_append.mp (holds ▸ member) with earlier | added
    · exact accounted.debited other earlier captured
    · rw [List.mem_singleton.mp added, isOpen] at captured
      exact HoldStatus.noConfusion captured
  balanced := by
    intro tenantId
    rw [ledger, holds, amountSum_snoc, if_neg (by simp [isOpen])]
    simpa using accounted.balanced tenantId

/-- An appended row is unlinked, and the first of its reference. -/
theorem Accounted.appendedRow (accounted : Accounted appended db) {next : CreditDb}
    {row : LedgerRow} (unlinked : row.holdId = none)
    (newRef : ∀ old ∈ db.ledger.rows, old.ref ≠ row.ref)
    (holds : next.holds = db.holds) (rows : next.ledger.rows = db.ledger.rows ++ [row])
    : Accounted (appended ++ [row]) next where
  unlinked := by
    have first : ¬ (firstPerRef appended).any (fun old => old.ref = row.ref) := by
      rw [← accounted.unlinked]
      simp only [List.any_eq_true, List.mem_filter, decide_eq_true_eq]
      intro taken
      obtain ⟨old, member, same⟩ := taken
      exact newRef old member.1 same
    rw [rows, List.filter_append, accounted.unlinked, firstPerRef_snoc, if_neg first]
    simp [unlinked]
  linked := by
    intro other member holdId link
    rw [holds]
    rcases List.mem_append.mp (rows ▸ member) with earlier | added
    · exact accounted.linked other earlier holdId link
    · rw [List.mem_singleton.mp added, unlinked] at link
      exact absurd link (Option.some_ne_none holdId).symm
  debited := by
    intro hold member captured
    obtain ⟨debit, inLedger, link⟩ := accounted.debited hold (holds ▸ member) captured
    exact ⟨debit, rows ▸ List.mem_append_left _ inLedger, link⟩
  balanced := by
    intro tenantId
    rw [holds, rows, List.filter_append]
    simpa [unlinked] using accounted.balanced tenantId

/-- A replayed append finds the first row of its reference among the unlinked ones. -/
theorem Accounted.replayedRow (accounted : Accounted appended db) {row old : LedgerRow}
    (separate : ∀ hold ∈ db.holds.rows, row.idemRef ≠ hold.id)
    (member : old ∈ db.ledger.rows) (taken : old.ref = row.ref)
    : Accounted (appended ++ [row]) db where
  unlinked := by
    have kept : (firstPerRef appended).any (fun old => old.ref = row.ref) := by
      rw [← accounted.unlinked, List.any_eq_true]
      refine ⟨old, ?_, by simpa using taken⟩
      simp only [List.mem_filter, decide_eq_true_eq]
      refine ⟨member, ?_⟩
      cases link : old.holdId with
      | none => rfl
      | some holdId =>
          obtain ⟨hold, inHolds, _, _, debit⟩ := accounted.linked old member holdId link
          have named : row.idemRef = hold.id :=
            (congrArg Prod.snd taken).symm.trans debit.idemRef
          exact absurd named (separate hold inHolds)
    rw [firstPerRef_snoc, if_pos kept]
    exact accounted.unlinked
  linked := accounted.linked
  debited := accounted.debited
  balanced := accounted.balanced

/-- A hold that is not open is still there after holds are settled. -/
theorem mem_settled {which : HoldRow → Bool} {status : HoldStatus} {now : String}
    {hold : HoldRow} (member : hold ∈ db.holds.rows) (closed : hold.status ≠ .opened)
    : hold ∈ ((CreditDb.settle which status now).apply db.holds).rows :=
  Sweep.mem_apply.mpr ⟨hold, member, settle_closed closed⟩

/-- Capturing an open hold moves its amount into a debit. -/
theorem Accounted.capturedHold (accounted : Accounted appended db) {next : CreditDb}
    {args : CaptureHold} {hold : HoldRow} (inHolds : hold ∈ db.holds.rows)
    (keyed : hold.id = args.holdId) (isOpen : hold.status = .opened)
    (holds
      : next.holds
        = (CreditDb.settle (fun hold => hold.id = args.holdId) .captured args.now).apply db.holds)
    (rows : next.ledger.rows = db.ledger.rows ++ [args.debit hold])
    : Accounted appended next := by
  have matched : (CreditDb.settle (fun hold => hold.id = args.holdId) .captured args.now).guard
      hold := by
    simp [CreditDb.settle, keyed, isOpen]
  have only : ∀ other ∈ db.holds.rows,
      (CreditDb.settle (fun hold => hold.id = args.holdId) .captured args.now).guard other
      → other.id = hold.id := by
    intro other _ met
    simp only [CreditDb.settle, decide_eq_true_eq] at met
    exact met.1.trans keyed.symm
  refine ⟨?_, ?_, ?_, ?_⟩
  · rw [rows, List.filter_append, accounted.unlinked]
    simp [CaptureHold.debit]
  · intro row member holdId link
    rw [holds]
    rcases List.mem_append.mp (rows ▸ member) with earlier | added
    · obtain ⟨owner, inOwners, same, captured, debit⟩ :=
        accounted.linked row earlier holdId link
      have closed : owner.status ≠ .opened := by
        rw [captured]
        decide
      exact ⟨owner, mem_settled inOwners closed, same, captured, debit⟩
    · rw [List.mem_singleton] at added
      subst added
      have owner := Sweep.mem_apply.mpr ⟨hold, inHolds, if_pos matched⟩
      exact ⟨_, owner, Option.some.inj link, rfl, ⟨rfl, rfl, rfl, rfl⟩⟩
  · intro other member captured
    rw [holds] at member
    obtain ⟨old, inOld, became⟩ := Sweep.mem_apply.mp member
    rw [rows]
    by_cases met : (CreditDb.settle (fun hold => hold.id = args.holdId) .captured
        args.now).guard old
    · rw [Sweep.onRow, if_pos met] at became
      refine ⟨args.debit hold, by simp, ?_⟩
      rw [← became]
      exact congrArg some (only old inOld met).symm
    · rw [Sweep.onRow, if_neg met] at became
      subst became
      obtain ⟨debit, inLedger, link⟩ := accounted.debited old inOld captured
      exact ⟨debit, List.mem_append_left _ inLedger, link⟩
  · intro tenantId
    have moved := Sweep.sum_apply_of_one inHolds matched only fun hold =>
      if decide (hold.tenantId = tenantId ∧ hold.status = .captured) then hold.amountMicroUsd
      else 0
    have before := accounted.balanced tenantId
    rw [rows, List.filter_append, holds]
    rw [amountSum, sum_filter_map] at before ⊢
    rw [moved]
    have linked : ([args.debit hold].filter fun row => decide (row.holdId ≠ none))
        = [args.debit hold] := by
      simp [CaptureHold.debit]
    rw [linked, deltaSum_snoc]
    by_cases same : hold.tenantId = tenantId
    · simp [CaptureHold.debit, CreditDb.settle, isOpen, same] at before ⊢
      omega
    · simp [CaptureHold.debit, CreditDb.settle, isOpen, same] at before ⊢
      omega

/-- Giving holds back, or letting them run out, moves no money. -/
theorem Accounted.closedHolds (accounted : Accounted appended db) (which : HoldRow → Bool)
    {status : HoldStatus} (now : String) (closes : status ≠ .captured)
    : Accounted appended (db.settleHolds which status now) where
  unlinked := accounted.unlinked
  linked := by
    intro row member holdId link
    obtain ⟨owner, inOwners, same, captured, debit⟩ :=
      accounted.linked row member holdId link
    have closed : owner.status ≠ .opened := by
      rw [captured]
      decide
    exact ⟨owner, mem_settled inOwners closed, same, captured, debit⟩
  debited := by
    intro other member captured
    obtain ⟨old, inOld, became⟩ := Sweep.mem_apply.mp member
    by_cases met : (CreditDb.settle which status now).guard old
    · rw [Sweep.onRow, if_pos met] at became
      rw [← became] at captured
      exact absurd captured closes
    · rw [Sweep.onRow, if_neg met] at became
      subst became
      exact accounted.debited old inOld captured
  balanced := by
    intro tenantId
    have same := (CreditDb.settle which status now).map_onRow
      (fun hold => if decide (hold.tenantId = tenantId ∧ hold.status = .captured)
        then hold.amountMicroUsd else 0)
      (by
        intro hold met
        simp only [CreditDb.settle, decide_eq_true_eq] at met
        simp [CreditDb.settle, met.2, closes])
      db.holds.rows
    have before := accounted.balanced tenantId
    rw [amountSum, sum_filter_map] at before ⊢
    exact (congrArg (fun total => _ + List.sum total) same).trans before

theorem step_releaseHold (db : CreditDb) (holdId now : String)
    : db.step (.releaseHold holdId now)
      = db.settleHolds (fun hold => hold.id = holdId) .released now :=
  rfl

theorem step_expireHolds (db : CreditDb) (now : String)
    : db.step (.expireHolds now) = db.settleHolds (fun hold => hold.expiresAt ≤ now) .expired now :=
  rfl

/-- A takeHold leaves the database alone, or opens its hold within the constraints. -/
theorem step_takeHold (db : CreditDb) (args : TakeHold)
    : db.step (.takeHold args) = db
      ∨ (db.step (.takeHold args)).holds.rows = db.holds.rows ++ [args.row]
        ∧ (db.step (.takeHold args)).ledger = db.ledger
        ∧ ¬ HoldViolates db args.row := by
  rcases insertHold_cases db args.row with
    ⟨violation, rejected⟩ | replayed | ⟨next, added, holds, ledger, fits⟩
  · left
    simp only [CreditDb.step, CreditCall.run, CreditDb.takeHold, rejected, Except.map]
  · left
    simp only [CreditDb.step, CreditCall.run, CreditDb.takeHold, replayed, Except.map]
  · right
    have became : db.step (.takeHold args) = next := by
      simp only [CreditDb.step, CreditCall.run, CreditDb.takeHold, added, Except.map]
    exact ⟨became ▸ holds, became ▸ ledger, fits⟩

/-- An append is rejected, or replays a reference, or adds its row within the constraints. -/
theorem step_appendLedgerRow (db : CreditDb) (args : AppendLedgerRow)
    : (db.step (.appendLedgerRow args) = db ∧ acceptedAppend db (.appendLedgerRow args) = [])
      ∨ (db.step (.appendLedgerRow args) = db
        ∧ acceptedAppend db (.appendLedgerRow args) = [args.row]
        ∧ ∃ old ∈ db.ledger.rows, old.ref = args.row.ref)
      ∨ ((db.step (.appendLedgerRow args)).holds = db.holds
        ∧ (db.step (.appendLedgerRow args)).ledger.rows = db.ledger.rows ++ [args.row]
        ∧ acceptedAppend db (.appendLedgerRow args) = [args.row]
        ∧ ¬ RowViolates db args.row) := by
  rcases insertLedgerRow_cases db args.row with
    ⟨violation, rejected⟩ | ⟨replayed, taken⟩ | ⟨next, added, holds, rows, fits⟩
  · refine .inl ⟨?_, ?_⟩
    · simp only [CreditDb.step, CreditCall.run, CreditDb.appendLedgerRow, rejected, Except.map]
    · simp only [acceptedAppend, CreditDb.appendLedgerRow, rejected]
  · refine .inr (.inl ⟨?_, ?_, taken⟩)
    · simp only [CreditDb.step, CreditCall.run, CreditDb.appendLedgerRow, replayed, Except.map]
    · simp only [acceptedAppend, CreditDb.appendLedgerRow, replayed]
  · have became : db.step (.appendLedgerRow args) = next := by
      simp only [CreditDb.step, CreditCall.run, CreditDb.appendLedgerRow, added, Except.map]
    refine .inr (.inr ⟨became ▸ holds, became ▸ rows, ?_, fits⟩)
    simp only [acceptedAppend, CreditDb.appendLedgerRow, added]

/-- One call keeps the accounts, as long as no append has named a hold. -/
theorem Accounted.step (accounted : Accounted appended db) (call : CreditCall)
    (separate
      : ∀ row ∈ appended ++ acceptedAppend db call, ∀ hold ∈ db.holds.rows,
        row.idemRef ≠ hold.id)
    : Accounted (appended ++ acceptedAppend db call) (db.step call) := by
  cases call with
  | appendLedgerRow args =>
      rcases step_appendLedgerRow db args with
        ⟨same, rejected⟩ | ⟨same, accepted, old, member, taken⟩ | ⟨holds, rows, accepted, fits⟩
      · rw [same, rejected, List.append_nil]
        exact accounted
      · rw [accepted] at separate ⊢
        rw [same]
        have apart := separate args.row (by simp)
        exact accounted.replayedRow apart member taken
      · rw [accepted]
        have newRef : ∀ old ∈ db.ledger.rows, old.ref ≠ args.row.ref := by
          intro old member taken
          exact fits (.inr (.inl ⟨old, member, .inr taken⟩))
        exact accounted.appendedRow rfl newRef holds rows
  | takeHold args =>
      simp only [acceptedAppend, List.append_nil]
      rcases step_takeHold db args with same | ⟨holds, ledger, _⟩
      · rw [same]
        exact accounted
      · exact accounted.takenHold rfl holds ledger
  | captureHold args =>
      simp only [acceptedAppend, List.append_nil] at separate ⊢
      rcases accounted.captureHold_cases separate args with
        same | ⟨hold, inHolds, keyed, isOpen, holds, rows, _⟩
      · rw [same]
        exact accounted
      · exact accounted.capturedHold inHolds keyed isOpen holds rows
  | releaseHold holdId now =>
      simp only [acceptedAppend, List.append_nil, step_releaseHold]
      exact accounted.closedHolds _ now (by decide)
  | expireHolds now =>
      simp only [acceptedAppend, List.append_nil, step_expireHolds]
      exact accounted.closedHolds _ now (by decide)

-----------------------------------------------------------------------------------------
-- A closed hold stays closed
-----------------------------------------------------------------------------------------

/-- A call leaves the holds alone, opens one more, or settles some. -/
theorem step_holds (db : CreditDb) (call : CreditCall)
    : (db.step call).holds = db.holds
      ∨ (∃ hold, (db.step call).holds.rows = db.holds.rows ++ [hold])
      ∨ ∃ which status now,
          (db.step call).holds = (CreditDb.settle which status now).apply db.holds := by
  cases call with
  | appendLedgerRow args =>
      left
      rcases step_appendLedgerRow db args with ⟨same, _⟩ | ⟨same, _⟩ | ⟨holds, _⟩
      · rw [same]
      · rw [same]
      · exact holds
  | takeHold args =>
      rcases step_takeHold db args with same | ⟨holds, _⟩
      · exact .inl (by rw [same])
      · exact .inr (.inl ⟨_, holds⟩)
  | captureHold args =>
      cases selected : (afterCaptureUpdate db args).capturedHold args.holdId with
      | none =>
          rw [step_captureHold_none selected]
          exact .inr (.inr ⟨_, _, _, rfl⟩)
      | some hold =>
          rw [step_captureHold_some selected]
          rcases insertLedgerRow_cases (afterCaptureUpdate db args) (args.debit hold) with
            ⟨violation, rejected⟩ | ⟨replayed, _⟩ | ⟨next, added, holds, _⟩
          · rw [rejected]
            exact .inl rfl
          · rw [replayed]
            exact .inr (.inr ⟨_, _, _, rfl⟩)
          · rw [added]
            exact .inr (.inr ⟨_, _, _, holds⟩)
  | releaseHold holdId now => exact .inr (.inr ⟨_, _, _, rfl⟩)
  | expireHolds now => exact .inr (.inr ⟨_, _, _, rfl⟩)

/-- Holds are never deleted, and one that is not open never changes. -/
theorem step_keepsHolds (call : CreditCall) {hold : HoldRow} (member : hold ∈ db.holds.rows)
    : ∃ later ∈ (db.step call).holds.rows, later.id = hold.id
        ∧ (hold.status ≠ .opened → later = hold) := by
  rcases step_holds db call with same | ⟨added, holds⟩ | ⟨which, status, now, settled⟩
  · exact ⟨hold, same ▸ member, rfl, fun _ => rfl⟩
  · exact ⟨hold, holds ▸ List.mem_append_left _ member, rfl, fun _ => rfl⟩
  · rw [settled]
    refine ⟨_, Sweep.mem_apply.mpr ⟨hold, member, rfl⟩, ?_, settle_closed⟩
    exact (CreditDb.settle which status now).onRow_keeps HoldRow.id (fun _ _ => rfl) hold

/-- The same of a whole run, by induction on its last call. -/
theorem after_keepsHolds {start : CreditDb} {sofar : List CreditCall} {hold : HoldRow}
    (member : hold ∈ (start.after sofar).holds.rows) (later : List CreditCall)
    : ∃ kept ∈ (start.after (sofar ++ later)).holds.rows, kept.id = hold.id
        ∧ (hold.status ≠ .opened → kept = hold) := by
  induction later using List.reverseRecOn with
  | nil => exact ⟨hold, by simpa using member, rfl, fun _ => rfl⟩
  | append_singleton init call ih =>
      obtain ⟨middle, inMiddle, sameId, unchanged⟩ := ih
      obtain ⟨kept, inLater, keptId, keptSame⟩ := step_keepsHolds call inMiddle
      rw [← List.append_assoc, CreditDb.after_snoc]
      refine ⟨kept, inLater, keptId.trans sameId, ?_⟩
      intro closed
      have same := unchanged closed
      subst same
      exact keptSame closed

theorem acceptedAppends_snoc (start : CreditDb) (sofar : List CreditCall) (call : CreditCall)
    : acceptedAppends start (sofar ++ [call])
      = acceptedAppends start sofar ++ acceptedAppend (start.after sofar) call := by
  induction sofar generalizing start with
  | nil => simp [acceptedAppends, CreditDb.after]
  | cons first rest ih =>
      have onward := ih (start.step first)
      simpa [acceptedAppends, CreditDb.after] using onward

/-- Every accepted append of a run is one of its calls, by induction on the run. -/
theorem acceptedAppends_mem {start : CreditDb} {run : List CreditCall} {row : LedgerRow}
    (member : row ∈ acceptedAppends start run)
    : ∃ args, .appendLedgerRow args ∈ run ∧ args.row = row := by
  induction run generalizing start with
  | nil => exact absurd member List.not_mem_nil
  | cons call rest ih =>
      rcases List.mem_append.mp member with here | later
      · cases call with
        | appendLedgerRow args =>
            refine ⟨args, List.mem_cons_self, ?_⟩
            simp only [acceptedAppend] at here
            split at here
            · exact (List.mem_singleton.mp here).symm
            · exact absurd here List.not_mem_nil
        | takeHold args => exact absurd here List.not_mem_nil
        | captureHold args => exact absurd here List.not_mem_nil
        | releaseHold holdId now => exact absurd here List.not_mem_nil
        | expireHolds now => exact absurd here List.not_mem_nil
      · obtain ⟨args, inRest, same⟩ := ih later
        exact ⟨args, List.mem_cons_of_mem _ inRest, same⟩

/-- The accounts hold after every prefix of a run that keeps its references apart, by
induction on its last call.
-/
theorem accounted_after {tenants : List String} {run : List CreditCall}
    (separate : SeparateRefs (CreditDb.empty tenants) run) (sofar rest : List CreditCall)
    (cut : run = sofar ++ rest)
    : Accounted (acceptedAppends (CreditDb.empty tenants) sofar)
        ((CreditDb.empty tenants).after sofar) := by
  induction sofar using List.reverseRecOn generalizing rest with
  | nil =>
      refine ⟨rfl, ?_, ?_, fun _ => rfl⟩
      · intro row member
        exact absurd member List.not_mem_nil
      · intro hold member
        exact absurd member List.not_mem_nil
  | append_singleton init call ih =>
      have cut' : run = init ++ call :: rest := by simpa using cut
      have before := ih (call :: rest) cut'
      rw [acceptedAppends_snoc, CreditDb.after_snoc]
      refine before.step call ?_
      intro row member hold inHolds
      rw [← acceptedAppends_snoc] at member
      obtain ⟨args, inRun, same⟩ := acceptedAppends_mem member
      obtain ⟨kept, inFinal, sameId, _⟩ := after_keepsHolds inHolds (call :: rest)
      rw [← cut'] at inFinal
      have inRun' : CreditCall.appendLedgerRow args ∈ run := by
        rw [cut]
        exact List.mem_append_left _ inRun
      rw [← same, ← sameId]
      exact separate _ inRun' args rfl kept inFinal

/-- A reference is enough to know a ledger row. -/
theorem row_of_ref {row other : LedgerRow} (first : row ∈ db.ledger.rows)
    (second : other ∈ db.ledger.rows) (same : row.ref = other.ref)
    : row = other :=
  List.inj_on_of_nodup_map db.ledgerRefs first second same

/-- In an accounted database captured holds and debits answer to one another. -/
theorem Accounted.oneDebitPerCapture (accounted : Accounted appended db)
    : OneDebitPerCapture db := by
  intro hold inHolds
  have owned : ∀ row ∈ db.ledger.rows, row.holdId = some hold.id
      → hold.status = .captured ∧ DebitOf row hold := by
    intro row member link
    obtain ⟨owner, inOwners, sameId, captured, debit⟩ :=
      accounted.linked row member hold.id link
    rw [← Keyed.eq_of_key inOwners inHolds sameId]
    exact ⟨captured, debit⟩
  refine ⟨⟨?_, accounted.debited hold inHolds⟩, ?_⟩
  · intro linked
    obtain ⟨row, member, link⟩ := linked
    exact (owned row member link).1
  · intro captured
    obtain ⟨row, member, link⟩ := accounted.debited hold inHolds captured
    have debit := (owned row member link).2
    refine ⟨row, ?_, debit⟩
    refine List.perm_singleton.mp ((List.perm_ext_iff_of_nodup ?_ (List.nodup_singleton _)).mpr ?_)
    · exact (List.Nodup.of_map _ db.ledger.unique).filter _
    · intro other
      simp only [List.mem_filter, decide_eq_true_eq, List.mem_singleton]
      constructor
      · intro linked
        obtain ⟨inLedger, otherLink⟩ := linked
        have otherDebit := (owned other inLedger otherLink).2
        refine row_of_ref inLedger member ?_
        exact Prod.ext (otherDebit.tenantId.trans debit.tenantId.symm)
          (otherDebit.idemRef.trans debit.idemRef.symm)
      · intro same
        subst same
        exact ⟨member, link⟩

/-- A sum over rows splits into the linked and the unlinked ones. -/
theorem deltaSum_split (tenantId : String) (rows : List LedgerRow)
    : deltaSum tenantId rows
      = deltaSum tenantId (rows.filter fun row => row.holdId = none)
        + deltaSum tenantId (rows.filter fun row => row.holdId ≠ none) := by
  induction rows with
  | nil => rfl
  | cons row rest ih =>
      simp only [deltaSum, sum_filter_map, decide_eq_true_eq] at ih ⊢
      cases link : row.holdId with
      | none =>
          simp [link] at ih ⊢
          omega
      | some holdId =>
          simp [link] at ih ⊢
          omega

/-- A call whose INSERT breaks a constraint changes neither table. -/
theorem Accounted.refused (accounted : Accounted appended db)
    (separate : ∀ row ∈ appended, ∀ hold ∈ db.holds.rows, row.idemRef ≠ hold.id)
    {call : CreditCall} (violates : InsertViolates db call)
    : db.step call = db := by
  cases call with
  | appendLedgerRow args =>
      rcases step_appendLedgerRow db args with ⟨same, _⟩ | ⟨same, _⟩ | ⟨_, _, _, fits⟩
      · exact same
      · exact same
      · exact absurd violates fits
  | takeHold args =>
      rcases step_takeHold db args with same | ⟨_, _, fits⟩
      · exact same
      · exact absurd violates fits
  | captureHold args =>
      rcases accounted.captureHold_cases separate args with same | ⟨_, _, _, _, _, _, fits⟩
      · exact same
      · exact absurd violates fits
  | releaseHold holdId now => exact violates.elim
  | expireHolds now => exact violates.elim

/-- What the credit statements promise over a whole run from the empty tables. -/
structure CreditContract (tenants : List String) (run : List CreditCall) : Prop where
  oneDebitPerCapture : OneDebitPerCapture ((CreditDb.empty tenants).after run)
  closedHoldsKept : ClosedHoldsKept (CreditDb.empty tenants) run
  sumsAccounted : SumsAccounted (CreditDb.empty tenants) run
  refused
    : ∀ call, InsertViolates ((CreditDb.empty tenants).after run) call
      → ((CreditDb.empty tenants).after run).step call = (CreditDb.empty tenants).after run

/-- Every run that keeps its references apart keeps the contract. -/
theorem creditContract (tenants : List String) (run : List CreditCall)
    (separate : SeparateRefs (CreditDb.empty tenants) run)
    : CreditContract tenants run := by
  have accounted := accounted_after separate run [] (by simp)
  refine ⟨accounted.oneDebitPerCapture, ?_, ?_, ?_⟩
  · intro sofar later cut hold inHolds closed
    have notOpen : hold.status ≠ .opened := by
      rcases closed with released | expired
      · simp [released]
      · simp [expired]
    obtain ⟨kept, inFinal, _, unchanged⟩ := after_keepsHolds inHolds later
    rw [unchanged notOpen, ← cut] at inFinal
    refine ⟨inFinal, fun row member link => ?_⟩
    have captured := (accounted.oneDebitPerCapture hold inFinal).1.mp ⟨row, member, link⟩
    simp [captured] at closed
  · intro tenantId
    have balanced := accounted.balanced tenantId
    have split := deltaSum_split tenantId ((CreditDb.empty tenants).after run).ledger.rows
    rw [accounted.unlinked] at split
    refine Prod.ext ?_ rfl
    change deltaSum tenantId ((CreditDb.empty tenants).after run).ledger.rows = _
    simp only
    omega
  · intro call violates
    refine accounted.refused ?_ violates
    intro row member hold inHolds
    obtain ⟨args, inRun, same⟩ := acceptedAppends_mem member
    rw [← same]
    exact separate _ inRun args rfl hold inHolds

/-- A purchase, a captured hold, a released one and a replayed purchase. -/
def billedRun : List CreditCall :=
  [.appendLedgerRow ⟨"l1", "ten_1", .purchase, 5000, none, "order_1", none, none, none, "t0"⟩,
    .takeHold ⟨"h1", "ten_1", "job_1", 700, "p1", "t1", "t9"⟩,
    .takeHold ⟨"h2", "ten_1", "job_2", 300, "p1", "t2", "t9"⟩,
    .captureHold ⟨"h1", "l2", none, none, "t3"⟩,
    .captureHold ⟨"h1", "l3", none, none, "t4"⟩,
    .releaseHold "h2" "t5",
    .appendLedgerRow ⟨"l4", "ten_1", .purchase, 9000, none, "order_1", none, none, none, "t6"⟩]

theorem billedRun_keepsContract : CreditContract ["ten_1"] billedRun := by
  refine creditContract ["ten_1"] billedRun ?_
  intro call member args isAppend hold inHolds
  have ids : ((CreditDb.empty ["ten_1"]).after billedRun).holds.rows.map HoldRow.id
      = ["h1", "h2"] := by
    decide
  have isHold : hold.id ∈ ["h1", "h2"] := ids ▸ List.mem_map_of_mem inHolds
  have isOrder : args.idemRef = "order_1" := by
    subst isAppend
    simp only [billedRun, List.mem_cons, CreditCall.appendLedgerRow.injEq, reduceCtorEq,
      List.not_mem_nil, or_false, false_or] at member
    rcases member with first | second
    · rw [first]
    · rw [second]
  rw [isOrder]
  intro same
  rw [← same] at isHold
  exact absurd isHold (by decide)

end ControlPlane.Credits
