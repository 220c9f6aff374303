import ControlPlane.Store.Rows

/-! The credit tables and their statements. A database carries the constraints of its schema,
so a statement that would break one has no database to return. Amounts are exact micro-USD.
-/

namespace ControlPlane.Store

open ControlPlane.Library

inductive LedgerKind
  | purchase
  | debit
  | refund
  | adjustment
  deriving DecidableEq, Repr

inductive HoldStatus
  | opened
  | captured
  | released
  | expired
  deriving DecidableEq, Repr

/-- One movement of money. A cost of none is unmeasured, and is not zero. -/
structure LedgerRow where
  id : String
  tenantId : String
  kind : LedgerKind
  deltaMicroUsd : Int
  costMicroUsd : Option Int := none
  idemRef : String
  holdId : Option String := none
  priceListId : Option String := none
  externalRef : Option String := none
  note : Option String := none
  createdAt : String
  deriving DecidableEq, Repr

/-- One reservation against a job. -/
structure HoldRow where
  id : String
  tenantId : String
  jobRef : String
  amountMicroUsd : Int
  status : HoldStatus
  priceListId : String
  createdAt : String
  expiresAt : String
  settledAt : Option String := none
  deriving DecidableEq, Repr

/-- UNIQUE (tenant_id, idem_ref). -/
def LedgerRow.ref (row : LedgerRow) : String × String :=
  (row.tenantId, row.idemRef)

/-- UNIQUE (tenant_id, job_ref). -/
def HoldRow.ref (hold : HoldRow) : String × String :=
  (hold.tenantId, hold.jobRef)

/-- The CHECK that ties the sign of a movement to its kind. -/
def LedgerRow.SignFollowsKind (row : LedgerRow) : Prop :=
  (row.kind = .debit ∧ row.deltaMicroUsd < 0)
  ∨ (row.kind = .purchase ∧ 0 < row.deltaMicroUsd)
  ∨ (row.kind = .refund ∧ 0 < row.deltaMicroUsd)
  ∨ row.kind = .adjustment

instance (row : LedgerRow) : Decidable row.SignFollowsKind := by
  unfold LedgerRow.SignFollowsKind; infer_instance

/-- credit_holds and credit_ledger, over the tenants their foreign keys name. -/
@[ext] structure CreditDb where
  tenants : List String
  holds : Keyed HoldRow.id
  ledger : Keyed LedgerRow.id
  holdRefs : (holds.rows.map HoldRow.ref).Nodup
  ledgerRefs : (ledger.rows.map LedgerRow.ref).Nodup
  amounts : ∀ hold ∈ holds.rows, 0 < hold.amountMicroUsd
  signs : ∀ row ∈ ledger.rows, row.SignFollowsKind
  holdTenants : ∀ hold ∈ holds.rows, hold.tenantId ∈ tenants
  ledgerTenants : ∀ row ∈ ledger.rows, row.tenantId ∈ tenants
  ledgerHolds
    : ∀ row ∈ ledger.rows, ∀ holdId, row.holdId = some holdId
      → ∃ hold ∈ holds.rows, hold.id = holdId

/-- The credit tables as the migration creates them. -/
def CreditDb.empty (tenants : List String) : CreditDb where
  tenants := tenants
  holds := .empty
  ledger := .empty
  holdRefs := List.nodup_nil
  ledgerRefs := List.nodup_nil
  amounts := by simp
  signs := by simp
  holdTenants := by simp
  ledgerTenants := by simp
  ledgerHolds := by simp

namespace CreditDb

/-- INSERT INTO credit_holds ... ON CONFLICT (tenant_id, job_ref) DO NOTHING RETURNING *. -/
def insertHold (db : CreditDb) (hold : HoldRow)
    : Except ConstraintViolation (CreditDb × Option HoldRow) :=
  if positive : 0 < hold.amountMicroUsd then
    if newRef : ∀ old ∈ db.holds.rows, old.ref ≠ hold.ref then
      if newId : ∀ old ∈ db.holds.rows, old.id ≠ hold.id then
        if known : hold.tenantId ∈ db.tenants then
          .ok
            ({ db with
                holds := db.holds.insert hold newId
                holdRefs := nodup_append_singleton db.holdRefs newRef
                amounts := forall_append_singleton db.amounts positive
                holdTenants := forall_append_singleton db.holdTenants known
                ledgerHolds := by
                  intro row member holdId linked
                  obtain ⟨old, inHolds, same⟩ := db.ledgerHolds row member holdId linked
                  exact ⟨old, List.mem_append_left _ inHolds, same⟩ },
              some hold)
        else .error .foreignKey
      else .error .primaryKey
    else .ok (db, none)
  else .error .check

/-- INSERT INTO credit_ledger ... ON CONFLICT (tenant_id, idem_ref) DO NOTHING RETURNING *. -/
def insertLedgerRow (db : CreditDb) (row : LedgerRow)
    : Except ConstraintViolation (CreditDb × Option LedgerRow) :=
  if signed : row.SignFollowsKind then
    if newRef : ∀ old ∈ db.ledger.rows, old.ref ≠ row.ref then
      if newId : ∀ old ∈ db.ledger.rows, old.id ≠ row.id then
        if known : row.tenantId ∈ db.tenants
            ∧ ∀ holdId ∈ row.holdId, ∃ hold ∈ db.holds.rows, hold.id = holdId then
          .ok
            ({ db with
                ledger := db.ledger.insert row newId
                ledgerRefs := nodup_append_singleton db.ledgerRefs newRef
                signs := forall_append_singleton db.signs signed
                ledgerTenants := forall_append_singleton db.ledgerTenants known.1
                ledgerHolds := forall_append_singleton db.ledgerHolds known.2 },
              some row)
        else .error .foreignKey
      else .error .primaryKey
    else .ok (db, none)
  else .error .check

/-- UPDATE credit_holds SET status, settled_at WHERE which AND status = 'open'. -/
def settle (which : HoldRow → Bool) (status : HoldStatus) (now : String)
    : Sweep HoldRow.id where
  guard hold := which hold ∧ hold.status = .opened
  set hold := { hold with status := status, settledAt := some now }
  keeps _ := rfl

/-- The database after holds are settled. -/
def settleHolds (db : CreditDb) (which : HoldRow → Bool) (status : HoldStatus) (now : String)
    : CreditDb :=
  let sweep := settle which status now
  { db with
    holds := sweep.apply db.holds
    holdRefs := by
      have same := sweep.map_onRow HoldRow.ref (fun _ _ => rfl) db.holds.rows
      exact same ▸ db.holdRefs
    amounts := by
      intro hold member
      obtain ⟨old, inHolds, became⟩ := Sweep.mem_apply.mp member
      rw [← became, sweep.onRow_keeps HoldRow.amountMicroUsd fun _ _ => rfl]
      exact db.amounts old inHolds
    holdTenants := by
      intro hold member
      obtain ⟨old, inHolds, became⟩ := Sweep.mem_apply.mp member
      rw [← became, sweep.onRow_keeps HoldRow.tenantId fun _ _ => rfl]
      exact db.holdTenants old inHolds
    ledgerHolds := by
      intro row member holdId linked
      obtain ⟨old, inHolds, same⟩ := db.ledgerHolds row member holdId linked
      refine ⟨_, Sweep.mem_apply.mpr ⟨old, inHolds, rfl⟩, ?_⟩
      rw [sweep.onRow_keeps HoldRow.id fun old _ => sweep.keeps old, same] }

end CreditDb

/-- The arguments of takeHold. -/
structure TakeHold where
  id : String
  tenantId : String
  jobRef : String
  amountMicroUsd : Int
  priceListId : String
  now : String
  expiresAt : String
  deriving DecidableEq, Repr

/-- The arguments of captureHold. -/
structure CaptureHold where
  holdId : String
  ledgerRowId : String
  costMicroUsd : Option Int
  note : Option String
  now : String
  deriving DecidableEq, Repr

/-- The arguments of appendLedgerRow. It never links a hold. -/
structure AppendLedgerRow where
  id : String
  tenantId : String
  kind : LedgerKind
  deltaMicroUsd : Int
  costMicroUsd : Option Int
  idemRef : String
  priceListId : Option String
  externalRef : Option String
  note : Option String
  now : String
  deriving DecidableEq, Repr

/-- The hold a takeHold inserts. -/
def TakeHold.row (args : TakeHold) : HoldRow where
  id := args.id
  tenantId := args.tenantId
  jobRef := args.jobRef
  amountMicroUsd := args.amountMicroUsd
  status := .opened
  priceListId := args.priceListId
  createdAt := args.now
  expiresAt := args.expiresAt

/-- The row an appendLedgerRow inserts. -/
def AppendLedgerRow.row (args : AppendLedgerRow) : LedgerRow where
  id := args.id
  tenantId := args.tenantId
  kind := args.kind
  deltaMicroUsd := args.deltaMicroUsd
  costMicroUsd := args.costMicroUsd
  idemRef := args.idemRef
  priceListId := args.priceListId
  externalRef := args.externalRef
  note := args.note
  createdAt := args.now

/-- The debit the INSERT ... SELECT of a capture draws from the hold. -/
def CaptureHold.debit (args : CaptureHold) (hold : HoldRow) : LedgerRow where
  id := args.ledgerRowId
  tenantId := hold.tenantId
  kind := .debit
  deltaMicroUsd := -hold.amountMicroUsd
  costMicroUsd := args.costMicroUsd
  idemRef := hold.id
  holdId := some hold.id
  priceListId := some hold.priceListId
  note := args.note
  createdAt := args.now

namespace CreditDb

def appendLedgerRow (db : CreditDb) (args : AppendLedgerRow)
    : Except ConstraintViolation (CreditDb × Option LedgerRow) :=
  db.insertLedgerRow args.row

/-- The SELECT that answers an append whose INSERT returned no row. -/
def existingLedgerRow (db : CreditDb) (args : AppendLedgerRow) : Option LedgerRow :=
  db.ledger.rows.find? fun row => row.tenantId = args.tenantId ∧ row.idemRef = args.idemRef

def takeHold (db : CreditDb) (args : TakeHold)
    : Except ConstraintViolation (CreditDb × Option HoldRow) :=
  db.insertHold args.row

/-- The SELECT that answers a takeHold whose INSERT returned no row. -/
def existingHold (db : CreditDb) (args : TakeHold) : Option HoldRow :=
  db.holds.rows.find? fun hold => hold.tenantId = args.tenantId ∧ hold.jobRef = args.jobRef

/-- SELECT ... FROM credit_holds WHERE id = ?1 AND status = 'captured'. -/
def capturedHold (db : CreditDb) (holdId : String) : Option HoldRow :=
  (db.holds.get? holdId).filter fun hold => hold.status = .captured

/-- One batch: the conditional update, then the debit. A rejected debit takes the update
back with it.
-/
def captureHold (db : CreditDb) (args : CaptureHold)
    : Except ConstraintViolation (CreditDb × Bool) :=
  let isHold := fun hold : HoldRow => decide (hold.id = args.holdId)
  let won := (settle isHold .captured args.now).changes db.holds = 1
  let settled := db.settleHolds isHold .captured args.now
  match settled.capturedHold args.holdId with
  | none => .ok (settled, won)
  | some hold => (settled.insertLedgerRow (args.debit hold)).map fun ran => (ran.1, won)

def releaseHold (db : CreditDb) (holdId now : String) : CreditDb × Bool :=
  let isHold := fun hold : HoldRow => decide (hold.id = holdId)
  (db.settleHolds isHold .released now, (settle isHold .released now).changes db.holds = 1)

def expireHolds (db : CreditDb) (now : String) : CreditDb × Nat :=
  let due := fun hold : HoldRow => decide (hold.expiresAt ≤ now)
  (db.settleHolds due .expired now, (settle due .expired now).changes db.holds)

/-- The two SUMs of a tenant, each of them 0 where there is no row. -/
def readBalanceSums (db : CreditDb) (tenantId : String) : Int × Int :=
  (((db.ledger.rows.filter fun row => row.tenantId = tenantId).map
      LedgerRow.deltaMicroUsd).sum,
    ((db.holds.rows.filter fun hold => hold.tenantId = tenantId ∧ hold.status = .opened).map
      HoldRow.amountMicroUsd).sum)

end CreditDb

/-- A call of one of the five operations. -/
inductive CreditCall
  | appendLedgerRow (args : AppendLedgerRow)
  | takeHold (args : TakeHold)
  | captureHold (args : CaptureHold)
  | releaseHold (holdId now : String)
  | expireHolds (now : String)
  deriving DecidableEq, Repr

/-- What the writing statement of a call answers. -/
inductive CreditAnswer
  | appended (returned : Option LedgerRow)
  | taken (returned : Option HoldRow)
  | captured (won : Bool)
  | released (won : Bool)
  | expired (count : Nat)
  deriving DecidableEq, Repr

/-- The writing statement of a call, or the constraint it violates. -/
def CreditCall.run (db : CreditDb)
    : CreditCall → Except ConstraintViolation (CreditDb × CreditAnswer)
  | .appendLedgerRow args =>
      (db.appendLedgerRow args).map fun ran => (ran.1, .appended ran.2)
  | .takeHold args => (db.takeHold args).map fun ran => (ran.1, .taken ran.2)
  | .captureHold args => (db.captureHold args).map fun ran => (ran.1, .captured ran.2)
  | .releaseHold holdId now =>
      .ok ((db.releaseHold holdId now).1, .released (db.releaseHold holdId now).2)
  | .expireHolds now => .ok ((db.expireHolds now).1, .expired (db.expireHolds now).2)

/-- The database after a call: what its statement left, or what it was before an error. -/
def CreditDb.step (db : CreditDb) (call : CreditCall) : CreditDb :=
  match call.run db with
  | .ok ran => ran.1
  | .error _ => db

/-- The database after calls in the order it ran them. -/
def CreditDb.after (db : CreditDb) (run : List CreditCall) : CreditDb :=
  run.foldl CreditDb.step db

theorem CreditDb.after_snoc (db : CreditDb) (sofar : List CreditCall) (call : CreditCall)
    : db.after (sofar ++ [call]) = (db.after sofar).step call := by
  simp only [CreditDb.after, List.foldl_append, List.foldl_cons, List.foldl_nil]

end ControlPlane.Store
