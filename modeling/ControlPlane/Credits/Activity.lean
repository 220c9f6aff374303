import ControlPlane.Credits.BalanceRead
import ControlPlane.Library.Sorting
import Mathlib.Data.List.Pairwise
import Mathlib.Data.Prod.Lex
import Mathlib.Data.String.Basic

/-! The credit activity of a tenant: ledger rows, and holds alongside them, newest first. Times and
ids are ASCII, so texts have one order in the worker and in the database.
-/

namespace ControlPlane.Credits

open ControlPlane.Library
open ControlPlane.Store

-----------------------------------------------------------------------------------------
-- The view
-----------------------------------------------------------------------------------------

inductive ActivityKind
  | purchase
  | charge
  | noChargeFailed
  | reserved
  | refund
  | adjustment
  deriving DecidableEq, Repr

structure ActivityLine where
  id : String
  kind : ActivityKind
  deltaMicroUsd : Int
  jobRef : Option String
  occurredAt : String
  noChargeReason : Option String
  deriving DecidableEq, Repr

/-- What enforcement is set to, what it is, and why they disagree. -/
structure EnforcementState where
  configured : Bool
  applied : Bool
  reason : Option String
  deriving DecidableEq, Repr

structure TenantCreditView where
  creditsApply : Bool
  topupAvailable : Bool
  settledMicroUsd : Int
  heldMicroUsd : Int
  availableMicroUsd : Int
  complete : Bool
  enforcing : Bool
  enforcementConfigured : Bool
  enforcementReason : Option String
  activity : List ActivityLine
  activityTruncated : Bool
  deriving DecidableEq, Repr

structure CreditViewArgs where
  balance : Balance
  ledger : List LedgerRow
  holds : List HoldRow
  enforcement : EnforcementState
  truncated : Bool
  creditsApply : Bool
  topUpAvailable : Bool
  deriving DecidableEq, Repr

def ledgerLine (row : LedgerRow) : ActivityLine where
  id := row.id
  kind :=
    match row.kind with
    | .debit => .charge
    | .purchase => .purchase
    | .refund => .refund
    | .adjustment => .adjustment
  deltaMicroUsd := row.deltaMicroUsd
  jobRef := none
  occurredAt := row.createdAt
  noChargeReason := none

def noChargeReason (hold : HoldRow) : String :=
  if hold.status = .expired then
    "this job never reported back, so the reservation was returned and you were not charged"
  else "this job did not complete, so you were not charged for it"

/-- The line of a hold. A captured hold has its debit in the ledger, and no line of its own. -/
def holdLine (hold : HoldRow) : Option ActivityLine :=
  match hold.status with
  | .captured => none
  | .opened =>
      some
        {
          id := hold.id,
          kind := .reserved,
          deltaMicroUsd := 0,
          jobRef := some hold.jobRef,
          occurredAt := hold.createdAt,
          noChargeReason := none
        }
  | .released | .expired =>
      some
        {
          id := hold.id,
          kind := .noChargeFailed,
          deltaMicroUsd := 0,
          jobRef := some hold.jobRef,
          occurredAt := hold.settledAt.getD hold.createdAt,
          noChargeReason := some (noChargeReason hold)
        }

/-- Newest first. Ties break on the id. -/
def compareLines (a b : ActivityLine) : Int :=
  if a.occurredAt = b.occurredAt then if a.id < b.id then 1 else -1
  else if a.occurredAt < b.occurredAt then 1 else -1

def feedLines (ledger : List LedgerRow) (holds : List HoldRow) : List ActivityLine :=
  ledger.map ledgerLine ++ holds.filterMap holdLine

def buildTenantCreditView (args : CreditViewArgs) : TenantCreditView where
  creditsApply := args.creditsApply
  topupAvailable := args.topUpAvailable
  settledMicroUsd := args.balance.settledMicroUsd
  heldMicroUsd := args.balance.heldMicroUsd
  availableMicroUsd := args.balance.availableMicroUsd
  complete := args.balance.complete
  enforcing := args.enforcement.applied
  enforcementConfigured := args.enforcement.configured
  enforcementReason := args.enforcement.reason
  activity :=
    (feedLines args.ledger args.holds).insertionSort fun a b => compareLines a b ≤ 0
  activityTruncated := args.truncated

-----------------------------------------------------------------------------------------
-- The order of lines
-----------------------------------------------------------------------------------------

/-- What lines are sorted by: the later time first, and the greater id first. -/
def lineKey (line : ActivityLine) : (Lex (String × String))ᵒᵈ :=
  OrderDual.toDual (toLex (line.occurredAt, line.id))

theorem lineKey_le {a b : ActivityLine}
    : lineKey a ≤ lineKey b
      ↔ b.occurredAt < a.occurredAt ∨ (b.occurredAt = a.occurredAt ∧ b.id ≤ a.id) := by
  rw [lineKey, lineKey, OrderDual.toDual_le_toDual, Prod.Lex.toLex_le_toLex]

theorem compareLines_nonpos (a b : ActivityLine)
    : compareLines a b ≤ 0 ↔ lineKey a ≤ lineKey b := by
  rw [lineKey_le, compareLines]
  split_ifs with same below earlier
  · simp [same, below]
  · simp [same, not_lt.mp below]
  · simp [earlier.not_gt, Ne.symm same]
  · simp [lt_of_le_of_ne (not_lt.mp earlier) (Ne.symm same)]

theorem activity_eq (args : CreditViewArgs)
    : (buildTenantCreditView args).activity = sortBy lineKey (feedLines args.ledger args.holds) := by
  have same : (fun a b => compareLines a b ≤ 0) = fun a b => lineKey a ≤ lineKey b :=
    funext fun a => funext fun b => propext (compareLines_nonpos a b)
  simp only [buildTenantCreditView, sortBy, same]

-----------------------------------------------------------------------------------------
-- The whole feed
-----------------------------------------------------------------------------------------

def ledgerOf (db : CreditDb) (tenantId : String) : List LedgerRow :=
  db.ledger.rows.filter fun row => row.tenantId = tenantId

def holdsOf (db : CreditDb) (tenantId : String) : List HoldRow :=
  db.holds.rows.filter fun hold => hold.tenantId = tenantId

/-- When the line of a hold occurs. -/
def holdTime (hold : HoldRow) : String :=
  if hold.status = .opened then hold.createdAt else hold.settledAt.getD hold.createdAt

/-- No hold that has a line shares its id and its time with a row of the ledger. -/
def Untwinned (db : CreditDb) (tenantId : String) : Prop :=
  ∀ row ∈ ledgerOf db tenantId, ∀ hold ∈ holdsOf db tenantId,
    hold.status ≠ .captured → row.id = hold.id → row.createdAt ≠ holdTime hold

theorem holdLine_isSome (hold : HoldRow)
    : (holdLine hold).isSome = true ↔ hold.status ≠ .captured := by
  rw [holdLine]
  cases hold.status <;> simp

/-- The line of a hold has its id and its time, and moves no money. -/
theorem holdLine_fields {hold : HoldRow} {line : ActivityLine} (has : holdLine hold = some line)
    : hold.status ≠ .captured
      ∧ line.id = hold.id
      ∧ line.occurredAt = holdTime hold
      ∧ line.deltaMicroUsd = 0
      ∧ (line.kind = .reserved ∨ line.kind = .noChargeFailed) := by
  rw [holdLine] at has
  cases status : hold.status with
  | captured => simp [status] at has
  | opened =>
      simp only [status, Option.some.injEq] at has
      subst has
      simp [holdTime, status]
  | released =>
      simp only [status, Option.some.injEq] at has
      subst has
      simp [holdTime, status]
  | expired =>
      simp only [status, Option.some.injEq] at has
      subst has
      simp [holdTime, status]

theorem ledgerLine_kind (row : LedgerRow)
    : (ledgerLine row).kind ≠ .reserved ∧ (ledgerLine row).kind ≠ .noChargeFailed := by
  simp only [ledgerLine]
  cases row.kind <;> simp

theorem mem_feedLines {ledger : List LedgerRow} {holds : List HoldRow} {line : ActivityLine}
    : line ∈ feedLines ledger holds
      ↔ (∃ row ∈ ledger, ledgerLine row = line) ∨ ∃ hold ∈ holds, holdLine hold = some line := by
  rw [feedLines, List.mem_append, List.mem_map, List.mem_filterMap]

/-- Lines of one tenant with one key are one line, where no hold is the twin of a row. -/
theorem distinct_feedLines {db : CreditDb} {tenantId : String} (untwinned : Untwinned db tenantId)
    : ∀ a ∈ feedLines (ledgerOf db tenantId) (holdsOf db tenantId),
        ∀ b ∈ feedLines (ledgerOf db tenantId) (holdsOf db tenantId),
          lineKey a = lineKey b → a = b := by
  intro a inside b other same
  have parts : a.occurredAt = b.occurredAt ∧ a.id = b.id :=
    Prod.mk.inj (toLex.injective (OrderDual.toDual.injective same))
  rcases mem_feedLines.mp inside with ⟨row, isRow, rfl⟩ | ⟨hold, isHold, line⟩
  · rcases mem_feedLines.mp other with ⟨row', isRow', rfl⟩ | ⟨hold, isHold, line⟩
    · have one : row = row' :=
        Keyed.eq_of_key (List.mem_of_mem_filter isRow) (List.mem_of_mem_filter isRow') parts.2
      rw [one]
    · obtain ⟨uncaptured, id, time, -⟩ := holdLine_fields line
      exact absurd (parts.1.trans time)
        (untwinned row isRow hold isHold uncaptured (parts.2.trans id))
  · obtain ⟨uncaptured, id, time, -⟩ := holdLine_fields line
    rcases mem_feedLines.mp other with ⟨row, isRow, rfl⟩ | ⟨hold', isHold', line'⟩
    · exact absurd (parts.1.symm.trans time)
        (untwinned row isRow hold isHold uncaptured (parts.2.symm.trans id))
    · obtain ⟨-, id', -⟩ := holdLine_fields line'
      have one : hold = hold' :=
        Keyed.eq_of_key (List.mem_of_mem_filter isHold) (List.mem_of_mem_filter isHold')
          (id.symm.trans (parts.2.trans id'))
      rw [one, line'] at line
      exact (Option.some.inj line).symm

theorem nodup_ids_ledger (db : CreditDb) (tenantId : String)
    : ((ledgerOf db tenantId).map LedgerRow.id).Nodup :=
  db.ledger.unique.sublist (List.filter_sublist.map LedgerRow.id)

theorem nodup_ids_holds (db : CreditDb) (tenantId : String)
    : ((holdsOf db tenantId).map HoldRow.id).Nodup :=
  db.holds.unique.sublist (List.filter_sublist.map HoldRow.id)

/-- No line is there twice. -/
theorem nodup_feedLines (db : CreditDb) (tenantId : String)
    : (feedLines (ledgerOf db tenantId) (holdsOf db tenantId)).Nodup := by
  have rows : ((ledgerOf db tenantId).map ledgerLine).Nodup := by
    refine List.Nodup.of_map ActivityLine.id ?_
    rw [List.map_map]
    exact nodup_ids_ledger db tenantId
  have holds : ((holdsOf db tenantId).filterMap holdLine).Nodup := by
    have pairs := List.pairwise_map.mp (nodup_ids_holds db tenantId)
    refine List.Pairwise.filterMap holdLine ?_ pairs
    intro hold other apart line has line' has' same
    exact apart ((holdLine_fields has).2.1.symm.trans (same ▸ (holdLine_fields has').2.1))
  rw [feedLines, List.nodup_append]
  refine ⟨rows, holds, ?_⟩
  intro line isLedger other isHold same
  obtain ⟨row, -, rfl⟩ := List.mem_map.mp isLedger
  obtain ⟨hold, -, has⟩ := List.mem_filterMap.mp isHold
  obtain ⟨-, -, -, -, kind⟩ := holdLine_fields has
  rw [← same] at kind
  exact kind.elim (ledgerLine_kind row).1 (ledgerLine_kind row).2

theorem feedLines_perm {ledger ledger' : List LedgerRow} {holds holds' : List HoldRow}
    (rows : ledger.Perm ledger') (held : holds.Perm holds')
    : (feedLines ledger holds).Perm (feedLines ledger' holds') :=
  (rows.map ledgerLine).append (held.filterMap holdLine)

/-- Only the ledger moves money. -/
theorem sum_feedLines (ledger : List LedgerRow) (holds : List HoldRow)
    : ((feedLines ledger holds).map ActivityLine.deltaMicroUsd).sum
      = (ledger.map LedgerRow.deltaMicroUsd).sum := by
  have none : ((holds.filterMap holdLine).map ActivityLine.deltaMicroUsd).sum = 0 := by
    apply List.sum_eq_zero
    intro delta listed
    obtain ⟨line, isLine, rfl⟩ := List.mem_map.mp listed
    obtain ⟨hold, -, has⟩ := List.mem_filterMap.mp isLine
    exact (holdLine_fields has).2.2.2.1
  rw [feedLines, List.map_append, List.sum_append, none, add_zero, List.map_map]
  rfl

/-- What the feed of all rows and holds promises, in whatever order they are read: every row has its
line, every hold that is not captured has one, there is no other, the order is total and newest
first, and the lines add up to the settled balance.
-/
structure CompleteFeed (db : CreditDb) (tenantId : String) (args : CreditViewArgs) : Prop where
  lines
    : (buildTenantCreditView args).activity.Perm
        ((ledgerOf db tenantId).map ledgerLine ++ (holdsOf db tenantId).filterMap holdLine)
  once : (buildTenantCreditView args).activity.Nodup
  newest_first : (buildTenantCreditView args).activity.Pairwise fun a b => lineKey a < lineKey b
  one_order
    : ∀ other : CreditViewArgs,
        other.ledger.Perm args.ledger → other.holds.Perm args.holds
        → (buildTenantCreditView other).activity = (buildTenantCreditView args).activity
  settled
    : ((buildTenantCreditView args).activity.map ActivityLine.deltaMicroUsd).sum
      = (db.readBalanceSums tenantId).1

/-- The feed is complete exactly where no hold is the twin of a row. -/
theorem completeFeed_iff {db : CreditDb} {tenantId : String} {args : CreditViewArgs}
    (ledger : args.ledger.Perm (ledgerOf db tenantId))
    (holds : args.holds.Perm (holdsOf db tenantId))
    : CompleteFeed db tenantId args ↔ Untwinned db tenantId := by
  have all := feedLines_perm ledger holds
  have lines : (buildTenantCreditView args).activity.Perm
      (feedLines (ledgerOf db tenantId) (holdsOf db tenantId)) := by
    rw [activity_eq]
    exact (sortBy_perm lineKey _).trans all
  constructor
  · intro complete row isRow hold isHold uncaptured id time
    obtain ⟨line, has⟩ := Option.isSome_iff_exists.mp ((holdLine_isSome hold).mpr uncaptured)
    obtain ⟨-, lineId, lineTime, -, kind⟩ := holdLine_fields has
    have apart : ledgerLine row ≠ line := by
      intro h
      obtain rfl := h
      exact kind.elim (ledgerLine_kind row).1 (ledgerLine_kind row).2
    have rowListed := lines.symm.subset (mem_feedLines.mpr (.inl ⟨row, isRow, rfl⟩))
    have lineListed := lines.symm.subset (mem_feedLines.mpr (.inr ⟨hold, isHold, has⟩))
    have symm : Std.Symm fun a b : ActivityLine => lineKey a ≠ lineKey b := ⟨fun _ _ => Ne.symm⟩
    have differ := (complete.newest_first.imp ne_of_lt).forall rowListed lineListed apart
    refine differ ?_
    rw [lineKey, lineKey, lineId, lineTime, ← id, ← time]
    rfl
  · intro untwinned
    have distinct : ∀ a ∈ feedLines args.ledger args.holds,
        ∀ b ∈ feedLines args.ledger args.holds, lineKey a = lineKey b → a = b :=
      fun a inside b other => distinct_feedLines untwinned a (all.subset inside) b (all.subset other)
    have once : (feedLines args.ledger args.holds).Nodup :=
      all.nodup_iff.mpr (nodup_feedLines db tenantId)
    refine ⟨lines, lines.nodup_iff.mpr (nodup_feedLines db tenantId), ?_, ?_, ?_⟩
    · rw [activity_eq]
      exact pairwise_lt_sortBy distinct once
    · intro other rows held
      rw [activity_eq, activity_eq]
      exact (sortBy_eq_of_perm_of_distinct distinct (feedLines_perm rows held).symm).symm
    · rw [(lines.map _).sum_eq, sum_feedLines]
      rfl

end ControlPlane.Credits
