import ControlPlane.Credits.Activity

/-! The activity that the route reads: the ledger and the holds are cut separately, and calls can land
between the two reads.
-/

namespace ControlPlane.Credits

open ControlPlane.Library
open ControlPlane.Store

-----------------------------------------------------------------------------------------
-- The route
-----------------------------------------------------------------------------------------

def creditActivityLimit : Nat := 50

def rowKey (row : LedgerRow) : (Lex (String × String))ᵒᵈ :=
  OrderDual.toDual (toLex (row.createdAt, row.id))

def holdKey (hold : HoldRow) : (Lex (String × String))ᵒᵈ :=
  OrderDual.toDual (toLex (hold.createdAt, hold.id))

/-- SELECT * FROM credit_ledger ... ORDER BY created_at DESC, id DESC LIMIT limit. -/
def listLedger (db : CreditDb) (tenantId : String) (limit : Nat) : List LedgerRow :=
  (sortBy rowKey (ledgerOf db tenantId)).take limit

/-- SELECT * FROM credit_holds ... ORDER BY created_at DESC, id DESC LIMIT limit. -/
def listHolds (db : CreditDb) (tenantId : String) (limit : Nat) : List HoldRow :=
  (sortBy holdKey (holdsOf db tenantId)).take limit

structure CreditRead where
  balance : Balance
  ledger : List LedgerRow
  holds : List HoldRow
  truncated : Bool
  deriving DecidableEq, Repr

/-- The reads of the route, with the calls that land between them: between the two sums, then up to
the ledger, then up to the holds.
-/
structure Pauses where
  sums : List CreditCall
  ledger : List CreditCall
  holds : List CreditCall

def Pauses.ledgerDb (pauses : Pauses) (db : CreditDb) : CreditDb :=
  (db.after pauses.sums).after pauses.ledger

def Pauses.holdsDb (pauses : Pauses) (db : CreditDb) : CreditDb :=
  (pauses.ledgerDb db).after pauses.holds

def readCreditActivity (db : CreditDb) (pauses : Pauses) (tenantId : String) : CreditRead :=
  let ledger := listLedger (pauses.ledgerDb db) tenantId creditActivityLimit
  let holds := listHolds (pauses.holdsDb db) tenantId creditActivityLimit
  {
    balance := readBalance db pauses.sums tenantId,
    ledger,
    holds,
    truncated := creditActivityLimit ≤ ledger.length ∨ creditActivityLimit ≤ holds.length
  }

def CreditRead.args (read : CreditRead) (enforcement : EnforcementState)
    (creditsApply topUpAvailable : Bool) : CreditViewArgs where
  balance := read.balance
  ledger := read.ledger
  holds := read.holds
  enforcement := enforcement
  truncated := read.truncated
  creditsApply := creditsApply
  topUpAvailable := topUpAvailable

-----------------------------------------------------------------------------------------
-- What the reads leave out
-----------------------------------------------------------------------------------------

/-- The rows past the limit. -/
def cutRows (db : CreditDb) (tenantId : String) : List LedgerRow :=
  (sortBy rowKey (ledgerOf db tenantId)).drop creditActivityLimit

/-- The holds past the limit. -/
def cutHolds (db : CreditDb) (tenantId : String) : List HoldRow :=
  (sortBy holdKey (holdsOf db tenantId)).drop creditActivityLimit

/-- The rows that the ledger has by now, and did not have before. -/
def writtenSince (before now : CreditDb) (tenantId : String) : List LedgerRow :=
  (ledgerOf now tenantId).filter fun row => row ∉ ledgerOf before tenantId

/-- What the line of a hold is sorted by: the time of its settlement, where it has one. -/
def settledKey (hold : HoldRow) : (Lex (String × String))ᵒᵈ :=
  OrderDual.toDual (toLex (holdTime hold, hold.id))

/-- The two cuts line up: nothing that is left out is newer than something that is read. Rows past the
limit are older than the rows that are read, so nothing is asked of these two.
-/
structure CutsAgree (ledgerDb holdsDb : CreditDb) (tenantId : String) : Prop where
  rows_rows
    : ∀ left ∈ writtenSince ledgerDb holdsDb tenantId,
        ∀ row ∈ listLedger ledgerDb tenantId creditActivityLimit, rowKey row ≤ rowKey left
  rows_holds
    : ∀ left ∈ cutRows ledgerDb tenantId ++ writtenSince ledgerDb holdsDb tenantId,
        ∀ hold ∈ listHolds holdsDb tenantId creditActivityLimit,
          hold.status ≠ .captured → settledKey hold ≤ rowKey left
  holds_rows
    : ∀ left ∈ cutHolds holdsDb tenantId, left.status ≠ .captured →
        ∀ row ∈ listLedger ledgerDb tenantId creditActivityLimit, rowKey row ≤ settledKey left
  holds_holds
    : ∀ left ∈ cutHolds holdsDb tenantId, left.status ≠ .captured →
        ∀ hold ∈ listHolds holdsDb tenantId creditActivityLimit,
          hold.status ≠ .captured → settledKey hold ≤ settledKey left

-----------------------------------------------------------------------------------------
-- Keys
-----------------------------------------------------------------------------------------

theorem lineKey_ledgerLine (row : LedgerRow) : lineKey (ledgerLine row) = rowKey row :=
  rfl

theorem lineKey_holdLine {hold : HoldRow} {line : ActivityLine} (has : holdLine hold = some line)
    : lineKey line = settledKey hold := by
  obtain ⟨-, id, time, -⟩ := holdLine_fields has
  rw [lineKey, id, time]
  rfl

/-- A row past the limit is no newer than one that is read. -/
theorem rowKey_le_of_cut {db : CreditDb} {tenantId : String} {row left : LedgerRow}
    (isRead : row ∈ listLedger db tenantId creditActivityLimit)
    (isLeft : left ∈ cutRows db tenantId)
    : rowKey row ≤ rowKey left := by
  have ordered := pairwise_sortBy rowKey (ledgerOf db tenantId)
  rw [← List.take_append_drop creditActivityLimit (sortBy rowKey (ledgerOf db tenantId)),
    List.pairwise_append] at ordered
  exact ordered.2.2 row isRead left isLeft

/-- Every row is read, is past the limit, or was written since. -/
theorem ledger_split (db : CreditDb) (between : List CreditCall) (tenantId : String)
    : (ledgerOf (db.after between) tenantId).Perm
        (listLedger db tenantId creditActivityLimit
          ++ (cutRows db tenantId ++ writtenSince db (db.after between) tenantId)) := by
  obtain ⟨more, grown⟩ := ledger_after db between
  have rows :
      ledgerOf (db.after between) tenantId
        = ledgerOf db tenantId ++ more.filter fun row => row.tenantId = tenantId := by
    rw [ledgerOf, grown, List.filter_append]
    rfl
  have written :
      writtenSince db (db.after between) tenantId
        = more.filter fun row => row.tenantId = tenantId := by
    have once : (ledgerOf (db.after between) tenantId).Nodup :=
      List.Nodup.of_map LedgerRow.id (nodup_ids_ledger _ tenantId)
    rw [rows, List.nodup_append] at once
    have old : (ledgerOf db tenantId).filter (fun row => row ∉ ledgerOf db tenantId) = [] := by
      simp
    rw [writtenSince, rows, List.filter_append, old, List.nil_append, List.filter_eq_self]
    intro row isNew
    exact decide_eq_true fun isOld => once.2.2 row isOld row isNew rfl
  have read :
      listLedger db tenantId creditActivityLimit ++ cutRows db tenantId
        = sortBy rowKey (ledgerOf db tenantId) :=
    List.take_append_drop _ _
  rw [rows, written, ← List.append_assoc, read]
  exact (sortBy_perm rowKey _).symm.append_right _

theorem holds_split (db : CreditDb) (tenantId : String)
    : (holdsOf db tenantId).Perm
        (listHolds db tenantId creditActivityLimit ++ cutHolds db tenantId) := by
  rw [listHolds, cutHolds, List.take_append_drop]
  exact (sortBy_perm holdKey _).symm

/-- The lines that are left out. -/
def leftLines (ledgerDb holdsDb : CreditDb) (tenantId : String) : List ActivityLine :=
  feedLines (cutRows ledgerDb tenantId ++ writtenSince ledgerDb holdsDb tenantId)
    (cutHolds holdsDb tenantId)

theorem feedLines_split (db : CreditDb) (between : List CreditCall) (tenantId : String)
    : (feedLines (ledgerOf (db.after between) tenantId) (holdsOf (db.after between) tenantId)).Perm
        (feedLines (listLedger db tenantId creditActivityLimit)
            (listHolds (db.after between) tenantId creditActivityLimit)
          ++ leftLines db (db.after between) tenantId) := by
  have all := feedLines_perm (ledger_split db between tenantId)
    (holds_split (db.after between) tenantId)
  refine all.trans ?_
  rw [List.perm_iff_count]
  intro line
  simp only [feedLines, leftLines, List.map_append, List.filterMap_append, List.count_append]
  omega

theorem ledgerLine_mem {ledger : List LedgerRow} {row : LedgerRow} (isRow : row ∈ ledger)
    (holds : List HoldRow)
    : ledgerLine row ∈ feedLines ledger holds :=
  mem_feedLines.mpr (.inl ⟨row, isRow, rfl⟩)

theorem holdLine_mem {holds : List HoldRow} {hold : HoldRow} (isHold : hold ∈ holds)
    (uncaptured : hold.status ≠ .captured) (ledger : List LedgerRow)
    : ∃ line ∈ feedLines ledger holds, lineKey line = settledKey hold := by
  obtain ⟨line, has⟩ := Option.isSome_iff_exists.mp ((holdLine_isSome hold).mpr uncaptured)
  exact ⟨line, mem_feedLines.mpr (.inr ⟨hold, isHold, has⟩), lineKey_holdLine has⟩

/-- No line that is left out is newer than a line that is read exactly where the cuts line up. -/
theorem cutsAgree_iff (ledgerDb holdsDb : CreditDb) (tenantId : String)
    : CutsAgree ledgerDb holdsDb tenantId
      ↔ ∀ line ∈ feedLines (listLedger ledgerDb tenantId creditActivityLimit)
            (listHolds holdsDb tenantId creditActivityLimit),
          ∀ left ∈ leftLines ledgerDb holdsDb tenantId, lineKey line ≤ lineKey left := by
  constructor
  · intro agree line isLine left isLeft
    rcases mem_feedLines.mp isLine with ⟨row, isRow, rfl⟩ | ⟨hold, isHold, has⟩
    · rcases mem_feedLines.mp isLeft with ⟨row', isRow', rfl⟩ | ⟨hold', isHold', has'⟩
      · rcases List.mem_append.mp isRow' with cut | written
        · exact rowKey_le_of_cut isRow cut
        · exact agree.rows_rows row' written row isRow
      · rw [lineKey_holdLine has']
        exact agree.holds_rows hold' isHold' (holdLine_fields has').1 row isRow
    · rw [lineKey_holdLine has]
      rcases mem_feedLines.mp isLeft with ⟨row', isRow', rfl⟩ | ⟨hold', isHold', has'⟩
      · exact agree.rows_holds row' isRow' hold isHold (holdLine_fields has).1
      · rw [lineKey_holdLine has']
        exact agree.holds_holds hold' isHold' (holdLine_fields has').1 hold isHold
          (holdLine_fields has).1
  · intro before
    constructor
    · intro left isLeft row isRow
      have old := List.mem_append_right (cutRows ledgerDb tenantId) isLeft
      exact before _ (ledgerLine_mem isRow _) _ (ledgerLine_mem old _)
    · intro left isLeft hold isHold uncaptured
      obtain ⟨line, isLine, key⟩ := holdLine_mem isHold uncaptured
        (listLedger ledgerDb tenantId creditActivityLimit)
      rw [← key]
      exact before line isLine _ (ledgerLine_mem isLeft _)
    · intro left isLeft uncaptured row isRow
      obtain ⟨line, isLine, key⟩ := holdLine_mem isLeft uncaptured
        (cutRows ledgerDb tenantId ++ writtenSince ledgerDb holdsDb tenantId)
      rw [← key]
      exact before _ (ledgerLine_mem isRow _) line isLine
    · intro left isLeft uncaptured hold isHold read
      obtain ⟨line, isLine, key⟩ := holdLine_mem isHold read
        (listLedger ledgerDb tenantId creditActivityLimit)
      obtain ⟨other, isOther, otherKey⟩ := holdLine_mem isLeft uncaptured
        (cutRows ledgerDb tenantId ++ writtenSince ledgerDb holdsDb tenantId)
      rw [← key, ← otherKey]
      exact before line isLine other isOther

/-- The lines that are read are the front of all lines exactly where the cuts line up. -/
theorem feedLines_prefix_iff {db : CreditDb} {between : List CreditCall} {tenantId : String}
    (untwinned : Untwinned (db.after between) tenantId)
    : sortBy lineKey
          (feedLines (listLedger db tenantId creditActivityLimit)
            (listHolds (db.after between) tenantId creditActivityLimit))
        <+: sortBy lineKey
          (feedLines (ledgerOf (db.after between) tenantId) (holdsOf (db.after between) tenantId))
      ↔ CutsAgree db (db.after between) tenantId := by
  rw [cutsAgree_iff]
  exact sortBy_prefix_iff (distinct_feedLines untwinned) (feedLines_split db between tenantId)

-----------------------------------------------------------------------------------------
-- The feed that is answered
-----------------------------------------------------------------------------------------

/-- What the feed promises: built from all rows and holds it is complete, and where the route cuts it,
what is answered is its front.
-/
structure FeedSound (db : CreditDb) (pauses : Pauses) (tenantId : String) : Prop where
  complete
    : ∀ args : CreditViewArgs,
        args.ledger.Perm (ledgerOf (pauses.holdsDb db) tenantId)
        → args.holds.Perm (holdsOf (pauses.holdsDb db) tenantId)
        → CompleteFeed (pauses.holdsDb db) tenantId args
  cut
    : ∀ enforcement creditsApply topUpAvailable,
        let read := readCreditActivity db pauses tenantId
        let args := read.args enforcement creditsApply topUpAvailable
        let whole :=
          { args with
            ledger := ledgerOf (pauses.holdsDb db) tenantId,
            holds := holdsOf (pauses.holdsDb db) tenantId }
        (buildTenantCreditView args).activityTruncated = true
        → (buildTenantCreditView args).activity <+: (buildTenantCreditView whole).activity

/-- A sound feed that is cut has the front of all lines. -/
theorem FeedSound.front {db : CreditDb} {pauses : Pauses} {tenantId : String}
    (sound : FeedSound db pauses tenantId)
    (truncated : (readCreditActivity db pauses tenantId).truncated = true)
    : sortBy lineKey
          (feedLines (listLedger (pauses.ledgerDb db) tenantId creditActivityLimit)
            (listHolds (pauses.holdsDb db) tenantId creditActivityLimit))
        <+: sortBy lineKey
          (feedLines (ledgerOf (pauses.holdsDb db) tenantId)
            (holdsOf (pauses.holdsDb db) tenantId)) := by
  have answered :=
    sound.cut { configured := false, applied := false, reason := none } false false truncated
  rw [activity_eq, activity_eq] at answered
  exact answered

/-- The feed keeps its promises exactly where no hold is the twin of a row, and where it is not cut or
its cuts line up.
-/
theorem feedSound_iff (db : CreditDb) (pauses : Pauses) (tenantId : String)
    : FeedSound db pauses tenantId
      ↔ Untwinned (pauses.holdsDb db) tenantId
        ∧ ((readCreditActivity db pauses tenantId).truncated = true
          → CutsAgree (pauses.ledgerDb db) (pauses.holdsDb db) tenantId) := by
  constructor
  · intro sound
    let none : EnforcementState := { configured := false, applied := false, reason := Option.none }
    let read := readCreditActivity db pauses tenantId
    have untwinned := (completeFeed_iff (.refl _) (.refl _)).mp
      (sound.complete
        { read.args none false false with
          ledger := ledgerOf (pauses.holdsDb db) tenantId,
          holds := holdsOf (pauses.holdsDb db) tenantId }
        (.refl _) (.refl _))
    exact ⟨untwinned, fun truncated => (feedLines_prefix_iff untwinned).mp (sound.front truncated)⟩
  · intro h
    obtain ⟨untwinned, agree⟩ := h
    refine ⟨fun args ledger holds => (completeFeed_iff ledger holds).mpr untwinned, ?_⟩
    intro enforcement creditsApply topUpAvailable read args whole truncated
    rw [activity_eq, activity_eq]
    exact (feedLines_prefix_iff untwinned).mpr (agree truncated)

-----------------------------------------------------------------------------------------
-- Cuts that do not line up
-----------------------------------------------------------------------------------------

/-- A number as strokes. -/
def strokes (n : Nat) : String :=
  String.ofList (List.replicate n 'i')

theorem strokes_injective {m n : Nat} (same : strokes m = strokes n) : m = n := by
  have lists := String.ofList_inj.mp same
  rw [← List.length_replicate (n := m) (a := 'i'), lists, List.length_replicate]

/-- A purchase of the second day. -/
def topUp (n : Nat) : LedgerRow where
  id := "led_" ++ strokes n
  tenantId := "ten_1"
  kind := .purchase
  deltaMicroUsd := 10000000
  idemRef := strokes n
  createdAt := "2026-01-02"

/-- A reservation of the first day. -/
def firstHold : HoldRow where
  id := "hold_1"
  tenantId := "ten_1"
  jobRef := "job_1"
  amountMicroUsd := 1
  status := .opened
  priceListId := "prices_1"
  createdAt := "2026-01-01"
  expiresAt := "2026-01-09"

/-- 51 purchases after one reservation. -/
def busyDb : CreditDb where
  tenants := ["ten_1"]
  holds := .singleton firstHold
  ledger :=
    {
      rows := (List.range 51).map topUp,
      unique := by
        rw [List.map_map]
        refine List.Nodup.map ?_ List.nodup_range
        intro m n same
        exact strokes_injective ((String.append_right_inj _).mp same)
    }
  holdRefs := List.nodup_singleton _
  ledgerRefs := by
    rw [List.map_map]
    refine List.Nodup.map ?_ List.nodup_range
    intro m n same
    exact strokes_injective (Prod.mk.inj same).2
  amounts := by simp [firstHold]
  signs := by simp [topUp, LedgerRow.SignFollowsKind]
  holdTenants := by simp [firstHold]
  ledgerTenants := by simp [topUp]
  ledgerHolds := by simp [topUp]

theorem ledgerOf_busyDb : ledgerOf busyDb "ten_1" = (List.range 51).map topUp := by
  simp [ledgerOf, busyDb, topUp]

theorem holdsOf_busyDb : holdsOf busyDb "ten_1" = [firstHold] := by
  decide

theorem createdAt_busyDb {row : LedgerRow} (isRow : row ∈ ledgerOf busyDb "ten_1")
    : row.createdAt = "2026-01-02" := by
  rw [ledgerOf_busyDb] at isRow
  obtain ⟨n, -, rfl⟩ := List.mem_map.mp isRow
  rfl

theorem untwinned_busyDb : Untwinned busyDb "ten_1" := by
  intro row isRow hold isHold _ _
  rw [holdsOf_busyDb, List.mem_singleton] at isHold
  rw [createdAt_busyDb isRow, isHold]
  decide

/-- One purchase is past the limit. -/
theorem length_busyDb
    : (sortBy rowKey (ledgerOf busyDb "ten_1")).length = creditActivityLimit + 1 := by
  rw [(sortBy_perm rowKey _).length_eq, ledgerOf_busyDb, List.length_map, List.length_range]
  rfl

/-- The cuts do not line up: the reservation is read, and a purchase of the day after it is not. -/
theorem not_cutsAgree_busyDb : ¬CutsAgree busyDb busyDb "ten_1" := by
  intro agree
  have some : cutRows busyDb "ten_1" ≠ [] := by
    intro none
    have length := congrArg List.length none
    rw [cutRows, List.length_drop, length_busyDb] at length
    simp at length
  obtain ⟨left, more, cut⟩ := List.exists_cons_of_ne_nil some
  have isCut : left ∈ cutRows busyDb "ten_1" := cut ▸ List.mem_cons_self
  have isRow := (sortBy_perm rowKey _).subset (List.mem_of_mem_drop isCut)
  have isHold : firstHold ∈ listHolds busyDb "ten_1" creditActivityLimit := by
    rw [listHolds, holdsOf_busyDb]
    exact List.mem_cons_self
  have older :=
    agree.rows_holds left (List.mem_append_left _ isCut) firstHold isHold (by decide)
  have firstTime : holdTime firstHold = "2026-01-01" := rfl
  rw [settledKey, rowKey, createdAt_busyDb isRow, firstTime, OrderDual.toDual_le_toDual,
    Prod.Lex.toLex_le_toLex] at older
  rcases older with later | ⟨same, -⟩
  · have dayLater : "2026-01-02" < "2026-01-01" := later
    exact absurd dayLater (by decide)
  · have sameDay : "2026-01-02" = "2026-01-01" := same
    exact absurd sameDay (by decide)

def noPauses : Pauses where
  sums := []
  ledger := []
  holds := []

theorem ledgerDb_noPauses (db : CreditDb) : noPauses.ledgerDb db = db := rfl

/-- What is answered is not the front of the whole feed. -/
theorem busyDb_cut : ¬FeedSound busyDb noPauses "ten_1" := by
  intro sound
  have truncated : (readCreditActivity busyDb noPauses "ten_1").truncated = true := by
    have full : creditActivityLimit ≤ (listLedger busyDb "ten_1" creditActivityLimit).length := by
      rw [listLedger, List.length_take, length_busyDb]
      exact Nat.le_min.mpr ⟨Nat.le_refl _, Nat.le_succ _⟩
    simp only [readCreditActivity, ledgerDb_noPauses]
    exact decide_eq_true (.inl full)
  have untwinned : Untwinned ((noPauses.ledgerDb busyDb).after noPauses.holds) "ten_1" :=
    untwinned_busyDb
  exact not_cutsAgree_busyDb ((feedLines_prefix_iff untwinned).mp (sound.front truncated))

end ControlPlane.Credits
