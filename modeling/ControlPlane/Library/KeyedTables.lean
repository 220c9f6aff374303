import Mathlib.Algebra.BigOperators.Group.List.Basic
import Mathlib.Algebra.Ring.Int.Defs
import Mathlib.Data.List.Nodup

/-! Tables with a primary key. A statement that pins the key in its WHERE clause changes one
row or none; what it does to the table is told by what it does to the row its key finds.
-/

namespace ControlPlane.Library

variable {ρ : Type*} {κ : Type*}

/-- A table: rows no two of which share a key. -/
structure Keyed (key : ρ → κ) where
  rows : List ρ
  unique : (rows.map key).Nodup

/-- UPDATE ... SET set WHERE guard, for a SET clause that leaves the key alone. -/
structure Sweep (key : ρ → κ) where
  guard : ρ → Bool
  set : ρ → ρ
  keeps : ∀ row, key (set row) = key row

/-- UPDATE ... SET set WHERE key = target AND guard. -/
structure Update (key : ρ → κ) where
  target : κ
  guard : ρ → Bool
  set : ρ → ρ
  keeps : ∀ row, key (set row) = key row

/-- A column that is distinct down the rows stays so when a row with a new value follows. -/
theorem nodup_append_singleton {column : ρ → κ} {rows : List ρ} {row : ρ}
    (distinct : (rows.map column).Nodup) (new : ∀ old ∈ rows, column old ≠ column row)
    : ((rows ++ [row]).map column).Nodup := by
  rw [List.map_append, List.nodup_append]
  refine ⟨distinct, List.nodup_singleton _, ?_⟩
  intro taken old added isAdded same
  obtain ⟨before, member, isTaken⟩ := List.mem_map.mp old
  rw [List.map_singleton, List.mem_singleton] at isAdded
  exact new before member (isTaken.trans (same.trans isAdded))

/-- A sum over the rows a WHERE clause selects is a sum over all rows, with 0 elsewhere. -/
theorem sum_filter_map (p : ρ → Bool) (measure : ρ → Int) (rows : List ρ)
    : ((rows.filter p).map measure).sum
      = (rows.map fun row => if p row then measure row else 0).sum := by
  rw [List.sum_map_ite]
  simp

/-- What holds down the rows and of the next row holds down the longer table. -/
theorem forall_append_singleton {P : ρ → Prop} {rows : List ρ} {row : ρ}
    (before : ∀ old ∈ rows, P old) (added : P row)
    : ∀ old ∈ rows ++ [row], P old := by
  intro old member
  rcases List.mem_append.mp member with earlier | last
  · exact before old earlier
  · rw [List.mem_singleton.mp last]
    exact added

namespace Keyed

variable {key : ρ → κ}

def empty : Keyed key where
  rows := []
  unique := List.nodup_nil

def singleton (row : ρ) : Keyed key where
  rows := [row]
  unique := List.nodup_singleton (key row)

@[simp] theorem rows_empty : (empty : Keyed key).rows = [] := rfl

@[simp] theorem rows_singleton (row : ρ) : (singleton row : Keyed key).rows = [row] := rfl

variable [DecidableEq κ]

/-- SELECT * ... WHERE key = k. -/
def get? (table : Keyed key) (k : κ) : Option ρ :=
  table.rows.find? fun row => key row = k

/-- The row found under a key has that key. -/
theorem get?_key {table : Keyed key} {k : κ} {row : ρ} (found : table.get? k = some row)
    : key row = k := by
  simpa using List.find?_some found

/-- The row found under a key is a row of the table. -/
theorem get?_mem {table : Keyed key} {k : κ} {row : ρ} (found : table.get? k = some row)
    : row ∈ table.rows :=
  List.mem_of_find?_eq_some found

/-- Every row is the one its key finds, by uniqueness of the keys. -/
theorem get?_of_mem {table : Keyed key} {row : ρ} (member : row ∈ table.rows)
    : table.get? (key row) = some row := by
  obtain ⟨rows, unique⟩ := table
  change rows.find? (fun other => key other = key row) = some row
  induction rows with
  | nil => exact absurd member List.not_mem_nil
  | cons head rest ih =>
      simp only [List.map_cons, List.nodup_cons] at unique
      rcases List.mem_cons.mp member with same | later
      · subst same
        simp
      · have differs : key head ≠ key row := by
          intro same
          exact unique.1 (same ▸ List.mem_map_of_mem later)
        simpa [differs] using ih unique.2 later

/-- Two rows of a table with one key are one row. -/
theorem eq_of_key {table : Keyed key} {row other : ρ} (first : row ∈ table.rows)
    (second : other ∈ table.rows) (same : key row = key other)
    : row = other := by
  have found := get?_of_mem first
  rw [same, get?_of_mem second] at found
  exact (Option.some.inj found).symm

/-- INSERT of a row whose key is not taken. -/
def insert (table : Keyed key) (row : ρ) (free : ∀ old ∈ table.rows, key old ≠ key row)
    : Keyed key where
  rows := table.rows ++ [row]
  unique := nodup_append_singleton table.unique free

/-- Looking a key up after an insert finds the new row, or what was there. -/
theorem get?_insert {table : Keyed key} {row : ρ}
    (free : ∀ old ∈ table.rows, key old ≠ key row) (k : κ)
    : (table.insert row free).get? k = if k = key row then some row else table.get? k := by
  split
  next same =>
    rw [same]
    exact get?_of_mem (List.mem_append_right _ (List.mem_singleton_self row))
  next apart =>
    simp only [get?, insert, List.find?_append]
    cases found : table.rows.find? fun old => key old = k with
    | some old => simp
    | none => simp [Ne.symm apart]

/-- A row found before an insert is found after it. -/
theorem get?_insert_of_found {table : Keyed key} {row old : ρ} {k : κ}
    (free : ∀ old ∈ table.rows, key old ≠ key row) (found : table.get? k = some old)
    : (table.insert row free).get? k = some old := by
  have apart : k ≠ key row := get?_key found ▸ free old (get?_mem found)
  rw [get?_insert, if_neg apart, found]

/-- The row that was inserted is found under its key. -/
theorem get?_insert_self {table : Keyed key} {row : ρ}
    (free : ∀ old ∈ table.rows, key old ≠ key row)
    : (table.insert row free).get? (key row) = some row := by
  rw [get?_insert, if_pos rfl]

/-- DELETE of the rows that fail a test. -/
def filter (table : Keyed key) (keep : ρ → Bool) : Keyed key where
  rows := table.rows.filter keep
  unique := table.unique.sublist (List.filter_sublist.map key)

/-- A DELETE that keeps all rows under a key does not change what the key finds, by induction
on the table.
-/
theorem get?_filter {table : Keyed key} {keep : ρ → Bool} {k : κ}
    (kept : ∀ row ∈ table.rows, key row = k → keep row)
    : (table.filter keep).get? k = table.get? k := by
  obtain ⟨rows, unique⟩ := table
  change (rows.filter keep).find? _ = rows.find? _
  simp only at kept
  clear unique
  induction rows with
  | nil => rfl
  | cons head rest ih =>
      have onRest := ih fun row member => kept row (List.mem_cons_of_mem _ member)
      by_cases found : key head = k
      · simp [kept head List.mem_cons_self found, found]
      · by_cases keeps : keep head
        · simpa [keeps, found] using onRest
        · simpa [keeps, found] using onRest

/-- After a DELETE a key finds what it found before, if that passes the test. -/
theorem get?_filter_eq (table : Keyed key) (keep : ρ → Bool) (k : κ)
    : (table.filter keep).get? k = (table.get? k).filter keep := by
  cases found : table.get? k with
  | none =>
      refine List.find?_eq_none.mpr fun row member => ?_
      exact List.find?_eq_none.mp found row (List.mem_of_mem_filter member)
  | some row =>
      by_cases keeps : keep row
      · rw [get?_filter fun other member keyed => ?_, found, Option.filter_some, if_pos keeps]
        rwa [eq_of_key member (get?_mem found) (keyed.trans (get?_key found).symm)]
      · rw [Option.filter_some, if_neg keeps]
        refine List.find?_eq_none.mpr fun other member same => ?_
        have keyed : key other = k := by simpa using same
        have among := List.mem_filter.mp member
        rw [eq_of_key among.1 (get?_mem found) (keyed.trans (get?_key found).symm)] at among
        exact keeps among.2

/-- INSERT OR IGNORE of a row. -/
def insertOrIgnore (table : Keyed key) (row : ρ) : Keyed key :=
  if free : ∀ old ∈ table.rows, key old ≠ key row then table.insert row free else table

/-- A batch of INSERT OR IGNORE statements, in order. -/
def insertAll (table : Keyed key) (added : List ρ) : Keyed key :=
  added.foldl insertOrIgnore table

/-- The rows of a batch that are not ignored. -/
def newRows (table : Keyed key) (added : List ρ) : List ρ :=
  (table.insertAll added).rows.drop table.rows.length

/-- What a row inserted or ignored adds behind the table: itself or nothing. -/
theorem insertOrIgnore_rows (table : Keyed key) (row : ρ)
    : (table.insertOrIgnore row).rows = table.rows
      ∨ (table.insertOrIgnore row).rows = table.rows ++ [row] := by
  unfold insertOrIgnore
  split
  · exact .inr rfl
  · exact .inl rfl

/-- A row inserted or ignored leaves its key in the table. -/
theorem key_mem_insertOrIgnore (table : Keyed key) (row : ρ)
    : key row ∈ (table.insertOrIgnore row).rows.map key := by
  unfold insertOrIgnore
  split
  · simp [insert]
  · next taken =>
      simp only [not_forall, not_not] at taken
      obtain ⟨old, member, same⟩ := taken
      exact same ▸ List.mem_map_of_mem member

/-- A batch appends some of its rows to the table, by induction on the batch. -/
theorem insertAll_rows (table : Keyed key) (added : List ρ)
    : ∃ new, (table.insertAll added).rows = table.rows ++ new ∧ new.Sublist added := by
  induction added generalizing table with
  | nil => exact ⟨[], by simp [insertAll], .refl _⟩
  | cons row rest ih =>
      obtain ⟨new, grown, among⟩ := ih (table.insertOrIgnore row)
      change (table.insertAll (row :: rest)).rows = _ at grown
      rcases table.insertOrIgnore_rows row with ignored | inserted
      · exact ⟨new, by rw [grown, ignored], among.cons row⟩
      · refine ⟨row :: new, ?_, among.cons_cons row⟩
        rw [grown, inserted, List.append_assoc, List.singleton_append]

/-- A batch appends its new rows, which are among its rows. -/
theorem insertAll_newRows (table : Keyed key) (added : List ρ)
    : (table.insertAll added).rows = table.rows ++ table.newRows added
      ∧ (table.newRows added).Sublist added := by
  obtain ⟨new, grown, among⟩ := table.insertAll_rows added
  have same : table.newRows added = new := by
    rw [newRows, grown, List.drop_left]
  exact ⟨same ▸ grown, same ▸ among⟩

/-- The first of the rows under each key, in order. -/
def firstCopies (key : ρ → κ) : List ρ → List ρ
  | [] => []
  | row :: rest => row :: (firstCopies key rest).filter fun other => key other ≠ key row

/-- A batch appends the first copies of the keys that are not taken, by induction on the batch. -/
theorem insertAll_firstCopies (table : Keyed key) (added : List ρ)
    : (table.insertAll added).rows
      = table.rows
        ++ (firstCopies key added).filter fun row => key row ∉ table.rows.map key := by
  induction added generalizing table with
  | nil => simp [insertAll, firstCopies]
  | cons row rest ih =>
      change ((table.insertOrIgnore row).insertAll rest).rows = _
      rw [ih, firstCopies, List.filter_cons, List.filter_filter]
      by_cases taken : key row ∈ table.rows.map key
      · have ignored : table.insertOrIgnore row = table := by
          obtain ⟨old, member, same⟩ := List.mem_map.mp taken
          exact dif_neg fun free => free old member same
        rw [ignored, if_neg (by simpa using taken)]
        refine congrArg _ (List.filter_congr fun other _ => ?_)
        -- a copy of the ignored row is ignored for the same reason
        by_cases same : key other = key row
        · simp [same, taken]
        · simp [same]
      · have inserted : (table.insertOrIgnore row).rows = table.rows ++ [row] := by
          have free : ∀ old ∈ table.rows, key old ≠ key row :=
            fun old member same => taken (same ▸ List.mem_map_of_mem member)
          rw [insertOrIgnore, dif_pos free, insert]
        rw [inserted, if_pos (by simpa using taken), List.append_assoc, List.singleton_append]
        refine congrArg (fun new => table.rows ++ row :: new) (List.filter_congr fun other _ => ?_)
        simp [not_or, Bool.and_comm]

/-- A table that starts empty holds the first copies of what was inserted or ignored. -/
theorem insertAll_empty (added : List ρ)
    : ((empty : Keyed key).insertAll added).rows = firstCopies key added := by
  rw [insertAll_firstCopies]
  simp

/-- A batch leaves the key of each of its rows in the table, by induction on the batch. -/
theorem key_mem_insertAll {table : Keyed key} {added : List ρ} {row : ρ} (member : row ∈ added)
    : key row ∈ (table.insertAll added).rows.map key := by
  induction added generalizing table with
  | nil => exact absurd member List.not_mem_nil
  | cons head rest ih =>
      rcases List.mem_cons.mp member with same | later
      · obtain ⟨new, grown, _⟩ := (table.insertOrIgnore head).insertAll_rows rest
        change (table.insertAll (head :: rest)).rows = _ at grown
        rw [grown, List.map_append, same]
        exact List.mem_append_left _ (table.key_mem_insertOrIgnore head)
      · exact @ih (table.insertOrIgnore head) later

end Keyed

namespace Sweep

variable {key : ρ → κ}

/-- The statement's effect on one row. -/
def onRow (sweep : Sweep key) (row : ρ) : ρ :=
  if sweep.guard row then sweep.set row else row

/-- What the SET clause keeps of the rows it is run on, the statement keeps. -/
theorem onRow_keeps {δ : Type*} (sweep : Sweep key) (column : ρ → δ)
    (kept : ∀ row, sweep.guard row → column (sweep.set row) = column row) (row : ρ)
    : column (sweep.onRow row) = column row := by
  by_cases met : sweep.guard row
  · rw [onRow, if_pos met, kept row met]
  · rw [onRow, if_neg met]

/-- A column the SET clause keeps is kept all down the table. -/
theorem map_onRow {δ : Type*} (sweep : Sweep key) (column : ρ → δ)
    (kept : ∀ row, sweep.guard row → column (sweep.set row) = column row) (rows : List ρ)
    : (rows.map sweep.onRow).map column = rows.map column := by
  rw [List.map_map]
  exact List.map_congr_left fun row _ => sweep.onRow_keeps column kept row

/-- The table after the statement. -/
def apply (sweep : Sweep key) (table : Keyed key) : Keyed key where
  rows := table.rows.map sweep.onRow
  unique := sweep.map_onRow key (fun row _ => sweep.keeps row) table.rows ▸ table.unique

/-- How many rows the statement changes (meta.changes). -/
def changes (sweep : Sweep key) (table : Keyed key) : Nat :=
  table.rows.countP sweep.guard

/-- The rows after a statement are the rows it made of the old ones. -/
theorem mem_apply {sweep : Sweep key} {table : Keyed key} {row : ρ}
    : row ∈ (sweep.apply table).rows ↔ ∃ old ∈ table.rows, sweep.onRow old = row := by
  simp only [apply, List.mem_map]

/-- A row after a statement was matched and set, or missed and left alone. -/
theorem mem_apply_cases {sweep : Sweep key} {table : Keyed key} {row : ρ}
    (member : row ∈ (sweep.apply table).rows)
    : (∃ old ∈ table.rows, sweep.guard old ∧ row = sweep.set old) ∨ row ∈ table.rows := by
  obtain ⟨old, earlier, became⟩ := mem_apply.mp member
  by_cases met : sweep.guard old
  · rw [onRow, if_pos met] at became
    exact .inl ⟨old, earlier, met, became.symm⟩
  · rw [onRow, if_neg met] at became
    exact .inr (became ▸ earlier)

/-- Looking a key up after a statement finds the row the statement made of it, by induction
on the table.
-/
theorem get?_apply [DecidableEq κ] (sweep : Sweep key) (table : Keyed key) (k : κ)
    : (sweep.apply table).get? k = (table.get? k).map sweep.onRow := by
  obtain ⟨rows, unique⟩ := table
  change (rows.map sweep.onRow).find? _ = (rows.find? _).map _
  clear unique
  induction rows with
  | nil => rfl
  | cons head rest ih =>
      have sameKey := sweep.onRow_keeps key (fun row _ => sweep.keeps row) head
      by_cases found : key head = k
      · simp [found, sameKey]
      · simpa [found, sameKey] using ih

/-- A statement whose WHERE clause matches no row changes nothing. -/
theorem apply_eq_self {sweep : Sweep key} {table : Keyed key}
    (missed : ∀ row ∈ table.rows, ¬ sweep.guard row)
    : sweep.apply table = table := by
  obtain ⟨rows, unique⟩ := table
  have same : rows.map sweep.onRow = rows := by
    refine (List.map_congr_left ?_).trans (List.map_id rows)
    intro row member
    rw [onRow, if_neg (missed row member), id]
  simp only [apply, Keyed.mk.injEq]
  exact same

/-- A statement that matches one row moves a sum over the table by what it does to it, by
induction on the table.
-/
theorem sum_apply_of_one [DecidableEq κ] {sweep : Sweep key} {table : Keyed key} {row : ρ}
    (member : row ∈ table.rows) (met : sweep.guard row)
    (only : ∀ other ∈ table.rows, sweep.guard other → key other = key row)
    (measure : ρ → Int)
    : ((sweep.apply table).rows.map measure).sum
      = (table.rows.map measure).sum + measure (sweep.set row) - measure row := by
  obtain ⟨rows, unique⟩ := table
  change ((rows.map sweep.onRow).map measure).sum = (rows.map measure).sum + _ - _
  simp only at member only
  induction rows with
  | nil => exact absurd member List.not_mem_nil
  | cons head rest ih =>
      simp only [List.map_cons, List.nodup_cons] at unique
      rcases List.mem_cons.mp member with same | later
      · subst same
        have untouched : rest.map sweep.onRow = rest := by
          refine (List.map_congr_left ?_).trans (List.map_id rest)
          intro other inRest
          refine if_neg fun matched => ?_
          have keyed := only other (List.mem_cons_of_mem _ inRest) matched
          exact unique.1 (keyed ▸ List.mem_map_of_mem inRest)
        simp only [List.map_cons, List.sum_cons, untouched, onRow, if_pos met]
        omega
      · have missed : ¬ sweep.guard head := by
          intro matched
          have keyed := only head List.mem_cons_self matched
          exact unique.1 (keyed ▸ List.mem_map_of_mem later)
        have onRest := ih unique.2 later fun other inRest =>
          only other (List.mem_cons_of_mem _ inRest)
        simp only [List.map_cons, List.sum_cons, onRest, onRow, if_neg missed]
        omega

end Sweep

namespace Update

variable {key : ρ → κ} [DecidableEq κ]

/-- The statement, with the key test as part of its WHERE clause. -/
def toSweep (update : Update key) : Sweep key where
  guard row := key row = update.target ∧ update.guard row
  set := update.set
  keeps := update.keeps

/-- The statement's effect on one row. -/
def onRow (update : Update key) (row : ρ) : ρ :=
  update.toSweep.onRow row

/-- The table after the statement. -/
def apply (update : Update key) (table : Keyed key) : Keyed key :=
  update.toSweep.apply table

/-- How many rows the statement changes (meta.changes). -/
def changes (update : Update key) (table : Keyed key) : Nat :=
  update.toSweep.changes table

/-- The first row the statement returns (RETURNING *). -/
def returning (update : Update key) (table : Keyed key) : Option ρ :=
  ((table.get? update.target).filter update.guard).map update.set

/-- A row outside the WHERE clause is left alone. -/
theorem onRow_of_not {update : Update key} {row : ρ}
    (misses : ¬ (key row = update.target ∧ update.guard row))
    : update.onRow row = row := by
  exact if_neg (by simpa [toSweep] using misses)

/-- A row that meets the WHERE clause is set. -/
theorem onRow_of_match {update : Update key} {row : ρ} (keyed : key row = update.target)
    (met : update.guard row)
    : update.onRow row = update.set row := by
  exact if_pos (by simp [toSweep, keyed, met])

/-- A statement sets a row that meets its guard, or leaves it alone. -/
theorem onRow_cases (update : Update key) (row : ρ)
    : update.onRow row = row ∨ (update.guard row ∧ update.onRow row = update.set row) := by
  by_cases met : key row = update.target ∧ update.guard row
  · exact .inr ⟨met.2, onRow_of_match met.1 met.2⟩
  · exact .inl (onRow_of_not met)

/-- A row after a statement is the one it matched, set, or was there before. -/
theorem mem_apply_cases {update : Update key} {table : Keyed key} {row : ρ}
    (member : row ∈ (update.apply table).rows)
    : (∃ old ∈ table.rows, table.get? update.target = some old ∧ update.guard old
        ∧ row = update.set old)
      ∨ row ∈ table.rows := by
  rcases Sweep.mem_apply_cases member with ⟨old, earlier, matched, became⟩ | earlier
  · simp only [toSweep, decide_eq_true_eq] at matched
    obtain ⟨keyed, met⟩ := matched
    exact .inl ⟨old, earlier, keyed ▸ Keyed.get?_of_mem earlier, met, became⟩
  · exact .inr earlier

/-- Looking a key up after a statement finds the row the statement made of it. -/
theorem get?_apply (update : Update key) (table : Keyed key) (k : κ)
    : (update.apply table).get? k = (table.get? k).map update.onRow :=
  update.toSweep.get?_apply table k

/-- A statement that misses the row under a key leaves that row as it is. -/
theorem get?_apply_of_not (update : Update key) {table : Keyed key} {k : κ} {row : ρ}
    (found : table.get? k = some row) (misses : ¬ (k = update.target ∧ update.guard row))
    : (update.apply table).get? k = some row := by
  have keyed := Keyed.get?_key found
  rw [get?_apply, found, Option.map_some, onRow_of_not (by rwa [keyed])]

/-- A statement that matches the row under its key replaces that row. -/
theorem get?_apply_of_match (update : Update key) {table : Keyed key} {row : ρ}
    (found : table.get? update.target = some row) (met : update.guard row)
    : (update.apply table).get? update.target = some (update.set row) := by
  have keyed := Keyed.get?_key found
  have matched : update.toSweep.guard row := by
    simp [toSweep, keyed, met]
  rw [get?_apply, found, Option.map_some, onRow, Sweep.onRow, if_pos matched]
  rfl

/-- A statement leaves the rows under all other keys. -/
theorem get?_apply_of_ne (update : Update key) (table : Keyed key) {k : κ}
    (apart : k ≠ update.target)
    : (update.apply table).get? k = table.get? k := by
  cases found : table.get? k with
  | none => rw [get?_apply, found, Option.map_none]
  | some row => exact update.get?_apply_of_not found fun hit => apart hit.1

/-- A statement that matches a row leaves that row set, and all rows under other keys. -/
theorem mem_apply_of_match {update : Update key} {table : Keyed key} {old : ρ}
    (found : table.get? update.target = some old) (met : update.guard old) (row : ρ)
    : row ∈ (update.apply table).rows
      ↔ row = update.set old ∨ row ∈ table.rows ∧ key row ≠ update.target := by
  have matched := update.get?_apply_of_match found met
  constructor
  · intro member
    have isFound := Keyed.get?_of_mem member
    by_cases same : key row = update.target
    · rw [same, matched] at isFound
      exact .inl (Option.some.inj isFound).symm
    · rw [update.get?_apply_of_ne table same] at isFound
      exact .inr ⟨Keyed.get?_mem isFound, same⟩
  · intro either
    rcases either with rfl | ⟨member, apart⟩
    · exact Keyed.get?_mem matched
    · refine Keyed.get?_mem (k := key row) ?_
      rw [update.get?_apply_of_ne table apart, Keyed.get?_of_mem member]

/-- The change count is one exactly when the row under the key meets the guard. -/
theorem changes_eq_one (update : Update key) (table : Keyed key)
    : update.changes table = 1
      ↔ ∃ row, table.get? update.target = some row ∧ update.guard row := by
  obtain ⟨rows, unique⟩ := table
  change rows.countP (fun row => key row = update.target ∧ update.guard row) = 1
    ↔ ∃ row, rows.find? (fun row => key row = update.target) = some row ∧ update.guard row
  induction rows with
  | nil => simp
  | cons head rest ih =>
      simp only [List.map_cons, List.nodup_cons] at unique
      by_cases found : key head = update.target
      · have noneLeft
            : rest.countP (fun row => key row = update.target ∧ update.guard row) = 0 := by
          refine List.countP_eq_zero.mpr fun row member => ?_
          have differs : key row ≠ update.target := by
            intro same
            exact unique.1 (found ▸ same ▸ List.mem_map_of_mem member)
          simp [differs]
        rw [List.countP_cons, noneLeft]
        by_cases met : update.guard head <;> simp [found, met]
      · simpa [List.countP_cons, found] using ih unique.2

/-- A statement returns a row exactly when it changed one, and returns it changed. -/
theorem returning_eq_some {update : Update key} {table : Keyed key} {returned : ρ}
    : update.returning table = some returned
      ↔ ∃ row, table.get? update.target = some row ∧ update.guard row
          ∧ update.set row = returned := by
  simp [returning, Option.filter_eq_some_iff, and_assoc]

/-- A statement that returns nothing changes nothing. -/
theorem apply_eq_self {update : Update key} {table : Keyed key}
    (nothing : update.returning table = none)
    : update.apply table = table := by
  refine Sweep.apply_eq_self fun row member matched => ?_
  simp only [toSweep, decide_eq_true_eq] at matched
  obtain ⟨keyed, met⟩ := matched
  have found : table.get? update.target = some row :=
    keyed ▸ Keyed.get?_of_mem member
  simp [returning, found, met] at nothing

/-- The table after statements run in order. -/
def applyAll (updates : List (Update key)) (table : Keyed key) : Keyed key :=
  updates.foldl (fun current update => update.apply current) table

@[simp] theorem applyAll_nil (table : Keyed key)
    : applyAll [] table = table :=
  rfl

@[simp] theorem applyAll_cons (update : Update key) (rest : List (Update key))
    (table : Keyed key)
    : applyAll (update :: rest) table = applyAll rest (update.apply table) :=
  rfl

theorem applyAll_append (first second : List (Update key)) (table : Keyed key)
    : applyAll (first ++ second) table = applyAll second (applyAll first table) := by
  simp only [applyAll, List.foldl_append]

/-- What every statement of a list keeps of the row under a key, the list keeps, by
induction on the statements.
-/
theorem applyAll_invariant {Inv : ρ → Prop} {k : κ} {updates : List (Update key)}
    {table : Keyed key} {row : ρ}
    (keeps
      : ∀ update ∈ updates, ∀ old, key old = k → Inv old → update.target = k
        → update.guard old → Inv (update.set old))
    (found : table.get? k = some row) (start : Inv row)
    : ∃ later, (applyAll updates table).get? k = some later ∧ Inv later := by
  induction updates generalizing table row with
  | nil => exact ⟨row, found, start⟩
  | cons update rest ih =>
      have keyed := Keyed.get?_key found
      have restKeeps := fun other member => keeps other (List.mem_cons_of_mem _ member)
      by_cases matched : k = update.target ∧ update.guard row
      · obtain ⟨same, met⟩ := matched
        have changed : (update.apply table).get? k = some (update.set row) := by
          rw [same] at found ⊢
          exact get?_apply_of_match update found met
        have kept := keeps update List.mem_cons_self row keyed start same.symm met
        exact ih restKeeps changed kept
      · exact ih restKeeps (get?_apply_of_not update found matched) start

end Update

namespace Keyed

variable {key : ρ → κ} [DecidableEq κ]

/-- INSERT ... ON CONFLICT (key) DO UPDATE SET set. -/
def upsert (table : Keyed key) (row : ρ) (set : ρ → ρ) (keeps : ∀ old, key (set old) = key old)
    : Keyed key :=
  if free : ∀ old ∈ table.rows, key old ≠ key row then
    table.insert row free
  else
    Update.apply
      { target := key row
        guard := fun _ => true
        set := set
        keeps := keeps }
      table

/-- An upsert leaves the new row under its key, or what the conflict makes of the old one, and
nothing else changes.
-/
theorem get?_upsert (table : Keyed key) (row : ρ) {set : ρ → ρ}
    (keeps : ∀ old, key (set old) = key old) (k : κ)
    : (table.upsert row set keeps).get? k
      = if k = key row then some ((table.get? k).elim row set) else table.get? k := by
  unfold upsert
  split
  · next free =>
      have absent : table.get? (key row) = none := by
        refine List.find?_eq_none.mpr fun old member => ?_
        simpa using free old member
      change (table.rows ++ [row]).find? _ = _
      rw [List.find?_append]
      by_cases same : k = key row
      · subst same
        change (table.get? (key row)).or _ = _
        simp [absent]
      · have differs : key row ≠ k := fun isKey => same isKey.symm
        simp [differs, same, get?]
  · next taken =>
      simp only [not_forall, not_not] at taken
      obtain ⟨old, member, keyed⟩ := taken
      by_cases same : k = key row
      · subst same
        have found : table.get? (key row) = some old := keyed ▸ get?_of_mem member
        have changed := Update.get?_apply_of_match
          { target := key row, guard := fun _ => true, set := set, keeps := keeps } found rfl
        rw [changed, found, if_pos rfl, Option.elim_some]
      · rw [if_neg same, Update.get?_apply]
        cases found : table.get? k with
        | none => rfl
        | some other =>
            have keyed' := get?_key found
            refine congrArg some (Update.onRow_of_not ?_)
            exact fun matched => same (keyed'.symm.trans matched.1)

/-- A row after an upsert is the new one, the old one under its key, set, or another one. -/
theorem mem_upsert {table : Keyed key} {row : ρ} {set : ρ → ρ}
    {keeps : ∀ old, key (set old) = key old} {later : ρ}
    (member : later ∈ (table.upsert row set keeps).rows)
    : (later = row ∨ ∃ old ∈ table.rows, key old = key row ∧ later = set old)
      ∨ (later ∈ table.rows ∧ key later ≠ key row) := by
  have found := get?_of_mem member
  rw [get?_upsert] at found
  split at found
  · next same =>
      left
      cases before : table.get? (key later) with
      | none =>
          rw [before] at found
          exact .inl (Option.some.inj found).symm
      | some old =>
          rw [before] at found
          exact .inr
            ⟨old, get?_mem before, (get?_key before).trans same, (Option.some.inj found).symm⟩
  · next differs => exact .inr ⟨get?_mem found, differs⟩

/-- INSERT OR REPLACE of a row. -/
def replace (table : Keyed key) (row : ρ) : Keyed key :=
  (table.filter fun old => key old ≠ key row).insert row fun old kept => by
    simpa using List.of_mem_filter kept

/-- A replaced key finds the new row, and nothing else changes. -/
theorem get?_replace (table : Keyed key) (row : ρ) (k : κ)
    : (table.replace row).get? k = if k = key row then some row else table.get? k := by
  by_cases same : k = key row
  · rw [if_pos same, same]
    exact get?_of_mem (List.mem_append_right _ (List.mem_singleton_self row))
  · have others : (table.filter fun old => key old ≠ key row).get? k = table.get? k :=
      get?_filter fun old _ keyed => by simpa [keyed] using same
    have differs : key row ≠ k := fun isKey => same isKey.symm
    rw [if_neg same, ← others]
    simp [replace, insert, get?, List.find?_append, differs]

/-- A batch of INSERT OR REPLACE statements, the first row of a key last. -/
def replaceAll (table : Keyed key) (rows : List ρ) : Keyed key :=
  rows.foldr (fun row current => current.replace row) table

/-- A key finds its first row in a batch, or what it found before, by induction on the batch. -/
theorem get?_replaceAll (table : Keyed key) (rows : List ρ) (k : κ)
    : (table.replaceAll rows).get? k = (rows.find? fun row => key row = k).or (table.get? k) := by
  induction rows with
  | nil => rfl
  | cons row rest ih =>
      change ((table.replaceAll rest).replace row).get? k = _
      rw [get?_replace, ih]
      by_cases same : k = key row
      · simp [same]
      · have differs : key row ≠ k := fun isKey => same isKey.symm
        simp [same, differs]

end Keyed

end ControlPlane.Library
