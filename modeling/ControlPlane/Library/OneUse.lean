import ControlPlane.Library.KeyedTables

/-! Tables whose rows are good for one use before a time. The statement that uses a row is the
guard: it marks the row, and finds only unmarked ones.
-/

namespace ControlPlane.Library

variable {ρ : Type*} {κ : Type*}

/-- How the rows of a table are used: when they expire, when they were used, and how a use marks
them.
-/
structure OneUse (key : ρ → κ) where
  expiresAt : ρ → Nat
  consumedAt : ρ → Option Nat
  consume : Nat → ρ → ρ
  consume_key : ∀ now row, key (consume now row) = key row
  consume_expiresAt : ∀ now row, expiresAt (consume now row) = expiresAt row
  consume_consumedAt : ∀ now row, consumedAt (consume now row) = some now

variable {key : ρ → κ}

/-- UPDATE ... SET consumed_at WHERE key AND consumed_at IS NULL AND expires_at > now. -/
def OneUse.statement (use : OneUse key) (k : κ) (now : Nat) : Update key where
  target := k
  guard row := (use.consumedAt row).isNone ∧ use.expiresAt row > now
  set := use.consume now
  keeps := use.consume_key now

/-- A table tells of each row that was issued whether it was used, and as its use left it. -/
structure Accounted (use : OneUse key) (issued used : ρ → Prop) (table : Keyed key) : Prop where
  rows : ∀ row ∈ table.rows, issued row ∧ use.consumedAt row = none ∨ used row
  marked : ∀ row, used row → row ∈ table.rows ∧ (use.consumedAt row).isSome

namespace Accounted

variable {use : OneUse key} {issued used : ρ → Prop} {table : Keyed key}

/-- A row that is issued is not yet used. -/
theorem insert (accounted : Accounted use issued used table) {row : ρ}
    (free : ∀ old ∈ table.rows, key old ≠ key row) (fresh : use.consumedAt row = none)
    : Accounted use (fun other => issued other ∨ other = row) used (table.insert row free) where
  rows other isRow := by
    rcases List.mem_append.mp isRow with earlier | same
    · exact (accounted.rows other earlier).imp (fun unused => ⟨.inl unused.1, unused.2⟩) id
    · rw [List.mem_singleton.mp same]
      exact .inl ⟨.inr rfl, fresh⟩
  marked other isUsed :=
    ⟨List.mem_append_left _ (accounted.marked other isUsed).1, (accounted.marked other isUsed).2⟩

end Accounted

variable [DecidableEq κ]

/-- A table with the uses that were accepted, each with the time it gave. No row was used twice,
and none at or after its expiry.
-/
structure UsedTable (use : OneUse key) where
  table : Keyed key
  accepted : List (κ × Nat)
  once : (accepted.map Prod.fst).Nodup
  spent : ∀ entry ∈ accepted, ∃ row, table.get? entry.1 = some row
    ∧ (use.consumedAt row).isSome ∧ entry.2 < use.expiresAt row

namespace UsedTable

variable {use : OneUse key}

/-- A table nothing of which was used yet in the run. -/
def fresh (use : OneUse key) (table : Keyed key) : UsedTable use where
  table := table
  accepted := []
  once := List.nodup_nil
  spent := by simp

/-- A row is issued, unless its key is taken. -/
def issue (used : UsedTable use) (row : ρ) : Option (UsedTable use) :=
  if free : ∀ old ∈ used.table.rows, key old ≠ key row then
    some
      { table := used.table.insert row free
        accepted := used.accepted
        once := used.once
        spent := by
          intro entry member
          obtain ⟨spentRow, found, consumed, timely⟩ := used.spent entry member
          exact ⟨spentRow, Keyed.get?_insert_of_found free found, consumed, timely⟩ }
  else none

/-- A use that is accepted leaves a marked row, and every marked row marked. -/
theorem spent_statement {used : UsedTable use} {k : κ} {now : Nat} {returned : ρ}
    (taken : (use.statement k now).returning used.table = some returned)
    : ∀ entry ∈ (k, now) :: used.accepted,
        ∃ row, ((use.statement k now).apply used.table).get? entry.1 = some row
          ∧ (use.consumedAt row).isSome ∧ entry.2 < use.expiresAt row := by
  obtain ⟨row, found, met, _⟩ := Update.returning_eq_some.mp taken
  obtain ⟨unused, alive⟩ := of_decide_eq_true met
  intro entry member
  rcases List.mem_cons.mp member with here | earlier
  · rw [here]
    refine ⟨use.consume now row, Update.get?_apply_of_match _ found met, ?_, ?_⟩
    · rw [use.consume_consumedAt]
      rfl
    · rw [use.consume_expiresAt]
      exact alive
  · obtain ⟨spentRow, spentFound, consumed, timely⟩ := used.spent entry earlier
    refine ⟨spentRow, Update.get?_apply_of_not _ spentFound ?_, consumed, timely⟩
    intro h
    obtain ⟨_, again⟩ := h
    obtain ⟨unmarked, _⟩ := of_decide_eq_true again
    rw [Option.isNone_iff_eq_none.mp unmarked] at consumed
    exact nomatch consumed

/-- A key whose use is accepted was not used before. -/
theorem not_accepted_of_returning {used : UsedTable use} {k : κ} {now : Nat} {returned : ρ}
    (taken : (use.statement k now).returning used.table = some returned)
    : k ∉ used.accepted.map Prod.fst := by
  obtain ⟨row, found, met, _⟩ := Update.returning_eq_some.mp taken
  obtain ⟨unused, _⟩ := of_decide_eq_true met
  intro before
  obtain ⟨entry, member, isKey⟩ := List.mem_map.mp before
  obtain ⟨spentRow, spentFound, consumed, _⟩ := used.spent entry member
  have same : spentRow = row := by
    rw [isKey] at spentFound
    exact Option.some.inj (spentFound.symm.trans found)
  rw [same, Option.isNone_iff_eq_none.mp unused] at consumed
  exact nomatch consumed

/-- Use a row: what the statement returns, and the table after it. -/
def accept (used : UsedTable use) (k : κ) (now : Nat) : Option ρ × UsedTable use :=
  match taken : (use.statement k now).returning used.table with
  | none => (none, used)
  | some returned =>
      (some returned,
        { table := (use.statement k now).apply used.table
          accepted := (k, now) :: used.accepted
          once := List.nodup_cons.mpr ⟨not_accepted_of_returning taken, used.once⟩
          spent := spent_statement taken })

/-- Every accepted use gave a time before the row's expiry. -/
theorem timely (used : UsedTable use) {entry : κ × Nat} (member : entry ∈ used.accepted)
    : ∃ row, used.table.get? entry.1 = some row ∧ entry.2 < use.expiresAt row := by
  obtain ⟨row, found, _, early⟩ := used.spent entry member
  exact ⟨row, found, early⟩

end UsedTable

namespace Accounted

variable {use : OneUse key} {issued used : ρ → Prop} {table : Keyed key}

/-- A row whose use is accepted was issued and has not expired, and it was not used before. -/
theorem consume (accounted : Accounted use issued used table) {k : κ} {now : Nat} {returned : ρ}
    (taken : (use.statement k now).returning table = some returned)
    : (∃ row, issued row ∧ key row = k ∧ now < use.expiresAt row ∧ returned = use.consume now row)
      ∧ (∀ other, used other → key other ≠ k)
      ∧ Accounted use issued (fun other => used other ∨ other = returned)
          ((use.statement k now).apply table) := by
  obtain ⟨row, found, met, rfl⟩ := Update.returning_eq_some.mp taken
  obtain ⟨unused, alive⟩ := of_decide_eq_true met
  have isRow := Keyed.get?_mem found
  have isKey : key row = k := Keyed.get?_key found
  have notUsed : ¬ used row := by
    intro isUsed
    have isMarked := (accounted.marked row isUsed).2
    rw [Option.isNone_iff_eq_none.mp unused] at isMarked
    cases isMarked
  have apart : ∀ other, used other → key other ≠ k := by
    intro other isUsed same
    have isOther := (accounted.marked other isUsed).1
    exact notUsed (Keyed.eq_of_key isOther isRow (same.trans isKey.symm) ▸ isUsed)
  refine ⟨⟨row, ?_, isKey, alive, rfl⟩, apart, ?_, ?_⟩
  · exact ((accounted.rows row isRow).resolve_right notUsed).1
  · intro other isOther
    rcases (Update.mem_apply_of_match found met other).mp isOther with same | ⟨earlier, _⟩
    · exact .inr (.inr same)
    · exact (accounted.rows other earlier).imp id .inl
  · intro other isUsed
    rcases isUsed with earlier | rfl
    · have before := accounted.marked other earlier
      refine ⟨(Update.mem_apply_of_match found met other).mpr (.inr ⟨before.1, ?_⟩), before.2⟩
      exact apart other earlier
    · refine ⟨(Update.mem_apply_of_match found met _).mpr (.inl rfl), ?_⟩
      change (use.consumedAt (use.consume now row)).isSome = true
      rw [use.consume_consumedAt]
      rfl

end Accounted

end ControlPlane.Library
