import ControlPlane.Operators.Grants

/-! What is written to the credentials keeps the table faithful to the history: a mint adds the row of
its grant, and a revocation ends the one that it names.
-/

namespace ControlPlane.Operators

open ControlPlane.Crypto
open ControlPlane.Library
open ControlPlane.StudioBindings (truthy)

variable {τ : Type} {platform : AdminPlatform} {credentials : OperatorCredentials}
  {history : List (Event τ)} {caller : Caller}

/-- An event that neither mints nor revokes. -/
def Event.quiet : Event τ → Bool
  | .minted .. | .revoked .. => false
  | _ => true

theorem Event.ne_minted {event : Event τ} (quiet : event.quiet = true) (created : NewCredential)
    : event ≠ .minted caller created := by
  intro same
  rw [same] at quiet
  exact Bool.false_ne_true quiet

theorem Event.ne_revoked {event : Event τ} (quiet : event.quiet = true) (id : String)
    : event ≠ .revoked caller id := by
  intro same
  rw [same] at quiet
  exact Bool.false_ne_true quiet

theorem Faithful.log (faithful : Faithful platform credentials history) {event : Event τ}
    (quiet : event.quiet = true)
    : Faithful platform credentials (history ++ [event]) := by
  have minted : ∀ caller created, Event.minted caller created ∈ history ++ [event]
      ↔ Event.minted caller created ∈ history := by
    intro caller created
    rw [List.mem_append, List.mem_singleton, or_iff_left (event.ne_minted quiet created).symm]
  have revoked : ∀ caller id, Event.revoked caller id ∈ history ++ [event]
      ↔ Event.revoked caller id ∈ history := by
    intro caller id
    rw [List.mem_append, List.mem_singleton, or_iff_left (event.ne_revoked quiet id).symm]
  exact
    { asked := fun caller created isMinted =>
        faithful.asked caller created ((minted caller created).mp isMinted)
      kept := fun caller created isMinted =>
        faithful.kept caller created ((minted caller created).mp isMinted)
      came := fun row isRow => by
        simpa only [minted] using faithful.came row isRow
      revoked := fun row isRow => by
        simpa only [revoked] using faithful.revoked row isRow
      texts := faithful.texts
      known := fun caller id isRevoked =>
        faithful.known caller id ((revoked caller id).mp isRevoked) }

/-- A new row is a row of its mint. -/
theorem Faithful.insert (faithful : Faithful platform credentials history)
    {created : NewCredential} {dbNow : String} {later : OperatorCredentials} {asked : MintRequest}
    (isAsked : Asked platform caller created asked)
    (inserted : credentials.createOperatorCredential (created.stored dbNow) = some later)
    : Faithful platform later (history ++ [.minted caller created]) := by
  unfold OperatorCredentials.createOperatorCredential at inserted
  split at inserted
  next free =>
    cases inserted
    have isNew : ∀ row, row ∈ credentials.table.rows ++ [created.stored dbNow]
        ↔ row ∈ credentials.table.rows ∨ row = created.stored dbNow := by simp
    have came : (created.stored dbNow).CameOf created := ⟨rfl, rfl, rfl, rfl, rfl⟩
    have revoked : ∀ other id, Event.revoked other id ∈ history ++ [.minted caller created]
        ↔ Event.revoked other id ∈ history := by simp
    constructor
    case asked =>
      intro other row isMinted
      rcases List.mem_append.mp isMinted with earlier | new
      · exact faithful.asked other row earlier
      · cases List.mem_singleton.mp new
        exact ⟨asked, isAsked⟩
    case kept =>
      intro other row isMinted
      rcases List.mem_append.mp isMinted with earlier | new
      · obtain ⟨stored, isStored, isOf⟩ := faithful.kept other row earlier
        exact ⟨stored, (isNew stored).mpr (.inl isStored), isOf⟩
      · cases List.mem_singleton.mp new
        exact ⟨_, (isNew _).mpr (.inr rfl), came⟩
    case came =>
      intro row isRow
      rcases (isNew row).mp isRow with earlier | rfl
      · obtain ⟨other, old, isMinted, isOf⟩ := faithful.came row earlier
        exact ⟨other, old, List.mem_append_left _ isMinted, isOf⟩
      · exact ⟨caller, created, by simp, came⟩
    case revoked =>
      intro row isRow
      simp only [revoked]
      rcases (isNew row).mp isRow with earlier | rfl
      · exact faithful.revoked row earlier
      · refine ⟨fun _ other isRevoked => ?_, fun _ => rfl⟩
        obtain ⟨old, isOld, same⟩ := faithful.known other _ isRevoked
        exact free.id old isOld same
    case texts =>
      intro row isRow
      rcases (isNew row).mp isRow with earlier | rfl
      · exact faithful.texts row earlier
      · rfl
    case known =>
      intro other id isRevoked
      obtain ⟨old, isOld, same⟩ := faithful.known other id ((revoked other id).mp isRevoked)
      exact ⟨old, (isNew old).mpr (.inl isOld), same⟩
  next => cases inserted

/-- A statement that keeps what rows were created with. -/
structure KeepsCreated (statement : Update OperatorCredential.id) : Prop where
  scopes : ∀ row, (statement.set row).scopes = row.scopes
  expiry : ∀ row, (statement.set row).expiresAt = row.expiresAt

theorem CameOf.onRow {statement : Update OperatorCredential.id}
    (settled : OperatorCredentials.Settled statement) (keeps : KeepsCreated statement)
    {row : OperatorCredential} {created : NewCredential} (came : row.CameOf created)
    : (statement.onRow row).CameOf created := by
  obtain ⟨sameHash, sameName, _⟩ := settled.onRow row
  rcases statement.onRow_cases row with left | ⟨_, set⟩
  · rw [left]
    exact came
  · exact
      { id := by rw [set, statement.keeps, came.id]
        name := sameName.trans came.name
        hash := sameHash.trans came.hash
        scopes := by rw [set, keeps.scopes, came.scopes]
        expiry := by rw [set, keeps.expiry, came.expiry] }

/-- A statement that keeps what rows were created with, and revokes just the rows that the history
comes to name.
-/
theorem Faithful.update (faithful : Faithful platform credentials history)
    {statement : Update OperatorCredential.id} (settled : OperatorCredentials.Settled statement)
    (keeps : KeepsCreated statement) {later : List (Event τ)}
    (minted : ∀ caller created, .minted caller created ∈ later ↔ .minted caller created ∈ history)
    (revoked : ∀ row ∈ credentials.table.rows,
      (statement.onRow row).revokedAt = none ↔ ∀ caller, .revoked caller row.id ∉ later)
    (texts : ∀ row, truthy row.revokedAt = row.revokedAt
      → truthy (statement.onRow row).revokedAt = (statement.onRow row).revokedAt)
    (known : ∀ caller id, .revoked caller id ∈ later → ∃ row ∈ credentials.table.rows, row.id = id)
    : Faithful platform (credentials.update statement settled) later := by
  have sameId : ∀ row, (statement.onRow row).id = row.id := fun row =>
    statement.toSweep.onRow_keeps OperatorCredential.id (fun row _ => statement.keeps row) row
  have isAfter : ∀ row, row ∈ (credentials.update statement settled).table.rows
      ↔ ∃ old ∈ credentials.table.rows, statement.onRow old = row := fun _ => Sweep.mem_apply
  constructor
  case asked => exact fun caller created h => faithful.asked caller created ((minted _ _).mp h)
  case kept =>
    intro caller created h
    obtain ⟨row, isRow, came⟩ := faithful.kept caller created ((minted _ _).mp h)
    exact ⟨_, (isAfter _).mpr ⟨row, isRow, rfl⟩, CameOf.onRow settled keeps came⟩
  case came =>
    intro row isRow
    obtain ⟨old, isOld, rfl⟩ := (isAfter row).mp isRow
    obtain ⟨caller, created, isMinted, came⟩ := faithful.came old isOld
    exact ⟨caller, created, (minted _ _).mpr isMinted, CameOf.onRow settled keeps came⟩
  case revoked =>
    intro row isRow
    obtain ⟨old, isOld, rfl⟩ := (isAfter row).mp isRow
    rw [sameId]
    exact revoked old isOld
  case texts =>
    intro row isRow
    obtain ⟨old, isOld, rfl⟩ := (isAfter row).mp isRow
    exact texts old (faithful.texts old isOld)
  case known =>
    intro caller id isRevoked
    obtain ⟨row, isRow, same⟩ := known caller id isRevoked
    exact ⟨_, (isAfter _).mpr ⟨row, isRow, rfl⟩, (sameId row).trans same⟩

theorem Faithful.touch (faithful : Faithful platform credentials history) (id now : String)
    : Faithful platform
        (credentials.update (OperatorCredentials.touchOperatorCredential id now)
          (OperatorCredentials.touch_settled id now))
        history := by
  have sameTime : ∀ row,
      ((OperatorCredentials.touchOperatorCredential id now).onRow row).revokedAt = row.revokedAt :=
    fun row => Sweep.onRow_keeps _ OperatorCredential.revokedAt (fun _ _ => rfl) row
  refine faithful.update _ ⟨fun _ => rfl, fun _ => rfl⟩ (fun _ _ => Iff.rfl) ?_ ?_ faithful.known
  · intro row isRow
    rw [← faithful.revoked row isRow, sameTime]
  · intro row isText
    rw [sameTime, isText]

/-- A revocation that changes something revokes the row that it names. -/
theorem Faithful.revoke (faithful : Faithful platform credentials history)
    {id revokedBy now : String} (isText : truthy (some now) = some now)
    (changed
      : (OperatorCredentials.revokeOperatorCredential id revokedBy now).changes credentials.table
        ≠ 0)
    : Faithful platform
        (credentials.update (OperatorCredentials.revokeOperatorCredential id revokedBy now)
          (OperatorCredentials.revoke_settled id revokedBy now))
        (history ++ [.revoked caller id]) := by
  have named : ∀ other revokedId, Event.revoked other revokedId ∈ history ++ [.revoked caller id]
      ↔ Event.revoked other revokedId ∈ history ∨ other = caller ∧ revokedId = id := by simp
  refine faithful.update _ ⟨fun _ => rfl, fun _ => rfl⟩ (by simp) ?_ ?_ ?_
  · intro row isRow
    have before := faithful.revoked row isRow
    by_cases isId : row.id = id
    · have isNamed : ¬ ∀ other, Event.revoked other row.id ∉ history ++ [.revoked caller id] :=
        fun h => h caller ((named caller row.id).mpr (.inr ⟨rfl, isId⟩))
      refine iff_of_false ?_ isNamed
      by_cases isLive : row.live
      · rw [Update.onRow_of_match isId isLive]
        exact Option.some_ne_none now
      · rw [Update.onRow_of_not fun h => isLive h.2]
        exact fun isNone => isLive (decide_eq_true isNone)
    · rw [Update.onRow_of_not fun h => isId h.1, before]
      exact forall_congr' fun other => not_congr
        ((named other row.id).trans (or_iff_left fun h => isId h.2)).symm
  · intro row isRowText
    rcases (OperatorCredentials.revokeOperatorCredential id revokedBy now).onRow_cases row
      with left | ⟨_, set⟩
    · rw [left, isRowText]
    · rw [set]
      exact isText
  · intro other revokedId isRevoked
    rcases (named other revokedId).mp isRevoked with earlier | ⟨_, rfl⟩
    · exact faithful.known other revokedId earlier
    · obtain ⟨row, isRow, matched⟩ := List.countP_pos_iff.mp (Nat.pos_of_ne_zero changed)
      exact ⟨row, isRow, (of_decide_eq_true matched).1⟩

end ControlPlane.Operators
