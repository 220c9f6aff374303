import Mathlib.Data.List.Sort
import ControlPlane.Store.Rows

/-! The statements on the stored studio tokens. A rotation writes only over the ciphertext that it
read.
-/

namespace ControlPlane.Store

open ControlPlane.Library

/-- A row with a studio token: an id and the ciphertext. -/
structure EncryptedTokenRow where
  id : String
  slug : String
  studioTokenEnc : String
  deriving DecidableEq, Repr

/-- studio_token_enc IS NOT NULL AND studio_token_enc != ''. -/
def Tenant.encryptedToken (tenant : Tenant) : Option EncryptedTokenRow :=
  match tenant.studioTokenEnc with
  | none => none
  | some enc => if enc = "" then none else some ⟨tenant.id, tenant.slug, enc⟩

/-- Every row with a studio token, whatever its status, ORDER BY id. -/
def listEncryptedStudioTokens (tenants : Tenants) : List EncryptedTokenRow :=
  (tenants.rows.filterMap Tenant.encryptedToken).insertionSort fun first second =>
    first.id ≤ second.id

def setTenantStudioToken (id encValue : String) : Update Tenant.id where
  target := id
  guard _ := true
  set tenant := { tenant with studioTokenEnc := some encValue }
  keeps _ := rfl

@[simp] theorem setTenantStudioToken_onRow (tenant : Tenant) (encValue : String)
    : (setTenantStudioToken tenant.id encValue).onRow tenant
      = { tenant with studioTokenEnc := some encValue } :=
  Update.onRow_of_match rfl rfl

/-- Compare and set: the ciphertext is still the one that was read. -/
def setTenantStudioTokenIfUnchanged (id expectedEnc newEnc : String) : Update Tenant.id where
  target := id
  guard tenant := tenant.studioTokenEnc = some expectedEnc
  set tenant := { tenant with studioTokenEnc := some newEnc }
  keeps _ := rfl

/-- What a compare and set makes of a listed row. -/
def EncryptedTokenRow.ifUnchanged (id expectedEnc newEnc : String) (row : EncryptedTokenRow)
    : EncryptedTokenRow :=
  if row.id = id ∧ row.studioTokenEnc = expectedEnc then { row with studioTokenEnc := newEnc }
  else row

/-- A tenant is listed exactly with a token that is not empty. -/
theorem Tenant.encryptedToken_eq_some {tenant : Tenant} {row : EncryptedTokenRow}
    : tenant.encryptedToken = some row
      ↔ tenant.studioTokenEnc = some row.studioTokenEnc ∧ row.studioTokenEnc ≠ ""
        ∧ tenant.id = row.id ∧ tenant.slug = row.slug := by
  obtain ⟨id, slug, enc⟩ := row
  cases stored : tenant.studioTokenEnc with
  | none => simp [encryptedToken, stored]
  | some blob =>
      by_cases blank : blob = ""
      · simp only [encryptedToken, stored, if_pos blank, Option.some.injEq]
        constructor
        · exact fun absent => nomatch absent
        · intro ⟨same, filled, _⟩
          exact absurd (same.symm.trans blank) filled
      · simp only [encryptedToken, stored, if_neg blank, Option.some.injEq,
          EncryptedTokenRow.mk.injEq]
        constructor
        · intro ⟨sameId, sameSlug, same⟩
          exact ⟨same, same ▸ blank, sameId, sameSlug⟩
        · exact fun ⟨same, _, sameId, sameSlug⟩ => ⟨sameId, sameSlug, same⟩

theorem mem_listEncryptedStudioTokens {tenants : Tenants} {row : EncryptedTokenRow}
    : row ∈ listEncryptedStudioTokens tenants
      ↔ ∃ tenant ∈ tenants.rows, tenant.encryptedToken = some row := by
  rw [listEncryptedStudioTokens, List.mem_insertionSort, List.mem_filterMap]

/-- The ids of the tenants that are listed are among those of all tenants, by induction on the
table.
-/
theorem ids_sublist (rows : List Tenant)
    : ((rows.filterMap Tenant.encryptedToken).map EncryptedTokenRow.id).Sublist
        (rows.map Tenant.id) := by
  induction rows with
  | nil => exact .slnil
  | cons tenant rest ih =>
      cases listed : tenant.encryptedToken with
      | none =>
          rw [List.filterMap_cons_none listed, List.map_cons]
          exact ih.cons tenant.id
      | some row =>
          obtain ⟨_, _, sameId, _⟩ := Tenant.encryptedToken_eq_some.mp listed
          rw [List.filterMap_cons_some listed, List.map_cons, List.map_cons, sameId]
          exact ih.cons_cons row.id

/-- No two listed rows share an id. -/
theorem listEncryptedStudioTokens_nodup (tenants : Tenants)
    : ((listEncryptedStudioTokens tenants).map EncryptedTokenRow.id).Nodup := by
  have listed := tenants.unique.sublist (ids_sublist tenants.rows)
  exact ((List.perm_insertionSort _ _).map _).nodup_iff.mpr listed

/-- A compare and set of a token by a token does to a listed row what it does to the tenant. -/
theorem encryptedToken_setIfUnchanged {id expectedEnc newEnc : String}
    (stored : expectedEnc ≠ "") (filled : newEnc ≠ "") (tenant : Tenant)
    : ((setTenantStudioTokenIfUnchanged id expectedEnc newEnc).onRow tenant).encryptedToken
      = tenant.encryptedToken.map (EncryptedTokenRow.ifUnchanged id expectedEnc newEnc) := by
  by_cases matched : tenant.id = id ∧ tenant.studioTokenEnc = some expectedEnc
  · have became
        : (setTenantStudioTokenIfUnchanged id expectedEnc newEnc).onRow tenant
          = { tenant with studioTokenEnc := some newEnc } :=
      if_pos (by simpa [Update.toSweep, setTenantStudioTokenIfUnchanged] using matched)
    have listed : tenant.encryptedToken = some ⟨id, tenant.slug, expectedEnc⟩ :=
      Tenant.encryptedToken_eq_some.mpr ⟨matched.2, stored, matched.1, rfl⟩
    rw [became, listed, Option.map_some, EncryptedTokenRow.ifUnchanged, if_pos ⟨rfl, rfl⟩]
    exact Tenant.encryptedToken_eq_some.mpr ⟨rfl, filled, matched.1, rfl⟩
  · have missed
        : (setTenantStudioTokenIfUnchanged id expectedEnc newEnc).onRow tenant = tenant :=
      Update.onRow_of_not (by simpa [setTenantStudioTokenIfUnchanged] using matched)
    rw [missed]
    cases listed : tenant.encryptedToken with
    | none => rfl
    | some row =>
        obtain ⟨same, _, sameId, _⟩ := Tenant.encryptedToken_eq_some.mp listed
        rw [Option.map_some, EncryptedTokenRow.ifUnchanged, if_neg]
        exact fun both => matched ⟨sameId.trans both.1, same.trans (congrArg some both.2)⟩

/-- A compare and set of a token by a token keeps the list in its order. -/
theorem list_setIfUnchanged {tenants : Tenants} {id expectedEnc newEnc : String}
    (stored : expectedEnc ≠ "") (filled : newEnc ≠ "")
    : listEncryptedStudioTokens
        ((setTenantStudioTokenIfUnchanged id expectedEnc newEnc).apply tenants)
      = (listEncryptedStudioTokens tenants).map
          (EncryptedTokenRow.ifUnchanged id expectedEnc newEnc) := by
  have sameId : ∀ row : EncryptedTokenRow, (row.ifUnchanged id expectedEnc newEnc).id = row.id := by
    intro row
    unfold EncryptedTokenRow.ifUnchanged
    split <;> rfl
  have rows
      : (((setTenantStudioTokenIfUnchanged id expectedEnc newEnc).apply tenants).rows.filterMap
          Tenant.encryptedToken)
        = (tenants.rows.filterMap Tenant.encryptedToken).map
            (EncryptedTokenRow.ifUnchanged id expectedEnc newEnc) := by
    rw [List.map_filterMap]
    refine (List.filterMap_map ..).trans (List.filterMap_congr fun tenant _ => ?_)
    exact encryptedToken_setIfUnchanged stored filled tenant
  rw [listEncryptedStudioTokens, rows, listEncryptedStudioTokens]
  refine (List.map_insertionSort _ _ _ _ fun first _ second _ => ?_).symm
  rw [sameId, sameId]

end ControlPlane.Store
