import ControlPlane.Store.ProvisionJobs
import ControlPlane.Store.Tenants

/-! Who may take a slug, and the insert that takes it. A slug is unique over all tenant rows, the
deleted ones included; an account is not.
-/

namespace ControlPlane.Store

open ControlPlane.Library

/-- What a reclaim is told of the row it would take. -/
structure ReclaimHandle where
  tenantId : String
  d1DatabaseId : Option String
  r2BucketName : Option String
  r2TokenId : Option String
  scriptName : Option String
  deriving DecidableEq, Repr

inductive SlugClaim
  | available (reclaim : Option ReclaimHandle)
  | unavailable (reason : String)
  deriving DecidableEq, Repr

/-- Every tier gives a stranger this and nothing more. -/
def SLUG_TAKEN_REASON : String := "that name is taken"

/-- Is a lease still held? Columns are whole seconds, and the clock is in milliseconds. -/
def leaseIsLive (leaseUntil : Option Nat) (nowMs : Nat) : Bool :=
  leaseUntil.any fun expiry => nowMs < expiry * 1000

/-- Decide a slug claim from the row alone. -/
def classifySlugClaim (row : Option Tenant) (accountId : String) (nowMs : Nat) : SlugClaim :=
  match row with
  | none => .available none
  | some row =>
      if row.accountId ≠ accountId then .unavailable SLUG_TAKEN_REASON
      else if row.liveAt = none ∧ row.status ∈ tierAStatuses then
        if leaseIsLive row.reclaimLeaseUntil nowMs then
          .unavailable "that name is being reset right now; try again in a few minutes"
        else
          .available
            (some
              { tenantId := row.id
                d1DatabaseId := row.d1DatabaseId
                r2BucketName := row.r2BucketName
                r2TokenId := row.r2TokenId
                scriptName := row.scriptName })
      else if row.liveAt ≠ none ∧ row.status = .deleted then
        .unavailable "that name belonged to a studio that has been deleted, and cannot be reused"
      else .unavailable "you already have a studio at that name"

def getTenantBySlug (tenants : Tenants) (slug : String) : Option Tenant :=
  tenants.rows.find? fun row => row.slug = slug

/-- The newest row of an account that is not deleted. -/
def getTenantForAccount (tenants : Tenants) (accountId : String) : Option Tenant :=
  (tenants.rows.filter fun row => row.accountId = accountId ∧ row.status ≠ .deleted).foldl
    (fun best row =>
      match best with
      | some newest => if newest.createdAt < row.createdAt then some row else some newest
      | none => some row)
    none

/-- A driver currently holds this tenant's job. -/
def hasLiveProvisionLease (now : Nat) (jobs : Jobs) (tenantId : String) : Bool :=
  ¬NoLiveJob now tenantId jobs

/-- INSERT of a tenant row. It is refused when the id or the slug is taken. -/
def createTenant (now : Nat) (tenants : Tenants) (id slug accountId : String)
    (status : TenantLifecycle) : Option Tenants :=
  if free : ∀ old ∈ tenants.rows, old.id ≠ id then
    if ∀ old ∈ tenants.rows, old.slug ≠ slug then
      some
        (tenants.insert
          { id := id, slug := slug, accountId := accountId, status := status, createdAt := now }
          free)
    else none
  else none

/-- INSERT of a queued job. -/
def createProvisionJob (now : Nat) (jobs : Jobs) (id tenantId : String) (kind : JobKind)
    (runpodMode toRelease : Option String) : Option Jobs :=
  if free : ∀ old ∈ jobs.rows, old.id ≠ id then
    some (jobs.insert (queuedJob now id tenantId kind runpodMode toRelease) free)
  else none

/-- The lookup finds nothing exactly when the account has no row that is not deleted, by induction
on the rows.
-/
theorem getTenantForAccount_eq_none {tenants : Tenants} {accountId : String}
    : getTenantForAccount tenants accountId = none
      ↔ ∀ row ∈ tenants.rows, row.accountId = accountId → row.status = .deleted := by
  have keepsOne : ∀ (rows : List Tenant) (best : Tenant),
      rows.foldl
        (fun best row =>
          match best with
          | some newest => if newest.createdAt < row.createdAt then some row else some newest
          | none => some row)
        (some best) ≠ none := by
    intro rows
    induction rows with
    | nil => exact fun best => Option.some_ne_none best
    | cons row rest ih =>
        intro best
        rw [List.foldl_cons]
        dsimp only
        split
        · exact ih row
        · exact ih best
  have emptied : getTenantForAccount tenants accountId = none
      ↔ tenants.rows.filter (fun row => row.accountId = accountId ∧ row.status ≠ .deleted)
        = [] := by
    rw [getTenantForAccount]
    cases tenants.rows.filter fun row => row.accountId = accountId ∧ row.status ≠ .deleted with
    | nil => exact iff_of_true rfl rfl
    | cons row rest => exact iff_of_false (keepsOne rest row) (List.cons_ne_nil row rest)
  rw [emptied, List.filter_eq_nil_iff]
  simp

/-- A tenant that was created is the last row, and its slug is no other row's. -/
theorem createTenant_eq_some {now : Nat} {tenants tenants' : Tenants} {id slug accountId : String}
    {status : TenantLifecycle}
    (created : createTenant now tenants id slug accountId status = some tenants')
    : (∀ old ∈ tenants.rows, old.id ≠ id) ∧ (∀ old ∈ tenants.rows, old.slug ≠ slug)
      ∧ tenants'.rows
        = tenants.rows
          ++ [{ id := id, slug := slug, accountId := accountId, status := status
                createdAt := now }] := by
  rw [createTenant] at created
  split at created
  next free =>
    obtain ⟨unused, same⟩ := Option.ite_none_right_eq_some.mp created
    cases same
    exact ⟨free, unused, rfl⟩
  next => cases created

end ControlPlane.Store
