import ControlPlane.Store.SlugClaims

/-! What the page is told of a slug, against the two writes that take one: the rule is written over
a row that was read, and once more in the statements.
-/

namespace ControlPlane.Onboarding

open ControlPlane.Library
open ControlPlane.Store

/-- A row that may be retaken is not offered while a driver holds one of its jobs. -/
def checkSlugAvailability (now nowMs : Nat) (tenants : Tenants) (jobs : Jobs)
    (slug accountId : String)
    : SlugClaim :=
  match classifySlugClaim (getTenantBySlug tenants slug) accountId nowMs with
  | .unavailable reason => .unavailable reason
  | .available none => .available none
  | .available (some reclaim) =>
      if hasLiveProvisionLease now jobs reclaim.tenantId then
        .unavailable "that name is still being set up; try again in a minute"
      else .available (some reclaim)

-----------------------------------------------------------------------------------------
-- One row
-----------------------------------------------------------------------------------------

/-- Between two seconds both clocks agree on a lease, unless it ends with the second. -/
theorem leaseIsLive_iff {now nowMs : Nat} {lease : Option Nat} (clock : nowMs / 1000 = now)
    (apart : lease ≠ some now)
    : leaseIsLive lease nowMs = true ↔ ¬Lease.Free now lease := by
  cases lease with
  | none => simp [leaseIsLive]
  | some expiry =>
      have other : expiry ≠ now := fun same => apart (congrArg some same)
      simp only [leaseIsLive, Option.any_some, decide_eq_true_eq, Lease.free_some]
      omega

/-- What the reclaim of a row is offered as. -/
def handleOf (row : Tenant) : ReclaimHandle where
  tenantId := row.id
  d1DatabaseId := row.d1DatabaseId
  r2BucketName := row.r2BucketName
  r2TokenId := row.r2TokenId
  scriptName := row.scriptName

/-- A row is offered exactly when its own account asks, it never went live, it has not finished
provisioning, and nobody is tearing it down.
-/
theorem classify_available_iff {now nowMs : Nat} {row : Tenant} {accountId : String}
    {reclaim : Option ReclaimHandle} (clock : nowMs / 1000 = now)
    (apart : row.reclaimLeaseUntil ≠ some now)
    : classifySlugClaim (some row) accountId nowMs = .available reclaim
      ↔ reclaim = some (handleOf row) ∧ row.accountId = accountId ∧ row.liveAt = none
        ∧ row.status ∈ tierAStatuses ∧ Lease.Free now row.reclaimLeaseUntil := by
  have lease := leaseIsLive_iff clock apart
  rw [classifySlugClaim]
  by_cases own : row.accountId = accountId
  · by_cases early : row.liveAt = none ∧ row.status ∈ tierAStatuses
    · by_cases live : leaseIsLive row.reclaimLeaseUntil nowMs = true
      · simp [own, early, live, lease.mp live]
      · have free := not_not.mp (mt lease.mpr live)
        simp only [own, early, live, free, handleOf, ne_eq, not_true, if_false, if_true, and_true,
          SlugClaim.available.injEq, Bool.false_eq_true]
        exact eq_comm
    · have later : ¬(row.liveAt = none ∧ row.status ∈ tierAStatuses
          ∧ Lease.Free now row.reclaimLeaseUntil) :=
        fun ⟨never, tier, _⟩ => early ⟨never, tier⟩
      simp only [own, early, later, ne_eq, not_true, if_false, and_false, iff_false]
      split <;> simp
  · simp [own]

/-- The page offers a row exactly when the WHERE clause of the claim holds of it. -/
theorem check_reclaim_iff {now nowMs : Nat} {tenants : Tenants} {jobs : Jobs}
    {slug accountId : String} {row : Tenant} (leaseSeconds : Nat) (token : String)
    (clock : nowMs / 1000 = now) (apart : row.reclaimLeaseUntil ≠ some now)
    (carries : getTenantBySlug tenants slug = some row)
    : (∃ reclaim, checkSlugAvailability now nowMs tenants jobs slug accountId
        = .available (some reclaim))
      ↔ (claimReclaim now jobs row.id accountId leaseSeconds token).guard row := by
  have guard : (claimReclaim now jobs row.id accountId leaseSeconds token).guard row = true
      ↔ (row.accountId = accountId ∧ row.liveAt = none ∧ row.status ∈ tierAStatuses
          ∧ Lease.Free now row.reclaimLeaseUntil) ∧ NoLiveJob now row.id jobs := by
    simp [claimReclaim, and_assoc]
  rw [guard, checkSlugAvailability, carries]
  constructor
  · intro h
    obtain ⟨reclaim, answers⟩ := h
    split at answers
    · cases answers
    · cases answers
    · rename_i handle isAvailable
      obtain ⟨same, holds⟩ := (classify_available_iff clock apart).mp isAvailable
      cases same
      refine ⟨holds, ?_⟩
      split at answers
      · cases answers
      · rename_i idle
        rw [hasLiveProvisionLease, decide_eq_true_eq] at idle
        exact Decidable.not_not.mp idle
  · intro h
    obtain ⟨holds, idle⟩ := h
    have offered
        : classifySlugClaim (some row) accountId nowMs = .available (some (handleOf row)) :=
      (classify_available_iff clock apart).mpr ⟨rfl, holds⟩
    refine ⟨handleOf row, ?_⟩
    rw [offered]
    simp [hasLiveProvisionLease, handleOf, idle]

/-- A row is never offered as a free name. -/
theorem classify_ne_free (row : Tenant) (accountId : String) (nowMs : Nat)
    : classifySlugClaim (some row) accountId nowMs ≠ .available none := by
  unfold classifySlugClaim
  dsimp only
  split
  · simp
  · split
    · split <;> simp
    · split <;> simp

/-- The page offers a free name exactly when no row carries it. -/
theorem check_free_iff {now nowMs : Nat} {tenants : Tenants} {jobs : Jobs} {slug accountId : String}
    : checkSlugAvailability now nowMs tenants jobs slug accountId = .available none
      ↔ ∀ row ∈ tenants.rows, row.slug ≠ slug := by
  rw [checkSlugAvailability]
  cases found : getTenantBySlug tenants slug with
  | none => simpa [classifySlugClaim, getTenantBySlug] using found
  | some row =>
      have carries := List.find?_some found
      refine iff_of_false ?_ fun free =>
        free row (List.mem_of_find?_eq_some found) (of_decide_eq_true carries)
      split
      · simp
      · rename_i isFree
        exact absurd isFree (classify_ne_free row accountId nowMs)
      · split <;> simp

-----------------------------------------------------------------------------------------
-- The table
-----------------------------------------------------------------------------------------

/-- The lookup finds the row that carries a slug. -/
theorem getTenantBySlug_of_mem {tenants : Tenants} {row : Tenant}
    (unique : (tenants.rows.map Tenant.slug).Nodup) (member : row ∈ tenants.rows)
    : getTenantBySlug tenants row.slug = some row := by
  cases found : getTenantBySlug tenants row.slug with
  | none =>
      have missing := List.find?_eq_none.mp found row member
      simp at missing
  | some other =>
      have carries := List.find?_some found
      have same := List.inj_on_of_nodup_map unique (List.mem_of_find?_eq_some found) member
        (of_decide_eq_true carries)
      rw [same]

/-- A new row of the slug is accepted exactly when no row carries it: its id is newly minted. -/
theorem createTenant_isSome_iff {now : Nat} {tenants : Tenants} {id slug accountId : String}
    {status : TenantLifecycle} (fresh : ∀ old ∈ tenants.rows, old.id ≠ id)
    : (createTenant now tenants id slug accountId status).isSome
      ↔ ∀ row ∈ tenants.rows, row.slug ≠ slug := by
  rw [createTenant, dif_pos fresh]
  split
  · rename_i free
    exact iff_of_true rfl free
  · rename_i taken
    exact iff_of_false Bool.false_ne_true taken

/-- What the page is told of a slug is what the two writes do about it. -/
structure Agrees (now nowMs : Nat) (tenants : Tenants) (jobs : Jobs) (slug accountId : String)
    : Prop where
  reclaims : ∀ row ∈ tenants.rows, row.slug = slug → ∀ leaseSeconds token,
    ((claimReclaim now jobs row.id accountId leaseSeconds token).returning tenants).isSome
      ↔ ∃ reclaim, checkSlugAvailability now nowMs tenants jobs slug accountId
          = .available (some reclaim)
  creates : ∀ id status, (∀ old ∈ tenants.rows, old.id ≠ id) →
    ((createTenant now tenants id slug accountId status).isSome
      ↔ checkSlugAvailability now nowMs tenants jobs slug accountId = .available none)
  free : checkSlugAvailability now nowMs tenants jobs slug accountId = .available none
    ↔ ∀ row ∈ tenants.rows, row.slug ≠ slug

/-- The check and the writes agree at every second at which no lease ends. -/
theorem slugCheck_agrees {now nowMs : Nat} {tenants : Tenants} (jobs : Jobs)
    (slug accountId : String) (clock : nowMs / 1000 = now)
    (unique : (tenants.rows.map Tenant.slug).Nodup)
    (apart : ∀ row ∈ tenants.rows, row.reclaimLeaseUntil ≠ some now)
    : Agrees now nowMs tenants jobs slug accountId where
  reclaims := by
    intro row member h leaseSeconds token
    obtain rfl := h
    rw [check_reclaim_iff leaseSeconds token clock (apart row member)
      (getTenantBySlug_of_mem unique member), Option.isSome_iff_exists]
    have found : tenants.get? row.id = some row := Keyed.get?_of_mem member
    constructor
    · intro h
      obtain ⟨returned, claims⟩ := h
      obtain ⟨target, isTarget, guarded, -⟩ := Update.returning_eq_some.mp claims
      cases Option.some.inj (found.symm.trans isTarget)
      exact guarded
    · intro guarded
      exact ⟨_, Update.returning_eq_some.mpr ⟨row, found, guarded, rfl⟩⟩
  creates := by
    intro id status fresh
    rw [createTenant_isSome_iff fresh, check_free_iff]
  free := check_free_iff

/-- A table with one row that its account may retake, and a lease on it that has run out. -/
def lapsed : Tenants :=
  .singleton
    {
      id := "t1",
      slug := "amber",
      accountId := "a1",
      status := .failed,
      createdAt := 0,
      reclaimLeaseUntil := some 99
    }

theorem slugCheck_agrees_lapsed : Agrees 100 100000 lapsed .empty "amber" "a1" :=
  slugCheck_agrees .empty "amber" "a1" rfl (by decide) (by decide)

end ControlPlane.Onboarding
