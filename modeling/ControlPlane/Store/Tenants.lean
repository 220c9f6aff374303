import ControlPlane.Store.Rows

/-! The statements that reclaim a slug and tear a tenant down. A claim leaves a lease and a
token on the row, and its completing statement has to name that token.
-/

namespace ControlPlane.Store

open ControlPlane.Library

/-- How long one reclaim attempt owns a row. -/
def reclaimLeaseSeconds : Nat := 300

/-- Claim a row that never went live, for its own account. -/
def claimReclaim (now : Nat) (jobs : Jobs) (tenantId accountId : String)
    (leaseSeconds : Nat) (token : String)
    : Update Tenant.id where
  target := tenantId
  guard tenant :=
    tenant.accountId = accountId
    ∧ tenant.liveAt = none
    ∧ tenant.status ∈ tierAStatuses
    ∧ Lease.Free now tenant.reclaimLeaseUntil
    ∧ NoLiveJob now tenant.id jobs
  set tenant :=
    { tenant with
      reclaimLeaseUntil := some (now + leaseSeconds)
      reclaimLeaseToken := some token }
  keeps _ := rfl

/-- Blank a claimed row for a new provision. -/
def reclaimSlug (now : Nat) (jobs : Jobs) (tenantId accountId leaseToken : String)
    : Update Tenant.id where
  target := tenantId
  guard tenant :=
    tenant.accountId = accountId
    ∧ tenant.liveAt = none
    ∧ tenant.reclaimLeaseToken = some leaseToken
    ∧ Lease.Live now tenant.reclaimLeaseUntil
    ∧ tenant.status ∈ tierAStatuses
    ∧ NoLiveJob now tenant.id jobs
  set tenant :=
    { tenant with
      status := .pending
      d1DatabaseId := none
      r2BucketName := none
      r2TokenId := none
      scriptName := none
      endpointsJson := none
      studioRelease := none
      studioTokenEnc := none
      reclaimLeaseUntil := none
      reclaimLeaseToken := none }
  keeps _ := rfl

/-- Claim a row of any tier for a teardown. A tombstone stays a tombstone. -/
def beginTeardown (now : Nat) (jobs : Jobs) (tenantId : String) (leaseSeconds : Nat)
    (token : String)
    : Update Tenant.id where
  target := tenantId
  guard tenant :=
    Lease.Free now tenant.reclaimLeaseUntil ∧ NoLiveJob now tenant.id jobs
  set tenant :=
    { tenant with
      status := if tenant.status = .deleted then .deleted else .deleting
      reclaimLeaseUntil := some (now + leaseSeconds)
      reclaimLeaseToken := some token }
  keeps _ := rfl

/-- Record a teardown pass. The token is the proof, and the expiry is not consulted. -/
def finishTeardown (now : Nat) (tenantId leaseToken : String) (reaped : Bool)
    : Update Tenant.id where
  target := tenantId
  guard tenant := tenant.reclaimLeaseToken = some leaseToken
  set tenant :=
    { tenant with
      status := if reaped then .deleted else tenant.status
      deletedAt := if reaped then some (tenant.deletedAt.getD now) else tenant.deletedAt
      reclaimLeaseUntil := none
      reclaimLeaseToken := none }
  keeps _ := rfl

/-- Write the lifecycle, and the first moment it was live. -/
def setTenantStatus (now : Nat) (id : String) (status : TenantLifecycle)
    : Update Tenant.id where
  target := id
  guard _ := true
  set tenant :=
    { tenant with
      status := status
      liveAt := if status = .live ∧ tenant.liveAt = none then some now else tenant.liveAt }
  keeps _ := rfl

@[simp] theorem setTenantStatus_onRow (now : Nat) (tenant : Tenant) (status : TenantLifecycle)
    : (setTenantStatus now tenant.id status).onRow tenant
      = (setTenantStatus now tenant.id status).set tenant :=
  Update.onRow_of_match rfl rfl

/-- A call of one of the five methods. The claims carry the random token they mint. -/
inductive TenantCall
  | claimReclaim (tenantId accountId : String) (leaseSeconds : Nat) (token : String)
  | reclaimSlug (tenantId accountId leaseToken : String)
  | beginTeardown (tenantId : String) (leaseSeconds : Nat) (token : String)
  | finishTeardown (tenantId leaseToken : String) (reaped : Bool)
  | setTenantStatus (id : String) (status : TenantLifecycle)
  deriving DecidableEq, Repr

/-- The statement a call runs at `now`, against the jobs the database holds then. -/
def TenantCall.statement (now : Nat) (jobs : Jobs) : TenantCall → Update Tenant.id
  | .claimReclaim tenantId accountId leaseSeconds token =>
      Store.claimReclaim now jobs tenantId accountId leaseSeconds token
  | .reclaimSlug tenantId accountId leaseToken =>
      Store.reclaimSlug now jobs tenantId accountId leaseToken
  | .beginTeardown tenantId leaseSeconds token =>
      Store.beginTeardown now jobs tenantId leaseSeconds token
  | .finishTeardown tenantId leaseToken reaped =>
      Store.finishTeardown now tenantId leaseToken reaped
  | .setTenantStatus id status => Store.setTenantStatus now id status

/-- The row a call names. -/
def TenantCall.tenantId : TenantCall → String
  | .claimReclaim tenantId _ _ _
  | .reclaimSlug tenantId _ _
  | .beginTeardown tenantId _ _
  | .finishTeardown tenantId _ _
  | .setTenantStatus tenantId _ => tenantId

/-- The token a claim mints, with the seconds it asks for. -/
def TenantCall.minted : TenantCall → Option (String × Nat)
  | .claimReclaim _ _ leaseSeconds token
  | .beginTeardown _ leaseSeconds token => some (token, leaseSeconds)
  | .reclaimSlug _ _ _ | .finishTeardown _ _ _ | .setTenantStatus _ _ => none

/-- The token a completing call presents. -/
def TenantCall.presented : TenantCall → Option String
  | .reclaimSlug _ _ leaseToken | .finishTeardown _ leaseToken _ => some leaseToken
  | .claimReclaim _ _ _ _ | .beginTeardown _ _ _ | .setTenantStatus _ _ => none

/-- A call that mints a token presents none. -/
theorem TenantCall.presented_of_minted {call : TenantCall} {token : String} {seconds : Nat}
    (claims : call.minted = some (token, seconds))
    : call.presented = none := by
  cases call with
  | claimReclaim tenantId accountId leaseSeconds own => rfl
  | beginTeardown tenantId leaseSeconds own => rfl
  | reclaimSlug tenantId accountId leaseToken => simp [minted] at claims
  | finishTeardown tenantId leaseToken reaped => simp [minted] at claims
  | setTenantStatus id status => simp [minted] at claims

variable {now : Nat} {jobs : Jobs} {call : TenantCall} {tenant : Tenant}

@[simp] theorem TenantCall.statement_target (now : Nat) (jobs : Jobs)
    (call : TenantCall)
    : (call.statement now jobs).target = call.tenantId := by
  cases call <;> rfl

/-- A claim needs a free lease, and leaves its own lease and token on the row. -/
theorem TenantCall.claim_spec {token : String} {leaseSeconds : Nat}
    (claims : call.minted = some (token, leaseSeconds))
    : ((call.statement now jobs).guard tenant → Lease.Free now tenant.reclaimLeaseUntil)
      ∧ ((call.statement now jobs).set tenant).reclaimLeaseUntil = some (now + leaseSeconds)
      ∧ ((call.statement now jobs).set tenant).reclaimLeaseToken = some token := by
  cases call with
  | claimReclaim tenantId accountId seconds own =>
      simp only [minted, Option.some.injEq, Prod.mk.injEq] at claims
      obtain ⟨sameToken, sameSeconds⟩ := claims
      subst sameToken sameSeconds
      refine ⟨?_, rfl, rfl⟩
      intro met
      simp only [statement, Store.claimReclaim, decide_eq_true_eq] at met
      exact met.2.2.2.1
  | beginTeardown tenantId seconds own =>
      simp only [minted, Option.some.injEq, Prod.mk.injEq] at claims
      obtain ⟨sameToken, sameSeconds⟩ := claims
      subst sameToken sameSeconds
      refine ⟨?_, rfl, rfl⟩
      intro met
      simp only [statement, Store.beginTeardown, decide_eq_true_eq] at met
      exact met.1
  | reclaimSlug tenantId accountId leaseToken => simp [minted] at claims
  | finishTeardown tenantId leaseToken reaped => simp [minted] at claims
  | setTenantStatus id status => simp [minted] at claims

/-- A completing call needs the row's token, and clears it together with the lease. -/
theorem TenantCall.completion_spec {token : String} (completes : call.presented = some token)
    : ((call.statement now jobs).guard tenant → tenant.reclaimLeaseToken = some token)
      ∧ ((call.statement now jobs).set tenant).reclaimLeaseUntil = none
      ∧ ((call.statement now jobs).set tenant).reclaimLeaseToken = none := by
  cases call with
  | reclaimSlug tenantId accountId leaseToken =>
      simp only [presented, Option.some.injEq] at completes
      subst completes
      refine ⟨?_, rfl, rfl⟩
      intro met
      simp only [statement, Store.reclaimSlug, decide_eq_true_eq] at met
      exact met.2.2.1
  | finishTeardown tenantId leaseToken reaped =>
      simp only [presented, Option.some.injEq] at completes
      subst completes
      refine ⟨?_, rfl, rfl⟩
      intro met
      simpa only [statement, Store.finishTeardown, decide_eq_true_eq] using met
  | claimReclaim tenantId accountId leaseSeconds own => simp [presented] at completes
  | beginTeardown tenantId leaseSeconds own => simp [presented] at completes
  | setTenantStatus id status => simp [presented] at completes

/-- A call that neither claims nor completes leaves lease and token alone. -/
theorem TenantCall.frame_spec (claims : call.minted = none)
    (completes : call.presented = none)
    : ((call.statement now jobs).set tenant).reclaimLeaseUntil = tenant.reclaimLeaseUntil
      ∧ ((call.statement now jobs).set tenant).reclaimLeaseToken
        = tenant.reclaimLeaseToken := by
  cases call with
  | setTenantStatus id status => exact ⟨rfl, rfl⟩
  | claimReclaim tenantId accountId leaseSeconds own => simp [minted] at claims
  | beginTeardown tenantId leaseSeconds own => simp [minted] at claims
  | reclaimSlug tenantId accountId leaseToken => simp [presented] at completes
  | finishTeardown tenantId leaseToken reaped => simp [presented] at completes

/-- No call clears or moves live_at once it is set. -/
theorem TenantCall.set_liveAt {first : Nat} (wasLive : tenant.liveAt = some first)
    : ((call.statement now jobs).set tenant).liveAt = some first := by
  cases call with
  | setTenantStatus id status => simp [statement, Store.setTenantStatus, wasLive]
  | claimReclaim tenantId accountId leaseSeconds token => exact wasLive
  | beginTeardown tenantId leaseSeconds token => exact wasLive
  | reclaimSlug tenantId accountId leaseToken => exact wasLive
  | finishTeardown tenantId leaseToken reaped => exact wasLive

/-- No call clears or moves deleted_at once it is set. -/
theorem TenantCall.set_deletedAt {first : Nat} (wasDeleted : tenant.deletedAt = some first)
    : ((call.statement now jobs).set tenant).deletedAt = some first := by
  cases call with
  | finishTeardown tenantId leaseToken reaped =>
      simp [statement, Store.finishTeardown, wasDeleted]
  | setTenantStatus id status => exact wasDeleted
  | claimReclaim tenantId accountId leaseSeconds token => exact wasDeleted
  | beginTeardown tenantId leaseSeconds token => exact wasDeleted
  | reclaimSlug tenantId accountId leaseToken => exact wasDeleted

/-- Only a lifecycle write takes a row out of 'deleted': the claims of a slug do not match
it, and a teardown keeps it.
-/
theorem TenantCall.set_deleted (tombstone : tenant.status = .deleted)
    (notWritten : ∀ id status, call = .setTenantStatus id status → status = .deleted)
    (met : (call.statement now jobs).guard tenant)
    : ((call.statement now jobs).set tenant).status = .deleted := by
  cases call with
  | claimReclaim tenantId accountId leaseSeconds token => exact tombstone
  | reclaimSlug tenantId accountId leaseToken =>
      simp [statement, Store.reclaimSlug, tombstone, tierAStatuses] at met
  | beginTeardown tenantId leaseSeconds token =>
      simp [statement, Store.beginTeardown, tombstone]
  | finishTeardown tenantId leaseToken reaped =>
      simp [statement, Store.finishTeardown, tombstone]
  | setTenantStatus id status => exact notWritten id status rfl

/-- Calls in the order the database ran them, each with its clock and the jobs it ran
against.
-/
structure TenantEvent where
  now : Nat
  jobs : Jobs
  call : TenantCall

/-- The statement an event runs. -/
def TenantEvent.statement (event : TenantEvent) : Update Tenant.id :=
  event.call.statement event.now event.jobs

abbrev TenantRun := List TenantEvent

/-- The table after a run of calls. -/
def Tenants.after (tenants : Tenants) (run : TenantRun) : Tenants :=
  Update.applyAll (run.map TenantEvent.statement) tenants

/-- What the method answers: the changed row, or null. -/
def TenantEvent.answer (tenants : Tenants) (event : TenantEvent) : Option Tenant :=
  event.statement.returning tenants

theorem Tenants.after_append (tenants : Tenants) (first second : TenantRun)
    : tenants.after (first ++ second) = (tenants.after first).after second := by
  simp only [Tenants.after, List.map_append, Update.applyAll_append]

end ControlPlane.Store
