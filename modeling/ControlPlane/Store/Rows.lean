import Mathlib.Order.Nat
import ControlPlane.Library.KeyedTables
import ControlPlane.Library.Leases

/-! The platform rows that provisioning and teardown share. A column written
with datetime('now') is a number of whole seconds.
-/

namespace ControlPlane.Store

open ControlPlane.Library

/-- Why the database rejects a row. -/
inductive ConstraintViolation
  | check
  | primaryKey
  | foreignKey
  deriving DecidableEq, Repr

/-- The tenant lifecycle. Suspension is a separate column and is not in here. -/
inductive TenantLifecycle
  | pending
  | provisioning
  | awaitingGoLive
  | awaitingInvokeKey
  | live
  | failed
  | deleting
  | deleted
  deriving DecidableEq, Repr

/-- The lifecycle set of a tenant that has not finished provisioning. -/
def tierAStatuses : List TenantLifecycle :=
  [.pending, .provisioning, .awaitingGoLive, .awaitingInvokeKey, .failed]

/-- One tenant instance. -/
structure Tenant where
  id : String
  slug : String
  accountId : String
  status : TenantLifecycle
  scriptName : Option String := none
  d1DatabaseId : Option String := none
  r2BucketName : Option String := none
  endpointsJson : Option String := none
  r2TokenId : Option String := none
  studioRelease : Option String := none
  modulesRelease : Option String := none
  studioTokenEnc : Option String := none
  createdAt : Nat := 0
  liveAt : Option Nat := none
  deletedAt : Option Nat := none
  teardownAt : Option Nat := none
  teardownFailures : Option String := none
  reclaimLeaseUntil : Option Nat := none
  reclaimLeaseToken : Option String := none
  runpodMode : String := "dedicated"
  deriving DecidableEq, Repr

inductive JobKind
  | provision
  | deprovision
  | moduleUpgrade
  | studioUpgrade
  deriving DecidableEq, Repr

inductive JobStatus
  | queued
  | running
  | succeeded
  | failed
  deriving DecidableEq, Repr

/-- status IN ('queued', 'running'). -/
def JobStatus.active : JobStatus → Bool
  | .queued | .running => true
  | .succeeded | .failed => false

/-- A closed job: neither queued nor running. -/
def JobStatus.Terminal (status : JobStatus) : Prop :=
  status.active = false

instance (status : JobStatus) : Decidable status.Terminal := by
  unfold JobStatus.Terminal; infer_instance

/-- One provision or upgrade job. -/
structure ProvisionJob where
  id : String
  tenantId : String
  kind : JobKind
  status : JobStatus
  step : Option String := none
  stepsDone : String := "[]"
  errorStep : Option String := none
  errorMessage : Option String := none
  attempts : Nat := 0
  leaseUntil : Option Nat := none
  fromRelease : Option String := none
  toRelease : Option String := none
  runpodMode : Option String := none
  createdAt : Nat
  updatedAt : Nat
  finishedAt : Option Nat := none
  deriving DecidableEq, Repr

/-- The tenants table, with its primary key. -/
abbrev Tenants := Keyed Tenant.id

/-- The provision_jobs table, with its primary key. -/
abbrev Jobs := Keyed ProvisionJob.id

/-- A driver holds this job: it is active and its lease is live. -/
def ProvisionJob.HasLiveLease (now : Nat) (job : ProvisionJob) : Prop :=
  job.status.active ∧ Lease.Live now job.leaseUntil

instance (now : Nat) (job : ProvisionJob) : Decidable (job.HasLiveLease now) := by
  unfold ProvisionJob.HasLiveLease; infer_instance

/-- The NOT EXISTS clause of the destructive claims: no job of the tenant is leased. -/
def NoLiveJob (now : Nat) (tenantId : String) (jobs : Jobs) : Prop :=
  ∀ job ∈ jobs.rows, job.tenantId = tenantId → ¬ job.HasLiveLease now

instance (now : Nat) (tenantId : String) (jobs : Jobs)
    : Decidable (NoLiveJob now tenantId jobs) := by
  unfold NoLiveJob; infer_instance

end ControlPlane.Store
