import Mathlib.Logic.Function.Basic
import ControlPlane.Library.Runs
import ControlPlane.Provision.Refusals
import ControlPlane.Provision.Stepping

/-! The engines that drive a provision. A poll reads the tenant row, then the job, and drives once;
a scheduled tick lists the tenant rows once, and then reads the job and drives until a guard says
no. Both hand a driver the tenant row they hold, however long ago they read it.
-/

namespace ControlPlane.Provision

open ControlPlane.Library
open ControlPlane.Store
open ControlPlane.Teardown (truthy)

/-- MAX_JOB_STALE_MS. -/
def maxJobStaleMs : Nat := 600000

/-- MAX_PROVISION_JOB_AGE_MS. -/
def maxProvisionJobAgeMs : Nat := 7200000

/-- How long after an instant of the database it is, in milliseconds. -/
def elapsedMs (nowMs instant : Nat) : Int :=
  (nowMs : Int) - instant * 1000

/-- Does this job currently have a live driver? -/
def jobHasLiveDriver (nowMs : Nat) (job : ProvisionJob) : Bool :=
  job.status.active && job.leaseUntil.any fun expiry => nowMs < expiry * 1000

/-- What driveJobIfNeeded does with the job row it was handed. -/
inductive DriveDecision
  | nothing
  | reap (message : String)
  | claim
  deriving DecidableEq, Repr

/-- The guards of driveJobIfNeeded, in their order. -/
def driveDecision (nowMs : Nat) (job : ProvisionJob) : DriveDecision :=
  if ¬ job.status.active then .nothing
  else if job.kind ≠ .provision then .nothing
  else if jobHasLiveDriver nowMs job then .nothing
  else if elapsedMs nowMs job.createdAt > maxProvisionJobAgeMs then
    .reap
      ("provision did not complete within 120 minutes of being created; giving up rather than "
        ++ "driving it forever")
  else if elapsedMs nowMs job.updatedAt > maxJobStaleMs then
    .reap
      ("invocation lost: no progress for over 10 minutes; the provision did not complete")
  else if job.status = .queued then .nothing
  else .claim

/-- The guards only reap or claim an open job, and claim it only once it was taken. -/
theorem driveDecision_spec {nowMs : Nat} {job : ProvisionJob}
    (drives : driveDecision nowMs job ≠ .nothing)
    : job.status.active ∧ (driveDecision nowMs job = .claim → job.status ≠ .queued) := by
  unfold driveDecision at drives ⊢
  split_ifs at drives ⊢ with active otherKind live aged stale queued
  all_goals first
    | exact absurd rfl drives
    | exact ⟨active, fun _ => queued⟩
    | exact ⟨active, nofun⟩

/-- What drives: a poll, or a scheduled tick. -/
inductive Engine
  | poll
  | tick
  deriving DecidableEq, Repr

/-- Where an invocation of an engine is, with the rows it has read. The request that created the job
dispatches its first driver with the row it holds.
-/
inductive EngineAt
  | idle
  | dispatched (tenant : Tenant)
  | holding (engine : Engine) (tenant : Tenant)
  | deciding (engine : Engine) (tenant : Tenant) (job : ProvisionJob)
  | reaping (job : ProvisionJob) (message : String)
  | owesStatus
  | claiming (engine : Engine) (tenant : Tenant) (job : ProvisionJob)
  | driving (engine : Engine) (tenant : Tenant) (invocation : Invocation)
  deriving DecidableEq, Repr

/-- Where an engine is when its drive has returned. A tick goes round with the row it listed. -/
def Engine.afterDrive (tenant : Tenant) : Engine → EngineAt
  | .poll => .idle
  | .tick => .holding .tick tenant

/-- The clock of the plane in milliseconds, the two rows, and where every engine is. -/
structure Driving where
  nowMs : Nat
  rows : Rows
  engines : Nat → EngineAt

/-- The clock of the database, which counts seconds. -/
def Driving.now (state : Driving) : Nat := state.nowMs / 1000

/-- What an engine does next. -/
inductive EngineAct
  | start (answers : Answers)
  | readTenant (engine : Engine)
  | readJob
  | leave
  | decide
  | reap
  | writeFailed
  | claim (answers : Answers)
  | move (move : Move)
  | beat

inductive DrivingAction
  | pass (ms : Nat)
  | act (which : Nat) (act : EngineAct)

/-- The state with one engine elsewhere. -/
def Driving.put (state : Driving) (which : Nat) (place : EngineAt) : Driving :=
  { state with engines := Function.update state.engines which place }

/-- The statuses that a tick lists. -/
def listedStatuses : List TenantLifecycle := [.pending, .provisioning]

/-- An engine's next act, where it can take it. -/
def Driving.act (state : Driving) (which : Nat) : EngineAt → EngineAct → Option Driving
  | .dispatched tenant, .start answers =>
      some
        (state.put which (.driving .poll tenant
          (.working [] (runProvisionJob answers tenant none))))
  | .idle, .readTenant engine =>
      if engine = .poll ∨ state.rows.tenant.status ∈ listedStatuses then
        some (state.put which (.holding engine state.rows.tenant))
      else none
  | .holding engine tenant, .readJob =>
      some (state.put which (.deciding engine tenant state.rows.job))
  -- the budget of a tick is spent
  | .holding _ _, .leave => some (state.put which .idle)
  | .deciding engine tenant job, .decide =>
      match driveDecision state.nowMs job with
      | .nothing => some (state.put which .idle)
      | .reap message => some (state.put which (.reaping job message))
      | .claim => some (state.put which (.claiming engine tenant job))
  | .reaping job message, .reap =>
      let close := finishJob state.now job.id .failed job.step (some message)
      let closed := { state with rows := state.rows.onJob close }
      some (closed.put which (if close.guard state.rows.job then .owesStatus else .idle))
  | .owesStatus, .writeFailed =>
      let write := Store.setTenantStatus state.now state.rows.tenant.id .failed
      let written :=
        { state with rows := { state.rows with tenant := write.onRow state.rows.tenant } }
      some (written.put which .idle)
  | .claiming engine tenant job, .claim answers =>
      let take := claimJob state.now job.id jobLeaseSeconds
      let claimed := { state with rows := state.rows.onJob take }
      if take.guard state.rows.job then
        match readProgress job.stepsDone with
        | some done =>
            some
              (claimed.put which (.driving engine tenant
                (.working done
                  (continueProvisionJob answers job.id (some claimed.rows.job) tenant done))))
        | none => some (claimed.put which .idle)
      else some (state.put which .idle)
  | .driving engine tenant invocation, .move move =>
      (invocation.step state.now state.rows move).map fun next =>
        let moved := { state with rows := next.1 }
        moved.put which
          (if next.2 = .returned then engine.afterDrive tenant
            else .driving engine tenant next.2)
  | .driving _ _ _, .beat =>
      some
        { state with
          rows := state.rows.onJob (renewJobLease state.now state.rows.job.id jobLeaseSeconds) }
  | _, _ => none

/-- The state after an action. -/
def Driving.step (state : Driving) : DrivingAction → Option Driving
  | .pass ms => some { state with nowMs := state.nowMs + ms }
  | .act which act => state.act which (state.engines which) act

/-- A row as a provision finds it: new, or blanked by a reclaim. -/
def blankTenant (tenant : Tenant) : Tenant :=
  { tenant with
    status := .pending
    d1DatabaseId := none
    r2BucketName := none
    r2TokenId := none
    scriptName := none
    endpointsJson := none
    studioRelease := none
    studioTokenEnc := none }

/-- A shared provision that was just requested: its job records the release it builds, and its
first driver is dispatched.
-/
def Driving.requested (nowMs : Nat) (id : String) (tenant : Tenant)
    (release : { release : String // release ≠ "" })
    : Driving where
  nowMs := nowMs
  rows :=
    { job := queuedJob (nowMs / 1000) id tenant.id .provision (some RunPodMode.shared.text)
        (some release)
      tenant := blankTenant tenant }
  engines := Function.update (fun _ => .idle) 0 (.dispatched (blankTenant tenant))

/-- Nothing fails: no call throws, a database has an id, and the clock does not pass the lease of a
driver at work, whose heartbeat renews it.
-/
def Undisturbed (state : Driving) : DrivingAction → Prop
  | .pass ms =>
      ∀ which engine tenant invocation,
        state.engines which = .driving engine tenant invocation
        → ∀ expiry, state.rows.job.leaseUntil = some expiry
          → (state.nowMs + ms) / 1000 ≤ expiry
  | .act _ (.start answers) | .act _ (.claim answers) => answers.databaseId ≠ ""
  | .act _ (.move (.throws _ _)) => False
  | _ => True

/-- No drive kills the provision: its job is not failed, no driver at work has a refusal ahead, and
the job is closed only with its tenant awaiting go-live.
-/
structure Driving.Healthy (state : Driving) : Prop where
  notFailed : state.rows.job.status ≠ .failed
  refusesNothing
    : ∀ which engine tenant done rest step message,
        state.engines which = .driving engine tenant (.working done rest)
        → .refuse step message ∉ rest
  awaits : ¬ state.rows.job.status.active → state.rows.tenant.status = .awaitingGoLive

/-- In a run in which nothing fails, every state is healthy. -/
def KeepsHealthy (start : Driving) (actions : List DrivingAction) : Prop :=
  Throughout Driving.step Undisturbed start actions
  → Everywhere Driving.step Driving.Healthy start actions

/-- The condition on an action: a claim that wins hands on a tenant row that is current for the
steps of the job row read with it, and no reap lands on an open job.
-/
def Serves (state : Driving) : DrivingAction → Prop
  | .act which (.claim _) =>
      ∀ engine tenant job done,
        state.engines which = .claiming engine tenant job
        → (claimJob state.now job.id jobLeaseSeconds).guard state.rows.job
        → readProgress job.stepsDone = some done
        → Current tenant done
  | .act _ .reap => ¬ state.rows.job.status.active
  | _ => True

end ControlPlane.Provision
