import Mathlib.Logic.Function.Basic
import ControlPlane.Store.ProvisionJobs

/-! A job lease names no holder. A driver whose lease ran out and was claimed by another can
still renew, release and mark the job; the statements stop it only once the job is closed.
-/

namespace ControlPlane.JobLifecycle

open ControlPlane.Library
open ControlPlane.Store

/-- One store call of one driver. -/
structure DriverCall where
  now : Nat
  driver : Driver
  call : JobCall
  deriving DecidableEq, Repr

/-- The jobs table, with what each driver last took or was given of one job's lease. -/
structure Fleet where
  jobs : Jobs
  held : Driver → Option Nat

/-- The call changed a row. renewJobLease and releaseJobLease report this to their caller. -/
def DriverCall.Landed (jobs : Jobs) (act : DriverCall) : Prop :=
  (act.call.statement act.now).changes jobs = 1

instance (jobs : Jobs) (act : DriverCall) : Decidable (act.Landed jobs) := by
  unfold DriverCall.Landed; infer_instance

/-- The lease a call leaves on the row it changes. -/
def leaseWritten (now : Nat) : JobCall → Option Nat
  | .setJobRunning _ | .updateJobProgress _ _ _ => some (now + jobLeaseSeconds)
  | .claimJob _ leaseSeconds | .renewJobLease _ leaseSeconds => some (now + leaseSeconds)
  | .releaseJobLease _ | .finishJob _ _ _ _ => none

theorem set_leaseUntil (now : Nat) (call : JobCall) (job : ProvisionJob)
    : ((call.statement now).set job).leaseUntil = leaseWritten now call := by
  cases call <;> rfl

/-- A call that lands on the job leaves its driver with the lease the row now has. -/
def Fleet.step (id : String) (fleet : Fleet) (act : DriverCall) : Fleet where
  jobs := (act.call.statement act.now).apply fleet.jobs
  held :=
    if act.call.jobId = id ∧ act.Landed fleet.jobs then
      Function.update fleet.held act.driver (leaseWritten act.now act.call)
    else
      fleet.held

def Fleet.after (id : String) (fleet : Fleet) (run : List DriverCall) : Fleet :=
  run.foldl (Fleet.step id) fleet

/-- After the calls so far, `loser` let its lease run out, `winner` then won claimJob, and
the winner's lease has been neither released nor left to expire since, up to `now`.
-/
def Displaced (id : String) (start : Fleet) (sofar : List DriverCall)
    (loser winner : Driver) (now : Nat)
    : Prop :=
  loser ≠ winner
  ∧ ∃ before claim during leaseSeconds,
      sofar = before ++ claim :: during
      ∧ claim.driver = winner
      ∧ claim.call = .claimJob id leaseSeconds
      ∧ claim.Landed (start.after id before).jobs
      ∧ (∃ expiry, (start.after id before).held loser = some expiry ∧ expiry < claim.now)
      ∧ (∀ first act second, during = first ++ act :: second
          → Lease.Unexpired act.now ((start.after id (before ++ claim :: first)).held winner))
      ∧ Lease.Unexpired now ((start.after id sofar).held winner)

/-- The calls by which a driver acts on a job it holds. -/
def OfHolder (id : String) : JobCall → Prop
  | .renewJobLease job _ | .releaseJobLease job | .updateJobProgress job _ _ => job = id
  | .setJobRunning _ | .claimJob _ _ | .finishJob _ _ _ _ => False

/-- The calls that report whether they changed the row. -/
def Reports : JobCall → Prop
  | .renewJobLease _ _ | .releaseJobLease _ => True
  | _ => False

/-- Every holder call of a displaced driver leaves the row as it was, and reports so. -/
def Fenced (id : String) (start : Fleet) (run : List DriverCall) : Prop :=
  ∀ sofar act rest winner, run = sofar ++ act :: rest
    → Displaced id start sofar act.driver winner act.now
    → OfHolder id act.call
    → ((start.after id sofar).step id act).jobs.get? id = (start.after id sofar).jobs.get? id
      ∧ (Reports act.call → ¬ act.Landed (start.after id sofar).jobs)

/-- The call is a mark that repeats what the row already says, to the second. -/
def RepeatsMark (now : Nat) (job : ProvisionJob) : JobCall → Prop
  | .updateJobProgress _ step stepsDoneJson =>
      job.step = some step
      ∧ job.stepsDone = stepsDoneJson
      ∧ job.updatedAt = now
      ∧ job.leaseUntil = some (now + jobLeaseSeconds)
  | _ => False

/-- Every holder call of a displaced driver comes after the job was closed, or repeats its
latest mark.
-/
def DisplacedOnlyAfterClose (id : String) (start : Fleet) (run : List DriverCall) : Prop :=
  ∀ sofar act rest winner, run = sofar ++ act :: rest
    → Displaced id start sofar act.driver winner act.now
    → OfHolder id act.call
    → ∀ job, (start.after id sofar).jobs.get? id = some job
      → job.status.Terminal ∨ RepeatsMark act.now job act.call

/-- A holder call meets its WHERE clause exactly on an active job. -/
theorem guard_of_holder {id : String} {call : JobCall} (holder : OfHolder id call)
    (now : Nat) (job : ProvisionJob)
    : (call.statement now).guard job ↔ job.status.active := by
  cases call with
  | setJobRunning job => exact holder.elim
  | claimJob job leaseSeconds => exact holder.elim
  | renewJobLease job leaseSeconds => exact Iff.rfl
  | releaseJobLease job => exact Iff.rfl
  | updateJobProgress job step stepsDoneJson => exact Iff.rfl
  | finishJob job outcome errorStep errorMessage => exact holder.elim

theorem jobId_of_holder {id : String} {call : JobCall} (holder : OfHolder id call)
    : call.jobId = id := by
  cases call with
  | setJobRunning job => exact holder.elim
  | claimJob job leaseSeconds => exact holder.elim
  | renewJobLease job leaseSeconds => exact holder
  | releaseJobLease job => exact holder
  | updateJobProgress job step stepsDoneJson => exact holder
  | finishJob job outcome errorStep errorMessage => exact holder.elim

/-- A mark changes nothing exactly when it repeats the row. -/
theorem updateJobProgress_set_eq (now : Nat) (id step stepsDoneJson : String)
    (job : ProvisionJob)
    : (updateJobProgress now id step stepsDoneJson).set job = job
      ↔ RepeatsMark now job (.updateJobProgress id step stepsDoneJson) := by
  constructor
  · intro same
    rw [← same]
    exact ⟨rfl, rfl, rfl, rfl⟩
  · intro repeats
    obtain ⟨sameStep, sameDone, sameMark, sameLease⟩ := repeats
    obtain ⟨⟩ := job
    simp only at sameStep sameDone sameMark sameLease
    subst sameStep sameDone sameMark sameLease
    rfl

/-- One holder call is harmless exactly when the job is closed or the call repeats its mark.
Witness: on an active job the statement lands, so a heartbeat or a release reports success
and a mark rewrites the row.
-/
theorem harmless_iff {id : String} {jobs : Jobs} {act : DriverCall} {job : ProvisionJob}
    (holder : OfHolder id act.call) (found : jobs.get? id = some job)
    : (((act.call.statement act.now).apply jobs).get? id = jobs.get? id
        ∧ (Reports act.call → ¬ act.Landed jobs))
      ↔ job.status.Terminal ∨ RepeatsMark act.now job act.call := by
  have target : (act.call.statement act.now).target = id := by
    rw [JobCall.statement_target, jobId_of_holder holder]
  have guard := guard_of_holder holder act.now job
  have landed : act.Landed jobs ↔ job.status.active := by
    rw [DriverCall.Landed, Update.changes_eq_one, target, found, ← guard]
    simp
  by_cases active : job.status.active
  · have rewritten : ((act.call.statement act.now).apply jobs).get? id
        = some ((act.call.statement act.now).set job) := by
      rw [← target]
      exact Update.get?_apply_of_match _ (target ▸ found) (guard.mpr active)
    have notClosed : ¬ job.status.Terminal := by
      simp [JobStatus.Terminal, active]
    rw [rewritten, found, Option.some.injEq]
    simp only [landed, active, not_true_eq_false, imp_false, notClosed, false_or]
    obtain ⟨now, driver, call⟩ := act
    cases call with
    | renewJobLease job leaseSeconds => simp [Reports, RepeatsMark]
    | releaseJobLease job => simp [Reports, RepeatsMark]
    | updateJobProgress job step stepsDoneJson =>
        have repeats := updateJobProgress_set_eq now job step stepsDoneJson
        simpa [Reports, JobCall.statement] using repeats _
    | setJobRunning job => exact holder.elim
    | claimJob job leaseSeconds => exact holder.elim
    | finishJob job outcome errorStep errorMessage => exact holder.elim
  · have closed : job.status.Terminal := by
      simpa [JobStatus.Terminal] using active
    have kept := Update.get?_apply_of_not (act.call.statement act.now) found
      (fun matched => active (guard.mp matched.2))
    simp [kept, found, landed, active, closed]

/-- Displaced drivers are fenced off exactly in the runs where their calls come after the
job was closed or repeat its latest mark.
-/
theorem fenced_iff (id : String) (start : Fleet) (run : List DriverCall)
    : Fenced id start run ↔ DisplacedOnlyAfterClose id start run := by
  constructor
  · intro fenced sofar act rest winner cut displaced holder job found
    exact (harmless_iff holder found).mp (fenced sofar act rest winner cut displaced holder)
  · intro onlyAfterClose sofar act rest winner cut displaced holder
    cases found : (start.after id sofar).jobs.get? id with
    | none =>
        have missed : ¬ act.Landed (start.after id sofar).jobs := by
          rw [DriverCall.Landed, Update.changes_eq_one, JobCall.statement_target,
            jobId_of_holder holder, found]
          simp
        refine ⟨?_, fun _ => missed⟩
        simp [Fleet.step, Update.get?_apply, found]
    | some job =>
        have harmless := (harmless_iff holder found).mpr
          (onlyAfterClose sofar act rest winner cut displaced holder job found)
        rw [found] at harmless
        exact harmless

/-- A queued job nobody has touched. -/
def freshJob : Fleet where
  jobs :=
    .singleton
      { id := "job_1", tenantId := "ten_1", kind := .provision, status := .queued
        createdAt := 0, updatedAt := 0 }
  held := fun _ => none

/-- Driver 1 starts the job, driver 2 claims it when the lease has lapsed, and driver 1's
next heartbeat arrives.
-/
def lateHeartbeat : List DriverCall :=
  [⟨0, 1, .setJobRunning "job_1"⟩, ⟨61, 2, .claimJob "job_1" 60⟩,
    ⟨62, 1, .renewJobLease "job_1" 60⟩]

/-- The heartbeat of the displaced driver extends the lease and reports success. -/
theorem lateHeartbeat_lands : ¬ Fenced "job_1" freshJob lateHeartbeat := by
  intro fenced
  have displaced : Displaced "job_1" freshJob
      [⟨0, 1, .setJobRunning "job_1"⟩, ⟨61, 2, .claimJob "job_1" 60⟩] 1 2 62 := by
    refine ⟨by decide, [⟨0, 1, .setJobRunning "job_1"⟩], ⟨61, 2, .claimJob "job_1" 60⟩, [],
      60, rfl, rfl, rfl, by decide, ⟨60, by decide, by decide⟩, ?_, by decide⟩
    intro first act second impossible
    simp at impossible
  have kept := fenced _ ⟨62, 1, .renewJobLease "job_1" 60⟩ [] 2 rfl displaced rfl
  exact absurd kept.1 (by decide)

end ControlPlane.JobLifecycle
