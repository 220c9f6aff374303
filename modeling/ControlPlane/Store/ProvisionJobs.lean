import ControlPlane.Store.Rows

/-! The six statements that drive a provision job. Each one is the UPDATE the store prepares;
the methods that report an outcome report whether it changed one row.
-/

namespace ControlPlane.Store

open ControlPlane.Library

/-- How long one driver holds a job. -/
def jobLeaseSeconds : Nat := 60

/-- Mark a job running, unless somebody holds its lease. There is no test of the status. -/
def setJobRunning (now : Nat) (id : String) : Update ProvisionJob.id where
  target := id
  guard job := Lease.Free now job.leaseUntil
  set job :=
    { job with
      status := .running
      attempts := job.attempts + 1
      leaseUntil := some (now + jobLeaseSeconds)
      updatedAt := now }
  keeps _ := rfl

/-- Take the driving claim on a job whose lease is free. -/
def claimJob (now : Nat) (id : String) (leaseSeconds : Nat)
    : Update ProvisionJob.id where
  target := id
  guard job := job.status.active ∧ Lease.Free now job.leaseUntil
  set job := { job with leaseUntil := some (now + leaseSeconds), updatedAt := now }
  keeps _ := rfl

/-- The driving heartbeat: the lease and nothing else. -/
def renewJobLease (now : Nat) (id : String) (leaseSeconds : Nat)
    : Update ProvisionJob.id where
  target := id
  guard job := job.status.active
  set job := { job with leaseUntil := some (now + leaseSeconds) }
  keeps _ := rfl

/-- Hand the lease back at a yield boundary. -/
def releaseJobLease (id : String) : Update ProvisionJob.id where
  target := id
  guard job := job.status.active
  set job := { job with leaseUntil := none }
  keeps _ := rfl

/-- Record a completed step. -/
def updateJobProgress (now : Nat) (id : String) (step : String) (stepsDoneJson : String)
    : Update ProvisionJob.id where
  target := id
  guard job := job.status.active
  set job :=
    { job with
      step := some step
      stepsDone := stepsDoneJson
      updatedAt := now
      leaseUntil := some (now + jobLeaseSeconds) }
  keeps _ := rfl

/-- The two outcomes a job can be closed with. -/
inductive JobOutcome
  | succeeded
  | failed
  deriving DecidableEq, Repr

def JobOutcome.status : JobOutcome → JobStatus
  | .succeeded => .succeeded
  | .failed => .failed

/-- Close a job that is not closed yet. -/
def finishJob (now : Nat) (id : String) (outcome : JobOutcome)
    (errorStep errorMessage : Option String)
    : Update ProvisionJob.id where
  target := id
  guard job := job.status.active
  set job :=
    { job with
      status := outcome.status
      errorStep := errorStep
      errorMessage := errorMessage
      finishedAt := some now
      updatedAt := now
      leaseUntil := none }
  keeps _ := rfl

/-- The row createProvisionJob inserts. -/
def queuedJob (now : Nat) (id tenantId : String) (kind : JobKind)
    (runpodMode toRelease : Option String)
    : ProvisionJob where
  id := id
  tenantId := tenantId
  kind := kind
  status := .queued
  runpodMode := runpodMode
  toRelease := toRelease
  createdAt := now
  updatedAt := now

/-- One invocation that drives a job. -/
abbrev Driver := Nat

/-- A call of one of the six methods. -/
inductive JobCall
  | setJobRunning (id : String)
  | claimJob (id : String) (leaseSeconds : Nat)
  | renewJobLease (id : String) (leaseSeconds : Nat)
  | releaseJobLease (id : String)
  | updateJobProgress (id step stepsDoneJson : String)
  | finishJob (id : String) (outcome : JobOutcome) (errorStep errorMessage : Option String)
  deriving DecidableEq, Repr

/-- The statement a call runs at `now`. -/
def JobCall.statement (now : Nat) : JobCall → Update ProvisionJob.id
  | .setJobRunning id => Store.setJobRunning now id
  | .claimJob id leaseSeconds => Store.claimJob now id leaseSeconds
  | .renewJobLease id leaseSeconds => Store.renewJobLease now id leaseSeconds
  | .releaseJobLease id => Store.releaseJobLease id
  | .updateJobProgress id step stepsDoneJson => Store.updateJobProgress now id step stepsDoneJson
  | .finishJob id outcome errorStep errorMessage =>
      Store.finishJob now id outcome errorStep errorMessage

/-- The job a call names. -/
def JobCall.jobId : JobCall → String
  | .setJobRunning id
  | .claimJob id _
  | .renewJobLease id _
  | .releaseJobLease id
  | .updateJobProgress id _ _
  | .finishJob id _ _ _ => id

@[simp] theorem JobCall.statement_target (now : Nat) (call : JobCall)
    : (call.statement now).target = call.jobId := by
  cases call <;> rfl

/-- A call keeps the identity of the row it changes. -/
theorem JobCall.set_tenantId (now : Nat) (call : JobCall) (job : ProvisionJob)
    : ((call.statement now).set job).tenantId = job.tenantId := by
  cases call <;> rfl

/-- A closed job meets the WHERE clause of one statement only: setJobRunning, which tests the
lease and not the status.
-/
theorem JobCall.guard_of_terminal {now : Nat} {call : JobCall} {job : ProvisionJob}
    (closed : job.status.Terminal) (met : (call.statement now).guard job)
    : call = .setJobRunning call.jobId ∧ Lease.Free now job.leaseUntil := by
  unfold JobStatus.Terminal at closed
  cases call with
  | setJobRunning id =>
      simp only [statement, Store.setJobRunning, decide_eq_true_eq] at met
      exact ⟨rfl, met⟩
  | claimJob id leaseSeconds => simp [statement, Store.claimJob, closed] at met
  | renewJobLease id leaseSeconds => simp [statement, Store.renewJobLease, closed] at met
  | releaseJobLease id => simp [statement, Store.releaseJobLease, closed] at met
  | updateJobProgress id step stepsDoneJson =>
      simp [statement, Store.updateJobProgress, closed] at met
  | finishJob id outcome errorStep errorMessage =>
      simp [statement, Store.finishJob, closed] at met

/-- Calls in the order the database ran them, each with the clock it ran at. -/
abbrev JobRun := List (Nat × JobCall)

/-- The table after a run of calls. -/
def Jobs.after (jobs : Jobs) (run : JobRun) : Jobs :=
  Update.applyAll (run.map fun call => call.2.statement call.1) jobs

@[simp] theorem Jobs.after_nil (jobs : Jobs) : jobs.after [] = jobs := rfl

@[simp] theorem Jobs.after_cons (jobs : Jobs) (call : Nat × JobCall) (rest : JobRun)
    : jobs.after (call :: rest) = Jobs.after ((call.2.statement call.1).apply jobs) rest :=
  rfl

theorem Jobs.after_append (jobs : Jobs) (first second : JobRun)
    : jobs.after (first ++ second) = (jobs.after first).after second := by
  simp only [Jobs.after, List.map_append, Update.applyAll_append]

end ControlPlane.Store
