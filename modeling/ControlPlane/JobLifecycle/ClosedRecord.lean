import ControlPlane.Library.Runs
import ControlPlane.Store.ProvisionJobs

/-! A closed job is meant to be a closed record. Five of the six statements test the status
for it; setJobRunning tests the lease alone, and closing a job is what frees the lease.
-/

namespace ControlPlane.JobLifecycle

open ControlPlane.Library
open ControlPlane.Store

/-- From the first moment of the run at which the job is closed, no call changes its row. -/
def ClosedRecord (jobs : Jobs) (id : String) (run : JobRun) : Prop :=
  ∀ earlier later rest, run = earlier ++ later ++ rest
    → ∀ job, (jobs.after earlier).get? id = some job
      → job.status.Terminal
      → (jobs.after (earlier ++ later)).get? id = some job

/-- No setJobRunning of the run finds the job closed with its lease free. -/
def NoStartAfterClose (jobs : Jobs) (id : String) (run : JobRun) : Prop :=
  ∀ earlier now rest, run = earlier ++ (now, .setJobRunning id) :: rest
    → ∀ job, (jobs.after earlier).get? id = some job
      → job.status.Terminal
      → ¬ Lease.Free now job.leaseUntil

/-- A call leaves a closed row alone unless it starts the job on a free lease. -/
theorem get?_of_terminal {jobs : Jobs} {id : String} {job : ProvisionJob} {now : Nat}
    {call : JobCall} (found : jobs.get? id = some job) (closed : job.status.Terminal)
    (late : call = .setJobRunning id → ¬ Lease.Free now job.leaseUntil)
    : ((call.statement now).apply jobs).get? id = some job := by
  refine Update.get?_apply_of_not _ found ?_
  intro matched
  obtain ⟨target, met⟩ := matched
  obtain ⟨start, free⟩ := JobCall.guard_of_terminal closed met
  rw [JobCall.statement_target] at target
  exact late (target ▸ start) free

/-- Starting a closed job on a free lease reopens its row. -/
theorem get?_setJobRunning {jobs : Jobs} {id : String} {job : ProvisionJob} {now : Nat}
    (found : jobs.get? id = some job) (free : Lease.Free now job.leaseUntil)
    : ((setJobRunning now id).apply jobs).get? id
      = some ((setJobRunning now id).set job) :=
  Update.get?_apply_of_match (setJobRunning now id) found (by
    simpa only [setJobRunning, decide_eq_true_eq] using free)

/-- Without a late start a closed row stays through any continuation of the run, by
induction on its last call.
-/
theorem after_of_noStartAfterClose {jobs : Jobs} {id : String} {run : JobRun}
    (noneLate : NoStartAfterClose jobs id run) {earlier : JobRun} {job : ProvisionJob}
    (found : (jobs.after earlier).get? id = some job) (closed : job.status.Terminal)
    (later rest : JobRun) (cut : run = earlier ++ later ++ rest)
    : (jobs.after (earlier ++ later)).get? id = some job := by
  refine prefix_induction
    (P := fun sofar => (jobs.after (earlier ++ sofar)).get? id = some job) ?_ ?_
  · simpa using found
  · intro sofar last onward split before
    obtain ⟨now, call⟩ := last
    rw [← List.append_assoc, Jobs.after_append]
    refine get?_of_terminal before closed ?_
    intro start
    subst start
    have cut' : run = (earlier ++ sofar) ++ (now, .setJobRunning id) :: (onward ++ rest) := by
      simpa [split] using cut
    exact noneLate (earlier ++ sofar) now (onward ++ rest) cut' job before closed

/-- The job record stays closed exactly in the runs without a late start. -/
theorem closedRecord_iff (jobs : Jobs) (id : String) (run : JobRun)
    : ClosedRecord jobs id run ↔ NoStartAfterClose jobs id run := by
  constructor
  · intro closedRecord earlier now rest cut job found closed free
    have kept := closedRecord earlier [(now, .setJobRunning id)] rest (by simpa using cut)
      job found closed
    rw [Jobs.after_append] at kept
    have reopened := get?_setJobRunning found free
    have same : (setJobRunning now id).set job = job :=
      Option.some.inj (reopened.symm.trans kept)
    have running : job.status = .running := by
      rw [← same]
      rfl
    rw [running] at closed
    exact absurd closed (by decide)
  · intro noneLate earlier later rest cut job found closed
    exact after_of_noStartAfterClose noneLate found closed later rest cut

/-- A job whose first driver is dispatched but slow to arrive. -/
def slowStart : Jobs :=
  .singleton
    { id := "job_1", tenantId := "ten_1", kind := .provision, status := .queued
      createdAt := 0, updatedAt := 0 }

/-- The job is declared lost after ten minutes, and its driver arrives a second later. -/
def lateStart : JobRun :=
  [(601, .finishJob "job_1" .failed none (some "invocation lost")),
    (602, .setJobRunning "job_1")]

/-- The late driver reopens the failed job. -/
theorem lateStart_reopens : ¬ ClosedRecord slowStart "job_1" lateStart := by
  intro closedRecord
  have kept := closedRecord [(601, .finishJob "job_1" .failed none (some "invocation lost"))]
    [(602, .setJobRunning "job_1")] [] rfl _ rfl (by decide)
  exact absurd kept (by decide)

end ControlPlane.JobLifecycle
