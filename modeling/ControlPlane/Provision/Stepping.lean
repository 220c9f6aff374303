import ControlPlane.Provision.Soundness

/-! What one call of an invocation does to the rows of its provision. As long as the job is open,
what it records stays true of the tenant row, and only grows; a closed job stays closed.
-/

namespace ControlPlane.Provision

open ControlPlane.Library
open ControlPlane.Store

/-- The job row after a step is recorded. -/
def recordOn (now : Nat) (job : ProvisionJob) (done : List ProvisionStep) (step : ProvisionStep)
    : ProvisionJob :=
  (updateJobProgress now job.id step.text (stringifySteps (record done step))).onRow job

/-- What a step of an invocation can be. -/
inductive Stepped (now : Nat) (rows : Rows)
    : Invocation → Move → Rows → Invocation → Prop
  | recorded {done : List ProvisionStep} {step : ProvisionStep} {mayYield : Bool}
      {rest : List ProvisionCall} {budgetSpent : Bool} (next : Invocation)
      (onward : next = .yielding step ∨ next = .working (record done step) rest)
    : Stepped now rows (.working done (.mark step mayYield :: rest)) (.call budgetSpent)
        { rows with job := recordOn now rows.job done step } next
  | called {done : List ProvisionStep} {call : ProvisionCall} {rest : List ProvisionCall}
      {budgetSpent : Bool} (plain : call.Plain)
    : Stepped now rows (.working done (call :: rest)) (.call budgetSpent) (call.run now rows)
        (.working done rest)
  | finished {done : List ProvisionStep} {rest : List ProvisionCall} {budgetSpent : Bool}
    : Stepped now rows (.working done (.finishSucceeded :: rest)) (.call budgetSpent)
        (ProvisionCall.finishSucceeded.run now rows) (.working done rest)
  | ended {done : List ProvisionStep} {budgetSpent : Bool}
    : Stepped now rows (.working done []) (.call budgetSpent) rows .returned
  | refused {done : List ProvisionStep} {step message : String} {rest : List ProvisionCall}
      {budgetSpent : Bool}
    : Stepped now rows (.working done (.refuse step message :: rest)) (.call budgetSpent) rows
        (.failing step message)
  | threw {done : List ProvisionStep} {rest : List ProvisionCall} (step message : String)
    : Stepped now rows (.working done rest) (.throws step message) rows (.failing step message)
  | yielded {after : ProvisionStep} {budgetSpent : Bool}
    : Stepped now rows (.yielding after) (.call budgetSpent)
        { rows with job := (releaseJobLease rows.job.id).onRow rows.job } .returned
  | closed {step message : String} {budgetSpent : Bool} (next : Invocation)
      (onward
        : next = .owesStatus ∧ rows.job.status.active
          ∨ next = .returned ∧ ¬ rows.job.status.active)
    : Stepped now rows (.failing step message) (.call budgetSpent)
        { rows with
          job := (finishJob now rows.job.id .failed (some step) (some message)).onRow rows.job }
        next
  | wroteStatus {budgetSpent : Bool}
    : Stepped now rows .owesStatus (.call budgetSpent)
        { rows with tenant := (Store.setTenantStatus now rows.tenant.id .failed).onRow rows.tenant }
        .rollingBack
  | rolledBack (left : Tenant)
    : Stepped now rows .rollingBack (.rollback left) { rows with tenant := left } .returned

/-- An invocation's next step is one of these. -/
theorem Invocation.step_cases {now : Nat} {rows after : Rows} {invocation next : Invocation}
    {move : Move} (stepped : invocation.step now rows move = some (after, next))
    : Stepped now rows invocation move after next := by
  unfold Invocation.step at stepped
  split at stepped
  · next done step mayYield rest budgetSpent =>
      obtain ⟨isAfter, isNext⟩ := Prod.mk.inj (Option.some.inj stepped)
      subst isAfter isNext
      refine .recorded _ ?_
      split
      · exact .inl rfl
      · exact .inr rfl
  · cases stepped
    exact .refused
  · next call rest _ notMark notRefusal =>
      cases stepped
      cases call with
      | mark step mayYield => exact absurd rfl (notMark step mayYield)
      | refuse step message => exact absurd rfl (notRefusal step message)
      | finishSucceeded => exact .finished
      | _ => exact .called trivial
  · cases stepped
    exact .ended
  · cases stepped
    exact .threw _ _
  · cases stepped
    exact .yielded
  · next step message budgetSpent =>
      obtain ⟨isAfter, isNext⟩ := Prod.mk.inj (Option.some.inj stepped)
      subst isAfter isNext
      refine .closed _ ?_
      split
      · next active => exact .inl ⟨rfl, active⟩
      · next refused => exact .inr ⟨rfl, refused⟩
  · cases stepped
    exact .wroteStatus
  · cases stepped
    exact .rolledBack _
  · exact nomatch stepped

section JobRow

variable (now : Nat) (job : ProvisionJob)

/-- A step is recorded on an open job. -/
theorem recordOn_open (done : List ProvisionStep) (step : ProvisionStep)
    (active : job.status.active)
    : (recordOn now job done step).status = job.status
      ∧ (recordOn now job done step).stepsDone = stringifySteps (record done step) := by
  rw [recordOn, Update.onRow_of_match rfl active]
  exact ⟨rfl, rfl⟩

/-- No call but a mark writes the progress. -/
theorem onJob_stepsDone (call : ProvisionCall)
    : (call.onJob now job).stepsDone = job.stepsDone := by
  cases call with
  | setJobRunning => exact Sweep.onRow_keeps _ ProvisionJob.stepsDone (fun _ _ => rfl) job
  | finishSucceeded => exact Sweep.onRow_keeps _ ProvisionJob.stepsDone (fun _ _ => rfl) job
  | _ => rfl

/-- An open job stays open up to the last call. -/
theorem onJob_active {call : ProvisionCall} (active : job.status.active) (plain : call.Plain)
    : (call.onJob now job).status.active := by
  cases call with
  | finishSucceeded => exact absurd plain id
  | setJobRunning =>
      by_cases free : Lease.Free now job.leaseUntil
      · rw [ProvisionCall.onJob, Update.onRow_of_match rfl (decide_eq_true free)]
        rfl
      · rw [ProvisionCall.onJob,
          Update.onRow_of_not fun matched => free (of_decide_eq_true matched.2)]
        exact active
  | _ => exact active

/-- The last call closes an open job. -/
theorem onJob_finishSucceeded (active : job.status.active)
    : (ProvisionCall.finishSucceeded.onJob now job).status = .succeeded := by
  rw [ProvisionCall.onJob, Update.onRow_of_match rfl active]
  rfl

end JobRow

/-- A record of the job: its text, and what the tenant row bears out. -/
structure Recorded (rows : Rows) (done : List ProvisionStep) : Prop where
  text : rows.job.stepsDone = stringifySteps done
  truthful : Truthful rows.tenant done

/-- What an open job has recorded. -/
def Open (rows : Rows) : Prop := rows.job.status.active → ∃ done, Recorded rows done

/-- What holds between two calls of an invocation, of the rows and of what is left of it. Nothing
is left once it has closed the job.
-/
def Held (rows : Rows) : Invocation → Prop
  | .working done rest =>
      (rows.job.status.active ∧ Open rows
        ∧ Carries Effect Sound Kept rest ⟨rows.tenant, done, false⟩)
      ∨ (¬ rows.job.status.active ∧ rest = [])
  | .owesStatus | .rollingBack => ¬ rows.job.status.active
  | .yielding _ | .failing _ _ | .returned => Open rows

/-- While the job is open, an invocation's rows are recorded. -/
theorem Held.recorded {rows : Rows} {invocation : Invocation} (held : Held rows invocation)
    : Open rows := by
  cases invocation with
  | working done rest =>
      rcases held with ⟨_, recorded, _⟩ | ⟨closed, _⟩
      · exact recorded
      · exact fun active => absurd active closed
  | owesStatus => exact fun active => absurd active held
  | rollingBack => exact fun active => absurd active held
  | yielding after => exact held
  | failing step message => exact held
  | returned => exact held

/-- While a call is left, the job is open and the program carries its record. -/
theorem Held.pending {rows : Rows} {done : List ProvisionStep} {call : ProvisionCall}
    {rest : List ProvisionCall} (held : Held rows (.working done (call :: rest)))
    : rows.job.status.active ∧ Open rows
      ∧ Carries Effect Sound Kept (call :: rest) ⟨rows.tenant, done, false⟩ := by
  rcases held with pending | ⟨_, ended⟩
  · exact pending
  · exact absurd ended (List.cons_ne_nil call rest)

/-- Rows with the same status, progress and tenant are recorded alike. -/
theorem Open.congr {rows after : Rows} (recorded : Open rows)
    (sameStatus : after.job.status = rows.job.status)
    (sameText : after.job.stepsDone = rows.job.stepsDone) (sameTenant : after.tenant = rows.tenant)
    : Open after := by
  intro active
  obtain ⟨done, text, truthful⟩ := recorded (sameStatus ▸ active)
  exact ⟨done, sameText.trans text, sameTenant ▸ truthful⟩

/-- A call keeps an open job's record true, and a closed job closed. -/
theorem Held.step {now : Nat} {rows after : Rows} {invocation next : Invocation} {move : Move}
    (held : Held rows invocation) (stepped : Stepped now rows invocation move after next)
    : Held after next := by
  cases stepped with
  | @recorded done step mayYield rest _ next onward =>
      obtain ⟨active, _, carries⟩ := held.pending
      obtain ⟨sameStatus, written⟩ := recordOn_open now rows.job done step active
      have later := carries.2 _ (.mark rows.tenant done false step mayYield)
      have recorded : Open { rows with job := recordOn now rows.job done step } :=
        fun _ => ⟨_, written, truthful_of_carries later⟩
      rcases onward with isNext | isNext
      · exact isNext ▸ recorded
      · exact isNext ▸ .inl ⟨sameStatus ▸ active, recorded, later⟩
  | @called done call rest _ plain =>
      obtain ⟨active, recorded, carries⟩ := held.pending
      obtain ⟨stored, text, truthful⟩ := recorded active
      refine .inl ⟨onJob_active now rows.job active plain, fun _ => ⟨stored, ?_, ?_⟩,
        carries.2 _ (.plain rows.tenant done false plain now)⟩
      · exact (onJob_stepsDone now rows.job call).trans text
      · exact truthful.call carries.1.solid now
  | @finished done rest _ =>
      obtain ⟨active, _, carries⟩ := held.pending
      have closes := onJob_finishSucceeded now rows.job active
      -- no program calls anything behind its close
      refine .inr ⟨?_, eq_nil_of_finished (carries.2 _ (.finish rows.tenant done false))⟩
      rw [ProvisionCall.run, closes]
      exact Bool.false_ne_true
  | ended => exact held.recorded
  | refused => exact held.recorded
  | threw step message => exact held.recorded
  | yielded =>
      refine held.congr ?_ ?_ rfl
      · exact Sweep.onRow_keeps _ ProvisionJob.status (fun _ _ => rfl) rows.job
      · exact Sweep.onRow_keeps _ ProvisionJob.stepsDone (fun _ _ => rfl) rows.job
  | @closed step message _ next onward =>
      rcases onward with ⟨isNext, active⟩ | ⟨isNext, closed⟩
      · subst isNext
        have written : (finishJob now rows.job.id .failed (some step) (some message)).onRow rows.job
            = (finishJob now rows.job.id .failed (some step) (some message)).set rows.job :=
          Update.onRow_of_match rfl active
        rw [written]
        exact Bool.false_ne_true
      · -- the close was refused: somebody else has closed the job, and the row stays
        subst isNext
        have kept : (finishJob now rows.job.id .failed (some step) (some message)).onRow rows.job
            = rows.job :=
          Update.onRow_of_not fun matched => closed matched.2
        rw [kept]
        exact fun active => absurd active closed
  | wroteStatus => exact held
  | rolledBack left => exact fun active => absurd active held

/-- The rows after a statement on the job. -/
def Rows.onJob (rows : Rows) (update : Update ProvisionJob.id) : Rows :=
  { rows with job := update.onRow rows.job }

section Leases

variable (now : Nat) (rows : Rows)

/-- A claim keeps the status and the progress. -/
theorem claimJob_keeps
    : (rows.onJob (claimJob now rows.job.id jobLeaseSeconds)).job.status = rows.job.status
      ∧ (rows.onJob (claimJob now rows.job.id jobLeaseSeconds)).job.stepsDone
        = rows.job.stepsDone :=
  ⟨Sweep.onRow_keeps _ ProvisionJob.status (fun _ _ => rfl) rows.job,
    Sweep.onRow_keeps _ ProvisionJob.stepsDone (fun _ _ => rfl) rows.job⟩

/-- A heartbeat keeps the status and the progress. -/
theorem renewJobLease_keeps
    : (rows.onJob (renewJobLease now rows.job.id jobLeaseSeconds)).job.status = rows.job.status
      ∧ (rows.onJob (renewJobLease now rows.job.id jobLeaseSeconds)).job.stepsDone
        = rows.job.stepsDone :=
  ⟨Sweep.onRow_keeps _ ProvisionJob.status (fun _ _ => rfl) rows.job,
    Sweep.onRow_keeps _ ProvisionJob.stepsDone (fun _ _ => rfl) rows.job⟩

end Leases

/-- A statement on the job that keeps its status and its progress keeps what an invocation holds. -/
theorem Held.onJob {rows : Rows} {invocation : Invocation} (held : Held rows invocation)
    {update : Update ProvisionJob.id}
    (sameStatus : (rows.onJob update).job.status = rows.job.status)
    (sameText : (rows.onJob update).job.stepsDone = rows.job.stepsDone)
    : Held (rows.onJob update) invocation := by
  have recorded : Open (rows.onJob update) := held.recorded.congr sameStatus sameText rfl
  cases invocation with
  | working done rest =>
      rcases held with ⟨active, _, carries⟩ | ⟨closed, ended⟩
      · exact .inl ⟨sameStatus ▸ active, recorded, carries⟩
      · exact .inr ⟨sameStatus ▸ closed, ended⟩
  | owesStatus => exact fun active => held (sameStatus ▸ active)
  | rollingBack => exact fun active => held (sameStatus ▸ active)
  | yielding after => exact recorded
  | failing step message => exact recorded
  | returned => exact recorded

end ControlPlane.Provision
