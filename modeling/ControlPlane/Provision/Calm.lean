import ControlPlane.Provision.Refusals
import ControlPlane.Provision.Stepping

/-! Invocations on their way to neither a refusal nor a failure. Their steps leave what others have
read of the rows as good as it was, keep the job guarded by its lease, and close it only with the
tenant awaiting go-live.
-/

namespace ControlPlane.Provision

open ControlPlane.Library
open ControlPlane.Store
open ControlPlane.Teardown (truthy)

/-- A tenant row as the calls of a provision leave it: nothing is empty, and there are no endpoints
before a bucket.
-/
structure Sane (tenant : Tenant) : Prop where
  database : tenant.d1DatabaseId ≠ some ""
  bucket : tenant.r2BucketName ≠ some ""
  endpoints : readTenantEndpoints tenant ≠ [] → tenant.r2BucketName ≠ none

/-- A call that refuses nothing and stores no empty database id. -/
def ProvisionCall.Clean : ProvisionCall → Prop
  | .refuse _ _ => False
  | .setTenantD1 databaseId => databaseId ≠ ""
  | _ => True

/-- An invocation that is on its way to neither a refusal nor a failure. -/
def Calm : Invocation → Prop
  | .working _ rest => ∀ call ∈ rest, call.Clean
  | .yielding _ | .returned => True
  | .failing _ _ | .owesStatus | .rollingBack => False

/-- What a statement leaves of the job: what it records, and that it is taken once it was. -/
structure Keeps (job after : ProvisionJob) : Prop where
  id : after.id = job.id
  mode : after.runpodMode = job.runpodMode
  release : after.toRelease = job.toRelease
  taken : job.status ≠ .queued → after.status ≠ .queued

/-- What a step leaves of the rows for those who have read them: the steps that were backed still
are, the tenant row stays sane, and the job is kept.
-/
structure Advances (rows after : Rows) : Prop where
  truthful : ∀ done, Truthful rows.tenant done → Truthful after.tenant done
  sane : Sane rows.tenant → Sane after.tenant
  job : Keeps rows.job after.job

/-- An open job, or one that closed with its tenant awaiting go-live. -/
def Settled (rows : Rows) : Prop :=
  ¬ rows.job.status.active
  → rows.job.status = .succeeded ∧ rows.tenant.status = .awaitingGoLive

/-- A sound call of a calm invocation keeps the tenant row sane. -/
theorem Sane.call {tenant : Tenant} {done : List ProvisionStep} {call : ProvisionCall}
    (sane : Sane tenant) (sound : Sound ⟨tenant, done, false⟩ call) (clean : call.Clean) (now : Nat)
    : Sane (call.onTenant now tenant) := by
  have solid := sound.solid
  cases call with
  | setTenantStatus status =>
      rw [onTenant_setTenantStatus]
      exact ⟨sane.database, sane.bucket, sane.endpoints⟩
  | setTenantD1 databaseId =>
      rw [onTenant_setTenantD1]
      exact ⟨fun empty => clean (Option.some.inj empty), sane.bucket, sane.endpoints⟩
  | setTenantBucket bucket =>
      rw [onTenant_setTenantBucket]
      exact ⟨sane.database, fun empty => solid (Option.some.inj empty),
        fun _ => Option.some_ne_none bucket⟩
  | setTenantR2Token tokenId =>
      rw [onTenant_setTenantR2Token]
      exact ⟨sane.database, sane.bucket, sane.endpoints⟩
  | setTenantRunPodMode mode =>
      rw [onTenant_setTenantRunPodMode]
      exact ⟨sane.database, sane.bucket, sane.endpoints⟩
  | setTenantEndpoints endpointsJson =>
      rw [onTenant_setTenantEndpoints]
      exact ⟨sane.database, sane.bucket, fun _ => sound.truthful.backed .r2Bucket sound.due⟩
  | setTenantScript scriptName release =>
      rw [onTenant_setTenantScript]
      exact ⟨sane.database, sane.bucket, sane.endpoints⟩
  | setTenantStudioToken encValue =>
      rw [onTenant_setTenantStudioToken]
      exact ⟨sane.database, sane.bucket, sane.endpoints⟩
  | setTenantModulesRelease release =>
      rw [onTenant_setTenantModulesRelease]
      exact ⟨sane.database, sane.bucket, sane.endpoints⟩
  | _ => exact sane

/-- A write to the job alone. -/
theorem Keeps.advances {rows after : Rows} (keeps : Keeps rows.job after.job)
    (sameTenant : after.tenant = rows.tenant)
    : Advances rows after where
  truthful _ truthful := sameTenant ▸ truthful
  sane sane := sameTenant ▸ sane
  job := keeps

/-- Rows that stay. -/
theorem Advances.refl (rows : Rows) : Advances rows rows :=
  Keeps.advances ⟨rfl, rfl, rfl, id⟩ rfl

/-- A statement that sets neither mode nor release, and takes no job back to the queue. -/
theorem keeps_onRow {update : Update ProvisionJob.id}
    (mode : ∀ job, (update.set job).runpodMode = job.runpodMode)
    (release : ∀ job, (update.set job).toRelease = job.toRelease)
    (taken : ∀ job, job.status ≠ .queued → (update.set job).status ≠ .queued) (job : ProvisionJob)
    : Keeps job (update.onRow job) := by
  rcases update.onRow_cases job with same | ⟨_, set⟩
  · rw [same]
    exact ⟨rfl, rfl, rfl, id⟩
  · rw [set]
    exact ⟨update.keeps job, mode job, release job, taken job⟩

/-- What the calls of an invocation leave of the job. -/
theorem onJob_keeps (now : Nat) (job : ProvisionJob) (call : ProvisionCall)
    : Keeps job (call.onJob now job) := by
  cases call with
  | setJobRunning =>
      exact keeps_onRow (fun _ => rfl) (fun _ => rfl)
        (fun _ _ same => JobStatus.noConfusion same) job
  | finishSucceeded =>
      exact keeps_onRow (fun _ => rfl) (fun _ => rfl)
        (fun _ _ same => JobStatus.noConfusion same) job
  | _ => exact ⟨rfl, rfl, rfl, id⟩

/-- A step of a calm invocation that holds its record. Witness: one case for each kind of step. -/
theorem Held.calm_step {now : Nat} {rows after : Rows} {invocation next : Invocation} {move : Move}
    (held : Held rows invocation) (calm : Calm invocation)
    (noThrow : ∀ step message, move ≠ .throws step message)
    (stepped : Stepped now rows invocation move after next)
    : Calm next ∧ Advances rows after ∧ (Settled rows → Settled after) := by
  cases stepped with
  | @recorded done step mayYield rest _ next onward =>
      obtain ⟨active, _, _⟩ := held.pending
      obtain ⟨sameStatus, _⟩ := recordOn_open now rows.job done step active
      have keeps : Keeps rows.job (recordOn now rows.job done step) :=
        keeps_onRow (fun _ => rfl) (fun _ => rfl) (fun _ taken => taken) rows.job
      refine ⟨?_, keeps.advances rfl, fun _ closed => absurd active (sameStatus ▸ closed)⟩
      rcases onward with isNext | isNext
      · exact isNext ▸ trivial
      · exact isNext ▸ fun call member => calm call (List.mem_cons_of_mem _ member)
  | @called done call rest _ plain =>
      obtain ⟨active, _, carries⟩ := held.pending
      have clean := calm call List.mem_cons_self
      refine ⟨fun other member => calm other (List.mem_cons_of_mem _ member),
        ⟨fun _ truthful => truthful.call carries.1.solid now, fun sane => ?_,
          onJob_keeps now rows.job call⟩, fun _ closed => ?_⟩
      · exact sane.call carries.1 clean now
      · -- an open job stays open, so there is nothing to settle
        exact absurd (onJob_active now rows.job active plain) closed
  | @finished done rest _ =>
      obtain ⟨active, _, carries⟩ := held.pending
      have keeps := onJob_keeps now rows.job .finishSucceeded
      exact ⟨fun other member => calm other (List.mem_cons_of_mem _ member),
        Keeps.advances keeps rfl,
        fun _ _ => ⟨onJob_finishSucceeded now rows.job active, carries.1.due⟩⟩
  | ended => exact ⟨trivial, Advances.refl rows, id⟩
  | refused => exact absurd (calm _ List.mem_cons_self) id
  | threw step message => exact absurd rfl (noThrow step message)
  | yielded =>
      have keeps : Keeps rows.job ((releaseJobLease rows.job.id).onRow rows.job) :=
        keeps_onRow (fun _ => rfl) (fun _ => rfl) (fun _ taken => taken) rows.job
      have sameStatus := Sweep.onRow_keeps (releaseJobLease rows.job.id).toSweep
        ProvisionJob.status (fun _ _ => rfl) rows.job
      refine ⟨trivial, keeps.advances rfl, fun settled closed => ?_⟩
      obtain ⟨succeeded, awaits⟩ := settled (sameStatus ▸ closed)
      exact ⟨sameStatus.trans succeeded, awaits⟩
  | closed next onward => exact absurd calm id
  | wroteStatus => exact absurd calm id
  | rolledBack left => exact absurd calm id

/-- Nobody else can claim the job: it is closed, or waits for its first driver, or its lease has not
run out.
-/
def Guarded (now : Nat) (job : ProvisionJob) : Prop :=
  job.status.active → job.status = .queued ∨ Lease.Unexpired now job.leaseUntil

/-- A statement that takes the lease, if it sets the row at all, keeps a job guarded. -/
theorem Guarded.onRow {now : Nat} {job : ProvisionJob} {update : Update ProvisionJob.id}
    (guarded : update.guard job → (update.set job).leaseUntil = some (now + jobLeaseSeconds))
    (before : update.guard job ∨ Guarded now job) (keyed : job.id = update.target)
    : Guarded now (update.onRow job) := by
  by_cases met : update.guard job
  · rw [Update.onRow_of_match keyed met]
    intro _
    rw [guarded met, Lease.unexpired_some]
    exact .inr (Nat.le_add_right now jobLeaseSeconds)
  · rw [Update.onRow_of_not fun matched => met matched.2]
    exact before.resolve_left met

/-- A calm invocation keeps its job guarded until it returns. -/
theorem Guarded.calm_step {now : Nat} {rows after : Rows} {invocation next : Invocation}
    {move : Move} (guarded : Guarded now rows.job) (held : Held rows invocation)
    (calm : Calm invocation) (stepped : Stepped now rows invocation move after next)
    (goesOn : next ≠ .returned)
    : Guarded now after.job := by
  cases stepped with
  | @recorded done step mayYield rest _ next onward =>
      exact Guarded.onRow (fun _ => rfl) (.inr guarded) rfl
  | @called done call rest _ plain =>
      cases call with
      | setJobRunning => exact Guarded.onRow (fun _ => rfl) (.inr guarded) rfl
      | finishSucceeded => exact absurd plain id
      | _ => exact guarded
  | @finished done rest _ =>
      obtain ⟨active, _, _⟩ := held.pending
      intro stillActive
      have closed := onJob_finishSucceeded now rows.job active
      rw [ProvisionCall.run, closed] at stillActive
      exact absurd stillActive Bool.false_ne_true
  | ended => exact absurd rfl goesOn
  | refused => exact guarded
  | threw step message => exact guarded
  | yielded => exact absurd rfl goesOn
  | closed next onward => exact absurd calm id
  | wroteStatus => exact absurd calm id
  | rolledBack left => exact absurd calm id

/-- What holds of the stored rows. -/
structure StoredSound (rows : Rows) : Prop where
  recorded : Open rows
  sane : Sane rows.tenant
  settled : Settled rows
  shared : rows.job.runpodMode = some RunPodMode.shared.text
  pinned : truthy rows.job.toRelease ≠ none

/-- The stored rows after a step that settles what it closes. -/
theorem StoredSound.advance {rows after : Rows} (stored : StoredSound rows)
    (advances : Advances rows after) (recorded : Open after) (settled : Settled after)
    : StoredSound after where
  recorded := recorded
  sane := advances.sane stored.sane
  settled := settled
  shared := advances.job.mode.trans stored.shared
  pinned := by
    rw [advances.job.release]
    exact stored.pinned

/-- A column that is set and not empty counts as recorded. -/
theorem truthy_of_ne {value : Option String} (recorded : value ≠ none) (notEmpty : value ≠ some "")
    : truthy value ≠ none := by
  cases value with
  | none => exact absurd rfl recorded
  | some text => exact truthy_ne_none fun empty => notEmpty (congrArg some empty)

/-- A shared provision with a release is not refused before its upload. -/
theorem StoredSound.planned {rows : Rows} (stored : StoredSound rows) {refusal : ResumeRefusal}
    : planBeforeUpload rows.job ≠ .error refusal := by
  obtain ⟨release, recorded⟩ := Option.ne_none_iff_exists'.mp stored.pinned
  simp [planBeforeUpload, stored.shared, RunPodMode.text, recorded]

/-- An ordinary call is clean where a created database has an id. -/
theorem ProvisionCall.Ordinary.clean {answers : Answers} {call : ProvisionCall}
    (ordinary : call.Ordinary answers) (identified : answers.databaseId ≠ "")
    : call.Clean := by
  cases call with
  | refuse step message => exact absurd ordinary id
  | setTenantD1 databaseId => exact fun empty => identified (ordinary.symm.trans empty)
  | _ => trivial

/-- The first driver of a provision sets out calm. -/
theorem calm_runProvisionJob {answers : Answers} (identified : answers.databaseId ≠ "")
    (tenant : Tenant)
    : Calm (.working [] (runProvisionJob answers tenant none)) := by
  intro call member
  rcases mem_runProvisionJob member with ordinary | ⟨_, stored, _⟩ | ⟨_, missing⟩
  · exact ordinary.clean identified
  · exact absurd stored List.not_mem_nil
  · exact absurd missing (truthy_ne_none identified)

/-- A continuation on a current row sets out calm. -/
theorem calm_continueProvisionJob {answers : Answers} (identified : answers.databaseId ≠ "")
    {rows : Rows} (stored : StoredSound rows) {tenant : Tenant} (sane : Sane tenant)
    {done : List ProvisionStep} (contiguous : Contiguous done) (current : Current tenant done)
    (jobId : String)
    : Calm (.working done (continueProvisionJob answers jobId (some rows.job) tenant done)) := by
  have database : truthy (if .d1Create ∈ done then tenant.d1DatabaseId
      else some answers.databaseId) ≠ none := by
    split
    · next created => exact truthy_of_ne (current.database created) sane.database
    · exact truthy_ne_none identified
  -- the row may be older than the bucket, but not with endpoints on it
  have bucket : .wfpUpload ∈ done → truthy tenant.r2BucketName ≠ none := by
    intro uploaded
    have pooled : .runpodEndpoints ∈ done := by
      rw [contiguous.mem_iff] at uploaded ⊢
      exact lt_trans (by decide) uploaded
    exact truthy_of_ne (sane.endpoints (current.endpoints pooled)) sane.bucket
  intro call member
  rcases current.mem_continueProvisionJob contiguous member
    with ordinary | ⟨refusal, refused, _⟩ | ⟨_, missing⟩
  · exact ordinary.clean identified
  · exact absurd refused stored.planned
  · rcases missing with noDatabase | ⟨uploaded, noBucket⟩
    · exact absurd noDatabase database
    · exact absurd noBucket (bucket uploaded)

end ControlPlane.Provision
