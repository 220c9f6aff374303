import ControlPlane.Provision.Soundness

/-! What a continuation can refuse. With a record of the first steps and a tenant row that bears it
out, the guards left are those on the kind of provision and on its release.
-/

namespace ControlPlane.Provision

open ControlPlane.Store
open ControlPlane.Teardown (truthy)

/-- The tenant row a driver was handed has what a continuation from these steps reads of it. -/
structure Current (seen : Tenant) (done : List ProvisionStep) : Prop where
  database : .d1Create ∈ done → seen.d1DatabaseId ≠ none
  endpoints : .runpodEndpoints ∈ done → readTenantEndpoints seen ≠ []
  studioToken : .wfpUpload ∈ done → truthy seen.studioTokenEnc ≠ none
  studioRelease : .wfpUpload ∈ done → truthy seen.studioRelease ≠ none

/-- A row that backs every step is current. -/
theorem Truthful.current {tenant : Tenant} {done : List ProvisionStep}
    (truthful : Truthful tenant done)
    : Current tenant done where
  database recorded := truthful.backed .d1Create recorded
  endpoints recorded := (truthful.backed .runpodEndpoints recorded).1
  studioToken recorded := (truthful.backed .wfpUpload recorded).2.2
  studioRelease recorded := (truthful.backed .wfpUpload recorded).2.1

section

variable {seen : Tenant} {done : List ProvisionStep} {job : ProvisionJob} {jobId : String}

/-- Past the upload, a current row is not refused. -/
theorem Current.planPastUpload (current : Current seen done) (contiguous : Contiguous done)
    (uploaded : .wfpUpload ∈ done)
    : ∃ release, Provision.planPastUpload seen = .ok (.modules (readTenantEndpoints seen) release)
      ∧ release ≠ "" := by
  have stored : .runpodEndpoints ∈ done := by
    rw [contiguous.mem_iff] at uploaded ⊢
    exact lt_trans (by decide) uploaded
  obtain ⟨token, hasToken⟩ := Option.ne_none_iff_exists'.mp (current.studioToken uploaded)
  obtain ⟨release, hasRelease⟩ := Option.ne_none_iff_exists'.mp (current.studioRelease uploaded)
  refine ⟨release, ?_, truthy_ne_empty hasRelease⟩
  unfold Provision.planPastUpload
  split
  · next unreadable => exact absurd unreadable (current.endpoints stored)
  · rw [hasToken, hasRelease]

/-- The plan of a continuation from a first part of the steps, on a current row. -/
theorem Current.planResume (current : Current seen done) (contiguous : Contiguous done)
    : Provision.planResume jobId (some job) seen done
      = if .wfpUpload ∈ done then Provision.planPastUpload seen else planBeforeUpload job := by
  have hasDatabase : ¬ (.d1Create ∈ done ∧ seen.d1DatabaseId = none) :=
    fun inconsistent => current.database inconsistent.1 inconsistent.2
  rw [Provision.planResume, if_neg (not_not.mpr contiguous), if_neg hasDatabase]

/-- What such a continuation refuses, it refuses for what the job records. -/
theorem Current.refusal (current : Current seen done) (contiguous : Contiguous done)
    {refusal : ResumeRefusal}
    (refused : Provision.planResume jobId (some job) seen done = .error refusal)
    : planBeforeUpload job = .error refusal := by
  rw [current.planResume contiguous] at refused
  split at refused
  · next uploaded =>
      obtain ⟨release, planned, _⟩ := current.planPastUpload contiguous uploaded
      exact nomatch planned.symm.trans refused
  · exact refused

end

/-- A call that refuses nothing, and stores no database but the one that was created. -/
def ProvisionCall.Ordinary (answers : Answers) : ProvisionCall → Prop
  | .refuse _ _ => False
  | .setTenantD1 databaseId => databaseId = answers.databaseId
  | _ => True

/-- A refusal that names a step. -/
def ProvisionCall.RefusesAt (step : String) (call : ProvisionCall) : Prop :=
  ∃ message, call = .refuse step message

/-- A call of a program of ordinary ones. -/
theorem ordinary_of_mem {answers : Answers} {program : List ProvisionCall} {call : ProvisionCall}
    (member : call ∈ program) (all : ∀ call ∈ program, call.Ordinary answers)
    : call.Ordinary answers :=
  all call member

section Members

variable {answers : Answers} {seen : Tenant} {done : List ProvisionStep} {release : String}
  {endpoints : List TenantEndpoint} {databaseId bucket : Option String} {mode : RunPodMode}
  {call : ProvisionCall}

theorem mem_uploadTenantModules
    (member : call ∈ uploadTenantModules release endpoints databaseId bucket mode)
    : call.Ordinary answers
      ∨ call.RefusesAt "modules_upload" ∧ (truthy databaseId = none ∨ truthy bucket = none) := by
  unfold uploadTenantModules at member
  split at member
  · next missing => exact .inr ⟨⟨_, List.mem_singleton.mp member⟩, .inl missing⟩
  · next missing => exact .inr ⟨⟨_, List.mem_singleton.mp member⟩, .inr missing⟩
  · exact .inl (List.mem_singleton.mp member ▸ trivial)

/-- The bucket has a name of its own, so only a database can be missing. -/
theorem mem_uploadAndVerify
    (member : call ∈ uploadAndVerify answers seen release databaseId endpoints mode)
    : call.Ordinary answers ∨ call.RefusesAt "modules_upload" ∧ truthy databaseId = none := by
  have named : truthy (some (tenantBucketName seen.slug)) ≠ none :=
    truthy_ne_none (tenantBucketName_ne_empty seen.slug)
  simp only [uploadAndVerify, List.mem_append] at member
  rcases member with ((studio | revoke) | modules) | ending
  · exact .inl (ordinary_of_mem studio (by simp [ProvisionCall.Ordinary]))
  · unfold revokePrevious at revoke
    split at revoke
    · split at revoke
      · exact absurd revoke List.not_mem_nil
      · exact .inl (List.mem_singleton.mp revoke ▸ trivial)
    · exact absurd revoke List.not_mem_nil
  · exact (mem_uploadTenantModules modules).imp_right fun refused =>
      ⟨refused.1, refused.2.resolve_right named⟩
  · exact .inl (ordinary_of_mem ending (by simp [ProvisionCall.Ordinary]))

theorem mem_endpointsOnward
    (member : call ∈ endpointsOnward answers seen done release databaseId)
    : call.Ordinary answers
      ∨ call = endpointsUnreadable ∧ .runpodEndpoints ∈ done ∧ readTenantEndpoints seen = []
      ∨ call.RefusesAt "modules_upload" ∧ truthy databaseId = none := by
  unfold endpointsOnward at member
  split at member
  · next stored =>
      split at member
      · next unreadable => exact .inr (.inl ⟨List.mem_singleton.mp member, stored, unreadable⟩)
      · exact (mem_uploadAndVerify member).imp_right .inr
  · split at member
    · exact absurd member List.not_mem_nil
    · rcases List.mem_append.mp member with pooled | onward
      · exact .inl (ordinary_of_mem pooled (by simp [ProvisionCall.Ordinary]))
      · exact (mem_uploadAndVerify onward).imp_right .inr

/-- A provision only refuses endpoints it cannot read and a missing database. -/
theorem mem_runProvisionJob {resume : Option ProvisionResume}
    (member : call ∈ runProvisionJob answers seen resume)
    : call.Ordinary answers
      ∨ call = endpointsUnreadable ∧ .runpodEndpoints ∈ ProvisionResume.stepsDone resume
        ∧ readTenantEndpoints seen = []
      ∨ call.RefusesAt "modules_upload"
        ∧ truthy (if .d1Create ∈ ProvisionResume.stepsDone resume then seen.d1DatabaseId
            else some answers.databaseId) = none := by
  simp only [runProvisionJob, List.mem_append] at member
  rcases member with ((((opening | database) | schema) | bucket) | token) | onward
  · exact .inl (ordinary_of_mem opening (by simp [ProvisionCall.Ordinary]))
  · split at database
    · exact absurd database List.not_mem_nil
    · exact .inl (ordinary_of_mem database (by simp [ProvisionCall.Ordinary]))
  · split at schema
    · exact absurd schema List.not_mem_nil
    · exact .inl (ordinary_of_mem schema (by simp [ProvisionCall.Ordinary]))
  · split at bucket
    · exact absurd bucket List.not_mem_nil
    · exact .inl (ordinary_of_mem bucket (by simp [ProvisionCall.Ordinary]))
  · exact .inl (ordinary_of_mem token (by simp [ProvisionCall.Ordinary]))
  · exact mem_endpointsOnward onward

/-- The module steps of a continuation only refuse a missing database or bucket. -/
theorem mem_runModuleSteps (member : call ∈ runModuleSteps seen done endpoints release)
    : call.Ordinary answers
      ∨ call.RefusesAt "modules_upload"
        ∧ (truthy seen.d1DatabaseId = none ∨ truthy seen.r2BucketName = none) := by
  simp only [runModuleSteps, List.mem_append] at member
  rcases member with (upload | install) | verify
  · split at upload
    · exact absurd upload List.not_mem_nil
    · rcases List.mem_append.mp upload with modules | mark
      · exact mem_uploadTenantModules modules
      · exact .inl (ordinary_of_mem mark (by simp [ProvisionCall.Ordinary]))
  · split at install
    · exact absurd install List.not_mem_nil
    · exact .inl (ordinary_of_mem install (by simp [ProvisionCall.Ordinary]))
  · split at verify
    · exact absurd verify List.not_mem_nil
    · exact .inl (ordinary_of_mem verify (by simp [ProvisionCall.Ordinary]))

/-- A continuation on a current row refuses for what the job records, or at the modules for want of
a database or a bucket.
-/
theorem Current.mem_continueProvisionJob {jobId : String} {job : ProvisionJob}
    (current : Current seen done) (contiguous : Contiguous done)
    (member : call ∈ continueProvisionJob answers jobId (some job) seen done)
    : call.Ordinary answers
      ∨ (∃ refusal, planBeforeUpload job = .error refusal
          ∧ call = .refuse (refusal.step done).text refusal.message)
      ∨ call.RefusesAt "modules_upload"
        ∧ (truthy (if .d1Create ∈ done then seen.d1DatabaseId else some answers.databaseId) = none
          ∨ (.wfpUpload ∈ done ∧ truthy seen.r2BucketName = none)) := by
  unfold continueProvisionJob at member
  split at member
  · next refusal refused =>
      exact .inr (.inl ⟨refusal, current.refusal contiguous refused, List.mem_singleton.mp member⟩)
  · next release planned =>
      rcases mem_runProvisionJob member
        with ordinary | ⟨_, stored, unreadable⟩ | ⟨atModules, missing⟩
      · exact .inl ordinary
      · exact absurd unreadable (current.endpoints stored)
      · exact .inr (.inr ⟨atModules, .inl missing⟩)
  · next endpoints release planned =>
      rcases List.mem_append.mp member with steps | ending
      · rcases mem_runModuleSteps steps with ordinary | ⟨atModules, missing⟩
        · exact .inl ordinary
        · rcases planResume_eq_ok planned with ⟨uploaded, _⟩ | ⟨_, _, _, before⟩
          · have created : .d1Create ∈ done := by
              rw [contiguous.mem_iff] at uploaded ⊢
              exact lt_trans (by decide) uploaded
            rw [if_pos created]
            exact .inr (.inr ⟨atModules, missing.imp_right fun missing => ⟨uploaded, missing⟩⟩)
          · exact nomatch planBeforeUpload_eq_ok before
      · exact .inl (ordinary_of_mem ending (by simp [ProvisionCall.Ordinary]))

end Members

end ControlPlane.Provision
