import ControlPlane.Library.Programs
import ControlPlane.Provision.Record

/-! Every program that an invocation starts carries a true record, from whatever row it read to
wherever it stops. The row it read decides what it calls; the row it writes backs what it records.
-/

namespace ControlPlane.Provision

open ControlPlane.Library
open ControlPlane.Store
open ControlPlane.Teardown (truthy tenantScriptName tenantR2TokenName)

/-- Where a provision stands: the stored tenant row, the steps recorded, and whether it has closed
its job.
-/
structure Standing where
  tenant : Tenant
  done : List ProvisionStep
  finished : Bool

/-- A call that neither records a step, nor refuses, nor closes the job. -/
def ProvisionCall.Plain : ProvisionCall → Prop
  | .mark _ _ | .refuse _ _ | .finishSucceeded => False
  | _ => True

/-- Where a call may take a provision, by any clock. A refusal takes it nowhere. -/
inductive Effect : Standing → ProvisionCall → Standing → Prop
  | mark (tenant : Tenant) (done : List ProvisionStep) (finished : Bool) (step : ProvisionStep)
      (mayYield : Bool)
    : Effect ⟨tenant, done, finished⟩ (.mark step mayYield) ⟨tenant, record done step, finished⟩
  | plain (tenant : Tenant) (done : List ProvisionStep) (finished : Bool) {call : ProvisionCall}
      (plain : call.Plain) (now : Nat)
    : Effect ⟨tenant, done, finished⟩ call ⟨call.onTenant now tenant, done, finished⟩
  | finish (tenant : Tenant) (done : List ProvisionStep) (finished : Bool)
    : Effect ⟨tenant, done, finished⟩ .finishSucceeded ⟨tenant, done, true⟩

/-- What two of the calls wait for. -/
def Due (standing : Standing) : ProvisionCall → Prop
  | .setTenantEndpoints _ => .r2Bucket ∈ standing.done
  | .finishSucceeded => standing.tenant.status = .awaitingGoLive
  | _ => True

/-- A solid call that is due where the record is true. None is made behind the close. -/
structure Sound (standing : Standing) (call : ProvisionCall) : Prop where
  truthful : Truthful standing.tenant standing.done
  unfinished : standing.finished = false
  solid : call.Solid
  due : Due standing call

/-- The record is true and has so many steps, and the job is not closed. -/
structure Has (count : Nat) (standing : Standing) : Prop where
  truthful : Truthful standing.tenant standing.done
  length : standing.done.length = count
  unfinished : standing.finished = false

/-- The record is true where a program ends. -/
def Kept (standing : Standing) : Prop := Truthful standing.tenant standing.done

-----------------------------------------------------------------------------------------
-- Rules for the calls of a program
-----------------------------------------------------------------------------------------

/-- A program that keeps a record true starts from a true one. -/
theorem truthful_of_carries {program : List ProvisionCall} {standing : Standing}
    (carries : Carries Effect Sound Kept program standing)
    : Truthful standing.tenant standing.done := by
  cases program with
  | nil => exact carries
  | cons call rest => exact carries.1.truthful

/-- Nothing is left of a program behind the close. -/
theorem eq_nil_of_finished {program : List ProvisionCall} {tenant : Tenant}
    {done : List ProvisionStep} (carries : Carries Effect Sound Kept program ⟨tenant, done, true⟩)
    : program = [] := by
  cases program with
  | nil => rfl
  | cons call rest => exact nomatch carries.1.unfinished

section Rules

variable {Q : Standing → Prop} {standing : Standing} {count : Nat} {rest : List ProvisionCall}

/-- The rule for a call that records nothing. -/
theorem carries_call (has : Has count standing) {call : ProvisionCall} (plain : call.Plain)
    (solid : call.Solid) (due : Due standing call)
    (onward
      : ∀ now, Has count { standing with tenant := call.onTenant now standing.tenant }
        → Carries Effect Sound Q rest
          { standing with tenant := call.onTenant now standing.tenant })
    : Carries Effect Sound Q (call :: rest) standing := by
  refine ⟨⟨has.truthful, has.unfinished, solid, due⟩, fun after effect => ?_⟩
  cases effect with
  | mark => exact absurd plain id
  | finish => exact absurd plain id
  | plain _ _ _ _ now => exact onward now ⟨has.truthful.call solid now, has.length, has.unfinished⟩

/-- The rule for a step recorded: it is backed, and it is the next one or an earlier one. -/
theorem carries_mark (has : Has count standing) {step : ProvisionStep} {mayYield : Bool}
    (backed : Backed standing.tenant step) (due : step.place ≤ count)
    (onward
      : ∀ longer, Has (max count (step.place + 1)) { standing with done := longer }
        → Carries Effect Sound Q rest { standing with done := longer })
    : Carries Effect Sound Q (.mark step mayYield :: rest) standing := by
  have dueHere : step.place ≤ standing.done.length := has.length ▸ due
  refine ⟨⟨has.truthful, has.unfinished, trivial, trivial⟩, fun after effect => ?_⟩
  cases effect with
  | mark tenant done finished =>
      refine onward _ ⟨has.truthful.record backed dueHere, ?_, has.unfinished⟩
      rw [← has.length]
      exact (has.truthful.contiguous.record dueHere).2
  | plain _ _ _ plain _ => exact absurd plain id

/-- The rule for a refusal: nothing follows it. -/
theorem carries_refuse (has : Has count standing) (step message : String)
    : Carries Effect Sound Q (.refuse step message :: rest) standing := by
  refine ⟨⟨has.truthful, has.unfinished, trivial, trivial⟩, fun after effect => ?_⟩
  cases effect with
  | plain _ _ _ plain _ => exact absurd plain id

/-- The rule for a part that a resume skips once its step is done. -/
theorem carries_unless {before : List ProvisionStep} (contiguous : Contiguous before)
    (step : ProvisionStep) {program : List ProvisionCall} {standing : Standing}
    (has : Has (max before.length step.place) standing)
    (missing
      : Carries Effect Sound (Has (max (max before.length step.place) (step.place + 1))) program
          standing)
    : Carries Effect Sound (Has (max before.length (step.place + 1)))
        (if step ∈ before then [] else program) standing := by
  by_cases recorded : step ∈ before
  · rw [if_pos recorded]
    have earlier := contiguous.mem_iff.mp recorded
    refine ⟨has.truthful, ?_, has.unfinished⟩
    rw [has.length]
    omega
  · have further : max (max before.length step.place) (step.place + 1)
        = max before.length (step.place + 1) := by
      omega
    rwa [if_neg recorded, ← further]

end Rules

-----------------------------------------------------------------------------------------
-- The programs of an invocation
-----------------------------------------------------------------------------------------

section Programs

variable {standing : Standing} {count : Nat}

theorem carries_uploadTenantModules (has : Has count standing) (release : String)
    (endpoints : List TenantEndpoint) (databaseId bucket : Option String) (mode : RunPodMode)
    : Carries Effect Sound (Has count)
        (uploadTenantModules release endpoints databaseId bucket mode) standing := by
  unfold uploadTenantModules
  split
  · exact carries_refuse has _ _
  · exact carries_refuse has _ _
  · exact carries_call has trivial trivial trivial fun _ after => after

/-- The two writes that end a provision. -/
theorem carries_awaitGoLive (has : Has count standing)
    : Carries Effect Sound Kept [.setTenantStatus .awaitingGoLive, .finishSucceeded]
        standing := by
  refine carries_call has trivial trivial trivial fun now has => ?_
  refine ⟨⟨has.truthful, has.unfinished, trivial, ?_⟩, fun after effect => ?_⟩
  · simp only [Due, onTenant_setTenantStatus]
    rfl
  · cases effect with
    | finish => exact has.truthful
    | plain _ _ _ plain _ => exact absurd plain id

/-- From the upload on, every step is due once the endpoints are stored. -/
theorem carries_uploadAndVerify (has : Has count standing) (reached : 4 ≤ count)
    (backed : Backed standing.tenant .runpodEndpoints) (answers : Answers) (seen : Tenant)
    {release : String} (pinned : release ≠ "") (databaseId : Option String)
    (endpoints : List TenantEndpoint) (mode : RunPodMode)
    : Carries Effect Sound Kept
        (uploadAndVerify answers seen release databaseId endpoints mode) standing := by
  unfold uploadAndVerify
  -- a resume marks the endpoints again, which leaves a record that has them as it is
  have studio : ∀ script bucket, Carries Effect Sound (Has (max (max count 5) 6))
      [.mark .runpodEndpoints true,
        .uploadStudioScript script release databaseId bucket answers.tokenId,
        .setTenantScript script release, .setTenantStudioToken answers.studioTokenEnc,
        .mark .wfpUpload true] standing := by
    intro script bucket
    refine carries_mark has backed reached fun longer has => ?_
    refine carries_call has trivial trivial trivial fun now has => ?_
    refine carries_call has trivial pinned trivial fun now has => ?_
    refine carries_call has trivial answers.studioTokenEnc.property trivial fun now has => ?_
    refine carries_mark has ?_ (le_max_right _ _) fun longer has => has
    rw [onTenant_setTenantStudioToken, onTenant_setTenantScript]
    exact ⟨Option.some_ne_none script, truthy_ne_none pinned,
      truthy_ne_none answers.studioTokenEnc.property⟩
  have revoke : ∀ standing, Has (max (max count 5) 6) standing
      → Carries Effect Sound (Has (max (max count 5) 6))
        (revokePrevious seen.r2TokenId answers.tokenId) standing := by
    intro standing has
    unfold revokePrevious
    split
    · split
      · exact has
      · exact carries_call has trivial trivial trivial fun _ after => after
    · exact has
  have modules : ∀ standing, Has (max (max count 5) 6) standing
      → Carries Effect Sound (Has (max (max count 5) 6))
        (uploadTenantModules release endpoints databaseId (some (tenantBucketName seen.slug)) mode)
        standing :=
    fun standing has => carries_uploadTenantModules has _ _ _ _ _
  refine (((studio _ _).append revoke).append modules).append fun standing has => ?_
  refine carries_mark has trivial (le_max_right _ _) fun longer has => ?_
  refine carries_call has trivial trivial trivial fun now has => ?_
  refine carries_mark has trivial (le_max_right _ _) fun longer has => ?_
  refine carries_call has trivial trivial trivial fun now has => ?_
  refine carries_call has trivial trivial trivial fun now has => ?_
  refine carries_mark has trivial (le_max_right _ _) fun longer has => ?_
  exact carries_awaitGoLive has

/-- The endpoints step stores what it records, unless an earlier invocation did. -/
theorem carries_endpointsOnward {before : List ProvisionStep} (contiguous : Contiguous before)
    (has : Has (max before.length 4) standing) (answers : Answers) (seen : Tenant)
    {release : String} (pinned : release ≠ "") (databaseId : Option String)
    : Carries Effect Sound Kept (endpointsOnward answers seen before release databaseId)
        standing := by
  unfold endpointsOnward
  have reached : 4 ≤ max before.length 4 := le_max_right _ _
  split
  · next recorded =>
      have stored := contiguous.mem_iff.mp recorded
      have backed : Backed standing.tenant .runpodEndpoints := by
        refine has.truthful.backed_of_place ?_
        rw [has.length]
        exact lt_of_lt_of_le stored (le_max_left _ _)
      split
      · exact carries_refuse has _ _
      · exact carries_uploadAndVerify has reached backed answers seen pinned _ _ _
  · split
    · exact has.truthful
    · next pool _ =>
        have notEmpty : readEndpoints (some (stringifyEndpoints pool.endpoints)) ≠ [] := by
          rw [readEndpoints_stringify]
          exact pool.endpoints_ne_nil
        have bucketDone : .r2Bucket ∈ standing.done := by
          refine has.truthful.contiguous.mem_iff.mpr ?_
          rw [has.length]
          exact lt_of_lt_of_le (by decide) reached
        refine carries_call has trivial rfl trivial fun now has => ?_
        refine carries_call has trivial notEmpty bucketDone fun now has => ?_
        refine carries_uploadAndVerify has reached ?_ answers seen pinned _ _ _
        rw [onTenant_setTenantEndpoints, onTenant_setTenantRunPodMode]
        exact ⟨notEmpty, rfl⟩

/-- The steps that runProvisionJob starts from. -/
def ProvisionResume.stepsDone (resume : Option ProvisionResume) : List ProvisionStep :=
  (resume.map ProvisionResume.done).getD []

section Segments

variable {before : List ProvisionStep}

theorem carries_database (contiguous : Contiguous before) (has : Has (max before.length 0) standing)
    (name databaseId : String)
    : Carries Effect Sound (Has (max before.length 1))
        (if .d1Create ∈ before then []
          else [.createD1 name, .setTenantD1 databaseId, .mark .d1Create true]) standing := by
  refine carries_unless contiguous .d1Create has ?_
  refine carries_call has trivial trivial trivial fun now has => ?_
  refine carries_call has trivial trivial trivial fun now has => ?_
  refine carries_mark has ?_ (le_max_right _ _) fun longer has => has
  rw [onTenant_setTenantD1]
  exact Option.some_ne_none databaseId

theorem carries_schema (contiguous : Contiguous before) (has : Has (max before.length 1) standing)
    (databaseId : Option String) (release : String)
    : Carries Effect Sound (Has (max before.length 2))
        (if .d1Migrate ∈ before then []
          else [.applyStudioMigrations databaseId release, .mark .d1Migrate true]) standing := by
  refine carries_unless contiguous .d1Migrate has ?_
  refine carries_call has trivial trivial trivial fun now has => ?_
  exact carries_mark has trivial (le_max_right _ _) fun longer has => has

theorem carries_bucket (contiguous : Contiguous before) (has : Has (max before.length 2) standing)
    {bucket : String} (named : bucket ≠ "")
    : Carries Effect Sound (Has (max before.length 3))
        (if .r2Bucket ∈ before then []
          else [.createR2Bucket bucket, .setTenantBucket bucket, .mark .r2Bucket true])
        standing := by
  refine carries_unless contiguous .r2Bucket has ?_
  refine carries_call has trivial trivial trivial fun now has => ?_
  refine carries_call has trivial named trivial fun now has => ?_
  refine carries_mark has ?_ (le_max_right _ _) fun longer has => has
  rw [onTenant_setTenantBucket]
  exact Option.some_ne_none bucket

/-- The token step is run again, also where it is recorded. -/
theorem carries_token (has : Has (max before.length 3) standing) (name bucket tokenId : String)
    (mayYield : Bool)
    : Carries Effect Sound (Has (max before.length 4))
        [.mintBucketToken name bucket, .setTenantR2Token tokenId, .mark .r2Token mayYield]
        standing := by
  refine carries_call has trivial trivial trivial fun now has => ?_
  refine carries_call has trivial trivial trivial fun now has => ?_
  refine carries_mark has ?_ (le_max_right _ _) fun longer has => ?_
  · rw [onTenant_setTenantR2Token]
    exact Option.some_ne_none tokenId
  · exact (max_assoc before.length 3 4) ▸ has

end Segments

variable {tenant : Tenant} {done : List ProvisionStep}

/-- runProvisionJob keeps the record true, whatever row it was handed, if it starts from the
record and is asked to build a release.
-/
theorem carries_runProvisionJob (resume : Option ProvisionResume)
    (truthful : Truthful tenant (ProvisionResume.stepsDone resume))
    (pinned : ∀ given, resume = some given → given.release ≠ "") (answers : Answers)
    (seen : Tenant)
    : Carries Effect Sound Kept (runProvisionJob answers seen resume)
        ⟨tenant, ProvisionResume.stepsDone resume, false⟩ := by
  have building : (resume.map ProvisionResume.release).getD answers.release ≠ "" := by
    cases resume with
    | none => exact answers.release.property
    | some given => exact pinned given rfl
  unfold runProvisionJob
  -- the program tests the steps that the resume names: give them one name on both sides
  change Carries Effect Sound Kept
    (_ ++ (if .d1Create ∈ ProvisionResume.stepsDone resume then [] else _)
      ++ (if .d1Migrate ∈ ProvisionResume.stepsDone resume then [] else _)
      ++ (if .r2Bucket ∈ ProvisionResume.stepsDone resume then [] else _) ++ _
      ++ endpointsOnward answers seen (ProvisionResume.stepsDone resume) _ _) _
  generalize ProvisionResume.stepsDone resume = before at truthful ⊢
  have contiguous := truthful.contiguous
  have opening : Carries Effect Sound (Has (max before.length 0))
      [.setJobRunning, .setTenantStatus .provisioning,
        .fetchBundle ((resume.map ProvisionResume.release).getD answers.release)]
      ⟨tenant, before, false⟩ := by
    have entered : Has (max before.length 0) ⟨tenant, before, false⟩ :=
      ⟨truthful, (Nat.max_zero _).symm, rfl⟩
    refine carries_call entered trivial trivial trivial fun now has => ?_
    refine carries_call has trivial trivial trivial fun now has => ?_
    exact carries_call has trivial trivial trivial fun now has => has
  exact ((((opening.append fun _ has => carries_database contiguous has _ _).append
    fun _ has => carries_schema contiguous has _ _).append
    fun _ has => carries_bucket contiguous has (tenantBucketName_ne_empty _)).append
    fun _ has => carries_token has _ _ _ _).append
    fun _ has => carries_endpointsOnward contiguous has answers seen building _

/-- runModuleSteps keeps the record true, if it starts from a record past the upload. -/
theorem carries_runModuleSteps {before : List ProvisionStep} (truthful : Truthful tenant before)
    (uploaded : .wfpUpload ∈ before) (seen : Tenant) (endpoints : List TenantEndpoint)
    (release : String)
    : Carries Effect Sound (Has (max before.length 9))
        (runModuleSteps seen before endpoints release) ⟨tenant, before, false⟩ := by
  have contiguous := truthful.contiguous
  have past : 6 ≤ before.length := contiguous.mem_iff.mp uploaded
  have entered : Has (max before.length 6) ⟨tenant, before, false⟩ :=
    ⟨truthful, (max_eq_left past).symm, rfl⟩
  unfold runModuleSteps
  refine (Carries.append (R := Has (max before.length 8)) (Carries.append
    (R := Has (max before.length 7)) ?_ fun standing has => ?_) fun standing has => ?_)
  · refine carries_unless contiguous .modulesUpload entered ?_
    refine (carries_uploadTenantModules entered _ _ _ _ _).append fun standing has => ?_
    exact carries_mark has trivial (le_max_right _ _) fun longer has => has
  · refine carries_unless contiguous .modulesInstall has ?_
    refine carries_call has trivial trivial trivial fun now has => ?_
    exact carries_mark has trivial (le_max_right _ _) fun longer has => has
  · refine carries_unless contiguous .verify has ?_
    refine carries_call has trivial trivial trivial fun now has => ?_
    exact carries_mark has trivial (le_max_right _ _) fun longer has => has

/-- A continuation keeps the record it starts from true, whatever row it was handed. -/
theorem carries_continueProvisionJob (truthful : Truthful tenant done) (answers : Answers)
    (jobId : String) (job : Option ProvisionJob) (seen : Tenant)
    : Carries Effect Sound Kept (continueProvisionJob answers jobId job seen done)
        ⟨tenant, done, false⟩ := by
  unfold continueProvisionJob
  have entered : Has done.length ⟨tenant, done, false⟩ := ⟨truthful, rfl, rfl⟩
  split
  · exact carries_refuse entered _ _
  · next release planned =>
      refine carries_runProvisionJob (some ⟨done, release⟩) truthful ?_ answers seen
      intro given isGiven
      cases isGiven
      rcases planResume_eq_ok planned with ⟨_, past⟩ | ⟨_, _, _, before⟩
      · exact nomatch planPastUpload_eq_ok past
      · obtain ⟨built, isBuilt, notEmpty⟩ := planBeforeUpload_eq_ok before
        cases isBuilt
        exact notEmpty
  · next endpoints release planned =>
      rcases planResume_eq_ok planned with ⟨uploaded, _⟩ | ⟨_, _, _, before⟩
      · -- the release is written behind the last mark, also by a continuation with none left
        refine (carries_runModuleSteps truthful uploaded seen endpoints release).append
          fun standing has => ?_
        exact carries_call has trivial trivial trivial fun now has => carries_awaitGoLive has
      · exact nomatch planBeforeUpload_eq_ok before

end Programs

end ControlPlane.Provision
