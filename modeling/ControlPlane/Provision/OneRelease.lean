import ControlPlane.Provision.Calm
import ControlPlane.Provision.Driving
import ControlPlane.Provision.Progress

/-! One provision, one release. A driver takes its release from the plane, from the job or from a
tenant row, by how far the job got. What all the drivers of a job call is kept beside the rows here,
so that it can be held against what the columns say in the end.
-/

namespace ControlPlane.Provision

open ControlPlane.Library
open ControlPlane.Store
open ControlPlane.Teardown (truthy)

/-- The release that a call builds from, or records. -/
def ProvisionCall.builds : ProvisionCall → Option String
  | .fetchBundle release
  | .applyStudioMigrations _ release
  | .uploadStudioScript _ release _ _ _
  | .setTenantScript _ release
  | .uploadTenantModules release _ _ _ _
  | .setTenantModulesRelease release => some release
  | _ => none

/-- The call that is under way. -/
def Invocation.underWay : Invocation → List ProvisionCall
  | .working _ (call :: _) => [call]
  | _ => []

/-- A provision with the calls of all its drivers, and the tenant rows there have been to read. A
call is made when it comes back. One that throws, or that its driver dies in, is issued only.
-/
structure Building where
  provisioning : Provisioning
  made : List ProvisionCall
  issued : List ProvisionCall
  shown : List Tenant

def Building.rows (state : Building) : Rows := state.provisioning.rows

/-- What happens to a provision, where a driver that takes over is handed some row that was read. -/
inductive BuildingAction
  | own (action : ProvisioningAction)
  | takeOver (answers : Answers) (seen : Tenant)

/-- The calls that come back in an action. -/
def ProvisioningAction.makes (driver : Invocation) : ProvisioningAction → List ProvisionCall
  | .move (.call _) => driver.underWay
  | _ => []

/-- The calls that are issued in an action, or may have been. -/
def ProvisioningAction.issues (driver : Invocation) : ProvisioningAction → List ProvisionCall
  | .move _ | .die => driver.underWay
  | _ => []

/-- The state after an action. The row a continuation is handed may be as old as the job. -/
def Building.step (state : Building) : BuildingAction → Option Building
  | .takeOver answers seen =>
      let before := state.provisioning
      if before.driver = .returned ∧ before.started ∧ before.rows.job.status.active
          ∧ seen ∈ state.shown then
        let claimed := before.rows.onJob (claimJob before.now before.rows.job.id jobLeaseSeconds)
        (readProgress claimed.job.stepsDone).map fun done =>
          { state with
            provisioning :=
              { before with
                rows := claimed
                driver := .working done
                  (continueProvisionJob answers claimed.job.id (some claimed.job) seen done) } }
      else none
  | .own (.resume _) => none
  | .own action =>
      (state.provisioning.step action).map fun next =>
        { provisioning := next
          made := state.made ++ action.makes state.provisioning.driver
          issued := state.issued ++ action.issues state.provisioning.driver
          shown := state.shown ++ [next.rows.tenant] }

/-- A provision that was just requested for a tenant, with the release it is to build. -/
def Building.requested (now : Nat) (id : String) (tenant : Tenant) (runpodMode : Option String)
    (release : String)
    : Building where
  provisioning := .requested now id (blankTenant tenant) runpodMode (some release)
  made := []
  issued := []
  shown := [blankTenant tenant]

/-- The first driver runs with the release that the job records. -/
def Pinned (state : Building) : BuildingAction → Prop
  | .own (.start answers) => state.rows.job.toRelease = some answers.release.val
  | _ => True

instance (state : Building) (action : BuildingAction) : Decidable (Pinned state action) := by
  unfold Pinned
  split <;> infer_instance

/-- All that was built of a provision is of one release: the schema, the studio and the modules were,
nothing else was issued, and both columns say so.
-/
structure OneRelease (release : String) (state : Building) : Prop where
  migrated : ∃ databaseId, .applyStudioMigrations databaseId release ∈ state.made
  studio
    : ∃ script databaseId bucket tokenId,
        .uploadStudioScript script release databaseId bucket tokenId ∈ state.made
  modules
    : ∃ endpoints databaseId bucket mode,
        .uploadTenantModules release endpoints databaseId bucket mode ∈ state.made
  only : ∀ call ∈ state.issued, ∀ other, call.builds = some other → other = release
  studioRelease : state.rows.tenant.studioRelease = some release
  modulesRelease : state.rows.tenant.modulesRelease = some release

-----------------------------------------------------------------------------------------
-- What is built once a step is recorded
-----------------------------------------------------------------------------------------

/-- The tenant row, and the calls that were made. -/
structure Made where
  tenant : Tenant
  calls : List ProvisionCall

def Made.after (made : Made) (now : Nat) (call : ProvisionCall) : Made where
  tenant := call.onTenant now made.tenant
  calls := made.calls ++ [call]

/-- A call that builds from no other release. -/
def Builds (release : String) (call : ProvisionCall) : Prop :=
  ∀ other, call.builds = some other → other = release

/-- What has been built of the release once a step is done. -/
def Built (release : String) (made : Made) : ProvisionStep → Prop
  | .d1Migrate => ∃ databaseId, .applyStudioMigrations databaseId release ∈ made.calls
  | .wfpUpload =>
      (∃ script databaseId bucket tokenId,
        .uploadStudioScript script release databaseId bucket tokenId ∈ made.calls)
      ∧ made.tenant.studioRelease = some release
  | .modulesUpload =>
      ∃ endpoints databaseId bucket mode,
        .uploadTenantModules release endpoints databaseId bucket mode ∈ made.calls
  | _ => True

/-- The steps that build are done, and the modules column says so. -/
structure Complete (release : String) (made : Made) : Prop where
  built : ∀ step, Built release made step
  modulesRelease : made.tenant.modulesRelease = some release

/-- What a call takes to be made: it builds from the release, what it records is built, and a job is
closed on what is complete.
-/
structure MayMake (release : String) (made : Made) (call : ProvisionCall) : Prop where
  builds : Builds release call
  records : ∀ step mayYield, call = .mark step mayYield → Built release made step
  closes : call = .finishSucceeded → Complete release made

/-- Where a call takes what was made, by any clock. A refusal takes it nowhere. -/
def Makes (made : Made) (call : ProvisionCall) (after : Made) : Prop :=
  (∀ step message, call ≠ .refuse step message) ∧ ∃ now, after = made.after now call

/-- A property that a call of the release cannot spoil. -/
def Stable (release : String) (P : Made → Prop) : Prop :=
  ∀ made call now, Builds release call → P made → P (made.after now call)

section

variable {release : String} {made : Made} {call : ProvisionCall} {rest : List ProvisionCall}
  {P Q : Made → Prop}

/-- A call writes the release of the studio with its own, or leaves it. -/
theorem studioRelease_onTenant (builds : Builds release call) (now : Nat) (tenant : Tenant)
    : (call.onTenant now tenant).studioRelease = tenant.studioRelease
      ∨ (call.onTenant now tenant).studioRelease = some release := by
  cases call with
  | setTenantScript scriptName other =>
      rw [onTenant_setTenantScript]
      exact .inr (congrArg some (builds other rfl))
  | setTenantStatus status =>
      rw [onTenant_setTenantStatus]
      exact .inl rfl
  | _ => exact .inl (by first | rfl | simp)

/-- The same of the modules. -/
theorem modulesRelease_onTenant (builds : Builds release call) (now : Nat) (tenant : Tenant)
    : (call.onTenant now tenant).modulesRelease = tenant.modulesRelease
      ∨ (call.onTenant now tenant).modulesRelease = some release := by
  cases call with
  | setTenantModulesRelease other =>
      rw [onTenant_setTenantModulesRelease]
      exact .inr (congrArg some (builds other rfl))
  | setTenantStatus status =>
      rw [onTenant_setTenantStatus]
      exact .inl rfl
  | _ => exact .inl (by first | rfl | simp)

/-- What is built stays built, whatever else is called for the release. -/
theorem stable_built (release : String) (step : ProvisionStep)
    : Stable release fun made => Built release made step := by
  intro made call now builds built
  cases step with
  | d1Migrate =>
      obtain ⟨databaseId, member⟩ := built
      exact ⟨databaseId, List.mem_append_left _ member⟩
  | wfpUpload =>
      obtain ⟨⟨script, databaseId, bucket, tokenId, member⟩, recorded⟩ := built
      refine ⟨⟨script, databaseId, bucket, tokenId, List.mem_append_left _ member⟩, ?_⟩
      rcases studioRelease_onTenant builds now made.tenant with kept | written
      · exact kept.trans recorded
      · exact written
  | modulesUpload =>
      obtain ⟨endpoints, databaseId, bucket, mode, member⟩ := built
      exact ⟨endpoints, databaseId, bucket, mode, List.mem_append_left _ member⟩
  | _ => trivial

theorem stable_allBuilt (release : String)
    : Stable release fun made => ∀ step, Built release made step :=
  fun made call now builds built step => stable_built release step made call now builds (built step)

theorem stable_complete (release : String) : Stable release (Complete release) := by
  intro made call now builds complete
  refine ⟨stable_allBuilt release made call now builds complete.built, ?_⟩
  rcases modulesRelease_onTenant builds now made.tenant with kept | written
  · exact kept.trans complete.modulesRelease
  · exact written

theorem Stable.and (first : Stable release P) (second : Stable release Q)
    : Stable release fun made => P made ∧ Q made :=
  fun made call now builds both =>
    ⟨first made call now builds both.1, second made call now builds both.2⟩

-----------------------------------------------------------------------------------------
-- The programs of the drivers
-----------------------------------------------------------------------------------------

/-- A call that builds from no other release, closes nothing, and records no step that builds. -/
def Neutral (release : String) : ProvisionCall → Prop
  | .mark step _ => step ≠ .d1Migrate ∧ step ≠ .wfpUpload ∧ step ≠ .modulesUpload
  | .finishSucceeded => False
  | call => call.builds = none ∨ call.builds = some release

/-- The rule for one call. -/
theorem carries_make (may : MayMake release made call)
    (onward : ∀ now, Carries Makes (MayMake release) Q rest (made.after now call))
    : Carries Makes (MayMake release) Q (call :: rest) made := by
  refine .cons may fun after makes => ?_
  obtain ⟨_, now, isAfter⟩ := makes
  exact isAfter ▸ onward now

/-- A refusal ends a program. -/
theorem carries_refusal (step message : String)
    : Carries Makes (MayMake release) Q (.refuse step message :: rest) made :=
  .cons ⟨nofun, nofun, nofun⟩ fun _ makes => absurd rfl (makes.1 step message)

/-- A neutral call may be made of anything. -/
theorem Neutral.mayMake (neutral : Neutral release call) (made : Made)
    : MayMake release made call := by
  have builds : call.builds = none ∨ call.builds = some release → Builds release call := by
    intro either other isOther
    rcases either with nothing | same
    · exact absurd (nothing.symm.trans isOther) nofun
    · exact (Option.some.inj (same.symm.trans isOther)).symm
  cases call with
  | mark step mayYield =>
      obtain ⟨notMigrate, notUpload, notModules⟩ := neutral
      refine ⟨nofun, ?_, nofun⟩
      intro other _ marks
      rw [← (ProvisionCall.mark.inj marks).1]
      cases step with
      | d1Migrate => exact absurd rfl notMigrate
      | wfpUpload => exact absurd rfl notUpload
      | modulesUpload => exact absurd rfl notModules
      | _ => trivial
  | finishSucceeded => exact absurd neutral id
  | _ => exact ⟨builds neutral, nofun, nofun⟩

/-- Neutral calls keep what the release has, by induction on the calls. -/
theorem carries_neutral (stable : Stable release P) {program : List ProvisionCall}
    (neutral : ∀ call ∈ program, Neutral release call) (start : P made)
    : Carries Makes (MayMake release) P program made := by
  induction program generalizing made with
  | nil => exact start
  | cons call rest ih =>
      have may := (neutral call List.mem_cons_self).mayMake made
      refine carries_make may fun now => ?_
      refine ih (fun other member => neutral other (List.mem_cons_of_mem _ member)) ?_
      exact stable made call now may.builds start

/-- Neutral calls of a step that may have been done before. -/
theorem carries_skipping (stable : Stable release P) {before : List ProvisionStep}
    {step : ProvisionStep} {program : List ProvisionCall}
    (neutral : ∀ call ∈ program, Neutral release call) (start : P made)
    : Carries Makes (MayMake release) P (if step ∈ before then [] else program) made := by
  split
  · exact start
  · exact carries_neutral stable neutral start

/-- The rule for a step recorded behind what it builds. -/
theorem carries_recorded {step : ProvisionStep} {mayYield : Bool} (stable : Stable release P)
    (start : P made) (built : Built release made step)
    : Carries Makes (MayMake release) (fun made => P made ∧ Built release made step)
        [.mark step mayYield] made := by
  have may : MayMake release made (.mark step mayYield) := by
    refine ⟨nofun, ?_, nofun⟩
    intro other _ marks
    exact (ProvisionCall.mark.inj marks).1 ▸ built
  refine carries_make may fun now => ?_
  exact ⟨stable made _ now may.builds start,
    stable_built release step made _ now may.builds built⟩

/-- The upload of the modules builds them, or refuses. -/
theorem carries_modules (stable : Stable release P) (start : P made)
    (endpoints : List TenantEndpoint) (databaseId bucket : Option String) (mode : RunPodMode)
    : Carries Makes (MayMake release) (fun made => P made ∧ Built release made .modulesUpload)
        (uploadTenantModules release endpoints databaseId bucket mode) made := by
  unfold uploadTenantModules
  split
  · exact carries_refusal _ _
  · exact carries_refusal _ _
  · next databaseId bucket _ _ =>
      have may : MayMake release made
          (.uploadTenantModules release endpoints databaseId bucket mode) :=
        ⟨fun _ same => (Option.some.inj same).symm, nofun, nofun⟩
      refine carries_make may fun now => ⟨stable made _ now may.builds start, ?_⟩
      exact ⟨endpoints, databaseId, bucket, mode,
        List.mem_append_right _ (List.mem_singleton.mpr rfl)⟩

/-- The two calls that end a provision. -/
theorem carries_close (complete : Complete release made)
    : Carries Makes (MayMake release) (fun _ => True)
        [.setTenantStatus .awaitingGoLive, .finishSucceeded] made := by
  have status : MayMake release made (.setTenantStatus .awaitingGoLive) := ⟨nofun, nofun, nofun⟩
  refine carries_make status fun now => ?_
  have kept := stable_complete release made _ now status.builds complete
  exact carries_make ⟨nofun, nofun, fun _ => kept⟩ fun _ => trivial

/-- An upload is built once its release is recorded. -/
theorem built_setTenantScript {scriptName : String} {databaseId : Option String}
    {bucket tokenId : String}
    (uploaded : .uploadStudioScript scriptName release databaseId bucket tokenId ∈ made.calls)
    (now : Nat) (script : String)
    : Built release (made.after now (.setTenantScript script release)) .wfpUpload := by
  refine ⟨⟨scriptName, databaseId, bucket, tokenId, List.mem_append_left _ uploaded⟩, ?_⟩
  rw [Made.after, onTenant_setTenantScript]

/-- With all steps built, the modules column is written of what is then complete. -/
theorem carries_modulesRelease (built : ∀ step, Built release made step)
    (onward : ∀ after, Complete release after → Carries Makes (MayMake release) Q rest after)
    : Carries Makes (MayMake release) Q (.setTenantModulesRelease release :: rest) made := by
  have may : MayMake release made (.setTenantModulesRelease release) :=
    ⟨fun _ same => (Option.some.inj same).symm, nofun, nofun⟩
  refine carries_make may fun now => onward _ ⟨?_, ?_⟩
  · exact stable_allBuilt release made _ now may.builds built
  · rw [Made.after, onTenant_setTenantModulesRelease]

/-- With the schema built, the upload and what follows build the rest. -/
theorem carries_fromUpload (migrated : Built release made .d1Migrate) (answers : Answers)
    (seen : Tenant) (databaseId : Option String) (endpoints : List TenantEndpoint)
    (mode : RunPodMode)
    : Carries Makes (MayMake release) (fun _ => True)
        (uploadAndVerify answers seen release databaseId endpoints mode) made := by
  have schema := stable_built release .d1Migrate
  have upTo := schema.and (stable_built release .wfpUpload)
  have studio : ∀ script bucket,
      Carries Makes (MayMake release)
        (fun made => Built release made .d1Migrate ∧ Built release made .wfpUpload)
        [.mark .runpodEndpoints true,
          .uploadStudioScript script release databaseId bucket answers.tokenId,
          .setTenantScript script release, .setTenantStudioToken answers.studioTokenEnc,
          .mark .wfpUpload true] made := by
    intro script bucket
    have endpointsStored : Neutral release (.mark .runpodEndpoints true) := by simp [Neutral]
    have tokenStored : Neutral release (.setTenantStudioToken answers.studioTokenEnc) :=
      .inl rfl
    have own : ∀ call : ProvisionCall, call.builds = some release → Builds release call :=
      fun _ isOwn _ same => Option.some.inj (same.symm.trans isOwn)
    have upload := own (.uploadStudioScript script release databaseId bucket answers.tokenId) rfl
    have recorded := own (.setTenantScript script release) rfl
    refine carries_make (endpointsStored.mayMake _) fun now => ?_
    have migrated := schema _ _ now (endpointsStored.mayMake made).builds migrated
    refine carries_make ⟨upload, nofun, nofun⟩ fun later => ?_
    have migrated := schema _ _ later upload migrated
    refine carries_make ⟨recorded, nofun, nofun⟩ fun atScript => ?_
    have migrated := schema _ _ atScript recorded migrated
    refine carries_make (tokenStored.mayMake _) fun atToken => ?_
    have builds := (tokenStored.mayMake made).builds
    refine carries_recorded schema (schema _ _ atToken builds migrated) ?_
    refine stable_built release .wfpUpload _ _ atToken builds ?_
    exact built_setTenantScript (List.mem_append_right _ (List.mem_singleton.mpr rfl)) atScript _
  have ending : ∀ script made,
      (∀ step, Built release made step)
      → Carries Makes (MayMake release) (fun _ => True)
          [.mark .modulesUpload true, .installTenantModules script, .mark .modulesInstall true,
            .setTenantModulesRelease release, .verifyStudio script, .mark .verify true,
            .setTenantStatus .awaitingGoLive, .finishSucceeded] made := by
    intro script made built
    have parts : ([.mark .modulesUpload true, .installTenantModules script,
          .mark .modulesInstall true, .setTenantModulesRelease release, .verifyStudio script,
          .mark .verify true, .setTenantStatus .awaitingGoLive, .finishSucceeded]
            : List ProvisionCall)
        = [.mark .modulesUpload true]
          ++ ([.installTenantModules script, .mark .modulesInstall true]
            ++ .setTenantModulesRelease release :: ([.verifyStudio script, .mark .verify true]
              ++ [.setTenantStatus .awaitingGoLive, .finishSucceeded])) := rfl
    rw [parts]
    have all := stable_allBuilt release
    refine (carries_recorded all built (built .modulesUpload)).append fun made recorded => ?_
    refine (carries_neutral all (by simp [Neutral, ProvisionCall.builds]) recorded.1).append
      fun made built => ?_
    refine carries_modulesRelease built fun made complete => ?_
    refine (carries_neutral (stable_complete release) (by simp [Neutral, ProvisionCall.builds])
      complete).append fun made complete => ?_
    exact carries_close complete
  have revoked : ∀ call ∈ revokePrevious seen.r2TokenId answers.tokenId, Neutral release call := by
    intro call member
    unfold revokePrevious at member
    split at member
    · split at member
      · exact absurd member List.not_mem_nil
      · exact List.mem_singleton.mp member ▸ .inl rfl
    · exact absurd member List.not_mem_nil
  unfold uploadAndVerify
  refine (((studio _ _).append fun made built => carries_neutral upTo revoked built).append
    fun made built => carries_modules upTo built _ _ _ _).append fun made built => ?_
  refine ending _ made fun step => ?_
  cases step with
  | d1Migrate => exact built.1.1
  | wfpUpload => exact built.1.2
  | modulesUpload => exact built.2
  | _ => trivial

/-- The endpoints step and what follows it. A plane without a pool returns. -/
theorem carries_fromEndpoints (migrated : Built release made .d1Migrate) (answers : Answers)
    (seen : Tenant) (done : List ProvisionStep) (databaseId : Option String)
    : Carries Makes (MayMake release) (fun _ => True)
        (endpointsOnward answers seen done release databaseId) made := by
  unfold endpointsOnward
  split
  · split
    · exact carries_refusal _ _
    · exact carries_fromUpload migrated answers seen _ _ _
  · split
    · trivial
    · refine (carries_neutral (stable_built release .d1Migrate)
        (by simp [Neutral, ProvisionCall.builds]) migrated).append fun made migrated => ?_
      exact carries_fromUpload migrated answers seen _ _ _

/-- A driver of the pre-upload region builds from its release, where what it takes for done was. -/
theorem carries_ofRelease (answers : Answers) (seen : Tenant) (resume : Option ProvisionResume)
    (building : (resume.map ProvisionResume.release).getD answers.release = release)
    (built : ∀ step ∈ ProvisionResume.stepsDone resume, Built release made step)
    : Carries Makes (MayMake release) (fun _ => True) (runProvisionJob answers seen resume)
        made := by
  unfold ProvisionResume.stepsDone at built
  simp only [runProvisionJob, building]
  generalize (resume.map ProvisionResume.done).getD [] = before at built ⊢
  have sofar : Stable release fun made => .d1Migrate ∈ before → Built release made .d1Migrate :=
    fun made call now builds had done => stable_built release _ made call now builds (had done)
  have schema := stable_built release .d1Migrate
  have migrates : ∀ made databaseId, (.d1Migrate ∈ before → Built release made .d1Migrate)
      → Carries Makes (MayMake release) (fun made => Built release made .d1Migrate)
          (if .d1Migrate ∈ before then []
            else [.applyStudioMigrations databaseId release, .mark .d1Migrate true]) made := by
    intro made databaseId had
    split
    · next done => exact had done
    · refine carries_make
        ⟨fun _ same => (Option.some.inj same).symm, (fun _ _ same => by cases same),
          fun same => by cases same⟩ fun now => ?_
      have migrated : Built release (made.after now (.applyStudioMigrations databaseId release))
          .d1Migrate :=
        ⟨databaseId, List.mem_append_right _ (List.mem_singleton.mpr rfl)⟩
      exact (carries_recorded schema migrated migrated).mono fun _ both => both.1
  have opening : ∀ call ∈ [ProvisionCall.setJobRunning, .setTenantStatus .provisioning,
      .fetchBundle release], Neutral release call := by
    simp [Neutral, ProvisionCall.builds]
  refine (((((carries_neutral sofar opening (built .d1Migrate)).append
    fun made had => carries_skipping sofar ?_ had).append
    fun made had => migrates made _ had).append
    fun made migrated => carries_skipping schema ?_ migrated).append
    fun made migrated => carries_neutral schema ?_ migrated).append
    fun made migrated => carries_fromEndpoints migrated answers seen before _
  all_goals simp [Neutral, ProvisionCall.builds]

/-- The module steps of a continuation build the modules, unless they are done. -/
theorem carries_moduleSteps (seen : Tenant) (done : List ProvisionStep)
    (endpoints : List TenantEndpoint)
    (built : ∀ step, step ≠ .modulesUpload ∨ step ∈ done → Built release made step)
    : Carries Makes (MayMake release) (fun made => ∀ step, Built release made step)
        (runModuleSteps seen done endpoints release) made := by
  have all := stable_allBuilt release
  have others : Stable release fun made => ∀ step, step ≠ .modulesUpload → Built release made step :=
    fun made call now builds had step other =>
      stable_built release step made call now builds (had step other)
  have uploads : Carries Makes (MayMake release) (fun made => ∀ step, Built release made step)
      (if .modulesUpload ∈ done then []
        else
          uploadTenantModules release endpoints seen.d1DatabaseId seen.r2BucketName
            (readRunPodMode seen.runpodMode)
          ++ [.mark .modulesUpload true]) made := by
    split
    · next uploaded =>
        intro step
        by_cases isUpload : step = .modulesUpload
        · exact built step (.inr (isUpload ▸ uploaded))
        · exact built step (.inl isUpload)
    · refine (carries_modules others (fun step other => built step (.inl other)) _ _ _ _).append
        fun made both => ?_
      refine (carries_recorded others both.1 both.2).mono fun made both step => ?_
      by_cases isUpload : step = .modulesUpload
      · exact isUpload ▸ both.2
      · exact both.1 step isUpload
  unfold runModuleSteps
  refine (uploads.append fun made built => carries_skipping all ?_ built).append
    fun made built => carries_skipping all ?_ built
  all_goals simp [Neutral, ProvisionCall.builds]

/-- A text that counts as recorded is the text. -/
theorem truthy_eq {text recorded : String} (isText : truthy (some text) = some recorded)
    : text = recorded := by
  unfold truthy at isText
  exact Option.some.inj (Option.filter_eq_some_iff.mp isText).1

/-- Before the upload, what goes on is told its release by the job. -/
theorem toRelease_of_plan {job : ProvisionJob} {building : String}
    (planned : planBeforeUpload job = .ok (.provision building))
    : truthy job.toRelease = some building := by
  unfold planBeforeUpload at planned
  split at planned
  · exact nomatch planned
  · split at planned
    · exact nomatch planned
    · split at planned
      · split at planned
        · exact nomatch planned
        · next release recorded =>
            exact recorded.trans (congrArg some (ResumePlan.provision.inj (Except.ok.inj planned)))
      · exact nomatch planned

/-- Past the upload, it is told by the tenant row. -/
theorem studioRelease_of_plan {tenant : Tenant} {endpoints : List TenantEndpoint}
    {building : String} (planned : planPastUpload tenant = .ok (.modules endpoints building))
    : truthy tenant.studioRelease = some building := by
  unfold planPastUpload at planned
  split at planned
  · exact nomatch planned
  · split at planned
    · exact nomatch planned
    · exact nomatch planned
    · next release _ recorded =>
        exact recorded.trans (congrArg some (ResumePlan.modules.inj (Except.ok.inj planned)).2)

/-- A row that names no other release as the studio's. -/
def ShowsOnly (release : String) (row : Tenant) : Prop :=
  ∀ other, truthy row.studioRelease = some other → other = release

/-- A continuation builds from the release of the job, whatever the plane has come to: before the
upload it is told by the job, and behind it by the row.
-/
theorem carries_ofContinuation {job : ProvisionJob} {seen : Tenant} {done : List ProvisionStep}
    (recorded : job.toRelease = some release) (shows : ShowsOnly release seen)
    (contiguous : Contiguous done) (built : ∀ step ∈ done, Built release made step)
    (answers : Answers) (jobId : String)
    : Carries Makes (MayMake release) (fun _ => True)
        (continueProvisionJob answers jobId (some job) seen done) made := by
  unfold continueProvisionJob
  split
  · exact carries_refusal _ _
  · next building planned =>
      rcases planResume_eq_ok planned with ⟨_, past⟩ | ⟨_, _, isJob, before⟩
      · exact nomatch planPastUpload_eq_ok past
      · cases isJob
        have building := toRelease_of_plan before
        rw [recorded] at building
        exact carries_ofRelease answers seen _ (truthy_eq building).symm built
  · next endpoints building planned =>
      rcases planResume_eq_ok planned with ⟨uploaded, past⟩ | ⟨_, _, _, before⟩
      · have same := shows building (studioRelease_of_plan past)
        subst same
        have others : ∀ step, step ≠ .modulesUpload ∨ step ∈ done → Built building made step := by
          have earlier : ∀ step : ProvisionStep, step.place < 6 → Built building made step := by
            intro step early
            refine built step (contiguous.mem_iff.mpr (lt_of_lt_of_le early ?_))
            exact contiguous.mem_iff.mp uploaded
          intro step either
          rcases either with other | isDone
          · cases step with
            | d1Migrate => exact earlier _ (by decide)
            | wfpUpload => exact earlier _ (by decide)
            | modulesUpload => exact absurd rfl other
            | _ => trivial
          · exact built step isDone
        refine (carries_moduleSteps seen done endpoints others).append fun made built => ?_
        exact carries_modulesRelease built fun after complete => carries_close complete
      · exact nomatch planBeforeUpload_eq_ok before

/-- A call of the release leaves a row that names no other. -/
theorem ShowsOnly.onTenant {row : Tenant} (shows : ShowsOnly release row)
    (builds : Builds release call) (now : Nat)
    : ShowsOnly release (call.onTenant now row) := by
  intro other named
  rcases studioRelease_onTenant builds now row with kept | written
  · exact shows other (kept ▸ named)
  · rw [written] at named
    exact (truthy_eq named).symm

end

-----------------------------------------------------------------------------------------
-- One provision, from its request on
-----------------------------------------------------------------------------------------

/-- What is left of a driver's program builds from the release. One that closed the job as failed may
still change the tenant row.
-/
def Driven (release : String) (rows : Rows) (made : List ProvisionCall) : Invocation → Prop
  | .working _ rest =>
      rows.job.status.active
      → Carries Makes (MayMake release) (fun _ => True) rest ⟨rows.tenant, made⟩
  | .owesStatus | .rollingBack => rows.job.status = .failed
  | _ => True

/-- What the rows, the calls made and the driver of a provision have to do with its release. -/
structure Unmixed (release : String) (rows : Rows) (made : List ProvisionCall) (driver : Invocation)
    : Prop where
  shows : rows.job.status.active → ShowsOnly release rows.tenant
  built
    : rows.job.status.active
      → ∃ done, rows.job.stepsDone = stringifySteps done ∧ Contiguous done
        ∧ ∀ step ∈ done, Built release ⟨rows.tenant, made⟩ step
  driven : Driven release rows made driver
  succeeded : rows.job.status = .succeeded → Complete release ⟨rows.tenant, made⟩

section

variable {release : String} {made : List ProvisionCall} {now : Nat} {rows after : Rows}
  {driver next : Invocation} {move : Move}

/-- A step of a driver opens no closed job, and changes neither the mode nor the release of one. -/
theorem Held.keeps_job (held : Held rows driver) (stepped : Stepped now rows driver move after next)
    : (after.job.status.active → rows.job.status.active)
      ∧ after.job.toRelease = rows.job.toRelease := by
  cases stepped with
  | recorded next onward =>
      exact ⟨fun _ => held.pending.1,
        Sweep.onRow_keeps _ ProvisionJob.toRelease (fun _ _ => rfl) rows.job⟩
  | called plain => exact ⟨fun _ => held.pending.1, (onJob_keeps now rows.job _).release⟩
  | finished => exact ⟨fun _ => held.pending.1, (onJob_keeps now rows.job _).release⟩
  | yielded =>
      have sameStatus := Sweep.onRow_keeps (releaseJobLease rows.job.id).toSweep
        ProvisionJob.status (fun _ _ => rfl) rows.job
      exact ⟨fun active => sameStatus ▸ active,
        Sweep.onRow_keeps _ ProvisionJob.toRelease (fun _ _ => rfl) rows.job⟩
  | @closed step message _ next onward =>
      refine ⟨fun active => ?_,
        Sweep.onRow_keeps _ ProvisionJob.toRelease (fun _ _ => rfl) rows.job⟩
      rcases onward with ⟨_, open_⟩ | ⟨_, closed⟩
      · exact open_
      · have kept : (finishJob now rows.job.id .failed (some step) (some message)).onRow rows.job
            = rows.job :=
          Update.onRow_of_not fun matched => closed matched.2
        exact kept ▸ active
  | _ => exact ⟨id, rfl⟩

/-- A call that was made takes nothing back. -/
theorem Unmixed.afterCall (now : Nat) {done : List ProvisionStep} {call : ProvisionCall}
    {rest : List ProvisionCall} (unmixed : Unmixed release rows made (.working done (call :: rest)))
    (active : rows.job.status.active)
    : MayMake release ⟨rows.tenant, made⟩ call
      ∧ ∀ step, Built release ⟨rows.tenant, made⟩ step
        → Built release ⟨call.onTenant now rows.tenant, made ++ [call]⟩ step := by
  have may := (unmixed.driven active).1
  exact ⟨may, fun step => stable_built release step _ call now may.builds⟩

/-- Rows with the same status, progress and tenant row are as unmixed. -/
theorem Unmixed.congr (unmixed : Unmixed release rows made driver)
    (sameStatus : after.job.status = rows.job.status)
    (sameText : after.job.stepsDone = rows.job.stepsDone) (sameTenant : after.tenant = rows.tenant)
    (driven : Driven release after made next)
    : Unmixed release after made next where
  shows active := sameTenant ▸ unmixed.shows (sameStatus ▸ active)
  built active := by
    rw [sameText, sameTenant]
    exact unmixed.built (sameStatus ▸ active)
  driven := driven
  succeeded succeeded := sameTenant ▸ unmixed.succeeded (sameStatus ▸ succeeded)

/-- A job that was closed as failed is neither open nor succeeded. -/
theorem unmixed_of_failed (failed : rows.job.status = .failed)
    (driven : Driven release rows made driver)
    : Unmixed release rows made driver := by
  have notActive : ¬ rows.job.status.active := by
    rw [failed]
    exact Bool.false_ne_true
  refine ⟨fun active => absurd active notActive, fun active => absurd active notActive, driven, ?_⟩
  intro succeeded
  exact JobStatus.noConfusion (failed.symm.trans succeeded)

/-- An open job has not succeeded. -/
theorem not_succeeded_of_active {status : JobStatus} (active : status.active)
    : status ≠ .succeeded := by
  intro succeeded
  rw [succeeded] at active
  exact Bool.false_ne_true active

/-- A step of a driver keeps its provision to one release. Witness: one case for each kind of step. -/
theorem Unmixed.step (unmixed : Unmixed release rows made driver) (held : Held rows driver)
    (upToDate : UpToDate rows driver) (stepped : Stepped now rows driver move after next)
    : Unmixed release after (made ++ ProvisioningAction.makes driver (.move move)) next := by
  cases stepped with
  | @recorded done step mayYield rest budgetSpent next onward =>
      obtain ⟨active, _, carries⟩ := held.pending
      obtain ⟨sameStatus, written⟩ := recordOn_open now rows.job done step active
      obtain ⟨may, keeps⟩ := unmixed.afterCall now active
      obtain ⟨stored, text, contiguous, built⟩ := unmixed.built active
      have later := truthful_of_carries (carries.2 _ (.mark rows.tenant done false step mayYield))
      have same : done = stored :=
        stringifySteps_injective (truthful_of_carries carries).contiguous contiguous
          ((upToDate active).symm.trans text)
      refine ⟨fun _ => unmixed.shows active, fun _ => ⟨record done step, written, later.contiguous,
        ?_⟩, ?_, fun succeeded => ?_⟩
      · intro other member
        refine keeps other ?_
        by_cases earlier : other ∈ done
        · exact built other (same ▸ earlier)
        · have isStep : other = step := by
            unfold record at member
            split at member
            · exact absurd member earlier
            · exact List.mem_singleton.mp ((List.mem_append.mp member).resolve_left earlier)
          exact isStep ▸ may.records step mayYield rfl
      · rcases onward with isNext | isNext
        · exact isNext ▸ trivial
        · subst isNext
          exact fun _ => (unmixed.driven active).2 _ ⟨nofun, now, rfl⟩
      · exact absurd (sameStatus ▸ succeeded) (not_succeeded_of_active active)
  | @called done call rest budgetSpent plain =>
      obtain ⟨active, _, _⟩ := held.pending
      obtain ⟨may, keeps⟩ := unmixed.afterCall now active
      obtain ⟨stored, text, contiguous, built⟩ := unmixed.built active
      have goes : Makes ⟨rows.tenant, made⟩ call (Made.after ⟨rows.tenant, made⟩ now call) := by
        refine ⟨?_, now, rfl⟩
        intro step message refuses
        exact absurd plain (refuses ▸ id)
      refine ⟨fun _ => (unmixed.shows active).onTenant may.builds now,
        fun _ => ⟨stored, (onJob_stepsDone now rows.job call).trans text, contiguous,
          fun step member => keeps step (built step member)⟩,
        fun _ => (unmixed.driven active).2 _ goes, fun succeeded => ?_⟩
      have stillActive := onJob_active now rows.job active plain
      exact absurd succeeded (not_succeeded_of_active stillActive)
  | @finished done rest budgetSpent =>
      obtain ⟨active, _, _⟩ := held.pending
      have may := (unmixed.driven active).1
      have closed : ¬ (ProvisionCall.finishSucceeded.run now rows).job.status.active := by
        rw [ProvisionCall.run, onJob_finishSucceeded now rows.job active]
        exact Bool.false_ne_true
      exact ⟨fun active => absurd active closed, fun active => absurd active closed,
        fun active => absurd active closed,
        fun _ => stable_complete release _ _ now may.builds (may.closes rfl)⟩
  | ended =>
      change Unmixed release _ (made ++ []) _
      rw [List.append_nil]
      exact unmixed.congr rfl rfl rfl trivial
  | @refused done step message rest budgetSpent =>
      obtain ⟨active, _, _⟩ := held.pending
      obtain ⟨may, keeps⟩ := unmixed.afterCall now active
      obtain ⟨stored, text, contiguous, built⟩ := unmixed.built active
      exact ⟨unmixed.shows, fun _ => ⟨stored, text, contiguous,
        fun step member => keeps step (built step member)⟩, trivial,
        fun succeeded => absurd succeeded (not_succeeded_of_active active)⟩
  | threw step message =>
      change Unmixed release _ (made ++ []) _
      rw [List.append_nil]
      exact unmixed.congr rfl rfl rfl trivial
  | yielded =>
      change Unmixed release _ (made ++ []) _
      rw [List.append_nil]
      refine unmixed.congr ?_ ?_ rfl trivial
      · exact Sweep.onRow_keeps _ ProvisionJob.status (fun _ _ => rfl) rows.job
      · exact Sweep.onRow_keeps _ ProvisionJob.stepsDone (fun _ _ => rfl) rows.job
  | @closed step message _ next onward =>
      change Unmixed release _ (made ++ []) _
      rw [List.append_nil]
      rcases onward with ⟨isNext, active⟩ | ⟨isNext, closed⟩
      · subst isNext
        have failed : ((finishJob now rows.job.id .failed (some step) (some message)).onRow
            rows.job).status = .failed :=
          congrArg ProvisionJob.status (Update.onRow_of_match rfl active)
        exact unmixed_of_failed failed failed
      · subst isNext
        have kept : (finishJob now rows.job.id .failed (some step) (some message)).onRow rows.job
            = rows.job :=
          Update.onRow_of_not fun matched => closed matched.2
        rw [kept]
        exact unmixed.congr rfl rfl rfl trivial
  | wroteStatus =>
      have failed : rows.job.status = .failed := unmixed.driven
      exact unmixed_of_failed failed failed
  | rolledBack left =>
      have failed : rows.job.status = .failed := unmixed.driven
      exact unmixed_of_failed failed trivial

/-- What a driver has under way builds from the release. -/
theorem Unmixed.underWay (unmixed : Unmixed release rows made driver) (held : Held rows driver)
    : ∀ call ∈ driver.underWay, Builds release call := by
  intro call member
  unfold Invocation.underWay at member
  split at member
  · next done head rest =>
      obtain ⟨active, _, _⟩ := held.pending
      exact List.mem_singleton.mp member ▸ (unmixed.driven active).1.builds
  · exact absurd member List.not_mem_nil

end

/-- What holds at every moment of a provision with one release. -/
structure Building.Sound (release : String) (state : Building) : Prop where
  provisioning : state.provisioning.Sound
  recorded : state.rows.job.toRelease = some release
  issued : ∀ call ∈ state.issued, Builds release call
  shown : state.rows.job.status.active → ∀ row ∈ state.shown, ShowsOnly release row
  unmixed : Unmixed release state.rows state.made state.provisioning.driver

section

variable {release : String} {state next : Building}

/-- A statement on the job that sets neither status, progress nor release keeps a provision unmixed. -/
theorem Unmixed.onJob {rows : Rows} {made : List ProvisionCall} {driver : Invocation}
    (unmixed : Unmixed release rows made driver) {update : Update ProvisionJob.id}
    (sameStatus : (rows.onJob update).job.status = rows.job.status)
    (sameText : (rows.onJob update).job.stepsDone = rows.job.stepsDone)
    : Unmixed release (rows.onJob update) made driver := by
  refine unmixed.congr sameStatus sameText rfl ?_
  cases driver with
  | working done rest => exact fun active => unmixed.driven (sameStatus ▸ active)
  | owesStatus => exact sameStatus.trans unmixed.driven
  | rollingBack => exact sameStatus.trans unmixed.driven
  | _ => trivial

/-- A driver that takes over builds from the release of the job. -/
theorem Building.Sound.takeOver (sound : state.Sound release) {answers : Answers} {seen : Tenant}
    (stepped : state.step (.takeOver answers seen) = some next)
    : next.Sound release := by
  simp only [Building.step, Option.ite_none_right_eq_some, Option.map_eq_some_iff] at stepped
  obtain ⟨⟨_, started, active, wasShown⟩, done, read, isNext⟩ := stepped
  obtain ⟨sameStatus, sameText⟩ := claimJob_keeps state.provisioning.now state.rows
  have sameRelease : (state.rows.onJob
      (claimJob state.provisioning.now state.rows.job.id jobLeaseSeconds)).job.toRelease
        = state.rows.job.toRelease :=
    Sweep.onRow_keeps _ ProvisionJob.toRelease (fun _ _ => rfl) state.rows.job
  have recorded := sameRelease.trans sound.recorded
  obtain ⟨_, recordedText, truthful⟩ := sound.provisioning.held.recorded active
  obtain ⟨stored, text, contiguous, built⟩ := sound.unmixed.built active
  have same : stored = done := by
    have reads := readProgress_stringify contiguous
    rw [← text, ← sameText] at reads
    exact Option.some.inj (reads.symm.trans read)
  subst same
  have sameRecord := stringifySteps_injective truthful.contiguous contiguous
    (recordedText.symm.trans text)
  subst sameRecord isNext
  refine ⟨⟨.inl ⟨sameStatus ▸ active,
    sound.provisioning.held.recorded.congr sameStatus sameText rfl, ?_⟩,
    fun _ => sameText.trans text, fun notStarted => ?_⟩, recorded, sound.issued,
    fun active => sound.shown (sameStatus ▸ active), ?_⟩
  · exact carries_continueProvisionJob truthful answers _ _ seen
  · exact absurd (started.symm.trans notStarted) nofun
  · refine sound.unmixed.congr sameStatus sameText rfl fun _ => ?_
    exact carries_ofContinuation recorded (sound.shown active seen wasShown) contiguous built
      answers _

/-- A row that is shown next to others. -/
theorem shown_append {shown : List Tenant} {row : Tenant}
    (others : ∀ other ∈ shown, ShowsOnly release other) (shows : ShowsOnly release row)
    : ∀ other ∈ shown ++ [row], ShowsOnly release other := by
  intro other member
  rcases List.mem_append.mp member with earlier | isRow
  · exact others other earlier
  · exact List.mem_singleton.mp isRow ▸ shows

/-- An action that issues nothing, and sets neither status, progress nor release. -/
theorem Building.Sound.quiet (sound : state.Sound release) {provisioning : Provisioning}
    (own : provisioning.Sound) (sameStatus : provisioning.rows.job.status = state.rows.job.status)
    (sameRelease : provisioning.rows.job.toRelease = state.rows.job.toRelease)
    (unmixed : Unmixed release provisioning.rows state.made provisioning.driver)
    : Building.Sound release
        { provisioning := provisioning
          made := state.made ++ []
          issued := state.issued ++ []
          shown := state.shown ++ [provisioning.rows.tenant] } where
  provisioning := own
  recorded := sameRelease.trans sound.recorded
  issued := (List.append_nil state.issued).symm ▸ sound.issued
  shown active := shown_append (sound.shown (sameStatus ▸ active)) (unmixed.shows active)
  unmixed := (List.append_nil state.made).symm ▸ unmixed

/-- An action keeps a provision to one release. -/
theorem Building.Sound.step (sound : state.Sound release) {action : BuildingAction}
    (pinned : Pinned state action) (stepped : state.step action = some next)
    : next.Sound release := by
  cases action with
  | takeOver answers seen => exact sound.takeOver stepped
  | own action =>
      cases action with
      | resume answers => exact nomatch stepped
      | tick seconds =>
          have moved : state.provisioning.step (.tick seconds) = some _ := rfl
          have own := sound.provisioning.step moved
          cases stepped
          exact sound.quiet own rfl rfl sound.unmixed
      | start answers =>
          obtain ⟨provisioning, moved, isNext⟩ := Option.map_eq_some_iff.mp stepped
          have own := sound.provisioning.step moved
          simp only [Provisioning.step, Option.ite_none_right_eq_some, Option.some.injEq] at moved
          obtain ⟨_, isStarted⟩ := moved
          subst isStarted
          have building : answers.release.val = release :=
            Option.some.inj (pinned.symm.trans sound.recorded)
          have driven : Carries Makes (MayMake release) (fun _ => True)
              (runProvisionJob answers state.rows.tenant none) ⟨state.rows.tenant, state.made⟩ :=
            carries_ofRelease answers state.rows.tenant none building
              fun _ member => absurd member List.not_mem_nil
          exact isNext ▸ sound.quiet own rfl rfl (sound.unmixed.congr rfl rfl rfl fun _ => driven)
      | move move =>
          obtain ⟨provisioning, moved, isNext⟩ := Option.map_eq_some_iff.mp stepped
          have own := sound.provisioning.step moved
          simp only [Provisioning.step, Option.map_eq_some_iff] at moved
          obtain ⟨⟨rows, driver⟩, moves, isMoved⟩ := moved
          have cases := Invocation.step_cases moves
          obtain ⟨wasActive, sameRelease⟩ := sound.provisioning.held.keeps_job cases
          have unmixed := sound.unmixed.step sound.provisioning.held sound.provisioning.upToDate cases
          subst isMoved isNext
          refine ⟨own, sameRelease.trans sound.recorded, ?_, fun active => ?_, unmixed⟩
          · intro call member
            rcases List.mem_append.mp member with earlier | underWay
            · exact sound.issued call earlier
            · exact sound.unmixed.underWay sound.provisioning.held call underWay
          · exact shown_append (sound.shown (wasActive active)) (unmixed.shows active)
      | beat =>
          have moved : state.provisioning.step .beat = some _ := rfl
          have own := sound.provisioning.step moved
          cases stepped
          obtain ⟨sameStatus, sameText⟩ := renewJobLease_keeps state.provisioning.now state.rows
          have sameRelease := Sweep.onRow_keeps
            (renewJobLease state.provisioning.now state.rows.job.id jobLeaseSeconds).toSweep
            ProvisionJob.toRelease (fun _ _ => rfl) state.rows.job
          exact sound.quiet own sameStatus sameRelease
            (sound.unmixed.onJob sameStatus sameText)
      | die =>
          have moved : state.provisioning.step .die = some _ := rfl
          have own := sound.provisioning.step moved
          cases stepped
          have still := sound.quiet own rfl rfl (sound.unmixed.congr rfl rfl rfl trivial)
          refine { still with issued := ?_ }
          intro call member
          rcases List.mem_append.mp member with earlier | underWay
          · exact sound.issued call earlier
          · exact sound.unmixed.underWay sound.provisioning.held call underWay

end

/-- Whenever a provision has succeeded, it is of the one release that its job records: its schema,
its studio, its modules and both columns, whatever the plane came to be pinned to on the way.
Witness: induction on the run, with the programs of the drivers carrying the release.
-/
theorem oneRelease {now : Nat} {id : String} {tenant : Tenant} {runpodMode : Option String}
    {release : String} {actions : List BuildingAction} {state : Building}
    (reached
      : exec Building.step (.requested now id tenant runpodMode release) actions = some state)
    (pinned
      : Throughout Building.step Pinned (.requested now id tenant runpodMode release) actions)
    (succeeded : state.rows.job.status = .succeeded)
    : OneRelease release state := by
  have blank : ShowsOnly release (blankTenant tenant) := by
    intro other named
    exact absurd named nofun
  have start : (Building.requested now id tenant runpodMode release).Sound release := by
    refine ⟨⟨fun _ => ⟨[], rfl, Truthful.nil _⟩, trivial, fun _ => ⟨rfl, rfl, rfl⟩⟩, rfl,
      fun _ member => absurd member List.not_mem_nil, fun _ row member => ?_,
      ⟨fun _ => blank, fun _ => ⟨[], rfl, rfl, fun _ none => absurd none List.not_mem_nil⟩, trivial,
        nofun⟩⟩
    exact List.mem_singleton.mp member ▸ blank
  have sound := exec_invariant (fun state action next sound pinned stepped =>
    Building.Sound.step sound pinned stepped) start pinned reached
  have complete := sound.unmixed.succeeded succeeded
  exact ⟨complete.built .d1Migrate, (complete.built .wfpUpload).1, complete.built .modulesUpload,
    sound.issued, (complete.built .wfpUpload).2, complete.modulesRelease⟩

/-- A pool that covers the plan in few words. -/
def barePool : SharedRunPodPool where
  endpoints :=
    [{ key := "backend", label := none, id := "r", name := none, endpointVar := "R" },
      { key := "wan-train", label := none, id := "t", name := none, endpointVar := "T" }]
  covers := rfl

def pinnedAnswers (release : { release : String // release ≠ "" }) : Answers :=
  { pooledAnswers with sharedPool := some barePool, release := release }

/-- The tenant row once its studio is uploaded from the release that the job records. -/
def uploadedTenant : Tenant :=
  { blankTenant requestedTenant with
    status := .provisioning
    d1DatabaseId := some "db_1"
    r2BucketName := some "vivijure-tenant-acme"
    r2TokenId := some "tok_1"
    runpodMode := "shared"
    endpointsJson := some (stringifyEndpoints barePool.endpoints)
    scriptName := some "tenant-acme-studio"
    studioRelease := some "v1"
    studioTokenEnc := some "enc_1" }

/-- The plane moves on to another release behind each driver: the first one dies, the second one
yields behind the upload, and the third one installs the modules.
-/
def advancingRun : List BuildingAction :=
  .own (.start (pinnedAnswers ⟨"v1", v1_ne_empty⟩)) :: (calls 4).map .own
  ++ [.own .die, .own (.tick 61),
    .takeOver (pinnedAnswers ⟨"v2", by decide⟩) (blankTenant requestedTenant)]
  ++ (calls 20).map .own
  ++ [.own (.move (.call true)), .own (.move (.call false)),
    .takeOver (pinnedAnswers ⟨"v3", by decide⟩) uploadedTenant]
  ++ (calls 9).map .own

theorem advancingRun_oneRelease
    : ∃ state,
        exec Building.step (.requested 0 "job_1" requestedTenant (some "shared") "v1") advancingRun
          = some state
        ∧ state.rows.job.status = .succeeded ∧ OneRelease "v1" state := by
  have ends
      : (exec Building.step (.requested 0 "job_1" requestedTenant (some "shared") "v1")
          advancingRun).map (fun state => state.rows.job.status)
        = some .succeeded := by
    decide +kernel
  have laterStartsNone : ∀ action ∈ advancingRun.tail, ∀ state, Pinned state action := by
    simp [advancingRun, calls, Pinned]
  obtain ⟨state, reached, succeeded⟩ := Option.map_eq_some_iff.mp ends
  refine ⟨state, reached, succeeded, oneRelease reached (fun next _ => ⟨rfl, ?_⟩) succeeded⟩
  exact throughout_of_mem laterStartsNone next

end ControlPlane.Provision
