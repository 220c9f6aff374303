import ControlPlane.Modules.Upgrade

/-! What a run of an upgrade says of itself. The release column stands for uploads, installs and a
verification that all got through; and a run that got through says so, unless the clock it reads
behind its last step tells it that its budget is spent.
-/

namespace ControlPlane.Modules

open ControlPlane.Library
open ControlPlane.Provision (ProvisionStep stringifySteps)
open ControlPlane.Store

/-- All module scripts are of one release, and the last passes over them got through. -/
structure Uniform (release : String) (scripts : ModuleScripts) : Prop where
  uploaded : ∀ spec ∈ TENANT_MODULE_CATALOG, scripts.uploadedFrom spec.module = some release
  installed : ∀ spec ∈ TENANT_MODULE_CATALOG, scripts.installed spec.module = true
  verified : scripts.verified = true

/-- The three steps of a run. -/
def moduleSteps : List ProvisionStep := [.modulesUpload, .modulesInstall, .verify]

/-- What the column, the job and the row of a tenant say is what was done. A step is done once its
last call has come back, and the job of a run is closed when the run has ended.
-/
structure TruthfulUpgrade (before state : ModuleUpgrades) : Prop where
  column : ∀ release, state.tenant.modulesRelease = some release → Uniform release state.scripts
  outcome
    : ∀ job run, state.current = some (job, run) → run.stage = .ended
        → (∀ step ∈ moduleSteps, step ∈ run.done)
        → job.status = .succeeded ∧ state.tenant.modulesRelease = some run.release
  failed
    : ∀ job run, state.current = some (job, run) → job.status = .failed
        → ∃ step ∈ moduleSteps, step ∉ run.done
  row
    : { state.tenant with modulesRelease := none } = { before.tenant with modulesRelease := none }

/-- The run whose next call marks its last step. -/
def ModuleUpgrades.verified (state : ModuleUpgrades) : Option UpgradeRun :=
  state.current.bind fun current =>
    match current.2.stage with
    | .calling (.mark .verify :: _) => some current.2
    | _ => none

/-- The condition on an action: the clock that a run reads behind its last step is within its budget.
-/
def InBudget (state : ModuleUpgrades) : ModuleUpgradeAction → Prop
  | .call clock => ∀ run ∈ state.verified, clock - run.startedAt < run.budgetMs
  | _ => True

instance (state : ModuleUpgrades) (action : ModuleUpgradeAction)
    : Decidable (InBudget state action) :=
  match action with
  | .call clock =>
      inferInstanceAs
        (Decidable (∀ run ∈ state.verified, clock - run.startedAt < run.budgetMs))
  | .tick _ | .start .. | .throws .. | .die _ | .beat => inferInstanceAs (Decidable True)

-----------------------------------------------------------------------------------------
-- The program of a run
-----------------------------------------------------------------------------------------

/-- Where a run stands: the column, the scripts, and the steps done. -/
structure UpgradeStanding where
  column : Option String
  scripts : ModuleScripts
  done : List ProvisionStep

/-- Where a call takes a run. -/
def UpgradeCall.takes (standing : UpgradeStanding) : UpgradeCall → UpgradeStanding
  | .setTenantModulesRelease release => { standing with column := release }
  | .mark step => { standing with done := standing.done ++ [step] }
  | call => { standing with scripts := call.landsOn standing.scripts }

/-- A refusal takes a run nowhere. -/
def Takes (standing : UpgradeStanding) (call : UpgradeCall) (after : UpgradeStanding) : Prop :=
  (∀ step message, call ≠ .refuse step message) ∧ after = call.takes standing

/-- Whether a call may be made where a run stands. Before the last step, nothing is claimed. -/
def MayCall (release : String) (standing : UpgradeStanding) : UpgradeCall → Prop
  | .setJobRunning | .setTenantModulesRelease none => True
  | .setTenantModulesRelease (some recorded) =>
      recorded = release ∧ Uniform release standing.scripts
  | .finishSucceeded => standing.column = some release
  | .refuse _ _ => .verify ∉ standing.done
  | _ => standing.column = none ∧ .verify ∉ standing.done

section

variable {release : String} {standing : UpgradeStanding} {call : UpgradeCall}
  {rest : List UpgradeCall} {Q : UpgradeStanding → Prop} {done : List ProvisionStep}

/-- The rule for one call. -/
theorem carries_upgradeCall (may : MayCall release standing call)
    (onward : Carries Takes (MayCall release) Q rest (call.takes standing))
    : Carries Takes (MayCall release) Q (call :: rest) standing := by
  refine .cons may fun after takes => ?_
  rw [takes.2]
  exact onward

/-- A refusal before the last step. -/
theorem carries_upgradeRefusal (notVerified : .verify ∉ standing.done) (step : ProvisionStep)
    (message : String)
    : Carries Takes (MayCall release) Q [.refuse step message] standing :=
  .cons notVerified fun _ takes => absurd rfl (takes.1 step message)

/-- Nothing is recorded, with some steps done. -/
structure Cleared (done : List ProvisionStep) (standing : UpgradeStanding) : Prop where
  column : standing.column = none
  done : standing.done = done

/-- Some modules are uploaded from the release. -/
def UploadedAll (release : String) (specs : List TenantModuleSpec) (standing : UpgradeStanding)
    : Prop :=
  ∀ spec ∈ specs, standing.scripts.uploadedFrom spec.module = some release

/-- Some modules are installed. -/
def InstalledAll (specs : List TenantModuleSpec) (standing : UpgradeStanding) : Prop :=
  ∀ spec ∈ specs, standing.scripts.installed spec.module = true

/-- A prefetched bundle is found under its own module. -/
theorem bundleFor_module {answers : UpgradeAnswers} {context : ModuleUpgradeContext}
    {module : String} {fetched : FetchedBundle context.release}
    (found : bundleFor answers context module = .ok fetched)
    : fetched.module = module := by
  unfold bundleFor at found
  split at found
  · next prefetched hit =>
      rw [← Except.ok.inj found]
      have hits := List.find?_some hit
      exact of_decide_eq_true hits
  · cases inline : answers.fetchBundle context.release module with
    | error message =>
        rw [inline] at found
        exact nomatch found
    | ok bundle =>
        rw [inline] at found
        exact (congrArg FetchedBundle.module (Except.ok.inj found)).symm

/-- An upload adds its module to those of the release. -/
theorem UploadedAll.upload {specs : List TenantModuleSpec} {spec : TenantModuleSpec}
    (sofar : UploadedAll release specs standing) {fetched : FetchedBundle release}
    (own : fetched.module = spec.module) (scriptName : String)
    (bindings : List Workers.WorkerBinding)
    : UploadedAll release (specs ++ [spec])
        (UpgradeCall.takes standing (.uploadUserWorker scriptName release fetched bindings)) := by
  intro other member
  change Function.update standing.scripts.uploadedFrom fetched.module (some release) other.module
    = some release
  by_cases same : other.module = fetched.module
  · rw [same, Function.update_self]
  · rw [Function.update_of_ne same]
    rcases List.mem_append.mp member with earlier | isSpec
    · exact sofar other earlier
    · rw [List.mem_singleton.mp isSpec] at same
      exact absurd own.symm same

/-- An upload records nothing. -/
theorem Cleared.upload (cleared : Cleared done standing) (scriptName : String)
    (fetched : FetchedBundle release) (bindings : List Workers.WorkerBinding)
    : Cleared done
        (UpgradeCall.takes standing (.uploadUserWorker scriptName release fetched bindings)) :=
  ⟨cleared.column, cleared.done⟩

/-- The uploads bring one module after another to the release, by induction on the modules to come. -/
theorem carries_uploadCalls (answers : UpgradeAnswers) (context : ModuleUpgradeContext)
    (tenantId telemetryD1Id : String) (tenant : ModuleTenant) (earlier specs : List TenantModuleSpec)
    (cleared : Cleared [] standing)
    (sofar : UploadedAll context.release earlier standing)
    : Carries Takes (MayCall context.release)
        (fun standing =>
          Cleared [] standing ∧ UploadedAll context.release (earlier ++ specs) standing)
        (uploadCalls answers context tenantId telemetryD1Id tenant specs) standing := by
  induction specs generalizing earlier standing with
  | nil => exact ⟨cleared, (List.append_nil earlier).symm ▸ sofar⟩
  | cons spec rest ih =>
      have notVerified : ProvisionStep.verify ∉ standing.done := by
        rw [cleared.done]
        exact List.not_mem_nil
      unfold uploadCalls
      simp only
      split
      · exact carries_upgradeRefusal notVerified _ _
      · exact carries_upgradeRefusal notVerified _ _
      · next bindings fetched _ found =>
          refine carries_upgradeCall ⟨cleared.column, notVerified⟩ ?_
          have onward := ih (earlier ++ [spec])
            (cleared.upload (tenantModuleScriptName tenantId spec.module) fetched bindings)
            (sofar.upload (bundleFor_module found) _ bindings)
          rwa [List.append_assoc, List.singleton_append] at onward

/-- The upload of the catalog brings all of it to the release. -/
theorem carries_uploadCatalog (answers : UpgradeAnswers) (context : ModuleUpgradeContext)
    (tenantId : String) (tenant : ModuleTenant) (cleared : Cleared [] standing)
    : Carries Takes (MayCall context.release)
        (fun standing =>
          Cleared [] standing ∧ UploadedAll context.release TENANT_MODULE_CATALOG standing)
        (uploadCatalog answers context tenantId tenant) standing := by
  have notVerified : ProvisionStep.verify ∉ standing.done := by
    rw [cleared.done]
    exact List.not_mem_nil
  unfold uploadCatalog
  split
  · refine carries_upgradeCall ⟨cleared.column, notVerified⟩ ?_
    exact carries_uploadCalls answers context tenantId _ tenant [] TENANT_MODULE_CATALOG
      ⟨cleared.column, cleared.done⟩ fun _ member => absurd member List.not_mem_nil
  · exact carries_upgradeRefusal notVerified _ _

/-- An installation records nothing. -/
theorem Cleared.install (cleared : Cleared done standing) (script module scriptName : String)
    : Cleared done (UpgradeCall.takes standing (.installModule script module scriptName)) :=
  ⟨cleared.column, cleared.done⟩

/-- The studio installs one module after another, by induction on the modules to come. -/
theorem carries_installs (script tenantId : String) (earlier specs : List TenantModuleSpec)
    (cleared : Cleared [.modulesUpload] standing)
    (uploaded : UploadedAll release TENANT_MODULE_CATALOG standing)
    (sofar : InstalledAll earlier standing)
    : Carries Takes (MayCall release)
        (fun standing =>
          Cleared [.modulesUpload] standing
          ∧ UploadedAll release TENANT_MODULE_CATALOG standing
          ∧ InstalledAll (earlier ++ specs) standing)
        (specs.map fun spec =>
          .installModule script spec.module (tenantModuleScriptName tenantId spec.module))
        standing := by
  induction specs generalizing earlier standing with
  | nil => exact ⟨cleared, uploaded, (List.append_nil earlier).symm ▸ sofar⟩
  | cons spec rest ih =>
      have notVerified : ProvisionStep.verify ∉ standing.done := by
        rw [cleared.done]
        simp
      refine carries_upgradeCall ⟨cleared.column, notVerified⟩ ?_
      have installed : InstalledAll (earlier ++ [spec])
          (UpgradeCall.takes standing (.installModule script spec.module
            (tenantModuleScriptName tenantId spec.module))) := by
        intro other member
        change Function.update standing.scripts.installed spec.module true other.module = true
        by_cases same : other.module = spec.module
        · rw [same, Function.update_self]
        · rw [Function.update_of_ne same]
          rcases List.mem_append.mp member with before | isSpec
          · exact sofar other before
          · rw [List.mem_singleton.mp isSpec] at same
            exact absurd rfl same
      have onward := ih (earlier ++ [spec]) (cleared.install script spec.module _) uploaded installed
      rwa [List.append_assoc, List.singleton_append] at onward

/-- The gateway token touches no script. -/
theorem carries_aigTokenCalls (answers : UpgradeAnswers) (slug : String)
    (cleared : Cleared [] standing)
    : Carries Takes (MayCall release) (Cleared []) (aigTokenCalls answers slug) standing := by
  have notVerified : ProvisionStep.verify ∉ standing.done := by
    rw [cleared.done]
    exact List.not_mem_nil
  unfold aigTokenCalls
  split
  · refine carries_upgradeCall ⟨cleared.column, notVerified⟩ ?_
    refine carries_upgradeCall ⟨cleared.column, notVerified⟩ ?_
    exact ⟨cleared.column, cleared.done⟩
  · exact cleared

/-- A step that is done is written behind those before it. -/
theorem Cleared.mark (cleared : Cleared done standing) (step : ProvisionStep)
    : Cleared (done ++ [step]) (UpgradeCall.takes standing (.mark step)) :=
  ⟨cleared.column, congrArg (· ++ [step]) cleared.done⟩

/-- With all modules uploaded, the rest installs and verifies them, and only then records them. -/
theorem carries_fromInstall (script tenantId : String)
    (cleared : Cleared [.modulesUpload] standing)
    (uploaded : UploadedAll release TENANT_MODULE_CATALOG standing)
    : Carries Takes (MayCall release) (fun _ => True)
        (installCalls script tenantId
          ++ [.mark .modulesInstall, .verifyStudio script, .mark .verify,
            .setTenantModulesRelease (some release), .finishSucceeded])
        standing := by
  have notVerified : ∀ done : List ProvisionStep, done = [.modulesUpload] →
      ProvisionStep.verify ∉ done := by
    intro done h
    obtain rfl := h
    simp
  refine carries_upgradeCall ⟨cleared.column, notVerified _ cleared.done⟩ ?_
  have began : Cleared [.modulesUpload]
      (UpgradeCall.takes standing (.awaitStudioTokenLive script)) :=
    ⟨cleared.column, cleared.done⟩
  have still : UploadedAll release TENANT_MODULE_CATALOG
      (UpgradeCall.takes standing (.awaitStudioTokenLive script)) :=
    uploaded
  have passed := carries_installs script tenantId [] TENANT_MODULE_CATALOG began still
    fun _ member => absurd member List.not_mem_nil
  refine passed.append fun middle ⟨cleared, uploaded, installed⟩ => ?_
  have uniform : Uniform release (UpgradeCall.landsOn middle.scripts (.verifyStudio script)) :=
    ⟨uploaded, installed, rfl⟩
  refine carries_upgradeCall ⟨cleared.column, notVerified _ cleared.done⟩ ?_
  have twoDone := cleared.mark .modulesInstall
  have stillNot : ProvisionStep.verify
      ∉ (UpgradeCall.takes middle (.mark .modulesInstall)).done := by
    rw [twoDone.done]
    simp
  refine carries_upgradeCall ⟨twoDone.column, stillNot⟩ ?_
  refine carries_upgradeCall ⟨twoDone.column, stillNot⟩ ?_
  refine carries_upgradeCall ⟨rfl, uniform⟩ ?_
  exact carries_upgradeCall rfl trivial

/-- A run makes each of its calls where it may. -/
theorem carries_upgradeTenantModules (answers : UpgradeAnswers) (context : ModuleUpgradeContext)
    (tenant : Tenant) (fresh : standing.done = [])
    : Carries Takes (MayCall context.release) (fun _ => True)
        (upgradeTenantModules answers context tenant) standing := by
  unfold upgradeTenantModules runModuleSteps
  simp only [List.append_assoc]
  refine carries_upgradeCall trivial (carries_upgradeCall trivial ?_)
  have cleared : Cleared []
      (UpgradeCall.takes (UpgradeCall.takes standing .setJobRunning)
        (.setTenantModulesRelease none)) := ⟨rfl, fresh⟩
  refine (carries_aigTokenCalls answers tenant.slug cleared).append fun token cleared => ?_
  refine (carries_uploadCatalog answers context tenant.id _ cleared).append
    fun filled ⟨cleared, uploaded⟩ => ?_
  have notVerified : ProvisionStep.verify ∉ filled.done := by
    rw [cleared.done]
    exact List.not_mem_nil
  refine carries_upgradeCall ⟨cleared.column, notVerified⟩ ?_
  exact carries_fromInstall context.script tenant.id (cleared.mark .modulesUpload) uploaded

end

-----------------------------------------------------------------------------------------
-- What the steps of a run keep
-----------------------------------------------------------------------------------------

/-- Where a run stands in a state. -/
def ModuleUpgrades.standing (state : ModuleUpgrades) (run : UpgradeRun) : UpgradeStanding where
  column := state.tenant.modulesRelease
  scripts := state.scripts
  done := run.done

/-- What is true of a run at the stage it is at. -/
def StageTruth (state : ModuleUpgrades) (job : ProvisionJob) (run : UpgradeRun)
    : UpgradeStage → Prop
  | .calling rest =>
      job.status.active = true
      ∧ Carries Takes (MayCall run.release) (fun _ => True) rest (state.standing run)
  | .failing _ _ => job.status.active = true ∧ .verify ∉ run.done
  | .ended =>
      (job.status = .succeeded ∧ state.tenant.modulesRelease = some run.release)
      ∨ (job.status = .failed ∧ .verify ∉ run.done)
  | .died => job.status.active = true

/-- What every step of every run keeps. -/
structure Upgrading (before state : ModuleUpgrades) : Prop where
  column : ∀ release, state.tenant.modulesRelease = some release → Uniform release state.scripts
  stage : ∀ job run, state.current = some (job, run) → StageTruth state job run run.stage
  row
    : { state.tenant with modulesRelease := none } = { before.tenant with modulesRelease := none }

section

variable {before state next : ModuleUpgrades} {job : ProvisionJob} {run : UpgradeRun}

/-- What is true of each stage is what a truthful upgrade says. -/
theorem Upgrading.truthful (upgrading : Upgrading before state) : TruthfulUpgrade before state where
  column := upgrading.column
  row := upgrading.row
  outcome job run found ended all := by
    have stage := upgrading.stage job run found
    rw [ended] at stage
    rcases stage with succeeded | ⟨_, notVerified⟩
    · exact succeeded
    · exact absurd (all .verify (by simp [moduleSteps])) notVerified
  failed job run found failed := by
    have stage := upgrading.stage job run found
    have closed : job.status.active ≠ true := by
      rw [failed]
      exact Bool.false_ne_true
    cases at_ : run.stage with
    | calling rest =>
        rw [at_] at stage
        exact absurd stage.1 closed
    | failing step message =>
        rw [at_] at stage
        exact absurd stage.1 closed
    | ended =>
        rw [at_] at stage
        rcases stage with ⟨succeeded, _⟩ | ⟨_, notVerified⟩
        · rw [failed] at succeeded
          exact nomatch succeeded
        · exact ⟨.verify, by simp [moduleSteps], notVerified⟩
    | died =>
        rw [at_] at stage
        exact absurd stage closed

/-- A statement that leaves the status of the jobs it sets active. -/
theorem active_onRow {update : Update ProvisionJob.id} (active : job.status.active = true)
    (keeps : (update.set job).status.active = true)
    : (update.onRow job).status.active = true := by
  rcases update.onRow_cases job with same | ⟨_, set⟩
  · rw [same]
    exact active
  · rw [set]
    exact keeps

/-- The job of a run that has not ended is closed with the outcome it is given. -/
theorem finishJob_onRow (active : job.status.active = true) (now : Nat) (outcome : JobOutcome)
    (errorStep errorMessage : Option String)
    : ((finishJob now job.id outcome errorStep errorMessage).onRow job).status = outcome.status := by
  rw [Update.onRow_of_match rfl active]
  rfl

/-- An external call may be made while nothing is claimed. -/
theorem MayCall.unclaimed {release : String} {standing : UpgradeStanding} {call : UpgradeCall}
    (may : MayCall release standing call) (external : call.external = true)
    : standing.column = none ∧ .verify ∉ standing.done := by
  cases call with
  | mintAigToken name => exact may
  | createDispatchNamespace => exact may
  | uploadUserWorker scriptName release fetched bindings => exact may
  | awaitStudioTokenLive script => exact may
  | installModule script module scriptName => exact may
  | verifyStudio script => exact may
  | _ => exact nomatch external

/-- Only external calls leave traces where they break. -/
theorem breaksOn_of_internal {call : UpgradeCall} (internal : call.external = false)
    (landed : Bool) (scripts : ModuleScripts)
    : call.breaksOn landed scripts = scripts := by
  cases call with
  | uploadUserWorker scriptName release fetched bindings => exact nomatch internal
  | awaitStudioTokenLive script => exact nomatch internal
  | installModule script module scriptName => exact nomatch internal
  | verifyStudio script => exact nomatch internal
  | _ => rfl

/-- A state with one run, from what is true of its stage. -/
theorem upgrading_of
    (column : ∀ release, next.tenant.modulesRelease = some release → Uniform release next.scripts)
    (row
      : { next.tenant with modulesRelease := none } = { before.tenant with modulesRelease := none })
    (found : next.current = some (job, run)) (stage : StageTruth next job run run.stage)
    : Upgrading before next where
  column := column
  row := row
  stage other otherRun current := by
    obtain ⟨rfl, rfl⟩ := Prod.mk.inj (Option.some.inj (found.symm.trans current))
    exact stage

/-- A call that comes back takes the run on, or ends it as it should. The cases are those of the call
model.
-/
theorem Upgrading.onCall (upgrading : Upgrading before state)
    (found : state.current = some (job, run)) {call : UpgradeCall} {rest : List UpgradeCall}
    (stage : run.stage = .calling (call :: rest)) (clock : Int)
    (within : call = .mark .verify → clock - run.startedAt < run.budgetMs)
    : Upgrading before (state.calls job run clock rest call) := by
  have truth := upgrading.stage job run found
  rw [stage] at truth
  obtain ⟨active, may, carried⟩ := truth
  cases call with
  | setJobRunning =>
      refine upgrading_of upgrading.column upgrading.row rfl ⟨active_onRow active rfl, ?_⟩
      exact carried _ ⟨fun _ _ => nofun, rfl⟩
  | setTenantModulesRelease release =>
      have written : (state.calls job run clock rest (.setTenantModulesRelease release)).tenant
          = { state.tenant with modulesRelease := release } :=
        setTenant_onRow _ _ _
      refine upgrading_of ?_ ?_ rfl ⟨active, ?_⟩
      · rw [written]
        intro recorded h
        obtain rfl := h
        obtain ⟨own, uniform⟩ := may
        rw [own]
        exact uniform
      · rw [written]
        exact upgrading.row
      · have onward := carried _ ⟨fun _ _ => nofun, rfl⟩
        rw [ModuleUpgrades.standing, written]
        exact onward
  | mark step =>
      obtain ⟨unclaimed, notVerified⟩ := may
      have progressed : ∀ done : List ProvisionStep,
          ((updateJobProgress state.now job.id step.text (stringifySteps done)).onRow
            job).status.active = true :=
        fun done => active_onRow active active
      have onward := carried _ ⟨fun _ _ => nofun, rfl⟩
      refine upgrading_of upgrading.column upgrading.row rfl ?_
      by_cases spent : run.budgetMs ≤ clock - run.startedAt
      · rw [if_pos spent]
        refine ⟨progressed _, fun member => ?_⟩
        rcases List.mem_append.mp member with earlier | isStep
        · exact notVerified earlier
        · have verify : step = .verify := (List.mem_singleton.mp isStep).symm
          have inTime := within (by rw [verify])
          omega
      · rw [if_neg spent]
        exact ⟨progressed _, onward⟩
  | finishSucceeded =>
      refine upgrading_of upgrading.column upgrading.row rfl (.inl ⟨?_, may⟩)
      exact finishJob_onRow active _ _ _ _
  | refuse step message =>
      exact upgrading_of upgrading.column upgrading.row rfl ⟨active, may⟩
  | _ =>
      have unclaimed : state.tenant.modulesRelease = none := may.1
      refine upgrading_of (fun release claimed => ?_) upgrading.row rfl ⟨active, ?_⟩
      · exact nomatch unclaimed.symm.trans claimed
      · exact carried _ ⟨fun _ _ => nofun, rfl⟩

/-- A run that is to make a call next is calling. -/
theorem UpgradeRun.stage_of_next {call : UpgradeCall} {rest : List UpgradeCall}
    (to_make : run.next = some (call, rest))
    : run.stage = .calling (call :: rest) := by
  unfold UpgradeRun.next at to_make
  split at to_make
  · next first later stage =>
      obtain ⟨rfl, rfl⟩ := Prod.mk.inj (Option.some.inj to_make)
      exact stage
  · exact nomatch to_make

/-- Where a call breaks, nothing has been claimed of the scripts it touches. -/
theorem Upgrading.column_of_break (upgrading : Upgrading before state)
    (found : state.current = some (job, run)) {call : UpgradeCall} {rest : List UpgradeCall}
    (stage : run.stage = .calling (call :: rest)) (landed : Bool) (release : String)
    (claimed : state.tenant.modulesRelease = some release)
    : Uniform release (call.breaksOn landed state.scripts) := by
  have truth := upgrading.stage job run found
  rw [stage] at truth
  cases external : call.external with
  | true =>
      have unclaimed : state.tenant.modulesRelease = none :=
        (truth.2.1.unclaimed external).1
      exact nomatch unclaimed.symm.trans claimed
  | false =>
      rw [breaksOn_of_internal external]
      exact upgrading.column release claimed

/-- The job of a run that is not over is open. -/
theorem StageTruth.active (truth : StageTruth state job run run.stage) (working : run.over = false)
    : job.status.active = true := by
  unfold UpgradeRun.over at working
  cases stage : run.stage with
  | calling rest =>
      rw [stage] at truth
      exact truth.1
  | failing step message =>
      rw [stage] at truth
      exact truth.1
  | ended =>
      rw [stage] at working
      exact nomatch working
  | died =>
      rw [stage] at working
      exact nomatch working

/-- A heartbeat changes nothing that is said of a run. -/
theorem StageTruth.beat (truth : StageTruth state job run run.stage) (now : Nat)
    (after : state.scripts = next.scripts ∧ state.tenant = next.tenant)
    : StageTruth next ((renewJobLease now job.id jobLeaseSeconds).onRow job) run run.stage := by
  have sameStanding : next.standing run = state.standing run := by
    unfold ModuleUpgrades.standing
    rw [after.1, after.2]
  have sameStatus : ((renewJobLease now job.id jobLeaseSeconds).onRow job).status = job.status :=
    (renewJobLease now job.id jobLeaseSeconds).toSweep.onRow_keeps ProvisionJob.status
      (fun _ _ => rfl) job
  cases stage : run.stage with
  | calling rest =>
      rw [stage] at truth
      rw [StageTruth, sameStatus, sameStanding]
      exact truth
  | failing step message =>
      rw [stage] at truth
      rw [StageTruth, sameStatus]
      exact truth
  | ended =>
      rw [stage] at truth
      rw [StageTruth, sameStatus, ← after.2]
      exact truth
  | died =>
      rw [stage] at truth
      rw [StageTruth, sameStatus]
      exact truth

/-- What is said of a run is kept by every step within the budget. The cases are those of the step.
-/
theorem step_upgrading {action : ModuleUpgradeAction} (upgrading : Upgrading before state)
    (within : InBudget state action) (taken : state.step action = some next)
    : Upgrading before next := by
  cases action with
  | tick seconds =>
      cases taken
      exact ⟨upgrading.column, upgrading.stage, upgrading.row⟩
  | start jobId answers context seen startedAt budgetMs =>
      simp only [ModuleUpgrades.step] at taken
      split at taken
      · cases taken
        refine upgrading_of upgrading.column upgrading.row rfl ⟨rfl, ?_⟩
        exact carries_upgradeTenantModules answers context seen rfl
      · exact nomatch taken
  | call clock =>
      simp only [ModuleUpgrades.step] at taken
      split at taken
      · exact nomatch taken
      · next job run found =>
          split at taken
          · next call rest stage =>
              cases taken
              refine upgrading.onCall found stage clock fun verify => ?_
              subst verify
              refine within run ?_
              simp [ModuleUpgrades.verified, found, stage]
          · next step message stage =>
              cases taken
              have truth := upgrading.stage job run found
              rw [stage] at truth
              refine upgrading_of upgrading.column upgrading.row rfl (.inr ⟨?_, truth.2⟩)
              exact finishJob_onRow truth.1 _ _ _ _
          · exact nomatch taken
  | throws named message landed =>
      simp only [ModuleUpgrades.step] at taken
      split at taken
      · exact nomatch taken
      · next job run found =>
          split at taken
          · exact nomatch taken
          · next call rest to_make =>
              have stage := UpgradeRun.stage_of_next to_make
              have truth := upgrading.stage job run found
              rw [stage] at truth
              split at taken
              · next external =>
                  cases taken
                  refine upgrading_of (upgrading.column_of_break found stage landed) upgrading.row
                    rfl ⟨truth.1, ?_⟩
                  exact (truth.2.1.unclaimed external).2
              · exact nomatch taken
  | die landed =>
      simp only [ModuleUpgrades.step] at taken
      split at taken
      · exact nomatch taken
      · next job run found =>
          split at taken
          · exact nomatch taken
          · next working =>
              cases taken
              have open_ := (upgrading.stage job run found).active
                (Bool.eq_false_iff.mpr working)
              refine upgrading_of (fun release claimed => ?_) upgrading.row rfl open_
              cases to_make : run.next with
              | none => exact upgrading.column release claimed
              | some pending =>
                  exact upgrading.column_of_break found (UpgradeRun.stage_of_next to_make) landed
                    release claimed
  | beat =>
      simp only [ModuleUpgrades.step, Option.map_eq_some_iff] at taken
      obtain ⟨⟨job, run⟩, found, rfl⟩ := taken
      refine upgrading_of upgrading.column upgrading.row rfl ?_
      exact (upgrading.stage job run found).beat _ ⟨rfl, rfl⟩

end

/-- Where every run reads its clock within its budget at its last step, the column, the jobs and the
row are truthful in every state. Witness: induction on the run.
-/
theorem upgradeTenantModules_truthful (before : ModuleUpgrades) (actions : List ModuleUpgradeAction)
    (idle : before.current = none)
    (recorded
      : ∀ release, before.tenant.modulesRelease = some release → Uniform release before.scripts)
    (within : Throughout ModuleUpgrades.step InBudget before actions)
    : Everywhere ModuleUpgrades.step (TruthfulUpgrade before) before actions := by
  have start : Upgrading before before :=
    { column := recorded
      stage := fun job run found => nomatch idle.symm.trans found
      row := rfl }
  exact everywhere_of_throughout
    (fun state action next upgrading within taken => step_upgrading upgrading within taken)
    (fun state upgrading => upgrading.truthful) start within

-----------------------------------------------------------------------------------------
-- Runs on one tenant
-----------------------------------------------------------------------------------------

/-- A plane with a door for our own hardware, and with every bundle. -/
def readyPlane : UpgradeAnswers where
  plane :=
    { hmacHex := fun _ _ => "00"
      runpodProxy := none
      aiGatewayId := none
      vpcDoors := fun capability =>
        some { doorsUrl := "https://d", tokens := [], named := noBearers_named capability } }
  aigTokenValue := ""
  fetchBundle := fun _ _ => .ok ⟨"index.js", "", "2026-01-01", none⟩

/-- What the preflight of an upgrade to v2 gathers. -/
def toV2 : ModuleUpgradeContext where
  script := "s"
  endpoints := [{ key := "backend", label := none, id := "e", name := none, endpointVar := "V" }]
  studioApiToken := "t"
  release := "v2"
  bundles := []

/-- A live tenant that has not recorded a release. -/
def unrecorded : ModuleUpgrades where
  now := 0
  tenant :=
    { id := "a", slug := "a", accountId := "o", status := .live
      d1DatabaseId := some "d", r2BucketName := some "b" }
  scripts := { uploadedFrom := fun _ => none, installed := fun _ => false, verified := false }
  current := none

/-- An upgrade whose calls all come back, up to the mark behind its last step. -/
def upgradeToV2 (budgetMs : Int) : List ModuleUpgradeAction :=
  .start "j" readyPlane toV2 unrecorded.tenant 0 budgetMs :: List.replicate 33 (.call 0)

/-- A run that marks its last step within its budget is over by two calls more. -/
def timelyUpgrade : List ModuleUpgradeAction :=
  upgradeToV2 15000 ++ [.call 14000, .call 14000, .call 14000]

theorem timelyUpgrade_truthful
    : Everywhere ModuleUpgrades.step (TruthfulUpgrade unrecorded) unrecorded timelyUpgrade :=
  upgradeTenantModules_truthful unrecorded timelyUpgrade rfl (fun _ => nofun) (by decide +kernel)

/-- A run that marks its last step past its budget is closed as one that failed. -/
def lateUpgrade : List ModuleUpgradeAction :=
  upgradeToV2 15000 ++ [.call 16000, .call 16000]

theorem lateUpgrade_untruthful
    : unrecorded.current = none ∧ unrecorded.tenant.modulesRelease = none
      ∧ ¬Everywhere ModuleUpgrades.step (TruthfulUpgrade unrecorded) unrecorded lateUpgrade := by
  refine ⟨rfl, rfl, fun truthful => ?_⟩
  obtain ⟨final, reached, view⟩ :=
    Option.map_eq_some_iff.mp
      (show (exec ModuleUpgrades.step unrecorded lateUpgrade).map
          (fun state => state.current.map fun current => (current.1.status, current.2.done))
        = some (some (.failed, moduleSteps)) by decide +kernel)
  obtain ⟨⟨job, run⟩, found, closed⟩ := Option.map_eq_some_iff.mp view
  obtain ⟨failed, done⟩ := Prod.mk.inj closed
  obtain ⟨step, own, missing⟩ := (truthful.final reached).failed job run found failed
  exact missing (done ▸ own)

end ControlPlane.Modules
