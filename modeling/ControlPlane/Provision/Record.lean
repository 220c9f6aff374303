import ControlPlane.Library.Programs
import ControlPlane.Provision.Invocation

/-! What the record of a provision says about the tenant row. Every invocation keeps the record
true call by call: it writes what a step has built before it records the step.
-/

namespace ControlPlane.Provision

open ControlPlane.Library
open ControlPlane.Store
open ControlPlane.Teardown (truthy tenantScriptName tenantR2TokenName)

/-- What the tenant row says once a step is recorded. -/
def Backed (tenant : Tenant) : ProvisionStep → Prop
  | .d1Create => tenant.d1DatabaseId ≠ none
  | .r2Bucket => tenant.r2BucketName ≠ none
  | .r2Token => tenant.r2TokenId ≠ none
  | .runpodEndpoints =>
      readTenantEndpoints tenant ≠ [] ∧ tenant.runpodMode = RunPodMode.shared.text
  | .wfpUpload =>
      tenant.scriptName ≠ none ∧ truthy tenant.studioRelease ≠ none
      ∧ truthy tenant.studioTokenEnc ≠ none
  | .d1Migrate | .modulesUpload | .modulesInstall | .verify => True

/-- The steps done are the first ones, and the tenant row backs each of them. -/
structure Truthful (tenant : Tenant) (done : List ProvisionStep) : Prop where
  contiguous : Contiguous done
  backed : ∀ step ∈ done, Backed tenant step

/-- The place of a step among the steps. -/
def ProvisionStep.place (step : ProvisionStep) : Nat :=
  provisionSteps.idxOf step

/-- A first part of the steps has the steps whose place is before its end. -/
theorem Contiguous.mem_iff {done : List ProvisionStep} (contiguous : Contiguous done)
    {step : ProvisionStep}
    : step ∈ done ↔ step.place < done.length := by
  have byPlace : ∀ count, count ≤ 9 → (step ∈ provisionSteps.take count ↔ step.place < count) := by
    cases step <;> decide
  have bounded : done.length ≤ 9 := by
    rw [contiguous]
    exact List.length_take_le' _ _
  have told := byPlace done.length bounded
  rwa [← contiguous] at told

/-- A step recorded on a first part that reaches its place leaves a first part. -/
theorem Contiguous.record {done : List ProvisionStep} (contiguous : Contiguous done)
    {step : ProvisionStep} (due : step.place ≤ done.length)
    : Contiguous (record done step)
      ∧ (record done step).length = max done.length (step.place + 1) := by
  by_cases recorded : step ∈ done
  · have before := contiguous.mem_iff.mp recorded
    rw [Provision.record, if_pos recorded]
    exact ⟨contiguous, by omega⟩
  · have atEnd : done.length = step.place := by
      have notBefore : ¬ step.place < done.length :=
        fun before => recorded (contiguous.mem_iff.mpr before)
      omega
    rw [Provision.record, if_neg recorded]
    have oneMore : provisionSteps.take step.place ++ [step]
        = provisionSteps.take (step.place + 1) := by
      cases step <;> rfl
    have grown : (done ++ [step]).length = step.place + 1 := by
      rw [List.length_append, atEnd, List.length_singleton]
    refine ⟨?_, by omega⟩
    rw [Contiguous, grown, ← oneMore, ← atEnd, ← contiguous]

/-- Without a step done, nothing is said of the row. -/
theorem Truthful.nil (tenant : Tenant) : Truthful tenant [] :=
  ⟨rfl, fun _ member => absurd member List.not_mem_nil⟩

/-- Every step that a truthful record is long enough to have is backed. -/
theorem Truthful.backed_of_place {tenant : Tenant} {done : List ProvisionStep}
    (truthful : Truthful tenant done) {step : ProvisionStep} (before : step.place < done.length)
    : Backed tenant step :=
  truthful.backed step (truthful.contiguous.mem_iff.mpr before)

/-- The writes that leave nothing empty behind. -/
def ProvisionCall.Solid : ProvisionCall → Prop
  | .setTenantBucket bucket => bucket ≠ ""
  | .setTenantRunPodMode mode => mode = .shared
  | .setTenantEndpoints endpointsJson => readEndpoints (some endpointsJson) ≠ []
  | .setTenantScript _ release => release ≠ ""
  | .setTenantStudioToken encValue => encValue ≠ ""
  | _ => True

/-- A text that is not empty counts as recorded. -/
theorem truthy_ne_none {text : String} (notEmpty : text ≠ "") : truthy (some text) ≠ none := by
  simp [truthy, notEmpty]

section Writes

variable (now : Nat) (tenant : Tenant)

@[simp] theorem onTenant_setTenantStatus (status : TenantLifecycle)
    : (ProvisionCall.setTenantStatus status).onTenant now tenant
      = (Store.setTenantStatus now tenant.id status).set tenant :=
  Store.setTenantStatus_onRow now tenant status

@[simp] theorem onTenant_setTenantD1 (databaseId : String)
    : (ProvisionCall.setTenantD1 databaseId).onTenant now tenant
      = { tenant with d1DatabaseId := some databaseId } :=
  setTenant_onRow tenant _ _

@[simp] theorem onTenant_setTenantBucket (bucket : String)
    : (ProvisionCall.setTenantBucket bucket).onTenant now tenant
      = { tenant with r2BucketName := some bucket } :=
  setTenant_onRow tenant _ _

@[simp] theorem onTenant_setTenantR2Token (tokenId : String)
    : (ProvisionCall.setTenantR2Token tokenId).onTenant now tenant
      = { tenant with r2TokenId := some tokenId } :=
  setTenant_onRow tenant _ _

@[simp] theorem onTenant_setTenantRunPodMode (mode : RunPodMode)
    : (ProvisionCall.setTenantRunPodMode mode).onTenant now tenant
      = { tenant with runpodMode := mode.text } :=
  setTenant_onRow tenant _ _

@[simp] theorem onTenant_setTenantEndpoints (endpointsJson : String)
    : (ProvisionCall.setTenantEndpoints endpointsJson).onTenant now tenant
      = { tenant with endpointsJson := some endpointsJson } :=
  setTenant_onRow tenant _ _

@[simp] theorem onTenant_setTenantScript (scriptName release : String)
    : (ProvisionCall.setTenantScript scriptName release).onTenant now tenant
      = { tenant with scriptName := some scriptName, studioRelease := some release } :=
  setTenant_onRow tenant _ _

@[simp] theorem onTenant_setTenantStudioToken (encValue : String)
    : (ProvisionCall.setTenantStudioToken encValue).onTenant now tenant
      = { tenant with studioTokenEnc := some encValue } :=
  setTenantStudioToken_onRow tenant encValue

@[simp] theorem onTenant_setTenantModulesRelease (release : String)
    : (ProvisionCall.setTenantModulesRelease release).onTenant now tenant
      = { tenant with modulesRelease := some release } :=
  setTenant_onRow tenant _ _

end Writes

/-- A solid write unbacks no step: it sets what the step it is for needs, and leaves the columns of
the other steps alone.
-/
theorem Backed.call {tenant : Tenant} {step : ProvisionStep} (backed : Backed tenant step)
    {call : ProvisionCall} (solid : call.Solid) (now : Nat)
    : Backed (call.onTenant now tenant) step := by
  cases call with
  | setTenantStatus status =>
      rw [onTenant_setTenantStatus]
      cases step <;> exact backed
  | setTenantD1 databaseId =>
      rw [onTenant_setTenantD1]
      cases step <;> first | exact backed | exact Option.some_ne_none databaseId
  | setTenantBucket bucket =>
      rw [onTenant_setTenantBucket]
      cases step <;> first | exact backed | exact Option.some_ne_none bucket
  | setTenantR2Token tokenId =>
      rw [onTenant_setTenantR2Token]
      cases step <;> first | exact backed | exact Option.some_ne_none tokenId
  | setTenantRunPodMode mode =>
      rw [onTenant_setTenantRunPodMode]
      cases step <;> first | exact backed | exact ⟨backed.1, congrArg RunPodMode.text solid⟩
  | setTenantEndpoints endpointsJson =>
      rw [onTenant_setTenantEndpoints]
      cases step <;> first | exact backed | exact ⟨solid, backed.2⟩
  | setTenantScript scriptName release =>
      rw [onTenant_setTenantScript]
      cases step <;> first
        | exact backed
        | exact ⟨Option.some_ne_none scriptName, truthy_ne_none solid, backed.2.2⟩
  | setTenantStudioToken encValue =>
      rw [onTenant_setTenantStudioToken]
      cases step <;> first | exact backed | exact ⟨backed.1, backed.2.1, truthy_ne_none solid⟩
  | setTenantModulesRelease release =>
      rw [onTenant_setTenantModulesRelease]
      cases step <;> exact backed
  | _ => exact backed

/-- A solid write keeps a record true. -/
theorem Truthful.call {tenant : Tenant} {done : List ProvisionStep}
    (truthful : Truthful tenant done) {call : ProvisionCall} (solid : call.Solid) (now : Nat)
    : Truthful (call.onTenant now tenant) done :=
  ⟨truthful.contiguous, fun step member => (truthful.backed step member).call solid now⟩

/-- A backed step, recorded when it is due, keeps the record true. -/
theorem Truthful.record {tenant : Tenant} {done : List ProvisionStep}
    (truthful : Truthful tenant done) {step : ProvisionStep} (backed : Backed tenant step)
    (due : step.place ≤ done.length)
    : Truthful tenant (record done step) := by
  refine ⟨(truthful.contiguous.record due).1, fun other member => ?_⟩
  by_cases recorded : step ∈ done
  · rw [Provision.record, if_pos recorded] at member
    exact truthful.backed other member
  · rw [Provision.record, if_neg recorded, List.mem_append, List.mem_singleton] at member
    rcases member with earlier | isStep
    · exact truthful.backed other earlier
    · exact isStep ▸ backed

end ControlPlane.Provision
