import ControlPlane.Library.JsonText
import ControlPlane.Store.ProvisionJobs

/-! The steps of a provision and the text that records them. The record names the steps in their
order, so a job's progress is read back as the part of the steps that it names.
-/

namespace ControlPlane.Provision

open ControlPlane.Library
open ControlPlane.Store

/-- A step that a job can record as done. -/
inductive ProvisionStep
  | d1Create
  | d1Migrate
  | r2Bucket
  | r2Token
  | runpodEndpoints
  | wfpUpload
  | modulesUpload
  | modulesInstall
  | verify
  deriving DecidableEq, Repr

def ProvisionStep.text : ProvisionStep → String
  | .d1Create => "d1_create"
  | .d1Migrate => "d1_migrate"
  | .r2Bucket => "r2_bucket"
  | .r2Token => "r2_token"
  | .runpodEndpoints => "runpod_endpoints"
  | .wfpUpload => "wfp_upload"
  | .modulesUpload => "modules_upload"
  | .modulesInstall => "modules_install"
  | .verify => "verify"

/-- PROVISION_STEPS. -/
def provisionSteps : List ProvisionStep :=
  [.d1Create, .d1Migrate, .r2Bucket, .r2Token, .runpodEndpoints, .wfpUpload, .modulesUpload,
    .modulesInstall, .verify]

/-- A step by the number of steps done before it, or the last one. -/
def inferStep (done : List ProvisionStep) : ProvisionStep :=
  provisionSteps.getD (min done.length (provisionSteps.length - 1)) .verify

/-- The array of the names of some steps. -/
def stepsJson (steps : List ProvisionStep) : Json :=
  .array (steps.map fun step => .str step.text)

/-- JSON.stringify of the steps done. -/
def stringifySteps (done : List ProvisionStep) : String :=
  (stepsJson done).stringify

/-- The steps that an array of names includes, in their order. Other names are dropped. -/
def includedSteps (names : List Json) : List ProvisionStep :=
  provisionSteps.filter fun step => names.any fun name => name.text? = some step.text

/-- The steps that steps_done names. Only an array is ever stored. -/
def readProgress (stepsDone : String) : Option (List ProvisionStep) :=
  match Json.parse stepsDone with
  | some (.array names) => some (includedSteps names)
  | _ => none

/-- Add a step that is not recorded yet. -/
def record (done : List ProvisionStep) (step : ProvisionStep) : List ProvisionStep :=
  if step ∈ done then done else done ++ [step]

/-- Steps that make up the first part of a provision. -/
def Contiguous (done : List ProvisionStep) : Prop :=
  done = provisionSteps.take done.length

instance (done : List ProvisionStep) : Decidable (Contiguous done) := by
  unfold Contiguous; infer_instance

theorem ProvisionStep.text_injective {step other : ProvisionStep} (same : step.text = other.text)
    : step = other := by
  revert same
  cases step <;> cases other <;> decide

/-- A list of step names is read back from its text. -/
theorem parse_stringifySteps (done : List ProvisionStep)
    : Json.parse (stringifySteps done) = some (stepsJson done) := by
  refine Json.parse_stringify (Json.reads_array fun item member => ?_)
  obtain ⟨step, _, isItem⟩ := List.mem_map.mp member
  exact isItem ▸ Json.reads_str step.text

/-- The names of some steps include just those steps. -/
theorem mem_includedSteps {done : List ProvisionStep} {step : ProvisionStep}
    : step ∈ includedSteps (done.map fun step => .str step.text) ↔ step ∈ done := by
  have every : step ∈ provisionSteps := by cases step <;> decide
  simp only [includedSteps, List.mem_filter, every, true_and, List.any_map, List.any_eq_true,
    Function.comp_apply, Json.text?, Option.some.injEq, decide_eq_true_eq]
  constructor
  · intro named
    obtain ⟨other, member, same⟩ := named
    exact ProvisionStep.text_injective same ▸ member
  · exact fun member => ⟨step, member, rfl⟩

/-- Of the first steps, the filter of all steps is themselves. -/
theorem includedSteps_of_contiguous {done : List ProvisionStep} (contiguous : Contiguous done)
    : includedSteps (done.map fun step => .str step.text) = done := by
  have selects : ∀ count, count ≤ 9
      → (provisionSteps.filter fun step => step ∈ provisionSteps.take count)
        = provisionSteps.take count := by
    decide
  have bounded : done.length ≤ 9 := by
    rw [contiguous]
    exact List.length_take_le' _ _
  have sameTest : includedSteps (done.map fun step => .str step.text)
      = provisionSteps.filter fun step => step ∈ done := by
    refine List.filter_congr fun step member => ?_
    have test := @mem_includedSteps done step
    simp only [includedSteps, List.mem_filter, member, true_and] at test
    rw [Bool.eq_iff_iff, test, decide_eq_true_eq]
  rw [sameTest]
  have whole := selects done.length bounded
  rwa [← contiguous] at whole

/-- Stored progress is read back as it was. -/
theorem readProgress_stringify {done : List ProvisionStep} (contiguous : Contiguous done)
    : readProgress (stringifySteps done) = some done := by
  rw [readProgress, parse_stringifySteps, stepsJson]
  exact congrArg some (includedSteps_of_contiguous contiguous)

/-- Progress that reads back is told by its text. -/
theorem stringifySteps_injective {done other : List ProvisionStep} (contiguous : Contiguous done)
    (otherContiguous : Contiguous other) (same : stringifySteps done = stringifySteps other)
    : done = other := by
  have read := readProgress_stringify contiguous
  rw [same, readProgress_stringify otherContiguous] at read
  exact (Option.some.inj read).symm

/-- A step is recorded behind the others. -/
theorem prefix_record (done : List ProvisionStep) (step : ProvisionStep)
    : done <+: record done step := by
  unfold record
  split
  · exact List.prefix_rfl
  · exact List.prefix_append done [step]

end ControlPlane.Provision
