import ControlPlane.StudioUpgrade.Driver

/-! The readbacks of four writers of a live studio's bindings. Each takes a census before it writes
and another one after, through a credential that does not write, and says whether all is well.
-/

namespace ControlPlane.StudioBindings

open ControlPlane.Library
open ControlPlane.StudioUpgrade
open ControlPlane.Workers

-----------------------------------------------------------------------------------------
-- What is read back
-----------------------------------------------------------------------------------------

def names (census : List CensusEntry) : List String :=
  census.map CensusEntry.name

/-- The bindings and the secrets of a script. -/
structure Census where
  bindings : List CensusEntry
  secrets : List String

/-- Present before and absent after, names apart that the writer answers for itself. -/
def missingBindings (own : List String) (before after : Census) : List String :=
  ((sortedNames (names before.bindings)).filter fun name => name ∉ own).filter fun name =>
    name ∉ names after.bindings

def missingSecrets (before after : Census) : List String :=
  (sortedNames before.secrets).filter fun name => name ∉ after.secrets

/-- READBACK_PROBE_MS and QUOTA_READBACK_PROBE_MS. -/
def READBACK_PROBE_MS : Int := 2500

/-- READBACK_BUDGET_MS and QUOTA_READBACK_BUDGET_MS. -/
def READBACK_BUDGET_MS : Int := 15000

/-- The bounded confirm: a studio is asked until it says what it should, or until one more wait would
pass the budget. Each answer comes with the clock that is read behind it. The result is the last
answer, or nothing while the studio is still asked.
-/
def confirm {ρ : Type} (current : ρ → Bool) (probeStarted : Int) : List (ρ × Int) → Option ρ
  | [] => none
  | (reading, now) :: rest =>
      if current reading then some reading
      else if READBACK_BUDGET_MS < now - probeStarted + READBACK_PROBE_MS then some reading
      else confirm current probeStarted rest

-----------------------------------------------------------------------------------------
-- The four verdicts
-----------------------------------------------------------------------------------------

/-- What a studio says of its storage. -/
inductive StudioStorage (ν : Type)
  | unreadable
  | noReader
  | read (quota : Option ν)
  deriving DecidableEq

/-- What a studio serves as its quota: nothing where it is not read. -/
def StudioStorage.served {ν : Type} : StudioStorage ν → Option ν
  | .read quota => quota
  | .unreadable | .noReader => none

/-- A reading that ends the confirm of a quota. -/
def StudioStorage.isCurrent {ν : Type} [DecidableEq ν] (target : Option ν)
    : StudioStorage ν → Bool
  | .read quota => quota = target
  | .unreadable | .noReader => false

/-- The verdict of upgradeTenantStudio, by which its job ends. -/
def upgradeTenantStudioOk (before after : Census) (servingStatus : Nat) : Bool :=
  (shortfall before.bindings after.bindings before.secrets after.secrets servingStatus).isNone

/-- The verdict of applyStorageQuota. `number` is Number. -/
def applyStorageQuotaOk {ν : Type} [DecidableEq ν] (number : String → ν) (bytes : Option String)
    (before after : Census) (probeStarted : Int) (readings : List (StudioStorage ν × Int))
    : Option Bool :=
  let target := bytes.map number
  (confirm (StudioStorage.isCurrent target) probeStarted readings).map fun last =>
    missingBindings [] before after = []
    ∧ missingSecrets before after = []
    ∧ (STORAGE_QUOTA_VAR ∈ names after.bindings ↔ bytes ≠ none)
    ∧ last.served = target

/-- The verdict of applyAbuseReportUrl. A studio that is not read serves no page. -/
def applyAbuseReportUrlOk (url : String) (before after : Census) (probeStarted : Int)
    (readings : List (Option String × Int))
    : Option Bool :=
  (confirm (fun served => served = some url) probeStarted readings).map fun last =>
    missingBindings [] before after = []
    ∧ missingSecrets before after = []
    ∧ ABUSE_REPORT_URL_VAR ∈ names after.bindings
    ∧ last = some url

/-- The verdict of applyVideoFinishTierState, which answers for its own variable. -/
def applyVideoFinishTierStateOk (unreachable : Bool) (before after : Census) : Bool :=
  missingBindings [VIDEO_FINISH_TIER_STATE_VAR] before after = []
  ∧ missingSecrets before after = []
  ∧ (VIDEO_FINISH_TIER_STATE_VAR ∈ names after.bindings ↔ unreachable = true)

-----------------------------------------------------------------------------------------
-- One write and its readback
-----------------------------------------------------------------------------------------

variable {ν : Type} [DecidableEq ν] (number : String → ν) (normalised : ByteCounts)

/-- A write whose preflight has let it through. -/
inductive ReadbackWrite
  | upgradeTenantStudio
  | applyStorageQuota (context : StorageQuotaContext)
  | applyAbuseReportUrl (context : AbuseReportUrlContext)
  | applyVideoFinishTierState (unreachable : Bool)

/-- The preflight that lets a write through. A ceiling is the text of a number, and never empty. -/
def ReadbackWrite.Preflighted (config : PlaneConfig) (tenant : StudioTenant)
    : ReadbackWrite → Prop
  | .upgradeTenantStudio =>
      ∃ (release : String) (reads : StudioReads StudioBundle)
        (context : StudioUpgradeContext StudioBundle),
        preflightStudioUpgrade normalised config tenant release reads = .ok context
  | .applyStorageQuota context =>
      ∃ (intent : Option StorageQuotaIntent) (reads : StudioReads Unit),
        preflightStorageQuota normalised config tenant intent reads = .ok context
        ∧ context.bytes ≠ some ""
  | .applyAbuseReportUrl context =>
      ∃ reads : StudioReads Unit, preflightAbuseReportUrl config tenant reads = .ok context
  | .applyVideoFinishTierState unreachable =>
      ∃ (reads : StudioReads Unit) (script : String),
        preflightVideoFinishTierState tenant unreachable reads = .ok script

/-- The binding set that a write sends. -/
def ReadbackWrite.desired (config : PlaneConfig) (tenant : StudioTenant)
    (before : List CensusEntry)
    : ReadbackWrite → List WorkerBinding
  | .upgradeTenantStudio => upgradeBindings normalised config tenant before
  | .applyStorageQuota context => storageQuotaSettings context.bytes before
  | .applyAbuseReportUrl context => abuseReportUrlSettings context.url before
  | .applyVideoFinishTierState unreachable => videoFinishTierStateSettings unreachable before

/-- What a studio answers behind a write: the status of its root, and its readings with the clock. -/
structure StudioAnswers (ν : Type) where
  servingStatus : Nat
  probeStarted : Int
  storage : List (StudioStorage ν × Int)
  abuseReportUrl : List (Option String × Int)

/-- What a write says of itself, once it returns. -/
def ReadbackWrite.ok (before after : Census) (studio : StudioAnswers ν)
    : ReadbackWrite → Option Bool
  | .upgradeTenantStudio => some (upgradeTenantStudioOk before after studio.servingStatus)
  | .applyStorageQuota context =>
      applyStorageQuotaOk number context.bytes before after studio.probeStarted studio.storage
  | .applyAbuseReportUrl context =>
      applyAbuseReportUrlOk context.url before after studio.probeStarted studio.abuseReportUrl
  | .applyVideoFinishTierState unreachable =>
      some (applyVideoFinishTierStateOk unreachable before after)

end ControlPlane.StudioBindings
