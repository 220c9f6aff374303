import ControlPlane.JobIndex.Harvest

/-! A harvest is keyed by job ids alone, and the ids are what the tenant's own database says they
are. It leaves the proxy's columns alone, but not the rows of other tenants.
-/

namespace ControlPlane.JobIndex

open ControlPlane.Library
open ControlPlane.Store

/-- A harvest leaves the rows of other tenants as they were, and of each row that the proxy
opened the endpoint, the credential and the source.
-/
structure Isolated (now : Nat) (index : RunpodJobIndex) (tenantId tenantSlug : String)
    (rows : List HarvestedJob)
    : Prop where
  foreign
    : ∀ job ∈ index.jobs.rows, job.tenantId ≠ tenantId
      → (index.indexRunpodJobs now tenantId tenantSlug rows).1.jobs.get? job.jobId = some job
  proxied
    : ∀ job ∈ index.jobs.rows, job.source = some .proxy
      → ∃ later, (index.indexRunpodJobs now tenantId tenantSlug rows).1.jobs.get? job.jobId
            = some later
          ∧ later.endpointId = job.endpointId
          ∧ later.webhookTokenSha256 = job.webhookTokenSha256
          ∧ later.source = job.source

/-- The batch says of the job, in the end, nothing that the row does not say, and the row was
last harvested in the same second.
-/
structure RepeatsRow (now : Nat) (rows : List HarvestedJob) (job : RunpodJob) : Prop where
  source : job.source ≠ none
  moduleName
    : ∀ moduleName, lastGiven HarvestedJob.moduleName job.jobId rows = some moduleName
      → job.moduleName = some moduleName
  outcome
    : ∀ outcome, lastGiven HarvestedJob.outcome job.jobId rows = some outcome
      → job.outcome = some outcome
  submittedAt
    : ∀ submittedAt, lastGiven HarvestedJob.submittedAt job.jobId rows = some submittedAt
      → job.submittedAt = some submittedAt
  terminalAt
    : ∀ terminalAt, lastGiven HarvestedJob.terminalAt job.jobId rows = some terminalAt
      → job.terminalAt = some terminalAt
  harvestedAt : job.harvestedAt = now

/-- A value in front of a column is the column exactly when it is absent or the same. -/
theorem or_eq_self_iff {δ : Type} {given stored : Option δ}
    : given.or stored = stored ↔ ∀ value, given = some value → stored = some value := by
  cases given with
  | none => simp
  | some value => simp [eq_comm]

/-- A batch that names a row leaves it as it was exactly when it repeats it. -/
theorem refinedBy_eq_self_iff {now : Nat} {rows : List HarvestedJob} {job : RunpodJob}
    (named : ∃ harvested ∈ rows, harvested.jobId = job.jobId)
    : refinedBy now rows job = job ↔ RepeatsRow now rows job := by
  obtain ⟨jobId, tenantId, tenantSlug, moduleName, outcome, submittedAt, terminalAt, harvestedAt,
    endpointId, source, executionMs, delayMs, statusRaw, closedAt, token⟩ := job
  have kept : source.or (some .harvest) = source ↔ source ≠ none := by
    cases source <;> simp
  rw [refinedBy, if_pos named]
  simp only [RunpodJob.mk.injEq, or_eq_self_iff, kept, true_and, and_true]
  constructor
  · intro same
    obtain ⟨moduleName, outcome, submittedAt, terminalAt, harvestedAt, source⟩ := same
    exact ⟨source, moduleName, outcome, submittedAt, terminalAt, harvestedAt.symm⟩
  · intro repeats
    exact ⟨repeats.moduleName, repeats.outcome, repeats.submittedAt, repeats.terminalAt,
      repeats.harvestedAt.symm, repeats.source⟩

/-- No batch touches the endpoint or the credential of a row, or the source where it has one. -/
theorem refinedBy_keeps (now : Nat) (rows : List HarvestedJob) (job : RunpodJob)
    : (refinedBy now rows job).endpointId = job.endpointId
      ∧ (refinedBy now rows job).webhookTokenSha256 = job.webhookTokenSha256
      ∧ (job.source ≠ none → (refinedBy now rows job).source = job.source) := by
  unfold refinedBy
  split
  · refine ⟨rfl, rfl, fun hasSource => ?_⟩
    cases source : job.source with
    | none => exact absurd source hasSource
    | some known => simp
  · exact ⟨rfl, rfl, fun _ => rfl⟩

/-- A harvest is isolated exactly when it names no job of another tenant, or repeats its row. -/
theorem isolated_iff (now : Nat) (index : RunpodJobIndex) (tenantId tenantSlug : String)
    (rows : List HarvestedJob)
    : Isolated now index tenantId tenantSlug rows
      ↔ ∀ job ∈ index.jobs.rows, job.tenantId ≠ tenantId
          → (∃ harvested ∈ rows, harvested.jobId = job.jobId)
          → RepeatsRow now rows job := by
  constructor
  · intro isolated job member foreign named
    have kept := isolated.foreign job member foreign
    rw [get?_indexRunpodJobs (Keyed.get?_of_mem member), Option.some.injEq] at kept
    exact (refinedBy_eq_self_iff named).mp kept
  · intro repeats
    refine ⟨?_, ?_⟩
    · intro job member foreign
      rw [get?_indexRunpodJobs (Keyed.get?_of_mem member), Option.some.injEq]
      by_cases named : ∃ harvested ∈ rows, harvested.jobId = job.jobId
      · exact (refinedBy_eq_self_iff named).mpr (repeats job member foreign named)
      · exact if_neg named
    · intro job member opened
      obtain ⟨endpointId, token, source⟩ := refinedBy_keeps now rows job
      refine ⟨_, get?_indexRunpodJobs (Keyed.get?_of_mem member) rows, endpointId, token, ?_⟩
      exact source (opened ▸ Option.some_ne_none _)

/-- A job of one tenant, harvested earlier. -/
def victim : RunpodJobIndex where
  jobs :=
    .singleton
      { jobId := "job_1", tenantId := "ten_1", tenantSlug := "studio", moduleName := some "film"
        outcome := some "completed", submittedAt := some 1000, terminalAt := some 2000
        harvestedAt := 1, source := some .harvest }
  webhookTokens := by
    intro job member other member' _ _ _
    exact (List.mem_singleton.mp member).trans (List.mem_singleton.mp member').symm

/-- Another tenant's log names the job, and rewrites its row. -/
theorem forgedLog_rewrites
    : ¬ Isolated 9 victim "ten_2" "rival"
        [{ jobId := "job_1", moduleName := none, outcome := some "failed", submittedAt := none
           terminalAt := none }] := by
  intro isolated
  have kept := isolated.foreign _ (List.mem_singleton.mpr rfl) (by decide)
  exact absurd kept (by decide)

end ControlPlane.JobIndex
