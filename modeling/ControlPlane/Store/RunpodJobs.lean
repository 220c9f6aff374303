import Mathlib.Data.List.Induction
import ControlPlane.Library.KeyedTables

/-! The RunPod job index and its three writers: the proxy opens a row at submit and closes it on
a terminal answer, and a harvest copies the log of a tenant's own database into it.
-/

namespace ControlPlane.Store

open ControlPlane.Library

/-- Where a row of the index came from. -/
inductive JobSource
  | proxy
  | harvest
  deriving DecidableEq, Repr

/-- One RunPod job. harvested_at says when the row was written, closed_at when its terminal
write landed.
-/
structure RunpodJob where
  jobId : String
  tenantId : String
  tenantSlug : String
  moduleName : Option String
  outcome : Option String
  submittedAt : Option Int
  terminalAt : Option Int
  harvestedAt : Nat
  endpointId : Option String := none
  source : Option JobSource
  executionMs : Option Int := none
  delayMs : Option Int := none
  statusRaw : Option String := none
  closedAt : Option Nat := none
  webhookTokenSha256 : Option String := none
  deriving DecidableEq, Repr

/-- UNIQUE (webhook_token_sha256) WHERE webhook_token_sha256 IS NOT NULL. -/
def UniqueWebhookTokens (jobs : Keyed RunpodJob.jobId) : Prop :=
  ∀ job ∈ jobs.rows, ∀ other ∈ jobs.rows, ∀ token,
    job.webhookTokenSha256 = some token → other.webhookTokenSha256 = some token
    → job = other

/-- runpod_job_index, with its primary key and its unique callback credentials. -/
structure RunpodJobIndex where
  jobs : Keyed RunpodJob.jobId
  webhookTokens : UniqueWebhookTokens jobs

/-- Credentials stay unique where every one of them was there under the same job id. -/
theorem UniqueWebhookTokens.of_carried {before after : Keyed RunpodJob.jobId}
    (unique : UniqueWebhookTokens before)
    (carried
      : ∀ job ∈ after.rows, ∀ token, job.webhookTokenSha256 = some token
        → ∃ old ∈ before.rows, old.jobId = job.jobId ∧ old.webhookTokenSha256 = some token)
    : UniqueWebhookTokens after := by
  intro job member other member' token carries carries'
  obtain ⟨old, earlier, keyed, holds⟩ := carried job member token carries
  obtain ⟨old', earlier', keyed', holds'⟩ := carried other member' token carries'
  have same := unique old earlier old' earlier' token holds holds'
  exact Keyed.eq_of_key member member' (by rw [← keyed, ← keyed', same])

/-- One row of a tenant's own job log. -/
structure HarvestedJob where
  jobId : String
  moduleName : Option String
  outcome : Option String
  submittedAt : Option Int
  terminalAt : Option Int
  deriving DecidableEq, Repr

/-- A job the proxy is opening. -/
structure ProxyJobOpen where
  jobId : String
  tenantId : String
  tenantSlug : String
  moduleName : Option String
  endpointId : String
  submittedAt : Int
  webhookTokenSha256 : String
  deriving DecidableEq, Repr

/-- Terminal facts from a status read. -/
structure ProxyJobClose where
  jobId : String
  outcome : String
  statusRaw : String
  executionMs : Option Int
  delayMs : Option Int
  terminalAt : Int
  deriving DecidableEq, Repr

/-- The row a harvest inserts for a job that is not in the index. -/
def HarvestedJob.row (now : Nat) (tenantId tenantSlug : String) (harvested : HarvestedJob)
    : RunpodJob where
  jobId := harvested.jobId
  tenantId := tenantId
  tenantSlug := tenantSlug
  moduleName := harvested.moduleName
  outcome := harvested.outcome
  submittedAt := harvested.submittedAt
  terminalAt := harvested.terminalAt
  harvestedAt := now
  source := some .harvest

/-- What a harvest makes of a job that is in the index: a fresh value wins, except for the
source, and an absent one erases nothing.
-/
def HarvestedJob.refine (now : Nat) (harvested : HarvestedJob) (old : RunpodJob) : RunpodJob :=
  { old with
    source := old.source.or (some .harvest)
    moduleName := harvested.moduleName.or old.moduleName
    outcome := harvested.outcome.or old.outcome
    submittedAt := harvested.submittedAt.or old.submittedAt
    terminalAt := harvested.terminalAt.or old.terminalAt
    harvestedAt := now }

theorem HarvestedJob.refine_jobId (now : Nat) (harvested : HarvestedJob) (old : RunpodJob)
    : (harvested.refine now old).jobId = old.jobId :=
  rfl

/-- The row an open inserts. -/
def ProxyJobOpen.row (now : Nat) (opened : ProxyJobOpen) : RunpodJob where
  jobId := opened.jobId
  tenantId := opened.tenantId
  tenantSlug := opened.tenantSlug
  moduleName := opened.moduleName
  outcome := some "submitted"
  submittedAt := some opened.submittedAt
  terminalAt := none
  harvestedAt := now
  endpointId := some opened.endpointId
  source := some .proxy
  webhookTokenSha256 := some opened.webhookTokenSha256

/-- What an open makes of a job that is in the index. It names no terminal column. -/
def ProxyJobOpen.refine (now : Nat) (opened : ProxyJobOpen) (old : RunpodJob) : RunpodJob :=
  { old with
    tenantId := opened.tenantId
    tenantSlug := opened.tenantSlug
    moduleName := opened.moduleName.or old.moduleName
    endpointId := some opened.endpointId
    source := some .proxy
    webhookTokenSha256 := some opened.webhookTokenSha256
    submittedAt := old.submittedAt.or (some opened.submittedAt)
    harvestedAt := now }

theorem ProxyJobOpen.refine_jobId (now : Nat) (opened : ProxyJobOpen) (old : RunpodJob)
    : (opened.refine now old).jobId = old.jobId :=
  rfl

/-- UPDATE runpod_job_index SET ... WHERE job_id = ?1 AND terminal_at IS NULL. -/
def ProxyJobClose.statement (now : Nat) (closed : ProxyJobClose) : Update RunpodJob.jobId where
  target := closed.jobId
  guard job := job.terminalAt = none
  set job :=
    { job with
      outcome := some closed.outcome
      statusRaw := some closed.statusRaw
      executionMs := closed.executionMs
      delayMs := closed.delayMs
      terminalAt := some closed.terminalAt
      closedAt := some now }
  keeps _ := rfl

/-- What a callback may know of its job. -/
structure ProxyJobRef where
  jobId : String
  tenantId : String
  endpointId : Option String
  terminalAt : Option Int
  deriving DecidableEq, Repr

/-- An open job that a sweep may ask about. -/
structure OpenProxyJob where
  jobId : String
  tenantId : String
  endpointId : String
  submittedAt : Option Int
  deriving DecidableEq, Repr

/-- terminal_at IS NULL AND source = 'proxy' AND endpoint_id IS NOT NULL AND submitted_at < ?1. -/
def RunpodJob.openBefore (before : Int) (job : RunpodJob) : Bool :=
  job.terminalAt = none ∧ job.source = some .proxy ∧ job.endpointId ≠ none
  ∧ job.submittedAt.any fun submittedAt => submittedAt < before

/-- ORDER BY submitted_at. -/
def RunpodJob.notAfter (job other : RunpodJob) : Bool :=
  job.submittedAt.getD 0 ≤ other.submittedAt.getD 0

namespace RunpodJobIndex

/-- One statement of a harvest. -/
def harvestOne (now : Nat) (tenantId tenantSlug : String) (index : RunpodJobIndex)
    (harvested : HarvestedJob)
    : RunpodJobIndex where
  jobs :=
    index.jobs.upsert (harvested.row now tenantId tenantSlug) (harvested.refine now)
      (harvested.refine_jobId now)
  webhookTokens := by
    refine index.webhookTokens.of_carried fun job member token carries => ?_
    -- a new row carries no token, and a refined one keeps its own
    rcases Keyed.mem_upsert member with (isNew | ⟨old, earlier, keyed, became⟩) | ⟨earlier, _⟩
    · subst isNew
      exact absurd carries (Option.some_ne_none token).symm
    · subst became
      exact ⟨old, earlier, rfl, carries⟩
    · exact ⟨job, earlier, rfl, carries⟩

theorem get?_harvestOne (now : Nat) (tenantId tenantSlug : String) (index : RunpodJobIndex)
    (harvested : HarvestedJob) (jobId : String)
    : (index.harvestOne now tenantId tenantSlug harvested).jobs.get? jobId
      = if jobId = harvested.jobId then
          some ((index.jobs.get? jobId).elim (harvested.row now tenantId tenantSlug)
            (harvested.refine now))
        else index.jobs.get? jobId :=
  Keyed.get?_upsert index.jobs _ (harvested.refine_jobId now) jobId

/-- One batch, a statement for each row of the log. -/
def indexRunpodJobs (now : Nat) (index : RunpodJobIndex) (tenantId tenantSlug : String)
    (rows : List HarvestedJob)
    : RunpodJobIndex × Nat :=
  if rows.length = 0 then (index, 0)
  else (rows.foldl (harvestOne now tenantId tenantSlug) index, rows.length)

/-- The row the proxy wrote, unless its credential is already another job's. -/
def openRunpodProxyJob (now : Nat) (index : RunpodJobIndex) (opened : ProxyJobOpen)
    : Option RunpodJobIndex :=
  if free : ∀ old ∈ index.jobs.rows, old.jobId ≠ opened.jobId
      → old.webhookTokenSha256 ≠ some opened.webhookTokenSha256 then
    some
      { jobs :=
          index.jobs.upsert (opened.row now) (opened.refine now) (opened.refine_jobId now)
        webhookTokens := by
          -- the row under the job id is the only one that can carry its token
          have carrier : ∀ job ∈ (index.jobs.upsert (opened.row now) (opened.refine now)
                (opened.refine_jobId now)).rows,
              ∀ token, job.webhookTokenSha256 = some token
              → (job.jobId = opened.jobId ∧ token = opened.webhookTokenSha256)
                ∨ (job ∈ index.jobs.rows ∧ job.jobId ≠ opened.jobId) := by
            intro job member token carries
            rcases Keyed.mem_upsert member with
              (isNew | ⟨old, earlier, keyed, became⟩) | ⟨earlier, differs⟩
            · subst isNew
              exact .inl ⟨rfl, (Option.some.inj carries).symm⟩
            · subst became
              exact .inl ⟨keyed, (Option.some.inj carries).symm⟩
            · exact .inr ⟨earlier, differs⟩
          intro job member other member' token carries carries'
          rcases carrier job member token carries with ⟨isOpened, isToken⟩ | ⟨earlier, differs⟩
          · rcases carrier other member' token carries' with
              ⟨isOpened', _⟩ | ⟨earlier', differs'⟩
            · exact Keyed.eq_of_key member member' (isOpened.trans isOpened'.symm)
            · exact absurd (isToken ▸ carries') (free other earlier' differs')
          · rcases carrier other member' token carries' with
              ⟨_, isToken'⟩ | ⟨earlier', _⟩
            · exact absurd (isToken' ▸ carries) (free job earlier differs)
            · exact index.webhookTokens job earlier other earlier' token carries carries' }
  else none

/-- The close, and how many rows it changed. -/
def closeRunpodProxyJob (now : Nat) (index : RunpodJobIndex) (closed : ProxyJobClose)
    : RunpodJobIndex × Nat :=
  ({ jobs := (closed.statement now).apply index.jobs
     webhookTokens := by
       refine index.webhookTokens.of_carried fun job member token carries => ?_
       rcases Update.mem_apply_cases member with ⟨old, earlier, _, _, became⟩ | earlier
       · subst became
         exact ⟨old, earlier, rfl, carries⟩
       · exact ⟨job, earlier, rfl, carries⟩ },
    (closed.statement now).changes index.jobs)

/-- What a callback may know of the row that carries its token. -/
def findRunpodProxyJobByWebhookToken (index : RunpodJobIndex) (tokenSha256 : String)
    : Option ProxyJobRef :=
  (index.jobs.rows.find? fun job => job.webhookTokenSha256 = some tokenSha256).map fun job =>
    { jobId := job.jobId
      tenantId := job.tenantId
      endpointId := job.endpointId
      terminalAt := job.terminalAt }

/-- Open rows of the proxy submitted before a time, the oldest first, up to a limit. -/
def listOpenRunpodProxyJobs (index : RunpodJobIndex) (before : Int) (limit : Nat)
    : List OpenProxyJob :=
  (((index.jobs.rows.filter (RunpodJob.openBefore before)).mergeSort RunpodJob.notAfter).take
      limit).map fun job =>
    { jobId := job.jobId
      tenantId := job.tenantId
      endpointId := job.endpointId.getD ""
      submittedAt := job.submittedAt }

def countOpenRunpodProxyJobs (index : RunpodJobIndex) (before : Int) : Nat :=
  index.jobs.rows.countP (RunpodJob.openBefore before)

end RunpodJobIndex

/-- A call of one of the three writers. -/
inductive JobIndexCall
  | indexRunpodJobs (tenantId tenantSlug : String) (rows : List HarvestedJob)
  | openRunpodProxyJob (opened : ProxyJobOpen)
  | closeRunpodProxyJob (closed : ProxyJobClose)
  deriving DecidableEq, Repr

/-- The index after a call. An open that is rejected leaves it as it was. -/
def RunpodJobIndex.step (index : RunpodJobIndex) (call : Nat × JobIndexCall) : RunpodJobIndex :=
  match call with
  | (now, .indexRunpodJobs tenantId tenantSlug rows) =>
      (index.indexRunpodJobs now tenantId tenantSlug rows).1
  | (now, .openRunpodProxyJob opened) => (index.openRunpodProxyJob now opened).getD index
  | (now, .closeRunpodProxyJob closed) => (index.closeRunpodProxyJob now closed).1

/-- Calls in the order the database ran them, each with the clock it ran at. -/
abbrev JobIndexRun := List (Nat × JobIndexCall)

/-- The index after a run of calls. -/
def RunpodJobIndex.after (index : RunpodJobIndex) (run : JobIndexRun) : RunpodJobIndex :=
  run.foldl RunpodJobIndex.step index

end ControlPlane.Store
