import ControlPlane.JobIndex.Harvest

/-! The first terminal write of a job is meant to be the last. The close tests terminal_at for it
and an open names no terminal column, but a harvest prefers what its batch says.
-/

namespace ControlPlane.JobIndex

open ControlPlane.Library
open ControlPlane.Store

/-- The columns of a terminal write. -/
structure TerminalFacts where
  outcome : Option String
  statusRaw : Option String
  executionMs : Option Int
  delayMs : Option Int
  terminalAt : Option Int
  deriving DecidableEq, Repr

def terminalFacts (job : RunpodJob) : TerminalFacts where
  outcome := job.outcome
  statusRaw := job.statusRaw
  executionMs := job.executionMs
  delayMs := job.delayMs
  terminalAt := job.terminalAt

/-- The facts a close writes. -/
def factsOf (closed : ProxyJobClose) : TerminalFacts where
  outcome := some closed.outcome
  statusRaw := some closed.statusRaw
  executionMs := closed.executionMs
  delayMs := closed.delayMs
  terminalAt := some closed.terminalAt

/-- The run has come past a close that changed the job's row. -/
def ClosedBy (index : RunpodJobIndex) (closed : ProxyJobClose) (sofar : JobIndexRun) : Prop :=
  ∃ earlier now later,
    sofar = earlier ++ (now, .closeRunpodProxyJob closed) :: later
    ∧ ((index.after earlier).closeRunpodProxyJob now closed).2 = 1

/-- From the close of a job on, its row holds the facts of that close. -/
def FirstTerminalWins (index : RunpodJobIndex) (jobId : String) (run : JobIndexRun) : Prop :=
  ∀ sofar rest closed, run = sofar ++ rest → closed.jobId = jobId
    → ClosedBy index closed sofar
    → ((index.after sofar).jobs.get? jobId).map terminalFacts = some (factsOf closed)

/-- Every harvest that names a closed job gives no outcome and no end of it, or in the end those
of the close.
-/
def HarvestsAgree (index : RunpodJobIndex) (jobId : String) (run : JobIndexRun) : Prop :=
  ∀ sofar now tenantId tenantSlug rows rest closed,
    run = sofar ++ (now, .indexRunpodJobs tenantId tenantSlug rows) :: rest
    → closed.jobId = jobId → ClosedBy index closed sofar
    → (∀ outcome, lastGiven HarvestedJob.outcome jobId rows = some outcome
        → outcome = closed.outcome)
      ∧ (∀ terminalAt, lastGiven HarvestedJob.terminalAt jobId rows = some terminalAt
        → terminalAt = closed.terminalAt)

theorem after_snoc (index : RunpodJobIndex) (sofar : JobIndexRun) (call : Nat × JobIndexCall)
    : index.after (sofar ++ [call]) = (index.after sofar).step call := by
  simp only [RunpodJobIndex.after, List.foldl_append, List.foldl_cons, List.foldl_nil]

/-- A close that lands leaves its facts on the row. -/
theorem terminalFacts_of_landed {index : RunpodJobIndex} {now : Nat} {closed : ProxyJobClose}
    (landed : (index.closeRunpodProxyJob now closed).2 = 1)
    : ((index.closeRunpodProxyJob now closed).1.jobs.get? closed.jobId).map terminalFacts
      = some (factsOf closed) := by
  obtain ⟨job, found, isOpen⟩ := (Update.changes_eq_one _ _).mp landed
  have changed := Update.get?_apply_of_match (closed.statement now) found isOpen
  change (((closed.statement now).apply index.jobs).get? (closed.statement now).target).map _ = _
  rw [changed]
  rfl

/-- An open keeps the terminal facts of the rows it meets. -/
theorem terminalFacts_open {index : RunpodJobIndex} {jobId : String} {job : RunpodJob}
    (found : index.jobs.get? jobId = some job) (now : Nat) (opened : ProxyJobOpen)
    : ((index.step (now, .openRunpodProxyJob opened)).jobs.get? jobId).map terminalFacts
      = some (terminalFacts job) := by
  simp only [RunpodJobIndex.step, RunpodJobIndex.openRunpodProxyJob]
  split
  · rw [Option.getD_some, Keyed.get?_upsert, found]
    split <;> rfl
  · rw [Option.getD_none, found, Option.map_some]

/-- A second close changes nothing. -/
theorem get?_close_of_closed {index : RunpodJobIndex} {jobId : String} {job : RunpodJob}
    (found : index.jobs.get? jobId = some job) (ended : job.terminalAt ≠ none) (now : Nat)
    (closed : ProxyJobClose)
    : (index.step (now, .closeRunpodProxyJob closed)).jobs.get? jobId = some job := by
  refine Update.get?_apply_of_not (closed.statement now) found fun matched => ?_
  exact ended (of_decide_eq_true matched.2)

/-- A value given in front of a stored one is the stored one exactly when none other is given. -/
theorem or_eq_some_iff {δ : Type} {given : Option δ} {stored : δ}
    : given.or (some stored) = some stored ↔ ∀ value, given = some value → value = stored := by
  cases given with
  | none => simp
  | some value => simp

/-- A harvest keeps the facts of a close exactly when what it gives last agrees with them. -/
theorem terminalFacts_harvest {index : RunpodJobIndex} {jobId : String} {job : RunpodJob}
    {closed : ProxyJobClose} (found : index.jobs.get? jobId = some job)
    (facts : terminalFacts job = factsOf closed) (now : Nat) (tenantId tenantSlug : String)
    (rows : List HarvestedJob)
    : ((index.step (now, .indexRunpodJobs tenantId tenantSlug rows)).jobs.get? jobId).map
          terminalFacts = some (factsOf closed)
      ↔ (∀ outcome, lastGiven HarvestedJob.outcome jobId rows = some outcome
          → outcome = closed.outcome)
        ∧ (∀ terminalAt, lastGiven HarvestedJob.terminalAt jobId rows = some terminalAt
          → terminalAt = closed.terminalAt) := by
  have keyed := Keyed.get?_key found
  have outcome : job.outcome = some closed.outcome := congrArg TerminalFacts.outcome facts
  have terminalAt : job.terminalAt = some closed.terminalAt :=
    congrArg TerminalFacts.terminalAt facts
  rw [RunpodJobIndex.step, get?_indexRunpodJobs found, Option.map_some, Option.some.injEq]
  by_cases named : ∃ harvested ∈ rows, harvested.jobId = job.jobId
  · have after : terminalFacts (refinedBy now rows job)
        = { factsOf closed with
            outcome := (lastGiven HarvestedJob.outcome jobId rows).or (some closed.outcome)
            terminalAt :=
              (lastGiven HarvestedJob.terminalAt jobId rows).or (some closed.terminalAt) } := by
      rw [refinedBy, if_pos named, ← facts]
      simp only [terminalFacts, keyed, outcome, terminalAt]
    rw [after]
    simp only [factsOf, TerminalFacts.mk.injEq, or_eq_some_iff, true_and]
  · have unnamed : ¬ ∃ harvested ∈ rows, harvested.jobId = jobId := keyed ▸ named
    rw [refinedBy, if_neg named]
    simp [facts, lastGiven_of_unnamed unnamed]

/-- One more call past a close keeps its facts, where a harvest agrees with them. -/
theorem terminalFacts_step {index : RunpodJobIndex} {closed : ProxyJobClose}
    {call : Nat × JobIndexCall}
    (before : (index.jobs.get? closed.jobId).map terminalFacts = some (factsOf closed))
    (agrees
      : ∀ now tenantId tenantSlug rows, call = (now, .indexRunpodJobs tenantId tenantSlug rows)
        → (∀ outcome, lastGiven HarvestedJob.outcome closed.jobId rows = some outcome
            → outcome = closed.outcome)
          ∧ (∀ terminalAt, lastGiven HarvestedJob.terminalAt closed.jobId rows = some terminalAt
            → terminalAt = closed.terminalAt))
    : ((index.step call).jobs.get? closed.jobId).map terminalFacts = some (factsOf closed) := by
  obtain ⟨job, found, facts⟩ := Option.map_eq_some_iff.mp before
  obtain ⟨now, call⟩ := call
  cases call with
  | indexRunpodJobs tenantId tenantSlug rows =>
      exact (terminalFacts_harvest found facts now tenantId tenantSlug rows).mpr
        (agrees now tenantId tenantSlug rows rfl)
  | openRunpodProxyJob opened =>
      rw [terminalFacts_open found now opened, facts]
  | closeRunpodProxyJob again =>
      have terminalAt : job.terminalAt = some closed.terminalAt :=
        congrArg TerminalFacts.terminalAt facts
      have ended : job.terminalAt ≠ none := by
        rw [terminalAt]
        exact Option.some_ne_none _
      rw [get?_close_of_closed found ended now again, Option.map_some, facts]

/-- The first terminal write of a job wins exactly in the runs whose harvests agree with it. -/
theorem firstTerminalWins_iff (index : RunpodJobIndex) (jobId : String) (run : JobIndexRun)
    : FirstTerminalWins index jobId run ↔ HarvestsAgree index jobId run := by
  constructor
  · intro wins sofar now tenantId tenantSlug rows rest closed cut isJob closedBy
    have before := wins sofar _ closed cut isJob closedBy
    obtain ⟨job, found, facts⟩ := Option.map_eq_some_iff.mp before
    refine (terminalFacts_harvest found facts now tenantId tenantSlug rows).mp ?_
    rw [← after_snoc]
    refine wins (sofar ++ [(now, .indexRunpodJobs tenantId tenantSlug rows)]) rest closed
      (by simp [cut]) isJob ?_
    obtain ⟨earlier, at', later, split, landed⟩ := closedBy
    exact ⟨earlier, at', later ++ [(now, .indexRunpodJobs tenantId tenantSlug rows)],
      by simp [split], landed⟩
  · intro agree sofar rest closed cut isJob closedBy
    obtain ⟨earlier, now, later, split, landed⟩ := closedBy
    subst isJob split
    have upTo : ∀ between onward, later = between ++ onward
        → ((index.after (earlier ++ (now, .closeRunpodProxyJob closed) :: between)).jobs.get?
            closed.jobId).map terminalFacts = some (factsOf closed) := by
      intro between
      -- from the close on, by induction on the last call behind it
      induction between using List.reverseRecOn with
      | nil =>
          intro _ _
          rw [after_snoc]
          exact terminalFacts_of_landed landed
      | append_singleton init last ih =>
          intro onward cutLater
          have before := ih (last :: onward) (by simp [cutLater])
          have split : earlier ++ (now, JobIndexCall.closeRunpodProxyJob closed)
                :: (init ++ [last])
              = (earlier ++ (now, .closeRunpodProxyJob closed) :: init) ++ [last] := by
            simp
          rw [split, after_snoc]
          refine terminalFacts_step before fun at' tenantId tenantSlug rows isHarvest => ?_
          refine agree (earlier ++ (now, .closeRunpodProxyJob closed) :: init) at' tenantId
            tenantSlug rows (onward ++ rest) closed ?_ rfl ⟨earlier, now, init, rfl, landed⟩
          rw [cut, cutLater, isHarvest]
          simp
    exact upTo later [] (by simp)

/-- A job that the proxy opened. -/
def submitted : RunpodJobIndex where
  jobs :=
    .singleton
      { jobId := "job_1", tenantId := "ten_1", tenantSlug := "studio", moduleName := some "film"
        outcome := some "submitted", submittedAt := some 1000, terminalAt := none
        harvestedAt := 1, endpointId := some "ep_1", source := some .proxy
        webhookTokenSha256 := some "d1" }
  webhookTokens := by
    intro job member other member' _ _ _
    exact (List.mem_singleton.mp member).trans (List.mem_singleton.mp member').symm

/-- RunPod says failed, and then the tenant's own log says completed. -/
def relabelled : JobIndexRun :=
  [(60, .closeRunpodProxyJob
      { jobId := "job_1", outcome := "failed", statusRaw := "FAILED", executionMs := some 900
        delayMs := none, terminalAt := 60000 }),
    (3600, .indexRunpodJobs "ten_1" "studio"
      [{ jobId := "job_1", moduleName := some "film", outcome := some "completed"
         submittedAt := some 1000, terminalAt := some 61000 }])]

/-- The harvest overwrites the outcome that the authoritative read had closed the job with. -/
theorem relabelled_overwrites : ¬ FirstTerminalWins submitted "job_1" relabelled := by
  intro wins
  have kept := wins relabelled [] _ (by simp) rfl ⟨[], 60, _, rfl, by decide⟩
  exact absurd kept (by decide)

end ControlPlane.JobIndex
