import ControlPlane.Store.RunpodJobs

/-! What one harvest makes of one row. A batch may name a job more than once, and then the last
value it gives for a column is the one that stays.
-/

namespace ControlPlane.JobIndex

open ControlPlane.Library
open ControlPlane.Store

/-- The last value that a batch gives for a column of a job, if it gives one. -/
def lastGiven {δ : Type} (column : HarvestedJob → Option δ) (jobId : String)
    (rows : List HarvestedJob)
    : Option δ :=
  rows.reverse.findSome? fun harvested =>
    if harvested.jobId = jobId then column harvested else none

/-- A row after a batch: as it was if the batch does not name it, and else with what the batch
gave it last.
-/
def refinedBy (now : Nat) (rows : List HarvestedJob) (old : RunpodJob) : RunpodJob :=
  if ∃ harvested ∈ rows, harvested.jobId = old.jobId then
    { old with
      source := old.source.or (some .harvest)
      moduleName := (lastGiven HarvestedJob.moduleName old.jobId rows).or old.moduleName
      outcome := (lastGiven HarvestedJob.outcome old.jobId rows).or old.outcome
      submittedAt := (lastGiven HarvestedJob.submittedAt old.jobId rows).or old.submittedAt
      terminalAt := (lastGiven HarvestedJob.terminalAt old.jobId rows).or old.terminalAt
      harvestedAt := now }
  else
    old

theorem lastGiven_snoc {δ : Type} (column : HarvestedJob → Option δ) (jobId : String)
    (rows : List HarvestedJob) (last : HarvestedJob)
    : lastGiven column jobId (rows ++ [last])
      = (if last.jobId = jobId then column last else none).or
          (lastGiven column jobId rows) := by
  rw [lastGiven, List.reverse_append, List.reverse_singleton, List.singleton_append,
    List.findSome?_cons]
  cases (if last.jobId = jobId then column last else none) with
  | none => rfl
  | some value => rfl

/-- A batch that does not name a job gives nothing for it. -/
theorem lastGiven_of_unnamed {δ : Type} {column : HarvestedJob → Option δ} {jobId : String}
    {rows : List HarvestedJob} (unnamed : ¬ ∃ harvested ∈ rows, harvested.jobId = jobId)
    : lastGiven column jobId rows = none := by
  refine List.findSome?_eq_none_iff.mpr fun harvested member => if_neg fun same => ?_
  exact unnamed ⟨harvested, List.mem_reverse.mp member, same⟩

@[simp] theorem refinedBy_jobId (now : Nat) (rows : List HarvestedJob) (old : RunpodJob)
    : (refinedBy now rows old).jobId = old.jobId := by
  unfold refinedBy
  split <;> rfl

/-- The last statement of a batch refines what the others left. -/
theorem refinedBy_snoc (now : Nat) (rows : List HarvestedJob) (last : HarvestedJob)
    (old : RunpodJob)
    : refinedBy now (rows ++ [last]) old
      = if last.jobId = old.jobId then last.refine now (refinedBy now rows old)
        else refinedBy now rows old := by
  have named : (∃ harvested ∈ rows ++ [last], harvested.jobId = old.jobId)
      ↔ (∃ harvested ∈ rows, harvested.jobId = old.jobId) ∨ last.jobId = old.jobId := by
    simp only [List.mem_append, List.mem_singleton, or_and_right, exists_or, exists_eq_left]
  simp only [refinedBy, named, lastGiven_snoc]
  by_cases isLast : last.jobId = old.jobId
  · by_cases before : ∃ harvested ∈ rows, harvested.jobId = old.jobId
    · simp only [isLast, before, HarvestedJob.refine, or_self, if_true, Option.or_assoc]
      cases old.source <;> rfl
    · simp only [isLast, before, lastGiven_of_unnamed before, HarvestedJob.refine, or_true,
        if_true, if_false, Option.or_none]
  · simp only [isLast, or_false, if_false, Option.none_or]

/-- The row of a job after a harvest, by induction on the last statement of the batch. -/
theorem get?_harvest {now : Nat} {tenantId tenantSlug jobId : String} {index : RunpodJobIndex}
    {old : RunpodJob} (found : index.jobs.get? jobId = some old) (rows : List HarvestedJob)
    : (rows.foldl (RunpodJobIndex.harvestOne now tenantId tenantSlug) index).jobs.get? jobId
      = some (refinedBy now rows old) := by
  have keyed := Keyed.get?_key found
  induction rows using List.reverseRecOn with
  | nil => simpa [refinedBy] using found
  | append_singleton init last ih =>
      rw [List.foldl_append, List.foldl_cons, List.foldl_nil,
        RunpodJobIndex.get?_harvestOne, ih, refinedBy_snoc, keyed]
      by_cases isLast : last.jobId = jobId
      · rw [if_pos isLast.symm, if_pos isLast, Option.elim_some]
      · have differs : ¬ jobId = last.jobId := fun same => isLast same.symm
        exact (if_neg differs).trans (congrArg some (if_neg isLast).symm)

/-- The row of a job after a call of indexRunpodJobs. -/
theorem get?_indexRunpodJobs {now : Nat} {tenantId tenantSlug jobId : String}
    {index : RunpodJobIndex} {old : RunpodJob} (found : index.jobs.get? jobId = some old)
    (rows : List HarvestedJob)
    : (index.indexRunpodJobs now tenantId tenantSlug rows).1.jobs.get? jobId
      = some (refinedBy now rows old) := by
  unfold RunpodJobIndex.indexRunpodJobs
  split
  · next empty =>
      rw [List.length_eq_zero_iff.mp empty]
      simpa [refinedBy] using found
  · exact get?_harvest found rows

end ControlPlane.JobIndex
