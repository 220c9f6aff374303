import ControlPlane.RunpodProxy.Evidence

/-! A sweep accounts for the rows it listed. A row that it loses to another closer is in no count, and
without another closer there is none such.
-/

namespace ControlPlane.RunpodProxy

open ControlPlane.Library
open ControlPlane.Store

variable {config : CloserConfig} {index : RunpodJobIndex}

/-- The rows that a sweep has an outcome for. -/
def JobSweepResult.accounted (result : JobSweepResult) : Nat :=
  result.closed + result.unknown + result.stillRunning + result.errors

-----------------------------------------------------------------------------------------
-- What one step counts
-----------------------------------------------------------------------------------------

/-- A stage without a row at hand, other than the end of a tick. -/
def SweepStage.Idle : SweepStage → Prop
  | .clock | .count _ | .list _ _ | .rejected => True
  | _ => False

/-- How a step of a sweep counts: each row that it leaves is in one count, except for one whose close
came second.
-/
inductive SweepStage.Counts (index : RunpodJobIndex) : SweepStage → CloserInput → SweepStage → Prop
  | idle (stage : SweepStage) (input : CloserInput) (after : SweepStage) (isIdle : after.Idle)
    : Counts index stage input after
  | refused (stage : SweepStage) (input : CloserInput) (reason : String)
    : Counts index stage input (.done { ran := false, reason := some reason })
  | lists (now : Int) (eligible : Nat) (rows : List OpenProxyJob)
    (listed
      : rows
        = index.listOpenRunpodProxyJobs (now - RECONCILER_ADOPT_AFTER_MS) SWEEP_MAX_ROWS_PER_RUN)
    : Counts index (.list now eligible) (.read (.ok ()))
        (nextJob now { ran := true, eligible := eligible, examined := rows.length } rows)
  | leaves (now : Int) (result counted : JobSweepResult) (job : OpenProxyJob)
    (rest : List OpenProxyJob) (answer : Except Thrown StatusAnswer)
    (one : counted.accounted = result.accounted + 1) (same : counted.examined = result.examined)
    : Counts index (.probe now result job rest) (.fetch answer) (nextJob now counted rest)
  | closes (now : Int) (result : JobSweepResult) (job : OpenProxyJob) (rest : List OpenProxyJob)
    (answer : Except Thrown StatusAnswer) (closed : ProxyJobClose) (isUnknown : Bool)
    (about : closed.jobId = job.jobId)
    : Counts index (.probe now result job rest) (.fetch answer)
        (.close now result closed isUnknown rest)
  | closed (now : Int) (result counted : JobSweepResult) (closed : ProxyJobClose)
    (isUnknown : Bool) (rest : List OpenProxyJob) (stamp : Nat)
    (one
      : counted.accounted
        = result.accounted + if (index.closeRunpodProxyJob stamp closed).2 = 1 then 1 else 0)
    (same : counted.examined = result.examined)
    : Counts index (.close now result closed isUnknown rest) (.close stamp .runs)
        (nextJob now counted rest)

/-- An answer about a row puts it into one count, or has the sweep close it. -/
theorem counts_afterProbe (now : Int) (result : JobSweepResult) (job : OpenProxyJob)
    (rest : List OpenProxyJob) (answer : Except Thrown StatusAnswer)
    : SweepStage.Counts index (.probe now result job rest) (.fetch answer)
        (afterProbe config now result job rest (probeJob config job answer)) := by
  cases probeJob config job answer with
  | error =>
      refine .leaves now result _ job rest answer ?_ rfl
      simp only [JobSweepResult.accounted]
      omega
  | running =>
      refine .leaves now result _ job rest answer ?_ rfl
      simp only [JobSweepResult.accounted]
      omega
  | terminal status =>
      simp only [afterProbe]
      split
      · next facts derived =>
          exact .closes now result job rest answer _ false (jobId_of_facts derived)
      · exact .idle _ _ _ trivial
  | gone =>
      simp only [afterProbe]
      split
      · exact .closes now result job rest answer _ true rfl
      · refine .leaves now result _ job rest answer ?_ rfl
        simp only [JobSweepResult.accounted]
        omega

/-- A close that was the first is in one count. -/
theorem counts_afterClose (now : Int) (result : JobSweepResult) (closed : ProxyJobClose)
    (isUnknown : Bool) (rest : List OpenProxyJob) (stamp : Nat)
    : SweepStage.Counts index (.close now result closed isUnknown rest) (.close stamp .runs)
        (afterClose now result isUnknown rest (index.closeRunpodProxyJob stamp closed).2) := by
  refine .closed now result _ closed isUnknown rest stamp ?_ ?_
  · by_cases first : (index.closeRunpodProxyJob stamp closed).2 = 1
    · rw [if_pos first, if_pos first]
      cases isUnknown <;> simp only [JobSweepResult.accounted] <;> simp <;> omega
    · rw [if_neg first, if_neg first, Nat.add_zero]
  · by_cases first : (index.closeRunpodProxyJob stamp closed).2 = 1
    · rw [if_pos first]
      cases isUnknown <;> rfl
    · rw [if_neg first]

/-- Every step of a sweep counts so, by cases on its stage. -/
theorem SweepStage.counts_next {stage after : SweepStage} {input : CloserInput}
    (moved : stage.next config index input = some after)
    : stage.Counts index input after := by
  cases stage with
  | credential =>
      cases input with
      | credential answer =>
          cases moved
          cases answer with
          | error thrown => exact .refused _ _ _
          | ok key =>
              simp only [sweepCredential]
              split
              · exact .refused _ _ _
              · exact .idle _ _ _ trivial
      | dies => cases moved; exact .idle _ _ _ trivial
      | _ => cases moved
  | clock =>
      cases input with
      | clock now => cases moved; exact .idle _ _ _ trivial
      | dies => cases moved; exact .idle _ _ _ trivial
      | _ => cases moved
  | count now =>
      cases input with
      | read outcome => cases outcome <;> cases moved <;> exact .idle _ _ _ trivial
      | dies => cases moved; exact .idle _ _ _ trivial
      | _ => cases moved
  | list now eligible =>
      cases input with
      | read outcome =>
          cases outcome with
          | error thrown => cases moved; exact .idle _ _ _ trivial
          | ok =>
              cases moved
              exact .lists now eligible _ rfl
      | dies => cases moved; exact .idle _ _ _ trivial
      | _ => cases moved
  | probe now result job rest =>
      cases input with
      | fetch answer =>
          cases moved
          exact counts_afterProbe now result job rest answer
      | dies => cases moved; exact .idle _ _ _ trivial
      | _ => cases moved
  | close now result closed isUnknown rest =>
      cases input with
      | close stamp fate =>
          cases fate with
          | runs =>
              cases moved
              exact counts_afterClose now result closed isUnknown rest stamp
          | fails => cases moved; exact .idle _ _ _ trivial
          | unheard => cases moved; exact .idle _ _ _ trivial
      | dies => cases moved; exact .idle _ _ _ trivial
      | _ => cases moved
  | done result => cases moved
  | rejected => cases moved

-----------------------------------------------------------------------------------------
-- Never more than were examined
-----------------------------------------------------------------------------------------

/-- What is accounted for and what is still to come are within what was listed. -/
def SweepStage.Tallied : SweepStage → Prop
  | .probe _ result _ rest | .close _ result _ _ rest =>
      result.accounted + rest.length + 1 ≤ result.examined
  | .done result => result.accounted ≤ result.examined
  | _ => True

theorem tallied_nextJob {result : JobSweepResult} {rest : List OpenProxyJob}
    (within : result.accounted + rest.length ≤ result.examined) (now : Int)
    : (nextJob now result rest).Tallied := by
  cases rest with
  | nil => exact within
  | cons job rest =>
      rw [List.length_cons] at within
      change result.accounted + rest.length + 1 ≤ result.examined
      omega

/-- One row after another is within what was listed, by cases on the stage. -/
theorem SweepStage.tallied_next {stage after : SweepStage} {input : CloserInput}
    (tallied : stage.Tallied) (moved : stage.next config index input = some after)
    : after.Tallied := by
  cases counts_next moved with
  | idle _ _ _ isIdle => cases after <;> trivial
  | refused => exact Nat.le_refl 0
  | lists now eligible rows listed => exact tallied_nextJob (Nat.le_of_eq (Nat.zero_add _)) now
  | leaves now result counted job rest answer one same =>
      change result.accounted + rest.length + 1 ≤ result.examined at tallied
      exact tallied_nextJob (by omega) now
  | closes now result job rest answer closed isUnknown about => exact tallied
  | closed now result counted closed isUnknown rest stamp one same =>
      change result.accounted + rest.length + 1 ≤ result.examined at tallied
      refine tallied_nextJob ?_ now
      split at one <;> omega

-----------------------------------------------------------------------------------------
-- All that were examined
-----------------------------------------------------------------------------------------

/-- Different jobs, each of them open. -/
structure StillOpen (index : RunpodJobIndex) (jobIds : List String) : Prop where
  distinct : jobIds.Nodup
  isOpen : ∀ jobId ∈ jobIds, ∃ row, index.jobs.get? jobId = some row ∧ row.terminalAt = none

/-- What is accounted for and what is still to come are what was listed, and the latter is open. -/
def SweepStage.Exact (index : RunpodJobIndex) : SweepStage → Prop
  | .probe _ result job rest =>
      result.accounted + rest.length + 1 = result.examined
      ∧ StillOpen index (job.jobId :: rest.map OpenProxyJob.jobId)
  | .close _ result closed _ rest =>
      result.accounted + rest.length + 1 = result.examined
      ∧ StillOpen index (closed.jobId :: rest.map OpenProxyJob.jobId)
  | .done result => result.accounted = result.examined
  | _ => True

theorem StillOpen.tail {jobId : String} {rest : List String}
    (stillOpen : StillOpen index (jobId :: rest))
    : StillOpen index rest :=
  ⟨(List.nodup_cons.mp stillOpen.distinct).2,
    fun other member => stillOpen.isOpen other (List.mem_cons_of_mem _ member)⟩

/-- The close of the first job leaves the others open. -/
theorem StillOpen.close {closed : ProxyJobClose} {rest : List String}
    (stillOpen : StillOpen index (closed.jobId :: rest)) (stamp : Nat)
    : StillOpen (index.closeRunpodProxyJob stamp closed).1 rest := by
  obtain ⟨notAgain, distinct⟩ := List.nodup_cons.mp stillOpen.distinct
  refine ⟨distinct, fun other member => ?_⟩
  obtain ⟨row, found, isOpen⟩ := stillOpen.isOpen other (List.mem_cons_of_mem _ member)
  have apart : other ≠ closed.jobId := fun same => notAgain (same ▸ member)
  refine ⟨row, ?_, isOpen⟩
  rw [← found]
  exact (closed.statement stamp).get?_apply_of_ne index.jobs apart

/-- The close of an open job is the first one. -/
theorem StillOpen.changes {closed : ProxyJobClose} {rest : List String}
    (stillOpen : StillOpen index (closed.jobId :: rest)) (stamp : Nat)
    : (index.closeRunpodProxyJob stamp closed).2 = 1 := by
  obtain ⟨row, found, isOpen⟩ := stillOpen.isOpen closed.jobId List.mem_cons_self
  exact (Update.changes_eq_one _ _).mpr ⟨row, found, decide_eq_true isOpen⟩

/-- What is listed is open, and nothing is listed twice. -/
theorem stillOpen_listed (index : RunpodJobIndex) (before : Int) (limit : Nat)
    : StillOpen index
        ((index.listOpenRunpodProxyJobs before limit).map OpenProxyJob.jobId) := by
  constructor
  · have unique : (index.jobs.rows.map RunpodJob.jobId).Nodup := index.jobs.unique
    have isOpen
        : ((index.jobs.rows.filter (RunpodJob.openBefore before)).map RunpodJob.jobId).Nodup :=
      unique.sublist (List.filter_sublist.map _)
    have sorted := ((List.mergeSort_perm (index.jobs.rows.filter (RunpodJob.openBefore before))
      RunpodJob.notAfter).map RunpodJob.jobId).nodup_iff.mpr isOpen
    rw [RunpodJobIndex.listOpenRunpodProxyJobs, List.map_map]
    exact sorted.sublist ((List.take_sublist limit _).map _)
  · intro jobId member
    obtain ⟨listed, isListed, rfl⟩ := List.mem_map.mp member
    obtain ⟨row, found, isOpen, -⟩ := row_of_listed isListed
    exact ⟨row, found, isOpen⟩

theorem exact_nextJob {result : JobSweepResult} {rest : List OpenProxyJob}
    (whole : result.accounted + rest.length = result.examined)
    (stillOpen : StillOpen index (rest.map OpenProxyJob.jobId)) (now : Int)
    : (nextJob now result rest).Exact index := by
  cases rest with
  | nil => exact whole
  | cons job rest =>
      rw [List.length_cons] at whole
      exact ⟨by omega, stillOpen⟩

/-- One row after another is accounted for where the sweep is alone, by cases on the stage. -/
theorem SweepStage.exact_next {stage after : SweepStage} {input : CloserInput}
    (exact_ : stage.Exact index) (moved : stage.next config index input = some after)
    : after.Exact ((Closer.sweep stage).writes index input) := by
  cases counts_next moved with
  | idle _ _ _ isIdle => cases after <;> trivial
  | refused => rfl
  | lists now eligible rows listed =>
      refine exact_nextJob (Nat.zero_add _) ?_ now
      rw [listed]
      exact stillOpen_listed index _ _
  | leaves now result counted job rest answer one same =>
      obtain ⟨whole, stillOpen⟩ := exact_
      exact exact_nextJob (by omega) stillOpen.tail now
  | closes now result job rest answer closed isUnknown about =>
      obtain ⟨whole, stillOpen⟩ := exact_
      exact ⟨whole, about ▸ stillOpen⟩
  | closed now result counted closed isUnknown rest stamp one same =>
      obtain ⟨whole, stillOpen⟩ := exact_
      rw [if_pos (stillOpen.changes stamp)] at one
      exact exact_nextJob (by omega) (stillOpen.close stamp) now

-----------------------------------------------------------------------------------------
-- Runs
-----------------------------------------------------------------------------------------

variable {start : RunpodJobIndex}

/-- Every sweep is within what it listed. -/
def JobClosers.Tallied (state : JobClosers) : Prop :=
  ∀ id stage, state.closers id = some (.sweep stage) → stage.Tallied

theorem JobClosers.tallied_step {state next : JobClosers} {action : CloserAction}
    (tallied : state.Tallied) (taken : state.step config action = some next)
    : next.Tallied := by
  cases step_cases taken with
  | sweep id free =>
      intro other stage holds
      rcases held_update_cases holds with isNew | earlier
      · cases Option.some.inj isNew
        trivial
      · exact tallied other stage earlier
  | deliver id token free =>
      intro other stage holds
      rcases held_update_cases holds with isNew | earlier
      · exact nomatch isNew
      · exact tallied other stage earlier
  | input id input closer after here moved =>
      intro other stage holds
      rcases held_update_cases holds with isNew | earlier
      · cases Option.some.inj isNew
        cases closer with
        | sweep before =>
            obtain ⟨stage', onward, same⟩ := Option.map_eq_some_iff.mp moved
            cases same
            exact SweepStage.tallied_next (tallied id before here) onward
        | delivery before =>
            obtain ⟨stage', -, same⟩ := Option.map_eq_some_iff.mp moved
            exact nomatch same
      · exact tallied other stage earlier

/-- An action that changes no row under a sweep. -/
def CloserAction.LeavesTo (id : Nat) : CloserAction → Prop
  | .input other (.close _ fate) => other = id ∨ fate = .fails
  | _ => True

/-- A sweep accounts for all that it listed. -/
def JobClosers.ExactAt (id : Nat) (state : JobClosers) : Prop :=
  ∃ stage, state.closers id = some (.sweep stage) ∧ stage.Exact state.index

/-- A sweep goes on to account for all, as long as no other closer closes a row. -/
theorem JobClosers.exactAt_step {id : Nat} {state next : JobClosers} {action : CloserAction}
    (exactAt : state.ExactAt id) (leaves : action.LeavesTo id)
    (taken : state.step config action = some next)
    : next.ExactAt id := by
  obtain ⟨stage, holds, exact_⟩ := exactAt
  cases step_cases taken with
  | sweep other free =>
      have apart : id ≠ other := fun same => nomatch (same ▸ free).symm.trans holds
      exact ⟨stage, (Function.update_of_ne apart _ _).trans holds, exact_⟩
  | deliver other token free =>
      have apart : id ≠ other := fun same => nomatch (same ▸ free).symm.trans holds
      exact ⟨stage, (Function.update_of_ne apart _ _).trans holds, exact_⟩
  | input other input closer after here moved =>
      by_cases same : id = other
      · subst same
        cases Option.some.inj (here.symm.trans holds)
        obtain ⟨stage', onward, rfl⟩ := Option.map_eq_some_iff.mp moved
        exact ⟨stage', Function.update_self .., SweepStage.exact_next exact_ onward⟩
      · have unchanged : closer.writes state.index input = state.index := by
          rcases closer.writes_cases state.index input with kept | written
          · exact kept
          · obtain ⟨closed, stamp, fate, -, rfl, acts, -⟩ := written
            rcases leaves with isSame | fails
            · exact absurd isSame.symm same
            · exact absurd fails acts
        refine ⟨stage, (Function.update_of_ne same _ _).trans holds, ?_⟩
        rw [unchanged]
        exact exact_

end ControlPlane.RunpodProxy
