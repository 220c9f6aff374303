import ControlPlane.Store.RunpodJobs
import ControlPlane.Teardown.Guard

/-! The job log of a tenant's own database, and a teardown that copies it into the index before
the database goes. With the index left out it is the teardown of the other modules.
-/

namespace ControlPlane.Teardown

open ControlPlane.Library
open ControlPlane.Store

/-- A row of runpod_job_log. -/
structure JobLogRow where
  jobId : Option String
  moduleName : Option String
  outcome : Option String
  submittedAt : Option Int
  terminalAt : Option Int
  deriving DecidableEq, Repr

/-- What a tenant's database answers to a harvest: whether it has the table, and its rows in the
order of submitted_at. A database without the table has no rows.
-/
structure TenantJobLog where
  present : Except Thrown Bool
  select : Option Thrown
  rows : List JobLogRow
  tableless : present = .ok false → rows = []

structure HarvestResult where
  complete : Bool
  rows : List HarvestedJob
  tableAbsent : Bool
  deriving DecidableEq, Repr

/-- HARVEST_ROW_CAP. -/
def harvestRowCap : Nat := 5000

/-- A row as the index takes it. One without a job id indexes nothing. -/
def JobLogRow.harvested (row : JobLogRow) : Option HarvestedJob :=
  (truthy row.jobId).map fun jobId =>
    { jobId := jobId
      moduleName := truthy row.moduleName
      outcome := truthy row.outcome
      submittedAt := row.submittedAt
      terminalAt := row.terminalAt }

/-- Read a job log. One row more than the cap is asked for, so that a longer log is seen. -/
def harvestTenantJobLog (log : TenantJobLog) (cap : Nat) : Except Thrown HarvestResult :=
  match log.present with
  | .error thrown => .error thrown
  | .ok false => .ok { complete := true, rows := [], tableAbsent := true }
  | .ok true =>
      match log.select with
      | some thrown => .error thrown
      | none =>
          let raw := log.rows.take (cap + 1)
          .ok
            { complete := raw.length ≤ cap
              rows := (raw.take cap).filterMap JobLogRow.harvested
              tableAbsent := false }

/-- The answers of a pass whose harvest reads this log. -/
def Outside.reading (outside : Outside) (log : TenantJobLog) : Outside :=
  { outside with
    harvestComplete := (harvestTenantJobLog log harvestRowCap).map HarvestResult.complete }

/-- A pass and the job index beside it. -/
structure IndexedPass where
  pass : Pass
  index : RunpodJobIndex

section

variable (now : Nat) (log : TenantJobLog) (outside : Outside) (namespaces : Namespaces)
  (tenant : Tenant) (opts : TeardownOpts) (referrers : List ResourceReferrer)

/-- Harvest into the index. The index is written in one batch, or not at all. -/
def indexingLeg (state : IndexedPass) : IndexedPass :=
  let harvested := harvestLeg (outside.reading log) state.pass
  match harvestTenantJobLog log harvestRowCap with
  | .error _ => { state with pass := harvested }
  | .ok harvest =>
      if harvest.complete ∧ outside.indexRunpodJobs = none then
        { pass := harvested
          index := (state.index.indexRunpodJobs now tenant.id tenant.slug harvest.rows).1 }
      else
        { state with pass := harvested }

/-- Harvest and delete the database. A harvest that failed keeps it. -/
def indexedDatabaseLeg (state : IndexedPass) : IndexedPass :=
  match truthy tenant.d1DatabaseId with
  | none => state
  | some databaseId =>
      let (asked, refused) := guarded outside tenant opts referrers .d1 state.pass
      if refused then { state with pass := asked }
      else
        let indexed := indexingLeg now log outside tenant { state with pass := asked }
        if indexed.pass.failures.any fun failure => failure.resource = "job_index_harvest" then
          indexed
        else
          { indexed with
            pass :=
              indexed.pass.attempt outside tenant.id "d1"
                (fun before => (before.call (.deleteD1 databaseId), outside.deleteD1))
                (some .d1) (fun _ => false) }

/-- The legs of a pass that holds and referrers let through. -/
def indexedReap (state : IndexedPass) : IndexedPass :=
  let worker := workerLeg outside namespaces tenant opts referrers state.pass
  let tokens :=
    tokensLeg outside tenant opts referrers (modulesLeg outside namespaces tenant worker)
  if opts.deleteData then
    let database :=
      indexedDatabaseLeg now log outside tenant opts referrers { state with pass := tokens }
    { database with pass := bucketLeg outside tenant opts referrers database.pass }
  else
    { state with pass := tokens }

/-- One teardown, with the job log that it reads and the index that it writes. -/
def teardownIndexed (store : TenantStore) (index : RunpodJobIndex) : IndexedPass :=
  match outside.holds, readReferrers outside tenant store.tenants with
  | .ok [], .ok referrers =>
      let reaped := indexedReap now log outside namespaces tenant opts referrers
        { pass := { store := store }, index := index }
      { reaped with pass := recordTeardownSafely outside reaped.pass }
  | _, _ =>
      { pass := teardownTenant (outside.reading log) namespaces tenant opts store
        index := index }

end

-----------------------------------------------------------------------------------------
-- With the index left out
-----------------------------------------------------------------------------------------

section

variable {now : Nat} {log : TenantJobLog} {outside : Outside} {namespaces : Namespaces}
  {tenant : Tenant} {opts : TeardownOpts} {referrers : List ResourceReferrer}

theorem indexingLeg_pass (state : IndexedPass)
    : (indexingLeg now log outside tenant state).pass
      = harvestLeg (outside.reading log) state.pass := by
  unfold indexingLeg
  simp only
  split
  · rfl
  · split <;> rfl

theorem indexedDatabaseLeg_pass (state : IndexedPass)
    : (indexedDatabaseLeg now log outside tenant opts referrers state).pass
      = databaseLeg (outside.reading log) tenant opts referrers state.pass := by
  unfold indexedDatabaseLeg databaseLeg
  cases truthy tenant.d1DatabaseId with
  | none => rfl
  | some databaseId =>
      simp only
      have asked : guarded (outside.reading log) tenant opts referrers .d1 state.pass
          = guarded outside tenant opts referrers .d1 state.pass := rfl
      rw [asked]
      cases (guarded outside tenant opts referrers .d1 state.pass).2 with
      | true => rfl
      | false =>
          simp only [Bool.false_eq_true, if_false, indexingLeg_pass]
          split
          · exact indexingLeg_pass _
          · rfl

/-- The teardown that keeps the index is the teardown that does not, with the answers of its log. -/
theorem teardownIndexed_pass (store : TenantStore) (index : RunpodJobIndex)
    : (teardownIndexed now log outside namespaces tenant opts store index).pass
      = teardownTenant (outside.reading log) namespaces tenant opts store := by
  have holds : (outside.reading log).holds = outside.holds := rfl
  have asked : readReferrers (outside.reading log) tenant store.tenants
      = readReferrers outside tenant store.tenants := rfl
  unfold teardownIndexed
  split
  · next referrers noHolds read =>
      simp only [teardownTenant, holds, noHolds, asked, read, indexedReap, reap, reapBehindWorker]
      split
      · simp only [indexedDatabaseLeg_pass]
        rfl
      · rfl
  · rfl

-----------------------------------------------------------------------------------------
-- A database goes only once its log is in the index
-----------------------------------------------------------------------------------------

/-- The log was read to its end, and every job of it is in the index: under the tenant, unless the
index had the job before.
-/
structure WholeLogIndexed (log : TenantJobLog) (tenant : Tenant) (before after : RunpodJobIndex)
    : Prop where
  read : ∃ harvest, harvestTenantJobLog log harvestRowCap = .ok harvest ∧ harvest.complete
  rows : log.rows.length ≤ harvestRowCap
  indexed
    : ∀ row ∈ log.rows, ∀ jobId, truthy row.jobId = some jobId
        → ∃ job, after.jobs.get? jobId = some job
          ∧ (before.jobs.get? jobId = none
            → job.tenantId = tenant.id ∧ job.tenantSlug = tenant.slug)

/-- A job that a batch names is in the index after it, with what its new row has and every refinement
keeps, by induction on the batch.
-/
theorem get?_harvestAll {P : RunpodJob → Prop} {tenantId tenantSlug jobId : String}
    (fresh : ∀ harvested : HarvestedJob, P (harvested.row now tenantId tenantSlug))
    (kept : ∀ (harvested : HarvestedJob) job, P job → P (harvested.refine now job))
    (rows : List HarvestedJob) {index : RunpodJobIndex}
    (sofar : ∀ job, index.jobs.get? jobId = some job → P job)
    (named : (∃ harvested ∈ rows, harvested.jobId = jobId)
      ∨ ∃ job, index.jobs.get? jobId = some job)
    : ∃ job,
        (rows.foldl (RunpodJobIndex.harvestOne now tenantId tenantSlug) index).jobs.get? jobId
          = some job
        ∧ P job := by
  induction rows generalizing index with
  | nil =>
      rcases named with ⟨harvested, member, _⟩ | ⟨job, found⟩
      · exact absurd member List.not_mem_nil
      · exact ⟨job, found, sofar job found⟩
  | cons head rest ih =>
      by_cases own : jobId = head.jobId
      · have found := RunpodJobIndex.get?_harvestOne now tenantId tenantSlug index head jobId
        rw [if_pos own] at found
        refine ih (fun job isJob => ?_) (.inr ⟨_, found⟩)
        rw [Option.some.inj (isJob.symm.trans found)]
        cases before : index.jobs.get? jobId with
        | none => exact fresh head
        | some old => exact kept head old (sofar old before)
      · have same := RunpodJobIndex.get?_harvestOne now tenantId tenantSlug index head jobId
        rw [if_neg own] at same
        refine ih (fun job isJob => sofar job (same.symm.trans isJob)) ?_
        rcases named with ⟨harvested, member, isId⟩ | ⟨job, found⟩
        · rcases List.mem_cons.mp member with isHead | later
          · exact absurd (isId.symm.trans (congrArg HarvestedJob.jobId isHead)) own
          · exact .inl ⟨harvested, later, isId⟩
        · exact .inr ⟨job, same.trans found⟩

/-- A complete harvest has every row of the log that has a job id. -/
theorem harvest_complete {harvest : HarvestResult} {cap : Nat}
    (read : harvestTenantJobLog log cap = .ok harvest) (complete : harvest.complete)
    : log.rows.length ≤ cap ∧ harvest.rows = log.rows.filterMap JobLogRow.harvested := by
  unfold harvestTenantJobLog at read
  split at read
  · exact absurd read nofun
  · next absent =>
      cases read
      rw [log.tableless absent]
      exact ⟨Nat.zero_le cap, rfl⟩
  · split at read
    · exact absurd read nofun
    · cases read
      simp only [decide_eq_true_eq, List.length_take] at complete
      have fits : log.rows.length ≤ cap := by omega
      rw [List.take_of_length_le (by omega : log.rows.length ≤ cap + 1),
        List.take_of_length_le fits]
      exact ⟨fits, rfl⟩

/-- A batch of a complete harvest puts the whole log into the index. -/
theorem wholeLogIndexed_of_complete {harvest : HarvestResult} {index : RunpodJobIndex}
    (read : harvestTenantJobLog log harvestRowCap = .ok harvest) (complete : harvest.complete)
    : WholeLogIndexed log tenant index
        (index.indexRunpodJobs now tenant.id tenant.slug harvest.rows).1 := by
  obtain ⟨fits, all⟩ := harvest_complete read complete
  refine ⟨⟨harvest, read, complete⟩, fits, ?_⟩
  intro row member jobId hasId
  have named : ∃ harvested ∈ harvest.rows, harvested.jobId = jobId := by
    have became : ∃ harvested, row.harvested = some harvested ∧ harvested.jobId = jobId :=
      ⟨_, congrArg (Option.map _) hasId, rfl⟩
    obtain ⟨harvested, isHarvested, isId⟩ := became
    exact ⟨harvested, all ▸ List.mem_filterMap.mpr ⟨row, member, isHarvested⟩, isId⟩
  have someRows : ¬ harvest.rows.length = 0 := by
    obtain ⟨harvested, isRow, _⟩ := named
    exact Nat.ne_of_gt (List.length_pos_of_mem isRow)
  simp only [RunpodJobIndex.indexRunpodJobs, if_neg someRows]
  refine get?_harvestAll (fun _ _ => ⟨rfl, rfl⟩) (fun _ _ before => before) harvest.rows ?_
    (.inl named)
  intro job found free
  exact absurd (free.symm.trans found) (Option.some_ne_none _).symm

/-- The guard issues no call. -/
theorem guarded_calls (outside : Outside) (tenant : Tenant) (opts : TeardownOpts)
    (referrers : List ResourceReferrer) (kind : ResourceKind) (pass : Pass)
    : (guarded outside tenant opts referrers kind pass).1.calls = pass.calls := by
  unfold guarded
  simp only
  split
  · rfl
  · split
    · rfl
    · split <;> rfl

/-- The harvest issues none of the calls a teardown is judged by. -/
theorem harvestLeg_calls (pass : Pass) : (harvestLeg outside pass).calls = pass.calls := by
  unfold harvestLeg
  split
  · rfl
  · rfl
  · split <;> rfl

/-- A harvest that leaves no failure behind read everything and wrote it. -/
theorem harvestLeg_silent {pass : Pass}
    (silent
      : ¬ ((harvestLeg outside pass).failures.any
          fun failure => failure.resource = "job_index_harvest") = true)
    : outside.harvestComplete = .ok true ∧ outside.indexRunpodJobs = none := by
  unfold harvestLeg at silent
  split at silent
  · exact absurd (by simp [Pass.fail]) silent
  · exact absurd (by simp [Pass.fail]) silent
  · next complete =>
      split at silent
      · exact absurd (by simp [Pass.fail]) silent
      · next written => exact ⟨complete, written⟩

/-- An indexing that leaves no failure behind has put the whole log into the index. -/
theorem wholeLogIndexed_of_silent {state : IndexedPass}
    (silent
      : ¬ ((indexingLeg now log outside tenant state).pass.failures.any
          fun failure => failure.resource = "job_index_harvest") = true)
    : WholeLogIndexed log tenant state.index (indexingLeg now log outside tenant state).index := by
  rw [indexingLeg_pass] at silent
  obtain ⟨complete, written⟩ := harvestLeg_silent silent
  change (harvestTenantJobLog log harvestRowCap).map HarvestResult.complete = .ok true at complete
  change outside.indexRunpodJobs = none at written
  unfold indexingLeg
  cases read : harvestTenantJobLog log harvestRowCap with
  | error thrown =>
      rw [read] at complete
      exact absurd complete nofun
  | ok harvest =>
      rw [read] at complete
      have isComplete : harvest.complete = true := Except.ok.inj complete
      simp only [isComplete, written, and_self, if_true]
      exact wholeLogIndexed_of_complete read isComplete

/-- The database leg deletes a database only behind an indexing of its whole log. -/
theorem indexedDatabaseLeg_deletes (state : IndexedPass) {databaseId : String}
    (before : TeardownCall.deleteD1 databaseId ∉ state.pass.calls)
    (issued
      : TeardownCall.deleteD1 databaseId
        ∈ (indexedDatabaseLeg now log outside tenant opts referrers state).pass.calls)
    : WholeLogIndexed log tenant state.index
        (indexedDatabaseLeg now log outside tenant opts referrers state).index := by
  have asked := guarded_calls outside tenant opts referrers .d1 state.pass
  unfold indexedDatabaseLeg at issued ⊢
  cases own : truthy tenant.d1DatabaseId with
  | none =>
      simp only [own] at issued
      exact absurd issued before
  | some databaseId' =>
      simp only [own] at issued ⊢
      split at issued
      · simp only [asked] at issued
        exact absurd issued before
      · next notRefused =>
          rw [if_neg notRefused]
          split at issued
          · simp only [indexingLeg_pass, harvestLeg_calls, asked] at issued
            exact absurd issued before
          · next silent =>
              rw [if_neg silent]
              exact wholeLogIndexed_of_silent silent

/-- The legs before the data delete no database. -/
theorem continues_beforeData (pass : Pass) (databaseId : String)
    : Continues (fun call => call ≠ .deleteD1 databaseId) (fun _ => False) pass
        (tokensLeg outside tenant opts referrers
          (modulesLeg outside namespaces tenant
            (workerLeg outside namespaces tenant opts referrers pass))) := by
  have worker : Continues (fun call => call ≠ .deleteD1 databaseId) (fun _ => False) pass
      (workerLeg outside namespaces tenant opts referrers pass) :=
    continues_workerLeg (fun _ => nofun) fun _ => False.elim
  have modules : ∀ before, Continues (fun call => call ≠ .deleteD1 databaseId) (fun _ => False)
      before (modulesLeg outside namespaces tenant before) :=
    fun before => continues_modulesLeg fun _ _ => nofun
  have tokens : ∀ before, Continues (fun call => call ≠ .deleteD1 databaseId) (fun _ => False)
      before (tokensLeg outside tenant opts referrers before) :=
    fun before => continues_tokensLeg (fun _ _ _ => nofun) (fun _ _ => nofun) fun _ => False.elim
  exact (worker.trans (modules _)).trans (tokens _)

/-- The bucket leg deletes no database. -/
theorem continues_bucketOnly (pass : Pass) (databaseId : String)
    : Continues (fun call => call ≠ .deleteD1 databaseId) (fun _ => False) pass
        (bucketLeg outside tenant opts referrers pass) :=
  continues_bucketLeg (fun _ _ _ => ⟨nofun, nofun⟩) (fun _ _ => nofun) (fun _ _ => nofun)
    fun _ => False.elim

/-- A database is deleted only if its whole job log was read and indexed in the same pass. -/
theorem indexedReap_deletes {state : IndexedPass} {databaseId : String}
    (before : TeardownCall.deleteD1 databaseId ∉ state.pass.calls)
    (issued
      : TeardownCall.deleteD1 databaseId
        ∈ (indexedReap now log outside namespaces tenant opts referrers state).pass.calls)
    : WholeLogIndexed log tenant state.index
        (indexedReap now log outside namespaces tenant opts referrers state).index := by
  have notYet : TeardownCall.deleteD1 databaseId
      ∉ (tokensLeg outside tenant opts referrers
          (modulesLeg outside namespaces tenant
            (workerLeg outside namespaces tenant opts referrers state.pass))).calls := by
    intro member
    exact (continues_beforeData state.pass databaseId).all
      (fun call earlier same => before (same ▸ earlier)) _ member rfl
  unfold indexedReap at issued ⊢
  simp only at issued ⊢
  split at issued
  · next deletes =>
      rw [if_pos deletes]
      refine indexedDatabaseLeg_deletes ⟨_, state.index⟩ notYet ?_
      by_contra absent
      exact (continues_bucketOnly _ databaseId).all
        (fun call earlier same => absent (same ▸ earlier)) _ issued rfl
  · exact absurd issued notYet

/-- The same of a whole teardown. One that is refused deletes nothing. -/
theorem teardownIndexed_deletes {store : TenantStore} {index : RunpodJobIndex}
    {databaseId : String}
    (issued
      : TeardownCall.deleteD1 databaseId
        ∈ (teardownIndexed now log outside namespaces tenant opts store index).pass.calls)
    : WholeLogIndexed log tenant index
        (teardownIndexed now log outside namespaces tenant opts store index).index := by
  rcases teardownTenant_calls (outside.reading log) namespaces tenant opts store
    with ⟨⟨noHolds, _⟩, referrers, read, _⟩ | ⟨_, nothing⟩
  · change outside.holds = .ok [] at noHolds
    change readReferrers outside tenant store.tenants = .ok referrers at read
    simp only [teardownIndexed, noHolds, read, recordTeardownSafely_calls] at issued ⊢
    exact indexedReap_deletes List.not_mem_nil issued
  · rw [teardownIndexed_pass, nothing] at issued
    exact absurd issued List.not_mem_nil

end

end ControlPlane.Teardown
