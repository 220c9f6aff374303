import ControlPlane.Provision.Progress
import ControlPlane.Provision.Driving

/-! Whether driveJobIfNeeded reaps a live driver. Its guard looks at the job row it was handed, and
the statement that closes the job does not look at the lease again.
-/

namespace ControlPlane.Provision

open ControlPlane.Library
open ControlPlane.Store

/-- The engine is in a call of driveJobIfNeeded. -/
def EngineAt.inCall : EngineAt → Bool
  | .deciding _ _ _ | .reaping _ _ | .owesStatus | .claiming _ _ _ => true
  | .idle | .dispatched _ | .holding _ _ | .driving _ _ _ => false

/-- The lease of a job runs out later than now. -/
def LeasedAt (nowMs : Nat) (job : ProvisionJob) : Prop :=
  ∃ expiry, job.leaseUntil = some expiry ∧ nowMs < expiry * 1000

/-- A job and a plane, before anything is under way but the first driver of a new job. -/
def Driving.opening (nowMs : Nat) (rows : Rows) (dispatched : Option Tenant) : Driving where
  nowMs := nowMs
  rows := rows
  engines which := if which = 0 then dispatched.elim .idle .dispatched else .idle

/-- An action of a driveJobIfNeeded call does not fail a job that is leased, nor change the
lifecycle of its tenant.
-/
def LiveDriverSpared (state : Driving) : DrivingAction → Prop
  | .pass _ => True
  | .act which act =>
      ∀ next, state.step (.act which act) = some next → (state.engines which).inCall
        → LeasedAt state.nowMs state.rows.job
        → (next.rows.job.status = .failed → state.rows.job.status = .failed)
          ∧ next.rows.tenant.status = state.rows.tenant.status

/-- Where the job is leased, a reap of a job that is still open finds the lease that its call read,
and a tenant that is written failed had failed already.
-/
def LeaseAsRead (state : Driving) : DrivingAction → Prop
  | .act which .reap =>
      ∀ job message, state.engines which = .reaping job message → state.rows.job.status.active
        → LeasedAt state.nowMs state.rows.job → state.rows.job.leaseUntil = job.leaseUntil
  | .act which .writeFailed =>
      state.engines which = .owesStatus → LeasedAt state.nowMs state.rows.job
        → state.rows.tenant.status = .failed
  | _ => True

-----------------------------------------------------------------------------------------
-- What a call has read
-----------------------------------------------------------------------------------------

/-- A job row that an engine holds is of the job, and one it reaps had no lease left. -/
def EngineAt.HasRead (nowMs : Nat) (jobId : String) : EngineAt → Prop
  | .deciding _ _ job | .claiming _ _ job => job.id = jobId
  | .reaping job _ => job.id = jobId ∧ ¬LeasedAt nowMs job
  | .idle | .dispatched _ | .holding _ _ | .owesStatus | .driving _ _ _ => True

def Driving.AllRead (state : Driving) : Prop :=
  ∀ which, (state.engines which).HasRead state.nowMs state.rows.job.id

/-- A lease that is left later was left earlier. -/
theorem LeasedAt.earlier {nowMs later : Nat} {job : ProvisionJob} (leased : LeasedAt later job)
    (le : nowMs ≤ later)
    : LeasedAt nowMs job := by
  obtain ⟨expiry, isExpiry, left⟩ := leased
  exact ⟨expiry, isExpiry, Nat.lt_of_le_of_lt le left⟩

/-- A reap is decided on a row of an open job that nobody holds. -/
theorem driveDecision_reap {nowMs : Nat} {job : ProvisionJob} {message : String}
    (decided : driveDecision nowMs job = .reap message)
    : ¬LeasedAt nowMs job := by
  have unheld : job.status.active = true ∧ jobHasLiveDriver nowMs job = false := by
    unfold driveDecision at decided
    split_ifs at decided with active otherKind live aged stale queued
    all_goals exact ⟨active, Bool.eq_false_iff.mpr live⟩
  intro h
  obtain ⟨expiry, isExpiry, left⟩ := h
  have held := unheld.2
  rw [jobHasLiveDriver, unheld.1, isExpiry, Bool.true_and, Option.any_some] at held
  exact of_decide_eq_false held left

/-- A statement keeps the key of the row. -/
theorem onRow_id (update : Update ProvisionJob.id) (job : ProvisionJob)
    : (update.onRow job).id = job.id := by
  rcases update.onRow_cases job with same | ⟨-, set⟩
  · rw [same]
  · rw [set, update.keeps]

/-- No step of an invocation moves on to another job. -/
theorem invocation_jobId {now : Nat} {rows after : Rows} {invocation next : Invocation}
    {move : Move} (stepped : invocation.step now rows move = some (after, next))
    : after.job.id = rows.job.id := by
  cases Invocation.step_cases stepped with
  | recorded => exact onRow_id ..
  | @called done call rest budgetSpent plain =>
      change (call.onJob now rows.job).id = rows.job.id
      unfold ProvisionCall.onJob
      split
      · exact onRow_id ..
      · exact onRow_id ..
      · rfl
  | finished => exact onRow_id ..
  | ended => rfl
  | refused => rfl
  | threw => rfl
  | yielded => exact onRow_id ..
  | closed => exact onRow_id ..
  | wroteStatus => rfl
  | rolledBack => rfl

/-- One engine goes elsewhere, with what it has read, and the job stays the same job. -/
theorem Driving.AllRead.put {state : Driving} (read : state.AllRead) {which : Nat}
    {place : EngineAt} {rows : Rows} (same : rows.job.id = state.rows.job.id)
    (hasRead : place.HasRead state.nowMs state.rows.job.id)
    : (Driving.put { state with rows := rows } which place).AllRead := by
  intro other
  change (Function.update state.engines which place other).HasRead state.nowMs rows.job.id
  rw [same]
  by_cases isWhich : other = which
  · rw [isWhich, Function.update_self]
    exact hasRead
  · rw [Function.update_of_ne isWhich]
    exact read other

/-- Every action keeps what the engines have read: a row that is reaped was decided on without a
lease, and a driver's calls stay with the job.
-/
theorem Driving.AllRead.step {state next : Driving} {action : DrivingAction} (read : state.AllRead)
    (stepped : state.step action = some next)
    : next.AllRead := by
  cases action with
  | pass ms =>
      cases stepped
      intro which
      have before := read which
      change (state.engines which).HasRead (state.nowMs + ms) state.rows.job.id
      cases place : state.engines which with
      | reaping job message =>
          rw [place] at before
          exact ⟨before.1, fun leased => before.2 (leased.earlier (Nat.le_add_right _ _))⟩
      | deciding engine tenant job =>
          rw [place] at before
          exact before
      | claiming engine tenant job =>
          rw [place] at before
          exact before
      | idle => trivial
      | dispatched tenant => trivial
      | holding engine tenant => trivial
      | owesStatus => trivial
      | driving engine tenant invocation => trivial
  | act which act =>
      have before := read which
      simp only [Driving.step] at stepped
      unfold Driving.act at stepped
      split at stepped
      · cases stepped
        exact read.put rfl trivial
      · obtain ⟨-, moved⟩ := Option.ite_none_right_eq_some.mp stepped
        cases moved
        exact read.put rfl trivial
      · cases stepped
        exact read.put rfl rfl
      · cases stepped
        exact read.put rfl trivial
      · next engine tenant job place =>
          rw [place] at before
          split at stepped
          · cases stepped
            exact read.put rfl trivial
          · next message decided =>
              cases stepped
              exact read.put rfl ⟨before, driveDecision_reap decided⟩
          · cases stepped
            exact read.put rfl before
      · cases stepped
        refine read.put (onRow_id ..) ?_
        split <;> trivial
      · cases stepped
        exact read.put rfl trivial
      · next engine tenant job answers place =>
          by_cases won : (claimJob state.now job.id jobLeaseSeconds).guard state.rows.job = true
          · rw [if_pos won] at stepped
            split at stepped
            · cases stepped
              exact read.put (onRow_id ..) trivial
            · cases stepped
              exact read.put (onRow_id ..) trivial
          · rw [if_neg won] at stepped
            cases stepped
            exact read.put rfl trivial
      · next engine tenant invocation move place =>
          obtain ⟨moved, taken, isNext⟩ := Option.map_eq_some_iff.mp stepped
          cases isNext
          refine read.put (invocation_jobId taken) ?_
          split
          · cases engine <;> trivial
          · trivial
      · cases stepped
        intro other
        have kept := read other
        rwa [← onRow_id (renewJobLease state.now state.rows.job.id jobLeaseSeconds)
          state.rows.job] at kept
      · exact nomatch stepped

-----------------------------------------------------------------------------------------
-- The two writes of a call
-----------------------------------------------------------------------------------------

variable {state : Driving} {which : Nat}

/-- An action of an engine that is in no call of driveJobIfNeeded is none of the call's. -/
theorem spared_of_notInCall {act : EngineAct} (outside : (state.engines which).inCall = false)
    : LiveDriverSpared state (.act which act) := by
  intro next stepped inCall
  rw [outside] at inCall
  exact nomatch inCall

theorem leaseAsRead_of_notInCall {act : EngineAct} (outside : (state.engines which).inCall = false)
    : LeaseAsRead state (.act which act) := by
  unfold LeaseAsRead
  split
  · next reaper same =>
      cases same
      intro job message place
      rw [place] at outside
      exact nomatch outside
  · next writer same =>
      cases same
      intro place
      rw [place] at outside
      exact nomatch outside
  · trivial

/-- A reap spares a live driver exactly when an open job that it finds leased has the lease that
the call has read, and so is not leased at all.
-/
theorem spared_reap_iff {job : ProvisionJob} {message : String} (read : state.AllRead)
    (place : state.engines which = .reaping job message)
    : LiveDriverSpared state (.act which .reap) ↔ LeaseAsRead state (.act which .reap) := by
  have own := read which
  rw [place] at own
  obtain ⟨sameId, lapsed⟩ := own
  have taken : state.step (.act which .reap) = state.act which (.reaping job message) .reap := by
    rw [Driving.step, place]
  let close := finishJob state.now job.id .failed job.step (some message)
  constructor
  · intro spared other text there active leased
    cases place.symm.trans there
    have closed : close.onRow state.rows.job = close.set state.rows.job :=
      Update.onRow_of_match sameId.symm active
    have kept := (spared _ taken (place ▸ rfl) leased).1 (congrArg ProvisionJob.status closed)
    rw [kept] at active
    exact absurd active Bool.false_ne_true
  · intro asRead next stepped _ leased
    rw [taken] at stepped
    cases stepped
    refine ⟨fun failed => ?_, rfl⟩
    by_cases active : state.rows.job.status.active = true
    · obtain ⟨expiry, isExpiry, left⟩ := leased
      have same := asRead job message place active ⟨expiry, isExpiry, left⟩
      exact absurd ⟨expiry, same.symm.trans isExpiry, left⟩ lapsed
    · have refused : close.onRow state.rows.job = state.rows.job :=
        Update.onRow_of_not fun matched => active matched.2
      exact (congrArg ProvisionJob.status refused).symm.trans failed

/-- The write behind a reap spares a live driver exactly when a tenant whose job is leased again had
failed already.
-/
theorem spared_writeFailed_iff (place : state.engines which = .owesStatus)
    : LiveDriverSpared state (.act which .writeFailed)
      ↔ LeaseAsRead state (.act which .writeFailed) := by
  have taken : state.step (.act which .writeFailed) = state.act which .owesStatus .writeFailed := by
    rw [Driving.step, place]
  have written : ((Store.setTenantStatus state.now state.rows.tenant.id .failed).onRow
      state.rows.tenant).status = .failed := by
    rw [setTenantStatus_onRow]
    rfl
  constructor
  · intro spared _ leased
    exact (spared _ taken (place ▸ rfl) leased).2.symm.trans written
  · intro failed next stepped _ leased
    rw [taken] at stepped
    cases stepped
    exact ⟨id, written.trans (failed place leased).symm⟩

/-- One action spares a live driver exactly when its lease is as read. -/
theorem spared_iff {next : Driving} {action : DrivingAction} (read : state.AllRead)
    (stepped : state.step action = some next)
    : LiveDriverSpared state action ↔ LeaseAsRead state action := by
  cases action with
  | pass ms => exact iff_of_true trivial trivial
  | act which act =>
      by_cases inCall : (state.engines which).inCall
      · cases place : state.engines which with
        | idle =>
            rw [place] at inCall
            exact nomatch inCall
        | dispatched tenant =>
            rw [place] at inCall
            exact nomatch inCall
        | holding engine tenant =>
            rw [place] at inCall
            exact nomatch inCall
        | driving engine tenant invocation =>
            rw [place] at inCall
            exact nomatch inCall
        | deciding engine tenant job =>
            rw [Driving.step, place] at stepped
            cases act with
            | decide =>
                refine iff_of_true (fun other taken _ _ => ?_) trivial
                rw [Driving.step, place] at taken
                simp only [Driving.act] at taken
                split at taken
                all_goals
                  cases taken
                  exact ⟨id, rfl⟩
            | _ => exact nomatch stepped
        | reaping job message =>
            rw [Driving.step, place] at stepped
            cases act with
            | reap => exact spared_reap_iff read place
            | _ => exact nomatch stepped
        | owesStatus =>
            rw [Driving.step, place] at stepped
            cases act with
            | writeFailed => exact spared_writeFailed_iff place
            | _ => exact nomatch stepped
        | claiming engine tenant job =>
            rw [Driving.step, place] at stepped
            cases act with
            | claim answers =>
                refine iff_of_true (fun other taken _ _ => ?_) trivial
                have kept : (state.rows.onJob
                    (claimJob state.now job.id jobLeaseSeconds)).job.status
                    = state.rows.job.status :=
                  Sweep.onRow_keeps _ ProvisionJob.status (fun _ _ => rfl) state.rows.job
                rw [Driving.step, place] at taken
                simp only [Driving.act] at taken
                split at taken
                · split at taken
                  all_goals
                    cases taken
                    exact ⟨fun failed => kept.symm.trans failed, rfl⟩
                · cases taken
                  exact ⟨id, rfl⟩
            | _ => exact nomatch stepped
      · have outside := Bool.eq_false_iff.mpr inCall
        exact iff_of_true (spared_of_notInCall outside) (leaseAsRead_of_notInCall outside)

theorem allRead_opening (nowMs : Nat) (rows : Rows) (dispatched : Option Tenant)
    : (Driving.opening nowMs rows dispatched).AllRead := by
  intro which
  simp only [Driving.opening]
  split
  · cases dispatched <;> trivial
  · trivial

/-- In a run from any job and tenant, with any number of polls and ticks, no driveJobIfNeeded call
reaps a live driver exactly when each closing write finds the lease its call has read, and each
write behind one finds the job not leased again.
-/
theorem liveDriverSpared_iff (nowMs : Nat) (rows : Rows) (dispatched : Option Tenant)
    (run : List DrivingAction)
    : Throughout Driving.step LiveDriverSpared (Driving.opening nowMs rows dispatched) run
      ↔ Throughout Driving.step LeaseAsRead (Driving.opening nowMs rows dispatched) run := by
  refine throughout_congr ?_ ?_ (allRead_opening nowMs rows dispatched)
  · exact fun state action next read stepped => Driving.AllRead.step read stepped
  · exact fun state action next read stepped => spared_iff read stepped

-----------------------------------------------------------------------------------------
-- A claim between the read and the reap
-----------------------------------------------------------------------------------------

/-- A job whose driver yielded behind its first step, and handed the lease back. -/
def yieldedJob : ProvisionJob where
  id := "job_1"
  tenantId := "ten_1"
  kind := .provision
  status := .running
  stepsDone := stringifySteps [.d1Create]
  createdAt := 0
  updatedAt := 0

def yieldedRows : Rows where
  job := yieldedJob
  tenant := { requestedTenant with status := .provisioning, d1DatabaseId := some "db_1" }

/-- The owner's poll comes back just before the job is stale, and a tick reads the same row just
after; the poll's claim wins before the tick closes the job.
-/
def claimBeforeReap : List DrivingAction :=
  [.pass 599900, .act 1 (.readTenant .poll), .act 1 .readJob, .act 1 .decide,
    .act 2 (.readTenant .tick), .pass 200, .act 2 .readJob, .act 2 .decide,
    .act 1 (.claim pooledAnswers)]

theorem reap_closesLiveDriver
    : ¬Throughout Driving.step LiveDriverSpared (Driving.opening 0 yieldedRows none)
        (claimBeforeReap ++ [.act 2 .reap]) := by
  intro spared
  obtain ⟨claimed, reached, shown⟩ := Option.map_eq_some_iff.mp
    (show (exec Driving.step (Driving.opening 0 yieldedRows none) claimBeforeReap).map
        (fun state =>
          (state.nowMs, state.rows.job.leaseUntil, state.rows.job.status,
            (state.engines 2).inCall,
            (state.step (.act 2 .reap)).map fun next => next.rows.job.status))
      = some (600100, some 660, .running, true, some .failed) by decide +kernel)
  simp only [Prod.mk.injEq] at shown
  obtain ⟨isNow, isLease, running, inCall, failed⟩ := shown
  obtain ⟨next, reaped, isFailed⟩ := Option.map_eq_some_iff.mp failed
  have leased : LeasedAt claimed.nowMs claimed.rows.job := ⟨660, isLease, by omega⟩
  have atReap := ((throughout_cons reaped).mp (throughout_append spared reached).2).1
  exact nomatch running.symm.trans ((atReap next reaped inCall leased).1 isFailed)

end ControlPlane.Provision
