import ControlPlane.Store.ProvisionJobs
import ControlPlane.TenantLifecycle.Tokens

/-! Drivers, reclaims, teardowns and rollbacks over one plane. Leased passes exclude one
another by the row's lease and token; a rollback takes no lease, and no job statement
consults one.
-/

namespace ControlPlane.TenantLifecycle

open ControlPlane.Library
open ControlPlane.Store

/-- A reclaim or an operator teardown that won its claim and has not completed. -/
structure LeasedPass where
  token : String
  tenantId : String
  expiry : Nat
  started : Bool := false
  deriving DecidableEq, Repr

/-- The clock, the two tables, and the destructive passes of the running invocations: the
leased ones, the tenants of drivers that closed their job as failed and owe a rollback, and
the tenants being rolled back.
-/
structure Plane where
  now : Nat
  tenants : Tenants
  jobs : Jobs
  passes : Keyed LeasedPass.token
  owed : List String := []
  rollbacks : List String := []

inductive PlaneAction
  | tick (seconds : Nat)
  | createProvisionJob (id tenantId : String) (kind : JobKind)
      (runpodMode toRelease : Option String)
  | job (call : JobCall)
  | driverFails (id : String) (errorStep errorMessage : Option String)
  | tenant (call : TenantCall)
  | startTeardown (token : String)
  | startRollback (tenantId : String)
  | rollbackReturns (tenantId : String)
  deriving DecidableEq, Repr

/-- The call as an event at the plane's clock and jobs. -/
def Plane.event (plane : Plane) (call : TenantCall) : TenantEvent where
  now := plane.now
  jobs := plane.jobs
  call := call

/-- The leased passes after a call: a claim that wins adds one under its fresh token, and a
completion that is accepted ends the one it names.
-/
def Plane.passesAfter (plane : Plane) (call : TenantCall)
    : Option (Keyed LeasedPass.token) :=
  if (plane.event call).answer plane.tenants = none then
    some plane.passes
  else
    match call.minted, call.presented with
    | some (token, seconds), _ =>
        if fresh : ∀ pass ∈ plane.passes.rows, pass.token ≠ token then
          let pass : LeasedPass :=
            { token := token, tenantId := call.tenantId, expiry := plane.now + seconds }
          some (plane.passes.insert pass fresh)
        else
          none
    | none, some token =>
        some (plane.passes.filter fun pass =>
          ¬ (pass.tenantId = call.tenantId ∧ pass.token = token))
    | none, none => some plane.passes

/-- Mark a pass as destroying. -/
def startPass (token : String) : Update LeasedPass.token where
  target := token
  guard _ := true
  set pass := { pass with started := true }
  keeps _ := rfl

/-- One action, or nothing when no invocation is in a place to take it. -/
def Plane.step (plane : Plane) : PlaneAction → Option Plane
  | .tick seconds => some { plane with now := plane.now + seconds }
  | .createProvisionJob id tenantId kind runpodMode toRelease =>
      let job := queuedJob plane.now id tenantId kind runpodMode toRelease
      if fresh : ∀ old ∈ plane.jobs.rows, old.id ≠ job.id then
        some { plane with jobs := plane.jobs.insert job fresh }
      else
        none
  | .job call => some { plane with jobs := (call.statement plane.now).apply plane.jobs }
  | .driverFails id errorStep errorMessage =>
      let close := finishJob plane.now id .failed errorStep errorMessage
      some
        { plane with
          jobs := close.apply plane.jobs
          owed := ((close.returning plane.jobs).map ProvisionJob.tenantId).toList ++ plane.owed }
  | .tenant call =>
      (plane.passesAfter call).map fun passes =>
        { plane with
          tenants := (plane.event call).statement.apply plane.tenants
          passes := passes }
  | .startTeardown token =>
      if ∃ pass ∈ plane.passes.rows, pass.token = token ∧ pass.started = false then
        some { plane with passes := (startPass token).apply plane.passes }
      else
        none
  | .startRollback tenantId =>
      if tenantId ∈ plane.owed then
        some
          { plane with
            owed := plane.owed.erase tenantId
            rollbacks := tenantId :: plane.rollbacks }
      else
        none
  | .rollbackReturns tenantId =>
      if tenantId ∈ plane.rollbacks then
        some { plane with rollbacks := plane.rollbacks.erase tenantId }
      else
        none

/-- The pass is destroying, and its lease has not run out. -/
def LeasedPass.InProgress (now : Nat) (pass : LeasedPass) : Prop :=
  pass.started ∧ Lease.Live now (some pass.expiry)

/-- No two destructive passes over a tenant at once, and none over a tenant that a job
driver holds.
-/
structure Exclusive (plane : Plane) : Prop where
  leased
    : ∀ pass ∈ plane.passes.rows, ∀ other ∈ plane.passes.rows,
        pass.InProgress plane.now → other.InProgress plane.now
        → pass.tenantId = other.tenantId → pass = other
  leasedNotRolledBack
    : ∀ pass ∈ plane.passes.rows, pass.InProgress plane.now
        → pass.tenantId ∉ plane.rollbacks
  rolledBackOnce : plane.rollbacks.Nodup
  leasedNotDriven
    : ∀ pass ∈ plane.passes.rows, pass.InProgress plane.now
        → NoLiveJob plane.now pass.tenantId plane.jobs
  rolledBackNotDriven
    : ∀ tenantId ∈ plane.rollbacks, NoLiveJob plane.now tenantId plane.jobs

/-- No destructive pass over the tenant is in progress. -/
def Idle (plane : Plane) (tenantId : String) : Prop :=
  tenantId ∉ plane.rollbacks
  ∧ ∀ pass ∈ plane.passes.rows, pass.InProgress plane.now → pass.tenantId ≠ tenantId

/-- The actions that keep the passes apart: a job statement that leaves a live lease finds
the tenant idle, a leased teardown starts with no rollback and no driver, and a rollback
starts on an idle tenant with no driver.
-/
def Unobstructed (plane : Plane) : PlaneAction → Prop
  | .job call =>
      ∀ job, plane.jobs.get? call.jobId = some job
        → (call.statement plane.now).guard job
        → ((call.statement plane.now).set job).HasLiveLease plane.now
        → Idle plane job.tenantId
  | .startTeardown token =>
      ∀ pass ∈ plane.passes.rows, pass.token = token
        → Lease.Live plane.now (some pass.expiry)
        → pass.tenantId ∉ plane.rollbacks ∧ NoLiveJob plane.now pass.tenantId plane.jobs
  | .startRollback tenantId =>
      Idle plane tenantId ∧ NoLiveJob plane.now tenantId plane.jobs
  | .tick _ | .createProvisionJob _ _ _ _ _ | .driverFails _ _ _ | .tenant _
  | .rollbackReturns _ => True

/-- A plane on which no destructive pass is running. -/
def Plane.idle (now : Nat) (tenants : Tenants) (jobs : Jobs) : Plane where
  now := now
  tenants := tenants
  jobs := jobs
  passes := .empty

-----------------------------------------------------------------------------------------
-- A pass under way holds the lease of its row
-----------------------------------------------------------------------------------------

/-- While a pass has not completed and its lease has not run out, the row carries its lease
and its token.
-/
def LeaseHeld (plane : Plane) : Prop :=
  ∀ pass ∈ plane.passes.rows, Lease.Unexpired plane.now (some pass.expiry)
    → ∃ tenant, plane.tenants.get? pass.tenantId = some tenant
        ∧ tenant.reclaimLeaseUntil = some pass.expiry
        ∧ tenant.reclaimLeaseToken = some pass.token

/-- Where a pass after a call comes from: it was there and was not completed, or the call
has just claimed it.
-/
theorem mem_passesAfter {plane : Plane} {call : TenantCall} {passes : Keyed LeasedPass.token}
    (moved : plane.passesAfter call = some passes) {pass : LeasedPass}
    (member : pass ∈ passes.rows)
    : (pass ∈ plane.passes.rows
        ∧ ∀ token, Completes pass.tenantId token (plane.event call)
          → (plane.event call).answer plane.tenants ≠ none
          → pass.token ≠ token)
      ∨ ∃ seconds, Claims pass.tenantId pass.token seconds (plane.event call)
          ∧ (plane.event call).answer plane.tenants ≠ none
          ∧ pass.expiry = plane.now + seconds
          ∧ pass.started = false := by
  by_cases refused : (plane.event call).answer plane.tenants = none
  · rw [Plane.passesAfter, if_pos refused, Option.some.injEq] at moved
    subst moved
    exact .inl ⟨member, fun _ _ answered => absurd refused answered⟩
  rw [Plane.passesAfter, if_neg refused] at moved
  cases claims : call.minted with
  | some pair =>
      obtain ⟨token, seconds⟩ := pair
      simp only [claims] at moved
      split at moved
      · next fresh =>
          rw [Option.some.injEq] at moved
          subst moved
          rcases List.mem_append.mp member with earlier | added
          · refine .inl ⟨earlier, ?_⟩
            intro other completes
            have presents := completes.2
            rw [Plane.event, TenantCall.presented_of_minted claims] at presents
            exact absurd presents (Option.some_ne_none _).symm
          · rw [List.mem_singleton] at added
            subst added
            exact .inr ⟨seconds, ⟨rfl, claims⟩, refused, rfl, rfl⟩
      · exact absurd moved (Option.some_ne_none _).symm
  | none =>
      cases completes : call.presented with
      | some token =>
          simp only [claims, completes, Option.some.injEq] at moved
          subst moved
          obtain ⟨earlier, kept⟩ := List.mem_filter.mp member
          refine .inl ⟨earlier, ?_⟩
          intro other completed _ same
          have presents : some token = some other := completes.symm.trans completed.2
          rw [← Option.some.inj presents] at same
          simp only [decide_eq_true_eq] at kept
          exact kept ⟨completed.1.symm, same⟩
      | none =>
          simp only [claims, completes, Option.some.injEq] at moved
          subst moved
          refine .inl ⟨member, ?_⟩
          intro token completed
          exact absurd (completes.symm.trans completed.2) (Option.some_ne_none _).symm

/-- Starting a pass marks the one with its token and leaves the others. -/
theorem mem_startPass {passes : Keyed LeasedPass.token} {token : String} {pass : LeasedPass}
    (member : pass ∈ ((startPass token).apply passes).rows)
    : ∃ old ∈ passes.rows, pass.token = old.token
        ∧ pass.tenantId = old.tenantId
        ∧ pass.expiry = old.expiry
        ∧ (pass = old ∨ old.token = token) := by
  rcases Update.mem_apply_cases member with ⟨old, earlier, found, _, became⟩ | earlier
  · subst became
    exact ⟨old, earlier, rfl, rfl, rfl, .inr (Keyed.get?_key found)⟩
  · exact ⟨pass, earlier, rfl, rfl, rfl, .inl rfl⟩

/-- A call on the tenants keeps every live pass in possession of its row: a claim of the row
would need its lease to be free, and a completion ends the pass whose token it spends.
-/
theorem leaseHeld_tenant {plane : Plane} {call : TenantCall} {passes : Keyed LeasedPass.token}
    (held : LeaseHeld plane) (moved : plane.passesAfter call = some passes)
    : LeaseHeld
        { plane with
          tenants := (plane.event call).statement.apply plane.tenants
          passes := passes } := by
  intro pass member unexpired
  rcases mem_passesAfter moved member with
    ⟨earlier, uncompleted⟩ | ⟨seconds, claims, won, expiry, _⟩
  · obtain ⟨tenant, found, lease, carries⟩ := held pass earlier unexpired
    obtain ⟨later, reached, moves⟩ := token_step (plane.event call) found
    refine ⟨later, reached, ?_⟩
    rcases moves with ⟨sameLease, sameToken⟩ | claimed | completed
    · exact ⟨sameLease.trans lease, sameToken.trans carries⟩
    · obtain ⟨_, _, _, free, _, _⟩ := claimed
      rw [lease] at free
      exact absurd unexpired (Lease.free_iff_not_unexpired.mp free)
    · obtain ⟨token, completes, answered, carried, _, _⟩ := completed
      have same : pass.token = token := Option.some.inj (carries.symm.trans carried)
      exact absurd same (uncompleted token completes answered)
  · obtain ⟨tenant, _, _, changed⟩ := accepted claims.1 won
    rw [expiry]
    exact ⟨_, changed, (TenantCall.claim_spec claims.2).2⟩

/-- One action keeps every live pass in possession of its row. -/
theorem leaseHeld_step {plane next : Plane} {action : PlaneAction} (held : LeaseHeld plane)
    (taken : plane.step action = some next)
    : LeaseHeld next := by
  cases action with
  | tick seconds =>
      cases taken
      intro pass member unexpired
      refine held pass member ?_
      simp only [Lease.unexpired_some] at unexpired ⊢
      omega
  | createProvisionJob id tenantId kind runpodMode toRelease =>
      simp only [Plane.step] at taken
      split at taken
      · cases taken
        exact held
      · exact absurd taken (Option.some_ne_none _).symm
  | job call =>
      cases taken
      exact held
  | driverFails id errorStep errorMessage =>
      cases taken
      exact held
  | tenant call =>
      simp only [Plane.step, Option.map_eq_some_iff] at taken
      obtain ⟨passes, moved, became⟩ := taken
      subst became
      exact leaseHeld_tenant held moved
  | startTeardown token =>
      simp only [Plane.step] at taken
      split at taken
      · cases taken
        intro pass member unexpired
        obtain ⟨old, earlier, sameToken, sameTenant, sameExpiry, _⟩ := mem_startPass member
        have before := held old earlier (sameExpiry ▸ unexpired)
        rw [sameToken, sameTenant, sameExpiry]
        exact before
      · exact absurd taken (Option.some_ne_none _).symm
  | startRollback tenantId =>
      simp only [Plane.step] at taken
      split at taken
      · cases taken
        exact held
      · exact absurd taken (Option.some_ne_none _).symm
  | rollbackReturns tenantId =>
      simp only [Plane.step] at taken
      split at taken
      · cases taken
        exact held
      · exact absurd taken (Option.some_ne_none _).symm

/-- Two live passes over one tenant are one pass. -/
theorem LeaseHeld.eq_of_tenant {plane : Plane} (held : LeaseHeld plane)
    {pass other : LeasedPass} (first : pass ∈ plane.passes.rows)
    (second : other ∈ plane.passes.rows) (live : Lease.Live plane.now (some pass.expiry))
    (otherLive : Lease.Live plane.now (some other.expiry))
    (same : pass.tenantId = other.tenantId)
    : pass = other := by
  obtain ⟨tenant, found, _, carries⟩ := held pass first live.unexpired
  obtain ⟨tenant', found', _, carries'⟩ := held other second otherLive.unexpired
  rw [← same, found] at found'
  have sameRow : tenant = tenant' := Option.some.inj found'
  subst sameRow
  exact Keyed.eq_of_key first second (Option.some.inj (carries.symm.trans carries'))

-----------------------------------------------------------------------------------------
-- Which actions keep passes apart
-----------------------------------------------------------------------------------------

/-- A plane that loses passes, rollbacks and job leases stays exclusive. -/
theorem Exclusive.shrink {plane next : Plane} (exclusive : Exclusive plane)
    (held : LeaseHeld next)
    (passes
      : ∀ pass ∈ next.passes.rows, pass.InProgress next.now
        → pass ∈ plane.passes.rows ∧ pass.InProgress plane.now)
    (rollbacks : next.rollbacks.Sublist plane.rollbacks)
    (jobs
      : ∀ tenantId, NoLiveJob plane.now tenantId plane.jobs
        → NoLiveJob next.now tenantId next.jobs)
    : Exclusive next where
  leased pass first other second running otherRunning same :=
    held.eq_of_tenant first second running.2 otherRunning.2 same
  leasedNotRolledBack pass member running rolledBack := by
    obtain ⟨earlier, before⟩ := passes pass member running
    exact exclusive.leasedNotRolledBack pass earlier before (rollbacks.subset rolledBack)
  rolledBackOnce := rollbacks.nodup exclusive.rolledBackOnce
  leasedNotDriven pass member running := by
    obtain ⟨earlier, before⟩ := passes pass member running
    exact jobs _ (exclusive.leasedNotDriven pass earlier before)
  rolledBackNotDriven tenantId member :=
    jobs _ (exclusive.rolledBackNotDriven tenantId (rollbacks.subset member))

/-- Time ends leases and starts none. -/
theorem noLiveJob_later {now later : Nat} {tenantId : String} {jobs : Jobs}
    (none : NoLiveJob now tenantId jobs) (le : now ≤ later)
    : NoLiveJob later tenantId jobs := by
  intro job member ofTenant live
  exact none job member ofTenant ⟨live.1, live.2.earlier le⟩

/-- After a statement a tenant has no live job exactly when it had none that was left alone
and the statement left none.
-/
theorem noLiveJob_statement {now : Nat} {tenantId : String} {jobs : Jobs} (call : JobCall)
    (none : NoLiveJob now tenantId jobs)
    : NoLiveJob now tenantId ((call.statement now).apply jobs)
      ↔ ∀ job, jobs.get? call.jobId = some job
          → (call.statement now).guard job
          → ((call.statement now).set job).HasLiveLease now
          → job.tenantId ≠ tenantId := by
  constructor
  · intro noneAfter job found met live ofTenant
    have target := call.statement_target now
    have changed := Update.get?_apply_of_match (call.statement now) (target ▸ found) met
    refine noneAfter _ (Keyed.get?_mem changed) ?_ live
    rw [JobCall.set_tenantId, ofTenant]
  · intro spared job member ofTenant live
    rcases Update.mem_apply_cases member with ⟨old, _, found, met, became⟩ | earlier
    · rw [JobCall.statement_target] at found
      subst became
      refine spared old found met live ?_
      rw [← ofTenant]
      exact (call.set_tenantId now old).symm
    · exact none job earlier ofTenant live

/-- A job statement keeps the plane exclusive exactly when the lease it leaves finds its
tenant idle.
-/
theorem exclusive_job {plane : Plane} (exclusive : Exclusive plane) (call : JobCall)
    : Exclusive { plane with jobs := (call.statement plane.now).apply plane.jobs }
      ↔ Unobstructed plane (.job call) := by
  constructor
  · intro later job found met live
    have clash : ∀ tenantId, NoLiveJob plane.now tenantId plane.jobs
        → NoLiveJob plane.now tenantId ((call.statement plane.now).apply plane.jobs)
        → job.tenantId ≠ tenantId := by
      intro tenantId before after
      exact (noLiveJob_statement call before).mp after job found met live
    refine ⟨?_, ?_⟩
    · intro rolledBack
      exact clash _ (exclusive.rolledBackNotDriven _ rolledBack)
        (later.rolledBackNotDriven _ rolledBack) rfl
    · intro pass member running same
      exact clash _ (exclusive.leasedNotDriven pass member running)
        (later.leasedNotDriven pass member running) same.symm
  · intro unobstructed
    refine
      { leased := exclusive.leased
        leasedNotRolledBack := exclusive.leasedNotRolledBack
        rolledBackOnce := exclusive.rolledBackOnce
        leasedNotDriven := ?_
        rolledBackNotDriven := ?_ }
    · intro pass member running
      refine (noLiveJob_statement call (exclusive.leasedNotDriven pass member running)).mpr ?_
      intro job found met live same
      exact (unobstructed job found met live).2 pass member running same.symm
    · intro tenantId rolledBack
      refine (noLiveJob_statement call (exclusive.rolledBackNotDriven tenantId rolledBack)).mpr ?_
      intro job found met live same
      exact (unobstructed job found met live).1 (same ▸ rolledBack)

/-- Starting a leased pass keeps the plane exclusive exactly when, within its lease, its
tenant has no rollback and no driver. Other leased passes need no word: the lease rules
them out.
-/
theorem exclusive_startTeardown {plane : Plane} {token : String}
    (held : LeaseHeld { plane with passes := (startPass token).apply plane.passes })
    (exclusive : Exclusive plane)
    : Exclusive { plane with passes := (startPass token).apply plane.passes }
      ↔ Unobstructed plane (.startTeardown token) := by
  constructor
  · intro later pass member keyed live
    have matched : (startPass token).toSweep.guard pass := by
      simp [Update.toSweep, startPass, keyed]
    have started : { pass with started := true } ∈ ((startPass token).apply plane.passes).rows :=
      Sweep.mem_apply.mpr ⟨pass, member, if_pos matched⟩
    have running : LeasedPass.InProgress plane.now { pass with started := true } :=
      ⟨rfl, live⟩
    have notRolledBack := later.leasedNotRolledBack _ started running
    have notDriven := later.leasedNotDriven _ started running
    exact ⟨notRolledBack, notDriven⟩
  · intro unobstructed
    have clear : ∀ pass ∈ ((startPass token).apply plane.passes).rows,
        pass.InProgress plane.now
        → pass.tenantId ∉ plane.rollbacks ∧ NoLiveJob plane.now pass.tenantId plane.jobs := by
      intro pass member running
      obtain ⟨old, earlier, _, sameTenant, sameExpiry, was⟩ := mem_startPass member
      rcases was with same | keyed
      · subst same
        exact ⟨exclusive.leasedNotRolledBack _ earlier running,
          exclusive.leasedNotDriven _ earlier running⟩
      · rw [sameTenant]
        exact unobstructed old earlier keyed (sameExpiry ▸ running.2)
    exact
      { leased := fun pass first other second running otherRunning same =>
          held.eq_of_tenant first second running.2 otherRunning.2 same
        leasedNotRolledBack := fun pass member running => (clear pass member running).1
        rolledBackOnce := exclusive.rolledBackOnce
        leasedNotDriven := fun pass member running => (clear pass member running).2
        rolledBackNotDriven := exclusive.rolledBackNotDriven }

/-- Starting a rollback keeps the plane exclusive exactly when its tenant is idle and has no
driver.
-/
theorem exclusive_startRollback {plane : Plane} {tenantId : String} {owed : List String}
    (exclusive : Exclusive plane)
    : Exclusive { plane with owed := owed, rollbacks := tenantId :: plane.rollbacks }
      ↔ Unobstructed plane (.startRollback tenantId) := by
  constructor
  · intro later
    refine ⟨⟨(List.nodup_cons.mp later.rolledBackOnce).1, ?_⟩,
      later.rolledBackNotDriven tenantId List.mem_cons_self⟩
    intro pass member running same
    exact later.leasedNotRolledBack pass member running (same ▸ List.mem_cons_self)
  · intro unobstructed
    obtain ⟨⟨notRolledBack, notLeased⟩, notDriven⟩ := unobstructed
    exact
      { leased := exclusive.leased
        leasedNotRolledBack := by
          intro pass member running rolledBack
          rcases List.mem_cons.mp rolledBack with same | earlier
          · exact notLeased pass member running same
          · exact exclusive.leasedNotRolledBack pass member running earlier
        rolledBackOnce := List.nodup_cons.mpr ⟨notRolledBack, exclusive.rolledBackOnce⟩
        leasedNotDriven := exclusive.leasedNotDriven
        rolledBackNotDriven := by
          intro other rolledBack
          rcases List.mem_cons.mp rolledBack with same | earlier
          · exact same ▸ notDriven
          · exact exclusive.rolledBackNotDriven other earlier }

/-- From an exclusive plane an action leads to an exclusive one exactly when it is
unobstructed.
-/
theorem exclusive_step_iff {plane next : Plane} {action : PlaneAction}
    (held : LeaseHeld plane) (exclusive : Exclusive plane)
    (taken : plane.step action = some next)
    : Exclusive next ↔ Unobstructed plane action := by
  have heldNext := leaseHeld_step held taken
  cases action with
  | tick seconds =>
      cases taken
      refine ⟨fun _ => trivial, fun _ => exclusive.shrink heldNext ?_ (.refl _) ?_⟩
      · intro pass member running
        exact ⟨member, running.1, running.2.earlier (Nat.le_add_right _ _)⟩
      · intro tenantId none
        exact noLiveJob_later none (Nat.le_add_right _ _)
  | createProvisionJob id tenantId kind runpodMode toRelease =>
      simp only [Plane.step] at taken
      split at taken
      · cases taken
        refine ⟨fun _ => trivial, fun _ => exclusive.shrink heldNext ?_ (.refl _) ?_⟩
        · exact fun pass member running => ⟨member, running⟩
        · intro other none job member ofTenant live
          rcases List.mem_append.mp member with earlier | added
          · exact none job earlier ofTenant live
          · rw [List.mem_singleton] at added
            subst added
            exact live.2
      · exact absurd taken (Option.some_ne_none _).symm
  | job call =>
      cases taken
      exact exclusive_job exclusive call
  | driverFails id errorStep errorMessage =>
      cases taken
      refine ⟨fun _ => trivial, fun _ => exclusive.shrink heldNext ?_ (.refl _) ?_⟩
      · exact fun pass member running => ⟨member, running⟩
      · intro tenantId none
        refine (noLiveJob_statement (.finishJob id .failed errorStep errorMessage) none).mpr ?_
        intro job _ _ live
        exact live.2.elim
  | tenant call =>
      simp only [Plane.step, Option.map_eq_some_iff] at taken
      obtain ⟨passes, moved, became⟩ := taken
      subst became
      refine ⟨fun _ => trivial, fun _ => exclusive.shrink heldNext ?_ (.refl _) ?_⟩
      · intro pass member running
        rcases mem_passesAfter moved member with ⟨earlier, _⟩ | ⟨_, _, _, _, unstarted⟩
        · exact ⟨earlier, running⟩
        · rw [LeasedPass.InProgress, unstarted] at running
          exact absurd running.1 Bool.false_ne_true
      · exact fun tenantId none => none
  | startTeardown token =>
      simp only [Plane.step] at taken
      split at taken
      · cases taken
        exact exclusive_startTeardown heldNext exclusive
      · exact absurd taken (Option.some_ne_none _).symm
  | startRollback tenantId =>
      simp only [Plane.step] at taken
      split at taken
      · cases taken
        exact exclusive_startRollback exclusive
      · exact absurd taken (Option.some_ne_none _).symm
  | rollbackReturns tenantId =>
      simp only [Plane.step] at taken
      split at taken
      · cases taken
        refine ⟨fun _ => trivial, fun _ => exclusive.shrink heldNext ?_ List.erase_sublist ?_⟩
        · exact fun pass member running => ⟨member, running⟩
        · exact fun tenantId none => none
      · exact absurd taken (Option.some_ne_none _).symm

/-- From a quiet plane, every state of a run is exclusive exactly when every action of it is
unobstructed.
-/
theorem exclusive_iff (now : Nat) (tenants : Tenants) (jobs : Jobs) (run : List PlaneAction)
    : Everywhere Plane.step Exclusive (Plane.idle now tenants jobs) run
      ↔ Throughout Plane.step Unobstructed (Plane.idle now tenants jobs) run := by
  have held : LeaseHeld (Plane.idle now tenants jobs) := by
    intro pass member
    exact absurd member List.not_mem_nil
  have exclusive : Exclusive (Plane.idle now tenants jobs) := by
    refine ⟨?_, ?_, List.nodup_nil, ?_, ?_⟩
    · intro pass member
      exact absurd member List.not_mem_nil
    · intro pass member
      exact absurd member List.not_mem_nil
    · intro pass member
      exact absurd member List.not_mem_nil
    · intro tenantId member
      exact absurd member List.not_mem_nil
  exact everywhere_iff_throughout (fun _ _ _ before _ => leaseHeld_step before)
    (fun _ _ _ before _ => exclusive_step_iff before) held exclusive
    (throughout_of_forall (fun _ _ _ _ => trivial) _ run)

/-- A tenant whose provision job a driver holds. -/
def provisioningPlane : Plane :=
  Plane.idle 100
    (.singleton { id := "ten_1", slug := "studio", accountId := "acc_1", status := .provisioning })
    (.singleton
      { id := "job_1", tenantId := "ten_1", kind := .provision, status := .running
        leaseUntil := some 160, createdAt := 0, updatedAt := 100 })

/-- The driver fails and rolls back, and while it does the owner takes the name again. -/
def reclaimDuringRollback : List PlaneAction :=
  [.driverFails "job_1" (some "verify") (some "boom"),
    .tenant (.setTenantStatus "ten_1" .failed),
    .startRollback "ten_1",
    .tenant (.claimReclaim "ten_1" "acc_1" 300 "t1"),
    .startTeardown "t1"]

/-- Two passes then delete the same resources. -/
theorem reclaimDuringRollback_overlaps
    : ¬ Everywhere Plane.step Exclusive provisioningPlane reclaimDuringRollback := by
  intro everywhere
  obtain ⟨overlap, reached, running, rolledBack⟩
      : ∃ overlap, exec Plane.step provisioningPlane reclaimDuringRollback = some overlap
          ∧ (∃ pass ∈ overlap.passes.rows, pass.InProgress overlap.now ∧ pass.tenantId = "ten_1")
          ∧ "ten_1" ∈ overlap.rollbacks :=
    ⟨_, rfl, ⟨_, List.mem_singleton.mpr rfl, ⟨rfl, by decide⟩, rfl⟩, by decide⟩
  obtain ⟨pass, member, inProgress, ofTenant⟩ := running
  have exclusive := everywhere.final reached
  exact exclusive.leasedNotRolledBack pass member inProgress (ofTenant ▸ rolledBack)

end ControlPlane.TenantLifecycle
