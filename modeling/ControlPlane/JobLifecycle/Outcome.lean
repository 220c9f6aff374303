import Mathlib.Logic.Function.Basic
import ControlPlane.Library.Runs
import ControlPlane.Store.ProvisionJobs
import ControlPlane.Store.Tenants

/-! The two records of one provision: the job that a driver closes and the lifecycle it
writes. A failure closes the job first and writes only if that was accepted. A success writes
first, and does not ask.
-/

namespace ControlPlane.JobLifecycle

open ControlPlane.Library
open ControlPlane.Store

-----------------------------------------------------------------------------------------
-- Drivers of one job, interleaved at every store call
-----------------------------------------------------------------------------------------

/-- Where an invocation of runProvisionJob, of continueProvisionJob, or of a poll that reaps
the job is between two store calls.
-/
inductive DriverAt
  | idle
  | claimed
  | starting
  | working
  | wroteAwaiting (found : Option TenantLifecycle)
  | owesFailed (rollsBack : Bool)
  | rollingBack
  | done
  | refused (found : Option TenantLifecycle)
  deriving DecidableEq, Repr

/-- The tables, where every driver of the job is, the last lifecycle one of them wrote, and
the drivers that have torn the tenant's resources down.
-/
structure Race where
  now : Nat
  jobs : Jobs
  tenants : Tenants
  pc : Driver → DriverAt
  lastWritten : Option TenantLifecycle := none
  toreDown : List Driver := []

inductive RaceAction
  | tick (seconds : Nat)
  | start (driver : Driver)
  | claim (driver : Driver) (leaseSeconds : Nat)
  | markProvisioning (driver : Driver)
  | beat (call : JobCall)
  | yields (driver : Driver)
  | writeAwaiting (driver : Driver)
  | finishSucceeded (driver : Driver)
  | finishFailed (driver : Driver) (errorStep errorMessage : Option String)
  | reap (driver : Driver) (errorStep errorMessage : Option String)
  | writeFailed (driver : Driver)
  | rollback (driver : Driver)
  | otherWrite (status : TenantLifecycle)
  deriving DecidableEq, Repr

/-- The calls that neither start nor close a job. -/
def KeepsStatus : JobCall → Bool
  | .claimJob _ _ | .renewJobLease _ _ | .releaseJobLease _ | .updateJobProgress _ _ _ => true
  | .setJobRunning _ | .finishJob _ _ _ _ => false

namespace Race

variable (jobId tenantId : String)

/-- The status of the job, where the row exists. -/
def status (race : Race) : Option JobStatus :=
  (race.jobs.get? jobId).map ProvisionJob.status

/-- The lifecycle of the tenant, where the row exists. -/
def lifecycle (race : Race) : Option TenantLifecycle :=
  (race.tenants.get? tenantId).map Tenant.status

/-- Put a driver somewhere else. -/
def move (race : Race) (driver : Driver) (place : DriverAt) : Race :=
  { race with pc := Function.update race.pc driver place }

/-- setTenantStatus, called by a driver of the job. -/
def write (race : Race) (status : TenantLifecycle) : Race :=
  { race with
    tenants := (setTenantStatus race.now tenantId status).apply race.tenants
    lastWritten := some status }

/-- The database runs a call on the jobs table. -/
def runs (race : Race) (call : JobCall) : Race :=
  { race with jobs := (call.statement race.now).apply race.jobs }

/-- finishJob answers true: it changed the one row. -/
def closes (race : Race) (call : JobCall) : Prop :=
  (call.statement race.now).changes race.jobs = 1

instance (race : Race) (call : JobCall) : Decidable (race.closes call) := by
  unfold closes; infer_instance

/-- A success tail closes the job after its write, and does not consult the answer. -/
def succeedJob (race : Race) (driver : Driver) (found : Option TenantLifecycle) : Race :=
  let call := JobCall.finishJob jobId .succeeded none none
  (race.runs call).move driver (if race.closes call then .done else .refused found)

/-- A failure tail closes the job: accepted, it owes the tenant write; refused, it returns. -/
def failJob (race : Race) (driver : Driver) (rollsBack : Bool) (found : Option TenantLifecycle)
    (errorStep errorMessage : Option String)
    : Race :=
  let call := JobCall.finishJob jobId .failed errorStep errorMessage
  (race.runs call).move driver
    (if race.closes call then .owesFailed rollsBack else .refused found)

/-- One store call of one driver, or nothing when the driver is not there. -/
def step (race : Race) : RaceAction → Option Race
  | .tick seconds => some { race with now := race.now + seconds }
  | .start driver =>
      if race.pc driver = .idle ∨ race.pc driver = .claimed then
        some ((race.runs (.setJobRunning jobId)).move driver .starting)
      else
        none
  | .claim driver leaseSeconds =>
      let call := JobCall.claimJob jobId leaseSeconds
      if race.pc driver = .idle ∧ (call.statement race.now).changes race.jobs = 1 then
        some ((race.runs call).move driver .claimed)
      else
        none
  | .markProvisioning driver =>
      if race.pc driver = .starting then
        some ((race.write tenantId .provisioning).move driver .working)
      else
        none
  | .beat call => if KeepsStatus call then some (race.runs call) else none
  | .yields driver =>
      if race.pc driver = .working ∨ race.pc driver = .claimed then
        some (race.move driver .idle)
      else
        none
  | .writeAwaiting driver =>
      if race.pc driver = .working ∨ race.pc driver = .claimed then
        some ((race.write tenantId .awaitingGoLive).move driver
          (.wroteAwaiting (race.lifecycle tenantId)))
      else
        none
  | .finishSucceeded driver =>
      match race.pc driver with
      | .wroteAwaiting found => some (race.succeedJob jobId driver found)
      | _ => none
  | .finishFailed driver errorStep errorMessage =>
      match race.pc driver with
      | .claimed | .starting | .working =>
          some (race.failJob jobId driver true none errorStep errorMessage)
      | .wroteAwaiting found =>
          some (race.failJob jobId driver true found errorStep errorMessage)
      | _ => none
  | .reap driver errorStep errorMessage =>
      if race.pc driver = .idle then
        some (race.failJob jobId driver false none errorStep errorMessage)
      else
        none
  | .writeFailed driver =>
      match race.pc driver with
      | .owesFailed rollsBack =>
          some ((race.write tenantId .failed).move driver
            (if rollsBack then .rollingBack else .done))
      | _ => none
  | .rollback driver =>
      if race.pc driver = .rollingBack then
        some { race.move driver .done with toreDown := driver :: race.toreDown }
      else
        none
  | .otherWrite status =>
      some
        { race with
          tenants := (setTenantStatus race.now tenantId status).apply race.tenants }

end Race

/-- The driver has made one of the two writes of its tail and not the other. -/
def DriverAt.Between : DriverAt → Prop
  | .wroteAwaiting _ | .owesFailed _ => True
  | .idle | .claimed | .starting | .working | .rollingBack | .done | .refused _ => False

/-- The driver has not returned, and is in no tail with a write still to come. -/
def DriverAt.AtWork : DriverAt → Prop
  | .idle | .claimed | .starting | .working | .rollingBack => True
  | .wroteAwaiting _ | .owesFailed _ | .done | .refused _ => False

theorem DriverAt.AtWork.running {place : DriverAt} (atWork : place.AtWork) : place ≠ .done := by
  intro returned
  rw [returned] at atWork
  exact atWork

theorem DriverAt.AtWork.notBetween {place : DriverAt} (atWork : place.AtWork)
    : ¬ place.Between := by
  cases place with
  | wroteAwaiting found => exact fun _ => atWork
  | owesFailed rollsBack => exact fun _ => atWork
  | idle | claimed | starting | working | rollingBack | done | refused found => exact id

/-- The lifecycle a closed job stands for. -/
def lifecycleOf : JobStatus → Option TenantLifecycle
  | .succeeded => some .awaitingGoLive
  | .failed => some .failed
  | .queued | .running => none

/-- If the job is closed, the last lifecycle a driver wrote is the one it stands for. -/
def Matches (jobId : String) (race : Race) : Prop :=
  ∀ status lifecycle, race.status jobId = some status → lifecycleOf status = some lifecycle
    → race.lastWritten = some lifecycle

/-- The two records agree whenever no driver is between its two writes, and a driver whose
close was refused has left the lifecycle and the resources as it found them.
-/
structure Agreed (jobId : String) (race : Race) : Prop where
  matched : (∀ driver, ¬ (race.pc driver).Between) → Matches jobId race
  leftAsFound
    : ∀ driver found, race.pc driver = .refused (some found) → found = .awaitingGoLive
  leftResources
    : ∀ driver found, race.pc driver = .refused found → driver ∉ race.toreDown

/-- The job row exists and can still be closed. -/
def Open (jobId : String) (race : Race) : Prop :=
  ∃ status, race.status jobId = some status ∧ status.active

/-- No other driver is between its two writes. -/
def Alone (race : Race) (driver : Driver) : Prop :=
  ∀ other, other ≠ driver → ¬ (race.pc other).Between

/-- The success tail finds that it may close the job, or that its write changed nothing and
the records agree without it.
-/
def TailAgrees (jobId : String) (race : Race) (driver : Driver)
    (found : Option TenantLifecycle) : Prop :=
  (∀ before, found = some before → before = .awaitingGoLive)
  ∧ (Alone race driver → Matches jobId race)

/-- The store calls that keep the two records in agreement. -/
def Agreeable (jobId : String) (race : Race) : RaceAction → Prop
  | .markProvisioning driver =>
      Alone race driver → ∀ status, race.status jobId = some status → status.active
  | .finishSucceeded driver =>
      ∀ found, race.pc driver = .wroteAwaiting found
        → (Open jobId race → Alone race driver → race.lastWritten = some .awaitingGoLive)
          ∧ (¬ Open jobId race → TailAgrees jobId race driver found)
  | .finishFailed driver _ _ =>
      ∀ found, race.pc driver = .wroteAwaiting found
        → ¬ Open jobId race → TailAgrees jobId race driver found
  | .writeFailed driver => Alone race driver → race.status jobId ≠ some .succeeded
  | .tick _ | .start _ | .claim _ _ | .beat _ | .yields _ | .writeAwaiting _ | .reap _ _ _
  | .rollback _ | .otherWrite _ => True

/-- Only a driver that has returned has torn anything down. -/
def TornByDone (race : Race) : Prop :=
  ∀ driver ∈ race.toreDown, race.pc driver = .done

-----------------------------------------------------------------------------------------
-- What each store call leaves of the status and of the agreement
-----------------------------------------------------------------------------------------

variable {jobId tenantId : String} {race next : Race}

/-- The job's status after a call: what the call sets on a row it matches, or as it was. -/
theorem status_runs (race : Race) (call : JobCall)
    : (race.runs call).status jobId = race.status jobId
      ∨ call.jobId = jobId
        ∧ ∃ job, race.jobs.get? jobId = some job
          ∧ (call.statement race.now).guard job
          ∧ (race.runs call).status jobId = some ((call.statement race.now).set job).status := by
  cases found : race.jobs.get? jobId with
  | none =>
      left
      simp [Race.status, Race.runs, Update.get?_apply, found]
  | some job =>
      by_cases matched : jobId = (call.statement race.now).target
          ∧ (call.statement race.now).guard job
      · obtain ⟨same, met⟩ := matched
        right
        have changed := Update.get?_apply_of_match (call.statement race.now) (same ▸ found) met
        rw [← same] at changed
        rw [JobCall.statement_target] at same
        refine ⟨same.symm, job, rfl, met, ?_⟩
        rw [Race.status, Race.runs, changed, Option.map_some]
      · left
        have kept := Update.get?_apply_of_not (call.statement race.now) found matched
        rw [Race.status, Race.runs, kept, Race.status, found]

/-- A call that neither starts nor closes keeps the status. -/
theorem status_keeps {call : JobCall} (keeps : KeepsStatus call)
    : (race.runs call).status jobId = race.status jobId := by
  rcases status_runs race call with same | ⟨_, job, found, _, written⟩
  · exact same
  · rw [written, Race.status, found, Option.map_some]
    cases call with
    | setJobRunning id => exact absurd keeps Bool.false_ne_true
    | finishJob id outcome errorStep errorMessage => exact absurd keeps Bool.false_ne_true
    | claimJob id leaseSeconds => rfl
    | renewJobLease id leaseSeconds => rfl
    | releaseJobLease id => rfl
    | updateJobProgress id step stepsDoneJson => rfl

/-- A close is accepted exactly when the job is still open. -/
theorem closes_iff (jobId : String) (race : Race) (outcome : JobOutcome)
    (errorStep errorMessage : Option String)
    : race.closes (.finishJob jobId outcome errorStep errorMessage) ↔ Open jobId race := by
  rw [Race.closes, Update.changes_eq_one, Open, Race.status]
  change (∃ job, race.jobs.get? jobId = some job ∧ job.status.active) ↔ _
  simp only [Option.map_eq_some_iff]
  constructor
  · intro matched
    obtain ⟨job, found, active⟩ := matched
    exact ⟨_, ⟨job, found, rfl⟩, active⟩
  · intro isOpen
    obtain ⟨status, ⟨job, found, same⟩, active⟩ := isOpen
    exact ⟨job, found, same ▸ active⟩

/-- The status after a close. -/
theorem status_closes (jobId : String) (race : Race) (outcome : JobOutcome)
    (errorStep errorMessage : Option String)
    : (Open jobId race
        → (race.runs (.finishJob jobId outcome errorStep errorMessage)).status jobId
          = some outcome.status)
      ∧ (¬ Open jobId race
        → (race.runs (.finishJob jobId outcome errorStep errorMessage)).status jobId
          = race.status jobId) := by
  constructor
  · intro isOpen
    have accepted := (closes_iff jobId race outcome errorStep errorMessage).mpr isOpen
    obtain ⟨job, found, met⟩ := (Update.changes_eq_one _ _).mp accepted
    have changed := Update.get?_apply_of_match _ found met
    have written : (race.runs (.finishJob jobId outcome errorStep errorMessage)).jobs.get? jobId
        = some ((finishJob race.now jobId outcome errorStep errorMessage).set job) :=
      changed
    rw [Race.status, written]
    rfl
  · intro notOpen
    rcases status_runs race (.finishJob jobId outcome errorStep errorMessage) with
      same | ⟨_, job, found, met, _⟩
    · exact same
    · refine absurd ?_ notOpen
      rw [Open, Race.status, found]
      exact ⟨job.status, rfl, met⟩

/-- Starting a job leaves it running, or as it was. -/
theorem status_start (jobId : String) (race : Race)
    : (race.runs (.setJobRunning jobId)).status jobId = race.status jobId
      ∨ (race.runs (.setJobRunning jobId)).status jobId = some .running := by
  rcases status_runs race (.setJobRunning jobId) with same | ⟨_, job, _, _, written⟩
  · exact .inl same
  · exact .inr written

/-- An active status stands for no lifecycle, a closed one for one. -/
theorem lifecycleOf_eq_none {status : JobStatus}
    : lifecycleOf status = none ↔ status.active := by
  cases status <;> simp [lifecycleOf, JobStatus.active]

/-- Where no driver moves and status and write stay, so does the agreement. -/
theorem Agreed.congr (agreed : Agreed jobId race) (pc : next.pc = race.pc)
    (status : next.status jobId = race.status jobId)
    (lastWritten : next.lastWritten = race.lastWritten) (toreDown : next.toreDown = race.toreDown)
    : Agreed jobId next where
  matched settled := by
    rw [Matches, status, lastWritten]
    exact agreed.matched (pc ▸ settled)
  leftAsFound driver found isRefused := agreed.leftAsFound driver found (pc ▸ isRefused)
  leftResources driver found isRefused := by
    rw [toreDown]
    exact agreed.leftResources driver found (pc ▸ isRefused)

/-- After one driver moved, the records agree exactly when they match unless somebody is
still between writes, and the driver was not refused over a lifecycle it changed.
-/
theorem agreed_move_iff {driver : Driver} {place : DriverAt} (agreed : Agreed jobId race)
    (torn : TornByDone next) (pc : next.pc = Function.update race.pc driver place)
    : Agreed jobId next
      ↔ (¬ place.Between → Alone race driver → Matches jobId next)
        ∧ ∀ found, place = .refused (some found) → found = .awaitingGoLive := by
  have here : next.pc driver = place := by
    rw [pc, Function.update_self]
  have others : ∀ other, other ≠ driver → next.pc other = race.pc other := by
    intro other differs
    rw [pc, Function.update_of_ne differs]
  constructor
  · intro later
    refine ⟨?_, fun found isRefused => later.leftAsFound driver found (here.trans isRefused)⟩
    intro notBetween alone
    refine later.matched fun other => ?_
    by_cases same : other = driver
    · rw [same, here]
      exact notBetween
    · rw [others other same]
      exact alone other same
  · intro conditions
    obtain ⟨matching, asFound⟩ := conditions
    refine ⟨?_, ?_, ?_⟩
    · intro settled
      refine matching (here ▸ settled driver) fun other differs => ?_
      rw [← others other differs]
      exact settled other
    · intro other found isRefused
      by_cases same : other = driver
      · rw [same, here] at isRefused
        exact asFound found isRefused
      · rw [others other same] at isRefused
        exact agreed.leftAsFound other found isRefused
    · intro other found isRefused inTorn
      rw [torn other inTorn] at isRefused
      exact DriverAt.noConfusion isRefused

/-- A driver that is not between its writes does not stand in the way of a match. -/
theorem Agreed.matches_of_alone {driver : Driver} (agreed : Agreed jobId race)
    (notBetween : ¬ (race.pc driver).Between) (alone : Alone race driver)
    : Matches jobId race := by
  refine agreed.matched fun other => ?_
  by_cases same : other = driver
  · rw [same]
    exact notBetween
  · exact alone other same

/-- A move that neither ends a tail nor changes status or write keeps the agreement. -/
theorem Agreed.moved {driver : Driver} {place : DriverAt} (agreed : Agreed jobId race)
    (torn : TornByDone next) (pc : next.pc = Function.update race.pc driver place)
    (notBetween : ¬ (race.pc driver).Between) (notRefused : ∀ found, place ≠ .refused (some found))
    (matching : Matches jobId race → Matches jobId next)
    : Agreed jobId next := by
  refine (agreed_move_iff agreed torn pc).mpr ⟨?_, ?_⟩
  · intro _ alone
    exact matching (agreed.matches_of_alone notBetween alone)
  · intro found isRefused
    exact absurd isRefused (notRefused found)

/-- Moving a driver that has not returned disturbs none that has. -/
theorem TornByDone.moved {driver : Driver} {place : DriverAt} (torn : TornByDone race)
    (running : race.pc driver ≠ .done) (pc : next.pc = Function.update race.pc driver place)
    (toreDown : next.toreDown = race.toreDown)
    : TornByDone next := by
  intro other inTorn
  rw [toreDown] at inTorn
  have returned := torn other inTorn
  have differs : other ≠ driver := by
    intro same
    exact running (same ▸ returned)
  rw [pc, Function.update_of_ne differs, returned]

/-- A move by a driver that is not in a tail, with status and write still matching, keeps the
agreement whatever the records are.
-/
theorem TornByDone.plainMove {driver : Driver} {place : DriverAt} (torn : TornByDone race)
    (atWork : (race.pc driver).AtWork)
    (pc : next.pc = Function.update race.pc driver place)
    (toreDown : next.toreDown = race.toreDown)
    (notRefused : ∀ found, place ≠ .refused (some found))
    (matching : Matches jobId race → Matches jobId next)
    : TornByDone next ∧ (Agreed jobId race → (Agreed jobId next ↔ True)) := by
  have torn' := torn.moved atWork.running pc toreDown
  refine ⟨torn', fun agreed => ⟨fun _ => trivial, fun _ => ?_⟩⟩
  exact agreed.moved torn' pc atWork.notBetween notRefused matching

/-- A match survives when the status stays or becomes active and the write stays. -/
theorem matches_of_status (same : next.lastWritten = race.lastWritten)
    (status
      : next.status jobId = race.status jobId
        ∨ ∀ status, next.status jobId = some status → status.active)
    : Matches jobId race → Matches jobId next := by
  intro matching reached lifecycle isStatus stands
  rw [same]
  rcases status with kept | active
  · exact matching reached lifecycle (kept ▸ isStatus) stands
  · have noLifecycle := lifecycleOf_eq_none.mpr (active reached isStatus)
    rw [noLifecycle] at stands
    exact absurd stands (Option.some_ne_none _).symm

/-- A refused close ends a tail in agreement exactly when the tail left all as it was. -/
theorem refused_iff {driver : Driver} {found : Option TenantLifecycle}
    (agreed : Agreed jobId race) (torn : TornByDone next)
    (pc : next.pc = Function.update race.pc driver (.refused found))
    (status : next.status jobId = race.status jobId)
    (lastWritten : next.lastWritten = race.lastWritten)
    : Agreed jobId next ↔ TailAgrees jobId race driver found := by
  have matching : Matches jobId next ↔ Matches jobId race := by
    rw [Matches, Matches, status, lastWritten]
  refine (agreed_move_iff agreed torn pc).trans ?_
  simp only [DriverAt.Between, not_false_eq_true, forall_const, matching, TailAgrees,
    DriverAt.refused.injEq]
  exact And.comm

/-- A failure tail keeps the agreement, unless it is refused after a success tail's write. -/
theorem failJob_step (jobId : String) {driver : Driver} (torn : TornByDone race)
    (rollsBack : Bool)
    (found : Option TenantLifecycle) (errorStep errorMessage : Option String)
    (running : race.pc driver ≠ .done)
    : TornByDone (race.failJob jobId driver rollsBack found errorStep errorMessage)
      ∧ (Agreed jobId race
        → (Agreed jobId (race.failJob jobId driver rollsBack found errorStep errorMessage)
          ↔ (¬ Open jobId race → TailAgrees jobId race driver found))) := by
  have torn' : TornByDone (race.failJob jobId driver rollsBack found errorStep errorMessage) :=
    torn.moved running rfl rfl
  refine ⟨torn', fun agreed => ?_⟩
  have accepted := closes_iff jobId race .failed errorStep errorMessage
  by_cases isOpen : Open jobId race
  · refine ⟨fun _ notOpen => absurd isOpen notOpen, fun _ => ?_⟩
    have place : (race.failJob jobId driver rollsBack found errorStep errorMessage).pc
        = Function.update race.pc driver (.owesFailed rollsBack) := by
      simp only [Race.failJob, Race.move, Race.runs, if_pos (accepted.mpr isOpen)]
    refine (agreed_move_iff agreed torn' place).mpr ⟨?_, fun _ => DriverAt.noConfusion⟩
    intro notBetween _
    exact absurd trivial notBetween
  · have place : (race.failJob jobId driver rollsBack found errorStep errorMessage).pc
        = Function.update race.pc driver (.refused found) := by
      simp only [Race.failJob, Race.move, Race.runs,
        if_neg fun closes => isOpen (accepted.mp closes)]
    have kept := (status_closes jobId race .failed errorStep errorMessage).2 isOpen
    refine (refused_iff agreed torn' place kept rfl).trans ?_
    exact ⟨fun agrees _ => agrees, fun agrees => agrees isOpen⟩

/-- A driver that wrote nothing leaves nothing changed. -/
theorem Agreed.tailAgrees {driver : Driver} (agreed : Agreed jobId race)
    (notBetween : ¬ (race.pc driver).Between)
    : TailAgrees jobId race driver none := by
  refine ⟨?_, agreed.matches_of_alone notBetween⟩
  intro before wrote
  exact absurd wrote (Option.some_ne_none before).symm

/-- A failure tail entered before any success write keeps the agreement. -/
theorem failJob_plainStep (jobId : String) {driver : Driver} (torn : TornByDone race)
    (rollsBack : Bool) (errorStep errorMessage : Option String)
    (atWork : (race.pc driver).AtWork)
    : TornByDone (race.failJob jobId driver rollsBack none errorStep errorMessage)
      ∧ (Agreed jobId race
        → Agreed jobId (race.failJob jobId driver rollsBack none errorStep errorMessage)) := by
  obtain ⟨torn', exact'⟩ :=
    failJob_step jobId torn rollsBack none errorStep errorMessage atWork.running
  exact ⟨torn', fun agreed => (exact' agreed).mpr fun _ => agreed.tailAgrees atWork.notBetween⟩

/-- The close of a success tail is right when no other tail is open and the write it
followed is still the last one; refused, when the tail left all as it was.
-/
theorem succeedJob_step (jobId : String) {driver : Driver} (torn : TornByDone race)
    (found : Option TenantLifecycle) (running : race.pc driver ≠ .done)
    : TornByDone (race.succeedJob jobId driver found)
      ∧ (Agreed jobId race
        → (Agreed jobId (race.succeedJob jobId driver found)
          ↔ (Open jobId race → Alone race driver → race.lastWritten = some .awaitingGoLive)
            ∧ (¬ Open jobId race → TailAgrees jobId race driver found))) := by
  have torn' : TornByDone (race.succeedJob jobId driver found) := torn.moved running rfl rfl
  refine ⟨torn', fun agreed => ?_⟩
  have accepted := closes_iff jobId race .succeeded none none
  by_cases isOpen : Open jobId race
  · have place : (race.succeedJob jobId driver found).pc
        = Function.update race.pc driver .done := by
      simp only [Race.succeedJob, Race.move, Race.runs, if_pos (accepted.mpr isOpen)]
    have succeeded : (race.succeedJob jobId driver found).status jobId = some .succeeded :=
      (status_closes jobId race .succeeded none none).1 isOpen
    refine (agreed_move_iff agreed torn' place).trans ?_
    constructor
    · intro conditions
      refine ⟨fun _ alone => ?_, fun notOpen => absurd isOpen notOpen⟩
      exact conditions.1 id alone .succeeded .awaitingGoLive succeeded rfl
    · intro conditions
      refine ⟨fun _ alone status lifecycle reached stands => ?_, fun _ => DriverAt.noConfusion⟩
      have isSucceeded : JobStatus.succeeded = status :=
        Option.some.inj (succeeded.symm.trans reached)
      subst isSucceeded
      exact (conditions.1 isOpen alone).trans stands
  · have place : (race.succeedJob jobId driver found).pc
        = Function.update race.pc driver (.refused found) := by
      simp only [Race.succeedJob, Race.move, Race.runs,
        if_neg fun closes => isOpen (accepted.mp closes)]
    have kept := (status_closes jobId race .succeeded none none).2 isOpen
    refine (refused_iff agreed torn' place kept rfl).trans ?_
    exact ⟨fun agrees => ⟨fun isOpen' => absurd isOpen' isOpen, fun _ => agrees⟩,
      fun agrees => agrees.2 isOpen⟩

/-- Where a failure tail can be entered, and what it becomes. -/
theorem finishFailed_inv {driver : Driver} {errorStep errorMessage : Option String}
    (taken : Race.step jobId tenantId race (.finishFailed driver errorStep errorMessage)
      = some next)
    : (∃ found, race.pc driver = .wroteAwaiting found
        ∧ next = race.failJob jobId driver true found errorStep errorMessage)
      ∨ ((race.pc driver = .claimed ∨ race.pc driver = .starting ∨ race.pc driver = .working)
        ∧ next = race.failJob jobId driver true none errorStep errorMessage) := by
  cases place : race.pc driver with
  | claimed =>
      simp only [Race.step, place, Option.some.injEq] at taken
      exact .inr ⟨.inl rfl, taken.symm⟩
  | starting =>
      simp only [Race.step, place, Option.some.injEq] at taken
      exact .inr ⟨.inr (.inl rfl), taken.symm⟩
  | working =>
      simp only [Race.step, place, Option.some.injEq] at taken
      exact .inr ⟨.inr (.inr rfl), taken.symm⟩
  | wroteAwaiting found =>
      simp only [Race.step, place, Option.some.injEq] at taken
      exact .inl ⟨found, rfl, taken.symm⟩
  | idle => simp [Race.step, place] at taken
  | owesFailed rollsBack => simp [Race.step, place] at taken
  | rollingBack => simp [Race.step, place] at taken
  | done => simp [Race.step, place] at taken
  | refused found => simp [Race.step, place] at taken

/-- The close of a success tail follows its write. -/
theorem finishSucceeded_inv {driver : Driver}
    (taken : Race.step jobId tenantId race (.finishSucceeded driver) = some next)
    : ∃ found, race.pc driver = .wroteAwaiting found
        ∧ next = race.succeedJob jobId driver found := by
  simp only [Race.step] at taken
  split at taken
  · next found place =>
      exact ⟨found, place, (Option.some.inj taken).symm⟩
  · exact absurd taken (Option.some_ne_none _).symm

/-- The write of a driver that starts is right unless it would stand against a closed job. -/
theorem markProvisioning_step {driver : Driver} (torn : TornByDone race)
    (place : race.pc driver = .starting)
    : TornByDone ((race.write tenantId .provisioning).move driver .working)
      ∧ (Agreed jobId race
        → (Agreed jobId ((race.write tenantId .provisioning).move driver .working)
          ↔ (Alone race driver
              → ∀ status, race.status jobId = some status → status.active))) := by
  have torn' : TornByDone ((race.write tenantId .provisioning).move driver .working) :=
    torn.moved (by simp [place]) rfl rfl
  refine ⟨torn', fun agreed => (agreed_move_iff agreed torn' rfl).trans ?_⟩
  constructor
  · intro conditions alone status reached
    have matching := conditions.1 id alone
    cases stands : lifecycleOf status with
    | none => exact lifecycleOf_eq_none.mp stands
    | some lifecycle =>
        -- no closed job stands for 'provisioning'
        have wrote : some TenantLifecycle.provisioning = some lifecycle :=
          matching status lifecycle reached stands
        rw [← Option.some.inj wrote] at stands
        cases status <;> simp [lifecycleOf] at stands
  · intro active
    refine ⟨?_, fun _ => DriverAt.noConfusion⟩
    intro _ alone status lifecycle reached stands
    rw [lifecycleOf_eq_none.mpr (active alone status reached)] at stands
    exact absurd stands (Option.some_ne_none _).symm

/-- The first write of a success tail puts its driver between its writes, where nothing is
asked of the records.
-/
theorem writeAwaiting_step {driver : Driver} (torn : TornByDone race)
    (running : race.pc driver ≠ .done) (found : Option TenantLifecycle)
    : TornByDone ((race.write tenantId .awaitingGoLive).move driver (.wroteAwaiting found))
      ∧ (Agreed jobId race
        → Agreed jobId
            ((race.write tenantId .awaitingGoLive).move driver (.wroteAwaiting found))) := by
  have torn' : TornByDone
      ((race.write tenantId .awaitingGoLive).move driver (.wroteAwaiting found)) :=
    torn.moved running rfl rfl
  refine ⟨torn', fun agreed => ?_⟩
  refine (agreed_move_iff agreed torn' rfl).mpr ⟨?_, fun _ => DriverAt.noConfusion⟩
  intro notBetween _
  exact absurd trivial notBetween

/-- The second write of a failure tail is right unless the job has succeeded since. -/
theorem writeFailed_step {driver : Driver} {rollsBack : Bool} (torn : TornByDone race)
    (place : race.pc driver = .owesFailed rollsBack)
    : TornByDone ((race.write tenantId .failed).move driver
          (if rollsBack then .rollingBack else .done))
      ∧ (Agreed jobId race
        → (Agreed jobId ((race.write tenantId .failed).move driver
              (if rollsBack then .rollingBack else .done))
          ↔ (Alone race driver → race.status jobId ≠ some .succeeded))) := by
  have torn' : TornByDone ((race.write tenantId .failed).move driver
      (if rollsBack then .rollingBack else .done)) :=
    torn.moved (by simp [place]) rfl rfl
  refine ⟨torn', fun agreed => (agreed_move_iff agreed torn' rfl).trans ?_⟩
  constructor
  · intro conditions alone reached
    have notBetween : ¬ (if rollsBack then DriverAt.rollingBack else .done).Between := by
      cases rollsBack <;> exact id
    have wrote : some TenantLifecycle.failed = some .awaitingGoLive :=
      conditions.1 notBetween alone .succeeded .awaitingGoLive reached rfl
    exact TenantLifecycle.noConfusion (Option.some.inj wrote)
  · intro notSucceeded
    refine ⟨fun _ alone status lifecycle reached stands => ?_, ?_⟩
    · cases status with
      | succeeded => exact absurd reached (notSucceeded alone)
      | failed => exact stands
      | queued => exact absurd stands (Option.some_ne_none _).symm
      | running => exact absurd stands (Option.some_ne_none _).symm
    · intro found isRefused
      cases rollsBack <;> exact DriverAt.noConfusion isRefused

/-- A rollback returns its driver, and touches neither record. -/
theorem rollback_step {driver : Driver} (torn : TornByDone race)
    (place : race.pc driver = .rollingBack)
    : TornByDone { race.move driver .done with toreDown := driver :: race.toreDown }
      ∧ (Agreed jobId race
        → Agreed jobId
            { race.move driver .done with toreDown := driver :: race.toreDown }) := by
  have torn' : TornByDone
      { race.move driver .done with toreDown := driver :: race.toreDown } := by
    intro other inTorn
    by_cases same : other = driver
    · rw [same]
      exact Function.update_self driver DriverAt.done race.pc
    · have earlier := torn other ((List.mem_cons.mp inTorn).resolve_left same)
      exact (Function.update_of_ne same DriverAt.done race.pc).trans earlier
  have atWork : (race.pc driver).AtWork := by
    rw [place]
    trivial
  refine ⟨torn', fun agreed => ?_⟩
  exact agreed.moved torn' rfl atWork.notBetween (fun _ => DriverAt.noConfusion)
    (matches_of_status rfl (.inl rfl))

-----------------------------------------------------------------------------------------
-- The records agree through a whole run
-----------------------------------------------------------------------------------------

/-- One store call keeps the teardowns with returned drivers, and the records in agreement
exactly when it is agreeable. Witness: each action with the status and the write it leaves.
-/
theorem agreed_step {action : RaceAction} (torn : TornByDone race)
    (taken : Race.step jobId tenantId race action = some next)
    : TornByDone next
      ∧ (Agreed jobId race → (Agreed jobId next ↔ Agreeable jobId race action)) := by
  cases action with
  | tick seconds =>
      cases taken
      exact ⟨torn, fun agreed => ⟨fun _ => trivial, fun _ => agreed.congr rfl rfl rfl rfl⟩⟩
  | start driver =>
      simp only [Race.step] at taken
      split at taken
      · next place =>
          cases taken
          have atWork : (race.pc driver).AtWork := by
            rcases place with isIdle | isClaimed
            · rw [isIdle]
              trivial
            · rw [isClaimed]
              trivial
          refine torn.plainMove atWork rfl rfl (fun _ => DriverAt.noConfusion) ?_
          -- a start may reopen a closed job, and an open one asks nothing of the write
          refine matches_of_status rfl ?_
          rcases status_start jobId race with same | running
          · exact .inl same
          · refine .inr fun status reached => ?_
            have isRunning : JobStatus.running = status :=
              Option.some.inj (running.symm.trans reached)
            rw [← isRunning]
            rfl
      · exact absurd taken (Option.some_ne_none _).symm
  | claim driver leaseSeconds =>
      simp only [Race.step] at taken
      split at taken
      · next place =>
          cases taken
          have atWork : (race.pc driver).AtWork := by
            rw [place.1]
            trivial
          exact torn.plainMove atWork rfl rfl (fun _ => DriverAt.noConfusion)
            (matches_of_status rfl (.inl (status_keeps rfl)))
      · exact absurd taken (Option.some_ne_none _).symm
  | markProvisioning driver =>
      simp only [Race.step] at taken
      split at taken
      · next place =>
          cases taken
          exact markProvisioning_step torn place
      · exact absurd taken (Option.some_ne_none _).symm
  | beat call =>
      simp only [Race.step] at taken
      split at taken
      · next keeps =>
          cases taken
          exact ⟨torn, fun agreed => ⟨fun _ => trivial,
            fun _ => agreed.congr rfl (status_keeps keeps) rfl rfl⟩⟩
      · exact absurd taken (Option.some_ne_none _).symm
  | yields driver =>
      simp only [Race.step] at taken
      split at taken
      · next place =>
          cases taken
          have atWork : (race.pc driver).AtWork := by
            rcases place with isWorking | isClaimed
            · rw [isWorking]
              trivial
            · rw [isClaimed]
              trivial
          exact torn.plainMove atWork rfl rfl (fun _ => DriverAt.noConfusion)
            (matches_of_status rfl (.inl rfl))
      · exact absurd taken (Option.some_ne_none _).symm
  | writeAwaiting driver =>
      simp only [Race.step] at taken
      split at taken
      · next place =>
          cases taken
          have running : race.pc driver ≠ .done := by
            rcases place with isWorking | isClaimed
            · simp [isWorking]
            · simp [isClaimed]
          obtain ⟨torn', kept⟩ := writeAwaiting_step torn running (race.lifecycle tenantId)
          exact ⟨torn', fun agreed => ⟨fun _ => trivial, fun _ => kept agreed⟩⟩
      · exact absurd taken (Option.some_ne_none _).symm
  | finishSucceeded driver =>
      obtain ⟨found, place, became⟩ := finishSucceeded_inv taken
      subst became
      have running : race.pc driver ≠ .done := by
        simp [place]
      obtain ⟨torn', exact'⟩ := succeedJob_step jobId torn found running
      refine ⟨torn', fun agreed => (exact' agreed).trans ?_⟩
      refine ⟨fun agrees other isTail => ?_, fun agrees => agrees found place⟩
      have same : found = other := DriverAt.wroteAwaiting.inj (place.symm.trans isTail)
      exact same ▸ agrees
  | finishFailed driver errorStep errorMessage =>
      rcases finishFailed_inv taken with ⟨found, place, became⟩ | ⟨place, became⟩
      · subst became
        have running : race.pc driver ≠ .done := by
          simp [place]
        obtain ⟨torn', exact'⟩ := failJob_step jobId torn true found errorStep errorMessage
          running
        refine ⟨torn', fun agreed => (exact' agreed).trans ?_⟩
        refine ⟨fun agrees other isTail => ?_, fun agrees => agrees found place⟩
        have same : found = other := DriverAt.wroteAwaiting.inj (place.symm.trans isTail)
        exact same ▸ agrees
      · subst became
        have atWork : (race.pc driver).AtWork := by
          rcases place with isClaimed | isStarting | isWorking
          · rw [isClaimed]
            trivial
          · rw [isStarting]
            trivial
          · rw [isWorking]
            trivial
        obtain ⟨torn', kept⟩ :=
          failJob_plainStep jobId torn true errorStep errorMessage atWork
        refine ⟨torn', fun agreed => ⟨fun _ found isTail => ?_, fun _ => kept agreed⟩⟩
        rw [isTail] at atWork
        exact atWork.elim
  | reap driver errorStep errorMessage =>
      simp only [Race.step] at taken
      split at taken
      · next place =>
          cases taken
          have atWork : (race.pc driver).AtWork := by
            rw [place]
            trivial
          obtain ⟨torn', kept⟩ :=
            failJob_plainStep jobId torn false errorStep errorMessage atWork
          exact ⟨torn', fun agreed => ⟨fun _ => trivial, fun _ => kept agreed⟩⟩
      · exact absurd taken (Option.some_ne_none _).symm
  | writeFailed driver =>
      simp only [Race.step] at taken
      split at taken
      · next rollsBack place =>
          cases taken
          exact writeFailed_step torn place
      · exact absurd taken (Option.some_ne_none _).symm
  | rollback driver =>
      simp only [Race.step] at taken
      split at taken
      · next place =>
          cases taken
          obtain ⟨torn', kept⟩ := rollback_step torn place
          exact ⟨torn', fun agreed => ⟨fun _ => trivial, fun _ => kept agreed⟩⟩
      · exact absurd taken (Option.some_ne_none _).symm
  | otherWrite status =>
      cases taken
      exact ⟨torn, fun agreed => ⟨fun _ => trivial, fun _ => agreed.congr rfl rfl rfl rfl⟩⟩

/-- A provision nobody has driven yet. -/
def Race.initial (now : Nat) (jobs : Jobs) (tenants : Tenants) : Race where
  now := now
  jobs := jobs
  tenants := tenants
  pc := fun _ => .idle

/-- One queued provision of one tenant. -/
def queuedProvision : Jobs :=
  .singleton (queuedJob 0 "job_1" "ten_1" .provision (some "shared") (some "v1"))

def pendingTenant : Tenants :=
  .singleton { id := "ten_1", slug := "studio", accountId := "acc_1", status := .pending }

/-- One driver with nobody beside it. -/
def plainProvision : List RaceAction :=
  [.start 1, .markProvisioning 1, .writeAwaiting 1, .finishSucceeded 1]

/-- Driver 1 stalls, a poll declares the job lost and writes the tenant, and driver 1 then
comes to its success tail.
-/
def lateSuccess : List RaceAction :=
  [.start 1, .markProvisioning 1, .tick 601, .reap 2 none (some "invocation lost"),
    .writeFailed 2, .writeAwaiting 1, .finishSucceeded 1]

end ControlPlane.JobLifecycle
