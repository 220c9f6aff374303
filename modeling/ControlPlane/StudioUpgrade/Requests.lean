import ControlPlane.StudioUpgrade.Stepping

/-! The requests of a plane beside one another: each has a job of its own, and what is done for one
leaves the others as they are.
-/

namespace ControlPlane.StudioUpgrade

open ControlPlane.Library
open ControlPlane.Migrations
open ControlPlane.Provision (jobHasLiveDriver)
open ControlPlane.Store
open ControlPlane.StudioBindings

variable {σ : Type}

/-- A job by its id, if it has a live driver. -/
def Driven (plane : UpgradePlane σ) (jobId : String) : Prop :=
  (plane.jobs.get? jobId).any (jobHasLiveDriver plane.nowMs) = true

/-- A request writes the studio: its driver is at work, and the lease of its job has not expired. -/
def Writing (plane : UpgradePlane σ) (request : Nat) : Prop :=
  ∃ driver, plane.requests request = .driving driver ∧ driver.atWork = true
    ∧ Driven plane driver.jobId

def RequestAt.driver? : RequestAt → Option StudioDriver
  | .driving driver => some driver
  | .idle | .checking _ _ | .preflighting _ _ | .inserting _ _ | .auditing _ _ _ | .starting _ _ _
  | .answered _ => none

instance (plane : UpgradePlane σ) (request : Nat) : Decidable (Writing plane request) :=
  decidable_of_iff
    ((plane.requests request).driver?.any fun driver =>
      driver.atWork && (plane.jobs.get? driver.jobId).any (jobHasLiveDriver plane.nowMs)) <| by
    unfold Writing Driven
    cases plane.requests request <;> simp [RequestAt.driver?]

/-- No two drivers with unexpired leases write the studio. -/
def OneWriter (plane : UpgradePlane σ) : Prop :=
  ∀ request other, Writing plane request → Writing plane other → request = other

/-- No other request writes the studio. -/
def Alone (plane : UpgradePlane σ) (request : Nat) : Prop :=
  ∀ other, Writing plane other → other = request

-----------------------------------------------------------------------------------------
-- What holds of every plane
-----------------------------------------------------------------------------------------

/-- The job of a request. -/
def RequestAt.jobId? : RequestAt → Option String
  | .auditing jobId _ _ | .starting jobId _ _ => some jobId
  | .driving driver => some driver.jobId
  | .idle | .checking _ _ | .preflighting _ _ | .inserting _ _ | .answered _ => none

/-- The job of a request that nobody drives yet. -/
def RequestAt.undriven? : RequestAt → Option String
  | .auditing jobId _ _ | .starting jobId _ _ => some jobId
  | .idle | .checking _ _ | .preflighting _ _ | .inserting _ _ | .driving _ | .answered _ => none

/-- What a request upgrades to. -/
def RequestAt.context? : RequestAt → Option (StudioUpgradeContext StudioBundle)
  | .inserting _ context | .auditing _ _ context | .starting _ _ context => some context
  | .driving driver => some driver.context
  | .idle | .checking _ _ | .preflighting _ _ | .answered _ => none

/-- A driver vouches for its stage; the other places have nothing to vouch for. -/
def RequestAt.Vouches (releases : Releases) (database : StudioDatabase σ) : RequestAt → Prop
  | .driving driver => driver.Vouches releases database
  | _ => True

/-- Every request has a job of its own, without a lease until its driver starts, and a bundle of the
mirror. Until a seeding misrecords, the tracking table and the drivers are right about the database.
-/
structure Sound (releases : Releases) (plane : UpgradePlane σ) : Prop where
  present
    : ∀ request jobId, (plane.requests request).jobId? = some jobId
        → ∃ job, plane.jobs.get? jobId = some job
  distinct
    : ∀ request other jobId, (plane.requests request).jobId? = some jobId
        → (plane.requests other).jobId? = some jobId → request = other
  unleased
    : ∀ request jobId, (plane.requests request).undriven? = some jobId
        → ∀ job, plane.jobs.get? jobId = some job → job.leaseUntil = none
  fetched
    : ∀ request context, (plane.requests request).context? = some context
        → releases.bundle context.release = some context.bundle
  known
    : plane.misrecorded = false → KnownApplied releases plane.database plane.database.recorded
  vouches
    : plane.misrecorded = false
        → ∀ request, (plane.requests request).Vouches releases plane.database

theorem RequestAt.Vouches.grown {releases : Releases} {database later : StudioDatabase σ}
    {place : RequestAt} (vouches : place.Vouches releases database)
    (grown : ∀ migration, Applied database migration → Applied later migration)
    : place.Vouches releases later := by
  cases place with
  | driving driver => exact StudioDriver.Vouches.grown vouches grown
  | _ => trivial

theorem RequestAt.jobId_of_undriven {place : RequestAt} {jobId : String}
    (undriven : place.undriven? = some jobId)
    : place.jobId? = some jobId := by
  cases place <;> simp_all [RequestAt.undriven?, RequestAt.jobId?]

/-- What an action does for one request: to its place, to its own job and to the database. The jobs
of the others it leaves.
-/
structure Moves (releases : Releases) (plane base : UpgradePlane σ) (request : Nat)
    (place : RequestAt) : Prop where
  clock : base.nowMs = plane.nowMs
  requests : base.requests = plane.requests
  own
    : ∀ jobId, place.jobId? = some jobId
        → ∀ other, other ≠ request → (plane.requests other).jobId? ≠ some jobId
  jobs
    : ∀ jobId, place.jobId? ≠ some jobId → base.jobs.get? jobId = plane.jobs.get? jobId
  present : ∀ jobId, place.jobId? = some jobId → ∃ job, base.jobs.get? jobId = some job
  unleased
    : ∀ jobId, place.undriven? = some jobId
        → ∀ job, base.jobs.get? jobId = some job → job.leaseUntil = none
  fetched
    : ∀ context, place.context? = some context
        → releases.bundle context.release = some context.bundle
  grown : ∀ migration, Applied plane.database migration → Applied base.database migration
  known
    : base.misrecorded = false
        → plane.misrecorded = false
          ∧ KnownApplied releases base.database base.database.recorded
          ∧ place.Vouches releases base.database

variable {releases : Releases} {plane base : UpgradePlane σ} {request : Nat} {place : RequestAt}

theorem put_requests_self : (plane.put request place).requests request = place := by
  simp [UpgradePlane.put]

theorem put_requests_of_ne {other : Nat} (apart : other ≠ request)
    : (plane.put request place).requests other = plane.requests other := by
  simp [UpgradePlane.put, apart]

/-- A request of another place is as it was, and so is its job. -/
theorem Moves.job_of_other (moves : Moves releases plane base request place) {other : Nat}
    (apart : other ≠ request) {jobId : String}
    (ofOther : (plane.requests other).jobId? = some jobId)
    : base.jobs.get? jobId = plane.jobs.get? jobId :=
  moves.jobs jobId fun mine => moves.own jobId mine other apart ofOther

theorem Moves.other (moves : Moves releases plane base request place) {other : Nat}
    (apart : other ≠ request)
    : (base.put request place).requests other = plane.requests other := by
  rw [put_requests_of_ne apart, moves.requests]

/-- What an action does for one request keeps the plane sound. -/
theorem Moves.sound (moves : Moves releases plane base request place)
    (sound : Sound releases plane)
    : Sound releases (base.put request place) where
  present other jobId has := by
    by_cases same : other = request
    · rw [same, put_requests_self] at has
      exact moves.present jobId has
    · rw [moves.other same] at has
      obtain ⟨job, found⟩ := sound.present other jobId has
      exact ⟨job, (moves.job_of_other same has).trans found⟩
  distinct one other jobId hasOne hasOther := by
    by_cases first : one = request
    · by_cases second : other = request
      · rw [first, second]
      · rw [first, put_requests_self] at hasOne
        rw [moves.other second] at hasOther
        exact absurd hasOther (moves.own jobId hasOne other second)
    · rw [moves.other first] at hasOne
      by_cases second : other = request
      · rw [second, put_requests_self] at hasOther
        exact absurd hasOne (moves.own jobId hasOther one first)
      · rw [moves.other second] at hasOther
        exact sound.distinct one other jobId hasOne hasOther
  unleased other jobId undriven job found := by
    by_cases same : other = request
    · rw [same, put_requests_self] at undriven
      exact moves.unleased jobId undriven job found
    · rw [moves.other same] at undriven
      have ofOther := RequestAt.jobId_of_undriven undriven
      exact sound.unleased other jobId undriven job ((moves.job_of_other same ofOther).symm.trans found)
  fetched other context upgrades := by
    by_cases same : other = request
    · rw [same, put_requests_self] at upgrades
      exact moves.fetched context upgrades
    · rw [moves.other same] at upgrades
      exact sound.fetched other context upgrades
  known right := (moves.known right).2.1
  vouches right other := by
    by_cases same : other = request
    · rw [same, put_requests_self]
      exact (moves.known right).2.2
    · rw [moves.other same]
      exact (sound.vouches (moves.known right).1 other).grown moves.grown

/-- Another request writes as it did. -/
theorem Moves.writing_of_other (moves : Moves releases plane base request place) {other : Nat}
    (apart : other ≠ request)
    : Writing (base.put request place) other ↔ Writing plane other := by
  unfold Writing
  rw [moves.other apart]
  refine exists_congr fun driver => and_congr_right fun there => and_congr_right fun _ => ?_
  have ofOther : (plane.requests other).jobId? = some driver.jobId := by
    rw [there]
    rfl
  unfold Driven
  rw [show (base.put request place).jobs = base.jobs from rfl, moves.job_of_other apart ofOther,
    show (base.put request place).nowMs = plane.nowMs from moves.clock]

/-- One writer stays one while the request that moves does not write beside another. -/
theorem Moves.oneWriter_iff (moves : Moves releases plane base request place)
    (alone : OneWriter plane)
    : OneWriter (base.put request place)
      ↔ (Writing (base.put request place) request → Alone plane request) := by
  constructor
  · intro one writes other alsoWrites
    by_contra apart
    exact apart (one other request ((moves.writing_of_other apart).mpr alsoWrites) writes)
  · intro only one other writes alsoWrites
    by_cases first : one = request
    · by_cases second : other = request
      · rw [first, second]
      · rw [first] at writes ⊢
        exact (only writes other ((moves.writing_of_other second).mp alsoWrites)).symm
    · have oneWrites := (moves.writing_of_other first).mp writes
      by_cases second : other = request
      · rw [second] at alsoWrites ⊢
        exact only alsoWrites one oneWrites
      · exact alone one other oneWrites ((moves.writing_of_other second).mp alsoWrites)

-----------------------------------------------------------------------------------------
-- The requests before their drivers
-----------------------------------------------------------------------------------------

/-- A preflight that passes hands on the release it was asked for and the bundle it fetched. -/
theorem preflightStudioUpgrade_context {α : Type} {normalised : ByteCounts} {config : PlaneConfig}
    {tenant : StudioTenant} {release : String} {reads : StudioReads α}
    {context : StudioUpgradeContext α}
    (passed : preflightStudioUpgrade normalised config tenant release reads = .ok context)
    : context.release = release ∧ reads.bundle = .ok context.bundle := by
  unfold preflightStudioUpgrade at passed
  -- every branch but the last refuses
  repeat' split at passed
  all_goals cases passed
  exact ⟨rfl, by assumption⟩

/-- A bundle that a fetch finds is the mirror's. -/
theorem fetchedBundle_ok {releases : Releases} {release : String} {fetch : Except String Unit}
    {bundle : StudioBundle} (found : fetchedBundle releases release fetch = some (.ok bundle))
    : releases.bundle release = some bundle := by
  cases fetch with
  | error thrown => cases found
  | ok done =>
      obtain ⟨own, isBundle, same⟩ := Option.map_eq_some_iff.mp found
      cases same
      exact isBundle

/-- A request goes on before it drives, with the plane as it is. -/
theorem Moves.still (sound : Sound releases plane)
    (jobs : ∀ jobId, place.jobId? = some jobId
      → (plane.requests request).undriven? = some jobId)
    (fetched
      : ∀ context, place.context? = some context
        → releases.bundle context.release = some context.bundle)
    (undriven : ∀ driver, place ≠ .driving driver)
    : Moves releases plane plane request place where
  clock := rfl
  requests := rfl
  own jobId mine other apart theirs :=
    apart (sound.distinct other request jobId theirs (RequestAt.jobId_of_undriven (jobs jobId mine)))
  jobs _ _ := rfl
  present jobId mine := sound.present request jobId (RequestAt.jobId_of_undriven (jobs jobId mine))
  unleased jobId mine :=
    sound.unleased request jobId (jobs jobId (RequestAt.jobId_of_undriven mine))
  fetched := fetched
  grown _ applied := applied
  known right := by
    refine ⟨right, sound.known right, ?_⟩
    cases place with
    | driving driver => exact absurd rfl (undriven driver)
    | _ => trivial

/-- A request without a job of its own: it is answered, or it goes on to the next check. -/
theorem Moves.jobless (sound : Sound releases plane) (none : place.jobId? = none)
    (fetched
      : ∀ context, place.context? = some context
        → releases.bundle context.release = some context.bundle)
    : Moves releases plane plane request place := by
  refine .still sound (fun jobId mine => ?_) fetched ?_
  · cases none.symm.trans mine
  · intro driver h
    obtain rfl := h
    cases none

/-- A request inserts its job: no other request has it, for no job has its id. -/
theorem Moves.inserted (sound : Sound releases plane) {tenant : StudioTenant}
    {context : StudioUpgradeContext StudioBundle} {jobId : String}
    (there : plane.requests request = .inserting tenant context) {job : ProvisionJob}
    (named : job.id = jobId) (unleased : job.leaseUntil = none)
    (free : ∀ old ∈ plane.jobs.rows, old.id ≠ job.id)
    : Moves releases plane { plane with jobs := plane.jobs.insert job free } request
        (.auditing jobId tenant context) where
  clock := rfl
  requests := rfl
  own mineId mine other _ theirs := by
    obtain ⟨row, found⟩ := sound.present other mineId theirs
    refine free row (Keyed.get?_mem found) ?_
    rw [Keyed.get?_key found, named]
    exact (Option.some.inj mine).symm
  jobs otherId notMine := by
    refine (Keyed.get?_insert free otherId).trans (if_neg fun same => notMine ?_)
    rw [same, named]
    rfl
  present mineId mine := by
    refine ⟨job, (Keyed.get?_insert free mineId).trans (if_pos ?_)⟩
    rw [named]
    exact (Option.some.inj mine).symm
  unleased mineId mine row found := by
    have same : mineId = job.id := by
      rw [named]
      exact (Option.some.inj mine).symm
    rw [Keyed.get?_insert free mineId, if_pos same] at found
    rw [← Option.some.inj found]
    exact unleased
  fetched found same := by
    cases same
    exact sound.fetched request context (by rw [there]; rfl)
  grown _ applied := applied
  known right := ⟨right, sound.known right, trivial⟩

/-- A request that starts its driver. -/
theorem Moves.started (sound : Sound releases plane) {jobId : String} {tenant : StudioTenant}
    {context : StudioUpgradeContext StudioBundle}
    (there : plane.requests request = .starting jobId tenant context)
    : Moves releases plane (plane.callJob (.setJobRunning jobId)) request
        (.driving { jobId := jobId, tenant := tenant, context := context }) where
  clock := rfl
  requests := rfl
  own mineId mine other apart theirs := by
    refine apart (sound.distinct other request mineId theirs ?_)
    rw [there]
    exact mine
  jobs otherId notMine :=
    Update.get?_apply_of_ne _ plane.jobs fun same => notMine (congrArg some same.symm)
  present mineId mine := by
    obtain ⟨row, found⟩ := sound.present request mineId (by rw [there]; exact mine)
    exact ⟨_, (Update.get?_apply _ _ _).trans (by rw [found, Option.map_some])⟩
  unleased mineId mine := by cases mine
  fetched found same := by
    cases same
    exact sound.fetched request context (by rw [there]; rfl)
  grown _ applied := applied
  known right := ⟨right, sound.known right, trivial⟩

end ControlPlane.StudioUpgrade
