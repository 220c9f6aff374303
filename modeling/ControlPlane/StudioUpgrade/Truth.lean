import ControlPlane.StudioUpgrade.Requests

/-! The release on the row of a tenant, against the studio and the database it stands for. The check
for a live driver and the insert that follows it are apart, and what a driver uploads and records
does not depend on its lease.
-/

namespace ControlPlane.StudioUpgrade

open ControlPlane.Library
open ControlPlane.Migrations
open ControlPlane.Provision (jobHasLiveDriver)
open ControlPlane.Store
open ControlPlane.StudioBindings

variable {σ : Type}

/-- All migrations of a release are in the database. -/
def SchemaOf (releases : Releases) (database : StudioDatabase σ) (release : String) : Prop :=
  ∃ bundle, releases.bundle release = some bundle
    ∧ ∀ migration ∈ bundle.migrations.migrations, Applied database migration

/-- The release on the row is the one last uploaded, and its schema is there. -/
def Truthful (releases : Releases) (plane : UpgradePlane σ) : Prop :=
  ∀ release, plane.tenant.studioRelease = some release
    → plane.uploaded = some release ∧ SchemaOf releases plane.database release

/-- A statement that takes a lease, or renews it, and lands on its row. -/
def TakesLease (plane : UpgradePlane σ) (call : JobCall) : Prop :=
  takesLease call = true
  ∧ ∃ job, plane.jobs.get? call.jobId = some job ∧ (call.statement plane.now).guard job

/-- The row names no other release than that of the driver. -/
def MayUpload (plane : UpgradePlane σ) (driver : StudioDriver) : Prop :=
  ∀ release, plane.tenant.studioRelease = some release → release = driver.context.release

/-- The upload of the driver's release is still the last one, and, once a seeding has misrecorded,
the schema is nevertheless there.
-/
def MayRecord (plane : UpgradePlane σ) (driver : StudioDriver) : Prop :=
  plane.uploaded = some driver.context.release
  ∧ (plane.misrecorded = true
    → ∀ migration ∈ driver.context.bundle.migrations.migrations,
        Applied plane.database migration)

/-- What the steps must meet: a driver starts, or takes or renews its lease, while no other request
writes; and it uploads and records only while it may.
-/
def Undisturbed (plane : UpgradePlane σ) : UpgradeAction → Prop
  | .start request => Alone plane request
  | .drive request act =>
      ∀ driver, plane.requests request = .driving driver
        → (∀ call, driver.actCall act = some call → TakesLease plane call → Alone plane request)
          ∧ (act.lands = true → driver.stage = .uploading → MayUpload plane driver)
          ∧ (act.lands = true → driver.stage = .recording → MayRecord plane driver)
  | .pass _ | .arrive _ _ | .check _ _ | .preflight _ _ | .insert _ _ | .audit _ | .abandon _ => True

-----------------------------------------------------------------------------------------
-- What a driver does
-----------------------------------------------------------------------------------------

variable {sqlite : Sqlite σ} {normalised : ByteCounts} {releases : Releases}
variable {plane after : UpgradePlane σ} {request : Nat} {driver next : StudioDriver}
variable {act : DriverAct}

/-- A statement on its job leaves a driver live when it takes the lease. -/
theorem driven_of_taken {call : JobCall} (ofDriver : JobCall.OfDriver call)
    (takes : TakesLease plane call)
    : Driven (plane.callJob call) call.jobId := by
  obtain ⟨taking, job, found, met⟩ := takes
  have target := JobCall.statement_target plane.now call
  have written := Update.get?_apply_of_match (call.statement plane.now)
    (target.symm ▸ found) met
  rw [target] at written
  simp only [Driven, UpgradePlane.callJob, written, Option.any_some]
  exact live_of_taken ofDriver taking met

/-- One that takes none leaves it live only if it was. -/
theorem driven_of_callJob {call : JobCall} {jobId : String}
    (driven : Driven (plane.callJob call) jobId)
    : (jobId = call.jobId ∧ TakesLease plane call) ∨ Driven plane jobId := by
  unfold Driven UpgradePlane.callJob at driven
  rw [Update.get?_apply] at driven
  cases found : plane.jobs.get? jobId with
  | none =>
      rw [found] at driven
      cases driven
  | some job =>
      rw [found, Option.map_some, Option.any_some] at driven
      by_cases takes : jobId = call.jobId ∧ TakesLease plane call
      · exact .inl takes
      · refine .inr ?_
        rw [Driven, found, Option.any_some]
        by_cases hit : jobId = call.jobId
        · refine live_of_untaken ?_ driven
          by_contra! both
          obtain ⟨taking, met⟩ := both
          exact takes ⟨hit, by simpa using taking, job, hit ▸ found, met⟩
        · have keyed : job.id = jobId := Keyed.get?_key found
          rwa [Update.onRow_of_not] at driven
          rw [keyed, JobCall.statement_target]
          exact fun both => hit both.1

/-- A driver goes on with its job and its context. -/
theorem Acted.goesOn (acted : Acted sqlite normalised plane driver act after next)
    : next.jobId = driver.jobId ∧ next.context = driver.context := by
  cases acted with
  | landed lands makes ran =>
      cases ran with
      | called made onward works => exact ⟨onward.job, onward.context⟩
      | read made elsewhere onward => exact ⟨onward.job, onward.context⟩
      | cleared place onward => exact ⟨onward.job, onward.context⟩
      | queried place made landed job context vouches => exact ⟨job, context⟩
      | uploaded place onward => exact ⟨onward.job, onward.context⟩
      | recorded place onward => exact ⟨onward.job, onward.context⟩
  | beat beats => exact ⟨rfl, rfl⟩
  | silent lands makes onward => exact ⟨onward.job, onward.context⟩

/-- It makes a statement on its own job, or leaves the jobs as they are. -/
theorem Acted.calls (atWork : driver.atWork = true)
    (acted : Acted sqlite normalised plane driver act after next)
    : (∃ call, driver.actCall act = some call ∧ call.jobId = driver.jobId
        ∧ JobCall.OfDriver call ∧ after = plane.callJob call
        ∧ (takesLease call = true → next.atWork = true))
      ∨ (driver.actCall act = none ∧ after.nowMs = plane.nowMs ∧ after.jobs = plane.jobs
        ∧ after.requests = plane.requests) := by
  have idle {stage : Stage} (place : driver.stage = stage)
      (none : ({ driver with stage := stage } : StudioDriver).jobCall = none)
      : driver.jobCall = Option.none := by
    rw [← none, ← place]
  cases acted with
  | landed lands makes ran =>
      cases ran with
      | called made onward works =>
          obtain ⟨own, ofDriver⟩ := jobCall_own made
          exact .inl ⟨_, makes.trans made, own, ofDriver, rfl, works⟩
      | read made elsewhere onward => exact .inr ⟨makes.trans made, rfl, rfl, rfl⟩
      | cleared place onward => exact .inr ⟨makes.trans (idle place rfl), rfl, rfl, rfl⟩
      | queried place made landed job context vouches =>
          exact .inr ⟨makes.trans (idle place rfl), rfl, rfl, rfl⟩
      | uploaded place onward => exact .inr ⟨makes.trans (idle place rfl), rfl, rfl, rfl⟩
      | recorded place onward => exact .inr ⟨makes.trans (idle place rfl), rfl, rfl, rfl⟩
  | beat beats =>
      rw [beats]
      exact .inl ⟨_, rfl, rfl, rfl, rfl, fun _ => atWork⟩
  | silent lands makes onward => exact .inr ⟨makes, rfl, rfl, rfl⟩

/-- No driver takes a migration out of the database. -/
theorem Acted.grown (acted : Acted sqlite normalised plane driver act after next)
    : ∀ migration, Applied plane.database migration → Applied after.database migration := by
  intro migration applied
  cases acted with
  | landed lands makes ran =>
      cases ran with
      | queried place made landed job context vouches => exact applied.queried landed
      | _ => exact applied
  | beat beats => exact applied
  | silent lands makes onward => exact applied

/-- A driver that was right about the database still is, and so is the tracking table, unless its
seeding misrecords.
-/
theorem Acted.known
    (ships : ∀ migration ∈ driver.context.bundle.migrations.migrations, releases.Ships migration)
    (knows
      : plane.misrecorded = false → KnownApplied releases plane.database plane.database.recorded)
    (vouched : plane.misrecorded = false → driver.Vouches releases plane.database)
    (acted : Acted sqlite normalised plane driver act after next)
    (right : after.misrecorded = false)
    : plane.misrecorded = false
      ∧ KnownApplied releases after.database after.database.recorded
      ∧ next.Vouches releases after.database := by
  have onward (same : after.misrecorded = plane.misrecorded)
      (database : after.database = plane.database) (went : Onward σ driver next)
      : plane.misrecorded = false ∧ KnownApplied releases after.database after.database.recorded
        ∧ next.Vouches releases after.database := by
    have before := same.symm.trans right
    rw [database]
    exact ⟨before, knows before, went.vouches _ _ (vouched before)⟩
  cases acted with
  | landed lands makes ran =>
      cases ran with
      | called made went works => exact onward rfl rfl went
      | read made elsewhere went => exact onward rfl rfl went
      | cleared place went => exact onward rfl rfl went
      | queried place made landed job context vouches =>
          obtain ⟨before, truthful⟩ := Bool.or_eq_false_iff.mp right
          have atRun := vouched before
          rw [StudioDriver.Vouches, place] at atRun
          obtain ⟨vouch, knowsLater⟩ :=
            MigratorVouches.answered ships atRun (knows before) (of_decide_eq_false truthful) made
              landed
          exact ⟨before, knowsLater, vouches releases vouch⟩
      | uploaded place went => exact onward rfl rfl went
      | recorded place went => exact onward rfl rfl went
  | beat beats => exact ⟨right, knows right, vouched right⟩
  | silent lands makes went => exact onward rfl rfl went

/-- What a driver does moves the place of its request. -/
theorem Acted.moves (sound : Sound releases plane) (there : plane.requests request = .driving driver)
    (atWork : driver.atWork = true) (acted : Acted sqlite normalised plane driver act after next)
    : Moves releases plane after request (.driving next) := by
  obtain ⟨job, context⟩ := acted.goesOn
  have ofRequest : (plane.requests request).jobId? = some driver.jobId := by
    rw [there]
    rfl
  have ownJob {jobId : String} (mine : (RequestAt.driving next).jobId? = some jobId)
      : jobId = driver.jobId := (Option.some.inj mine).symm.trans job
  have fetched := sound.fetched request driver.context (by rw [there]; rfl)
  obtain ⟨row, found⟩ := sound.present request driver.jobId ofRequest
  have vouched (right : plane.misrecorded = false) : driver.Vouches releases plane.database := by
    have atPlace := sound.vouches right request
    rwa [there] at atPlace
  have others (jobId : String) (apart : jobId ≠ driver.jobId)
      : after.jobs.get? jobId = plane.jobs.get? jobId := by
    rcases acted.calls atWork with ⟨call, -, own, -, rfl, -⟩ | ⟨-, -, jobs, -⟩
    · refine Update.get?_apply_of_ne _ plane.jobs ?_
      rwa [JobCall.statement_target, own]
    · rw [jobs]
  refine ⟨?_, ?_, ?_, ?_, ?_, ?_, ?_, acted.grown, ?_⟩
  · rcases acted.calls atWork with ⟨call, -, -, -, rfl, -⟩ | ⟨-, clock, -, -⟩
    · rfl
    · exact clock
  · rcases acted.calls atWork with ⟨call, -, -, -, rfl, -⟩ | ⟨-, -, -, requests⟩
    · rfl
    · exact requests
  · intro jobId mine other apart theirs
    rw [ownJob mine] at theirs
    exact apart (sound.distinct other request driver.jobId theirs ofRequest)
  · exact fun jobId notMine => others jobId fun same => notMine (by rw [same, ← job]; rfl)
  · intro jobId mine
    rw [ownJob mine]
    rcases acted.calls atWork with ⟨call, -, -, -, rfl, -⟩ | ⟨-, -, jobs, -⟩
    · exact ⟨_, (Update.get?_apply _ _ _).trans (by rw [found, Option.map_some])⟩
    · exact ⟨row, by rw [jobs, found]⟩
  · intro jobId undriven
    cases undriven
  · intro upgrades same
    cases same
    rw [context]
    exact fetched
  · exact acted.known
      (fun migration member => ⟨driver.context.release, driver.context.bundle, fetched, member⟩)
      sound.known vouched

/-- The request of a driver writes after an act when the act takes a lease, or when it wrote. -/
theorem Acted.writes (there : plane.requests request = .driving driver)
    (atWork : driver.atWork = true) (acted : Acted sqlite normalised plane driver act after next)
    (writes : Writing (after.put request (.driving next)) request)
    : (∃ call, driver.actCall act = some call ∧ TakesLease plane call) ∨ Writing plane request := by
  obtain ⟨found, place, -, driven⟩ := writes
  rw [put_requests_self] at place
  cases place
  have stillDriven : Driven after driver.jobId := acted.goesOn.1 ▸ driven
  rcases acted.calls atWork with ⟨call, makes, own, -, rfl, -⟩ | ⟨-, clock, jobs, -⟩
  · rcases driven_of_callJob stillDriven with ⟨-, takes⟩ | before
    · exact .inl ⟨call, makes, takes⟩
    · exact .inr ⟨driver, there, atWork, before⟩
  · rw [Driven, clock, jobs] at stillDriven
    exact .inr ⟨driver, there, atWork, stillDriven⟩

/-- An act that takes a lease leaves its request writing. -/
theorem Acted.writes_of_taken (atWork : driver.atWork = true)
    (acted : Acted sqlite normalised plane driver act after next) {call : JobCall}
    (makes : driver.actCall act = some call) (takes : TakesLease plane call)
    : Writing (after.put request (.driving next)) request := by
  refine ⟨next, put_requests_self, ?_⟩
  rcases acted.calls atWork with ⟨made, also, own, ofDriver, rfl, works⟩ | ⟨none, -⟩
  · obtain rfl : call = made := Option.some.inj (makes.symm.trans also)
    refine ⟨works takes.1, ?_⟩
    rw [acted.goesOn.1, ← own]
    exact driven_of_taken ofDriver takes
  · cases none.symm.trans makes

/-- The row stays truthful through an act exactly when an upload finds no other release recorded,
and a recorded release is the one uploaded, with its schema there.
-/
theorem Acted.truthful_iff (sound : Sound releases plane)
    (there : plane.requests request = .driving driver) (truthful : Truthful releases plane)
    (acted : Acted sqlite normalised plane driver act after next)
    : Truthful releases after
      ↔ (act.lands = true → driver.stage = .uploading → MayUpload plane driver)
        ∧ (act.lands = true → driver.stage = .recording → MayRecord plane driver) := by
  have fetched := sound.fetched request driver.context (by rw [there]; rfl)
  have elsewhere (stays : Truthful releases after) (notUploading : driver.stage ≠ .uploading)
      (notRecording : driver.stage ≠ .recording)
      : Truthful releases after
        ↔ (act.lands = true → driver.stage = .uploading → MayUpload plane driver)
          ∧ (act.lands = true → driver.stage = .recording → MayRecord plane driver) :=
    iff_of_true stays
      ⟨fun _ uploading => absurd uploading notUploading,
        fun _ recording => absurd recording notRecording⟩
  have silent (unlanded : act.lands = false) (stays : Truthful releases after)
      : Truthful releases after
        ↔ (act.lands = true → driver.stage = .uploading → MayUpload plane driver)
          ∧ (act.lands = true → driver.stage = .recording → MayRecord plane driver) :=
    iff_of_true stays
      ⟨fun lands => absurd (unlanded.symm.trans lands) Bool.false_ne_true,
        fun lands => absurd (unlanded.symm.trans lands) Bool.false_ne_true⟩
  cases acted with
  | landed lands makes ran =>
      cases ran with
      | called made onward works =>
          have notAt {stage : Stage}
              (none : ({ driver with stage := stage } : StudioDriver).jobCall = none)
              : driver.stage ≠ stage := by
            intro h
            obtain rfl := h
            cases made.symm.trans none
          exact elsewhere truthful (notAt rfl) (notAt rfl)
      | read made apart onward => exact elsewhere truthful apart.1 apart.2
      | cleared place onward =>
          exact elsewhere (fun release recorded => by cases recorded) (by simp [place])
            (by simp [place])
      | queried place made landed job context vouches =>
          refine elsewhere (fun release recorded => ?_) (by simp [place]) (by simp [place])
          obtain ⟨uploaded, bundle, isBundle, applied⟩ := truthful release recorded
          exact ⟨uploaded, bundle, isBundle,
            fun migration member => (applied migration member).queried landed⟩
      | uploaded place onward =>
          have notRecording : driver.stage ≠ .recording := by simp [place]
          constructor
          · intro stays
            refine ⟨fun _ _ release recorded => ?_, fun _ also => absurd also notRecording⟩
            exact (Option.some.inj (stays release recorded).1).symm
          · intro h release recorded
            obtain ⟨only, -⟩ := h
            rw [only lands place release recorded]
            refine ⟨rfl, ?_⟩
            rw [← only lands place release recorded]
            exact (truthful release recorded).2
      | recorded place onward =>
          have notUploading : driver.stage ≠ .uploading := by simp [place]
          constructor
          · intro stays
            refine ⟨fun _ also => absurd also notUploading, fun _ _ => ?_⟩
            obtain ⟨uploaded, bundle, isBundle, applied⟩ := stays driver.context.release rfl
            refine ⟨uploaded, fun _ => ?_⟩
            rwa [← Option.some.inj (isBundle.symm.trans fetched)]
          · intro h release recorded
            obtain ⟨-, last⟩ := h
            cases recorded
            obtain ⟨uploaded, applied⟩ := last lands place
            refine ⟨uploaded, driver.context.bundle, fetched, ?_⟩
            cases right : plane.misrecorded with
            | true => exact applied right
            | false =>
                have vouched := sound.vouches right request
                rw [there, RequestAt.Vouches, StudioDriver.Vouches, place] at vouched
                exact vouched
  | beat beats => exact silent (by rw [beats]; rfl) truthful
  | silent unlanded makes onward => exact silent unlanded truthful

-----------------------------------------------------------------------------------------
-- One step, and a whole run
-----------------------------------------------------------------------------------------

/-- What one action does. -/
inductive Stepped (sqlite : Sqlite σ) (normalised : ByteCounts) (releases : Releases)
    (plane : UpgradePlane σ) : UpgradeAction → UpgradePlane σ → Prop
  | passed (ms : Nat)
      : Stepped sqlite normalised releases plane (.pass ms)
          { plane with nowMs := plane.nowMs + ms }
  | quiet {action : UpgradeAction} {request : Nat} {base : UpgradePlane σ} {place : RequestAt}
      (free : Undisturbed plane action) (moves : Moves releases plane base request place)
      (undriven : ∀ driver, place ≠ .driving driver)
      (same : base.tenant = plane.tenant ∧ base.uploaded = plane.uploaded
        ∧ base.database = plane.database)
      : Stepped sqlite normalised releases plane action (base.put request place)
  | started {request : Nat} {jobId : String} {tenant : StudioTenant}
      {context : StudioUpgradeContext StudioBundle}
      (there : plane.requests request = .starting jobId tenant context)
      : Stepped sqlite normalised releases plane (.start request)
          ((plane.callJob (.setJobRunning jobId)).put request
            (.driving { jobId := jobId, tenant := tenant, context := context }))
  | drove {request : Nat} {driver next : StudioDriver} {act : DriverAct} {after : UpgradePlane σ}
      (there : plane.requests request = .driving driver) (atWork : driver.atWork = true)
      (acted : Acted sqlite normalised plane driver act after next)
      : Stepped sqlite normalised releases plane (.drive request act)
          (after.put request (.driving next))

/-- A request that moves without a job leaves all else as it is. -/
theorem Stepped.jobless {action : UpgradeAction} {place : RequestAt} (sound : Sound releases plane)
    (free : Undisturbed plane action) (none : place.jobId? = none)
    (fetched
      : ∀ context, place.context? = some context
        → releases.bundle context.release = some context.bundle)
    : Stepped sqlite normalised releases plane action (plane.put request place) := by
  refine .quiet free (.jobless sound none fetched) ?_ ⟨rfl, rfl, rfl⟩
  intro driver h
  obtain rfl := h
  cases none

theorem step_cases {action : UpgradeAction} (sound : Sound releases plane)
    (taken : plane.step sqlite normalised releases action = some after)
    : Stepped sqlite normalised releases plane action after := by
  cases action with
  | pass ms =>
      cases taken
      exact .passed ms
  | arrive request release =>
      simp only [UpgradePlane.step] at taken
      split at taken
      next there =>
        cases taken
        split
        next => exact .jobless sound trivial rfl fun _ same => by cases same
        next => exact .jobless sound trivial rfl fun _ same => by cases same
      next => cases taken
  | check request latest =>
      simp only [UpgradePlane.step] at taken
      split at taken
      next tenant release there =>
        obtain ⟨-, same⟩ := Option.ite_none_right_eq_some.mp taken
        cases same
        split
        next => exact .jobless sound trivial rfl fun _ same => by cases same
        next => exact .jobless sound trivial rfl fun _ same => by cases same
      next => cases taken
  | preflight request reads =>
      simp only [UpgradePlane.step] at taken
      split at taken
      next tenant release there =>
        obtain ⟨bundle, fetch, same⟩ := Option.map_eq_some_iff.mp taken
        subst same
        split
        next refusal refused =>
          exact .jobless sound trivial rfl fun _ same => by cases same
        next context passed =>
          refine .jobless sound trivial rfl ?_
          intro found same
          cases same
          obtain ⟨named, bundled⟩ := preflightStudioUpgrade_context passed
          rw [named]
          have isBundle : bundle = .ok context.bundle := bundled
          rw [isBundle] at fetch
          exact fetchedBundle_ok fetch
      next => cases taken
  | insert request jobId =>
      simp only [UpgradePlane.step] at taken
      split at taken
      next tenant context there =>
        split at taken
        next free =>
          cases taken
          exact .quiet trivial (.inserted sound there rfl rfl free) (fun _ same => by cases same)
            ⟨rfl, rfl, rfl⟩
        next => cases taken
      next => cases taken
  | audit request =>
      simp only [UpgradePlane.step] at taken
      split at taken
      next jobId tenant context there =>
        cases taken
        refine .quiet trivial (.still sound ?_ ?_ (fun _ same => by cases same))
          (fun _ same => by cases same) ⟨rfl, rfl, rfl⟩
        · intro own mine
          rw [there]
          exact mine
        · intro found same
          cases same
          exact sound.fetched request context (by rw [there]; rfl)
      next => cases taken
  | start request =>
      simp only [UpgradePlane.step] at taken
      split at taken
      next jobId tenant context there =>
        cases taken
        exact .started there
      next => cases taken
  | abandon request =>
      simp only [UpgradePlane.step] at taken
      split at taken
      next => cases taken
      next => cases taken
      next => cases taken
      next =>
        cases taken
        exact .jobless sound trivial rfl fun _ same => by cases same
  | drive request act =>
      simp only [UpgradePlane.step] at taken
      split at taken
      next driver there =>
        obtain ⟨⟨done, went⟩, acted, rfl⟩ := Option.map_eq_some_iff.mp taken
        obtain ⟨atWork, cases⟩ := act_cases acted
        exact .drove there atWork cases
      next => cases taken

theorem sound_step {action : UpgradeAction} (sound : Sound releases plane)
    (taken : plane.step sqlite normalised releases action = some after)
    : Sound releases after := by
  cases step_cases sound taken with
  | passed ms =>
      exact ⟨sound.present, sound.distinct, sound.unleased, sound.fetched, sound.known,
        sound.vouches⟩
  | quiet free moves undriven same => exact moves.sound sound
  | started there => exact (Moves.started sound there).sound sound
  | drove there atWork acted => exact (acted.moves sound there atWork).sound sound

/-- Time only ends leases. -/
theorem writing_of_passed {ms : Nat}
    (writes : Writing { plane with nowMs := plane.nowMs + ms } request)
    : Writing plane request := by
  obtain ⟨driver, there, atWork, driven⟩ := writes
  refine ⟨driver, there, atWork, ?_⟩
  unfold Driven at driven ⊢
  cases found : plane.jobs.get? driver.jobId with
  | none =>
      rw [found] at driven
      cases driven
  | some job =>
      rw [found, Option.any_some, jobHasLiveDriver, Bool.and_eq_true] at driven
      obtain ⟨open_, held⟩ := driven
      rw [Option.any_some, jobHasLiveDriver, Bool.and_eq_true]
      refine ⟨open_, ?_⟩
      cases lease : job.leaseUntil with
      | none =>
          rw [lease] at held
          cases held
      | some expiry =>
          simp only [lease, Option.any_some, decide_eq_true_eq] at held ⊢
          omega

/-- A request whose driver starts writes. -/
theorem writing_of_started (sound : Sound releases plane) {jobId : String} {tenant : StudioTenant}
    {context : StudioUpgradeContext StudioBundle}
    (there : plane.requests request = .starting jobId tenant context)
    : Writing
        ((plane.callJob (.setJobRunning jobId)).put request
          (.driving { jobId := jobId, tenant := tenant, context := context }))
        request := by
  obtain ⟨job, found⟩ := sound.present request jobId (by rw [there]; rfl)
  have unleased := sound.unleased request jobId (by rw [there]; rfl) job found
  refine ⟨_, put_requests_self, rfl, ?_⟩
  refine driven_of_taken trivial ⟨rfl, job, found, ?_⟩
  simp [JobCall.statement, Store.setJobRunning, unleased]

/-- What the row records is true, and one driver writes. -/
def Recorded (releases : Releases) (plane : UpgradePlane σ) : Prop :=
  Truthful releases plane ∧ OneWriter plane

/-- One step keeps that exactly when it is undisturbed. -/
theorem recorded_step_iff {action : UpgradeAction} (sound : Sound releases plane)
    (good : Recorded releases plane)
    (taken : plane.step sqlite normalised releases action = some after)
    : Recorded releases after ↔ Undisturbed plane action := by
  obtain ⟨truthful, alone⟩ := good
  cases step_cases sound taken with
  | passed ms =>
      refine iff_of_true ⟨truthful, fun request other writes alsoWrites => ?_⟩ trivial
      exact alone request other (writing_of_passed writes) (writing_of_passed alsoWrites)
  | quiet free moves undriven same =>
      refine iff_of_true ⟨?_, ?_⟩ free
      · intro release recorded
        obtain ⟨tenant, uploaded, database⟩ := same
        have before := truthful release ((congrArg (·.studioRelease) tenant).symm.trans recorded)
        exact ⟨uploaded.trans before.1, database ▸ before.2⟩
      · refine (moves.oneWriter_iff alone).mpr fun writes => ?_
        obtain ⟨driver, there, -⟩ := writes
        exact absurd (put_requests_self.symm.trans there) (undriven driver)
  | @started request jobId tenant context there =>
      have moves := Moves.started sound there
      refine (and_iff_right truthful).trans ((moves.oneWriter_iff alone).trans ?_)
      exact ⟨fun only => only (writing_of_started sound there), fun only _ => only⟩
  | @drove request driver next act done there atWork acted =>
      have moves := acted.moves sound there atWork
      have oneWriter
          : OneWriter (done.put request (.driving next))
            ↔ ∀ call, driver.actCall act = some call → TakesLease plane call
              → Alone plane request := by
        refine (moves.oneWriter_iff alone).trans ⟨fun only call makes takes => ?_, fun only writes => ?_⟩
        · exact only (acted.writes_of_taken atWork makes takes)
        · rcases acted.writes there atWork writes with ⟨call, makes, takes⟩ | before
          · exact only call makes takes
          · exact fun other also => alone other request also before
      refine (and_congr (acted.truthful_iff sound there truthful) oneWriter).trans ?_
      refine and_comm.trans ⟨fun met found same => ?_, fun met => met driver there⟩
      obtain rfl : driver = found := RequestAt.driving.inj (there.symm.trans same)
      exact met

/-- A plane before the requests: what the row records is true, and so is the tracking table, unless
it is taken to be misrecorded.
-/
structure Opening (releases : Releases) (plane : UpgradePlane σ) : Prop where
  idle : ∀ request, plane.requests request = .idle
  truthful : Truthful releases plane
  known
    : plane.misrecorded = false → KnownApplied releases plane.database plane.database.recorded

theorem Opening.sound (opening : Opening releases plane) : Sound releases plane where
  present request jobId has := by
    rw [opening.idle] at has
    cases has
  distinct request other jobId has := by
    rw [opening.idle] at has
    cases has
  unleased request jobId has := by
    rw [opening.idle] at has
    cases has
  fetched request context has := by
    rw [opening.idle] at has
    cases has
  known := opening.known
  vouches _ request := by
    rw [opening.idle]
    trivial

/-- The release on the row is truthful, and the studio has one writer, in every state of a run
exactly when its steps are undisturbed.
-/
theorem releaseTruthful_iff (opening : Opening releases plane) (run : List UpgradeAction)
    : Everywhere (UpgradePlane.step sqlite normalised releases) (Recorded releases) plane run
      ↔ Throughout (UpgradePlane.step sqlite normalised releases) Undisturbed plane run := by
  have alone : OneWriter plane := by
    intro request other h
    obtain ⟨driver, there, -⟩ := h
    cases (opening.idle request).symm.trans there
  exact everywhere_iff_throughout (fun state action next sound _ taken => sound_step sound taken)
    (fun state action next sound _ good taken => recorded_step_iff sound good taken) opening.sound
    ⟨opening.truthful, alone⟩ (throughout_of_forall (fun _ _ _ _ => trivial) plane run)

-----------------------------------------------------------------------------------------
-- Two upgrades of one studio
-----------------------------------------------------------------------------------------

/-- A mirror whose releases ship no migrations. -/
def bareReleases : Releases where
  bundle _ := some { migrations := .empty, shipsAssets := false }
  immutable isOne _ _ member := by
    cases isOne
    cases member

def emptySqlite : Sqlite Unit where
  run _ _ := some ()
  hasTable _ _ := false

/-- A live tenant whose studio has the variables every studio must have. -/
def servedPlane : UpgradePlane Unit where
  nowMs := 0
  config := {}
  jobs := Keyed.empty
  tenant :=
    { id := "ten_1"
      slug := "acme"
      accountId := "acct_1"
      status := .live
      scriptName := some "tenant-acme-studio"
      d1DatabaseId := some "db_1"
      studioTokenEnc := some "sealed" }
  database := { schema := (), schemaMigrations := none, executed := [] }
  script :=
    Keyed.empty.replaceAll
      [.plainText "AUTH_MODE" "token", .plainText "R2_S3_BUCKET" "acme",
        .plainText "R2_S3_ENDPOINT" "https://r2.example"]
  uploaded := none
  misrecorded := false
  requests _ := .idle

/-- A request up to its preflight. -/
def checked (request : Nat) (release : String) : List UpgradeAction :=
  [.arrive request (some release), .check request none, .preflight request { bundle := .ok () }]

/-- A request from its insert to its driver. -/
def begun (request : Nat) (jobId : String) : List UpgradeAction :=
  [.insert request jobId, .audit request, .start request]

def drives (request steps : Nat) : List UpgradeAction :=
  List.replicate steps (.drive request (.run 200))

/-- Two requests, both checked before either has a job. -/
def bothStart : List UpgradeAction :=
  checked 0 "v1" ++ checked 1 "v2" ++ begun 0 "job_1" ++ begun 1 "job_2"

/-- Each uploads its release; the one that uploaded first records its own. -/
def bothUpload : List UpgradeAction :=
  drives 0 9 ++ drives 1 9 ++ drives 0 6

theorem servedPlane_opening : Opening bareReleases servedPlane where
  idle _ := rfl
  truthful release recorded := by cases recorded
  known _ migration _ member := by cases member

/-- What one upgrade keeps true, from its request to its record. -/
theorem oneUpgrade_truthful
    : Opening bareReleases servedPlane
      ∧ (Everywhere (UpgradePlane.step emptySqlite some bareReleases) (Recorded bareReleases)
            servedPlane (checked 0 "v1" ++ begun 0 "job_1" ++ drives 0 16)
          ↔ Throughout (UpgradePlane.step emptySqlite some bareReleases) Undisturbed
              servedPlane (checked 0 "v1" ++ begun 0 "job_1" ++ drives 0 16)) :=
  ⟨servedPlane_opening, releaseTruthful_iff servedPlane_opening _⟩

/-- Two upgrades write at once, and the row ends up with the release of the one while the studio runs
that of the other.
-/
theorem twoUpgrades_untruthful
    : Opening bareReleases servedPlane
      ∧ (∃ plane,
          exec (UpgradePlane.step emptySqlite some bareReleases) servedPlane bothStart = some plane
          ∧ ¬OneWriter plane)
      ∧ ∃ plane,
          exec (UpgradePlane.step emptySqlite some bareReleases) servedPlane
              (bothStart ++ bothUpload)
            = some plane
          ∧ ¬Truthful bareReleases plane := by
  refine ⟨servedPlane_opening, ?_, ?_⟩
  · have shown
        : (exec (UpgradePlane.step emptySqlite some bareReleases) servedPlane bothStart).map
            (fun plane => decide (Writing plane 0 ∧ Writing plane 1))
          = some true := by
      decide +kernel
    obtain ⟨plane, reached, both⟩ := Option.map_eq_some_iff.mp shown
    obtain ⟨first, second⟩ := of_decide_eq_true both
    exact ⟨plane, reached, fun one => absurd (one 0 1 first second) (by decide)⟩
  · have shown
        : (exec (UpgradePlane.step emptySqlite some bareReleases) servedPlane
            (bothStart ++ bothUpload)).map
            (fun plane => (plane.tenant.studioRelease, plane.uploaded))
          = some (some "v1", some "v2") := by
      decide +kernel
    obtain ⟨plane, reached, both⟩ := Option.map_eq_some_iff.mp shown
    obtain ⟨recorded, uploaded⟩ := Prod.mk.inj both
    refine ⟨plane, reached, fun truthful => ?_⟩
    have same := Option.some.inj (uploaded.symm.trans (truthful "v1" recorded).1)
    exact absurd same (by decide)

end ControlPlane.StudioUpgrade
