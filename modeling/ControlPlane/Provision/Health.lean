import ControlPlane.Provision.Calm
import ControlPlane.Provision.Driving
import ControlPlane.Provision.Progress

/-! Driving keeps a provision healthy as long as every claim that wins hands on a tenant row that
is current for the steps it goes on from. Engines go round with rows they read long ago, and one
of them may claim with the row it listed before the steps that the job has since recorded.
-/

namespace ControlPlane.Provision

open ControlPlane.Library
open ControlPlane.Store

/-- A job row that an engine has read: what it says is done is still backed, and once it was taken
the job stays taken.
-/
structure Seen (rows : Rows) (job : ProvisionJob) : Prop where
  id : job.id = rows.job.id
  taken : job.status ≠ .queued → rows.job.status ≠ .queued
  backed
    : job.status.active → ∃ done, job.stepsDone = stringifySteps done ∧ Truthful rows.tenant done

/-- The first driver before it starts, and every driver that runs. -/
def EngineAt.AtWork : EngineAt → Prop
  | .dispatched _ | .driving _ _ _ => True
  | _ => False

/-- What holds of an engine, of what it has read and of what is stored. -/
def EngineAt.Fits (now : Nat) (rows : Rows) : EngineAt → Prop
  | .idle | .reaping _ _ => True
  | .owesStatus => False
  | .dispatched tenant => Sane tenant ∧ rows.job.status = .queued
  | .holding _ tenant => Sane tenant
  | .deciding _ tenant job => Sane tenant ∧ Seen rows job
  | .claiming _ tenant job =>
      Sane tenant ∧ Seen rows job ∧ job.status.active ∧ rows.job.status ≠ .queued
  | .driving _ tenant invocation =>
      Sane tenant ∧ Held rows invocation ∧ Calm invocation ∧ Guarded now rows.job

/-- What holds at every moment of a plane that serves its provision. At most one driver is at work.
-/
structure Driving.Sound (state : Driving) : Prop where
  stored : StoredSound state.rows
  fits : ∀ which, (state.engines which).Fits state.now state.rows
  alone
    : ∀ which other, (state.engines which).AtWork → (state.engines other).AtWork → which = other

/-- A job row that is just read is as good as what is stored. -/
theorem seen_of_read {rows : Rows} (recorded : Open rows) : Seen rows rows.job where
  id := rfl
  taken := id
  backed active := by
    obtain ⟨done, text, truthful⟩ := recorded active
    exact ⟨done, text, truthful⟩

/-- What was read stays as good as it was. -/
theorem Seen.advance {rows after : Rows} {job : ProvisionJob} (seen : Seen rows job)
    (advances : Advances rows after)
    : Seen after job where
  id := seen.id.trans advances.job.id.symm
  taken taken := advances.job.taken (seen.taken taken)
  backed active := by
    obtain ⟨done, text, truthful⟩ := seen.backed active
    exact ⟨done, text, advances.truthful done truthful⟩

/-- An engine that is not at work fits the rows after any step. -/
theorem EngineAt.Fits.advance {now later : Nat} {rows after : Rows} {place : EngineAt}
    (fits : place.Fits now rows) (notAtWork : ¬ place.AtWork) (advances : Advances rows after)
    : place.Fits later after := by
  cases place with
  | idle => trivial
  | reaping job message => trivial
  | owesStatus => exact fits
  | dispatched tenant => exact absurd trivial notAtWork
  | holding engine tenant => exact fits
  | deciding engine tenant job => exact ⟨fits.1, fits.2.advance advances⟩
  | claiming engine tenant job =>
      obtain ⟨sane, seen, active, taken⟩ := fits
      exact ⟨sane, seen.advance advances, active, advances.job.taken taken⟩
  | driving engine tenant invocation => exact absurd trivial notAtWork

-----------------------------------------------------------------------------------------
-- Each act of an engine
-----------------------------------------------------------------------------------------

/-- One engine goes elsewhere and may change the rows, if no other is at work or the rows stay. -/
theorem Driving.Sound.moved {state : Driving} (sound : state.Sound) {which : Nat} {after : Rows}
    {place : EngineAt} (advances : Advances state.rows after) (recorded : Open after)
    (settled : Settled after) (fits : place.Fits state.now after)
    (others : after = state.rows ∨ ∀ other, other ≠ which → ¬ (state.engines other).AtWork)
    (alone : place.AtWork → ∀ other, other ≠ which → ¬ (state.engines other).AtWork)
    : (Driving.put { state with rows := after } which place).Sound where
  stored := sound.stored.advance advances recorded settled
  fits other := by
    by_cases same : other = which
    · simp only [Driving.put, same, Function.update_self]
      exact fits
    · simp only [Driving.put, Function.update_of_ne same]
      rcases others with kept | idle
      · exact kept ▸ sound.fits other
      · exact (sound.fits other).advance (idle other same) advances
  alone first second := by
    intro firstAtWork secondAtWork
    simp only [Driving.put] at firstAtWork secondAtWork
    by_cases isFirst : first = which <;> by_cases isSecond : second = which
    · rw [isFirst, isSecond]
    · rw [isFirst, Function.update_self] at firstAtWork
      rw [Function.update_of_ne isSecond] at secondAtWork
      exact absurd secondAtWork (alone firstAtWork second isSecond)
    · rw [isSecond, Function.update_self] at secondAtWork
      rw [Function.update_of_ne isFirst] at firstAtWork
      exact absurd firstAtWork (alone secondAtWork first isFirst)
    · rw [Function.update_of_ne isFirst] at firstAtWork
      rw [Function.update_of_ne isSecond] at secondAtWork
      exact sound.alone first second firstAtWork secondAtWork

/-- One engine goes elsewhere without being at work, and the rows stay. -/
theorem Driving.Sound.read {state : Driving} (sound : state.Sound) {which : Nat} {place : EngineAt}
    (fits : place.Fits state.now state.rows) (notAtWork : ¬ place.AtWork)
    : (state.put which place).Sound :=
  sound.moved (Advances.refl state.rows) sound.stored.recorded sound.stored.settled fits (.inl rfl)
    fun atWork => absurd atWork notAtWork

/-- While one engine is at work, no other is. -/
theorem Driving.Sound.others {state : Driving} (sound : state.Sound) {which : Nat}
    {place : EngineAt} (here : state.engines which = place) (atWork : place.AtWork)
    : ∀ other, other ≠ which → ¬ (state.engines other).AtWork := by
  intro other differs otherAtWork
  exact differs (sound.alone other which otherAtWork (here ▸ atWork))

/-- While the lease of a taken job is free, nobody is at work on it. -/
theorem Driving.Sound.nobodyAtWork {state : Driving} (sound : state.Sound)
    (active : state.rows.job.status.active) (taken : state.rows.job.status ≠ .queued)
    (free : Lease.Free state.now state.rows.job.leaseUntil) (which : Nat)
    : ¬ (state.engines which).AtWork := by
  have fits := sound.fits which
  intro atWork
  cases place : state.engines which with
  | dispatched tenant =>
      rw [place] at fits
      exact taken fits.2
  | driving engine tenant invocation =>
      rw [place] at fits
      rcases fits.2.2.2 active with queued | unexpired
      · exact taken queued
      · exact Lease.free_iff_not_unexpired.mp free unexpired
  | _ =>
      rw [place] at atWork
      exact atWork

/-- A claim that wins, with a current row, starts a calm driver, the only one at work. -/
theorem Driving.Sound.claimed {state next : Driving} {which : Nat} {engine : Engine}
    {tenant : Tenant} {job : ProvisionJob} {answers : Answers} (sound : state.Sound)
    (place : state.engines which = .claiming engine tenant job)
    (identified : answers.databaseId ≠ "")
    (serves
      : ∀ done, (claimJob state.now job.id jobLeaseSeconds).guard state.rows.job
        → readProgress job.stepsDone = some done → Current tenant done)
    (stepped : state.act which (.claiming engine tenant job) (.claim answers) = some next)
    : next.Sound := by
  have fits := sound.fits which
  rw [place] at fits
  obtain ⟨sane, seen, wasActive, taken⟩ := fits
  -- the job was read before the claim, and what it said was done is still backed
  obtain ⟨done, text, truthful⟩ := seen.backed wasActive
  have read : readProgress job.stepsDone = some done := by
    rw [text, readProgress_stringify truthful.contiguous]
  simp only [Driving.act, read] at stepped
  split at stepped
  · next won =>
      cases stepped
      obtain ⟨active, free⟩ := of_decide_eq_true won
      have keeps : Keeps state.rows.job
          (state.rows.onJob (claimJob state.now job.id jobLeaseSeconds)).job :=
        keeps_onRow (fun _ => rfl) (fun _ => rfl) (fun _ taken => taken) state.rows.job
      have sameStatus : (state.rows.onJob (claimJob state.now job.id jobLeaseSeconds)).job.status
          = state.rows.job.status :=
        Sweep.onRow_keeps _ ProvisionJob.status (fun _ _ => rfl) state.rows.job
      have stillActive := sameStatus ▸ active
      have recorded := sound.stored.recorded.congr sameStatus
        (Sweep.onRow_keeps _ ProvisionJob.stepsDone (fun _ _ => rfl) state.rows.job) rfl
      have settled : Settled (state.rows.onJob (claimJob state.now job.id jobLeaseSeconds)) :=
        fun closed => absurd stillActive closed
      have stored := sound.stored.advance (keeps.advances rfl) recorded settled
      -- a driver at work would hold the lease that the claim has found free
      have nobody := sound.nobodyAtWork active taken free
      refine sound.moved (keeps.advances rfl) recorded settled
        ⟨sane, .inl ⟨stillActive, recorded, ?_⟩, ?_, ?_⟩ (.inr fun other _ => nobody other)
        fun _ other _ => nobody other
      · exact carries_continueProvisionJob truthful answers _ _ tenant
      · exact calm_continueProvisionJob identified stored sane truthful.contiguous
          (serves done won read) job.id
      · exact Guarded.onRow (fun _ => rfl) (.inl won) seen.id.symm
  · cases stepped
    exact sound.read trivial id

/-- A driver at work makes its next call, or returns. -/
theorem Driving.Sound.driven {state next : Driving} {which : Nat} {engine : Engine}
    {tenant : Tenant} {invocation : Invocation} {move : Move} (sound : state.Sound)
    (place : state.engines which = .driving engine tenant invocation)
    (noThrow : ∀ step message, move ≠ .throws step message)
    (stepped : state.act which (.driving engine tenant invocation) (.move move) = some next)
    : next.Sound := by
  have fits := sound.fits which
  rw [place] at fits
  obtain ⟨sane, held, calm, guarded⟩ := fits
  simp only [Driving.act, Option.map_eq_some_iff] at stepped
  obtain ⟨⟨after, onward⟩, moved, isNext⟩ := stepped
  subst isNext
  have kind := Invocation.step_cases moved
  obtain ⟨calmNext, advances, settles⟩ := held.calm_step calm noThrow kind
  have heldNext := held.step kind
  have others := sound.others place trivial
  refine sound.moved advances heldNext.recorded (settles sound.stored.settled) ?_ (.inr others)
    fun _ => others
  dsimp only
  split
  · cases engine with
    | poll => trivial
    | tick => exact sane
  · next goesOn =>
      exact ⟨sane, heldNext, calmNext, guarded.calm_step held calm kind goesOn⟩

/-- The first driver starts on the row that its request holds. -/
theorem Driving.Sound.started {state next : Driving} {which : Nat} {tenant : Tenant}
    {answers : Answers} (sound : state.Sound)
    (place : state.engines which = .dispatched tenant) (identified : answers.databaseId ≠ "")
    (stepped : state.act which (.dispatched tenant) (.start answers) = some next)
    : next.Sound := by
  have fits := sound.fits which
  rw [place] at fits
  obtain ⟨sane, queued⟩ := fits
  cases stepped
  have active : state.rows.job.status.active := queued ▸ rfl
  have others := sound.others place trivial
  refine sound.moved (Advances.refl state.rows) sound.stored.recorded sound.stored.settled
    ⟨sane, .inl ⟨active, sound.stored.recorded, ?_⟩, calm_runProvisionJob identified tenant,
      fun _ => .inl queued⟩ (.inl rfl) fun _ => others
  exact carries_runProvisionJob none (Truthful.nil state.rows.tenant) nofun answers tenant

/-- A heartbeat of a driver at work. -/
theorem Driving.Sound.beaten {state next : Driving} {which : Nat} {engine : Engine}
    {tenant : Tenant} {invocation : Invocation} (sound : state.Sound)
    (place : state.engines which = .driving engine tenant invocation)
    (stepped : state.act which (.driving engine tenant invocation) .beat = some next)
    : next.Sound := by
  have fits := sound.fits which
  rw [place] at fits
  obtain ⟨sane, held, calm, guarded⟩ := fits
  cases stepped
  obtain ⟨sameStatus, sameText⟩ := renewJobLease_keeps state.now state.rows
  have keeps : Keeps state.rows.job
      (state.rows.onJob (renewJobLease state.now state.rows.job.id jobLeaseSeconds)).job :=
    keeps_onRow (fun _ => rfl) (fun _ => rfl) (fun _ taken => taken) state.rows.job
  have settled : Settled
      (state.rows.onJob (renewJobLease state.now state.rows.job.id jobLeaseSeconds)) := by
    intro closed
    obtain ⟨succeeded, awaits⟩ := sound.stored.settled (sameStatus ▸ closed)
    exact ⟨sameStatus.trans succeeded, awaits⟩
  have others := sound.others place trivial
  have fitsNext : (EngineAt.driving engine tenant invocation).Fits state.now
      (state.rows.onJob (renewJobLease state.now state.rows.job.id jobLeaseSeconds)) :=
    ⟨sane, held.onJob sameStatus sameText, calm, Guarded.onRow (fun _ => rfl) (.inr guarded) rfl⟩
  have beaten := sound.moved (keeps.advances rfl)
    (sound.stored.recorded.congr sameStatus sameText rfl) settled fitsNext (.inr others)
    fun _ => others
  rwa [Driving.put, ← place, Function.update_eq_self] at beaten

/-- An engine fits later too, unless it is at work past its lease. -/
theorem EngineAt.Fits.later {now later : Nat} {rows : Rows} {place : EngineAt}
    (fits : place.Fits now rows)
    (onTime
      : ∀ engine tenant invocation, place = .driving engine tenant invocation
        → ∀ expiry, rows.job.leaseUntil = some expiry → later ≤ expiry)
    : place.Fits later rows := by
  cases place with
  | driving engine tenant invocation =>
      obtain ⟨sane, held, calm, guarded⟩ := fits
      refine ⟨sane, held, calm, fun active => (guarded active).imp_right fun unexpired => ?_⟩
      cases lease : rows.job.leaseUntil with
      | none => exact absurd (lease ▸ unexpired) (Lease.not_unexpired_none now)
      | some expiry => exact onTime engine tenant invocation rfl expiry lease
  | _ => exact fits

/-- An action of a plane in which nothing fails, and that serves its provision, keeps what holds at
every moment.
-/
theorem Driving.Sound.step {state next : Driving} {action : DrivingAction} (sound : state.Sound)
    (undisturbed : Undisturbed state action) (serves : Serves state action)
    (stepped : state.step action = some next)
    : next.Sound := by
  cases action with
  | pass ms =>
      cases stepped
      exact ⟨sound.stored, fun which => (sound.fits which).later (undisturbed which), sound.alone⟩
  | act which act =>
      simp only [Driving.step] at stepped
      have fits := sound.fits which
      cases place : state.engines which with
      | idle =>
          rw [place] at stepped
          cases act with
          | readTenant engine =>
              simp only [Driving.act, Option.ite_none_right_eq_some, Option.some.injEq] at stepped
              exact stepped.2 ▸ sound.read sound.stored.sane id
          | _ => exact nomatch stepped
      | dispatched tenant =>
          rw [place] at stepped
          cases act with
          | start answers => exact sound.started place undisturbed stepped
          | _ => exact nomatch stepped
      | holding engine tenant =>
          rw [place] at stepped fits
          cases act with
          | readJob =>
              cases stepped
              exact sound.read ⟨fits, seen_of_read sound.stored.recorded⟩ id
          | leave =>
              cases stepped
              exact sound.read trivial id
          | _ => exact nomatch stepped
      | deciding engine tenant job =>
          rw [place] at stepped fits
          cases act with
          | decide =>
              have spec := @driveDecision_spec state.nowMs job
              simp only [Driving.act] at stepped
              split at stepped
              · cases stepped
                exact sound.read trivial id
              · cases stepped
                exact sound.read trivial id
              · next decided =>
                  cases stepped
                  obtain ⟨active, taken⟩ := spec (decided ▸ nofun)
                  exact sound.read ⟨fits.1, fits.2, active, fits.2.taken (taken decided)⟩ id
          | _ => exact nomatch stepped
      | reaping job message =>
          rw [place] at stepped
          cases act with
          | reap =>
              -- an open job is not reaped here, and a closed one refuses the close
              have refused : ¬ (finishJob state.now job.id .failed job.step
                  (some message)).guard state.rows.job :=
                serves
              have same : state.rows.onJob (finishJob state.now job.id .failed job.step
                  (some message)) = state.rows := by
                rw [Rows.onJob, Update.onRow_of_not fun matched => refused matched.2]
              simp only [Driving.act, same, if_neg refused] at stepped
              cases stepped
              exact sound.read trivial id
          | _ => exact nomatch stepped
      | owesStatus =>
          rw [place] at fits
          exact absurd fits id
      | claiming engine tenant job =>
          rw [place] at stepped
          cases act with
          | claim answers =>
              exact sound.claimed place undisturbed
                (fun done won read => serves engine tenant job done place won read) stepped
          | _ => exact nomatch stepped
      | driving engine tenant invocation =>
          rw [place] at stepped
          cases act with
          | move move =>
              refine sound.driven place (fun step message thrown => ?_) stepped
              subst thrown
              exact undisturbed
          | beat => exact sound.beaten place stepped
          | _ => exact nomatch stepped

-----------------------------------------------------------------------------------------
-- A plane that serves its provision
-----------------------------------------------------------------------------------------

theorem Driving.requested_idle (nowMs : Nat) (id : String) (tenant : Tenant)
    (release : { release : String // release ≠ "" }) {which : Nat} (notFirst : which ≠ 0)
    : (Driving.requested nowMs id tenant release).engines which = .idle := by
  simp [Driving.requested, Function.update_of_ne notFirst]

/-- A plane on which a shared provision was just requested. -/
theorem Driving.requested_sound (nowMs : Nat) (id : String) (tenant : Tenant)
    (release : { release : String // release ≠ "" })
    : (Driving.requested nowMs id tenant release).Sound where
  stored :=
    { recorded := fun _ => ⟨[], rfl, Truthful.nil _⟩
      sane := ⟨nofun, nofun, fun readable => absurd rfl readable⟩
      settled := fun closed => absurd rfl closed
      shared := rfl
      pinned := truthy_ne_none release.property }
  fits which := by
    by_cases isFirst : which = 0
    · subst isFirst
      exact ⟨⟨nofun, nofun, fun readable => absurd rfl readable⟩, rfl⟩
    · rw [Driving.requested_idle nowMs id tenant release isFirst]
      trivial
  alone which other := by
    intro atWork alsoAtWork
    have onlyFirst : ∀ engine, ((Driving.requested nowMs id tenant release).engines engine).AtWork
        → engine = 0 := by
      intro engine working
      by_contra differs
      rw [Driving.requested_idle nowMs id tenant release differs] at working
      exact working
    rw [onlyFirst which atWork, onlyFirst other alsoAtWork]

/-- A sound plane is healthy. -/
theorem Driving.Sound.healthy {state : Driving} (sound : state.Sound) : state.Healthy where
  notFailed failed := by
    have closed : ¬ state.rows.job.status.active := by
      rw [failed]
      exact Bool.false_ne_true
    exact nomatch failed.symm.trans (sound.stored.settled closed).1
  refusesNothing which engine tenant done rest step message place member := by
    have fits := sound.fits which
    rw [place] at fits
    exact fits.2.2.1 _ member
  awaits closed := (sound.stored.settled closed).2

/-- In a run in which nothing fails, driving keeps a shared provision healthy, if every claim that
wins hands on a tenant row that is current for the steps it goes on from, and no reap lands on the
open job. Witness: induction on the run, with at most one driver at work, a calm one, on a record
that the stored row backs.
-/
theorem keepsHealthy_of_serves {nowMs : Nat} {id : String} {tenant : Tenant}
    {release : { release : String // release ≠ "" }} {actions : List DrivingAction}
    (serves : Throughout Driving.step Serves (.requested nowMs id tenant release) actions)
    : KeepsHealthy (.requested nowMs id tenant release) actions := by
  intro undisturbed
  refine everywhere_of_throughout ?_ (fun state sound => Driving.Sound.healthy sound)
    (Driving.requested_sound nowMs id tenant release) (undisturbed.and serves)
  intro state action next sound allowed stepped
  exact sound.step allowed.1 allowed.2 stepped

-----------------------------------------------------------------------------------------
-- A poll that serves, and a tick that does not
-----------------------------------------------------------------------------------------

def requestedPlane : Driving :=
  .requested 0 "job_1" requestedTenant pooledAnswers.release

/-- Calls of one engine's driver, and a last one at which its budget may be spent. -/
def drives (which count : Nat) (budgetSpent : Bool) : List DrivingAction :=
  List.replicate count (.act which (.move (.call false)))
  ++ [.act which (.move (.call budgetSpent))]

/-- The first driver yields behind the database; a poll then reads both rows and drives on. -/
def pollRun : List DrivingAction :=
  ([.act 0 (.start pooledAnswers)] ++ drives 0 5 true ++ drives 0 0 false
    ++ [.act 1 (.readTenant .poll), .act 1 .readJob, .act 1 .decide])
  ++ .act 1 (.claim pooledAnswers) :: drives 1 4 true

theorem pollRun_keepsHealthy : KeepsHealthy requestedPlane pollRun := by
  refine keepsHealthy_of_serves (Throughout.append
    (throughout_of_mem (fun action member state => ?_) _) fun middle reached next taken =>
      ⟨?_, throughout_of_mem (fun action member state => ?_) _⟩)
  · revert action
    simp [drives, Serves]
  · -- the poll read the tenant behind the yield, so its row has the database
    intro engine tenant job done place won read
    cases reached
    cases place
    have isDone : done = [.d1Create] := (Option.some.inj read).symm
    subst isDone
    exact ⟨fun _ => nofun, by decide, by decide, by decide⟩
  · revert action
    simp [drives, Serves]

/-- One pass of an engine over the job it reads. -/
def passOver (which : Nat) : List DrivingAction :=
  [.act which .readJob, .act which .decide, .act which (.claim pooledAnswers)]

/-- The first driver yields behind the token. A tick lists the tenant, drives on to the endpoints,
yields, and goes round.
-/
def tickRun : List DrivingAction :=
  [.act 0 (.start pooledAnswers)] ++ drives 0 13 true ++ drives 0 0 false
  ++ [.act 1 (.readTenant .tick)] ++ passOver 1 ++ drives 1 8 true ++ drives 1 0 false
  ++ passOver 1 ++ drives 1 8 false

/-- On its second pass the tick still holds the row it listed, without endpoints, and its driver
refuses what the first pass has stored.
-/
theorem tickRun_killsProvision : ¬ KeepsHealthy requestedPlane tickRun := by
  intro keeps
  have undisturbed : Throughout Driving.step Undisturbed requestedPlane tickRun := by
    refine throughout_of_mem (fun action member state => ?_) _
    revert action
    simp [tickRun, drives, passOver, Undisturbed, pooledAnswers]
  have killed : (exec Driving.step requestedPlane tickRun).map (fun final => final.rows.job.status)
      = some .failed := by
    decide +kernel
  obtain ⟨final, reached, failed⟩ := Option.map_eq_some_iff.mp killed
  exact ((keeps undisturbed).final reached).notFailed failed

end ControlPlane.Provision
