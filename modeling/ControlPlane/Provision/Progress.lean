import ControlPlane.Library.Runs
import ControlPlane.Provision.Refusals
import ControlPlane.Provision.Stepping

/-! One provision job whose drivers run one at a time. Each starts from the rows as they are stored,
and may yield, throw, or die between any two of its calls. In every state with the job still open,
the progress is true of the tenant row, so a continuation finds nothing inconsistent to refuse.
-/

namespace ControlPlane.Provision

open ControlPlane.Library
open ControlPlane.Store
open ControlPlane.Teardown (truthy)

/-- A provision job, its tenant, and the driver that is at work on it. -/
structure Provisioning where
  now : Nat
  rows : Rows
  driver : Invocation
  started : Bool
  deriving DecidableEq, Repr

/-- What can happen next: the clock moves, the driver makes its next call, beats or dies, or a new
driver is dispatched.
-/
inductive ProvisioningAction
  | tick (seconds : Nat)
  | start (answers : Answers)
  | resume (answers : Answers)
  | move (move : Move)
  | beat
  | die

/-- The state after an action. Once the first driver has had its turn, continuations are dispatched
behind a claim of the open job, from the progress and the tenant row of that moment.
-/
def Provisioning.step (state : Provisioning) : ProvisioningAction → Option Provisioning
  | .tick seconds => some { state with now := state.now + seconds }
  | .start answers =>
      if state.driver = .returned ∧ ¬ state.started then
        some
          { state with
            driver := .working [] (runProvisionJob answers state.rows.tenant none)
            started := true }
      else none
  | .resume answers =>
      if state.driver = .returned ∧ state.started ∧ state.rows.job.status.active then
        let claimed := state.rows.onJob (claimJob state.now state.rows.job.id jobLeaseSeconds)
        (readProgress claimed.job.stepsDone).map fun done =>
          { state with
            rows := claimed
            driver := .working done
              (continueProvisionJob answers claimed.job.id (some claimed.job) claimed.tenant
                done) }
      else none
  | .move move =>
      (state.driver.step state.now state.rows move).map fun next =>
        { state with rows := next.1, driver := next.2 }
  | .beat =>
      some
        { state with
          rows := state.rows.onJob (renewJobLease state.now state.rows.job.id jobLeaseSeconds) }
  | .die => some { state with driver := .returned }

/-- A tenant whose provision was just requested. -/
def Provisioning.requested (now : Nat) (id : String) (tenant : Tenant)
    (runpodMode toRelease : Option String)
    : Provisioning where
  now := now
  rows := { job := queuedJob now id tenant.id .provision runpodMode toRelease, tenant := tenant }
  driver := .returned
  started := false

-----------------------------------------------------------------------------------------
-- What the invocation thinks is done is what is recorded
-----------------------------------------------------------------------------------------

/-- The driver at work has the progress that is stored. -/
def UpToDate (rows : Rows) : Invocation → Prop
  | .working done _ => rows.job.status.active → rows.job.stepsDone = stringifySteps done
  | _ => True

/-- A driver that records what it has done stays up to date. -/
theorem UpToDate.step {now : Nat} {rows after : Rows} {invocation next : Invocation} {move : Move}
    (upToDate : UpToDate rows invocation) (held : Held rows invocation)
    (stepped : Stepped now rows invocation move after next)
    : UpToDate after next := by
  cases stepped with
  | @recorded done step mayYield rest _ next onward =>
      obtain ⟨active, _, _⟩ := held.pending
      rcases onward with isNext | isNext
      · exact isNext ▸ trivial
      · exact isNext ▸ fun _ => (recordOn_open now rows.job done step active).2
  | @called done call rest _ plain =>
      obtain ⟨active, _, _⟩ := held.pending
      exact fun _ => (onJob_stepsDone now rows.job call).trans (upToDate active)
  | @finished done rest _ =>
      obtain ⟨active, _, _⟩ := held.pending
      exact fun _ => (onJob_stepsDone now rows.job .finishSucceeded).trans (upToDate active)
  | closed next onward =>
      rcases onward with ⟨isNext, _⟩ | ⟨isNext, _⟩ <;> exact isNext ▸ trivial
  | _ => trivial

/-- The steps recorded at one time are still recorded. -/
def Extends (base : List ProvisionStep) (rows : Rows) : Prop :=
  ∃ done, rows.job.stepsDone = stringifySteps done ∧ Contiguous done ∧ base <+: done

/-- The same progress extends the same steps. -/
theorem Extends.congr {base : List ProvisionStep} {rows after : Rows} (earlier : Extends base rows)
    (sameText : after.job.stepsDone = rows.job.stepsDone)
    : Extends base after := by
  obtain ⟨stored, text, behind⟩ := earlier
  exact ⟨stored, sameText.trans text, behind⟩

/-- The progress of an open job is what its invocation has recorded, and another step is added
behind it.
-/
theorem Extends.step {base : List ProvisionStep} {now : Nat} {rows after : Rows}
    {invocation next : Invocation} {move : Move} (earlier : Extends base rows)
    (upToDate : UpToDate rows invocation) (held : Held rows invocation)
    (stepped : Stepped now rows invocation move after next)
    : Extends base after := by
  cases stepped with
  | @recorded done step mayYield rest _ next onward =>
      obtain ⟨active, _, carries⟩ := held.pending
      obtain ⟨stored, text, contiguous, isPrefix⟩ := earlier
      have later := truthful_of_carries (carries.2 _ (.mark rows.tenant done false step mayYield))
      -- what the driver thinks is done is what is stored, as both have one text
      have same : done = stored := by
        refine stringifySteps_injective ?_ contiguous ((upToDate active).symm.trans text)
        exact (truthful_of_carries carries).contiguous
      refine ⟨record done step, (recordOn_open now rows.job done step active).2,
        later.contiguous, ?_⟩
      exact (same ▸ isPrefix).trans (prefix_record done step)
  | @called done call rest _ plain => exact earlier.congr (onJob_stepsDone now rows.job call)
  | finished => exact earlier.congr (onJob_stepsDone now rows.job .finishSucceeded)
  | yielded =>
      exact earlier.congr (Sweep.onRow_keeps _ ProvisionJob.stepsDone (fun _ _ => rfl) rows.job)
  | closed next onward =>
      exact earlier.congr (Sweep.onRow_keeps _ ProvisionJob.stepsDone (fun _ _ => rfl) rows.job)
  | _ => exact earlier

/-- What holds at every moment of a provision. -/
structure Provisioning.Sound (state : Provisioning) : Prop where
  held : Held state.rows state.driver
  upToDate : UpToDate state.rows state.driver
  fresh
    : state.started = false
      → state.driver = .returned ∧ state.rows.job.status.active
        ∧ state.rows.job.stepsDone = stringifySteps []

theorem UpToDate.onJob {rows : Rows} {invocation : Invocation}
    (upToDate : UpToDate rows invocation) {update : Update ProvisionJob.id}
    (sameStatus : (rows.onJob update).job.status = rows.job.status)
    (sameText : (rows.onJob update).job.stepsDone = rows.job.stepsDone)
    : UpToDate (rows.onJob update) invocation := by
  cases invocation with
  | working done rest => exact fun active => sameText.trans (upToDate (sameStatus ▸ active))
  | _ => trivial

/-- An action keeps what holds at every moment. -/
theorem Provisioning.Sound.step {state next : Provisioning} {action : ProvisioningAction}
    (sound : state.Sound) (stepped : state.step action = some next)
    : next.Sound := by
  cases action with
  | tick seconds =>
      cases stepped
      exact ⟨sound.held, sound.upToDate, sound.fresh⟩
  | start answers =>
      simp only [Provisioning.step, Option.ite_none_right_eq_some, Option.some.injEq] at stepped
      obtain ⟨⟨_, notStarted⟩, isNext⟩ := stepped
      subst isNext
      obtain ⟨_, active, text⟩ := sound.fresh (Bool.eq_false_iff.mpr notStarted)
      refine ⟨.inl ⟨active, sound.held.recorded, ?_⟩, fun _ => text, nofun⟩
      exact carries_runProvisionJob none (Truthful.nil state.rows.tenant) nofun answers
        state.rows.tenant
  | resume answers =>
      simp only [Provisioning.step, Option.ite_none_right_eq_some, Option.map_eq_some_iff]
        at stepped
      obtain ⟨⟨_, started, active⟩, done, read, isNext⟩ := stepped
      subst isNext
      obtain ⟨sameStatus, sameText⟩ := claimJob_keeps state.now state.rows
      obtain ⟨stored, text, truthful⟩ := sound.held.recorded active
      have same : stored = done := by
        rw [sameText, text, readProgress_stringify truthful.contiguous] at read
        exact Option.some.inj read
      subst same
      refine ⟨.inl ⟨sameStatus ▸ active, sound.held.recorded.congr sameStatus sameText rfl, ?_⟩,
        fun _ => sameText.trans text, fun notStarted => ?_⟩
      · exact carries_continueProvisionJob truthful answers _ _ state.rows.tenant
      · exact absurd (started.symm.trans notStarted) nofun
  | move move =>
      simp only [Provisioning.step, Option.map_eq_some_iff] at stepped
      obtain ⟨⟨rows, driver⟩, moved, isNext⟩ := stepped
      subst isNext
      have cases := Invocation.step_cases moved
      refine ⟨sound.held.step cases, sound.upToDate.step sound.held cases, fun notStarted => ?_⟩
      rw [(sound.fresh notStarted).1] at moved
      exact nomatch moved
  | beat =>
      cases stepped
      obtain ⟨sameStatus, sameText⟩ := renewJobLease_keeps state.now state.rows
      refine ⟨sound.held.onJob sameStatus sameText, sound.upToDate.onJob sameStatus sameText,
        fun notStarted => ?_⟩
      obtain ⟨idle, active, text⟩ := sound.fresh notStarted
      exact ⟨idle, sameStatus ▸ active, sameText.trans text⟩
  | die =>
      cases stepped
      exact ⟨sound.held.recorded, trivial, fun notStarted => ⟨rfl, (sound.fresh notStarted).2⟩⟩

/-- An action keeps the steps that were recorded. -/
theorem Provisioning.Sound.extends_step {base : List ProvisionStep} {state next : Provisioning}
    {action : ProvisioningAction} (sound : state.Sound) (earlier : Extends base state.rows)
    (stepped : state.step action = some next)
    : Extends base next.rows := by
  cases action with
  | tick seconds =>
      cases stepped
      exact earlier
  | start answers =>
      simp only [Provisioning.step, Option.ite_none_right_eq_some, Option.some.injEq] at stepped
      obtain ⟨_, isNext⟩ := stepped
      subst isNext
      exact earlier
  | resume answers =>
      simp only [Provisioning.step, Option.ite_none_right_eq_some, Option.map_eq_some_iff]
        at stepped
      obtain ⟨_, done, _, isNext⟩ := stepped
      subst isNext
      exact earlier.congr (claimJob_keeps state.now state.rows).2
  | move move =>
      simp only [Provisioning.step, Option.map_eq_some_iff] at stepped
      obtain ⟨⟨rows, driver⟩, moved, isNext⟩ := stepped
      subst isNext
      exact earlier.step sound.upToDate sound.held (Invocation.step_cases moved)
  | beat =>
      cases stepped
      exact earlier.congr (renewJobLease_keeps state.now state.rows).2
  | die =>
      cases stepped
      exact earlier

-----------------------------------------------------------------------------------------
-- The record in every state that is reached
-----------------------------------------------------------------------------------------

/-- What the progress of an open job promises: it is the record of the first steps, the tenant row
bears it out, and a continuation from it refuses for what the job records, or at the modules.
-/
structure OpenProgress (rows : Rows) (done : List ProvisionStep) : Prop where
  parses : Json.parse rows.job.stepsDone = some (stepsJson done)
  reads : readProgress rows.job.stepsDone = some done
  truthful : Truthful rows.tenant done
  refusal
    : ∀ jobId job refusal, planResume jobId (some job) rows.tenant done = .error refusal
      → planBeforeUpload job = .error refusal
  refuses
    : ∀ answers jobId job step message,
        .refuse step message ∈ continueProvisionJob answers jobId (some job) rows.tenant done
        → (∃ refusal, planBeforeUpload job = .error refusal ∧ message = refusal.message)
          ∨ step = "modules_upload"

/-- A recorded open job keeps these promises. -/
theorem Recorded.openProgress {rows : Rows} {done : List ProvisionStep}
    (recorded : Recorded rows done)
    : OpenProgress rows done where
  parses := by rw [recorded.text, parse_stringifySteps]
  reads := by rw [recorded.text, readProgress_stringify recorded.truthful.contiguous]
  truthful := recorded.truthful
  refusal _ _ _ refused :=
    recorded.truthful.current.refusal recorded.truthful.contiguous refused
  refuses answers _ job step message member := by
    rcases recorded.truthful.current.mem_continueProvisionJob recorded.truthful.contiguous member
      with ordinary | ⟨refusal, refused, isRefusal⟩ | ⟨⟨_, isRefusal⟩, _⟩
    · exact absurd ordinary id
    · exact .inl ⟨refusal, refused, (ProvisionCall.refuse.inj isRefusal).2⟩
    · exact .inr (ProvisionCall.refuse.inj isRefusal).1

/-- In every run of a provision whose drivers take turns, the progress of the open job is that of
the first steps, keeps what was recorded at any earlier moment, and is true of the tenant row.
Witness: induction on the run, with the programs of the invocations carrying the record.
-/
theorem progressTruthful {now : Nat} {id : String} {tenant : Tenant}
    {runpodMode toRelease : Option String} {actions : List ProvisioningAction}
    {state : Provisioning}
    (reached
      : exec Provisioning.step (.requested now id tenant runpodMode toRelease) actions
        = some state)
    (active : state.rows.job.status.active)
    : ∃ done, OpenProgress state.rows done
      ∧ ∀ before after earlier, actions = before ++ after
        → exec Provisioning.step (.requested now id tenant runpodMode toRelease) before
          = some earlier
        → ∃ recorded, Json.parse earlier.rows.job.stepsDone = some (stepsJson recorded)
          ∧ recorded <+: done := by
  have keeps : ∀ base state action next, Provisioning.Sound state ∧ Extends base state.rows
      → state.step action = some next → Provisioning.Sound next ∧ Extends base next.rows :=
    fun base state action next holds stepped =>
      ⟨holds.1.step stepped, holds.1.extends_step holds.2 stepped⟩
  have start : (Provisioning.requested now id tenant runpodMode toRelease).Sound :=
    ⟨fun _ => ⟨[], rfl, Truthful.nil tenant⟩, trivial, fun _ => ⟨rfl, rfl, rfl⟩⟩
  have nothing : Extends [] (Provisioning.requested now id tenant runpodMode toRelease).rows :=
    ⟨[], rfl, rfl, List.nil_prefix⟩
  obtain ⟨sound, _⟩ := exec_preserves (keeps []) ⟨start, nothing⟩ reached
  obtain ⟨done, recorded⟩ := sound.held.recorded active
  refine ⟨done, recorded.openProgress, fun before after earlier cut arrived => ?_⟩
  -- from the earlier moment on, the run extends what was recorded then
  subst cut
  obtain ⟨middle, arrives, onward⟩ := exec_append.mp reached
  cases arrives.symm.trans arrived
  obtain ⟨soundThen, soFar, text, contiguous, _⟩ :=
    exec_preserves (keeps []) ⟨start, nothing⟩ arrived
  refine ⟨soFar, by rw [text, parse_stringifySteps], ?_⟩
  obtain ⟨_, later, laterText, laterContiguous, isPrefix⟩ :=
    exec_preserves (keeps soFar) ⟨soundThen, soFar, text, contiguous, List.prefix_rfl⟩ onward
  have same : later = done :=
    stringifySteps_injective laterContiguous recorded.truthful.contiguous
      (laterText.symm.trans recorded.text)
  exact same ▸ isPrefix

/-- A pool for the two endpoint-backed capabilities of the plan. -/
def coveringPool : SharedRunPodPool where
  endpoints :=
    [{ key := "backend"
       label := "Render (keyframes, video)"
       id := "ep_render"
       name := "render"
       endpointVar := "RUNPOD_ENDPOINT_ID" },
      { key := "wan-train"
        label := "Cast LoRA training (Wan)"
        id := "ep_train"
        name := "train"
        endpointVar := "RUNPOD_WAN_TRAIN_ENDPOINT_ID" }]
  covers := rfl

theorem v1_ne_empty : "v1" ≠ "" := by
  decide

def pooledAnswers : Answers where
  sharedPool := some coveringPool
  release := ⟨"v1", v1_ne_empty⟩
  databaseId := "db_1"
  tokenId := "tok_1"
  studioTokenEnc := ⟨"enc_1", by decide⟩

def requestedTenant : Tenant where
  id := "ten_1"
  slug := "acme"
  accountId := "acct_1"
  status := .pending

def calls (count : Nat) : List ProvisioningAction :=
  List.replicate count (.move (.call false))

/-- A first driver dies on its way out of a yield, and the next one dies between the write of the
bucket and its mark.
-/
def interruptedRun : List ProvisioningAction :=
  .start pooledAnswers :: calls 5
  ++ [.move (.call true), .die, .tick 61, .resume pooledAnswers] ++ calls 7
  ++ [.die]

theorem interruptedRun_truthful
    : ∃ state,
        exec Provisioning.step
            (.requested 0 "job_1" requestedTenant (some "shared") (some "v1")) interruptedRun
          = some state
        ∧ ∃ done, OpenProgress state.rows done
          ∧ ∀ before after earlier, interruptedRun = before ++ after
            → exec Provisioning.step
                (.requested 0 "job_1" requestedTenant (some "shared") (some "v1")) before
              = some earlier
            → ∃ recorded, Json.parse earlier.rows.job.stepsDone = some (stepsJson recorded)
              ∧ recorded <+: done :=
  ⟨_, rfl, progressTruthful rfl rfl⟩

end ControlPlane.Provision
