import ControlPlane.Library.Runs
import ControlPlane.StudioCredentials.Keys

/-! The resident studio is never bound to a dead credential, and what is recorded opens it, in every
run of a provision whose drivers take turns.
-/

namespace ControlPlane.StudioCredentials

open ControlPlane.Kek
open ControlPlane.Library
open ControlPlane.Provision
open ControlPlane.Store
open ControlPlane.StudioBindings
open ControlPlane.Workers

-----------------------------------------------------------------------------------------
-- The credentials of a provision
-----------------------------------------------------------------------------------------

/-- wfp_upload is recorded in steps_done. -/
def recordsUpload (job : ProvisionJob) : Bool :=
  (readProgress job.stepsDone).any fun done => .wfpUpload ∈ done

/-- Where the credentials are, by the rows and the platform. -/
def keysOf (rows : Rows) (script : Option ScriptBindings) (minted revoked : List String)
    : Keys where
  r2TokenId := rows.tenant.r2TokenId
  studioTokenEnc := rows.tenant.studioTokenEnc
  bound := script.bind boundCredentials
  minted := minted
  revoked := revoked
  uploaded := recordsUpload rows.job

def StudioProvision.credentials (state : StudioProvision) : Keys :=
  keysOf state.provisioning.rows state.script state.minted state.revoked

theorem recordsUpload_of_contiguous {job : ProvisionJob} {done : List ProvisionStep}
    (text : job.stepsDone = stringifySteps done) (contiguous : Contiguous done)
    : recordsUpload job = decide (.wfpUpload ∈ done) := by
  rw [recordsUpload, text, readProgress_stringify contiguous, Option.any_some]

variable {aes : AesGcm} {ring : KekRing} {draw : Draw} {keys : Keys} {call : ProvisionCall}
variable {normalised : ByteCounts} {state landed next : StudioProvision} {revokes : Bool}

/-- A call leaves the provision to its own step. -/
theorem land_provisioning (landing : state.land aes ring normalised draw revokes call = some landed)
    : landed.provisioning = state.provisioning ∧ landed.draw = state.draw := by
  unfold StudioProvision.land at landing
  split at landing
  · split at landing
    · cases landing
    · cases landing
      exact ⟨rfl, rfl⟩
  · cases landing
    exact ⟨rfl, rfl⟩
  · split at landing
    · split at landing
      · cases landing
        exact ⟨rfl, rfl⟩
      · cases landing
    · cases landing
  · cases landing
    split <;> exact ⟨rfl, rfl⟩
  · cases landing
    exact ⟨rfl, rfl⟩

theorem land_of_neutral (neutral : Neutral call = true)
    : state.land aes ring normalised draw revokes call = some state := by
  unfold StudioProvision.land
  split <;> first | rfl | cases neutral

/-- A neutral call names no other credentials on the row. -/
theorem onTenant_of_neutral (neutral : Neutral call = true) (now : Nat) (tenant : Tenant)
    : (call.onTenant now tenant).r2TokenId = tenant.r2TokenId
      ∧ (call.onTenant now tenant).studioTokenEnc = tenant.studioTokenEnc := by
  cases call with
  | setTenantStatus status =>
      rw [onTenant_setTenantStatus]
      exact ⟨rfl, rfl⟩
  | setTenantD1 databaseId =>
      rw [onTenant_setTenantD1]
      exact ⟨rfl, rfl⟩
  | setTenantBucket bucket =>
      rw [onTenant_setTenantBucket]
      exact ⟨rfl, rfl⟩
  | setTenantRunPodMode mode =>
      rw [onTenant_setTenantRunPodMode]
      exact ⟨rfl, rfl⟩
  | setTenantEndpoints endpointsJson =>
      rw [onTenant_setTenantEndpoints]
      exact ⟨rfl, rfl⟩
  | setTenantScript scriptName release =>
      rw [onTenant_setTenantScript]
      exact ⟨rfl, rfl⟩
  | setTenantModulesRelease release =>
      rw [onTenant_setTenantModulesRelease]
      exact ⟨rfl, rfl⟩
  | setTenantR2Token tokenId => cases neutral
  | setTenantStudioToken encValue => cases neutral
  | _ => exact ⟨rfl, rfl⟩

theorem KeyEffect.of_neutral (neutral : Neutral call = true)
    : KeyEffect aes ring draw keys call keys := by
  refine .same ⟨?_, ?_, ?_, ?_⟩
  · intro name bucket h
    obtain rfl := h
    cases neutral
  · intro tokenId h
    obtain rfl := h
    cases neutral
  · intro scriptName release databaseId bucket tokenId h
    obtain rfl := h
    cases neutral
  · intro enc h
    obtain rfl := h
    cases neutral

/-- What a call that records nothing does to the credentials. -/
theorem keyEffect_of_called (now : Nat) (unmarked : ∀ step mayYield, call ≠ .mark step mayYield)
    (landing : state.land aes ring normalised draw revokes call = some landed)
    : KeyEffect aes ring draw state.credentials call
        (keysOf (call.run now state.provisioning.rows) landed.script landed.minted
          landed.revoked) := by
  have sameJob
      : recordsUpload (call.onJob now state.provisioning.rows.job)
        = recordsUpload state.provisioning.rows.job := by
    rw [recordsUpload, onJob_stepsDone]
    rfl
  cases neutral : Neutral call with
  | true =>
      cases (land_of_neutral neutral).symm.trans landing
      obtain ⟨token, enc⟩ := onTenant_of_neutral neutral now state.provisioning.rows.tenant
      rw [keysOf, ProvisionCall.run, token, enc, sameJob]
      exact .of_neutral neutral
  | false =>
      cases call with
      | mark step mayYield => exact absurd rfl (unmarked step mayYield)
      | mintBucketToken name bucket =>
          simp only [StudioProvision.land] at landing
          split at landing
          · cases landing
          · next fresh =>
              cases landing
              exact .minted fresh
      | setTenantR2Token tokenId =>
          cases landing
          rw [keysOf, ProvisionCall.run, onTenant_setTenantR2Token, sameJob]
          exact .named
      | uploadStudioScript scriptName release databaseId bucket tokenId =>
          cases landing
          rw [keysOf, ProvisionCall.run, sameJob, Option.bind_some, Draw.bindings,
            boundCredentials_uploaded]
          exact .bound
      | setTenantStudioToken encValue =>
          simp only [StudioProvision.land] at landing
          split at landing
          next encrypted isEncrypted =>
            split at landing
            next same =>
              cases landing
              rw [keysOf, ProvisionCall.run, onTenant_setTenantStudioToken, sameJob]
              exact .stored (same ▸ isEncrypted)
            next => cases landing
          next => cases landing
      | revoke tokenId =>
          cases landing
          rw [keysOf, ProvisionCall.run, sameJob]
          split
          · exact .revoked
          · exact .same
              ⟨(fun _ _ same => by cases same), (fun _ same => by cases same),
                (fun _ _ _ _ _ same => by cases same), fun _ same => by cases same⟩
      | _ => cases neutral

/-- What a step that records or calls nothing leaves of the credentials. -/
theorem keysOf_congr {rows after : Rows} (script : Option ScriptBindings)
    (minted revoked : List String) (sameToken : after.tenant.r2TokenId = rows.tenant.r2TokenId)
    (sameEnc : after.tenant.studioTokenEnc = rows.tenant.studioTokenEnc)
    (sameText : after.job.stepsDone = rows.job.stepsDone)
    : keysOf after script minted revoked = keysOf rows script minted revoked := by
  rw [keysOf, keysOf, sameToken, sameEnc, recordsUpload, sameText, recordsUpload]

/-- What a mark does to the credentials. -/
theorem keyEffect_of_marked (draw : Draw) (now : Nat) {done : List ProvisionStep} {step : ProvisionStep}
    {mayYield : Bool} {rest : List ProvisionCall} (sound : state.provisioning.Sound)
    (atWork : state.provisioning.driver = .working done (.mark step mayYield :: rest))
    : KeyEffect aes ring draw state.credentials (.mark step mayYield)
        (keysOf
          { state.provisioning.rows with
            job := recordOn now state.provisioning.rows.job done step }
          state.script state.minted state.revoked) := by
  have held := sound.held
  have upToDate := sound.upToDate
  rw [atWork] at held upToDate
  obtain ⟨active, -, carries⟩ := held.pending
  have contiguous : Contiguous done := (truthful_of_carries carries).contiguous
  have later : Contiguous (record done step) :=
    (truthful_of_carries
      (carries.2 _ (.mark state.provisioning.rows.tenant done false step mayYield))).contiguous
  have text := (recordOn_open now state.provisioning.rows.job done step active).2
  have before : recordsUpload state.provisioning.rows.job = decide (.wfpUpload ∈ done) :=
    recordsUpload_of_contiguous (upToDate active) contiguous
  have after
      : recordsUpload (recordOn now state.provisioning.rows.job done step)
        = decide (.wfpUpload ∈ record done step) :=
    recordsUpload_of_contiguous text later
  by_cases isUpload : step = .wfpUpload
  · subst isUpload
    have recorded : .wfpUpload ∈ record done .wfpUpload := by
      unfold record
      split
      · assumption
      · exact List.mem_append_right _ (List.mem_singleton_self _)
    rw [keysOf, after, decide_eq_true recorded]
    exact .recorded
  · have unchanged : .wfpUpload ∈ record done step ↔ .wfpUpload ∈ done := by
      unfold record
      split
      · rfl
      · simp [Ne.symm isUpload]
    rw [keysOf, after, decide_eq_decide.mpr unchanged, ← before]
    exact .same ⟨nofun, nofun, nofun, nofun⟩

/-- What a driver at work has ahead of it. -/
def AtWork (aes : AesGcm) (ring : KekRing) (state : StudioProvision) : Prop :=
  match state.provisioning.driver with
  | .working _ rest =>
      ∃ draw, state.draw = some draw
        ∧ Carries (KeyEffect aes ring draw) (KeyDue aes ring) (fun _ => True) rest
            state.credentials
  | _ => True

/-- What holds at every moment of a provision. -/
structure StudioProvision.Sound (aes : AesGcm) (ring : KekRing) (state : StudioProvision)
    : Prop where
  provisioning : state.provisioning.Sound
  good : state.credentials.Good aes ring
  bound : ∀ script, state.script = some script → ∃ bound, boundCredentials script = some bound
  atWork : AtWork aes ring state

/-- A studio that is there is bound, also after an upload. -/
theorem land_bound (landing : state.land aes ring normalised draw revokes call = some landed)
    (bound : ∀ script, state.script = some script → ∃ found, boundCredentials script = some found)
    : ∀ script, landed.script = some script → ∃ found, boundCredentials script = some found := by
  unfold StudioProvision.land at landing
  split at landing
  · split at landing
    · cases landing
    · cases landing
      exact bound
  · cases landing
    intro script isScript
    rw [← Option.some.inj isScript, Draw.bindings, boundCredentials_uploaded]
    exact ⟨_, rfl⟩
  · split at landing
    · split at landing
      · cases landing
        exact bound
      · cases landing
    · cases landing
  · cases landing
    split <;> exact bound
  · cases landing
    exact bound

/-- A driver's move, where it has no call to make or throws: it leaves the credentials, and works no
more.
-/
theorem keysOf_moved {now : Nat} {move : Move} {rows after : Rows} {driver onward : Invocation}
    (stepped : Stepped now rows driver move after onward)
    (idle : nextCall driver = none ∨ ∃ step message, move = .throws step message)
    (kept : ∀ left, move ≠ .rollback left) (script : Option ScriptBindings)
    (minted revoked : List String)
    : keysOf after script minted revoked = keysOf rows script minted revoked
      ∧ ∀ done rest, onward ≠ .working done rest := by
  have calls {done : List ProvisionStep} {call : ProvisionCall} {rest : List ProvisionCall}
      {budgetSpent : Bool}
      : ¬(nextCall (.working done (call :: rest)) = none
        ∨ ∃ step message, Move.call budgetSpent = .throws step message) := by
    intro h
    rcases h with none | ⟨step, message, same⟩
    · cases none
    · cases same
  cases stepped with
  | recorded next onward => exact absurd idle calls
  | called plain => exact absurd idle calls
  | finished => exact absurd idle calls
  | refused => exact absurd idle calls
  | ended => exact ⟨rfl, nofun⟩
  | threw step message => exact ⟨rfl, nofun⟩
  | yielded =>
      exact ⟨keysOf_congr script minted revoked rfl rfl
        (Sweep.onRow_keeps _ ProvisionJob.stepsDone (fun _ _ => rfl) rows.job), nofun⟩
  | closed next onward =>
      refine ⟨keysOf_congr script minted revoked rfl rfl
        (Sweep.onRow_keeps _ ProvisionJob.stepsDone (fun _ _ => rfl) rows.job), ?_⟩
      rcases onward with ⟨rfl, -⟩ | ⟨rfl, -⟩ <;> nofun
  | wroteStatus =>
      exact ⟨keysOf_congr script minted revoked
        (Sweep.onRow_keeps _ Tenant.r2TokenId (fun _ _ => rfl) rows.tenant)
        (Sweep.onRow_keeps _ Tenant.studioTokenEnc (fun _ _ => rfl) rows.tenant) rfl, nofun⟩
  | rolledBack left => exact absurd rfl (kept left)

/-- A driver that works no more has nothing ahead of it. -/
theorem atWork_of_idle (idle : ∀ done rest, state.provisioning.driver ≠ .working done rest)
    : AtWork aes ring state := by
  unfold AtWork
  split
  next done rest working => exact absurd working (idle done rest)
  next => trivial

/-- A call of a driver at work keeps what holds at every moment. -/
theorem StudioProvision.Sound.called (sound : state.Sound aes ring)
    (calls : nextCall state.provisioning.driver = some call) (drew : state.draw = some draw)
    (landing : state.land aes ring normalised draw revokes call = some landed)
    {budgetSpent : Bool} (moved : landed.provision (.move (.call budgetSpent)) = some next)
    : next.Sound aes ring := by
  obtain ⟨sameProvisioning, sameDraw⟩ := land_provisioning landing
  obtain ⟨provisioning, progressed, rfl⟩ := Option.map_eq_some_iff.mp moved
  rw [sameProvisioning] at progressed
  have soundNext := sound.provisioning.step progressed
  obtain ⟨⟨rows, driver⟩, took, rfl⟩ := Option.map_eq_some_iff.mp progressed
  have cases := Invocation.step_cases took
  obtain ⟨done, rest, working⟩
      : ∃ done rest, state.provisioning.driver = .working done (call :: rest) := by
    unfold nextCall at calls
    split at calls
    next done found rest working =>
      cases calls
      exact ⟨done, rest, working⟩
    next => cases calls
  obtain ⟨due, onward⟩
      : Carries (KeyEffect aes ring draw) (KeyDue aes ring) (fun _ => True) (call :: rest)
          state.credentials := by
    have atWork := sound.atWork
    rw [AtWork, working] at atWork
    obtain ⟨found, isDraw, carries⟩ := atWork
    cases drew.symm.trans isDraw
    exact carries
  have bound := land_bound landing sound.bound
  rw [working] at cases
  cases cases with
  | recorded next onMark =>
      cases landing
      have effect : KeyEffect aes ring draw state.credentials _ _ :=
        keyEffect_of_marked draw state.provisioning.now sound.provisioning working
      refine ⟨soundNext, sound.good.made due effect, bound, ?_⟩
      rcases onMark with isNext | isNext
      · exact atWork_of_idle fun done rest isWorking => by cases isNext.symm.trans isWorking
      · rw [AtWork, isNext]
        exact ⟨draw, drew, onward _ effect⟩
  | called plain =>
      have effect := keyEffect_of_called state.provisioning.now
        (fun step mayYield same => by rw [same] at plain; exact plain) landing
      refine ⟨soundNext, sound.good.made due effect, bound, ?_⟩
      exact ⟨draw, sameDraw.trans drew, onward _ effect⟩
  | finished =>
      have effect := keyEffect_of_called state.provisioning.now
        (fun step mayYield same => by cases same) landing
      refine ⟨soundNext, sound.good.made due effect, bound, ?_⟩
      exact ⟨draw, sameDraw.trans drew, onward _ effect⟩
  | refused =>
      cases landing
      exact ⟨soundNext, sound.good, bound, trivial⟩

/-- So does an action that leaves the credentials, with what it leaves ahead of the driver. -/
theorem StudioProvision.Sound.kept (sound : state.Sound aes ring) {action : ProvisioningAction}
    (progressed : state.provision action = some next)
    (sameKeys
      : ∀ provisioning, state.provisioning.step action = some provisioning
        → keysOf provisioning.rows state.script state.minted state.revoked = state.credentials)
    (atWork : AtWork aes ring next)
    : next.Sound aes ring := by
  obtain ⟨provisioning, took, rfl⟩ := Option.map_eq_some_iff.mp progressed
  refine ⟨sound.provisioning.step took, ?_, sound.bound, atWork⟩
  have same := sameKeys provisioning took
  rw [StudioProvision.credentials, same]
  exact sound.good

/-- And a driver that moves without a call, or throws. -/
theorem StudioProvision.Sound.moved (sound : state.Sound aes ring) {move : Move}
    (progressed : state.provision (.move move) = some next)
    (idle
      : nextCall state.provisioning.driver = none ∨ ∃ step message, move = .throws step message)
    (kept : ∀ left, move ≠ .rollback left)
    : next.Sound aes ring := by
  have driven (provisioning : Provisioning)
      (took : state.provisioning.step (.move move) = some provisioning)
      : keysOf provisioning.rows state.script state.minted state.revoked = state.credentials
        ∧ ∀ done rest, provisioning.driver ≠ .working done rest := by
    obtain ⟨⟨rows, driver⟩, made, rfl⟩ := Option.map_eq_some_iff.mp took
    exact keysOf_moved (Invocation.step_cases made) idle kept _ _ _
  refine sound.kept progressed (fun provisioning took => (driven provisioning took).1) ?_
  obtain ⟨provisioning, took, rfl⟩ := Option.map_eq_some_iff.mp progressed
  exact atWork_of_idle (driven provisioning took).2

/-- Every action keeps what holds at every moment. -/
theorem StudioProvision.Sound.step (exactly : aes.Exact) {action : StudioProvisionAction}
    (sound : state.Sound aes ring) (stepped : state.step aes ring normalised action = some next)
    : next.Sound aes ring := by
  cases action with
  | tick seconds =>
      refine sound.kept stepped (fun provisioning took => ?_) ?_
      · cases took
        rfl
      · cases stepped
        exact sound.atWork
  | start draw =>
      obtain ⟨provisioning, progressed, rfl⟩ :=
        Option.map_eq_some_iff.mp (show StudioProvision.provision _ _ = _ from stepped)
      have soundNext := sound.provisioning.step progressed
      obtain ⟨⟨-, notStarted⟩, same⟩ := Option.ite_none_right_eq_some.mp progressed
      cases same
      refine ⟨soundNext, sound.good, sound.bound, draw, rfl, ?_⟩
      have text := (sound.provisioning.fresh (Bool.eq_false_iff.mpr notStarted)).2.2
      have unrecorded : state.credentials.uploaded = false :=
        recordsUpload_of_contiguous text rfl
      exact carries_runProvisionJob_keys exactly sound.good unrecorded rfl none
  | resume draw =>
      obtain ⟨provisioning, progressed, rfl⟩ :=
        Option.map_eq_some_iff.mp (show StudioProvision.provision _ _ = _ from stepped)
      have soundNext := sound.provisioning.step progressed
      obtain ⟨-, resumed⟩ := Option.ite_none_right_eq_some.mp progressed
      obtain ⟨done, read, same⟩ := Option.map_eq_some_iff.mp resumed
      cases same
      have sameKeys
          : keysOf
              (state.provisioning.rows.onJob
                (claimJob state.provisioning.now state.provisioning.rows.job.id jobLeaseSeconds))
              state.script state.minted state.revoked
            = state.credentials :=
        keysOf_congr _ _ _ rfl rfl
          (claimJob_keeps state.provisioning.now state.provisioning.rows).2
      have good := sameKeys ▸ sound.good
      refine ⟨soundNext, good, sound.bound, draw, rfl, ?_⟩
      refine carries_continueProvisionJob_keys exactly good rfl ?_ _ _
      simp only [keysOf, recordsUpload, read, Option.any_some]
  | call budgetSpent revokes =>
      simp only [StudioProvision.step] at stepped
      split at stepped
      next call draw calls drew =>
        obtain ⟨landed, landing, moved⟩ := Option.bind_eq_some_iff.mp stepped
        exact sound.called calls drew landing moved
      next notBoth =>
        refine sound.moved stepped (.inl ?_) fun left same => by cases same
        cases calls : nextCall state.provisioning.driver with
        | none => rfl
        | some call =>
            have atWork := sound.atWork
            unfold nextCall at calls
            split at calls
            next done found rest working =>
              rw [AtWork, working] at atWork
              obtain ⟨draw, drew, -⟩ := atWork
              exact absurd drew (notBoth found draw (by rw [working]; rfl))
            next => cases calls
  | throws step message =>
      exact sound.moved stepped (.inr ⟨step, message, rfl⟩) fun left same => by cases same
  | beat =>
      have sameKeys
          : keysOf
              (state.provisioning.rows.onJob
                (renewJobLease state.provisioning.now state.provisioning.rows.job.id
                  jobLeaseSeconds))
              state.script state.minted state.revoked
            = state.credentials :=
        keysOf_congr _ _ _ rfl rfl
          (renewJobLease_keeps state.provisioning.now state.provisioning.rows).2
      refine sound.kept stepped (fun provisioning took => ?_) ?_
      · cases took
        exact sameKeys
      · cases stepped
        have atWork := sound.atWork
        unfold AtWork at atWork ⊢
        rw [← sameKeys] at atWork
        exact atWork
  | die =>
      refine sound.kept stepped (fun provisioning took => ?_) ?_
      · cases took
        rfl
      · cases stepped
        trivial

/-- In every run of a provision, the studio that is resident is bound to a token that is not revoked,
and once its upload is recorded, the row opens it: the stored studio token decrypts to the one that is
bound, and the token it names is the one that is bound. Witness: induction on the run, with the
programs of the invocations carrying the credentials.
-/
theorem residentCredentials (exactly : aes.Exact) {now : Nat} {id : String} {tenant : Tenant}
    {runpodMode toRelease : Option String} {revoked : List String}
    {actions : List StudioProvisionAction}
    (reached
      : exec (StudioProvision.step aes ring normalised)
          (.requested now id tenant runpodMode toRelease revoked) actions
        = some state)
    : (∀ script, state.script = some script
        → ∃ bound, boundCredentials script = some bound ∧ bound.tokenId ∉ state.revoked)
      ∧ ∀ done, readProgress state.provisioning.rows.job.stepsDone = some done → .wfpUpload ∈ done
        → ∃ script bound enc, state.script = some script ∧ boundCredentials script = some bound
          ∧ state.provisioning.rows.tenant.r2TokenId = some bound.tokenId
          ∧ state.provisioning.rows.tenant.studioTokenEnc = some enc
          ∧ decryptStudioToken aes ring enc = .ok bound.studioApiToken := by
  have unrecorded : recordsUpload (queuedJob now id tenant.id .provision runpodMode toRelease)
      = false :=
    recordsUpload_of_contiguous (show _ = stringifySteps [] from rfl) rfl
  have start
      : (StudioProvision.requested now id tenant runpodMode toRelease revoked).Sound aes ring := by
    refine ⟨⟨fun _ => ⟨[], rfl, Truthful.nil tenant⟩, trivial, fun _ => ⟨rfl, rfl, rfl⟩⟩,
      ⟨fun tokenId isNamed => ?_, fun tokenId gone => ?_, nofun, fun recorded => ?_⟩, nofun, trivial⟩
    · exact List.mem_append_left _ (Option.mem_toList.mpr isNamed)
    · exact List.mem_append_right _ gone
    · cases unrecorded.symm.trans recorded
  have sound : state.Sound aes ring :=
    exec_preserves (fun _ _ _ sound stepped => sound.step exactly stepped) start reached
  constructor
  · intro script isScript
    obtain ⟨bound, isBound⟩ := sound.bound script isScript
    refine ⟨bound, isBound, sound.good.alive bound ?_⟩
    rw [StudioProvision.credentials, keysOf, isScript, Option.bind_some, isBound]
  · intro done read member
    have recorded : state.credentials.uploaded = true := by
      rw [StudioProvision.credentials, keysOf, recordsUpload, read, Option.any_some]
      exact decide_eq_true member
    obtain ⟨bound, enc, isBound, named, stored, opens⟩ := sound.good.opens recorded
    obtain ⟨script, isScript, binds⟩ := Option.bind_eq_some_iff.mp isBound
    exact ⟨script, bound, enc, isScript, binds, named, stored, opens⟩

-----------------------------------------------------------------------------------------
-- A provision that mints twice
-----------------------------------------------------------------------------------------

/-- One installed key, of zero bytes. -/
def zeroRing : KekRing where
  primary := "AAAAAAAAAAAAAAAAAAAAAAAAAAAAAAAAAAAAAAAAAAA="
  next := none
  encryptSlot := .primary

/-- What an invocation of a pooled provision draws. -/
def pooledDraw (tokenId studioApiToken : String)
    (sealed : labelled.encrypt zeroKey zeroIv studioApiToken ≠ "")
    : Draw where
  answers :=
    { pooledAnswers with
      tokenId := tokenId
      studioTokenEnc := ⟨_, sealed⟩ }
  studioApiToken := studioApiToken
  iv := zeroIv
  s3Secret := "s3"
  studioAigTokenValue := none
  config := {}
  videoFinishUnreachable := 0
  r2StorageQuotaOverride := none
  r2StorageQuotaBytes := none
  endpoints := []
  planned := noEndpoints_planned

/-- A first driver dies once its token is named, and the next one mints, uploads and revokes. -/
def remintedStudio : List StudioProvisionAction :=
  .start (pooledDraw "tok_1" "studio_1" (by decide +kernel))
    :: List.replicate 13 (.call false true)
  ++ [.die, .tick 61, .resume (pooledDraw "tok_2" "studio_2" (by decide +kernel))]
  ++ List.replicate 14 (.call false true)

theorem remintedStudio_resident
    : ∃ state,
        exec (StudioProvision.step labelled zeroRing some)
            (.requested 0 "job_1" requestedTenant (some "shared") (some "v1") []) remintedStudio
          = some state
        ∧ state.credentials.bound = some ⟨"tok_2", "studio_2"⟩ ∧ state.revoked = ["tok_1"]
        ∧ (∀ script, state.script = some script
          → ∃ bound, boundCredentials script = some bound ∧ bound.tokenId ∉ state.revoked)
        ∧ ∀ done, readProgress state.provisioning.rows.job.stepsDone = some done
          → .wfpUpload ∈ done
          → ∃ script bound enc, state.script = some script
            ∧ boundCredentials script = some bound
            ∧ state.provisioning.rows.tenant.r2TokenId = some bound.tokenId
            ∧ state.provisioning.rows.tenant.studioTokenEnc = some enc
            ∧ decryptStudioToken labelled zeroRing enc = .ok bound.studioApiToken := by
  have shown
      : (exec (StudioProvision.step labelled zeroRing some)
          (.requested 0 "job_1" requestedTenant (some "shared") (some "v1") []) remintedStudio).map
          (fun state => (state.credentials.bound, state.revoked))
        = some (some ⟨"tok_2", "studio_2"⟩, ["tok_1"]) := by
    decide +kernel
  obtain ⟨state, reached, same⟩ := Option.map_eq_some_iff.mp shown
  obtain ⟨bound, revoked⟩ := Prod.mk.inj same
  exact ⟨state, reached, bound, revoked, residentCredentials labelled_exact reached⟩

end ControlPlane.StudioCredentials
