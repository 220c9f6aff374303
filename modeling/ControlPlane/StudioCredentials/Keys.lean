import ControlPlane.Library.Programs
import ControlPlane.StudioCredentials.Resident

/-! The credentials of a studio as the calls of an invocation see them. It mints, binds, stores and
records in that order, and revokes only what it no longer binds, from wherever an earlier one died.
-/

namespace ControlPlane.StudioCredentials

open ControlPlane.Kek
open ControlPlane.Library
open ControlPlane.Provision
open ControlPlane.Store
open ControlPlane.StudioBindings
open ControlPlane.Teardown (truthy)
open ControlPlane.Workers

-----------------------------------------------------------------------------------------
-- The credentials, wherever they are
-----------------------------------------------------------------------------------------

/-- The credentials that the row names, those that the studio is bound to, and the tokens of the
account, with whether the upload is recorded.
-/
structure Keys where
  r2TokenId : Option String
  studioTokenEnc : Option String
  bound : Option BoundCredentials
  minted : List String
  revoked : List String
  uploaded : Bool

/-- The row names what the studio is bound to. -/
def Opens (aes : AesGcm) (ring : KekRing) (keys : Keys) : Prop :=
  ∃ bound enc, keys.bound = some bound ∧ keys.r2TokenId = some bound.tokenId
    ∧ keys.studioTokenEnc = some enc
    ∧ decryptStudioToken aes ring enc = .ok bound.studioApiToken

/-- What is revoked was minted, what is bound is not revoked, and a recorded upload opens. -/
structure Keys.Good (aes : AesGcm) (ring : KekRing) (keys : Keys) : Prop where
  known : ∀ tokenId, keys.r2TokenId = some tokenId → tokenId ∈ keys.minted
  minted : ∀ tokenId ∈ keys.revoked, tokenId ∈ keys.minted
  alive : ∀ bound, keys.bound = some bound → bound.tokenId ∉ keys.revoked
  opens : keys.uploaded = true → Opens aes ring keys

/-- Where a call may take the credentials. -/
inductive KeyEffect (aes : AesGcm) (ring : KekRing) (draw : Draw)
    : Keys → ProvisionCall → Keys → Prop
  | minted {keys : Keys} {name bucket : String} (fresh : draw.answers.tokenId ∉ keys.minted)
    : KeyEffect aes ring draw keys (.mintBucketToken name bucket)
        { keys with minted := draw.answers.tokenId :: keys.minted }
  | named {keys : Keys} {tokenId : String}
    : KeyEffect aes ring draw keys (.setTenantR2Token tokenId)
        { keys with r2TokenId := some tokenId }
  | bound {keys : Keys} {scriptName release : String} {databaseId : Option String}
      {bucket tokenId : String}
    : KeyEffect aes ring draw keys
        (.uploadStudioScript scriptName release databaseId bucket tokenId)
        { keys with bound := some ⟨tokenId, draw.studioApiToken⟩ }
  | stored {keys : Keys} {enc : String}
      (encrypted : encryptStudioToken aes ring draw.iv draw.studioApiToken = .ok enc)
    : KeyEffect aes ring draw keys (.setTenantStudioToken enc)
        { keys with studioTokenEnc := some enc }
  | revoked {keys : Keys} {tokenId : String}
    : KeyEffect aes ring draw keys (.revoke tokenId)
        { keys with revoked := tokenId :: keys.revoked }
  | recorded {keys : Keys} {mayYield : Bool}
    : KeyEffect aes ring draw keys (.mark .wfpUpload mayYield) { keys with uploaded := true }
  | same {keys : Keys} {call : ProvisionCall}
      (apart
        : (∀ name bucket, call ≠ .mintBucketToken name bucket)
          ∧ (∀ tokenId, call ≠ .setTenantR2Token tokenId)
          ∧ (∀ scriptName release databaseId bucket tokenId,
            call ≠ .uploadStudioScript scriptName release databaseId bucket tokenId)
          ∧ ∀ enc, call ≠ .setTenantStudioToken enc)
    : KeyEffect aes ring draw keys call keys

/-- What the calls on credentials wait for. -/
def KeyDue (aes : AesGcm) (ring : KekRing) (keys : Keys) : ProvisionCall → Prop
  | .setTenantR2Token tokenId => keys.uploaded = false ∧ tokenId ∈ keys.minted
  | .uploadStudioScript _ _ _ _ tokenId =>
      keys.uploaded = false ∧ tokenId ∈ keys.minted ∧ tokenId ∉ keys.revoked
  | .setTenantStudioToken _ => keys.uploaded = false
  | .revoke tokenId =>
      tokenId ∈ keys.minted ∧ ∀ bound, keys.bound = some bound → bound.tokenId ≠ tokenId
  | .mark .wfpUpload _ => Opens aes ring keys
  | _ => True

variable {aes : AesGcm} {ring : KekRing} {draw : Draw} {keys after : Keys} {call : ProvisionCall}

/-- A call that is due keeps the credentials good. -/
theorem Keys.Good.made (good : keys.Good aes ring) (due : KeyDue aes ring keys call)
    (effect : KeyEffect aes ring draw keys call after)
    : after.Good aes ring := by
  cases effect with
  | minted fresh =>
      refine ⟨fun tokenId isNamed => ?_, fun tokenId gone => ?_, good.alive, good.opens⟩
      · exact List.mem_cons_of_mem _ (good.known tokenId isNamed)
      · exact List.mem_cons_of_mem _ (good.minted tokenId gone)
  | named =>
      obtain ⟨unrecorded, isMinted⟩ := due
      refine ⟨fun named same => ?_, good.minted, good.alive, fun recorded => ?_⟩
      · cases same
        exact isMinted
      · cases unrecorded.symm.trans recorded
  | bound =>
      obtain ⟨unrecorded, -, unrevoked⟩ := due
      refine ⟨good.known, good.minted, fun found same => ?_, fun recorded => ?_⟩
      · cases same
        exact unrevoked
      · cases unrecorded.symm.trans recorded
  | stored encrypted =>
      have unrecorded : keys.uploaded = false := due
      refine ⟨good.known, good.minted, good.alive, fun recorded => ?_⟩
      cases unrecorded.symm.trans recorded
  | revoked =>
      obtain ⟨isMinted, unbound⟩ := due
      refine ⟨good.known, fun gone member => ?_, fun bound same member => ?_, good.opens⟩
      · rcases List.mem_cons.mp member with isThis | before
        · exact isThis ▸ isMinted
        · exact good.minted gone before
      · rcases List.mem_cons.mp member with isThis | before
        · exact unbound bound same isThis
        · exact good.alive bound same before
  | recorded =>
      have opens : Opens aes ring keys := due
      exact ⟨good.known, good.minted, good.alive, fun _ => opens⟩
  | same apart => exact good

-----------------------------------------------------------------------------------------
-- The programs of an invocation
-----------------------------------------------------------------------------------------

/-- A call that has nothing to do with the credentials. -/
def Neutral : ProvisionCall → Bool
  | .mintBucketToken _ _ | .setTenantR2Token _ | .uploadStudioScript _ _ _ _ _
  | .setTenantStudioToken _ | .revoke _ | .mark .wfpUpload _ => false
  | _ => true

theorem KeyEffect.neutral (effect : KeyEffect aes ring draw keys call after)
    (neutral : Neutral call = true)
    : after = keys := by
  cases effect <;> first | rfl | cases neutral

theorem keyDue_of_neutral (neutral : Neutral call = true) : KeyDue aes ring keys call := by
  unfold KeyDue
  split <;> trivial

variable {Q : Keys → Prop} {program : List ProvisionCall}

/-- Neutral calls carry anything, by induction on them. -/
theorem carries_neutral (neutral : ∀ call ∈ program, Neutral call = true) (holds : Q keys)
    : Carries (KeyEffect aes ring draw) (KeyDue aes ring) Q program keys := by
  induction program with
  | nil => exact holds
  | cons call rest ih =>
      have here := neutral call List.mem_cons_self
      refine ⟨keyDue_of_neutral here, fun after effect => ?_⟩
      rw [effect.neutral here]
      exact ih fun other member => neutral other (List.mem_cons_of_mem _ member)

/-- The rule for a neutral call. -/
theorem carries_skip (neutral : Neutral call = true)
    (onward : Carries (KeyEffect aes ring draw) (KeyDue aes ring) Q program keys)
    : Carries (KeyEffect aes ring draw) (KeyDue aes ring) Q (call :: program) keys := by
  refine ⟨keyDue_of_neutral neutral, fun after effect => ?_⟩
  rwa [effect.neutral neutral]

theorem neutral_uploadTenantModules (release : String) (endpoints : List TenantEndpoint)
    (databaseId bucket : Option String) (mode : RunPodMode)
    : ∀ call ∈ uploadTenantModules release endpoints databaseId bucket mode,
        Neutral call = true := by
  unfold uploadTenantModules
  split <;> simp [Neutral]

/-- Before the upload: the token of the invocation is minted and named, and not revoked; what the
row named when it started was minted.
-/
structure Minted (draw : Draw) (previous : Option String) (keys : Keys) : Prop where
  unrecorded : keys.uploaded = false
  minted : draw.answers.tokenId ∈ keys.minted
  unrevoked : draw.answers.tokenId ∉ keys.revoked
  named : keys.r2TokenId = some draw.answers.tokenId
  previous : ∀ tokenId, previous = some tokenId → tokenId ∈ keys.minted

/-- Behind the upload: the studio is bound to the token of the invocation. -/
structure Rebound (draw : Draw) (previous : Option String) (keys : Keys) : Prop where
  bound : ∃ bound, keys.bound = some bound ∧ bound.tokenId = draw.answers.tokenId
  previous : ∀ tokenId, previous = some tokenId → tokenId ∈ keys.minted

/-- The token that was named before is revoked once the studio is bound to another one. -/
theorem carries_revokePrevious {previous : Option String} (rebound : Rebound draw previous keys)
    : Carries (KeyEffect aes ring draw) (KeyDue aes ring) (fun _ => True)
        (revokePrevious previous draw.answers.tokenId) keys := by
  obtain ⟨⟨bound, isBound, own⟩, minted⟩ := rebound
  unfold revokePrevious
  split
  next found named =>
    have isPrevious : previous = some found := (Option.filter_eq_some_iff.mp named).1
    split
    next same => trivial
    next other =>
      refine ⟨⟨minted found isPrevious, fun alsoBound same => ?_⟩, fun _ _ => trivial⟩
      obtain rfl : bound = alsoBound := Option.some.inj (isBound.symm.trans same)
      exact fun isOwn => other (isOwn.symm.trans own)
  next => trivial

/-- The upload binds the token, the studio token is stored, and only then is the step recorded. -/
theorem carries_upload (exactly : aes.Exact) {previous : Option String}
    (minted : Minted draw previous keys) (scriptName release bucket : String)
    (databaseId : Option String)
    : Carries (KeyEffect aes ring draw) (KeyDue aes ring) (Rebound draw previous)
        [.mark .runpodEndpoints true,
          .uploadStudioScript scriptName release databaseId bucket draw.answers.tokenId,
          .setTenantScript scriptName release, .setTenantStudioToken draw.answers.studioTokenEnc,
          .mark .wfpUpload true]
        keys := by
  refine carries_skip rfl ?_
  refine .cons ⟨minted.unrecorded, minted.minted, minted.unrevoked⟩ fun uploaded effect => ?_
  cases effect with
  | same apart => exact absurd rfl (apart.2.2.1 _ _ _ _ _)
  | bound =>
      refine carries_skip rfl (.cons minted.unrecorded fun stored effect => ?_)
      cases effect with
      | same apart => exact absurd rfl (apart.2.2.2 _)
      | stored encrypted =>
          have opens := exactly.decryptStudioToken_eq.mpr ⟨_, exactly.opens_encrypted encrypted⟩
          refine .cons ⟨_, _, rfl, minted.named, rfl, opens⟩ fun marked effect => ?_
          cases effect with
          | recorded => exact ⟨⟨_, rfl, rfl⟩, minted.previous⟩
          | same => exact ⟨⟨_, rfl, rfl⟩, minted.previous⟩

theorem carries_uploadAndVerify_keys (exactly : aes.Exact) {seen : Tenant}
    (minted : Minted draw seen.r2TokenId keys) (release : String) (databaseId : Option String)
    (endpoints : List TenantEndpoint) (mode : RunPodMode)
    : Carries (KeyEffect aes ring draw) (KeyDue aes ring) (fun _ => True)
        (uploadAndVerify draw.answers seen release databaseId endpoints mode) keys := by
  unfold uploadAndVerify
  refine Carries.append (R := fun _ => True) (Carries.append (R := fun _ => True)
    ((carries_upload exactly minted _ _ _ _).append fun _ rebound => carries_revokePrevious rebound)
    fun _ _ => ?_) fun _ _ => ?_
  · exact carries_neutral (neutral_uploadTenantModules _ _ _ _ _) trivial
  · exact carries_neutral (by simp [Neutral]) trivial

theorem carries_endpointsOnward_keys (exactly : aes.Exact) {seen : Tenant}
    (minted : Minted draw seen.r2TokenId keys) (done : List ProvisionStep) (release : String)
    (databaseId : Option String)
    : Carries (KeyEffect aes ring draw) (KeyDue aes ring) (fun _ => True)
        (endpointsOnward draw.answers seen done release databaseId) keys := by
  unfold endpointsOnward
  split
  · split
    · exact carries_neutral (by simp [Neutral, endpointsUnreadable]) trivial
    · exact carries_uploadAndVerify_keys exactly minted _ _ _ _
  · split
    · trivial
    · exact carries_skip rfl (carries_skip rfl (carries_uploadAndVerify_keys exactly minted _ _ _ _))

/-- A provision whose upload is not recorded mints a token that no studio and no row has had. -/
theorem carries_runProvisionJob_keys (exactly : aes.Exact) (good : keys.Good aes ring)
    (unrecorded : keys.uploaded = false) {seen : Tenant} (current : seen.r2TokenId = keys.r2TokenId)
    (resume : Option ProvisionResume)
    : Carries (KeyEffect aes ring draw) (KeyDue aes ring) (fun _ => True)
        (runProvisionJob draw.answers seen resume) keys := by
  unfold runProvisionJob
  refine Carries.append (R := Minted draw seen.r2TokenId)
    (Carries.append (R := fun reached => reached = keys) (carries_neutral ?_ rfl) ?_)
    fun reached minted => carries_endpointsOnward_keys exactly minted _ _ _
  · intro call member
    simp only [List.mem_append] at member
    rcases member with ((opening | database) | schema) | storage
    · revert call
      simp [Neutral]
    · split at database
      · cases database
      · revert call
        simp [Neutral]
    · split at schema
      · cases schema
      · revert call
        simp [Neutral]
    · split at storage
      · cases storage
      · revert call
        simp [Neutral]
  · intro reached h
    obtain rfl := h
    refine .cons trivial fun minted effect => ?_
    cases effect with
    | same apart => exact absurd rfl (apart.1 _ _)
    | minted fresh =>
        refine .cons ⟨unrecorded, List.mem_cons_self⟩ fun named effect => ?_
        cases effect with
        | same apart => exact absurd rfl (apart.2.1 _)
        | named =>
            refine carries_skip rfl ⟨unrecorded, List.mem_cons_self, fun gone => ?_, rfl, ?_⟩
            · exact fresh (good.minted _ gone)
            · intro tokenId isPrevious
              exact List.mem_cons_of_mem _ (good.known tokenId (current.symm.trans isPrevious))

/-- A continuation past the upload leaves the credentials alone. -/
theorem carries_continueProvisionJob_keys (exactly : aes.Exact) (good : keys.Good aes ring)
    {seen : Tenant} (current : seen.r2TokenId = keys.r2TokenId) {done : List ProvisionStep}
    (recorded : keys.uploaded = decide (.wfpUpload ∈ done)) (jobId : String)
    (job : Option ProvisionJob)
    : Carries (KeyEffect aes ring draw) (KeyDue aes ring) (fun _ => True)
        (continueProvisionJob draw.answers jobId job seen done) keys := by
  unfold continueProvisionJob
  split
  · exact carries_neutral (by simp [Neutral]) trivial
  next release planned =>
    refine carries_runProvisionJob_keys exactly good (recorded.trans ?_) current _
    rcases planResume_eq_ok planned with ⟨-, past⟩ | ⟨notUploaded, -⟩
    · exact nomatch planPastUpload_eq_ok past
    · exact decide_eq_false notUploaded
  · refine carries_neutral ?_ trivial
    intro call member
    unfold runModuleSteps at member
    simp only [List.mem_append] at member
    rcases member with ((modules | install) | verify) | ending
    · split at modules
      · cases modules
      · rcases List.mem_append.mp modules with upload | mark
        · exact neutral_uploadTenantModules _ _ _ _ _ call upload
        · rw [List.mem_singleton.mp mark]
          rfl
    · split at install
      · cases install
      · revert call
        simp [Neutral]
    · split at verify
      · cases verify
      · revert call
        simp [Neutral]
    · revert call
      simp [Neutral]

end ControlPlane.StudioCredentials
