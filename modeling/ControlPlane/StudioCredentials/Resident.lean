import ControlPlane.Kek.TokenCrypto
import ControlPlane.Provision.Progress
import ControlPlane.StudioBindings.Variables

/-! A provision with what it leaves on the platform: the tokens minted and revoked, and the studio
script with the credentials bound in it. Drivers run one at a time and die wherever they are, so a
token may be minted, bound or stored more than once.
-/

namespace ControlPlane.StudioCredentials

open ControlPlane.Kek
open ControlPlane.Library
open ControlPlane.Provision
open ControlPlane.Store
open ControlPlane.StudioBindings
open ControlPlane.Workers

/-- What one invocation draws: its answers, the secrets it makes, the config it runs under, and the
columns of the row that only its bindings read. Which endpoints it wires is left open.
-/
structure Draw where
  answers : Answers
  studioApiToken : String
  iv : Iv
  s3Secret : String
  studioAigTokenValue : Option String
  config : PlaneConfig
  videoFinishUnreachable : Int
  r2StorageQuotaOverride : Option String
  r2StorageQuotaBytes : Option String
  endpoints : List TenantEndpoint
  planned
    : ∀ endpoint ∈ endpoints,
        endpoint.endpointVar ∈ endpointBackedPlan.map PlannedEndpoint.endpointVar

/-- A provision, what its driver drew, the tokens of the account, and the studio script. -/
structure StudioProvision where
  provisioning : Provisioning
  draw : Option Draw
  minted : List String
  revoked : List String
  script : Option ScriptBindings

/-- The credentials bound in a studio script. -/
structure BoundCredentials where
  tokenId : String
  studioApiToken : String
  deriving DecidableEq, Repr

def boundCredentials (script : ScriptBindings) : Option BoundCredentials :=
  match script.get? "R2_S3_ACCESS_KEY_ID", script.get? "STUDIO_API_TOKEN" with
  | some (.secretText _ tokenId), some (.secretText _ studioApiToken) =>
      some { tokenId := tokenId, studioApiToken := studioApiToken }
  | _, _ => none

variable (aes : AesGcm) (ring : KekRing) (normalised : ByteCounts)

/-- The bindings that an invocation uploads with the studio. -/
def Draw.bindings (draw : Draw) (tenant : Tenant) (databaseId : Option String)
    (bucket tokenId : String)
    : List WorkerBinding :=
  provisionedBindings normalised draw.config
    { toTenant := tenant
      videoFinishUnreachable := draw.videoFinishUnreachable
      r2StorageQuotaOverride := draw.r2StorageQuotaOverride
      r2StorageQuotaBytes := draw.r2StorageQuotaBytes }
    { dbUuid := databaseId.getD ""
      bucket := bucket
      endpoints := draw.endpoints
      tokenId := tokenId
      s3Secret := draw.s3Secret
      studioApiToken := draw.studioApiToken
      studioAigTokenValue := draw.studioAigTokenValue
      planned := draw.planned }

/-- The state on the platform after a call that landed. A mint returns an id that was never minted,
a token that cannot be encrypted is not stored, and a revoke that fails is only logged.
-/
def StudioProvision.land (state : StudioProvision) (draw : Draw) (revokes : Bool)
    : ProvisionCall → Option StudioProvision
  | .mintBucketToken _ _ =>
      if draw.answers.tokenId ∈ state.minted then none
      else some { state with minted := draw.answers.tokenId :: state.minted }
  | .uploadStudioScript _ _ databaseId bucket tokenId =>
      let tenant := state.provisioning.rows.tenant
      some { state with
        script :=
          some
            ((state.script.getD .empty).after
              (draw.bindings normalised tenant databaseId bucket tokenId)) }
  | .setTenantStudioToken encValue =>
      match encryptStudioToken aes ring draw.iv draw.studioApiToken with
      | .ok encrypted => if encrypted = encValue then some state else none
      | .error _ => none
  | .revoke tokenId =>
      some (if revokes then { state with revoked := tokenId :: state.revoked } else state)
  | _ => some state

/-- What can happen next. No teardown and no rollback runs. -/
inductive StudioProvisionAction
  | tick (seconds : Nat)
  | start (draw : Draw)
  | resume (draw : Draw)
  | call (budgetSpent revokes : Bool)
  | throws (step message : String)
  | beat
  | die

/-- The call that the driver makes next. -/
def nextCall : Invocation → Option ProvisionCall
  | .working _ (call :: _) => some call
  | _ => none

def StudioProvision.provision (state : StudioProvision) (action : ProvisioningAction)
    : Option StudioProvision :=
  (state.provisioning.step action).map fun provisioning =>
    { state with provisioning := provisioning }

/-- The state after an action. An answer that is lost is a call that lands and a throw. -/
def StudioProvision.step (state : StudioProvision) : StudioProvisionAction → Option StudioProvision
  | .tick seconds => state.provision (.tick seconds)
  | .start draw => { state with draw := some draw }.provision (.start draw.answers)
  | .resume draw => { state with draw := some draw }.provision (.resume draw.answers)
  | .call budgetSpent revokes =>
      match nextCall state.provisioning.driver, state.draw with
      | some call, some draw =>
          (state.land aes ring normalised draw revokes call).bind fun landed =>
            landed.provision (.move (.call budgetSpent))
      | _, _ => state.provision (.move (.call budgetSpent))
  | .throws step message => state.provision (.move (.throws step message))
  | .beat => state.provision .beat
  | .die => state.provision .die

/-- A tenant whose provision was just requested. It has no studio; what its row may name, and what
was revoked, was minted.
-/
def StudioProvision.requested (now : Nat) (id : String) (tenant : Tenant)
    (runpodMode toRelease : Option String) (revoked : List String)
    : StudioProvision where
  provisioning := .requested now id tenant runpodMode toRelease
  draw := none
  minted := tenant.r2TokenId.toList ++ revoked
  revoked := revoked
  script := none

-----------------------------------------------------------------------------------------
-- What an upload binds
-----------------------------------------------------------------------------------------

variable {normalised} {config : PlaneConfig} {tenant : StudioTenant}

/-- An upload of a provision binds its secrets: nothing in front of them has their names. -/
theorem declared_secrets (parts : StudioParts) {name text : String}
    (secret
      : declared
          [.secretText "R2_S3_ACCESS_KEY_ID" parts.tokenId,
            .secretText "R2_S3_SECRET_ACCESS_KEY" parts.s3Secret,
            .secretText "STUDIO_API_TOKEN" parts.studioApiToken,
            .ratelimit "SPEND_RATE_LIMITER" SPEND_RATELIMIT_NAMESPACE 30 60] name
        = some (.secretText name text))
    (own : name = "R2_S3_ACCESS_KEY_ID" ∨ name = "STUDIO_API_TOKEN")
    : declared (provisionedBindings normalised config tenant parts) name
      = some (.secretText name text) := by
  have front
      : declared
          [.assets "ASSETS", .dispatchNamespace "MODULE_DISPATCH" config.moduleNamespace,
            .d1 "DB" parts.dbUuid, .r2Bucket "R2_RENDERS" parts.bucket, .r2Bucket "R2" parts.bucket,
            .plainText "AUTH_MODE" "token", .plainText "R2_S3_BUCKET" parts.bucket,
            .plainText "R2_S3_ENDPOINT" config.r2Endpoint] name
        = none := by
    refine declared_eq_none ?_
    rcases own with rfl | rfl <;> simp [WorkerBinding.name]
  have endpoints
      : declared (parts.endpoints.map fun endpoint => .plainText endpoint.endpointVar endpoint.id)
          name
        = none := by
    refine declared_eq_none fun member => ?_
    obtain ⟨binding, among, named⟩ := List.mem_map.mp member
    obtain ⟨endpoint, wired, same⟩ := List.mem_map.mp among
    have inPlan : name ∈ endpointBackedPlan.map PlannedEndpoint.endpointVar := by
      rw [← named, ← same]
      exact parts.planned endpoint wired
    revert inPlan
    rcases own with rfl | rfl <;> decide
  unfold provisionedBindings
  simp only [declared_append, front, endpoints, secret, Option.none_or, Option.some_or]

/-- A studio is bound to the token and the studio token that its last upload named. -/
theorem boundCredentials_uploaded (script : ScriptBindings) (parts : StudioParts)
    : boundCredentials (script.after (provisionedBindings normalised config tenant parts))
      = some { tokenId := parts.tokenId, studioApiToken := parts.studioApiToken } := by
  have tokenId
      : (script.after (provisionedBindings normalised config tenant parts)).get?
          "R2_S3_ACCESS_KEY_ID"
        = some (.secretText "R2_S3_ACCESS_KEY_ID" parts.tokenId) := by
    rw [get?_after, declared_secrets parts rfl (.inl rfl), Option.some_or]
  have studioApiToken
      : (script.after (provisionedBindings normalised config tenant parts)).get?
          "STUDIO_API_TOKEN"
        = some (.secretText "STUDIO_API_TOKEN" parts.studioApiToken) := by
    rw [get?_after, declared_secrets parts rfl (.inr rfl), Option.some_or]
  rw [boundCredentials, tokenId, studioApiToken]

end ControlPlane.StudioCredentials
