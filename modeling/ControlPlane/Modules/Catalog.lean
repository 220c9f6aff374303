import ControlPlane.Provision.Endpoints
import ControlPlane.Store.TenantResources
import ControlPlane.Workers.Bindings

/-! The catalog of tenant modules, the names of their scripts, and how a module reaches RunPod:
through the plane, or with a key of its own.
-/

namespace ControlPlane.Modules

open ControlPlane.Provision (vpcBackedKeys)
open ControlPlane.Store

/-- One catalog entry. A module without an endpoint key or a public endpoint does not reach RunPod.
-/
structure TenantModuleSpec where
  module : String
  endpointKey : Option String := none
  needsAiGateway : Bool := false
  recordsRunpodJobs : Bool := false
  publicEndpoint : Option String := none
  writesTenantRenders : Bool := false
  deriving DecidableEq, Repr

def TENANT_MODULE_CATALOG : List TenantModuleSpec :=
  [{ module := "keyframe", endpointKey := some "backend", recordsRunpodJobs := true },
    { module := "own-gpu", endpointKey := some "backend", recordsRunpodJobs := true },
    { module := "finish-upscale", endpointKey := some "upscale", recordsRunpodJobs := true },
    { module := "finish-rife", endpointKey := some "backend", recordsRunpodJobs := true },
    { module := "plan-enhance", needsAiGateway := true },
    { module := "alibaba-wan", publicEndpoint := some "wan-2-6-i2v"
      recordsRunpodJobs := true, writesTenantRenders := true },
    { module := "alibaba-wan-lora", publicEndpoint := some "wan-2-2-t2v-720-lora"
      recordsRunpodJobs := true, writesTenantRenders := true },
    { module := "minimax-hailuo", publicEndpoint := some "minimax-hailuo-2-3-fast"
      recordsRunpodJobs := true, writesTenantRenders := true },
    { module := "narration-gen", publicEndpoint := some "minimax-speech-02-hd"
      recordsRunpodJobs := true, writesTenantRenders := true },
    { module := "cf-grok-video", needsAiGateway := true, writesTenantRenders := true },
    { module := "cf-seedance", needsAiGateway := true, writesTenantRenders := true },
    { module := "cf-flux-3-video", needsAiGateway := true, writesTenantRenders := true },
    { module := "cf-hh1-r2v", needsAiGateway := true, writesTenantRenders := true }]

/-- Boolean(text). -/
def given (text : Option String) : Bool :=
  text.getD "" ≠ ""

/-- Does this module reach RunPod at all, by either route? -/
def reachesRunpod (spec : TenantModuleSpec) : Bool :=
  given spec.endpointKey || given spec.publicEndpoint

-----------------------------------------------------------------------------------------
-- Script names
-----------------------------------------------------------------------------------------

/-- Each run of characters that are neither letters nor digits becomes one hyphen. The flag says
whether the character before was such a one.
-/
def hyphenated : Bool → List Char → List Char
  | _, [] => []
  | inRun, c :: rest =>
      if c.isAlphanum then c :: hyphenated false rest
      else if inRun then hyphenated true rest
      else '-' :: hyphenated true rest

/-- The per-tenant script-name prefix in the shared modules namespace. -/
def tenantModuleScriptPrefix (tenantId : String) : String :=
  String.ofList ((hyphenated false tenantId.toList).map Char.toLower) ++ "-"

/-- The resident script name for one tenant module. -/
def tenantModuleScriptName (tenantId moduleName : String) : String :=
  tenantModuleScriptPrefix tenantId ++ moduleName

/-- Modules of one tenant with one script name are one module. -/
theorem tenantModuleScriptName_injective (tenantId : String)
    : Function.Injective (tenantModuleScriptName tenantId) := by
  intro moduleName other same
  have chars := congrArg String.toList same
  rw [tenantModuleScriptName, tenantModuleScriptName, String.toList_append,
    String.toList_append] at chars
  exact String.toList_injective (List.append_cancel_left chars)

-----------------------------------------------------------------------------------------
-- The proxy pair
-----------------------------------------------------------------------------------------

def PROXY_TOKEN_PREFIX : String := "vjp1"

def MODULE_PROXY_BASE_BINDING : String := "RUNPOD_PROXY_BASE"

def MODULE_PROXY_TOKEN_BINDING : String := "RUNPOD_PROXY_TOKEN"

def TENANT_RUNPOD_SECRET : String := "RUNPOD_API_KEY"

/-- HMAC-SHA-256 in hex, of a key and a message. -/
abbrev HmacHex := String → String → String

def macInput (tenantId : String) : String :=
  PROXY_TOKEN_PREFIX ++ "." ++ tenantId

/-- Mint the token for one tenant; nothing without a key, or for an id that the token could not
carry.
-/
def mintTenantProxyToken (hmacHex : HmacHex) (signingKey : Option String) (tenantId : String)
    : Option String :=
  let key := signingKey.getD ""
  if key = "" then none
  else if tenantId = "" ∨ '.' ∈ tenantId.toList then none
  else
    some (PROXY_TOKEN_PREFIX ++ "." ++ tenantId ++ "." ++ hmacHex key (macInput tenantId))

/-- Where a plane's modules send their RunPod calls, and the key that signs what they present. -/
structure RunpodProxy where
  base : String
  signingKey : String
  deriving DecidableEq, Repr

structure ProxyBinding where
  base : String
  token : String
  deriving DecidableEq, Repr

/-- The proxy credential this tenant's modules will carry, or none when they are not proxied. -/
def tenantModuleProxyBinding (hmacHex : HmacHex) (runpodMode : RunPodMode)
    (runpodProxy : Option RunpodProxy) (tenantId : String) : Option ProxyBinding :=
  if runpodMode ≠ .shared then none
  else
    runpodProxy.bind fun proxy =>
      (mintTenantProxyToken hmacHex (some proxy.signingKey) tenantId).map fun token =>
        { base := proxy.base, token := token }

-----------------------------------------------------------------------------------------
-- Doors
-----------------------------------------------------------------------------------------

/-- A capability served by our own hardware: the variable of its door list, and the names of the
bearers its module reads.
-/
structure PlannedDoorCapability where
  key : String
  doorsUrlVar : String
  tokens : List String
  deriving DecidableEq, Repr

def doorBackedPlan : List PlannedDoorCapability :=
  [{ key := "upscale"
     doorsUrlVar := "FINISH_UPSCALE_DOORS"
     tokens := ["FINISH_DOOR_TOKEN", "FINISH_DOOR_TOKEN_PROPAGANDHI"] }]

example : doorBackedPlan.map PlannedDoorCapability.key = vpcBackedKeys := by
  decide

/-- The doors a plane configures for a capability, with bearers under names of its plan. -/
structure ResolvedDoor (capability : PlannedDoorCapability) where
  doorsUrl : String
  tokens : List (String × String)
  named : ∀ token ∈ tokens, token.1 ∈ capability.tokens

theorem noBearers_named (capability : PlannedDoorCapability)
    : ∀ token ∈ ([] : List (String × String)), token.1 ∈ capability.tokens :=
  List.forall_mem_nil _

end ControlPlane.Modules
