import Mathlib.Data.List.Perm.Basic
import ControlPlane.Library.RoutePatterns
import ControlPlane.Operators.Scopes

/-! The admin surface: what each route requires, in one table that is consulted before dispatch, and
the handlers that a request is dispatched to after it.
-/

namespace ControlPlane.Operators

open ControlPlane.Library

/-- What a route asks of its caller. -/
inductive AdminRequirement
  | scope (scope : OperatorScope)
  | authenticated
  | root
  deriving DecidableEq, Repr

/-- The id of a tenant in a path: ten_[a-f0-9]+. -/
def tenantRoute (after : String) : List RoutePiece :=
  [.text ("/api/admin/tenants/ten_"), .hex, .text after]

/-- What each admin route requires. A route that is not in here is refused to everyone. -/
def ADMIN_REQUIREMENTS : List (Route AdminRequirement) :=
  [⟨"GET", [.text "/api/admin/whoami"], .authenticated⟩,
    ⟨"GET", [.text "/api/admin/operators"], .root⟩,
    ⟨"POST", [.text "/api/admin/operators"], .root⟩,
    ⟨"POST", [.text "/api/admin/operators/opc_", .hex, .text "/revoke"], .root⟩,
    ⟨"GET", [.text "/api/admin/audit"], .scope .tenantsRead⟩,
    ⟨"GET", [.text "/api/admin/tenants"], .scope .tenantsRead⟩,
    ⟨"GET", tenantRoute "/usage", .scope .tenantsRead⟩,
    ⟨"POST", [.text "/api/admin/tenants/provision"], .scope .tenantsProvision⟩,
    ⟨"GET", [.text "/api/admin/settings"], .scope .tenantsRead⟩,
    ⟨"POST", [.text "/api/admin/settings"], .scope .platformSettings⟩,
    ⟨"GET", [.text "/api/admin/r2-usage"], .scope .tenantsRead⟩,
    ⟨"GET", [.text "/api/admin/cron"], .scope .tenantsRead⟩,
    ⟨"POST", [.text "/api/admin/reconcile/runpod"], .scope .tenantsRead⟩,
    ⟨"POST", [.text "/api/admin/llm-meter/run"], .scope .meterOperate⟩,
    ⟨"POST", [.text "/api/admin/meter-settle"], .scope .meterOperate⟩,
    ⟨"GET", [.text "/api/admin/llm-spend"], .scope .tenantsRead⟩,
    ⟨"GET", [.text "/api/admin/kek/status"], .scope .keysRotate⟩,
    ⟨"POST", [.text "/api/admin/kek/reencrypt"], .scope .keysRotate⟩,
    ⟨"GET", tenantRoute "/credits", .scope .tenantsRead⟩,
    ⟨"POST", tenantRoute "/credits/manual", .scope .creditsWrite⟩,
    ⟨"GET", tenantRoute "/module-readiness", .scope .tenantsRead⟩,
    ⟨"GET", tenantRoute "/preservation-holds", .scope .tenantsRead⟩,
    ⟨"POST", tenantRoute "/preservation-holds", .scope .tenantsWrite⟩,
    ⟨"POST", tenantRoute "/preservation-holds/hold_" ++ [.hex, .text "/release"],
      .scope .tenantsWrite⟩,
    ⟨"POST", tenantRoute "/" ++ [.either "suspend" "resume"], .scope .tenantsWrite⟩,
    ⟨"POST", tenantRoute "/video-finish-binding", .scope .tenantsWrite⟩,
    ⟨"POST", tenantRoute "/video-finish-tier-state", .scope .tenantsWrite⟩,
    ⟨"POST", tenantRoute "/abuse-report-url", .scope .tenantsWrite⟩,
    ⟨"POST", tenantRoute "/storage-quota", .scope .tenantsWrite⟩,
    ⟨"POST", tenantRoute "/teardown", .scope .tenantsDestroy⟩,
    ⟨"POST", tenantRoute "/upgrade-modules", .scope .studioOperate⟩,
    ⟨"POST", tenantRoute "/upgrade-studio", .scope .studioOperate⟩,
    ⟨"POST", tenantRoute "/refresh-studio-bindings", .scope .studioOperate⟩,
    ⟨"POST", tenantRoute "/smoke-render", .scope .studioOperate⟩,
    ⟨"GET", tenantRoute "/smoke-render/smk_" ++ [.hex], .scope .tenantsRead⟩,
    ⟨"GET", tenantRoute "/smoke-render/smk_" ++ [.hex, .text "/artifact"],
      .scope .tenantsRead⟩]

/-- First match wins. Nothing means no entry, which is a refusal. -/
def adminRequirement (method path : String) : Option AdminRequirement :=
  Route.first ADMIN_REQUIREMENTS method path

/-- What an admin request is answered by. -/
inductive AdminHandler
  | whoami
  | listOperators
  | mintOperator
  | revokeOperator
  | audit
  | tenants
  | tenantUsage
  | operatorProvision
  | readSettings
  | cron
  | writeSettings
  | llmMeterRun
  | llmSpend
  | meterSettle
  | r2Usage
  | reconcileRunpod
  | manualCredit
  | credits
  | suspendOrResume
  | moduleReadiness
  | listPreservationHolds
  | openPreservationHold
  | releasePreservationHold
  | teardown
  | upgradeModules
  | upgradeStudio
  | refreshStudioBindings
  | videoFinishBinding
  | videoFinishTierState
  | abuseReportUrl
  | storageQuota
  | kekStatus
  | kekReencrypt
  | smokeRender
  | readSmokeRender
  | smokeRenderArtifact
  deriving DecidableEq, Repr

/-- The tests that adminRoutes makes, in its order. The first that holds decides. -/
def ADMIN_DISPATCH : List (Route AdminHandler) :=
  [⟨"GET", [.text "/api/admin/whoami"], .whoami⟩,
    ⟨"GET", [.text "/api/admin/operators"], .listOperators⟩,
    ⟨"POST", [.text "/api/admin/operators"], .mintOperator⟩,
    ⟨"POST", [.text "/api/admin/operators/opc_", .hex, .text "/revoke"], .revokeOperator⟩,
    ⟨"GET", [.text "/api/admin/audit"], .audit⟩,
    ⟨"GET", [.text "/api/admin/tenants"], .tenants⟩,
    ⟨"GET", tenantRoute "/usage", .tenantUsage⟩,
    ⟨"POST", [.text "/api/admin/tenants/provision"], .operatorProvision⟩,
    ⟨"GET", [.text "/api/admin/settings"], .readSettings⟩,
    ⟨"GET", [.text "/api/admin/cron"], .cron⟩,
    ⟨"POST", [.text "/api/admin/settings"], .writeSettings⟩,
    ⟨"POST", [.text "/api/admin/llm-meter/run"], .llmMeterRun⟩,
    ⟨"GET", [.text "/api/admin/llm-spend"], .llmSpend⟩,
    ⟨"POST", [.text "/api/admin/meter-settle"], .meterSettle⟩,
    ⟨"GET", [.text "/api/admin/r2-usage"], .r2Usage⟩,
    ⟨"POST", [.text "/api/admin/reconcile/runpod"], .reconcileRunpod⟩,
    ⟨"POST", tenantRoute "/credits/manual", .manualCredit⟩,
    ⟨"GET", tenantRoute "/credits", .credits⟩,
    ⟨"POST", tenantRoute "/" ++ [.either "suspend" "resume"], .suspendOrResume⟩,
    ⟨"GET", tenantRoute "/module-readiness", .moduleReadiness⟩,
    ⟨"GET", tenantRoute "/preservation-holds", .listPreservationHolds⟩,
    ⟨"POST", tenantRoute "/preservation-holds", .openPreservationHold⟩,
    ⟨"POST", tenantRoute "/preservation-holds/hold_" ++ [.hex, .text "/release"],
      .releasePreservationHold⟩,
    ⟨"POST", tenantRoute "/teardown", .teardown⟩,
    ⟨"POST", tenantRoute "/upgrade-modules", .upgradeModules⟩,
    ⟨"POST", tenantRoute "/upgrade-studio", .upgradeStudio⟩,
    ⟨"POST", tenantRoute "/refresh-studio-bindings", .refreshStudioBindings⟩,
    ⟨"POST", tenantRoute "/video-finish-binding", .videoFinishBinding⟩,
    ⟨"POST", tenantRoute "/video-finish-tier-state", .videoFinishTierState⟩,
    ⟨"POST", tenantRoute "/abuse-report-url", .abuseReportUrl⟩,
    ⟨"POST", tenantRoute "/storage-quota", .storageQuota⟩,
    ⟨"GET", [.text "/api/admin/kek/status"], .kekStatus⟩,
    ⟨"POST", [.text "/api/admin/kek/reencrypt"], .kekReencrypt⟩,
    ⟨"POST", tenantRoute "/smoke-render", .smokeRender⟩,
    ⟨"GET", tenantRoute "/smoke-render/smk_" ++ [.hex], .readSmokeRender⟩,
    ⟨"GET", tenantRoute "/smoke-render/smk_" ++ [.hex, .text "/artifact"], .smokeRenderArtifact⟩]

def adminHandler (method path : String) : Option AdminHandler :=
  Route.first ADMIN_DISPATCH method path

-----------------------------------------------------------------------------------------
-- One requirement for each handler
-----------------------------------------------------------------------------------------

/-- What a handler is meant to ask for, by what it does. -/
def AdminHandler.requires : AdminHandler → AdminRequirement
  | .whoami => .authenticated
  | .listOperators | .mintOperator | .revokeOperator => .root
  | .operatorProvision => .scope .tenantsProvision
  | .writeSettings => .scope .platformSettings
  | .llmMeterRun | .meterSettle => .scope .meterOperate
  | .manualCredit => .scope .creditsWrite
  | .teardown => .scope .tenantsDestroy
  | .kekStatus | .kekReencrypt => .scope .keysRotate
  | .upgradeModules | .upgradeStudio | .refreshStudioBindings | .smokeRender =>
      .scope .studioOperate
  | .suspendOrResume | .openPreservationHold | .releasePreservationHold | .videoFinishBinding
  | .videoFinishTierState | .abuseReportUrl | .storageQuota => .scope .tenantsWrite
  | .audit | .tenants | .tenantUsage | .readSettings | .cron | .llmSpend | .r2Usage
  | .reconcileRunpod | .credits | .moduleReadiness | .listPreservationHolds | .readSmokeRender
  | .smokeRenderArtifact => .scope .tenantsRead

theorem requirements_unambiguous : Route.Unambiguous ADMIN_REQUIREMENTS := by decide +kernel

/-- The table and the dispatch list the same routes, in different orders. -/
theorem dispatch_perm
    : ADMIN_REQUIREMENTS.Perm (ADMIN_DISPATCH.map (Route.relabel AdminHandler.requires)) := by
  decide +kernel

theorem dispatch_unambiguous : Route.Unambiguous ADMIN_DISPATCH := by
  have relabelled
      : (ADMIN_DISPATCH.map (Route.relabel AdminHandler.requires)).Pairwise
          fun route other => route.apart other = true :=
    (dispatch_perm.pairwise_iff fun separate => Route.apart_symm separate).mp
      requirements_unambiguous
  exact List.pairwise_map.mp relabelled

/-- What is required of a request is what its handler is meant to ask for. -/
theorem adminRequirement_eq (method path : String)
    : adminRequirement method path = (adminHandler method path).map AdminHandler.requires := by
  rw [adminRequirement, ← requirements_unambiguous.first_perm dispatch_perm,
    Route.first_map_relabel, adminHandler]

/-- What a request must hold is what the handler that it reaches is meant to ask for, on every path;
and where no handler answers there is no entry. In no order of the table, and in no order of the
tests, would it be otherwise.
-/
theorem routes_agree (method path : String)
    : adminRequirement method path = (adminHandler method path).map AdminHandler.requires
      ∧ (∀ table, ADMIN_REQUIREMENTS.Perm table
        → Route.first table method path = adminRequirement method path)
      ∧ ∀ dispatch, ADMIN_DISPATCH.Perm dispatch
        → Route.first dispatch method path = adminHandler method path := by
  exact ⟨adminRequirement_eq method path, fun table => requirements_unambiguous.first_perm,
    fun dispatch => dispatch_unambiguous.first_perm⟩

/-- Read from its end, the table requires the same of a mint. -/
theorem routes_agree_reversed
    : Route.first ADMIN_REQUIREMENTS.reverse "POST" "/api/admin/operators"
      = adminRequirement "POST" "/api/admin/operators" :=
  (routes_agree _ _).2.1 _ (List.reverse_perm ADMIN_REQUIREMENTS).symm

end ControlPlane.Operators
