import Mathlib.Data.List.Find
import ControlPlane.Library.RouteSources
import ControlPlane.Operators.Requests

/-! The operator console. It has no list of scopes and no rule of its own: it unlocks with what whoami
serves, and asks the served table about each route that it would call. So what it offers to a
credential is what the gate admits of that credential, on every path.
-/

namespace ControlPlane.Operators

open ControlPlane.FrontDoor
open ControlPlane.Library
open ControlPlane.Library.Calendar

-----------------------------------------------------------------------------------------
-- What is served
-----------------------------------------------------------------------------------------

structure ScopeCatalogueEntry where
  id : String
  summary : String
  deriving DecidableEq, Repr

/-- One row of the table as it is served, with the source of its expression. -/
structure RequirementRow where
  method : String
  pattern : String
  requires : String
  deriving DecidableEq, Repr

structure WhoAmI where
  kind : String
  scopes : List String
  catalogue : List ScopeCatalogueEntry
  requirements : List RequirementRow
  deriving DecidableEq, Repr

/-- A field that is a text. -/
def textField (key : String) (value : Json) : Option String :=
  (value.field? key).bind Json.text?

/-- A field that is a list, or nothing of one. -/
def listField (key : String) (value : Json) : List Json :=
  match value.field? key with
  | some (.array items) => items
  | _ => []

def ScopeCatalogueEntry.read (value : Json) : Option ScopeCatalogueEntry := do
  return { id := ← textField "id" value, summary := ← textField "summary" value }

def RequirementRow.read (value : Json) : Option RequirementRow := do
  return { method := ← textField "method" value
           pattern := ← textField "pattern" value
           requires := ← textField "requires" value }

def WhoAmI.read (body : Json) : WhoAmI where
  kind := (textField "kind" body).getD ""
  scopes := (listField "scopes" body).filterMap Json.text?
  catalogue := (listField "catalogue" body).filterMap ScopeCatalogueEntry.read
  requirements := (listField "requirements" body).filterMap RequirementRow.read

/-- What the console keeps of the answer to its request for /api/admin/whoami: nothing, unless it was
answered well with a text of JSON.
-/
def unlock (response : JsonResponse) : Option WhoAmI :=
  if 200 ≤ response.status ∧ response.status < 300 then
    (response.body.bind fun body => Json.parse body.stringify).map WhoAmI.read
  else none

-----------------------------------------------------------------------------------------
-- What is offered
-----------------------------------------------------------------------------------------

structure ScopeRow where
  id : String
  summary : String
  held : Bool
  deriving DecidableEq, Repr

section

variable (whoami : Option WhoAmI)

/-- Every scope of the catalogue that was served, held or not. -/
def scopeRows : List ScopeRow :=
  (whoami.elim [] WhoAmI.catalogue).map fun entry =>
    { id := entry.id
      summary := entry.summary
      held := (whoami.elim [] WhoAmI.scopes).contains entry.id }

def canDo (scope : String) : Bool :=
  whoami.any fun served => served.scopes.contains scope

def isRoot : Bool :=
  whoami.any fun served => served.kind = "root"

/-- First match wins. A row whose pattern is no expression is passed over. -/
def requirementFor (method path : String) : Option String :=
  ((whoami.elim [] WhoAmI.requirements).find? fun row =>
    row.method = method ∧ (readRoute row.pattern).any (routeMatches · path)).map
      RequirementRow.requires

def canCall (method path : String) : Bool :=
  match requirementFor whoami method path with
  | none => false
  | some required =>
      if required = "authenticated" then whoami.isSome
      else if required = "root" then isRoot whoami
      else canDo whoami required

structure Sections where
  identity : Bool
  tenants : Bool
  audit : Bool
  settings : Bool
  credentials : Bool
  breakGlassNotice : Bool
  deriving DecidableEq, Repr

/-- The sections that are shown. Routine work is not done with the shared root credential. -/
def sectionsFor : Sections :=
  let routine := whoami.isSome && !isRoot whoami
  { identity := whoami.isSome
    tenants := routine && canCall whoami "GET" "/api/admin/tenants"
    audit := routine && canCall whoami "GET" "/api/admin/audit"
    settings := routine && canCall whoami "POST" "/api/admin/settings"
    credentials := canCall whoami "POST" "/api/admin/operators"
    breakGlassNotice := isRoot whoami }

/-- An id that stands for all tenants when the table is asked. -/
def PROBE_TENANT : String := "ten_0"

/-- A button on a tenant's row. One without a path is about the audit trail. -/
structure TenantAction where
  id : String
  label : String
  method : String
  path : Option String
  needsReason : Bool
  danger : Bool
  deriving DecidableEq, Repr

def TENANT_ACTIONS : List TenantAction :=
  [⟨"suspend", "Suspend", "POST", some "/suspend", true, true⟩,
    ⟨"resume", "Resume", "POST", some "/resume", false, false⟩,
    ⟨"credits", "Read credits", "GET", some "/credits", false, false⟩,
    ⟨"audit", "Audit trail", "GET", none, false, false⟩]

def actionPath (action : TenantAction) (tenantId : String) : String :=
  match action.path with
  | none => "/api/admin/audit"
  | some path => "/api/admin/tenants/" ++ tenantId ++ path

def tenantActions : List TenantAction :=
  TENANT_ACTIONS.filter fun action =>
    canCall whoami action.method (actionPath action PROBE_TENANT)

end

-----------------------------------------------------------------------------------------
-- What whoami serves is what is kept
-----------------------------------------------------------------------------------------

/-- A row of the table as it is served. -/
def requirementRow (route : Route AdminRequirement) : RequirementRow where
  method := route.method
  pattern := routeSource route.pieces
  requires := route.leads.text

/-- What whoami says of a principal. -/
def served (principal : OperatorPrincipal) : WhoAmI where
  kind := principal.kind.text
  scopes := principal.scopes.map OperatorScope.id
  catalogue := ALL_SCOPES.map fun scope => { id := scope.id, summary := scope.summary }
  requirements := ADMIN_REQUIREMENTS.map requirementRow

theorem reads_nullable (text : Option String) : Json.Reads (nullable text) := by
  cases text with
  | none => exact Json.reads_null
  | some text => exact Json.reads_str text

theorem reads_scopeList (scopes : List OperatorScope) : Json.Reads (scopeList scopes) := by
  refine Json.reads_array fun item member => ?_
  obtain ⟨scope, _, rfl⟩ := List.mem_map.mp member
  exact Json.reads_str scope.id

/-- An object of texts. -/
theorem reads_textObject (entries : List (String × String))
    : Json.Reads (.object (entries.map fun entry => (entry.1, .str entry.2))) := by
  refine Json.reads_object fun entry member => ?_
  obtain ⟨⟨key, text⟩, _, rfl⟩ := List.mem_map.mp member
  exact Json.reads_str text

theorem reads_whoami {principal : OperatorPrincipal} {body : Json}
    (isBody : (whoami principal).body = some body)
    : Json.Reads body := by
  cases isBody
  refine Json.reads_object fun entry member => ?_
  simp only [List.mem_cons, List.not_mem_nil, or_false] at member
  rcases member with rfl | rfl | rfl | rfl | rfl | rfl | rfl
  · exact Json.reads_str _
  · exact Json.reads_str _
  · exact reads_nullable _
  · exact reads_nullable _
  · exact reads_scopeList _
  · refine Json.reads_array fun item isItem => ?_
    obtain ⟨scope, _, rfl⟩ := List.mem_map.mp isItem
    exact reads_textObject [("id", scope.id), ("summary", scope.summary)]
  · refine Json.reads_array fun item isItem => ?_
    obtain ⟨route, _, rfl⟩ := List.mem_map.mp isItem
    exact reads_textObject [("method", route.method),
      ("pattern", routeSource route.pieces), ("requires", route.leads.text)]

theorem scopes_read (scopes : List OperatorScope)
    : (scopes.map fun scope => Json.str scope.id).filterMap Json.text?
      = scopes.map OperatorScope.id := by
  rw [List.filterMap_map, ← List.filterMap_eq_map]
  rfl

theorem catalogue_read (catalogue : List OperatorScope)
    : (catalogue.map fun scope =>
        Json.object [("id", .str scope.id), ("summary", .str scope.summary)]).filterMap
          ScopeCatalogueEntry.read
      = catalogue.map fun scope => { id := scope.id, summary := scope.summary } := by
  rw [List.filterMap_map, ← List.filterMap_eq_map]
  refine List.filterMap_congr fun scope _ => ?_
  simp [ScopeCatalogueEntry.read, textField, Json.field?, Json.text?]

theorem requirements_read (table : List (Route AdminRequirement))
    : (table.map requirementView).filterMap RequirementRow.read = table.map requirementRow := by
  rw [List.filterMap_map, ← List.filterMap_eq_map]
  refine List.filterMap_congr fun route _ => ?_
  simp [RequirementRow.read, requirementView, requirementRow, routeSource, textField, Json.field?,
    Json.text?]

/-- The console keeps what whoami says of the principal. -/
theorem unlock_whoami (principal : OperatorPrincipal)
    : unlock (whoami principal) = some (served principal) := by
  have isOk : (whoami principal).status = 200 := rfl
  obtain ⟨body, isBody⟩ : ∃ body, (whoami principal).body = some body := ⟨_, rfl⟩
  have readBack : ((whoami principal).body.bind fun body => Json.parse body.stringify)
      = (whoami principal).body := by
    rw [isBody, Option.bind_some, Json.parse_stringify (reads_whoami isBody)]
  rw [unlock, if_pos (by omega), readBack]
  have isRead : ((whoami principal).body.map WhoAmI.read) = some
      { kind := principal.kind.text
        scopes := (principal.scopes.map fun scope => Json.str scope.id).filterMap Json.text?
        catalogue := (ALL_SCOPES.map fun scope =>
          Json.object [("id", .str scope.id), ("summary", .str scope.summary)]).filterMap
            ScopeCatalogueEntry.read
        requirements := (ADMIN_REQUIREMENTS.map requirementView).filterMap RequirementRow.read } := by
    simp [whoami, json, WhoAmI.read, textField, listField, Json.field?, Json.text?, scopeList]
  rw [isRead, scopes_read, catalogue_read, requirements_read]
  rfl

-----------------------------------------------------------------------------------------
-- The same table
-----------------------------------------------------------------------------------------

theorem requirements_plain
    : (ADMIN_REQUIREMENTS.all fun route => route.pieces.all RoutePiece.plain) = true := by
  decide +kernel

variable (principal : OperatorPrincipal) (method path : String)

/-- The console finds the requirement that the gate finds. -/
theorem requirementFor_served
    : requirementFor (some (served principal)) method path
      = (adminRequirement method path).map AdminRequirement.text := by
  have sameRow : ∀ route ∈ ADMIN_REQUIREMENTS,
      decide ((requirementRow route).method = method
        ∧ (readRoute (requirementRow route).pattern).any (routeMatches · path) = true)
      = route.serves method path := by
    intro route member
    have plain : ∀ piece ∈ route.pieces, piece.plain = true :=
      List.all_eq_true.mp (List.all_eq_true.mp requirements_plain route member)
    have readsBack : (readRoute (requirementRow route).pattern).any (routeMatches · path)
        = routeMatches route.pieces path := by
      have matched := readRoute_matches plain path
      cases isRead : readRoute (routeSource route.pieces) with
      | none => simp [isRead] at matched
      | some pieces =>
          rw [isRead, Option.map_some, Option.some_inj] at matched
          rw [requirementRow, isRead, Option.any_some, matched]
    rw [readsBack]
    rfl
  have found := List.find?_congr sameRow
  rw [requirementFor, Option.elim_some, served, List.find?_map]
  simp only [Function.comp_def]
  rw [found, adminRequirement, Route.first, Option.map_map, Option.map_map]
  rfl

theorem isRoot_served : isRoot (some (served principal)) = decide (principal.kind = .root) := by
  cases isKind : principal.kind <;> simp [isRoot, served, isKind, PrincipalKind.text]

/-- A scope is held in the console exactly if the principal has it. -/
theorem canDo_served (scope : OperatorScope)
    : (principal.scopes.map OperatorScope.id).contains scope.id = hasScope principal scope := by
  rw [Bool.eq_iff_iff, List.contains_iff_mem, hasScope, List.contains_iff_mem, List.mem_map]
  constructor
  · intro h
    obtain ⟨held, isHeld, same⟩ := h
    rwa [← OperatorScope.id_injective held scope same]
  · exact fun isHeld => ⟨scope, isHeld, rfl⟩

/-- No scope has the name of another requirement. -/
theorem OperatorScope.id_apart (scope : OperatorScope)
    : scope.id ≠ "authenticated" ∧ scope.id ≠ "root" := by
  cases scope <;> decide

/-- A call is offered exactly if the gate has no reason to refuse it. -/
theorem canCall_served
    : canCall (some (served principal)) method path
      = (refusal? principal (adminRequirement method path)).isNone := by
  rw [canCall, requirementFor_served]
  cases adminRequirement method path with
  | none => rfl
  | some required =>
      cases required with
      | scope scope =>
          obtain ⟨noAuthenticated, noRoot⟩ := scope.id_apart
          simp only [Option.map_some, AdminRequirement.text, if_neg noAuthenticated, if_neg noRoot,
            canDo, Option.any_some, served, canDo_served, refusal?]
          cases hasScope principal scope <;> rfl
      | authenticated => rfl
      | root =>
          have apart : "root" ≠ "authenticated" := by decide
          simp only [Option.map_some, AdminRequirement.text, if_neg apart, if_true, isRoot_served,
            refusal?]
          by_cases kind : principal.kind = .root <;> simp [kind]

-----------------------------------------------------------------------------------------
-- The probe
-----------------------------------------------------------------------------------------

/-- What a route of the table requires. -/
theorem adminRequirement_of_mem {route : Route AdminRequirement}
    (member : route ∈ ADMIN_REQUIREMENTS) {path : String}
    (matched : routeMatches route.pieces path = true)
    : adminRequirement route.method path = some route.leads :=
  requirements_unambiguous.first_eq_some.mpr ⟨route, member, by simp [Route.serves, matched], rfl⟩

theorem adminRequirement_text {method chars : String} {requires : AdminRequirement}
    (member : ⟨method, [.text chars], requires⟩ ∈ ADMIN_REQUIREMENTS)
    : adminRequirement method chars = some requires :=
  adminRequirement_of_mem member (routeMatches_text chars)

/-- The id of a tenant: ten_ and a run of hexadecimal digits. -/
def IsTenantId (tenantId : String) : Prop :=
  ∃ run : String, tenantId = "ten_" ++ run ∧ run.toList ≠ []
    ∧ ∀ c ∈ run.toList, isLowerHex c = true

theorem probe_isTenantId : IsTenantId PROBE_TENANT :=
  ⟨"0", rfl, List.isEmpty_eq_false_iff.mp rfl, List.all_eq_true.mp rfl⟩

/-- The path of a tenant, under a route for tenants. -/
theorem routeMatches_tenantRoute {tenantId : String} (isId : IsTenantId tenantId)
    {after path full : String} (spelled : full = after ++ path) {rest : List RoutePiece}
    (matched : routeMatches rest path = true)
    : routeMatches (tenantRoute after ++ rest) ("/api/admin/tenants/" ++ tenantId ++ full) = true
    := by
  obtain ⟨run, rfl, written, digits⟩ := isId
  have front : "/api/admin/tenants/ten_" = "/api/admin/tenants/" ++ "ten_" := by decide
  have whole : "/api/admin/tenants/" ++ ("ten_" ++ run) ++ full
      = "/api/admin/tenants/ten_" ++ run ++ (after ++ path) := by
    rw [front, spelled]
    simp only [String.append_assoc]
  have onParts := routeMatches_append
    (routeMatches_append (routeMatches_text "/api/admin/tenants/ten_")
      (routeMatches_hex written digits))
    (routeMatches_append (routeMatches_text after) matched)
  rw [whole]
  exact onParts

/-- The route that an action calls is one route of the table, whatever the tenant. -/
theorem action_route {action : TenantAction} (member : action ∈ TENANT_ACTIONS)
    : ∃ route ∈ ADMIN_REQUIREMENTS, route.method = action.method
      ∧ ∀ tenantId, IsTenantId tenantId
        → routeMatches route.pieces (actionPath action tenantId) = true := by
  simp only [TENANT_ACTIONS, List.mem_cons, List.not_mem_nil, or_false] at member
  rcases member with rfl | rfl | rfl | rfl
  · refine ⟨⟨"POST", tenantRoute "/" ++ [.either "suspend" "resume"], .scope .tenantsWrite⟩,
      by simp [ADMIN_REQUIREMENTS], rfl, fun tenantId isId => ?_⟩
    have spelled : "/suspend" = "/" ++ "suspend" := by decide
    exact routeMatches_tenantRoute isId spelled (routeMatches_either (.inl rfl))
  · refine ⟨⟨"POST", tenantRoute "/" ++ [.either "suspend" "resume"], .scope .tenantsWrite⟩,
      by simp [ADMIN_REQUIREMENTS], rfl, fun tenantId isId => ?_⟩
    have spelled : "/resume" = "/" ++ "resume" := by decide
    exact routeMatches_tenantRoute isId spelled (routeMatches_either (.inr rfl))
  · refine ⟨⟨"GET", tenantRoute "/credits", .scope .tenantsRead⟩, by simp [ADMIN_REQUIREMENTS], rfl,
      fun tenantId isId => ?_⟩
    have nothing : routeMatches [] "" = true := rfl
    exact routeMatches_tenantRoute isId (String.append_empty).symm nothing
  · exact ⟨⟨"GET", [.text "/api/admin/audit"], .scope .tenantsRead⟩, by simp [ADMIN_REQUIREMENTS],
      rfl, fun _ _ => routeMatches_text _⟩

/-- The probe is answered as every tenant is. -/
theorem adminRequirement_action {action : TenantAction} (member : action ∈ TENANT_ACTIONS)
    {tenantId : String} (isId : IsTenantId tenantId)
    : adminRequirement action.method (actionPath action tenantId)
      = adminRequirement action.method (actionPath action PROBE_TENANT) := by
  obtain ⟨route, isRoute, sameMethod, matched⟩ := action_route member
  rw [← sameMethod, adminRequirement_of_mem isRoute (matched tenantId isId),
    adminRequirement_of_mem isRoute (matched PROBE_TENANT probe_isTenantId)]

-----------------------------------------------------------------------------------------
-- What is shown
-----------------------------------------------------------------------------------------

/-- What a console shows that was unlocked by a principal. -/
structure Shows (principal : OperatorPrincipal) (whoami : Option WhoAmI) : Prop where
  /-- A request is offered exactly if it comes through to its handler, and refused otherwise. -/
  calls
    : ∀ {τ : Type} (platform : AdminPlatform) (rootSecret : Option String) (handlers : Handlers τ)
        (request : AdminRequest) (moment : AdminMoment) (presented : String)
        (found : Option OperatorCredential),
        resolveOperator platform.toPlatform rootSecret (toISOString moment.now) presented found
            = some principal
        → if canCall whoami request.method request.path then
            authorised platform rootSecret handlers request moment presented found
              = dispatch platform handlers request moment principal
          else
            ∃ refusal, refusal? principal (adminRequirement request.method request.path)
                = some refusal
              ∧ authorised platform rootSecret handlers request moment presented found
                = return refusal
  /-- A button is shown exactly if its request is offered, on whatever tenant's row. -/
  actions
    : ∀ action tenantId, IsTenantId tenantId
      → (action ∈ tenantActions whoami
        ↔ action ∈ TENANT_ACTIONS
          ∧ canCall whoami action.method (actionPath action tenantId) = true)
  /-- Root is shown the credentials and no routine work, and nobody else is shown them. -/
  sections
    : sectionsFor whoami =
        { identity := true
          tenants := principal.kind ≠ .root ∧ hasScope principal .tenantsRead
          audit := principal.kind ≠ .root ∧ hasScope principal .tenantsRead
          settings := principal.kind ≠ .root ∧ hasScope principal .platformSettings
          credentials := principal.kind = .root
          breakGlassNotice := principal.kind = .root }
  rows
    : scopeRows whoami = ALL_SCOPES.map fun scope =>
        { id := scope.id, summary := scope.summary, held := hasScope principal scope }

theorem sectionsFor_served
    : sectionsFor (some (served principal)) =
        { identity := true
          tenants := principal.kind ≠ .root ∧ hasScope principal .tenantsRead
          audit := principal.kind ≠ .root ∧ hasScope principal .tenantsRead
          settings := principal.kind ≠ .root ∧ hasScope principal .platformSettings
          credentials := principal.kind = .root
          breakGlassNotice := principal.kind = .root } := by
  have tenants : adminRequirement "GET" "/api/admin/tenants" = some (.scope .tenantsRead) :=
    adminRequirement_text (by simp [ADMIN_REQUIREMENTS])
  have audit : adminRequirement "GET" "/api/admin/audit" = some (.scope .tenantsRead) :=
    adminRequirement_text (by simp [ADMIN_REQUIREMENTS])
  have settings : adminRequirement "POST" "/api/admin/settings" = some (.scope .platformSettings) :=
    adminRequirement_text (by simp [ADMIN_REQUIREMENTS])
  have operators : adminRequirement "POST" "/api/admin/operators" = some .root :=
    adminRequirement_text (by simp [ADMIN_REQUIREMENTS])
  simp only [sectionsFor, canCall_served, isRoot_served, tenants, audit, settings, operators,
    refusal?]
  by_cases kind : principal.kind = .root
  · simp [kind]
  · cases hasScope principal .tenantsRead
    <;> cases hasScope principal .platformSettings
    <;> simp [kind]

/-- A console that was unlocked by a principal shows what the gate admits of that principal, to the
path: no button that is refused, and none missing that would come through.
-/
theorem console_shows_what_is_admitted (principal : OperatorPrincipal)
    : Shows principal (unlock (whoami principal)) := by
  rw [unlock_whoami]
  refine ⟨?_, ?_, sectionsFor_served principal, ?_⟩
  · intro τ platform rootSecret handlers request moment presented found resolved
    rw [canCall_served, authorised, resolved]
    dsimp only
    cases refusal? principal (adminRequirement request.method request.path) with
    | none => rfl
    | some refusal => exact ⟨refusal, rfl, rfl⟩
  · intro action tenantId isId
    rw [tenantActions, List.mem_filter]
    refine and_congr_right fun member => ?_
    rw [canCall_served, canCall_served, adminRequirement_action member isId]
  · have same : ∀ scope ∈ ALL_SCOPES,
        (served principal).scopes.contains scope.id = hasScope principal scope :=
      fun scope _ => canDo_served principal scope
    rw [scopeRows, Option.elim_some, Option.elim_some, served, List.map_map]
    exact List.map_congr_left fun scope member => by
      rw [Function.comp_apply, ← same scope member, served]

end ControlPlane.Operators
