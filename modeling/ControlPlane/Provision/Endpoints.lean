import ControlPlane.Kek.TokenCrypto
import ControlPlane.Library.JsonText
import ControlPlane.Store.Rows

/-! The shared endpoint pool. It is all or nothing: a pool covers every endpoint of the plan, and
what a provision stores of it is read back as it was.
-/

namespace ControlPlane.Provision

open ControlPlane.Kek (trim)
open ControlPlane.Library
open ControlPlane.Store

/-- How a capability of the plan is served. -/
inductive Backing
  | runpod (endpointVar : String)
  | door
  deriving DecidableEq, Repr

structure PlannedCapability where
  key : String
  label : String
  backing : Backing
  deriving DecidableEq, Repr

/-- PROVISION_PLAN, as far as a pool is checked against it. -/
def provisionPlan : List PlannedCapability :=
  [{ key := "backend"
     label := "Render (keyframes, video)"
     backing := .runpod "RUNPOD_ENDPOINT_ID" },
    { key := "upscale", label := "Video upscale", backing := .door },
    { key := "wan-train"
      label := "Cast LoRA training (Wan)"
      backing := .runpod "RUNPOD_WAN_TRAIN_ENDPOINT_ID" }]

structure PlannedEndpoint where
  key : String
  label : String
  endpointVar : String
  deriving DecidableEq, Repr

def endpointBackedPlan : List PlannedEndpoint :=
  provisionPlan.filterMap fun capability =>
    match capability.backing with
    | .runpod endpointVar => some ⟨capability.key, capability.label, endpointVar⟩
    | .door => none

/-- The keys of the capabilities that run on hardware of our own. -/
def vpcBackedKeys : List String :=
  (provisionPlan.filter fun capability => capability.backing = .door).map PlannedCapability.key

/-- One endpoint of a tenant. A stored row may carry no label and no name. -/
structure TenantEndpoint where
  key : String
  label : Option String
  id : String
  name : Option String
  endpointVar : String
  deriving DecidableEq, Repr

/-- A pool that covers the plan. -/
structure SharedRunPodPool where
  endpoints : List TenantEndpoint
  covers : endpoints.map TenantEndpoint.key = endpointBackedPlan.map PlannedEndpoint.key

/-- The text of a field, or an empty text. -/
def trimmedField (field : String) (entry : Json) : String :=
  trim (((entry.field? field).bind Json.text?).getD "")

/-- An object or an array: what typeof calls an object. -/
def isObject : Json → Bool
  | .object _ | .array _ => true
  | _ => false

/-- The pool entries of some endpoints of the plan, and the keys that have none. -/
def poolEntries (byKey : Json)
    : List PlannedEndpoint → Except String (List TenantEndpoint × List String)
  | [] => .ok ([], [])
  | spec :: rest =>
      match (byKey.field? spec.key).filter isObject with
      | none =>
          match poolEntries byKey rest with
          | .error detail => .error detail
          | .ok (endpoints, missing) => .ok (endpoints, spec.key :: missing)
      | some entry =>
          let id := trimmedField "id" entry
          let name := trimmedField "name" entry
          if id = "" ∨ name = "" then
            .error ("SHARED_RUNPOD_ENDPOINTS[\"" ++ spec.key
              ++ "\"] must carry a non-empty id AND name; the name is what lets reconciliation "
              ++ "recognise a pool endpoint and refuse to report it as orphaned debris, so it is "
              ++ "not optional")
          else
            match poolEntries byKey rest with
            | .error detail => .error detail
            | .ok (endpoints, missing) =>
                .ok ({ key := spec.key, label := spec.label, id := id, name := name,
                       endpointVar := spec.endpointVar } :: endpoints, missing)

/-- The first endpoint whose id an earlier one has, with the key of that earlier one. -/
def duplicateId : List TenantEndpoint → List TenantEndpoint → Option (String × TenantEndpoint)
  | _, [] => none
  | seen, endpoint :: rest =>
      match seen.find? fun earlier => earlier.id = endpoint.id with
      | some earlier => some (earlier.key, endpoint)
      | none => duplicateId (seen ++ [endpoint]) rest

/-- With nothing missing, the entries have the keys they were looked up under, by induction on
the plan.
-/
theorem poolEntries_keys {byKey : Json} {plan : List PlannedEndpoint}
    {endpoints : List TenantEndpoint} (found : poolEntries byKey plan = .ok (endpoints, []))
    : endpoints.map TenantEndpoint.key = plan.map PlannedEndpoint.key := by
  induction plan generalizing endpoints with
  | nil =>
      cases found
      rfl
  | cons spec rest ih =>
      unfold poolEntries at found
      split at found
      · split at found
        · exact nomatch found
        · exact absurd (congrArg Prod.snd (Except.ok.inj found)) (List.cons_ne_nil _ _)
      · dsimp only at found
        split at found
        · exact nomatch found
        · split at found
          · exact nomatch found
          · next later missing onRest =>
              obtain ⟨sameEndpoints, sameMissing⟩ := Prod.mk.inj (Except.ok.inj found)
              subst sameEndpoints sameMissing
              rw [List.map_cons, List.map_cons, ih onRest]

/-- Decide the pool from the parsed variable. -/
def poolOf (byKey : Json) : Except String SharedRunPodPool :=
  let named := match byKey with
    | .object members => (members.map Prod.fst).dedup
    | _ => []
  let vpcNamed := vpcBackedKeys.filter fun key => key ∈ named
  let unknown := named.filter fun key => key ∉ provisionPlan.map PlannedCapability.key
  match byKey with
  | .object _ =>
      if vpcNamed ≠ [] then
        .error ("SHARED_RUNPOD_ENDPOINTS names own-iron capability(ies): "
          ++ ", ".intercalate vpcNamed
          ++ ". These run on hardware we operate and are reached over Traefik HTTPS doors, not as "
          ++ "RunPod endpoints, so no endpoint id belongs here and the shared invoke key has no "
          ++ "access to one. Remove the key rather than pointing it at an endpoint the plane "
          ++ "cannot reach")
      else if unknown ≠ [] then
        .error ("SHARED_RUNPOD_ENDPOINTS names " ++ toString unknown.length
          ++ " key(s) that are in no provision plan: " ++ ", ".intercalate unknown
          ++ ". These are capabilities this plane does not have, most likely retired ones whose "
          ++ "pool entry outlived them. A pool entry the plane never reads is an operator "
          ++ "believing the pool covers something it does not, so it is refused rather than "
          ++ "dropped. Remove the key(s); the endpoint behind one may also be orphaned debris "
          ++ "worth reclaiming")
      else
        match found : poolEntries byKey endpointBackedPlan with
        | .error detail => .error detail
        | .ok (endpoints, missing) =>
            if complete : missing = [] then
              match duplicateId [] endpoints with
              | some (first, endpoint) =>
                  .error ("SHARED_RUNPOD_ENDPOINTS uses endpoint id " ++ endpoint.id
                    ++ " for both \"" ++ first ++ "\" and \"" ++ endpoint.key
                    ++ "\"; each plan key is a distinct endpoint, so this is a duplicated value "
                    ++ "rather than a pool")
              | none => .ok ⟨endpoints, poolEntries_keys (complete ▸ found)⟩
            else
              .error ("SHARED_RUNPOD_ENDPOINTS is missing " ++ toString missing.length ++ " of "
                ++ toString endpointBackedPlan.length ++ " endpoint-backed plan key(s): "
                ++ ", ".intercalate missing
                ++ ". A partial pool is refused rather than partially resolved: a tenant with "
                ++ "some capabilities pointed at nothing provisions green and fails at the first "
                ++ "render on the missing path")
  | _ => .error "SHARED_RUNPOD_ENDPOINTS must be a JSON object keyed by plan key"

/-- Parse the SHARED_RUNPOD_ENDPOINTS variable. What the runtime says of a text that is no JSON
is the runtime's.
-/
def parseSharedPool (syntaxError : String → String) (raw : Option String)
    : Except String SharedRunPodPool :=
  let trimmed := trim (raw.getD "")
  if trimmed = "" then .error "SHARED_RUNPOD_ENDPOINTS is not set"
  else
    match Json.parse trimmed with
    | none =>
        .error ("SHARED_RUNPOD_ENDPOINTS is not JSON: "
          ++ String.ofList ((syntaxError trimmed).toList.take 120))
    | some byKey => poolOf byKey

/-- A text member, where there is a text. -/
def textMember (key : String) (value : Option String) : List (String × Json) :=
  value.toList.map fun value => (key, .str value)

/-- The object that JSON.stringify prints of an endpoint. -/
def TenantEndpoint.toJson (endpoint : TenantEndpoint) : Json :=
  .object
    ([("key", .str endpoint.key)] ++ textMember "label" endpoint.label
      ++ [("id", .str endpoint.id)] ++ textMember "name" endpoint.name
      ++ [("endpointVar", .str endpoint.endpointVar)])

/-- An endpoint that is well formed enough to be wired into a studio. -/
def readEndpoint (entry : Json) : Option TenantEndpoint :=
  match (entry.field? "id").bind Json.text?, (entry.field? "key").bind Json.text?,
    (entry.field? "endpointVar").bind Json.text? with
  | some id, some key, some endpointVar =>
      some
        { key := key
          label := (entry.field? "label").bind Json.text?
          id := id
          name := (entry.field? "name").bind Json.text?
          endpointVar := endpointVar }
  | _, _, _ => none

/-- The endpoints of a stored list. What cannot be read is no endpoint. -/
def readEndpoints : Option String → List TenantEndpoint
  | none => []
  | some stored =>
      if stored = "" then []
      else
        match Json.parse stored with
        | some (.array entries) => entries.filterMap readEndpoint
        | _ => []

/-- The endpoint list as the provisioner stored it. -/
def readTenantEndpoints (tenant : Tenant) : List TenantEndpoint :=
  readEndpoints tenant.endpointsJson

/-- JSON.stringify of an endpoint list. -/
def stringifyEndpoints (endpoints : List TenantEndpoint) : String :=
  (Json.array (endpoints.map TenantEndpoint.toJson)).stringify

/-- An endpoint is read back from its object, whatever optional fields it has. -/
theorem readEndpoint_toJson (endpoint : TenantEndpoint)
    : readEndpoint endpoint.toJson = some endpoint := by
  obtain ⟨key, label, id, name, endpointVar⟩ := endpoint
  cases label <;> cases name <;> rfl

/-- An endpoint's object is read back from its text. -/
theorem reads_toJson (endpoint : TenantEndpoint) : Json.Reads endpoint.toJson := by
  refine Json.reads_object fun entry member => ?_
  obtain ⟨value, isText⟩ : ∃ value, entry.2 = .str value := by
    simp only [textMember, List.mem_append, List.mem_singleton, List.mem_map] at member
    rcases member with (((isKey | ⟨value, _, isLabel⟩) | isId) | ⟨value, _, isName⟩) | isVar
    · exact ⟨endpoint.key, congrArg Prod.snd isKey⟩
    · exact ⟨value, (congrArg Prod.snd isLabel).symm⟩
    · exact ⟨endpoint.id, congrArg Prod.snd isId⟩
    · exact ⟨value, (congrArg Prod.snd isName).symm⟩
    · exact ⟨endpoint.endpointVar, congrArg Prod.snd isVar⟩
  rw [isText]
  exact Json.reads_str value

/-- A stored endpoint list is read back as it was. -/
@[simp] theorem readEndpoints_stringify (endpoints : List TenantEndpoint)
    : readEndpoints (some (stringifyEndpoints endpoints)) = endpoints := by
  have parsed : Json.parse (stringifyEndpoints endpoints)
      = some (.array (endpoints.map TenantEndpoint.toJson)) := by
    refine Json.parse_stringify (Json.reads_array fun item member => ?_)
    obtain ⟨endpoint, _, isItem⟩ := List.mem_map.mp member
    exact isItem ▸ reads_toJson endpoint
  have notEmpty : stringifyEndpoints endpoints ≠ "" := by
    intro empty
    rw [empty] at parsed
    exact nomatch parsed
  simp only [readEndpoints, if_neg notEmpty, parsed, List.filterMap_map]
  refine (List.filterMap_congr fun endpoint _ => readEndpoint_toJson endpoint).trans ?_
  exact List.filterMap_some

/-- A pool has an endpoint, since the plan has one. -/
theorem SharedRunPodPool.endpoints_ne_nil (pool : SharedRunPodPool) : pool.endpoints ≠ [] := by
  intro none
  have covers := pool.covers
  rw [none] at covers
  exact nomatch covers

end ControlPlane.Provision
