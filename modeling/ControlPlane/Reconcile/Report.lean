import ControlPlane.Library.WriteMaps
import ControlPlane.Provision.Endpoints
import ControlPlane.Store.Ownership
import ControlPlane.Store.TenantResources

/-! The RunPod reconciliation: the tenant records compared with a snapshot of one account. It
writes nothing. What it lists is what an operator deletes by hand.
-/

namespace ControlPlane.Reconcile

open ControlPlane.Library
open ControlPlane.Provision
open ControlPlane.Store

/-- One RunPod resource as both list endpoints report it. -/
structure RunPodResource where
  id : String
  name : String
  deriving DecidableEq, Repr

/-- A snapshot of one RunPod account, gathered by an operator. -/
structure RunPodInventory where
  accountLabel : String
  readAt : String
  complete : Bool
  endpoints : List RunPodResource
  templates : List RunPodResource
  deriving DecidableEq, Repr

/-- The rows the plane read, and whether these were all of them. -/
structure TenantCensus where
  tenants : List Tenant
  complete : Bool
  deriving DecidableEq, Repr

/-- What the reconciliation reads of a shared pool. -/
structure PoolExclusion where
  ids : List String
  names : List String
  deriving DecidableEq, Repr

/-- The ids and the names a pool is recognised by. -/
def sharedPoolExclusion (pool : SharedRunPodPool) : PoolExclusion where
  ids := pool.endpoints.map TenantEndpoint.id
  names := pool.endpoints.filterMap TenantEndpoint.name

inductive DriftKind
  | recordEndpointMissing
  | recordEndpointRenamed
  | recordTemplateMissing
  | orphanEndpoint
  | orphanTemplate
  | recordUnreadable
  deriving DecidableEq, Repr

inductive DriftLayer
  | endpoint
  | template
  | record
  deriving DecidableEq, Repr

inductive UnprovenReason
  | inventoryIncomplete
  | tenantCensusIncomplete
  deriving DecidableEq, Repr

/-- Proven: the census a finding depends on was whole. -/
inductive Confidence
  | proven
  | unproven (reason : UnprovenReason)
  deriving DecidableEq, Repr

structure DriftFinding where
  kind : DriftKind
  layer : DriftLayer
  confidence : Confidence
  tenantId : String
  tenantSlug : String
  tenantStatus : TenantLifecycle
  resourceId : Option String
  resourceName : Option String
  endpointKey : Option String
  detail : String
  deriving DecidableEq, Repr

inductive Verdict
  | clean
  | drift
  | unproven
  deriving DecidableEq, Repr

structure TenantVerdict where
  tenantId : String
  slug : String
  status : TenantLifecycle
  endpointsRecorded : Nat
  endpointsPresent : Nat
  templatesPresent : Nat
  findings : Nat
  verdict : Verdict
  deriving DecidableEq, Repr

structure ReportCensus where
  tenants : Nat
  tenantsComplete : Bool
  endpoints : Nat
  templates : Nat
  inventoryComplete : Bool
  deriving DecidableEq, Repr

structure Unattributed where
  endpoints : List RunPodResource
  templates : List RunPodResource
  deriving DecidableEq, Repr

structure ReconcileReport where
  accountLabel : String
  readAt : String
  census : ReportCensus
  verdict : Verdict
  tenants : List TenantVerdict
  findings : List DriftFinding
  unattributed : Unattributed
  deriving DecidableEq, Repr

--------------------------------------------------------------------------------
-- Records
--------------------------------------------------------------------------------

structure RecordedEndpoint where
  key : String
  id : String
  name : String
  deriving DecidableEq, Repr

/-- A row whose resources are gone. A row that is still deleting owns them. -/
def isTornDown (tenant : Tenant) : Bool :=
  tenant.status = .deleted

/-- The entries of a stored list, up to the first that carries no id. -/
def recordedEndpoints : List Json → Except String (List RecordedEndpoint)
  | [] => .ok []
  | entry :: later =>
      match ((entry.field? "id").bind Json.text?).filter (· ≠ "") with
      | none => .error "an endpoints_json entry carries no id"
      | some id =>
          match recordedEndpoints later with
          | .error detail => .error detail
          | .ok endpoints =>
              .ok ({ key := ((entry.field? "key").bind Json.text?).getD ""
                     id := id
                     name := ((entry.field? "name").bind Json.text?).getD "" } :: endpoints)

/-- The endpoints a row records. What the runtime says of a text that is no JSON is the
runtime's.
-/
def parseRecordedEndpoints (syntaxError : String → String) (tenant : Tenant)
    : Except String (List RecordedEndpoint) :=
  match tenant.endpointsJson.filter (· ≠ "") with
  | none => .ok []
  | some stored =>
      match Json.parse stored with
      | none =>
          .error ("endpoints_json is not JSON: "
            ++ String.ofList ((syntaxError stored).toList.take 120))
      | some (.array entries) => recordedEndpoints entries
      | some _ => .error "endpoints_json is not an array"

/-- RETIRED_ENDPOINT_KEYS: keys that are in no plan and whose endpoints outlive it. -/
def retiredEndpointKeys : List String := ["lipsync", "audio-upscale"]

def tenantEndpointName (slug key : String) : String := "vivijure-" ++ slug ++ "-" ++ key

/-- A text, unless it is empty. -/
def orElse (text fallback : String) : String :=
  if text = "" then fallback else text

/-- A text, unless it is empty: null then. -/
def orNull (text : String) : Option String :=
  if text = "" then none else some text

/-- The name a recorded endpoint and its template go by. -/
def expectedName (tenant : Tenant) (recorded : RecordedEndpoint) : String :=
  orElse recorded.name (tenantEndpointName tenant.slug recorded.key)

--------------------------------------------------------------------------------
-- The pass over the rows
--------------------------------------------------------------------------------

/-- A record, with the row it stands on. -/
structure Claim where
  tenant : Tenant
  recorded : RecordedEndpoint
  deriving DecidableEq, Repr

/-- A row and the key of one of its names. -/
structure NameOwner where
  tenant : Tenant
  key : String
  deriving DecidableEq, Repr

/-- The names the naming function makes for the rows that own endpoints. -/
def owningTenantByName (census : TenantCensus) : WriteMap String NameOwner :=
  let attributableKeys := provisionPlan.map PlannedCapability.key ++ retiredEndpointKeys
  WriteMap.empty.setAll
    ((census.tenants.filter fun tenant => readRunPodMode tenant.runpodMode ≠ .shared).flatMap
      fun tenant => attributableKeys.map fun key =>
        (tenantEndpointName tenant.slug key, ⟨tenant, key⟩))

/-- What the pass over the rows has gathered. -/
structure Gathered where
  findings : List DriftFinding
  verdicts : List TenantVerdict
  claimedEndpointIds : WriteMap String Claim
  liveNames : WriteMap String Claim

/-- What the pass over one row's records has counted. -/
structure Counted where
  present : Nat := 0
  templatesPresent : Nat := 0
  tenantFindings : Nat := 0
  deriving DecidableEq, Repr

section Snapshot

variable (inventory : RunPodInventory)

def endpointsById : WriteMap String RunPodResource :=
  WriteMap.empty.setAll (inventory.endpoints.map fun endpoint => (endpoint.id, endpoint))

def templatesByName : WriteMap String RunPodResource :=
  WriteMap.empty.setAll (inventory.templates.map fun template => (template.name, template))

def absenceConfidence : Confidence :=
  if inventory.complete then .proven else .unproven .inventoryIncomplete

/-- A finding about a row. -/
def rowFinding (kind : DriftKind) (layer : DriftLayer) (confidence : Confidence)
    (tenant : Tenant) (resourceId resourceName endpointKey : Option String) (detail : String)
    : DriftFinding where
  kind := kind
  layer := layer
  confidence := confidence
  tenantId := tenant.id
  tenantSlug := tenant.slug
  tenantStatus := tenant.status
  resourceId := resourceId
  resourceName := resourceName
  endpointKey := endpointKey
  detail := detail

/-- What is said of a recorded endpoint that is gone, or goes by another name. -/
def endpointFindings (tenant : Tenant) (recorded : RecordedEndpoint) : List DriftFinding :=
  match (endpointsById inventory).get? recorded.id with
  | none =>
      [rowFinding .recordEndpointMissing .endpoint (absenceConfidence inventory) tenant
        (some recorded.id) (orNull recorded.name) (orNull recorded.key)
        ("the record names endpoint " ++ recorded.id ++ " (" ++ orElse recorded.key "unkeyed"
          ++ ") and the " ++ inventory.accountLabel
          ++ " account does not have it: this tenant cannot render that step")]
  | some live =>
      if recorded.name ≠ "" ∧ live.name ≠ recorded.name then
        [rowFinding .recordEndpointRenamed .endpoint .proven tenant
          (some recorded.id) (some live.name) (orNull recorded.key)
          ("endpoint " ++ recorded.id ++ " exists as \"" ++ live.name
            ++ "\" but the record calls it \"" ++ recorded.name
            ++ "\": provisioning adopts BY NAME, so a re-provision would build a second one")]
      else []

/-- What is said of a recorded endpoint whose template is gone. -/
def templateFindings (tenant : Tenant) (recorded : RecordedEndpoint) : List DriftFinding :=
  if (templatesByName inventory).has (expectedName tenant recorded) then []
  else
    [rowFinding .recordTemplateMissing .template (absenceConfidence inventory) tenant
      none (some (expectedName tenant recorded)) (orNull recorded.key)
      ("no template named \"" ++ expectedName tenant recorded ++ "\" in the "
        ++ inventory.accountLabel
        ++ " account: a re-provision has nowhere to write the fresh R2 credential of this "
        ++ "tenant and refuses (409)")]

/-- One recorded endpoint of a row that was read. -/
def reconcileRecorded (tenant : Tenant) (state : Gathered × Counted)
    (recorded : RecordedEndpoint)
    : Gathered × Counted :=
  let (gathered, counted) := state
  let claimed :=
    { gathered with
      claimedEndpointIds := gathered.claimedEndpointIds.set recorded.id ⟨tenant, recorded⟩
      liveNames :=
        if isTornDown tenant = false ∧ recorded.name ≠ "" then
          gathered.liveNames.set recorded.name ⟨tenant, recorded⟩
        else gathered.liveNames }
  let seen :=
    { counted with
      present :=
        if (endpointsById inventory).has recorded.id then counted.present + 1
        else counted.present
      templatesPresent :=
        if (templatesByName inventory).has (expectedName tenant recorded) then
          counted.templatesPresent + 1
        else counted.templatesPresent }
  -- A row that is torn down points at nothing: what survived of it is an orphan below.
  if isTornDown tenant then (claimed, seen)
  else
    let found := endpointFindings inventory tenant recorded
      ++ templateFindings inventory tenant recorded
    ({ claimed with findings := claimed.findings ++ found },
      { seen with tenantFindings := seen.tenantFindings + found.length })

variable (census : TenantCensus)

/-- The verdict of a row nothing was found about. -/
def verdictWithoutFindings : Verdict :=
  if inventory.complete ∧ census.complete then .clean else .unproven

/-- One row. A pooled row records the pool and owns nothing, so nothing is asked about it. -/
def reconcileTenant (syntaxError : String → String) (gathered : Gathered) (tenant : Tenant)
    : Gathered :=
  let parsed := parseRecordedEndpoints syntaxError tenant
  if readRunPodMode tenant.runpodMode = .shared then
    { gathered with
      verdicts := gathered.verdicts ++
        [{ tenantId := tenant.id
           slug := tenant.slug
           status := tenant.status
           endpointsRecorded := (parsed.toOption.getD []).length
           endpointsPresent := 0
           templatesPresent := 0
           findings := 0
           verdict := verdictWithoutFindings inventory census }] }
  else
    match parsed with
    | .error detail =>
        { gathered with
          findings := gathered.findings ++
            [rowFinding .recordUnreadable .record .proven tenant none none none detail]
          verdicts := gathered.verdicts ++
            [{ tenantId := tenant.id
               slug := tenant.slug
               status := tenant.status
               endpointsRecorded := 0
               endpointsPresent := 0
               templatesPresent := 0
               findings := 1
               verdict := .drift }] }
    | .ok endpoints =>
        let (gathered, counted) :=
          endpoints.foldl (reconcileRecorded inventory tenant) (gathered, {})
        { gathered with
          verdicts := gathered.verdicts ++
            [{ tenantId := tenant.id
               slug := tenant.slug
               status := tenant.status
               endpointsRecorded := endpoints.length
               endpointsPresent := counted.present
               templatesPresent := counted.templatesPresent
               findings := counted.tenantFindings
               verdict :=
                if counted.tenantFindings > 0 then .drift
                else verdictWithoutFindings inventory census }] }

/-- The pass over all rows, in the order of the census. -/
def gather (syntaxError : String → String) : Gathered :=
  census.tenants.foldl (reconcileTenant inventory census syntaxError)
    ⟨[], [], WriteMap.empty, WriteMap.empty⟩

--------------------------------------------------------------------------------
-- The passes over the snapshot
--------------------------------------------------------------------------------

/-- What becomes of a resource of the snapshot. -/
inductive Attribution
  | inUse
  | unattributed
  | orphan (finding : DriftFinding)
  deriving DecidableEq, Repr

def Attribution.finding? : Attribution → Option DriftFinding
  | .orphan finding => some finding
  | .inUse | .unattributed => none

def orphanConfidence : Confidence :=
  if census.complete then .proven else .unproven .tenantCensusIncomplete

variable (pool : PoolExclusion) (gathered : Gathered)

/-- The finding that an endpoint outlived the row that claims it. -/
def survivor (endpoint : RunPodResource) (claim : Claim) (named : Option NameOwner)
    : DriftFinding :=
  rowFinding .orphanEndpoint .endpoint .proven claim.tenant (some endpoint.id)
    (some endpoint.name)
    ((orNull claim.recorded.key).or (named.bind fun named => orNull named.key))
    ("endpoint survives on the " ++ inventory.accountLabel ++ " account after tenant "
      ++ claim.tenant.slug
      ++ " was torn down (the plane holds no credential that could delete it), and its TEMPLATE "
      ++ "will still be there after the endpoint is deleted")

/-- The finding that an endpoint has a row's name and is on no row. -/
def namesake (endpoint : RunPodResource) (named : NameOwner) : DriftFinding :=
  rowFinding .orphanEndpoint .endpoint (orphanConfidence census) named.tenant
    (some endpoint.id) (some endpoint.name) (orNull named.key)
    ("endpoint is named for tenant " ++ named.tenant.slug
      ++ " but no record names this id; do not assume it is disposable until a record is found "
      ++ "or ruled out")

def attributeEndpoint (endpoint : RunPodResource) : Attribution :=
  -- The pool comes first, so that no row decides the fate of an endpoint of the plane.
  if endpoint.id ∈ pool.ids ∨ endpoint.name ∈ pool.names then .inUse
  else
    let named := (owningTenantByName census).get? endpoint.name
    match gathered.claimedEndpointIds.get? endpoint.id with
    | some claim =>
        if isTornDown claim.tenant then .orphan (survivor inventory endpoint claim named)
        else .inUse
    | none =>
        match named with
        | some named => .orphan (namesake census endpoint named)
        | none => .unattributed

/-- The finding that a template has a row's name and no live record under it. -/
def leftover (template : RunPodResource) (named : NameOwner) : DriftFinding :=
  let { tenant, key } := named
  let halfBuilt := isTornDown tenant = false ∧ tenant.endpointsJson = none
  rowFinding .orphanTemplate .template (orphanConfidence census) tenant
    (some template.id) (some template.name) (some key)
    (if halfBuilt then
      "template exists for tenant " ++ tenant.slug ++ " (" ++ tenant.status.text
        ++ ") whose record names no endpoints at all: a provision that died between the "
        ++ "template and the endpoint"
    else
      "template survives on the " ++ inventory.accountLabel
        ++ " account with no live endpoint record for tenant " ++ tenant.slug ++ " ("
        ++ tenant.status.text
        ++ "): this is the SECOND debris layer, the one that stays invisible until the "
        ++ "endpoints are cleared")

def attributeTemplate (template : RunPodResource) : Attribution :=
  if template.name ∈ pool.names ∨ gathered.liveNames.has template.name then .inUse
  else
    match (owningTenantByName census).get? template.name with
    | some named => .orphan (leftover inventory census template named)
    | none => .unattributed

end Snapshot

/-- Compare the tenant records with a snapshot and report the drift. -/
def reconcileRunPod (syntaxError : String → String) (census : TenantCensus)
    (inventory : RunPodInventory) (sharedPool : Option PoolExclusion)
    : ReconcileReport :=
  let pool := sharedPool.getD ⟨[], []⟩
  let gathered := gather inventory census syntaxError
  let endpointFate := attributeEndpoint inventory census pool gathered
  let templateFate := attributeTemplate inventory census pool gathered
  let findings := gathered.findings
    ++ inventory.endpoints.filterMap (fun endpoint => (endpointFate endpoint).finding?)
    ++ inventory.templates.filterMap (fun template => (templateFate template).finding?)
  { accountLabel := inventory.accountLabel
    readAt := inventory.readAt
    census :=
      { tenants := census.tenants.length
        tenantsComplete := census.complete
        endpoints := inventory.endpoints.length
        templates := inventory.templates.length
        inventoryComplete := inventory.complete }
    verdict :=
      if findings.any fun finding => finding.confidence = .proven then .drift
      else if (inventory.complete ∧ census.complete) ∧ findings = [] then .clean
      else .unproven
    tenants := gathered.verdicts
    findings := findings
    unattributed :=
      { endpoints := inventory.endpoints.filter fun endpoint =>
          endpointFate endpoint = .unattributed
        templates := inventory.templates.filter fun template =>
          templateFate template = .unattributed } }

end ControlPlane.Reconcile
