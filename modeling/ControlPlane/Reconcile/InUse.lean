import ControlPlane.Reconcile.Report

/-! Which resources of a snapshot the reconciliation disowns, and when none of them is in use.
-/

namespace ControlPlane.Reconcile

open ControlPlane.Library
open ControlPlane.Provision
open ControlPlane.Store

section Records

variable (syntaxError : String → String)

/-- The endpoints of a row that can be read and is not pooled. -/
def ownRecords (tenant : Tenant) : List RecordedEndpoint :=
  if readRunPodMode tenant.runpodMode = .shared then []
  else (parseRecordedEndpoints syntaxError tenant).toOption.getD []

/-- A row's own record of an endpoint id. -/
def RecordsId (id : String) (tenant : Tenant) : Prop :=
  ∃ recorded ∈ ownRecords syntaxError tenant, recorded.id = id

/-- The claim a record writes. -/
def claimWrite (tenant : Tenant) (recorded : RecordedEndpoint) : List (String × Claim) :=
  [(recorded.id, ⟨tenant, recorded⟩)]

/-- The name a record keeps alive, if its row is not torn down and it has one. -/
def liveNameWrite (tenant : Tenant) (recorded : RecordedEndpoint) : List (String × Claim) :=
  if isTornDown tenant = false ∧ recorded.name ≠ "" then [(recorded.name, ⟨tenant, recorded⟩)]
  else []

/-- The claims a row writes. -/
def claimWrites (tenant : Tenant) : List (String × Claim) :=
  (ownRecords syntaxError tenant).flatMap (claimWrite tenant)

/-- The names a row keeps alive. -/
def liveNameWrites (tenant : Tenant) : List (String × Claim) :=
  (ownRecords syntaxError tenant).flatMap (liveNameWrite tenant)

/-- Every claim a row writes is on an id it records, and the row's own. -/
theorem of_mem_claimWrites {tenant : Tenant} {write : String × Claim}
    (member : write ∈ claimWrites syntaxError tenant)
    : RecordsId syntaxError write.1 tenant ∧ write.2.tenant = tenant := by
  obtain ⟨recorded, own, isWrite⟩ := List.mem_flatMap.mp member
  rw [List.mem_singleton.mp isWrite]
  exact ⟨⟨recorded, own, rfl⟩, rfl⟩

/-- Every name a row keeps alive is one it spells out, and the row is not torn down. -/
theorem of_mem_liveNameWrites {tenant : Tenant} {write : String × Claim}
    (member : write ∈ liveNameWrites syntaxError tenant)
    : isTornDown tenant = false ∧ write.1 ≠ ""
      ∧ ∃ recorded ∈ ownRecords syntaxError tenant, recorded.name = write.1 := by
  obtain ⟨recorded, own, isWrite⟩ := List.mem_flatMap.mp member
  unfold liveNameWrite at isWrite
  split at isWrite
  next alive =>
    rw [List.mem_singleton.mp isWrite]
    exact ⟨alive.1, alive.2, recorded, own, rfl⟩
  next => exact absurd isWrite List.not_mem_nil

end Records

--------------------------------------------------------------------------------
-- What the pass over the rows gathers
--------------------------------------------------------------------------------

/-- What the pass over the rows says is about records, never about orphans. -/
def AboutRecords (finding : DriftFinding) : Prop :=
  finding.kind ≠ .orphanEndpoint ∧ finding.kind ≠ .orphanTemplate

/-- What a part of the pass adds: claims, live names, and findings about records. -/
structure Adds (claims names : List (String × Claim)) (before after : Gathered) : Prop where
  claims : after.claimedEndpointIds = before.claimedEndpointIds.setAll claims
  names : after.liveNames = before.liveNames.setAll names
  findings : ∀ finding ∈ after.findings, finding ∈ before.findings ∨ AboutRecords finding

theorem Adds.nothing (gathered : Gathered) : Adds [] [] gathered gathered where
  claims := rfl
  names := rfl
  findings _ member := .inl member

/-- One part after another adds what both add. -/
theorem Adds.append {claims names laterClaims laterNames : List (String × Claim)}
    {before between after : Gathered} (first : Adds claims names before between)
    (second : Adds laterClaims laterNames between after)
    : Adds (claims ++ laterClaims) (names ++ laterNames) before after where
  claims := by rw [second.claims, first.claims, WriteMap.setAll_append]
  names := by rw [second.names, first.names, WriteMap.setAll_append]
  findings finding member := by
    rcases second.findings finding member with here | records
    · exact first.findings finding here
    · exact .inr records

/-- A loop adds what its steps add, by induction on the list it runs over. -/
theorem Adds.foldl {α σ : Type} (gathered : σ → Gathered) {step : σ → α → σ}
    {claims names : α → List (String × Claim)}
    (each : ∀ state item,
      Adds (claims item) (names item) (gathered state) (gathered (step state item)))
    (list : List α) (state : σ)
    : Adds (list.flatMap claims) (list.flatMap names) (gathered state)
        (gathered (list.foldl step state)) := by
  induction list generalizing state with
  | nil => exact Adds.nothing (gathered state)
  | cons item later ih =>
      have first := each state item
      have rest := ih (step state item)
      rw [List.flatMap_cons, List.flatMap_cons, List.foldl_cons]
      exact first.append rest

section Gathering

variable (inventory : RunPodInventory)

/-- What is found about one recorded endpoint is about records. -/
theorem found_aboutRecords (tenant : Tenant) (recorded : RecordedEndpoint)
    : ∀ finding ∈ endpointFindings inventory tenant recorded
          ++ templateFindings inventory tenant recorded,
        AboutRecords finding := by
  intro finding member
  rcases List.mem_append.mp member with ofEndpoint | ofTemplate
  · unfold endpointFindings at ofEndpoint
    split at ofEndpoint
    · rw [List.mem_singleton.mp ofEndpoint]
      exact ⟨nofun, nofun⟩
    · split at ofEndpoint
      · rw [List.mem_singleton.mp ofEndpoint]
        exact ⟨nofun, nofun⟩
      · exact absurd ofEndpoint List.not_mem_nil
  · unfold templateFindings at ofTemplate
    split at ofTemplate
    · exact absurd ofTemplate List.not_mem_nil
    · rw [List.mem_singleton.mp ofTemplate]
      exact ⟨nofun, nofun⟩

/-- One recorded endpoint is claimed, and its name kept alive. -/
theorem reconcileRecorded_adds (tenant : Tenant) (state : Gathered × Counted)
    (recorded : RecordedEndpoint)
    : Adds (claimWrite tenant recorded) (liveNameWrite tenant recorded) state.1
        (reconcileRecorded inventory tenant state recorded).1 := by
  have names : (if isTornDown tenant = false ∧ recorded.name ≠ "" then
        state.1.liveNames.set recorded.name ⟨tenant, recorded⟩
      else state.1.liveNames) = state.1.liveNames.setAll (liveNameWrite tenant recorded) := by
    unfold liveNameWrite
    split <;> rfl
  unfold reconcileRecorded
  cases gone : isTornDown tenant with
  | true =>
      rw [gone] at names
      exact ⟨rfl, names, fun finding member => .inl member⟩
  | false =>
      rw [gone] at names
      refine ⟨rfl, names, fun finding member => ?_⟩
      rcases List.mem_append.mp member with before | found
      · exact .inl before
      · exact .inr (found_aboutRecords inventory tenant recorded finding found)

variable (census : TenantCensus) (syntaxError : String → String)

/-- A row adds what its own records add. -/
theorem reconcileTenant_adds (gathered : Gathered) (tenant : Tenant)
    : Adds (claimWrites syntaxError tenant) (liveNameWrites syntaxError tenant) gathered
        (reconcileTenant inventory census syntaxError gathered tenant) := by
  unfold reconcileTenant claimWrites liveNameWrites ownRecords
  by_cases shared : readRunPodMode tenant.runpodMode = .shared
  · simp only [shared, if_true]
    exact ⟨rfl, rfl, fun finding member => .inl member⟩
  · simp only [shared, if_false]
    cases parseRecordedEndpoints syntaxError tenant with
    | error detail =>
        refine ⟨rfl, rfl, fun finding member => ?_⟩
        rcases List.mem_append.mp member with before | unreadable
        · exact .inl before
        · rw [List.mem_singleton.mp unreadable]
          exact .inr ⟨nofun, nofun⟩
    | ok records =>
        have added := Adds.foldl Prod.fst (reconcileRecorded_adds inventory tenant) records
          (gathered, {})
        exact ⟨added.claims, added.names, added.findings⟩

/-- The pass adds what the rows of the census add to nothing. -/
theorem gather_adds
    : Adds (census.tenants.flatMap (claimWrites syntaxError))
        (census.tenants.flatMap (liveNameWrites syntaxError))
        ⟨[], [], WriteMap.empty, WriteMap.empty⟩ (gather inventory census syntaxError) :=
  Adds.foldl id (reconcileTenant_adds inventory census syntaxError) census.tenants _

/-- The rows say nothing about orphans. -/
theorem gather_findings
    : ∀ finding ∈ (gather inventory census syntaxError).findings, AboutRecords finding := by
  intro finding member
  rcases (gather_adds inventory census syntaxError).findings finding member with none | records
  · exact absurd none List.not_mem_nil
  · exact records

/-- The last row that records an id is the one that claims it. -/
theorem gather_claim {before after : List Tenant} {last : Tenant} {id : String}
    (isCensus : census.tenants = before ++ last :: after) (records : RecordsId syntaxError id last)
    (others : ∀ tenant ∈ after, ¬ RecordsId syntaxError id tenant)
    : ∃ claim, (gather inventory census syntaxError).claimedEndpointIds.get? id = some claim
        ∧ claim.tenant = last := by
  have written : ∃ write ∈ claimWrites syntaxError last, write.1 = id := by
    obtain ⟨recorded, own, isId⟩ := records
    exact ⟨_, List.mem_flatMap.mpr ⟨recorded, own, List.mem_singleton_self _⟩, isId⟩
  obtain ⟨first, claim, rest, isWrites, restOthers⟩ := WriteMap.last_write written
  have isWrite : (id, claim) ∈ claimWrites syntaxError last := by simp [isWrites]
  have ofLast : claim.tenant = last := (of_mem_claimWrites syntaxError isWrite).2
  have afterwards : ∀ write ∈ rest ++ after.flatMap (claimWrites syntaxError), write.1 ≠ id := by
    intro write member isKey
    rcases List.mem_append.mp member with here | there
    · exact restOthers write here isKey
    · obtain ⟨tenant, later, isWrite⟩ := List.mem_flatMap.mp there
      exact others tenant later (isKey ▸ (of_mem_claimWrites syntaxError isWrite).1)
  refine ⟨claim, ?_, ofLast⟩
  rw [(gather_adds inventory census syntaxError).claims, WriteMap.get?_setAll_empty]
  refine ⟨before.flatMap (claimWrites syntaxError) ++ first, _, ?_, afterwards⟩
  simp [isCensus, isWrites]

/-- A name is alive when a row that is not torn down records it. -/
theorem gather_liveNames {name : String} (named : name ≠ "")
    : (gather inventory census syntaxError).liveNames.has name
      ↔ ∃ tenant ∈ census.tenants, isTornDown tenant = false
          ∧ ∃ recorded ∈ ownRecords syntaxError tenant, recorded.name = name := by
  rw [(gather_adds inventory census syntaxError).names, WriteMap.has_setAll_empty]
  constructor
  · intro h
    obtain ⟨write, member, isName⟩ := h
    obtain ⟨tenant, isTenant, ofTenant⟩ := List.mem_flatMap.mp member
    obtain ⟨alive, _, recorded, own, spelled⟩ := of_mem_liveNameWrites syntaxError ofTenant
    exact ⟨tenant, isTenant, alive, recorded, own, spelled.trans isName⟩
  · intro h
    obtain ⟨tenant, isTenant, alive, recorded, own, isName⟩ := h
    have write : liveNameWrite tenant recorded = [(recorded.name, ⟨tenant, recorded⟩)] :=
      if_pos ⟨alive, isName ▸ named⟩
    refine ⟨(recorded.name, ⟨tenant, recorded⟩), ?_, isName⟩
    refine List.mem_flatMap.mpr ⟨tenant, isTenant, List.mem_flatMap.mpr ⟨recorded, own, ?_⟩⟩
    rw [write]
    exact List.mem_singleton_self _

end Gathering

--------------------------------------------------------------------------------
-- What the report disowns
--------------------------------------------------------------------------------

/-- The report lists an endpoint as an orphan, or as nobody's. -/
def ReconcileReport.DisownsEndpoint (report : ReconcileReport) (endpoint : RunPodResource)
    : Prop :=
  endpoint ∈ report.unattributed.endpoints
  ∨ ∃ finding ∈ report.findings,
      finding.kind = .orphanEndpoint ∧ finding.resourceId = some endpoint.id
      ∧ finding.resourceName = some endpoint.name

/-- The report lists a template as an orphan, or as nobody's. -/
def ReconcileReport.DisownsTemplate (report : ReconcileReport) (template : RunPodResource)
    : Prop :=
  template ∈ report.unattributed.templates
  ∨ ∃ finding ∈ report.findings,
      finding.kind = .orphanTemplate ∧ finding.resourceId = some template.id
      ∧ finding.resourceName = some template.name

section Disowning

variable {inventory : RunPodInventory} {census : TenantCensus} {pool : PoolExclusion}
  {gathered : Gathered}

/-- An orphaned endpoint is named in its finding. -/
theorem attributeEndpoint_orphan {endpoint : RunPodResource} {finding : DriftFinding}
    (orphan : attributeEndpoint inventory census pool gathered endpoint = .orphan finding)
    : finding.kind = .orphanEndpoint ∧ finding.resourceId = some endpoint.id
      ∧ finding.resourceName = some endpoint.name := by
  unfold attributeEndpoint at orphan
  split at orphan
  · cases orphan
  · dsimp only at orphan
    split at orphan
    · split at orphan <;> cases orphan
      exact ⟨rfl, rfl, rfl⟩
    · split at orphan <;> cases orphan
      exact ⟨rfl, rfl, rfl⟩

/-- An orphaned template is named in its finding. -/
theorem attributeTemplate_orphan {template : RunPodResource} {finding : DriftFinding}
    (orphan : attributeTemplate inventory census pool gathered template = .orphan finding)
    : finding.kind = .orphanTemplate ∧ finding.resourceId = some template.id
      ∧ finding.resourceName = some template.name := by
  unfold attributeTemplate at orphan
  split at orphan
  · cases orphan
  · split at orphan <;> cases orphan
    exact ⟨rfl, rfl, rfl⟩

/-- An endpoint is in use when the pool has it, or a row that is not torn down claims it. -/
theorem attributeEndpoint_inUse {endpoint : RunPodResource}
    : attributeEndpoint inventory census pool gathered endpoint = .inUse
      ↔ (endpoint.id ∈ pool.ids ∨ endpoint.name ∈ pool.names)
        ∨ ∃ claim, gathered.claimedEndpointIds.get? endpoint.id = some claim
            ∧ isTornDown claim.tenant = false := by
  unfold attributeEndpoint
  by_cases pooled : endpoint.id ∈ pool.ids ∨ endpoint.name ∈ pool.names
  · simp [pooled]
  · cases claimed : gathered.claimedEndpointIds.get? endpoint.id with
    | some claim => cases gone : isTornDown claim.tenant <;> simp [pooled, gone]
    | none => cases (owningTenantByName census).get? endpoint.name <;> simp [pooled]

/-- A template is in use when the pool has its name, or a record keeps it alive. -/
theorem attributeTemplate_inUse {template : RunPodResource}
    : attributeTemplate inventory census pool gathered template = .inUse
      ↔ template.name ∈ pool.names ∨ gathered.liveNames.has template.name := by
  unfold attributeTemplate
  by_cases inUse : template.name ∈ pool.names ∨ gathered.liveNames.has template.name
  · simp [inUse]
  · cases (owningTenantByName census).get? template.name <;> simp [inUse]

end Disowning

section Report

variable (syntaxError : String → String) (census : TenantCensus) (inventory : RunPodInventory)
  (sharedPool : Option PoolExclusion)

/-- The findings of the report: those of the rows, of the endpoints and of the templates. -/
theorem mem_findings {finding : DriftFinding}
    : finding ∈ (reconcileRunPod syntaxError census inventory sharedPool).findings
      ↔ finding ∈ (gather inventory census syntaxError).findings
        ∨ (∃ endpoint ∈ inventory.endpoints,
            attributeEndpoint inventory census (sharedPool.getD ⟨[], []⟩)
              (gather inventory census syntaxError) endpoint = .orphan finding)
        ∨ ∃ template ∈ inventory.templates,
            attributeTemplate inventory census (sharedPool.getD ⟨[], []⟩)
              (gather inventory census syntaxError) template = .orphan finding := by
  have orphan : ∀ fate : Attribution, fate.finding? = some finding ↔ fate = .orphan finding := by
    intro fate
    cases fate <;> simp [Attribution.finding?]
  simp only [reconcileRunPod, List.mem_append, List.mem_filterMap, orphan, or_assoc]

/-- A resource is the one of its id and its name. -/
theorem resource_eq {resource other : RunPodResource} {finding : DriftFinding}
    (ids : finding.resourceId = some resource.id) (names : finding.resourceName = some resource.name)
    (otherIds : finding.resourceId = some other.id)
    (otherNames : finding.resourceName = some other.name)
    : other = resource := by
  cases other
  cases resource
  simp_all

/-- A finding that an endpoint is an orphan is about an endpoint of the snapshot. -/
theorem orphanEndpoint_listed {endpoint : RunPodResource} {finding : DriftFinding}
    (member : finding ∈ (reconcileRunPod syntaxError census inventory sharedPool).findings)
    (isOrphan : finding.kind = .orphanEndpoint) (isId : finding.resourceId = some endpoint.id)
    (isName : finding.resourceName = some endpoint.name)
    : endpoint ∈ inventory.endpoints
      ∧ attributeEndpoint inventory census (sharedPool.getD ⟨[], []⟩)
          (gather inventory census syntaxError) endpoint = .orphan finding := by
  rcases (mem_findings syntaxError census inventory sharedPool).mp member with
    ofRow | ⟨other, listed, fate⟩ | ⟨other, _, fate⟩
  · exact absurd isOrphan (gather_findings inventory census syntaxError finding ofRow).1
  · obtain ⟨_, otherId, otherName⟩ := attributeEndpoint_orphan fate
    have same : other = endpoint := resource_eq isId isName otherId otherName
    exact same ▸ ⟨listed, fate⟩
  · rw [(attributeTemplate_orphan fate).1] at isOrphan
    exact nomatch isOrphan

/-- A finding that a template is an orphan is about a template of the snapshot. -/
theorem orphanTemplate_listed {template : RunPodResource} {finding : DriftFinding}
    (member : finding ∈ (reconcileRunPod syntaxError census inventory sharedPool).findings)
    (isOrphan : finding.kind = .orphanTemplate) (isId : finding.resourceId = some template.id)
    (isName : finding.resourceName = some template.name)
    : template ∈ inventory.templates
      ∧ attributeTemplate inventory census (sharedPool.getD ⟨[], []⟩)
          (gather inventory census syntaxError) template = .orphan finding := by
  rcases (mem_findings syntaxError census inventory sharedPool).mp member with
    ofRow | ⟨other, _, fate⟩ | ⟨other, listed, fate⟩
  · exact absurd isOrphan (gather_findings inventory census syntaxError finding ofRow).2
  · rw [(attributeEndpoint_orphan fate).1] at isOrphan
    exact nomatch isOrphan
  · obtain ⟨_, otherId, otherName⟩ := attributeTemplate_orphan fate
    have same : other = template := resource_eq isId isName otherId otherName
    exact same ▸ ⟨listed, fate⟩

/-- The report disowns the endpoints of the snapshot that are not in use. -/
theorem disownsEndpoint_iff {endpoint : RunPodResource}
    : (reconcileRunPod syntaxError census inventory sharedPool).DisownsEndpoint endpoint
      ↔ endpoint ∈ inventory.endpoints
        ∧ attributeEndpoint inventory census (sharedPool.getD ⟨[], []⟩)
            (gather inventory census syntaxError) endpoint ≠ .inUse := by
  unfold ReconcileReport.DisownsEndpoint
  constructor
  · intro h
    rcases h with nobodys | ⟨finding, member, isOrphan, isId, isName⟩
    · obtain ⟨listed, fate⟩ := List.mem_filter.mp nobodys
      refine ⟨listed, ?_⟩
      rw [of_decide_eq_true fate]
      exact nofun
    · obtain ⟨listed, fate⟩ :=
        orphanEndpoint_listed syntaxError census inventory sharedPool member isOrphan isId isName
      rw [fate]
      exact ⟨listed, nofun⟩
  · intro h
    obtain ⟨listed, notInUse⟩ := h
    cases fate : attributeEndpoint inventory census (sharedPool.getD ⟨[], []⟩)
        (gather inventory census syntaxError) endpoint with
    | inUse => exact absurd fate notInUse
    | unattributed => exact .inl (List.mem_filter.mpr ⟨listed, decide_eq_true fate⟩)
    | orphan finding =>
        exact .inr ⟨finding,
          (mem_findings syntaxError census inventory sharedPool).mpr
            (.inr (.inl ⟨endpoint, listed, fate⟩)),
          attributeEndpoint_orphan fate⟩

/-- The report disowns the templates of the snapshot that are not in use. -/
theorem disownsTemplate_iff {template : RunPodResource}
    : (reconcileRunPod syntaxError census inventory sharedPool).DisownsTemplate template
      ↔ template ∈ inventory.templates
        ∧ attributeTemplate inventory census (sharedPool.getD ⟨[], []⟩)
            (gather inventory census syntaxError) template ≠ .inUse := by
  unfold ReconcileReport.DisownsTemplate
  constructor
  · intro h
    rcases h with nobodys | ⟨finding, member, isOrphan, isId, isName⟩
    · obtain ⟨listed, fate⟩ := List.mem_filter.mp nobodys
      refine ⟨listed, ?_⟩
      rw [of_decide_eq_true fate]
      exact nofun
    · obtain ⟨listed, fate⟩ :=
        orphanTemplate_listed syntaxError census inventory sharedPool member isOrphan isId isName
      rw [fate]
      exact ⟨listed, nofun⟩
  · intro h
    obtain ⟨listed, notInUse⟩ := h
    cases fate : attributeTemplate inventory census (sharedPool.getD ⟨[], []⟩)
        (gather inventory census syntaxError) template with
    | inUse => exact absurd fate notInUse
    | unattributed => exact .inl (List.mem_filter.mpr ⟨listed, decide_eq_true fate⟩)
    | orphan finding =>
        exact .inr ⟨finding,
          (mem_findings syntaxError census inventory sharedPool).mpr
            (.inr (.inr ⟨template, listed, fate⟩)),
          attributeTemplate_orphan fate⟩

end Report

end ControlPlane.Reconcile
