import ControlPlane.Reconcile.InUse

/-! What the report accounts for, and what it says for good. Every resource of a snapshot should
have one standing, and a finding that is called proven should outlast the rows and the resources
that were still missing.
-/

namespace ControlPlane.Reconcile

open ControlPlane.Library
open ControlPlane.Provision
open ControlPlane.Store

--------------------------------------------------------------------------------
-- The last word on an id and on a name
--------------------------------------------------------------------------------

section Records

variable (syntaxError : String → String)

/-- The records of the rows that own theirs, in the order of the census. -/
def ownClaims (census : TenantCensus) : List Claim :=
  census.tenants.flatMap fun tenant =>
    (ownRecords syntaxError tenant).map fun recorded => ⟨tenant, recorded⟩

/-- The last record of an endpoint id. -/
def lastClaim (census : TenantCensus) (id : String) : Option Claim :=
  (ownClaims syntaxError census).reverse.find? fun claim => claim.recorded.id = id

/-- The names the rows that own endpoints could have given, in the order of the census. -/
def ownNames (census : TenantCensus) : List (String × NameOwner) :=
  (census.tenants.filter fun tenant => readRunPodMode tenant.runpodMode ≠ .shared).flatMap
    fun tenant => (provisionPlan.map PlannedCapability.key ++ retiredEndpointKeys).map fun key =>
      (tenantEndpointName tenant.slug key, ⟨tenant, key⟩)

/-- The last row that could have given a name. -/
def lastNamed (census : TenantCensus) (name : String) : Option NameOwner :=
  ((ownNames census).reverse.find? fun made => made.1 = name).map Prod.snd

/-- The last endpoint of a snapshot under an id. -/
def lastEndpoint (inventory : RunPodInventory) (id : String) : Option RunPodResource :=
  inventory.endpoints.reverse.find? fun endpoint => endpoint.id = id

/-- The key of an endpoint that outlived its row: the record's, or the one its name is made of. -/
def outlivedKey (census : TenantCensus) (endpoint : RunPodResource) (claim : Claim)
    : Option String :=
  (orNull claim.recorded.key).or
    ((lastNamed census endpoint.name).bind fun named => orNull named.key)

theorem mem_ownClaims {census : TenantCensus} {claim : Claim}
    : claim ∈ ownClaims syntaxError census
      ↔ claim.tenant ∈ census.tenants ∧ claim.recorded ∈ ownRecords syntaxError claim.tenant := by
  obtain ⟨tenant, recorded⟩ := claim
  simp [ownClaims]

/-- The last record of an id stands on a row of the census. -/
theorem of_lastClaim {census : TenantCensus} {id : String} {claim : Claim}
    (last : lastClaim syntaxError census id = some claim)
    : claim.tenant ∈ census.tenants ∧ RecordsId syntaxError id claim.tenant := by
  have isId : claim.recorded.id = id := by
    have found := List.find?_some last
    exact of_decide_eq_true found
  have member := List.mem_reverse.mp (List.mem_of_find?_eq_some last)
  obtain ⟨isTenant, own⟩ := (mem_ownClaims syntaxError).mp member
  exact ⟨isTenant, claim.recorded, own, isId⟩

/-- An id that a row records has a last record. -/
theorem exists_lastClaim {census : TenantCensus} {id : String} {tenant : Tenant}
    (member : tenant ∈ census.tenants) (records : RecordsId syntaxError id tenant)
    : ∃ claim, lastClaim syntaxError census id = some claim := by
  obtain ⟨recorded, own, isId⟩ := records
  have isClaim : (⟨tenant, recorded⟩ : Claim) ∈ ownClaims syntaxError census :=
    (mem_ownClaims syntaxError).mpr ⟨member, own⟩
  refine Option.isSome_iff_exists.mp (List.find?_isSome.mpr ?_)
  exact ⟨⟨tenant, recorded⟩, List.mem_reverse.mpr isClaim, decide_eq_true isId⟩

/-- An endpoint of a snapshot is under the last of its id, and it may be another one. -/
theorem exists_lastEndpoint {inventory : RunPodInventory} {endpoint : RunPodResource}
    (member : endpoint ∈ inventory.endpoints)
    : ∃ last, lastEndpoint inventory endpoint.id = some last := by
  refine Option.isSome_iff_exists.mp (List.find?_isSome.mpr ?_)
  exact ⟨endpoint, List.mem_reverse.mpr member, decide_eq_true rfl⟩

variable (inventory : RunPodInventory) (census : TenantCensus)

/-- The pass keeps the last record of every id. -/
theorem gather_lastClaim (id : String)
    : (gather inventory census syntaxError).claimedEndpointIds.get? id
      = lastClaim syntaxError census id := by
  have writes : census.tenants.flatMap (claimWrites syntaxError)
      = (ownClaims syntaxError census).map fun claim => (claim.recorded.id, claim) := by
    have ofRow : claimWrites syntaxError = fun tenant =>
        (ownRecords syntaxError tenant).map fun recorded => (recorded.id, ⟨tenant, recorded⟩) := by
      funext tenant
      exact List.map_eq_flatMap.symm
    simp [ownClaims, ofRow, List.map_flatMap, Function.comp_def]
  rw [(gather_adds inventory census syntaxError).claims, writes,
    WriteMap.get?_setAll_keyed fun claim : Claim => claim.recorded.id]
  rfl

/-- The rows decide which names are alive, and the snapshot has no part in it. -/
theorem gather_liveNames_eq
    : (gather inventory census syntaxError).liveNames
      = WriteMap.empty.setAll (census.tenants.flatMap (liveNameWrites syntaxError)) :=
  (gather_adds inventory census syntaxError).names

theorem owningTenantByName_last (name : String)
    : (owningTenantByName census).get? name = lastNamed census name :=
  WriteMap.get?_setAll_find (ownNames census) name

theorem endpointsById_last (id : String)
    : (endpointsById inventory).get? id = lastEndpoint inventory id :=
  WriteMap.get?_setAll_keyed RunPodResource.id inventory.endpoints id

end Records

--------------------------------------------------------------------------------
-- One standing each
--------------------------------------------------------------------------------

/-- Where a resource of the snapshot stands. -/
inductive Standing
  | pool
  | record
  | orphan
  | unattributed
  deriving DecidableEq, Repr

section Snapshot

variable (syntaxError : String → String) (census : TenantCensus) (inventory : RunPodInventory)
  (sharedPool : Option PoolExclusion)

/-- A row that is not deleted and owns its endpoints records the id. -/
def HeldByRecord (id : String) : Prop :=
  ∃ tenant ∈ census.tenants, tenant.status ≠ .deleted ∧ RecordsId syntaxError id tenant

/-- A row that is not deleted and owns its endpoints records the name. -/
def NamedByRecord (name : String) : Prop :=
  name ≠ "" ∧ ∃ tenant ∈ census.tenants, tenant.status ≠ .deleted
    ∧ ∃ recorded ∈ ownRecords syntaxError tenant, recorded.name = name

/-- The pool has an endpoint, by its id or by its name. -/
def InPool (endpoint : RunPodResource) : Prop :=
  ∃ pool, sharedPool = some pool ∧ (endpoint.id ∈ pool.ids ∨ endpoint.name ∈ pool.names)

/-- The pool has a name. -/
def NamedInPool (name : String) : Prop :=
  ∃ pool, sharedPool = some pool ∧ name ∈ pool.names

/-- Where an endpoint stands: with the pool or a row, or where the report puts it. -/
def EndpointStands (endpoint : RunPodResource) : Standing → Prop
  | .pool => InPool sharedPool endpoint
  | .record => HeldByRecord syntaxError census endpoint.id
  | .orphan =>
      ∃ finding ∈ (reconcileRunPod syntaxError census inventory sharedPool).findings,
        finding.kind = .orphanEndpoint ∧ finding.resourceId = some endpoint.id
        ∧ finding.resourceName = some endpoint.name
  | .unattributed =>
      endpoint ∈ (reconcileRunPod syntaxError census inventory sharedPool).unattributed.endpoints

/-- Where a template stands: with the pool or a row, or where the report puts it. -/
def TemplateStands (template : RunPodResource) : Standing → Prop
  | .pool => NamedInPool sharedPool template.name
  | .record => NamedByRecord syntaxError census template.name
  | .orphan =>
      ∃ finding ∈ (reconcileRunPod syntaxError census inventory sharedPool).findings,
        finding.kind = .orphanTemplate ∧ finding.resourceId = some template.id
        ∧ finding.resourceName = some template.name
  | .unattributed =>
      template ∈ (reconcileRunPod syntaxError census inventory sharedPool).unattributed.templates

end Snapshot

/-- A resource has one standing just when the pool and the rows do not both have it, and what a
row has is in use.
-/
theorem oneStanding_iff {stands : Standing → Prop} {fate : Attribution}
    (pooled : stands .pool → fate = .inUse)
    (inUse : fate = .inUse → stands .pool ∨ stands .record)
    (orphan : stands .orphan ↔ ∃ finding, fate = .orphan finding)
    (nobodys : stands .unattributed ↔ fate = .unattributed)
    : (∃! standing, stands standing)
      ↔ ¬ (stands .pool ∧ stands .record) ∧ (stands .record → fate = .inUse) := by
  constructor
  · intro h
    obtain ⟨only, _, unique⟩ := h
    refine ⟨?_, fun recorded => ?_⟩
    · intro h
      obtain ⟨inPool, recorded⟩ := h
      exact nomatch (unique .pool inPool).trans (unique .record recorded).symm
    · cases isFate : fate with
      | inUse => rfl
      | unattributed =>
          have other := unique .unattributed (nobodys.mpr isFate)
          exact nomatch other.trans (unique .record recorded).symm
      | orphan finding =>
          have other := unique .orphan (orphan.mpr ⟨finding, isFate⟩)
          exact nomatch other.trans (unique .record recorded).symm
  · intro h
    obtain ⟨apart, kept⟩ := h
    -- Whatever the fate is, no standing that goes with another one is left.
    have notOrphan : fate = .inUse → ¬ stands .orphan := by
      intro isFate held
      obtain ⟨finding, isOrphan⟩ := orphan.mp held
      exact nomatch isFate.symm.trans isOrphan
    have notNobodys : fate = .inUse → ¬ stands .unattributed := by
      intro isFate held
      exact nomatch isFate.symm.trans (nobodys.mp held)
    cases isFate : fate with
    | inUse =>
        rcases inUse isFate with inPool | recorded
        · refine ⟨.pool, inPool, fun other holds => ?_⟩
          cases other with
          | pool => rfl
          | record => exact absurd ⟨inPool, holds⟩ apart
          | orphan => exact absurd holds (notOrphan isFate)
          | unattributed => exact absurd holds (notNobodys isFate)
        · refine ⟨.record, recorded, fun other holds => ?_⟩
          cases other with
          | pool => exact absurd ⟨holds, recorded⟩ apart
          | record => rfl
          | orphan => exact absurd holds (notOrphan isFate)
          | unattributed => exact absurd holds (notNobodys isFate)
    | unattributed =>
        refine ⟨.unattributed, nobodys.mpr isFate, fun other holds => ?_⟩
        cases other with
        | pool => exact nomatch isFate.symm.trans (pooled holds)
        | record => exact nomatch isFate.symm.trans (kept holds)
        | orphan =>
            obtain ⟨finding, isOrphan⟩ := orphan.mp holds
            exact nomatch isFate.symm.trans isOrphan
        | unattributed => rfl
    | orphan finding =>
        refine ⟨.orphan, orphan.mpr ⟨finding, isFate⟩, fun other holds => ?_⟩
        cases other with
        | pool => exact nomatch isFate.symm.trans (pooled holds)
        | record => exact nomatch isFate.symm.trans (kept holds)
        | orphan => rfl
        | unattributed => exact nomatch isFate.symm.trans (nobodys.mp holds)

section Placing

variable {syntaxError : String → String} {census : TenantCensus} {inventory : RunPodInventory}
  {sharedPool : Option PoolExclusion}

theorem inPool_iff {endpoint : RunPodResource}
    : InPool sharedPool endpoint
      ↔ endpoint.id ∈ (sharedPool.getD ⟨[], []⟩).ids
        ∨ endpoint.name ∈ (sharedPool.getD ⟨[], []⟩).names := by
  cases sharedPool <;> simp [InPool]

theorem namedInPool_iff {name : String}
    : NamedInPool sharedPool name ↔ name ∈ (sharedPool.getD ⟨[], []⟩).names := by
  cases sharedPool <;> simp [NamedInPool]

/-- An endpoint is in use when the pool has it, or the last row that records it is not deleted. -/
theorem endpoint_inUse_iff {endpoint : RunPodResource}
    : attributeEndpoint inventory census (sharedPool.getD ⟨[], []⟩)
          (gather inventory census syntaxError) endpoint = .inUse
      ↔ InPool sharedPool endpoint
        ∨ ∃ claim, lastClaim syntaxError census endpoint.id = some claim
            ∧ claim.tenant.status ≠ .deleted := by
  simp [attributeEndpoint_inUse, gather_lastClaim, inPool_iff, isTornDown]

/-- An alive name is one that a row which is not deleted records. -/
theorem liveNames_iff {name : String}
    : (gather inventory census syntaxError).liveNames.has name
      ↔ NamedByRecord syntaxError census name := by
  by_cases named : name = ""
  · have nothing : ¬ (gather inventory census syntaxError).liveNames.has name := by
      rw [gather_liveNames_eq, WriteMap.has_setAll_empty]
      intro h
      obtain ⟨write, member, isName⟩ := h
      obtain ⟨tenant, _, ofTenant⟩ := List.mem_flatMap.mp member
      exact (of_mem_liveNameWrites syntaxError ofTenant).2.1 (isName.trans named)
    exact ⟨fun alive => absurd alive nothing, fun recorded => absurd named recorded.1⟩
  · simp [gather_liveNames inventory census syntaxError named, NamedByRecord, named, isTornDown]

theorem nobodysEndpoint_iff {endpoint : RunPodResource} (listed : endpoint ∈ inventory.endpoints)
    : endpoint ∈ (reconcileRunPod syntaxError census inventory sharedPool).unattributed.endpoints
      ↔ attributeEndpoint inventory census (sharedPool.getD ⟨[], []⟩)
          (gather inventory census syntaxError) endpoint = .unattributed := by
  simp [reconcileRunPod, listed]

theorem nobodysTemplate_iff {template : RunPodResource} (listed : template ∈ inventory.templates)
    : template ∈ (reconcileRunPod syntaxError census inventory sharedPool).unattributed.templates
      ↔ attributeTemplate inventory census (sharedPool.getD ⟨[], []⟩)
          (gather inventory census syntaxError) template = .unattributed := by
  simp [reconcileRunPod, listed]

/-- An endpoint of the snapshot has one standing just when the pool and the rows do not both
have it, and an endpoint in use is last recorded by a row that is not deleted.
-/
theorem endpoint_oneStanding_iff {endpoint : RunPodResource}
    (listed : endpoint ∈ inventory.endpoints)
    : (∃! standing, EndpointStands syntaxError census inventory sharedPool endpoint standing)
      ↔ ¬ (InPool sharedPool endpoint ∧ HeldByRecord syntaxError census endpoint.id)
        ∧ (HeldByRecord syntaxError census endpoint.id →
            ∀ claim, lastClaim syntaxError census endpoint.id = some claim →
              claim.tenant.status ≠ .deleted) := by
  have orphan : EndpointStands syntaxError census inventory sharedPool endpoint .orphan
      ↔ ∃ finding, attributeEndpoint inventory census (sharedPool.getD ⟨[], []⟩)
          (gather inventory census syntaxError) endpoint = .orphan finding := by
    constructor
    · intro h
      obtain ⟨finding, member, isOrphan, isId, isName⟩ := h
      exact ⟨finding, (orphanEndpoint_listed _ _ _ _ member isOrphan isId isName).2⟩
    · intro h
      obtain ⟨finding, fate⟩ := h
      exact ⟨finding, (mem_findings ..).mpr (.inr (.inl ⟨endpoint, listed, fate⟩)),
        attributeEndpoint_orphan fate⟩
  have pooled : InPool sharedPool endpoint → attributeEndpoint inventory census
      (sharedPool.getD ⟨[], []⟩) (gather inventory census syntaxError) endpoint = .inUse :=
    fun inPool => endpoint_inUse_iff.mpr (.inl inPool)
  rw [oneStanding_iff pooled ?_ orphan (nobodysEndpoint_iff listed)]
  · refine and_congr_right fun apart => forall_congr' fun held => ?_
    rw [endpoint_inUse_iff]
    have own : ¬ InPool sharedPool endpoint := fun inPool => apart ⟨inPool, held⟩
    obtain ⟨tenant, member, _, records⟩ := held
    obtain ⟨claim, last⟩ := exists_lastClaim syntaxError member records
    simp [own, last]
  · intro inUse
    rcases endpoint_inUse_iff.mp inUse with inPool | ⟨claim, last, live⟩
    · exact .inl inPool
    · obtain ⟨member, records⟩ := of_lastClaim syntaxError last
      exact .inr ⟨claim.tenant, member, live, records⟩

/-- A template of the snapshot has one standing just when the pool and the rows do not both
name it.
-/
theorem template_oneStanding_iff {template : RunPodResource}
    (listed : template ∈ inventory.templates)
    : (∃! standing, TemplateStands syntaxError census inventory sharedPool template standing)
      ↔ ¬ (NamedInPool sharedPool template.name
          ∧ NamedByRecord syntaxError census template.name) := by
  have orphan : TemplateStands syntaxError census inventory sharedPool template .orphan
      ↔ ∃ finding, attributeTemplate inventory census (sharedPool.getD ⟨[], []⟩)
          (gather inventory census syntaxError) template = .orphan finding := by
    constructor
    · intro h
      obtain ⟨finding, member, isOrphan, isId, isName⟩ := h
      exact ⟨finding, (orphanTemplate_listed _ _ _ _ member isOrphan isId isName).2⟩
    · intro h
      obtain ⟨finding, fate⟩ := h
      exact ⟨finding, (mem_findings ..).mpr (.inr (.inr ⟨template, listed, fate⟩)),
        attributeTemplate_orphan fate⟩
  have inUse : attributeTemplate inventory census (sharedPool.getD ⟨[], []⟩)
        (gather inventory census syntaxError) template = .inUse
      ↔ NamedInPool sharedPool template.name
        ∨ NamedByRecord syntaxError census template.name := by
    rw [attributeTemplate_inUse, namedInPool_iff, liveNames_iff]
  rw [oneStanding_iff (fun pooled => inUse.mpr (.inl pooled)) inUse.mp orphan
    (nobodysTemplate_iff listed)]
  exact and_iff_left fun recorded => inUse.mpr (.inr recorded)

/-- The verdict of the report, read off its own findings. -/
theorem verdict_of_findings
    : (reconcileRunPod syntaxError census inventory sharedPool).verdict
      = if (reconcileRunPod syntaxError census inventory sharedPool).findings.any
          fun finding => finding.confidence = .proven
        then .drift
        else if (inventory.complete ∧ census.complete)
            ∧ (reconcileRunPod syntaxError census inventory sharedPool).findings = []
        then .clean
        else .unproven :=
  rfl

/-- The report is clean just when both reads are whole and nothing was found. -/
theorem verdict_clean_iff
    : (reconcileRunPod syntaxError census inventory sharedPool).verdict = .clean
      ↔ (inventory.complete ∧ census.complete)
        ∧ (reconcileRunPod syntaxError census inventory sharedPool).findings = [] := by
  rw [verdict_of_findings]
  split
  next proven =>
    refine ⟨nofun, ?_⟩
    intro h
    obtain ⟨_, nothing⟩ := h
    simp [nothing] at proven
  next => split <;> simp_all

/-- The report tells of drift just when a finding is proven. -/
theorem verdict_drift_iff
    : (reconcileRunPod syntaxError census inventory sharedPool).verdict = .drift
      ↔ ∃ finding ∈ (reconcileRunPod syntaxError census inventory sharedPool).findings,
          finding.confidence = .proven := by
  rw [verdict_of_findings]
  split
  next proven =>
    simp only [List.any_eq_true, decide_eq_true_eq] at proven
    exact ⟨fun _ => proven, fun _ => rfl⟩
  next unproven =>
    simp only [List.any_eq_true, decide_eq_true_eq] at unproven
    refine ⟨fun drift => ?_, fun proven => absurd proven unproven⟩
    split at drift <;> exact nomatch drift

end Placing

end ControlPlane.Reconcile
