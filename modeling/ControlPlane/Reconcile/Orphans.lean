import ControlPlane.Reconcile.InUse

/-! When the reconciliation leaves what is in use alone. A claim on an endpoint id is kept from
the last row read, whatever its status; a name is kept alive only if the record spells it out.
-/

namespace ControlPlane.Reconcile

open ControlPlane.Library
open ControlPlane.Provision
open ControlPlane.Store

section Snapshot

variable (syntaxError : String → String) (census : TenantCensus) (inventory : RunPodInventory)
  (sharedPool : Option PoolExclusion)

/-- The report disowns nothing that a row which is not torn down records, and nothing of the
pool.
-/
structure NothingInUseDisowned : Prop where
  endpoints : ∀ tenant ∈ census.tenants, tenant.status ≠ .deleted →
    ∀ recorded ∈ ownRecords syntaxError tenant, ∀ endpoint : RunPodResource,
      endpoint.id = recorded.id →
        ¬ (reconcileRunPod syntaxError census inventory sharedPool).DisownsEndpoint endpoint
  templates : ∀ tenant ∈ census.tenants, tenant.status ≠ .deleted →
    ∀ recorded ∈ ownRecords syntaxError tenant, ∀ template : RunPodResource,
      template.name = expectedName tenant recorded →
        ¬ (reconcileRunPod syntaxError census inventory sharedPool).DisownsTemplate template
  poolEndpoints : ∀ pool, sharedPool = some pool → ∀ endpoint : RunPodResource,
    endpoint.id ∈ pool.ids ∨ endpoint.name ∈ pool.names →
      ¬ (reconcileRunPod syntaxError census inventory sharedPool).DisownsEndpoint endpoint
  poolTemplates : ∀ pool, sharedPool = some pool → ∀ template : RunPodResource,
    template.name ∈ pool.names →
      ¬ (reconcileRunPod syntaxError census inventory sharedPool).DisownsTemplate template

/-- The pool that a snapshot is checked against. -/
def poolOrNone : PoolExclusion :=
  sharedPool.getD ⟨[], []⟩

/-- No deleted row has the last word on an endpoint in use, and no template in use goes by a
name that no record spells out.
-/
structure Untangled : Prop where
  claims : ∀ endpoint ∈ inventory.endpoints,
    ¬ (endpoint.id ∈ (poolOrNone sharedPool).ids ∨ endpoint.name ∈ (poolOrNone sharedPool).names) →
    ∀ before gone after, census.tenants = before ++ gone :: after →
      gone.status = .deleted → RecordsId syntaxError endpoint.id gone →
      (∃ tenant ∈ before, tenant.status ≠ .deleted ∧ RecordsId syntaxError endpoint.id tenant) →
      ∃ tenant ∈ after, tenant.status ≠ .deleted ∧ RecordsId syntaxError endpoint.id tenant
  names : ∀ template ∈ inventory.templates, template.name ∉ (poolOrNone sharedPool).names →
    ∀ tenant ∈ census.tenants, tenant.status ≠ .deleted →
    ∀ recorded ∈ ownRecords syntaxError tenant,
      recorded.name = "" → tenantEndpointName tenant.slug recorded.key = template.name →
      ∃ other ∈ census.tenants, other.status ≠ .deleted
        ∧ ∃ spelled ∈ ownRecords syntaxError other, spelled.name = template.name

end Snapshot

theorem isTornDown_eq_false {tenant : Tenant}
    : isTornDown tenant = false ↔ tenant.status ≠ .deleted := by
  simp [isTornDown]

theorem tenantEndpointName_ne_empty (slug key : String) : tenantEndpointName slug key ≠ "" := by
  intro empty
  have parts := String.append_eq_empty_iff.mp empty
  have before := String.append_eq_empty_iff.mp parts.1
  have first := String.append_eq_empty_iff.mp before.1
  exact absurd first.1 (by simp)

theorem expectedName_ne_empty (tenant : Tenant) (recorded : RecordedEndpoint)
    : expectedName tenant recorded ≠ "" := by
  unfold expectedName orElse
  split
  next => exact tenantEndpointName_ne_empty tenant.slug recorded.key
  next spelled => exact spelled

variable {syntaxError : String → String} {census : TenantCensus} {inventory : RunPodInventory}
  {sharedPool : Option PoolExclusion}

/-- An endpoint that a row records and the pool has not is disowned just when the last row that
records it is deleted.
-/
theorem disownsEndpoint_of_last {before after : List Tenant} {last : Tenant}
    {endpoint : RunPodResource} (listed : endpoint ∈ inventory.endpoints)
    (own : ¬ (endpoint.id ∈ (poolOrNone sharedPool).ids
      ∨ endpoint.name ∈ (poolOrNone sharedPool).names))
    (isCensus : census.tenants = before ++ last :: after)
    (records : RecordsId syntaxError endpoint.id last)
    (others : ∀ tenant ∈ after, ¬ RecordsId syntaxError endpoint.id tenant)
    : (reconcileRunPod syntaxError census inventory sharedPool).DisownsEndpoint endpoint
      ↔ last.status = .deleted := by
  obtain ⟨claim, claimed, ofLast⟩ :=
    gather_claim inventory census syntaxError isCensus records others
  have alone : (∃ other, (gather inventory census syntaxError).claimedEndpointIds.get? endpoint.id
        = some other ∧ isTornDown other.tenant = false) ↔ last.status ≠ .deleted := by
    rw [claimed, ← ofLast, ← isTornDown_eq_false]
    simp
  rw [disownsEndpoint_iff, Ne, attributeEndpoint_inUse, alone]
  constructor
  · intro h
    obtain ⟨_, notInUse⟩ := h
    by_contra live
    exact notInUse (.inr live)
  · intro gone
    refine ⟨listed, ?_⟩
    intro h
    rcases h with pooled | live
    · exact own pooled
    · exact live gone

/-- A template that the pool has not is disowned unless a row that is not torn down spells its
name out.
-/
theorem disownsTemplate_of_own {template : RunPodResource} (named : template.name ≠ "")
    (listed : template ∈ inventory.templates)
    (own : template.name ∉ (poolOrNone sharedPool).names)
    : (reconcileRunPod syntaxError census inventory sharedPool).DisownsTemplate template
      ↔ ¬ ∃ tenant ∈ census.tenants, tenant.status ≠ .deleted
          ∧ ∃ recorded ∈ ownRecords syntaxError tenant, recorded.name = template.name := by
  rw [disownsTemplate_iff, Ne, attributeTemplate_inUse, gather_liveNames _ _ _ named]
  simp only [isTornDown_eq_false]
  constructor
  · intro h alive
    obtain ⟨_, notInUse⟩ := h
    exact notInUse (.inr alive)
  · intro dead
    refine ⟨listed, ?_⟩
    intro h
    rcases h with pooled | alive
    · exact own pooled
    · exact dead alive

/-- The reconciliation leaves what is in use alone just when no deleted row is the last to
record an endpoint in use and every template in use has its name spelled out.
-/
theorem nothingInUseDisowned_iff (syntaxError : String → String) (census : TenantCensus)
    (inventory : RunPodInventory) (sharedPool : Option PoolExclusion)
    : NothingInUseDisowned syntaxError census inventory sharedPool
      ↔ Untangled syntaxError census inventory sharedPool := by
  constructor
  · intro kept
    refine ⟨?_, ?_⟩
    · -- The last row after the deleted one that records the id claims it.
      intro endpoint listed own before gone after isCensus deleted records inUse
      by_contra noLater
      obtain ⟨between, last, rest, isTail, lastRecords, others⟩ :=
        exists_last (P := RecordsId syntaxError endpoint.id)
          ⟨gone, List.mem_cons_self (l := after), records⟩
      have lastDeleted : last.status = .deleted := by
        have member : last ∈ gone :: after := by simp [isTail]
        rcases List.mem_cons.mp member with here | later
        · rw [here]
          exact deleted
        · by_contra live
          exact noLater ⟨last, later, live, lastRecords⟩
      have split : census.tenants = (before ++ between) ++ last :: rest := by
        rw [isCensus, isTail, List.append_assoc]
      obtain ⟨tenant, earlier, live, recorded, isRecorded, isId⟩ := inUse
      have member : tenant ∈ census.tenants := by
        rw [isCensus]
        exact List.mem_append_left _ earlier
      exact kept.endpoints tenant member live recorded isRecorded endpoint isId.symm
        ((disownsEndpoint_of_last listed own split lastRecords others).mpr lastDeleted)
    · intro template listed own tenant member live recorded isRecorded unnamed derived
      have isExpected : template.name = expectedName tenant recorded := by
        rw [expectedName, orElse, if_pos unnamed, derived]
      have named : template.name ≠ "" := isExpected ▸ expectedName_ne_empty tenant recorded
      by_contra noName
      exact kept.templates tenant member live recorded isRecorded template isExpected
        ((disownsTemplate_of_own named listed own).mpr noName)
  · intro untangled
    refine ⟨?_, ?_, ?_, ?_⟩
    · intro tenant member live recorded isRecorded endpoint isId disowned
      obtain ⟨listed, notInUse⟩ := (disownsEndpoint_iff ..).mp disowned
      rw [Ne, attributeEndpoint_inUse, not_or] at notInUse
      have records : RecordsId syntaxError endpoint.id tenant :=
        ⟨recorded, isRecorded, isId.symm⟩
      obtain ⟨before, last, after, isCensus, lastRecords, others⟩ :=
        exists_last (P := RecordsId syntaxError endpoint.id) ⟨tenant, member, records⟩
      have lastDeleted :=
        (disownsEndpoint_of_last listed notInUse.1 isCensus lastRecords others).mp disowned
      have earlier : tenant ∈ before := by
        rw [isCensus] at member
        rcases List.mem_append.mp member with earlier | tail
        · exact earlier
        · rcases List.mem_cons.mp tail with here | later
          · exact absurd (here ▸ lastDeleted) live
          · exact absurd records (others tenant later)
      obtain ⟨other, later, _, otherRecords⟩ :=
        untangled.claims endpoint listed notInUse.1 before last after isCensus lastDeleted
          lastRecords ⟨tenant, earlier, live, records⟩
      exact others other later otherRecords
    · intro tenant member live recorded isRecorded template isExpected disowned
      have named : template.name ≠ "" := isExpected ▸ expectedName_ne_empty tenant recorded
      obtain ⟨listed, notInUse⟩ := (disownsTemplate_iff ..).mp disowned
      rw [Ne, attributeTemplate_inUse, not_or] at notInUse
      have unspelled := (disownsTemplate_of_own named listed notInUse.1).mp disowned
      by_cases unnamed : recorded.name = ""
      · have derived : tenantEndpointName tenant.slug recorded.key = template.name := by
          rw [isExpected, expectedName, orElse, if_pos unnamed]
        exact unspelled (untangled.names template listed notInUse.1 tenant member live recorded
          isRecorded unnamed derived)
      · have spelled : recorded.name = template.name := by
          rw [isExpected, expectedName, orElse, if_neg unnamed]
        exact unspelled ⟨tenant, member, live, recorded, isRecorded, spelled⟩
    · intro pool isPool endpoint pooled disowned
      obtain ⟨_, notInUse⟩ := (disownsEndpoint_iff ..).mp disowned
      rw [Ne, attributeEndpoint_inUse, isPool] at notInUse
      exact notInUse (.inl pooled)
    · intro pool isPool template pooled disowned
      obtain ⟨_, notInUse⟩ := (disownsTemplate_iff ..).mp disowned
      rw [Ne, attributeTemplate_inUse, isPool] at notInUse
      exact notInUse (.inl pooled)

/-- What both tenants of the slug record. -/
def adoptedEndpoints : List TenantEndpoint :=
  [{ key := "backend"
     label := some "Render (keyframes, video)"
     id := "ep1"
     name := some "vivijure-hero-backend"
     endpointVar := "RUNPOD_ENDPOINT_ID" }]

/-- A freed slug was taken again, and the new tenant adopted the endpoint the old one left. The
rows come newest first.
-/
def adoptedCensus : TenantCensus where
  tenants :=
    [{ id := "ten_2"
       slug := "hero"
       accountId := "acct_2"
       status := .live
       endpointsJson := some (stringifyEndpoints adoptedEndpoints)
       createdAt := 2 },
     { id := "ten_1"
       slug := "hero"
       accountId := "acct_1"
       status := .deleted
       endpointsJson := some (stringifyEndpoints adoptedEndpoints)
       createdAt := 1 }]
  complete := true

/-- The account the adopted endpoint is on. -/
def adoptedInventory : RunPodInventory where
  accountLabel := "prod"
  readAt := "2026-07-26"
  complete := true
  endpoints := [⟨"ep1", "vivijure-hero-backend"⟩]
  templates := [⟨"tpl1", "vivijure-hero-backend"⟩]

/-- The adopted endpoint is reported as the orphan of the deleted tenant. -/
theorem adoptedEndpoint_disowned
    : ¬ NothingInUseDisowned id adoptedCensus adoptedInventory none := by
  intro kept
  have live : ∃ tenant ∈ adoptedCensus.tenants, tenant.status ≠ .deleted
      ∧ ∃ recorded ∈ ownRecords id tenant, recorded.id = "ep1" := by
    decide +kernel
  obtain ⟨tenant, member, alive, recorded, isRecorded, isId⟩ := live
  refine kept.endpoints tenant member alive recorded isRecorded ⟨"ep1", "vivijure-hero-backend"⟩
    isId.symm (.inr ?_)
  decide +kernel

end ControlPlane.Reconcile
