import ControlPlane.Reconcile.NameOwners
import ControlPlane.Reconcile.ReadOn
import ControlPlane.Routing.Dispatch

/-! The report does not depend on the order in which the rows and the resources were read, exactly
when no name of a resource is contested, and no endpoint outside the pool has a deleted row on it
beside another row. Otherwise the row that was read last decides.
-/

namespace ControlPlane.Reconcile

open ControlPlane.Library
open ControlPlane.Provision
open ControlPlane.Routing (validateSlug)
open ControlPlane.Store

-----------------------------------------------------------------------------------------
-- Reports of one census in two orders
-----------------------------------------------------------------------------------------

/-- The same rows and the same resources, read in other orders. -/
structure Reordered (census moved : TenantCensus) (inventory shuffled : RunPodInventory)
    : Prop where
  tenants : moved.tenants.Perm census.tenants
  censusComplete : moved.complete = census.complete
  endpoints : shuffled.endpoints.Perm inventory.endpoints
  templates : shuffled.templates.Perm inventory.templates
  inventoryComplete : shuffled.complete = inventory.complete
  accountLabel : shuffled.accountLabel = inventory.accountLabel

/-- What a finding is about, who it names, and how sure it is. -/
def DriftFinding.essence (finding : DriftFinding)
    : DriftKind × Option String × Option String × String × Option String × Confidence :=
  (finding.kind, finding.resourceId, finding.resourceName, finding.tenantId, finding.endpointKey,
    finding.confidence)

/-- Two reports say the same. -/
structure SameReport (report other : ReconcileReport) : Prop where
  findings
    : ∀ essence, essence ∈ report.findings.map DriftFinding.essence
      ↔ essence ∈ other.findings.map DriftFinding.essence
  endpoints
    : ∀ endpoint, endpoint ∈ report.unattributed.endpoints
      ↔ endpoint ∈ other.unattributed.endpoints
  templates
    : ∀ template, template ∈ report.unattributed.templates
      ↔ template ∈ other.unattributed.templates
  tenants : report.tenants.Perm other.tenants
  verdict : report.verdict = other.verdict

section

variable (syntaxError : String → String) (census : TenantCensus) (inventory : RunPodInventory)
  (sharedPool : Option PoolExclusion)

/-- The report is the same in any order, and the name of a resource has one owner at most. -/
structure OrderFree : Prop where
  sameReport
    : ∀ moved shuffled, Reordered census moved inventory shuffled
      → SameReport (reconcileRunPod syntaxError moved shuffled sharedPool)
          (reconcileRunPod syntaxError census inventory sharedPool)
  soleOwner
    : ∀ resource ∈ inventory.endpoints ++ inventory.templates, SoleOwner census resource.name

/-- No two rows contest the name of a resource, and a deleted row that records an endpoint outside
the pool is the only row that does.
-/
structure Uncontested : Prop where
  names
    : ∀ resource ∈ inventory.endpoints ++ inventory.templates, ¬ Contested census resource.name
  claims
    : ∀ endpoint ∈ inventory.endpoints, ¬ InPool sharedPool endpoint
      → ∀ gone ∈ census.tenants, gone.status = .deleted → RecordsId syntaxError endpoint.id gone
        → ∀ tenant ∈ census.tenants, RecordsId syntaxError endpoint.id tenant → tenant = gone

/-- Rows differ in their ids and their slugs, and endpoints in their ids. -/
structure Distinct : Prop where
  ids : (census.tenants.map Tenant.id).Nodup
  slugs : (census.tenants.map Tenant.slug).Nodup
  endpoints : (inventory.endpoints.map RunPodResource.id).Nodup

end

-----------------------------------------------------------------------------------------
-- What is said of the rows
-----------------------------------------------------------------------------------------

/-- Two snapshots answer the pass over the rows alike. -/
structure SameAnswers (inventory shuffled : RunPodInventory) : Prop where
  byId : ∀ id, (endpointsById shuffled).get? id = (endpointsById inventory).get? id
  byName : ∀ name, (templatesByName shuffled).has name = (templatesByName inventory).has name
  complete : shuffled.complete = inventory.complete
  accountLabel : shuffled.accountLabel = inventory.accountLabel

variable {syntaxError : String → String} {census moved : TenantCensus}
  {inventory shuffled : RunPodInventory} {sharedPool : Option PoolExclusion}

/-- A snapshot in another order answers alike when no two endpoints share an id. -/
theorem Reordered.sameAnswers (order : Reordered census moved inventory shuffled)
    (ids : (inventory.endpoints.map RunPodResource.id).Nodup)
    : SameAnswers inventory shuffled where
  byId id := by
    have reversed : inventory.endpoints.reverse.Perm shuffled.endpoints.reverse :=
      (List.reverse_perm _).trans (order.endpoints.symm.trans (List.reverse_perm _).symm)
    rw [endpointsById_last, endpointsById_last]
    refine (List.find?_eq_find?_of_perm reversed ?_).symm
    intro first h second h'
    obtain ⟨isFirst, firstId⟩ := h
    obtain ⟨isSecond, secondId⟩ := h'
    exact List.inj_on_of_nodup_map ids (List.mem_reverse.mp isFirst) (List.mem_reverse.mp isSecond)
      ((of_decide_eq_true firstId).trans (of_decide_eq_true secondId).symm)
  byName name := by
    rw [Bool.eq_iff_iff, templatesByName, templatesByName, WriteMap.has_setAll_empty,
      WriteMap.has_setAll_empty]
    simp only [List.mem_map, order.templates.mem_iff]
  complete := order.inventoryComplete
  accountLabel := order.accountLabel

theorem SameAnswers.endpointFindings (same : SameAnswers inventory shuffled)
    : Reconcile.endpointFindings shuffled = Reconcile.endpointFindings inventory := by
  funext tenant recorded
  unfold Reconcile.endpointFindings
  simp only [same.byId, same.accountLabel, absenceConfidence, same.complete]

theorem SameAnswers.templateFindings (same : SameAnswers inventory shuffled)
    : Reconcile.templateFindings shuffled = Reconcile.templateFindings inventory := by
  funext tenant recorded
  unfold Reconcile.templateFindings
  simp only [same.byName, same.accountLabel, absenceConfidence, same.complete]

theorem SameAnswers.reconcileRecorded (same : SameAnswers inventory shuffled)
    : Reconcile.reconcileRecorded shuffled = Reconcile.reconcileRecorded inventory := by
  funext tenant state recorded
  have present (id : String) : (endpointsById shuffled).has id = (endpointsById inventory).has id :=
    congrArg Option.isSome (same.byId id)
  unfold Reconcile.reconcileRecorded
  simp only [same.endpointFindings, same.templateFindings, same.byName, present]

/-- The pass does the same with a row. -/
theorem SameAnswers.reconcileTenant (same : SameAnswers inventory shuffled)
    (complete : moved.complete = census.complete)
    : Reconcile.reconcileTenant shuffled moved syntaxError
      = Reconcile.reconcileTenant inventory census syntaxError := by
  funext gathered tenant
  unfold Reconcile.reconcileTenant verdictWithoutFindings
  simp only [same.reconcileRecorded, same.complete, complete]

theorem SameAnswers.tenantFindings (same : SameAnswers inventory shuffled)
    : Reconcile.tenantFindings syntaxError shuffled
      = Reconcile.tenantFindings syntaxError inventory := by
  funext tenant
  unfold Reconcile.tenantFindings recordedFindings
  simp only [same.endpointFindings, same.templateFindings]

/-- The verdict of a row, which looks at that row alone. -/
def rowVerdicts (syntaxError : String → String) (inventory : RunPodInventory)
    (census : TenantCensus) (tenant : Tenant)
    : List TenantVerdict :=
  (reconcileTenant inventory census syntaxError ⟨[], [], WriteMap.empty, WriteMap.empty⟩
    tenant).verdicts

/-- What is counted of a row's records does not depend on what was gathered before, by induction on
the records.
-/
theorem counted_eq (inventory : RunPodInventory) (tenant : Tenant)
    (records : List RecordedEndpoint) (gathered other : Gathered) (counted : Counted)
    : (records.foldl (reconcileRecorded inventory tenant) (gathered, counted)).2
      = (records.foldl (reconcileRecorded inventory tenant) (other, counted)).2 := by
  induction records generalizing gathered other counted with
  | nil => rfl
  | cons recorded later ih =>
      have here : (reconcileRecorded inventory tenant (gathered, counted) recorded).2
          = (reconcileRecorded inventory tenant (other, counted) recorded).2 := by
        unfold reconcileRecorded
        cases isTornDown tenant <;> rfl
      rw [List.foldl_cons, List.foldl_cons]
      generalize reconcileRecorded inventory tenant (gathered, counted) recorded = first at here ⊢
      generalize reconcileRecorded inventory tenant (other, counted) recorded = second at here ⊢
      obtain ⟨firstGathered, firstCounted⟩ := first
      obtain ⟨secondGathered, secondCounted⟩ := second
      cases here
      exact ih firstGathered secondGathered firstCounted

/-- The pass leaves the verdicts alone while it goes over the records of a row, by induction on
them.
-/
theorem verdicts_kept (inventory : RunPodInventory) (tenant : Tenant)
    (records : List RecordedEndpoint) (state : Gathered × Counted)
    : (records.foldl (reconcileRecorded inventory tenant) state).1.verdicts = state.1.verdicts := by
  induction records generalizing state with
  | nil => rfl
  | cons recorded later ih =>
      rw [List.foldl_cons, ih]
      unfold reconcileRecorded
      cases isTornDown tenant <;> rfl

theorem reconcileTenant_verdicts (gathered : Gathered) (tenant : Tenant)
    : (reconcileTenant inventory census syntaxError gathered tenant).verdicts
      = gathered.verdicts ++ rowVerdicts syntaxError inventory census tenant := by
  unfold rowVerdicts reconcileTenant
  by_cases shared : readRunPodMode tenant.runpodMode = .shared
  · simp only [shared, if_true, List.nil_append]
  · simp only [shared, if_false]
    cases parseRecordedEndpoints syntaxError tenant with
    | error detail => rfl
    | ok endpoints =>
        simp only [verdicts_kept, List.nil_append]
        rw [counted_eq inventory tenant endpoints gathered]

/-- The verdicts are those of the rows. -/
theorem gather_verdicts
    : (gather inventory census syntaxError).verdicts
      = census.tenants.flatMap (rowVerdicts syntaxError inventory census) :=
  foldl_finds Gathered.verdicts reconcileTenant_verdicts census.tenants _

-----------------------------------------------------------------------------------------
-- What is said of the resources
-----------------------------------------------------------------------------------------

/-- A list that one member alone adds to is what that member adds. -/
theorem flatMap_of_single {α β : Type} {list : List α} {item : α} {adds : α → List β}
    (distinct : list.Nodup) (member : item ∈ list)
    (others : ∀ other ∈ list, other ≠ item → adds other = [])
    : list.flatMap adds = adds item := by
  induction list with
  | nil => exact absurd member List.not_mem_nil
  | cons head rest ih =>
      obtain ⟨fresh, distinctRest⟩ := List.nodup_cons.mp distinct
      rw [List.flatMap_cons]
      rcases List.mem_cons.mp member with here | there
      · have nothing : rest.flatMap adds = [] := by
          refine List.flatMap_eq_nil_iff.mpr fun other isOther => ?_
          refine others other (List.mem_cons_of_mem _ isOther) fun same => fresh ?_
          exact here ▸ same ▸ isOther
        rw [nothing, List.append_nil, here]
      · have apart : head ≠ item := fun same => fresh (same ▸ there)
        rw [others head List.mem_cons_self apart, List.nil_append]
        exact ih distinctRest there fun other isOther =>
          others other (List.mem_cons_of_mem _ isOther)

/-- The records of an id that a row has for itself do not depend on the order of the rows. -/
theorem lastClaim_of_single {id : String} {only : Tenant} (rows : census.tenants.Nodup)
    (member : only ∈ census.tenants)
    (alone : ∀ tenant ∈ census.tenants, RecordsId syntaxError id tenant → tenant = only)
    : lastClaim syntaxError census id
      = ((((ownRecords syntaxError only).map fun recorded => (⟨only, recorded⟩ : Claim)).filter
          fun claim => claim.recorded.id = id).reverse).head? := by
  have others : ∀ other ∈ census.tenants, other ≠ only
      → (((ownRecords syntaxError other).map fun recorded => (⟨other, recorded⟩ : Claim)).filter
          fun claim => claim.recorded.id = id) = [] := by
    intro other isRow apart
    refine List.filter_eq_nil_iff.mpr fun claim isClaim isId => apart ?_
    obtain ⟨recorded, own, same⟩ := List.mem_map.mp isClaim
    subst same
    exact alone other isRow ⟨recorded, own, of_decide_eq_true isId⟩
  rw [← flatMap_of_single rows member others, lastClaim, ← List.head?_filter, List.filter_reverse,
    ownClaims, List.filter_flatMap]

/-- Whether an id is recorded does not depend on the order of the rows. -/
theorem lastClaim_eq_none_iff {id : String}
    : lastClaim syntaxError census id = none
      ↔ ∀ tenant ∈ census.tenants, ¬ RecordsId syntaxError id tenant := by
  constructor
  · intro nothing tenant member records
    obtain ⟨claim, found⟩ := exists_lastClaim syntaxError member records
    exact nomatch nothing.symm.trans found
  · intro unrecorded
    cases found : lastClaim syntaxError census id with
    | none => rfl
    | some claim =>
        obtain ⟨member, records⟩ := of_lastClaim syntaxError found
        exact absurd records (unrecorded claim.tenant member)

/-- What is recorded is recorded in any order of the rows. -/
theorem Reordered.lastClaim_eq_none (order : Reordered census moved inventory shuffled)
    (id : String)
    : lastClaim syntaxError moved id = none ↔ lastClaim syntaxError census id = none := by
  simp only [lastClaim_eq_none_iff, order.tenants.mem_iff]

/-- An id that a deleted row records, and no other, has one last record in any order. -/
theorem Reordered.lastClaim_eq (order : Reordered census moved inventory shuffled)
    (rows : census.tenants.Nodup) {id : String} {only : Tenant} (member : only ∈ census.tenants)
    (alone : ∀ tenant ∈ census.tenants, RecordsId syntaxError id tenant → tenant = only)
    : lastClaim syntaxError moved id = lastClaim syntaxError census id := by
  have aloneMoved : ∀ tenant ∈ moved.tenants, RecordsId syntaxError id tenant → tenant = only :=
    fun tenant isRow => alone tenant (order.tenants.mem_iff.mp isRow)
  rw [lastClaim_of_single rows member alone,
    lastClaim_of_single (order.tenants.nodup_iff.mpr rows) (order.tenants.mem_iff.mpr member)
      aloneMoved]

/-- The fate of an endpoint is the same in any order. -/
theorem Reordered.attributeEndpoint (order : Reordered census moved inventory shuffled)
    (rows : census.tenants.Nodup) {endpoint : RunPodResource}
    (sole : SoleOwner census endpoint.name)
    (claims
      : ¬ InPool sharedPool endpoint → ∀ gone ∈ census.tenants, gone.status = .deleted
        → RecordsId syntaxError endpoint.id gone
        → ∀ tenant ∈ census.tenants, RecordsId syntaxError endpoint.id tenant → tenant = gone)
    : Reconcile.attributeEndpoint shuffled moved (sharedPool.getD ⟨[], []⟩)
          (gather shuffled moved syntaxError) endpoint
      = Reconcile.attributeEndpoint inventory census (sharedPool.getD ⟨[], []⟩)
          (gather inventory census syntaxError) endpoint := by
  have named := lastNamed_perm order.tenants sole
  unfold Reconcile.attributeEndpoint
  by_cases pooled : InPool sharedPool endpoint
  · simp only [inPool_iff] at pooled
    rw [if_pos pooled, if_pos pooled]
  have outside := claims pooled
  simp only [inPool_iff] at pooled
  rw [if_neg pooled, if_neg pooled]
  simp only [gather_lastClaim, owningTenantByName_last, named, survivor, namesake, orphanConfidence,
    order.accountLabel, order.censusComplete]
  by_cases goneRecords : ∃ gone ∈ census.tenants, gone.status = .deleted
      ∧ RecordsId syntaxError endpoint.id gone
  · obtain ⟨gone, member, deleted, records⟩ := goneRecords
    rw [order.lastClaim_eq rows member (outside gone member deleted records)]
  · have alive {claim : Claim} (member : claim.tenant ∈ census.tenants)
        (records : RecordsId syntaxError endpoint.id claim.tenant)
        : isTornDown claim.tenant = false :=
      isTornDown_eq_false.mpr fun deleted => goneRecords ⟨claim.tenant, member, deleted, records⟩
    cases found : lastClaim syntaxError census endpoint.id with
    | none => rw [(order.lastClaim_eq_none endpoint.id).mpr found]
    | some claim =>
        cases foundMoved : lastClaim syntaxError moved endpoint.id with
        | none =>
            rw [(order.lastClaim_eq_none endpoint.id).mp foundMoved] at found
            cases found
        | some other =>
            obtain ⟨member, records⟩ := of_lastClaim syntaxError found
            obtain ⟨otherMember, otherRecords⟩ := of_lastClaim syntaxError foundMoved
            simp only [alive member records,
              alive (order.tenants.mem_iff.mp otherMember) otherRecords, Bool.false_eq_true,
              if_false]

/-- The fate of a template is the same in any order. -/
theorem Reordered.attributeTemplate (order : Reordered census moved inventory shuffled)
    {template : RunPodResource} (sole : SoleOwner census template.name)
    : Reconcile.attributeTemplate shuffled moved (sharedPool.getD ⟨[], []⟩)
          (gather shuffled moved syntaxError) template
      = Reconcile.attributeTemplate inventory census (sharedPool.getD ⟨[], []⟩)
          (gather inventory census syntaxError) template := by
  have named := lastNamed_perm order.tenants sole
  have alive : (gather shuffled moved syntaxError).liveNames.has template.name
      = (gather inventory census syntaxError).liveNames.has template.name := by
    rw [Bool.eq_iff_iff, liveNames_iff, liveNames_iff]
    simp only [NamedByRecord, order.tenants.mem_iff]
  unfold Reconcile.attributeTemplate
  simp only [alive, owningTenantByName_last, named, leftover, orphanConfidence, order.accountLabel,
    order.censusComplete]

-----------------------------------------------------------------------------------------
-- The report
-----------------------------------------------------------------------------------------

/-- Two reports with the same findings, and of snapshots that are whole alike, have one verdict. -/
theorem verdict_congr (order : Reordered census moved inventory shuffled)
    (same
      : ∀ finding, finding ∈ (reconcileRunPod syntaxError moved shuffled sharedPool).findings
        ↔ finding ∈ (reconcileRunPod syntaxError census inventory sharedPool).findings)
    : (reconcileRunPod syntaxError moved shuffled sharedPool).verdict
      = (reconcileRunPod syntaxError census inventory sharedPool).verdict := by
  have drift : (reconcileRunPod syntaxError moved shuffled sharedPool).verdict = .drift
      ↔ (reconcileRunPod syntaxError census inventory sharedPool).verdict = .drift := by
    simp only [verdict_drift_iff, same]
  have clean : (reconcileRunPod syntaxError moved shuffled sharedPool).verdict = .clean
      ↔ (reconcileRunPod syntaxError census inventory sharedPool).verdict = .clean := by
    simp only [verdict_clean_iff, List.eq_nil_iff_forall_not_mem, same, order.inventoryComplete,
      order.censusComplete]
  cases first : (reconcileRunPod syntaxError moved shuffled sharedPool).verdict with
  | drift => exact (drift.mp first).symm
  | clean => exact (clean.mp first).symm
  | unproven =>
      cases second : (reconcileRunPod syntaxError census inventory sharedPool).verdict with
      | drift => exact nomatch first.symm.trans (drift.mpr second)
      | clean => exact nomatch first.symm.trans (clean.mpr second)
      | unproven => rfl

/-- Uncontested rows are reported alike in any order. -/
theorem Uncontested.sameReport
    (uncontested : Uncontested syntaxError census inventory sharedPool)
    (distinct : Distinct census inventory) (order : Reordered census moved inventory shuffled)
    : SameReport (reconcileRunPod syntaxError moved shuffled sharedPool)
        (reconcileRunPod syntaxError census inventory sharedPool) := by
  have rows : census.tenants.Nodup := .of_map Tenant.id distinct.ids
  have same := order.sameAnswers distinct.endpoints
  have endpointFate (endpoint : RunPodResource) (listed : endpoint ∈ inventory.endpoints) :=
    order.attributeEndpoint rows
      ((soleOwner_iff distinct.slugs).mpr
        (uncontested.names endpoint (List.mem_append_left _ listed)))
      (uncontested.claims endpoint listed)
  have templateFate (template : RunPodResource) (listed : template ∈ inventory.templates)
      : attributeTemplate shuffled moved (sharedPool.getD ⟨[], []⟩)
            (gather shuffled moved syntaxError) template
        = attributeTemplate inventory census (sharedPool.getD ⟨[], []⟩)
            (gather inventory census syntaxError) template :=
    order.attributeTemplate
      ((soleOwner_iff distinct.slugs).mpr
        (uncontested.names template (List.mem_append_right _ listed)))
  have findings : ∀ finding,
      finding ∈ (reconcileRunPod syntaxError moved shuffled sharedPool).findings
      ↔ finding ∈ (reconcileRunPod syntaxError census inventory sharedPool).findings := by
    intro finding
    rw [mem_findings, mem_findings, gather_findings_eq, gather_findings_eq, same.tenantFindings]
    refine or_congr ?_ (or_congr ?_ ?_)
    · simp only [List.mem_flatMap, order.tenants.mem_iff]
    · simp only [order.endpoints.mem_iff]
      refine exists_congr fun endpoint => and_congr_right fun listed => ?_
      rw [endpointFate endpoint listed]
    · simp only [order.templates.mem_iff]
      refine exists_congr fun template => and_congr_right fun listed => ?_
      rw [templateFate template listed]
  refine ⟨?_, ?_, ?_, ?_, verdict_congr order findings⟩
  · intro essence
    simp only [List.mem_map, findings]
  · intro endpoint
    simp only [reconcileRunPod, List.mem_filter, order.endpoints.mem_iff, decide_eq_true_eq]
    refine and_congr_right fun listed => ?_
    rw [endpointFate endpoint listed]
  · intro template
    simp only [reconcileRunPod, List.mem_filter, order.templates.mem_iff, decide_eq_true_eq]
    refine and_congr_right fun listed => ?_
    rw [templateFate template listed]
  · change (gather shuffled moved syntaxError).verdicts.Perm
      (gather inventory census syntaxError).verdicts
    have verdicts : rowVerdicts syntaxError shuffled moved
        = rowVerdicts syntaxError inventory census := by
      unfold rowVerdicts
      rw [same.reconcileTenant order.censusComplete]
    rw [gather_verdicts, gather_verdicts, verdicts]
    exact order.tenants.flatMap_right _

/-- The rows with one of them read last. -/
def readLast (census : TenantCensus) (last : Tenant) : TenantCensus :=
  { census with tenants := census.tenants.erase last ++ [last] }

theorem reordered_readLast (inventory : RunPodInventory) {last : Tenant}
    (member : last ∈ census.tenants)
    : Reordered census (readLast census last) inventory inventory where
  tenants := (List.perm_append_singleton _ _).trans (List.perm_cons_erase member).symm
  censusComplete := rfl
  endpoints := .refl _
  templates := .refl _
  inventoryComplete := rfl
  accountLabel := rfl

/-- A row that is read last has the last word on what it records. -/
theorem lastClaim_readLast (census : TenantCensus) {last : Tenant} {id : String}
    (records : RecordsId syntaxError id last)
    : ∃ claim, lastClaim syntaxError (readLast census last) id = some claim
        ∧ claim.tenant = last := by
  have cut : (readLast census last).tenants = census.tenants.erase last ++ last :: [] := rfl
  obtain ⟨claim, found, same⟩ := gather_claim ⟨"", "", true, [], []⟩ (readLast census last)
    syntaxError cut records fun _ none => absurd none List.not_mem_nil
  rw [gather_lastClaim] at found
  exact ⟨claim, found, same⟩

/-- An endpoint that is recorded by the row that is read last is that row's orphan, or in use. -/
theorem fate_readLast (inventory : RunPodInventory) (census : TenantCensus) {last : Tenant}
    {endpoint : RunPodResource}
    (outside : ¬ InPool sharedPool endpoint) (records : RecordsId syntaxError endpoint.id last)
    : ∃ claim named, claim.tenant = last
        ∧ Reconcile.attributeEndpoint inventory (readLast census last)
            (sharedPool.getD ⟨[], []⟩) (gather inventory (readLast census last) syntaxError)
            endpoint
          = if isTornDown last then .orphan (survivor inventory endpoint claim named)
            else .inUse := by
  obtain ⟨claim, found, same⟩ := lastClaim_readLast census records
  rw [inPool_iff] at outside
  refine ⟨claim, (owningTenantByName (readLast census last)).get? endpoint.name, same, ?_⟩
  unfold Reconcile.attributeEndpoint
  rw [if_neg outside]
  simp only [gather_lastClaim, found, same]

/-- In reports that are the same in any order a deleted row shares no endpoint: of two rows the one
that is read last would be named.
-/
theorem OrderFree.claims (free : OrderFree syntaxError census inventory sharedPool)
    (ids : (census.tenants.map Tenant.id).Nodup) {endpoint : RunPodResource}
    (listed : endpoint ∈ inventory.endpoints) (outside : ¬ InPool sharedPool endpoint)
    {gone tenant : Tenant} (goneMember : gone ∈ census.tenants) (deleted : gone.status = .deleted)
    (goneRecords : RecordsId syntaxError endpoint.id gone) (member : tenant ∈ census.tenants)
    (records : RecordsId syntaxError endpoint.id tenant)
    : tenant = gone := by
  have goneLast := free.sameReport _ inventory (reordered_readLast inventory goneMember)
  have tenantLast := free.sameReport _ inventory (reordered_readLast inventory member)
  obtain ⟨claim, named, ofGone, fate⟩ := fate_readLast inventory census outside goneRecords
  rw [if_pos (by simp [isTornDown, deleted])] at fate
  have finding := (mem_findings syntaxError (readLast census gone) inventory sharedPool).mpr
    (.inr (.inl ⟨endpoint, listed, fate⟩))
  have said := (goneLast.findings _).mp (List.mem_map_of_mem finding)
  obtain ⟨other, otherFinding, same⟩ := List.mem_map.mp ((tenantLast.findings _).mpr said)
  simp only [DriftFinding.essence, Prod.mk.injEq] at same
  obtain ⟨kind, resourceId, resourceName, tenantId, _, _⟩ := same
  obtain ⟨_, otherFate⟩ := orphanEndpoint_listed syntaxError (readLast census tenant) inventory
    sharedPool otherFinding kind resourceId resourceName
  obtain ⟨otherClaim, otherNamed, ofTenant, isFate⟩ :=
    fate_readLast inventory census outside records
  rw [otherFate] at isFate
  split at isFate
  next =>
    cases isFate
    refine List.inj_on_of_nodup_map ids member goneMember ?_
    rw [← ofTenant, ← ofGone]
    exact tenantId
  next => cases isFate

/-- The report is the same in any order exactly when the rows are uncontested. -/
theorem orderFree_iff (distinct : Distinct census inventory)
    : OrderFree syntaxError census inventory sharedPool
      ↔ Uncontested syntaxError census inventory sharedPool := by
  constructor
  · intro free
    constructor
    · intro resource listed
      exact (soleOwner_iff distinct.slugs).mp (free.soleOwner resource listed)
    · intro endpoint listed outside gone goneMember deleted goneRecords tenant member records
      exact free.claims distinct.ids listed outside goneMember deleted goneRecords member records
  · intro uncontested
    constructor
    · intro moved shuffled order
      exact uncontested.sameReport distinct order
    · intro resource listed
      exact (soleOwner_iff distinct.slugs).mpr (uncontested.names resource listed)

-----------------------------------------------------------------------------------------
-- Rows whose order does not matter, and rows whose order does
-----------------------------------------------------------------------------------------

/-- A row of a tenant, with the endpoints that it records, if it records any. -/
def rowOf (id slug : String) (status : TenantLifecycle) (endpoints : Option (List TenantEndpoint))
    : Tenant where
  id
  slug
  accountId := "acct_1"
  status
  endpointsJson := endpoints.map stringifyEndpoints

/-- A deleted tenant left an endpoint behind, and the rows beside it have none. -/
def leftBehind : TenantCensus where
  tenants := [rowOf "ten_1" "hero" .deleted (some adoptedEndpoints), rowOf "ten_2" "bard" .live none]
  complete := true

theorem orderFree_leftBehind : OrderFree id leftBehind adoptedInventory none := by
  have distinct : Distinct leftBehind adoptedInventory := ⟨by decide, by decide, by decide⟩
  refine (orderFree_iff distinct).mpr ⟨?_, ?_⟩
  · unfold Contested
    decide +kernel
  · have deletedRow : ∀ gone ∈ leftBehind.tenants, gone.status = .deleted
        → gone = rowOf "ten_1" "hero" .deleted (some adoptedEndpoints) := by
      simp [leftBehind, rowOf]
    intro endpoint _ _ gone member deleted _ tenant isRow records
    rw [deletedRow gone member deleted]
    rcases List.mem_cons.mp isRow with first | second
    · exact first
    · rw [List.mem_singleton.mp second] at records
      obtain ⟨recorded, own, _⟩ := records
      exact absurd own List.not_mem_nil

/-- The slug of one tenant is the slug of another and -audio. -/
def audioRows : List Tenant :=
  [rowOf "ten_1" "hero" .live none, rowOf "ten_2" "hero-audio" .live none]

/-- The account has one template, of a name that both of them would have given. -/
def audioInventory : RunPodInventory where
  accountLabel := "prod"
  readAt := "2026-07-26"
  complete := true
  endpoints := []
  templates := [⟨"tpl1", "vivijure-hero-audio-upscale"⟩]

/-- A deleted tenant and a live one record the same endpoint. -/
def adoptedRows : List Tenant :=
  [rowOf "ten_1" "hero" .deleted (some adoptedEndpoints),
    rowOf "ten_2" "bard" .live (some adoptedEndpoints)]

/-- The row that is read last is named as the owner of the template, and decides whether an endpoint
in use is reported as an orphan.
-/
theorem lastRow_decides
    : (audioRows ++ adoptedRows).all (fun tenant => (validateSlug tenant.slug).isOk)
      ∧ (Distinct ⟨audioRows, true⟩ audioInventory
        ∧ ¬ OrderFree id ⟨audioRows, true⟩ audioInventory none)
      ∧ (Distinct ⟨adoptedRows, true⟩ adoptedInventory
        ∧ ¬ OrderFree id ⟨adoptedRows, true⟩ adoptedInventory none) := by
  have distinct : Distinct ⟨adoptedRows, true⟩ adoptedInventory :=
    ⟨by decide, by decide, by decide⟩
  refine ⟨by decide +kernel, ⟨⟨by decide, by decide, by decide⟩, fun free => ?_⟩, distinct,
    fun free => ?_⟩
  · have same := free.sameReport ⟨audioRows.reverse, true⟩ audioInventory
      ⟨List.reverse_perm _, rfl, .refl _, .refl _, rfl, rfl⟩
    have said := (same.findings (.orphanTemplate, some "tpl1", some "vivijure-hero-audio-upscale",
      "ten_1", some "audio-upscale", .proven)).mp (by decide +kernel)
    exact absurd said (by decide +kernel)
  · have records : ∀ tenant ∈ adoptedRows, RecordsId id "ep1" tenant := by
      unfold RecordsId
      decide +kernel
    have first : rowOf "ten_1" "hero" .deleted (some adoptedEndpoints) ∈ adoptedRows :=
      List.mem_cons_self
    have second : rowOf "ten_2" "bard" .live (some adoptedEndpoints) ∈ adoptedRows :=
      List.mem_cons_of_mem _ List.mem_cons_self
    have outside : ¬ InPool none ⟨"ep1", "vivijure-hero-backend"⟩ := by simp [InPool]
    have same := free.claims distinct.ids List.mem_cons_self outside first rfl (records _ first)
      second (records _ second)
    exact absurd (congrArg Tenant.id same) (by simp [rowOf])

end ControlPlane.Reconcile
