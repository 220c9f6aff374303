import ControlPlane.Reconcile.Accounting
import ControlPlane.Reconcile.Orphans

/-! A read that goes on: rows and resources are added to what was read. What the report calls
proven should stay in it, yet a row that is added may take over an endpoint that outlived another,
and a resource that is added may stand in for one of the same id.
-/

namespace ControlPlane.Reconcile

open ControlPlane.Library
open ControlPlane.Provision
open ControlPlane.Store

--------------------------------------------------------------------------------
-- What is found about one row
--------------------------------------------------------------------------------

/-- A loop finds what its steps find, by induction on the list it runs over. -/
theorem foldl_finds {α β σ : Type} (findings : σ → List β) {step : σ → α → σ}
    {found : α → List β}
    (each : ∀ state item, findings (step state item) = findings state ++ found item)
    (list : List α) (state : σ)
    : findings (list.foldl step state) = findings state ++ list.flatMap found := by
  induction list generalizing state with
  | nil => simp
  | cons item later ih =>
      rw [List.foldl_cons, ih, each, List.flatMap_cons, List.append_assoc]

section Rows

variable (syntaxError : String → String) (inventory : RunPodInventory)

/-- What the pass finds about one recorded endpoint. -/
def recordedFindings (tenant : Tenant) (recorded : RecordedEndpoint) : List DriftFinding :=
  if isTornDown tenant then []
  else endpointFindings inventory tenant recorded ++ templateFindings inventory tenant recorded

/-- What the pass finds about one row. -/
def tenantFindings (tenant : Tenant) : List DriftFinding :=
  if readRunPodMode tenant.runpodMode = .shared then []
  else
    match parseRecordedEndpoints syntaxError tenant with
    | .error detail =>
        [rowFinding .recordUnreadable .record .proven tenant none none none detail]
    | .ok endpoints => endpoints.flatMap (recordedFindings inventory tenant)

theorem reconcileRecorded_findings (tenant : Tenant) (state : Gathered × Counted)
    (recorded : RecordedEndpoint)
    : (reconcileRecorded inventory tenant state recorded).1.findings
      = state.1.findings ++ recordedFindings inventory tenant recorded := by
  unfold reconcileRecorded recordedFindings
  cases isTornDown tenant <;> simp

theorem reconcileTenant_findings (census : TenantCensus) (gathered : Gathered) (tenant : Tenant)
    : (reconcileTenant inventory census syntaxError gathered tenant).findings
      = gathered.findings ++ tenantFindings syntaxError inventory tenant := by
  unfold reconcileTenant tenantFindings
  by_cases shared : readRunPodMode tenant.runpodMode = .shared
  · simp only [shared, if_true, List.append_nil]
  · simp only [shared, if_false]
    cases parseRecordedEndpoints syntaxError tenant with
    | error detail => rfl
    | ok endpoints =>
        exact foldl_finds (fun state : Gathered × Counted => state.1.findings)
          (reconcileRecorded_findings inventory tenant) endpoints (gathered, {})

/-- The pass finds what it finds about each row, and no row has a part in what is found about
another.
-/
theorem gather_findings_eq (census : TenantCensus)
    : (gather inventory census syntaxError).findings
      = census.tenants.flatMap (tenantFindings syntaxError inventory) :=
  foldl_finds Gathered.findings (reconcileTenant_findings syntaxError inventory census)
    census.tenants _

/-- What is found about a row is that it cannot be read, whatever the snapshot, or is about one
of its records.
-/
theorem of_mem_tenantFindings {tenant : Tenant} {finding : DriftFinding}
    (member : finding ∈ tenantFindings syntaxError inventory tenant)
    : (finding.kind = .recordUnreadable
        ∧ ∀ other : RunPodInventory, finding ∈ tenantFindings syntaxError other tenant)
      ∨ isTornDown tenant = false ∧ ∃ recorded ∈ ownRecords syntaxError tenant,
          finding ∈ endpointFindings inventory tenant recorded
            ++ templateFindings inventory tenant recorded := by
  unfold tenantFindings at member ⊢
  unfold ownRecords
  split at member
  next => exact absurd member List.not_mem_nil
  next dedicated =>
    simp only [if_neg dedicated]
    split at member
    next detail parsed =>
      rw [parsed]
      exact .inl ⟨(List.mem_singleton.mp member) ▸ rfl, fun _ => member⟩
    next endpoints parsed =>
      obtain ⟨recorded, own, found⟩ := List.mem_flatMap.mp member
      unfold recordedFindings at found
      split at found
      next => exact absurd found List.not_mem_nil
      next alive =>
        refine .inr ⟨Bool.eq_false_of_not_eq_true alive, recorded, ?_, found⟩
        rw [parsed]
        exact own

/-- What is found about the records of a row that is not torn down is found about the row. -/
theorem mem_tenantFindings {tenant : Tenant} {recorded : RecordedEndpoint}
    {finding : DriftFinding} (alive : isTornDown tenant = false)
    (own : recorded ∈ ownRecords syntaxError tenant)
    (found : finding ∈ endpointFindings inventory tenant recorded
      ++ templateFindings inventory tenant recorded)
    : finding ∈ tenantFindings syntaxError inventory tenant := by
  unfold ownRecords at own
  unfold tenantFindings
  split at own
  next => exact absurd own List.not_mem_nil
  next dedicated =>
    rw [if_neg dedicated]
    cases parsed : parseRecordedEndpoints syntaxError tenant with
    | error detail =>
        rw [parsed] at own
        exact absurd own List.not_mem_nil
    | ok endpoints =>
        rw [parsed] at own
        refine List.mem_flatMap.mpr ⟨recorded, own, ?_⟩
        simpa only [recordedFindings, alive, Bool.false_eq_true, if_false] using found

/-- The finding that a recorded endpoint goes by another name. -/
def renamed (tenant : Tenant) (recorded : RecordedEndpoint) (live : RunPodResource)
    : DriftFinding :=
  rowFinding .recordEndpointRenamed .endpoint .proven tenant
    (some recorded.id) (some live.name) (orNull recorded.key)
    ("endpoint " ++ recorded.id ++ " exists as \"" ++ live.name
      ++ "\" but the record calls it \"" ++ recorded.name
      ++ "\": provisioning adopts BY NAME, so a re-provision would build a second one")

/-- A recorded endpoint is missing, or the last one of its id goes by another name. -/
theorem of_mem_endpointFindings {tenant : Tenant} {recorded : RecordedEndpoint}
    {finding : DriftFinding} (member : finding ∈ endpointFindings inventory tenant recorded)
    : (finding.kind = .recordEndpointMissing ∧ finding.confidence = absenceConfidence inventory)
      ∨ ∃ live, lastEndpoint inventory recorded.id = some live
          ∧ (recorded.name ≠ "" ∧ live.name ≠ recorded.name)
          ∧ finding = renamed tenant recorded live := by
  unfold endpointFindings at member
  rw [endpointsById_last] at member
  cases isLast : lastEndpoint inventory recorded.id with
  | none =>
      rw [isLast] at member
      rw [List.mem_singleton.mp member]
      exact .inl ⟨rfl, rfl⟩
  | some live =>
      rw [isLast] at member
      dsimp only at member
      split at member
      next other => exact .inr ⟨live, rfl, other, List.mem_singleton.mp member⟩
      next => exact absurd member List.not_mem_nil

theorem renamed_mem {tenant : Tenant} {recorded : RecordedEndpoint} {live : RunPodResource}
    (isLast : lastEndpoint inventory recorded.id = some live)
    (other : recorded.name ≠ "" ∧ live.name ≠ recorded.name)
    : renamed tenant recorded live ∈ endpointFindings inventory tenant recorded := by
  unfold endpointFindings
  rw [endpointsById_last, isLast]
  dsimp only
  rw [if_pos other]
  exact List.mem_singleton_self _

theorem of_mem_templateFindings {tenant : Tenant} {recorded : RecordedEndpoint}
    {finding : DriftFinding} (member : finding ∈ templateFindings inventory tenant recorded)
    : finding.kind = .recordTemplateMissing
      ∧ finding.confidence = absenceConfidence inventory := by
  unfold templateFindings at member
  split at member
  next => exact absurd member List.not_mem_nil
  next =>
    rw [List.mem_singleton.mp member]
    exact ⟨rfl, rfl⟩

end Rows

theorem absence_proven {inventory : RunPodInventory}
    (proven : absenceConfidence inventory = .proven)
    : inventory.complete = true := by
  cases whole : inventory.complete with
  | true => rfl
  | false => simp [absenceConfidence, whole] at proven

theorem orphan_proven {census : TenantCensus} (proven : orphanConfidence census = .proven)
    : census.complete = true := by
  cases whole : census.complete with
  | true => rfl
  | false => simp [orphanConfidence, whole] at proven

--------------------------------------------------------------------------------
-- A read that goes on
--------------------------------------------------------------------------------

/-- A longer read of the rows and of the same account. What was whole has nothing to gain. -/
structure LongerRead (census : TenantCensus) (inventory : RunPodInventory) where
  grown : TenantCensus
  full : RunPodInventory
  tenants : census.tenants.Sublist grown.tenants
  endpoints : inventory.endpoints.Sublist full.endpoints
  templates : inventory.templates.Sublist full.templates
  sameAccount : full.accountLabel = inventory.accountLabel
  wholeCensus : census.complete = true → grown = census
  wholeInventory : inventory.complete = true → full = inventory

section Longer

variable {syntaxError : String → String} {census : TenantCensus} {inventory : RunPodInventory}
  {sharedPool : Option PoolExclusion}

/-- No added resource gives another name to an endpoint that goes by a name not recorded. -/
def NamesStay (syntaxError : String → String) (longer : LongerRead census inventory)
    (tenant : Tenant)
    : Prop :=
  ∀ recorded ∈ ownRecords syntaxError tenant, recorded.name ≠ "" →
    ∀ live, lastEndpoint inventory recorded.id = some live → live.name ≠ recorded.name →
      ∃ later, lastEndpoint longer.full recorded.id = some later ∧ later.name = live.name

/-- What is proven about a row stays so when the last endpoints keep their names. -/
theorem tenantFinding_stays (longer : LongerRead census inventory) {tenant : Tenant}
    (names : tenant.status ≠ .deleted → NamesStay syntaxError longer tenant)
    {finding : DriftFinding} (member : finding ∈ tenantFindings syntaxError inventory tenant)
    (proven : finding.confidence = .proven)
    : finding ∈ tenantFindings syntaxError longer.full tenant := by
  rcases of_mem_tenantFindings syntaxError inventory member with
    ⟨_, always⟩ | ⟨alive, recorded, own, found⟩
  · exact always longer.full
  rcases List.mem_append.mp found with ofEndpoint | ofTemplate
  · rcases of_mem_endpointFindings inventory ofEndpoint with
      ⟨_, absent⟩ | ⟨live, isLast, other, isRenamed⟩
    · rw [longer.wholeInventory (absence_proven (absent.symm.trans proven))]
      exact member
    · obtain ⟨later, laterLast, sameName⟩ :=
        names (isTornDown_eq_false.mp alive) recorded own other.1 live isLast other.2
      have same : renamed tenant recorded later = renamed tenant recorded live := by
        rw [renamed, renamed, sameName]
      rw [isRenamed, ← same]
      refine mem_tenantFindings syntaxError longer.full alive own (List.mem_append_left _ ?_)
      exact renamed_mem longer.full laterLast ⟨other.1, sameName ▸ other.2⟩
  · obtain ⟨_, absent⟩ := of_mem_templateFindings inventory ofTemplate
    rw [longer.wholeInventory (absence_proven (absent.symm.trans proven))]
    exact member

/-- The report says of a renamed endpoint what the last one of its id is called. -/
theorem renamed_reported {tenant : Tenant} {recorded : RecordedEndpoint} {live : RunPodResource}
    (reported : renamed tenant recorded live
      ∈ (reconcileRunPod syntaxError census inventory sharedPool).findings)
    : ∃ last, lastEndpoint inventory recorded.id = some last ∧ last.name = live.name := by
  rcases (mem_findings ..).mp reported with ofRow | ⟨_, _, fate⟩ | ⟨_, _, fate⟩
  · rw [gather_findings_eq] at ofRow
    obtain ⟨row, _, found⟩ := List.mem_flatMap.mp ofRow
    rcases of_mem_tenantFindings syntaxError inventory found with
      ⟨unreadable, _⟩ | ⟨_, other, _, ofRecord⟩
    · exact nomatch unreadable
    rcases List.mem_append.mp ofRecord with ofEndpoint | ofTemplate
    · rcases of_mem_endpointFindings inventory ofEndpoint with
        ⟨missing, _⟩ | ⟨last, isLast, _, same⟩
      · exact nomatch missing
      · have sameId : recorded.id = other.id := Option.some.inj (congrArg (·.resourceId) same)
        have sameName : live.name = last.name := Option.some.inj (congrArg (·.resourceName) same)
        exact ⟨last, sameId ▸ isLast, sameName.symm⟩
    · exact nomatch (of_mem_templateFindings inventory ofTemplate).1
  · exact nomatch (attributeEndpoint_orphan fate).1
  · exact nomatch (attributeTemplate_orphan fate).1

/-- An endpoint of a deleted row is an orphan that outlived it. -/
theorem attributeEndpoint_survivor {endpoint : RunPodResource} {claim : Claim}
    (own : ¬ InPool sharedPool endpoint)
    (last : lastClaim syntaxError census endpoint.id = some claim)
    (deleted : claim.tenant.status = .deleted)
    : attributeEndpoint inventory census (sharedPool.getD ⟨[], []⟩)
        (gather inventory census syntaxError) endpoint
      = .orphan (survivor inventory endpoint claim (lastNamed census endpoint.name)) := by
  have gone : isTornDown claim.tenant = true := decide_eq_true deleted
  unfold attributeEndpoint
  rw [if_neg (fun pooled => own (inPool_iff.mpr pooled))]
  simp only [gather_lastClaim, owningTenantByName_last, last, gone, if_true]

/-- An orphaned endpoint outlived a deleted row, or is one for want of a row that records it. -/
theorem orphanEndpoint_cases {endpoint : RunPodResource} {finding : DriftFinding}
    (fate : attributeEndpoint inventory census (sharedPool.getD ⟨[], []⟩)
      (gather inventory census syntaxError) endpoint = .orphan finding)
    : (¬ InPool sharedPool endpoint
        ∧ ∃ claim, lastClaim syntaxError census endpoint.id = some claim
            ∧ claim.tenant.status = .deleted
            ∧ finding = survivor inventory endpoint claim (lastNamed census endpoint.name))
      ∨ finding.confidence = orphanConfidence census := by
  unfold attributeEndpoint at fate
  split at fate
  next => cases fate
  next own =>
    simp only [gather_lastClaim, owningTenantByName_last] at fate
    split at fate
    next claim last =>
      split at fate
      next gone =>
        cases fate
        exact .inl ⟨fun pooled => own (inPool_iff.mp pooled), claim, last,
          of_decide_eq_true gone, rfl⟩
      next => cases fate
    next =>
      split at fate <;> cases fate
      exact .inr rfl

theorem orphanTemplate_confidence {template : RunPodResource} {finding : DriftFinding}
    (fate : attributeTemplate inventory census (sharedPool.getD ⟨[], []⟩)
      (gather inventory census syntaxError) template = .orphan finding)
    : finding.confidence = orphanConfidence census := by
  unfold attributeTemplate at fate
  split at fate
  next => cases fate
  next =>
    split at fate <;> cases fate
    rfl

/-- The fate of an endpoint is the same in every snapshot of the account. -/
theorem attributeEndpoint_sameAccount {full : RunPodInventory} {pool : PoolExclusion}
    (sameAccount : full.accountLabel = inventory.accountLabel) (endpoint : RunPodResource)
    : attributeEndpoint full census pool (gather full census syntaxError) endpoint
      = attributeEndpoint inventory census pool (gather inventory census syntaxError)
          endpoint := by
  simp only [attributeEndpoint, gather_lastClaim, survivor, sameAccount]

/-- The fate of a template is the same in every snapshot of the account. -/
theorem attributeTemplate_sameAccount {full : RunPodInventory} {pool : PoolExclusion}
    (sameAccount : full.accountLabel = inventory.accountLabel) (template : RunPodResource)
    : attributeTemplate full census pool (gather full census syntaxError) template
      = attributeTemplate inventory census pool (gather inventory census syntaxError)
          template := by
  simp only [attributeTemplate, gather_liveNames_eq, leftover, sameAccount]

/-- Two deleted rows leave the same finding when they have the id, the slug and the key in
common.
-/
theorem survivor_eq_iff {full : RunPodInventory} {endpoint : RunPodResource}
    {claim later : Claim} {grown : TenantCensus}
    (sameAccount : full.accountLabel = inventory.accountLabel)
    (deleted : claim.tenant.status = .deleted) (gone : later.tenant.status = .deleted)
    : survivor full endpoint later (lastNamed grown endpoint.name)
        = survivor inventory endpoint claim (lastNamed census endpoint.name)
      ↔ later.tenant.id = claim.tenant.id ∧ later.tenant.slug = claim.tenant.slug
        ∧ outlivedKey grown endpoint later = outlivedKey census endpoint claim := by
  constructor
  · intro same
    exact ⟨congrArg (·.tenantId) same, congrArg (·.tenantSlug) same,
      congrArg (·.endpointKey) same⟩
  · intro h
    obtain ⟨sameId, sameSlug, sameKey⟩ := h
    simp only [survivor, rowFinding, sameId, sameSlug, sameAccount, deleted, gone]
    unfold outlivedKey at sameKey
    rw [sameKey]

/-- No added row takes over an endpoint that outlived a deleted one: the row that records it
last is deleted still, and what is said of it is the same.
-/
def OutlivedStays (syntaxError : String → String) (longer : LongerRead census inventory)
    (endpoint : RunPodResource)
    : Prop :=
  ∀ claim, lastClaim syntaxError census endpoint.id = some claim →
    claim.tenant.status = .deleted →
    ∃ later, lastClaim syntaxError longer.grown endpoint.id = some later
      ∧ later.tenant.status = .deleted
      ∧ later.tenant.id = claim.tenant.id ∧ later.tenant.slug = claim.tenant.slug
      ∧ outlivedKey longer.grown endpoint later = outlivedKey census endpoint claim

/-- An endpoint that outlived a deleted row is still reported, with the same finding, only if no
added row takes it over.
-/
theorem outlived_of_reported (longer : LongerRead census inventory) {endpoint : RunPodResource}
    {claim : Claim} (own : ¬ InPool sharedPool endpoint)
    (last : lastClaim syntaxError census endpoint.id = some claim)
    (deleted : claim.tenant.status = .deleted)
    (reported : survivor inventory endpoint claim (lastNamed census endpoint.name)
      ∈ (reconcileRunPod syntaxError longer.grown longer.full sharedPool).findings)
    : ∃ later, lastClaim syntaxError longer.grown endpoint.id = some later
        ∧ later.tenant.status = .deleted
        ∧ later.tenant.id = claim.tenant.id ∧ later.tenant.slug = claim.tenant.slug
        ∧ outlivedKey longer.grown endpoint later = outlivedKey census endpoint claim := by
  have fate := (orphanEndpoint_listed _ _ _ _ reported rfl rfl rfl).2
  obtain ⟨member, records⟩ := of_lastClaim syntaxError last
  obtain ⟨later, laterLast⟩ :=
    exists_lastClaim syntaxError (longer.tenants.subset member) records
  by_cases gone : later.tenant.status = .deleted
  · rw [attributeEndpoint_survivor own laterLast gone] at fate
    have same := Attribution.orphan.inj fate
    exact ⟨later, laterLast, gone, (survivor_eq_iff longer.sameAccount deleted gone).mp same⟩
  · have inUse : attributeEndpoint longer.full longer.grown (sharedPool.getD ⟨[], []⟩)
        (gather longer.full longer.grown syntaxError) endpoint = .inUse :=
      endpoint_inUse_iff.mpr (.inr ⟨later, laterLast, gone⟩)
    exact nomatch inUse.symm.trans fate

/-- A proven orphan among the endpoints is still reported when no added row takes it over. -/
theorem orphanEndpoint_stays (longer : LongerRead census inventory) {endpoint : RunPodResource}
    (listed : endpoint ∈ inventory.endpoints)
    (outlived : ¬ InPool sharedPool endpoint → OutlivedStays syntaxError longer endpoint)
    {finding : DriftFinding} (proven : finding.confidence = .proven)
    (fate : attributeEndpoint inventory census (sharedPool.getD ⟨[], []⟩)
      (gather inventory census syntaxError) endpoint = .orphan finding)
    : finding ∈ (reconcileRunPod syntaxError longer.grown longer.full sharedPool).findings := by
  refine (mem_findings ..).mpr (.inr (.inl ⟨endpoint, longer.endpoints.subset listed, ?_⟩))
  rcases orphanEndpoint_cases fate with ⟨own, claim, last, deleted, isSurvivor⟩ | byName
  · obtain ⟨later, laterLast, gone, same⟩ := outlived own claim last deleted
    rw [attributeEndpoint_survivor own laterLast gone, isSurvivor,
      (survivor_eq_iff longer.sameAccount deleted gone).mpr same]
  · rw [longer.wholeCensus (orphan_proven (byName.symm.trans proven)),
      attributeEndpoint_sameAccount longer.sameAccount]
    exact fate

/-- A proven orphan among the templates is proven by a whole census, and stays. -/
theorem orphanTemplate_stays (longer : LongerRead census inventory) {template : RunPodResource}
    (listed : template ∈ inventory.templates) {finding : DriftFinding}
    (proven : finding.confidence = .proven)
    (fate : attributeTemplate inventory census (sharedPool.getD ⟨[], []⟩)
      (gather inventory census syntaxError) template = .orphan finding)
    : finding ∈ (reconcileRunPod syntaxError longer.grown longer.full sharedPool).findings := by
  refine (mem_findings ..).mpr (.inr (.inr ⟨template, longer.templates.subset listed, ?_⟩))
  rw [longer.wholeCensus (orphan_proven ((orphanTemplate_confidence fate).symm.trans proven)),
    attributeTemplate_sameAccount longer.sameAccount]
  exact fate

variable (syntaxError sharedPool)

/-- The report accounts for every resource of the snapshot once, its verdict says what it found,
and what it calls proven is still reported after a longer read.
-/
structure ReportAccounts (longer : LongerRead census inventory) : Prop where
  endpoints : ∀ endpoint ∈ inventory.endpoints,
    ∃! standing, EndpointStands syntaxError census inventory sharedPool endpoint standing
  templates : ∀ template ∈ inventory.templates,
    ∃! standing, TemplateStands syntaxError census inventory sharedPool template standing
  clean : (reconcileRunPod syntaxError census inventory sharedPool).verdict = .clean
    ↔ (inventory.complete ∧ census.complete)
      ∧ (reconcileRunPod syntaxError census inventory sharedPool).findings = []
  drift : (reconcileRunPod syntaxError census inventory sharedPool).verdict = .drift
    ↔ ∃ finding ∈ (reconcileRunPod syntaxError census inventory sharedPool).findings,
        finding.confidence = .proven
  provenStays : ∀ finding ∈ (reconcileRunPod syntaxError census inventory sharedPool).findings,
    finding.confidence = .proven →
      finding ∈ (reconcileRunPod syntaxError longer.grown longer.full sharedPool).findings

/-- The pool and the rows do not both have a resource, no deleted row is the last to record an
endpoint in use, and what is added takes over no endpoint and no name.
-/
structure Steady (longer : LongerRead census inventory) : Prop where
  endpointsApart : ∀ endpoint ∈ inventory.endpoints,
    ¬ (InPool sharedPool endpoint ∧ HeldByRecord syntaxError census endpoint.id)
  endpointsHeld : ∀ endpoint ∈ inventory.endpoints,
    HeldByRecord syntaxError census endpoint.id →
      ∀ claim, lastClaim syntaxError census endpoint.id = some claim →
        claim.tenant.status ≠ .deleted
  templatesApart : ∀ template ∈ inventory.templates,
    ¬ (NamedInPool sharedPool template.name ∧ NamedByRecord syntaxError census template.name)
  outlived : ∀ endpoint ∈ inventory.endpoints, ¬ InPool sharedPool endpoint →
    OutlivedStays syntaxError longer endpoint
  names : ∀ tenant ∈ census.tenants, tenant.status ≠ .deleted →
    NamesStay syntaxError longer tenant

/-- The report accounts for everything, and for good, just when the input is steady. -/
theorem reportAccounts_iff (longer : LongerRead census inventory)
    : ReportAccounts syntaxError sharedPool longer ↔ Steady syntaxError sharedPool longer := by
  constructor
  · intro accounts
    refine ⟨?_, ?_, ?_, ?_, ?_⟩
    · intro endpoint listed
      exact ((endpoint_oneStanding_iff listed).mp (accounts.endpoints endpoint listed)).1
    · intro endpoint listed
      exact ((endpoint_oneStanding_iff listed).mp (accounts.endpoints endpoint listed)).2
    · intro template listed
      exact (template_oneStanding_iff listed).mp (accounts.templates template listed)
    · intro endpoint listed own claim last deleted
      refine outlived_of_reported longer own last deleted (accounts.provenStays _ ?_ rfl)
      exact (mem_findings ..).mpr
        (.inr (.inl ⟨endpoint, listed, attributeEndpoint_survivor own last deleted⟩))
    · intro tenant member live recorded own named last isLast other
      have found : renamed tenant recorded last
          ∈ (reconcileRunPod syntaxError census inventory sharedPool).findings := by
        refine (mem_findings ..).mpr (.inl ?_)
        rw [gather_findings_eq]
        refine List.mem_flatMap.mpr ⟨tenant, member, ?_⟩
        exact mem_tenantFindings syntaxError inventory (isTornDown_eq_false.mpr live) own
          (List.mem_append_left _ (renamed_mem inventory isLast ⟨named, other⟩))
      exact renamed_reported (accounts.provenStays _ found rfl)
  · intro steady
    refine ⟨?_, ?_, verdict_clean_iff, verdict_drift_iff, ?_⟩
    · intro endpoint listed
      exact (endpoint_oneStanding_iff listed).mpr
        ⟨steady.endpointsApart endpoint listed, steady.endpointsHeld endpoint listed⟩
    · intro template listed
      exact (template_oneStanding_iff listed).mpr (steady.templatesApart template listed)
    · intro finding reported proven
      rcases (mem_findings ..).mp reported with
        ofRow | ⟨endpoint, listed, fate⟩ | ⟨template, listed, fate⟩
      · rw [gather_findings_eq] at ofRow
        obtain ⟨tenant, member, found⟩ := List.mem_flatMap.mp ofRow
        refine (mem_findings ..).mpr (.inl ?_)
        rw [gather_findings_eq]
        exact List.mem_flatMap.mpr ⟨tenant, longer.tenants.subset member,
          tenantFinding_stays longer (steady.names tenant member) found proven⟩
      · exact orphanEndpoint_stays longer listed (steady.outlived endpoint listed) proven fate
      · exact orphanTemplate_stays longer listed proven fate

end Longer

/-- The first of the rows and one page of the account. -/
def firstPage : TenantCensus where
  tenants :=
    [{ id := "ten_1"
       slug := "hero"
       accountId := "acct_1"
       status := .deleted
       endpointsJson := some (stringifyEndpoints adoptedEndpoints)
       createdAt := 1 }]
  complete := false

/-- The account, and there may be more of it. -/
def firstSnapshot : RunPodInventory :=
  { adoptedInventory with complete := false }

/-- The row that was missing is of a live tenant, and it records the endpoint too. -/
def secondPage : LongerRead firstPage firstSnapshot where
  grown :=
    { tenants := firstPage.tenants ++
        [{ id := "ten_2"
           slug := "hero"
           accountId := "acct_2"
           status := .live
           endpointsJson := some (stringifyEndpoints adoptedEndpoints)
           createdAt := 2 }]
      complete := true }
  full := { firstSnapshot with complete := true }
  tenants := List.sublist_append_left _ _
  endpoints := List.Sublist.refl _
  templates := List.Sublist.refl _
  sameAccount := rfl
  wholeCensus complete := by cases complete
  wholeInventory complete := by cases complete

/-- The endpoint of the live tenant was called a proven orphan, and is not any longer. -/
theorem reclaimed_notReported : ¬ ReportAccounts id none secondPage := by
  intro accounts
  have proven : ∃ finding ∈ (reconcileRunPod id firstPage firstSnapshot none).findings,
      finding.confidence = .proven
      ∧ finding ∉ (reconcileRunPod id secondPage.grown secondPage.full none).findings := by
    decide +kernel
  obtain ⟨finding, reported, isProven, gone⟩ := proven
  exact gone (accounts.provenStays finding reported isProven)

end ControlPlane.Reconcile
