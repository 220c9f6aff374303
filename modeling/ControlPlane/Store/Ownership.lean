import ControlPlane.Store.Rows

/-! Which tenant rows claim a resource, and who owns it. A resource id on a row does not make
the resource that tenant's: names derive from slugs, and a freed slug is used again.
-/

namespace ControlPlane.Store

open ControlPlane.Library

inductive ResourceKind
  | d1
  | r2Bucket
  | r2Token
  | worker
  deriving DecidableEq, Repr

/-- The name of a kind in a record of failures. -/
def ResourceKind.text : ResourceKind → String
  | .d1 => "d1"
  | .r2Bucket => "r2_bucket"
  | .r2Token => "r2_token"
  | .worker => "worker"

/-- The name of a status in the tenants table. -/
def TenantLifecycle.text : TenantLifecycle → String
  | .pending => "pending"
  | .provisioning => "provisioning"
  | .awaitingGoLive => "awaiting_go_live"
  | .awaitingInvokeKey => "awaiting_invoke_key"
  | .live => "live"
  | .failed => "failed"
  | .deleting => "deleting"
  | .deleted => "deleted"

/-- RESOURCE_COLUMN: the column a kind is kept in. -/
def Tenant.resource (tenant : Tenant) : ResourceKind → Option String
  | .d1 => tenant.d1DatabaseId
  | .r2Bucket => tenant.r2BucketName
  | .r2Token => tenant.r2TokenId
  | .worker => tenant.scriptName

/-- A row of tenant_resource_ownership. -/
structure Ownership where
  kind : ResourceKind
  resourceKey : String
  ownerTenantId : String
  deriving DecidableEq, Repr

/-- The primary key of tenant_resource_ownership. -/
def Ownership.key (row : Ownership) : ResourceKind × String :=
  (row.kind, row.resourceKey)

/-- The tables a teardown reads and writes. -/
structure TenantStore where
  tenants : Tenants
  ownership : Keyed Ownership.key

/-- Another row that points at a resource, and what state that row is in. -/
structure ResourceReferrer where
  tenantId : String
  slug : String
  status : TenantLifecycle
  resource : ResourceKind
  deriving DecidableEq, Repr

/-- The order in which one row is reported for each of its resources. -/
def resourceKinds : List ResourceKind := [.d1, .r2Bucket, .r2Token, .worker]

/-- One row, once for each resource of the tenant's that it points at too. -/
def referrersOf (tenant row : Tenant) : List ResourceReferrer :=
  (resourceKinds.filter fun kind =>
      (tenant.resource kind).isSome ∧ row.resource kind = tenant.resource kind).map fun kind =>
    { tenantId := row.id, slug := row.slug, status := row.status, resource := kind }

/-- The other rows that point at a resource of the tenant's. -/
def findResourceReferrers (tenants : Tenants) (tenant : Tenant) : List ResourceReferrer :=
  (tenants.rows.filter fun row => row.id ≠ tenant.id).flatMap (referrersOf tenant)

/-- The recorded owner. Nobody owns an empty key. -/
def getResourceOwner (ownership : Keyed Ownership.key) (kind : ResourceKind)
    (resourceKey : String)
    : Option String :=
  if resourceKey = "" then none
  else (ownership.get? (kind, resourceKey)).map Ownership.ownerTenantId

/-- Blank the column of a kind. -/
def blankResource (tenantId : String) (kind : ResourceKind) : Update Tenant.id where
  target := tenantId
  guard _ := true
  set tenant :=
    match kind with
    | .d1 => { tenant with d1DatabaseId := none }
    | .r2Bucket => { tenant with r2BucketName := none }
    | .r2Token => { tenant with r2TokenId := none }
    | .worker => { tenant with scriptName := none }
  keeps tenant := by cases kind <;> rfl

/-- Release what a tenant owns under a kind and a key. -/
def releaseOwnership (ownership : Keyed Ownership.key) (kind : ResourceKind)
    (resourceKey tenantId : String)
    : Keyed Ownership.key :=
  ownership.filter fun row =>
    ¬ (row.kind = kind ∧ row.resourceKey = resourceKey ∧ row.ownerTenantId = tenantId)

/-- How many of its statements clearTenantResource gets through before one of them throws. -/
inductive ClearFault
  | read
  | blank
  | release
  deriving DecidableEq, Repr

/-- The ownership table once the tenant's claim on its resource of a kind is released. -/
def releasedOwnership (store : TenantStore) (tenantId : String) (kind : ResourceKind)
    : Keyed Ownership.key :=
  match (store.tenants.get? tenantId).bind fun row => row.resource kind with
  | some resourceKey =>
      if resourceKey = "" then store.ownership
      else releaseOwnership store.ownership kind resourceKey tenantId
  | none => store.ownership

/-- The key is read before the column is blanked, so that its ownership can be released. -/
def clearTenantResource (store : TenantStore) (tenantId : String) (kind : ResourceKind)
    : Option ClearFault → TenantStore
  | some .read | some .blank => store
  | some .release => { store with tenants := (blankResource tenantId kind).apply store.tenants }
  | none =>
      { tenants := (blankResource tenantId kind).apply store.tenants
        ownership := releasedOwnership store tenantId kind }

/-- One failed or refused leg of a teardown. -/
structure TeardownFailure where
  resource : String
  error : String
  deriving DecidableEq, Repr

/-- The referrers are the other rows that share a resource, kind by kind. -/
theorem mem_findResourceReferrers {tenants : Tenants} {tenant : Tenant}
    {referrer : ResourceReferrer}
    : referrer ∈ findResourceReferrers tenants tenant
      ↔ ∃ row ∈ tenants.rows, row.id ≠ tenant.id
          ∧ (∃ resourceKey, tenant.resource referrer.resource = some resourceKey
              ∧ row.resource referrer.resource = some resourceKey)
          ∧ referrer = ⟨row.id, row.slug, row.status, referrer.resource⟩ := by
  have everyKind : ∀ kind : ResourceKind, kind ∈ resourceKinds := by
    intro kind
    cases kind <;> decide
  simp only [findResourceReferrers, referrersOf, List.mem_flatMap, List.mem_filter, List.mem_map,
    decide_eq_true_eq]
  constructor
  · intro reported
    obtain ⟨row, ⟨member, other⟩, kind, ⟨_, some, same⟩, made⟩ := reported
    obtain ⟨resourceKey, isKey⟩ := Option.isSome_iff_exists.mp some
    subst made
    exact ⟨row, member, other, ⟨resourceKey, isKey, same.trans isKey⟩, rfl⟩
  · intro shared
    obtain ⟨row, member, other, ⟨resourceKey, isKey, same⟩, made⟩ := shared
    refine ⟨row, ⟨member, other⟩, referrer.resource, ⟨everyKind _, ?_, ?_⟩, made.symm⟩
    · rw [isKey]
      rfl
    · rw [same, isKey]

/-- Releasing a claim of one kind changes no owner of another. -/
theorem getResourceOwner_release {ownership : Keyed Ownership.key} {released kind : ResourceKind}
    {releasedKey resourceKey tenantId : String} (differs : kind ≠ released)
    : getResourceOwner (releaseOwnership ownership released releasedKey tenantId) kind resourceKey
      = getResourceOwner ownership kind resourceKey := by
  have kept : ∀ row ∈ ownership.rows, row.key = (kind, resourceKey)
      → decide (¬ (row.kind = released ∧ row.resourceKey = releasedKey
          ∧ row.ownerTenantId = tenantId)) := by
    intro row _ keyed
    have sameKind : row.kind = kind := congrArg Prod.fst keyed
    refine decide_eq_true fun matched => ?_
    exact differs (sameKind.symm.trans matched.1)
  unfold getResourceOwner releaseOwnership
  rw [Keyed.get?_filter kept]

/-- Clearing one kind changes no owner of another. -/
theorem getResourceOwner_clear {store : TenantStore} {tenantId resourceKey : String}
    {cleared kind : ResourceKind} {fault : Option ClearFault} (differs : kind ≠ cleared)
    : getResourceOwner (clearTenantResource store tenantId cleared fault).ownership kind
          resourceKey
      = getResourceOwner store.ownership kind resourceKey := by
  cases fault with
  | some stage => cases stage <;> rfl
  | none =>
      change getResourceOwner (releasedOwnership store tenantId cleared) kind resourceKey = _
      unfold releasedOwnership
      split
      · split
        · rfl
        · exact getResourceOwner_release differs
      · rfl

end ControlPlane.Store
