import ControlPlane.Library.Runs
import ControlPlane.Store.Ownership
import ControlPlane.Store.TenantResources
import ControlPlane.Store.Tenants

/-! Claiming and clearing the resources of tenants, one statement of the database at a time. A claim
is a column write, a read of the owner, a read of the owner's status, and an upsert; a clear is a
read, a column write and a delete. Any number of them are under way.
-/

namespace ControlPlane.Ownership

open ControlPlane.Library
open ControlPlane.Store

/-- A call of one of the four methods that record a resource. -/
inductive ResourceWrite
  | setTenantD1 (databaseId : String)
  | setTenantBucket (bucket : String)
  | setTenantR2Token (tokenId : String)
  | setTenantScript (scriptName release : String)
  deriving DecidableEq, Repr

def ResourceWrite.kind : ResourceWrite → ResourceKind
  | .setTenantD1 _ => .d1
  | .setTenantBucket _ => .r2Bucket
  | .setTenantR2Token _ => .r2Token
  | .setTenantScript _ _ => .worker

def ResourceWrite.resourceKey : ResourceWrite → String
  | .setTenantD1 databaseId => databaseId
  | .setTenantBucket bucket => bucket
  | .setTenantR2Token tokenId => tokenId
  | .setTenantScript scriptName _ => scriptName

/-- The column write that a method starts with. -/
def ResourceWrite.statement (tenantId : String) : ResourceWrite → Update Tenant.id
  | .setTenantD1 databaseId => Store.setTenantD1 tenantId databaseId
  | .setTenantBucket bucket => Store.setTenantBucket tenantId bucket
  | .setTenantR2Token tokenId => Store.setTenantR2Token tenantId tokenId
  | .setTenantScript scriptName release => Store.setTenantScript tenantId scriptName release

/-- A row that is neither deleted nor failed. -/
def standing (row : Tenant) : Bool := row.status ≠ .deleted ∧ row.status ≠ .failed

/-- A tenant whose row is there and standing. -/
def Standing (tenants : Tenants) (tenantId : String) : Bool :=
  (tenants.get? tenantId).any standing

/-- The owner that the table names. -/
def ownerOf (ownership : Keyed Ownership.key) (kind : ResourceKind) (resourceKey : String)
    : Option String :=
  (ownership.get? (kind, resourceKey)).map Ownership.ownerTenantId

/-- SET owner_tenant_id. -/
def setOwner (ownerTenantId : String) (row : Ownership) : Ownership :=
  { row with ownerTenantId := ownerTenantId }

theorem setOwner_key (ownerTenantId : String) (row : Ownership)
    : (setOwner ownerTenantId row).key = row.key :=
  rfl

/-- INSERT ... ON CONFLICT(resource_kind, resource_key) DO UPDATE SET owner_tenant_id. -/
def upsertOwner (ownership : Keyed Ownership.key) (kind : ResourceKind)
    (resourceKey ownerTenantId : String) : Keyed Ownership.key :=
  ownership.upsert ⟨kind, resourceKey, ownerTenantId⟩ (setOwner ownerTenantId)
    (setOwner_key ownerTenantId)

/-- The statement an operation comes to next, and what it has read. -/
inductive OpAt
  | idle
  | claiming (tenantId : String) (kind : ResourceKind) (resourceKey : String)
  | checking (tenantId : String) (kind : ResourceKind) (resourceKey prior : String)
  | upserting (tenantId : String) (kind : ResourceKind) (resourceKey : String)
      (prior : Option String)
  | blanking (tenantId : String) (kind : ResourceKind) (resourceKey : Option String)
  | releasing (tenantId : String) (kind : ResourceKind) (resourceKey : String)
  deriving DecidableEq, Repr

/-- The two tables, and where every operation is. The tenants that were not standing at some moment
since an operation began are kept beside it.
-/
structure Claims where
  tenants : Tenants
  ownership : Keyed Ownership.key
  ops : Nat → OpAt
  lapsed : Nat → String → Bool

inductive ClaimsAction
  | set (op : Nat) (tenantId : String) (write : ResourceWrite)
  | readOwner (op : Nat)
  | readStatus (op : Nat)
  | upsert (op : Nat)
  | readKey (op : Nat) (tenantId : String) (kind : ResourceKind)
  | blank (op : Nat)
  | release (op : Nat)
  | setTenantStatus (now : Nat) (tenantId : String) (status : TenantLifecycle)
  deriving DecidableEq, Repr

namespace Claims

/-- Tables with their rows, and no operation. -/
def opening (tenants : Tenants) (ownership : Keyed Ownership.key) : Claims where
  tenants := tenants
  ownership := ownership
  ops _ := .idle
  lapsed _ _ := false

def put (claims : Claims) (op : Nat) (place : OpAt) : Claims :=
  { claims with ops := Function.update claims.ops op place }

@[simp] theorem put_self (claims : Claims) (op : Nat) (place : OpAt)
    : (claims.put op place).ops op = place :=
  Function.update_self ..

@[simp] theorem put_of_ne {claims : Claims} {op other : Nat} {place : OpAt} (differs : other ≠ op)
    : (claims.put op place).ops other = claims.ops other :=
  Function.update_of_ne differs ..

/-- A claim begins: who does not stand now is noted, and nobody else. -/
def watch (claims : Claims) (op : Nat) : Claims :=
  { claims with
    lapsed :=
      Function.update claims.lapsed op fun tenantId => !Standing claims.tenants tenantId }

/-- Who stops standing is noted for every claim. -/
def watchAll (claims : Claims) : Claims :=
  { claims with
    lapsed := fun op tenantId => claims.lapsed op tenantId || !Standing claims.tenants tenantId }

/-- The next statement, where an operation comes to it. -/
def step (claims : Claims) : ClaimsAction → Option Claims
  | .set op tenantId write =>
      if claims.ops op = .idle then
        let written := { claims with tenants := (write.statement tenantId).apply claims.tenants }
        some ((written.watch op).put op (.claiming tenantId write.kind write.resourceKey))
      else none
  | .readOwner op =>
      match claims.ops op with
      | .claiming tenantId kind resourceKey =>
          some
            (claims.put op
              (if resourceKey = "" then .idle
              else
                match getResourceOwner claims.ownership kind resourceKey with
                | none => .upserting tenantId kind resourceKey none
                | some prior =>
                    -- an owner of no name is no owner
                    if prior = "" ∨ prior = tenantId then
                      .upserting tenantId kind resourceKey (some prior)
                    else .checking tenantId kind resourceKey prior))
      | _ => none
  | .readStatus op =>
      match claims.ops op with
      | .checking tenantId kind resourceKey prior =>
          some
            (claims.put op
              (if Standing claims.tenants prior then .idle
              else .upserting tenantId kind resourceKey (some prior)))
      | _ => none
  | .upsert op =>
      match claims.ops op with
      | .upserting tenantId kind resourceKey _ =>
          some
            ({ claims with
              ownership := upsertOwner claims.ownership kind resourceKey tenantId }.put op .idle)
      | _ => none
  | .readKey op tenantId kind =>
      if claims.ops op = .idle then
        some
          (claims.put op
            (.blanking tenantId kind
              ((claims.tenants.get? tenantId).bind fun row => row.resource kind)))
      else none
  | .blank op =>
      match claims.ops op with
      | .blanking tenantId kind resourceKey =>
          let blanked :=
            { claims with tenants := (blankResource tenantId kind).apply claims.tenants }
          some
            (blanked.put op
              (match resourceKey.filter (· ≠ "") with
              | none => .idle
              | some resourceKey => .releasing tenantId kind resourceKey))
      | _ => none
  | .release op =>
      match claims.ops op with
      | .releasing tenantId kind resourceKey =>
          some
            ({ claims with
              ownership := releaseOwnership claims.ownership kind resourceKey tenantId }.put op
                .idle)
      | _ => none
  | .setTenantStatus now tenantId status =>
      some
        { claims with
          tenants := (Store.setTenantStatus now tenantId status).apply claims.tenants }.watchAll

/-- With no other statement in between, a clear does what clearTenantResource does at once. -/
theorem exec_clear {claims : Claims} {op : Nat} {tenantId resourceKey : String}
    {kind : ResourceKind} (idle : claims.ops op = .idle)
    (found
      : ((claims.tenants.get? tenantId).bind fun row => row.resource kind) = some resourceKey)
    (given : resourceKey ≠ "")
    : ∃ final,
        exec step claims [.readKey op tenantId kind, .blank op, .release op] = some final
        ∧ clearTenantResource ⟨claims.tenants, claims.ownership⟩ tenantId kind none
          = ⟨final.tenants, final.ownership⟩ := by
  let read := claims.put op (.blanking tenantId kind (some resourceKey))
  let blanked : Claims :=
    { read with tenants := (blankResource tenantId kind).apply read.tenants }.put op
      (.releasing tenantId kind resourceKey)
  let released : Claims :=
    { blanked with
      ownership := releaseOwnership blanked.ownership kind resourceKey tenantId }.put op .idle
  have first : claims.step (.readKey op tenantId kind) = some read := by
    simp only [step, idle, if_true, found, read]
  have second : read.step (.blank op) = some blanked := by
    simp only [step, read, put_self]
    rw [Option.filter_some, if_pos (decide_eq_true given)]
  have third : blanked.step (.release op) = some released := by
    simp only [step, blanked, put_self]
    rfl
  refine ⟨released, ?_, ?_⟩
  · exact exec_cons.mpr
      ⟨read, first, exec_cons.mpr ⟨blanked, second, exec_cons.mpr ⟨released, third, rfl⟩⟩⟩
  · simp only [clearTenantResource, releasedOwnership, found, if_neg given]
    rfl

end Claims

end ControlPlane.Ownership
