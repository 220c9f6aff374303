import ControlPlane.Crypto.Digests
import ControlPlane.Library.Calendar
import ControlPlane.Library.PartialIndexes
import ControlPlane.Operators.Scopes
import ControlPlane.StudioBindings.Projections

/-! The operator credentials table, and the principal that a presented bearer resolves to. A row
keeps the hash of its token only, and is never deleted: a revoked one keeps its name and hash.
-/

namespace ControlPlane.Operators

open ControlPlane.Crypto
open ControlPlane.Library
open ControlPlane.Library.Calendar
open ControlPlane.StudioBindings (truthy truthy_eq_some)

/-- What the platform brings: SHA-256, and what Date.parse makes of a text that is no ISO text. -/
structure Platform where
  sha256 : String → Vector UInt8 32
  parseDate : String → Option Int

-----------------------------------------------------------------------------------------
-- The table
-----------------------------------------------------------------------------------------

/-- A named credential. -/
structure OperatorCredential where
  id : String
  name : String
  tokenSha256 : String
  scopes : String
  createdAt : String
  createdBy : String
  lastUsedAt : Option String := none
  expiresAt : Option String
  revokedAt : Option String := none
  revokedBy : Option String := none
  deriving DecidableEq, Repr

def OperatorCredential.live (row : OperatorCredential) : Bool :=
  row.revokedAt = none

/-- The table with its three constraints: no two rows share an id or a hash, and no two live rows
share a name.
-/
structure OperatorCredentials where
  table : Keyed OperatorCredential.id
  hashes : (table.rows.map OperatorCredential.tokenSha256).Nodup
  names : (indexed OperatorCredential.live OperatorCredential.name table.rows).Nodup

namespace OperatorCredentials

def empty : OperatorCredentials where
  table := .empty
  hashes := List.nodup_nil
  names := List.nodup_nil

/-- No constraint stands against a new row. -/
structure Free (credentials : OperatorCredentials) (row : OperatorCredential) : Prop where
  id : ∀ old ∈ credentials.table.rows, old.id ≠ row.id
  hash : ∀ old ∈ credentials.table.rows, old.tokenSha256 ≠ row.tokenSha256
  name : ∀ old ∈ credentials.table.rows, old.live → old.name ≠ row.name

instance (credentials : OperatorCredentials) (row : OperatorCredential)
    : Decidable (credentials.Free row) :=
  decidable_of_iff
    ((∀ old ∈ credentials.table.rows, old.id ≠ row.id)
      ∧ (∀ old ∈ credentials.table.rows, old.tokenSha256 ≠ row.tokenSha256)
      ∧ ∀ old ∈ credentials.table.rows, old.live → old.name ≠ row.name)
    ⟨fun h => ⟨h.1, h.2.1, h.2.2⟩, fun h => ⟨h.id, h.hash, h.name⟩⟩

/-- INSERT INTO operator_credentials. A row that a constraint stands against throws. -/
def createOperatorCredential (credentials : OperatorCredentials) (row : OperatorCredential)
    : Option OperatorCredentials :=
  if free : credentials.Free row then
    some
      { table := credentials.table.insert row free.id
        hashes := nodup_append_singleton credentials.hashes free.hash
        names := nodup_indexed_append credentials.names free.name }
  else none

/-- SELECT * FROM operator_credentials WHERE token_sha256. -/
def getOperatorCredentialByHash (credentials : OperatorCredentials) (tokenHash : String)
    : Option OperatorCredential :=
  credentials.table.rows.find? fun row => row.tokenSha256 = tokenHash

/-- A SET clause that leaves hashes and names alone, and makes no row live again. -/
structure Settled (statement : Update OperatorCredential.id) : Prop where
  hash : ∀ row, (statement.set row).tokenSha256 = row.tokenSha256
  name : ∀ row, (statement.set row).name = row.name
  live : ∀ row, (statement.set row).live → row.live

theorem Settled.onRow {statement : Update OperatorCredential.id} (settled : Settled statement)
    (row : OperatorCredential)
    : (statement.onRow row).tokenSha256 = row.tokenSha256 ∧ (statement.onRow row).name = row.name
      ∧ ((statement.onRow row).live → row.live) := by
  rcases statement.onRow_cases row with left | ⟨_, set⟩
  · rw [left]
    exact ⟨rfl, rfl, id⟩
  · rw [set]
    exact ⟨settled.hash row, settled.name row, settled.live row⟩

/-- UPDATE operator_credentials. -/
def update (credentials : OperatorCredentials) (statement : Update OperatorCredential.id)
    (settled : Settled statement)
    : OperatorCredentials where
  table := statement.apply credentials.table
  hashes := by
    have same := Sweep.map_onRow statement.toSweep OperatorCredential.tokenSha256
      (fun row _ => settled.hash row) credentials.table.rows
    exact same ▸ credentials.hashes
  names := credentials.names.sublist
    (indexed_map_sublist (fun row => (settled.onRow row).2.1) fun row => (settled.onRow row).2.2)

/-- UPDATE operator_credentials SET revoked_at, revoked_by WHERE id AND revoked_at IS NULL. -/
def revokeOperatorCredential (id revokedBy now : String) : Update OperatorCredential.id where
  target := id
  guard := OperatorCredential.live
  set row := { row with revokedAt := some now, revokedBy := some revokedBy }
  keeps _ := rfl

theorem revoke_settled (id revokedBy now : String)
    : Settled (revokeOperatorCredential id revokedBy now) :=
  ⟨fun _ => rfl, fun _ => rfl, fun _ live => absurd live Bool.false_ne_true⟩

/-- UPDATE operator_credentials SET last_used_at WHERE id. -/
def touchOperatorCredential (id now : String) : Update OperatorCredential.id where
  target := id
  guard _ := true
  set row := { row with lastUsedAt := some now }
  keeps _ := rfl

theorem touch_settled (id now : String) : Settled (touchOperatorCredential id now) :=
  ⟨fun _ => rfl, fun _ => rfl, fun _ live => live⟩

end OperatorCredentials

-----------------------------------------------------------------------------------------
-- The principal
-----------------------------------------------------------------------------------------

inductive PrincipalKind
  | root
  | credential
  deriving DecidableEq, Repr

/-- An authenticated admin caller. The shared root token names nobody. -/
structure OperatorPrincipal where
  kind : PrincipalKind
  actor : String
  operator : Option String
  credentialId : Option String
  scopes : List OperatorScope
  deriving DecidableEq, Repr

/-- The audit actor for a named credential. -/
def operatorActor (name : String) : String :=
  "operator:" ++ name

/-- The characters of an operator name. -/
def isNameStart (c : Char) : Bool :=
  ('a' ≤ c ∧ c ≤ 'z') ∨ ('0' ≤ c ∧ c ≤ '9')

def isNamePart (c : Char) : Bool :=
  isNameStart c ∨ c = '_' ∨ c = '-'

/-- /^[a-z0-9][a-z0-9_-]{0,31}$/ -/
def isValidOperatorName (name : String) : Bool :=
  match name.toList with
  | [] => false
  | first :: rest => isNameStart first ∧ rest.all isNamePart ∧ rest.length ≤ 31

/-- An expiry that cannot be read has passed. -/
def isExpired (platform : Platform) (expiresAt : Option String) (nowIso : String) : Bool :=
  match truthy expiresAt with
  | none => false
  | some expiry =>
      match dateParse platform.parseDate expiry, dateParse platform.parseDate nowIso with
      | some at_, some now => at_ ≤ now
      | _, _ => true

def rootPrincipal : OperatorPrincipal where
  kind := .root
  actor := "admin-token"
  operator := none
  credentialId := none
  scopes := ALL_SCOPES

def credentialPrincipal (credential : OperatorCredential) : OperatorPrincipal where
  kind := .credential
  actor := operatorActor credential.name
  operator := some credential.name
  credentialId := some credential.id
  scopes := operatorNaming.parseScopes ALL_SCOPES (some credential.scopes)

/-- A credential that was found, and is neither revoked nor expired. -/
def stands (platform : Platform) (nowIso : String) (credential : OperatorCredential) : Bool :=
  truthy credential.revokedAt = none ∧ !isExpired platform credential.expiresAt nowIso

/-- The shared secret is set, and is what was presented. -/
def presentsRoot (platform : Platform) (rootSecret : Option String) (presented : String) : Bool :=
  (truthy rootSecret).any (constantTimeEqual platform.sha256 presented)

/-- The principal of a presented bearer, by the credential that its hash finds. A named credential
goes before the shared root secret.
-/
def resolveOperator (platform : Platform) (rootSecret : Option String) (nowIso presented : String)
    (found : Option OperatorCredential)
    : Option OperatorPrincipal :=
  match found.filter (stands platform nowIso) with
  | some credential => some (credentialPrincipal credential)
  | none => if presentsRoot platform rootSecret presented then some rootPrincipal else none

def hasScope (principal : OperatorPrincipal) (scope : OperatorScope) : Bool :=
  principal.scopes.contains scope

/-- The actor of a named credential is never the root's, and names one operator. -/
theorem operatorActor_ne_root (name : String) : operatorActor name ≠ rootPrincipal.actor := by
  intro same
  have heads := congrArg (fun text => text.toList.head?) same
  have front : (operatorActor name).toList.head? = some 'o' := by
    rw [operatorActor, String.toList_append, List.head?_append]
    rfl
  rw [front] at heads
  exact absurd heads (by decide)

theorem operatorActor_injective {name other : String}
    (same : operatorActor name = operatorActor other)
    : name = other := by
  have chars := congrArg String.toList same
  rw [operatorActor, operatorActor, String.toList_append, String.toList_append] at chars
  exact String.toList_injective (List.append_cancel_left chars)

end ControlPlane.Operators
