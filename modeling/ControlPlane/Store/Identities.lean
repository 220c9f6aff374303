import ControlPlane.Library.OneUse
import ControlPlane.Store.Accounts

/-! The identities linked to accounts, the writes that make an account, and the three tables of
links that are good for one use.
-/

namespace ControlPlane.Store

open ControlPlane.Library

inductive AuthProvider
  | email
  | google
  | github
  | apple
  deriving DecidableEq, Repr

/-- One identity of an account. -/
structure AccountIdentity where
  provider : AuthProvider
  subject : String
  accountId : String
  lastLoginAt : Option Nat := none
  deriving DecidableEq, Repr

/-- The primary key of account_identities. -/
def AccountIdentity.key (identity : AccountIdentity) : AuthProvider × String :=
  (identity.provider, identity.subject)

abbrev Identities := Keyed AccountIdentity.key

/-- INSERT INTO accounts. The row is refused when its id or its email is taken. -/
def createAccount (accounts : Accounts) (id email : String) : Option (Accounts × Account) :=
  let row : Account := { id := id, email := email }
  if free : (∀ old ∈ accounts.table.rows, old.id ≠ row.id)
      ∧ ∀ old ∈ accounts.table.rows, old.email ≠ row.email then
    some
      ({ table := accounts.table.insert row free.1
         emails := nodup_append_singleton accounts.emails free.2 }, row)
  else none

/-- An account that is created has an id that was free, and follows the others. -/
theorem createAccount_eq_some {accounts grown : Accounts} {id email : String} {account : Account}
    (created : createAccount accounts id email = some (grown, account))
    : ∃ free : ∀ old ∈ accounts.table.rows, old.id ≠ account.id,
        grown.table = accounts.table.insert account free := by
  unfold createAccount at created
  dsimp only at created
  split at created
  next free =>
    cases created
    exact ⟨free.1, rfl⟩
  next => cases created

/-- SELECT account_id FROM account_identities WHERE provider AND subject. -/
def getAccountIdByIdentity (identities : Identities) (provider : AuthProvider)
    (subject : String)
    : Option String :=
  (identities.get? (provider, subject)).map AccountIdentity.accountId

/-- INSERT INTO account_identities ... ON CONFLICT (provider, subject) DO NOTHING. -/
def linkIdentity (identities : Identities) (provider : AuthProvider)
    (subject accountId : String)
    : Identities :=
  identities.insertOrIgnore { provider := provider, subject := subject, accountId := accountId }

/-- UPDATE account_identities SET last_login_at WHERE provider AND subject. -/
def touchIdentityLogin (now : Nat) (provider : AuthProvider) (subject : String)
    : Update AccountIdentity.key where
  target := (provider, subject)
  guard _ := true
  set identity := { identity with lastLoginAt := some now }
  keeps _ := rfl

/-- UPDATE accounts SET suspended_at WHERE id. -/
def suspendAccount (now : Nat) (id : String) : Update Account.id where
  target := id
  guard _ := true
  set account := { account with suspendedAt := some (account.suspendedAt.getD now) }
  keeps _ := rfl

/-- UPDATE accounts SET deleted_at WHERE id. -/
def deleteAccount (now : Nat) (id : String) : Update Account.id where
  target := id
  guard _ := true
  set account := { account with deletedAt := some (account.deletedAt.getD now) }
  keeps _ := rfl

/-- A statement on the accounts that leaves their emails alone. -/
def Accounts.update (accounts : Accounts) (statement : Update Account.id)
    (keeps : ∀ account, (statement.set account).email = account.email)
    : Accounts where
  table := statement.apply accounts.table
  emails := by
    have same := Sweep.map_onRow statement.toSweep Account.email (fun row _ => keeps row)
      accounts.table.rows
    exact same ▸ accounts.emails

/-- A magic-link token, by its hash. -/
structure LoginToken where
  tokenHash : String
  email : String
  expiresAt : Nat
  consumedAt : Option Nat := none
  deriving DecidableEq, Repr

def loginTokens : OneUse LoginToken.tokenHash where
  expiresAt := LoginToken.expiresAt
  consumedAt := LoginToken.consumedAt
  consume now row := { row with consumedAt := some now }
  consume_key _ _ := rfl
  consume_expiresAt _ _ := rfl
  consume_consumedAt _ _ := rfl

/-- The state of one SSO round trip. -/
structure OAuthState where
  state : String
  provider : String
  verifier : Option String := none
  redirectTo : Option String := none
  expiresAt : Nat
  consumedAt : Option Nat := none
  deriving DecidableEq, Repr

def oauthStates : OneUse OAuthState.state where
  expiresAt := OAuthState.expiresAt
  consumedAt := OAuthState.consumedAt
  consume now row := { row with consumedAt := some now }
  consume_key _ _ := rfl
  consume_expiresAt _ _ := rfl
  consume_consumedAt _ _ := rfl

/-- The authorization to install one invoke key on one tenant, by the hash of its token. -/
structure InvokeKeyHandoff where
  tokenHash : String
  id : String
  tenantId : String
  endpointsJson : String
  issuedBy : String
  expiresAt : Nat
  consumedAt : Option Nat := none
  deriving DecidableEq, Repr

def invokeKeyHandoffs : OneUse InvokeKeyHandoff.tokenHash where
  expiresAt := InvokeKeyHandoff.expiresAt
  consumedAt := InvokeKeyHandoff.consumedAt
  consume now row := { row with consumedAt := some now }
  consume_key _ _ := rfl
  consume_expiresAt _ _ := rfl
  consume_consumedAt _ _ := rfl

end ControlPlane.Store
