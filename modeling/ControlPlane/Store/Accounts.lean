import ControlPlane.Library.KeyedTables

/-! The accounts and their cookie sessions. A time is a number, and a session keeps the hash of
its token only.
-/

namespace ControlPlane.Store

open ControlPlane.Library

/-- A human who signed up. -/
structure Account where
  id : String
  email : String
  createdAt : Nat := 0
  suspendedAt : Option Nat := none
  suspendedReason : Option String := none
  deletedAt : Option Nat := none
  deriving DecidableEq, Repr

/-- The accounts table: its primary key, and the email that no two rows share. -/
structure Accounts where
  table : Keyed Account.id
  emails : (table.rows.map Account.email).Nodup

/-- A cookie session. -/
structure Session where
  tokenHash : String
  accountId : String
  createdAt : Nat := 0
  expiresAt : Nat
  revokedAt : Option Nat := none
  deriving DecidableEq, Repr

abbrev Sessions := Keyed Session.tokenHash

/-- SELECT * FROM accounts WHERE id AND deleted_at IS NULL. -/
def getAccountById (accounts : Accounts) (id : String) : Option Account :=
  (accounts.table.get? id).filter fun account => account.deletedAt = none

/-- SELECT * FROM accounts WHERE email AND deleted_at IS NULL. -/
def getAccountByEmail (accounts : Accounts) (email : String) : Option Account :=
  accounts.table.rows.find? fun account => account.email = email ∧ account.deletedAt = none

/-- SELECT * FROM sessions WHERE token_hash AND revoked_at IS NULL AND expires_at > now. -/
def getSession (sessions : Sessions) (tokenHash : String) (now : Nat) : Option Session :=
  (sessions.get? tokenHash).filter fun session =>
    session.revokedAt = none ∧ session.expiresAt > now

end ControlPlane.Store
