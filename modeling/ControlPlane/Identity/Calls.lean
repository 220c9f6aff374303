import ControlPlane.Kek.TokenCrypto
import ControlPlane.Library.Runs
import ControlPlane.Store.Identities

/-! Signing in, one store call at a time: magic links and verified SSO callbacks, any number of
them in flight, while operators suspend and delete accounts.
-/

namespace ControlPlane.Identity

open ControlPlane.Kek
open ControlPlane.Library
open ControlPlane.Store

inductive UpsertRefusal
  | unavailable
  | signupsClosed
  deriving DecidableEq, Repr

/-- Why an account did not resolve, or the one that did. -/
inductive UpsertResult
  | ok (account : Account) (created : Bool)
  | refused (reason : UpsertRefusal)
  deriving DecidableEq, Repr

/-- The store call that a sign-in comes to next, or what it ended in. -/
inductive Place
  | consumingToken (tokenHash : String) (now : Nat)
  | findingIdentity
  | findingLinked (linkedId : String)
  | touchingLinked (account : Account)
  | findingEmail
  | creating
  | linking (account : Account) (created : Bool)
  | touching (account : Account) (created : Bool)
  | returned (result : UpsertResult)
  | threw
  deriving DecidableEq, Repr

/-- One sign-in. The accounts as they were when it began are kept beside it. -/
structure SignIn where
  provider : AuthProvider
  subject : String
  verifiedEmail : String
  allowCreate : Bool
  place : Place
  began : Accounts

/-- The store, every sign-in there was, and the ids of the account rows they inserted, each with
whether its sign-in was allowed to create one.
-/
structure SignIns where
  accounts : Accounts
  identities : Identities
  logins : UsedTable loginTokens
  oauth : UsedTable oauthStates
  handoffs : UsedTable invokeKeyHandoffs
  calls : String → Option SignIn
  signups : List (String × Bool)

/-- A store in which no sign-in is in flight. -/
def SignIns.idle (accounts : Accounts) (identities : Identities)
    (logins : Keyed LoginToken.tokenHash) (oauth : Keyed OAuthState.state)
    (handoffs : Keyed InvokeKeyHandoff.tokenHash)
    : SignIns where
  accounts := accounts
  identities := identities
  logins := .fresh loginTokens logins
  oauth := .fresh oauthStates oauth
  handoffs := .fresh invokeKeyHandoffs handoffs
  calls _ := none
  signups := []

def SignIns.setCall (state : SignIns) (id : String) (call : SignIn) : SignIns :=
  { state with calls := Function.update state.calls id (some call) }

def SignIn.at (call : SignIn) (place : Place) : SignIn :=
  { call with place := place }

/-- An account that was found but is suspended or deleted. -/
def barred (account : Account) : Bool :=
  account.suspendedAt.isSome || account.deletedAt.isSome

section Step

variable (toLowerCase : String → String)

/-- Lower case, without margins. -/
def normalizeEmail (email : String) : String :=
  toLowerCase (trim email)

/-- The next store call of a sign-in. The database clock and the id that a new account gets are
given.
-/
def SignIns.call (state : SignIns) (id : String) (dbNow : Nat) (newId : String) (call : SignIn)
    : SignIns :=
  match call.place with
  | .consumingToken tokenHash now =>
      let (row, logins) := state.logins.accept tokenHash now
      match row with
      | none =>
          { state with logins := logins }.setCall id (call.at (.returned (.refused .unavailable)))
      | some row =>
          { state with logins := logins }.setCall id
            { call with
              provider := .email
              subject := row.email
              verifiedEmail := row.email
              place := .findingIdentity }
  | .findingIdentity =>
      match (getAccountIdByIdentity state.identities call.provider call.subject).filter
          (· ≠ "") with
      | some linkedId => state.setCall id (call.at (.findingLinked linkedId))
      | none => state.setCall id (call.at .findingEmail)
  | .findingLinked linkedId =>
      match (getAccountById state.accounts linkedId).filter fun account => !barred account with
      | none => state.setCall id (call.at (.returned (.refused .unavailable)))
      | some account => state.setCall id (call.at (.touchingLinked account))
  | .touchingLinked account =>
      { state with
        identities :=
          (touchIdentityLogin dbNow call.provider call.subject).apply state.identities }.setCall
        id (call.at (.returned (.ok account false)))
  | .findingEmail =>
      match getAccountByEmail state.accounts (normalizeEmail toLowerCase call.verifiedEmail) with
      | some existing =>
          if barred existing then
            state.setCall id (call.at (.returned (.refused .unavailable)))
          else state.setCall id (call.at (.linking existing false))
      | none =>
          -- only a new account is a signup
          if call.allowCreate then state.setCall id (call.at .creating)
          else state.setCall id (call.at (.returned (.refused .signupsClosed)))
  | .creating =>
      match createAccount state.accounts newId
          (normalizeEmail toLowerCase call.verifiedEmail) with
      | none => state.setCall id (call.at .threw)
      | some (accounts, account) =>
          { state with
            accounts := accounts
            signups := (account.id, call.allowCreate) :: state.signups }.setCall id
            (call.at (.linking account true))
  | .linking account created =>
      { state with
        identities :=
          linkIdentity state.identities call.provider call.subject account.id }.setCall id
        (call.at (.touching account created))
  | .touching account created =>
      { state with
        identities :=
          (touchIdentityLogin dbNow call.provider call.subject).apply state.identities }.setCall
        id (call.at (.returned (.ok account created)))
  | .returned _ | .threw => state

/-- A sign-in that has not ended. -/
def SignIn.InFlight (call : SignIn) : Prop :=
  match call.place with
  | .returned _ | .threw => False
  | _ => True

instance (call : SignIn) : Decidable call.InFlight := by
  unfold SignIn.InFlight; split <;> infer_instance

/-- A link is issued or used; a sign-in begins, makes its next call, or has one fail; an account
is suspended or deleted.
-/
inductive SignInAction
  | issueLogin (row : LoginToken)
  | issueOAuth (row : OAuthState)
  | issueHandoff (row : InvokeKeyHandoff)
  | consumeOAuth (oauthState : String) (now : Nat)
  | consumeHandoff (tokenHash : String) (now : Nat)
  | redeem (id tokenHash : String) (allowCreate : Bool) (now : Nat)
  | upsert (id : String) (provider : AuthProvider) (subject verifiedEmail : String)
      (allowCreate : Bool)
  | call (id : String) (dbNow : Nat) (newId : String)
  | fail (id : String)
  | suspend (now : Nat) (accountId : String)
  | delete (now : Nat) (accountId : String)
  deriving DecidableEq, Repr

def SignIns.step (state : SignIns) : SignInAction → Option SignIns
  | .issueLogin row => (state.logins.issue row).map fun logins => { state with logins := logins }
  | .issueOAuth row => (state.oauth.issue row).map fun oauth => { state with oauth := oauth }
  | .issueHandoff row =>
      (state.handoffs.issue row).map fun handoffs => { state with handoffs := handoffs }
  | .consumeOAuth oauthState now =>
      some { state with oauth := (state.oauth.accept oauthState now).2 }
  | .consumeHandoff tokenHash now =>
      some { state with handoffs := (state.handoffs.accept tokenHash now).2 }
  | .redeem id tokenHash allowCreate now =>
      if (state.calls id).isNone then
        some
          (state.setCall id
            { provider := .email
              subject := ""
              verifiedEmail := ""
              allowCreate := allowCreate
              place := .consumingToken tokenHash now
              began := state.accounts })
      else none
  | .upsert id provider subject verifiedEmail allowCreate =>
      if (state.calls id).isNone then
        some
          (state.setCall id
            { provider := provider
              subject := subject
              verifiedEmail := verifiedEmail
              allowCreate := allowCreate
              place := .findingIdentity
              began := state.accounts })
      else none
  | .call id dbNow newId =>
      match state.calls id with
      | some call =>
          if call.InFlight then some (state.call toLowerCase id dbNow newId call) else none
      | none => none
  | .fail id =>
      match state.calls id with
      | some call => if call.InFlight then some (state.setCall id (call.at .threw)) else none
      | none => none
  | .suspend now accountId =>
      some
        { state with
          accounts := state.accounts.update (suspendAccount now accountId) fun _ => rfl }
  | .delete now accountId =>
      some
        { state with
          accounts := state.accounts.update (deleteAccount now accountId) fun _ => rfl }

end Step

end ControlPlane.Identity
