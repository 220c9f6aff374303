import Mathlib.Data.List.Infix
import ControlPlane.Doors.Providers
import ControlPlane.FrontDoor.Responses
import ControlPlane.FrontDoor.Sessions
import ControlPlane.Identity.Calls
import ControlPlane.Library.Pools
import ControlPlane.Library.TextOrder

/-! The doors of a sign-in: the round trip over a provider and the link in a mail, as programs that call
the store and the outside. Each ends with a session or a refusal.
-/

namespace ControlPlane.Doors

open ControlPlane.Crypto
open ControlPlane.FrontDoor
open ControlPlane.Identity (UpsertRefusal UpsertResult barred normalizeEmail)
open ControlPlane.Kek (isTrimmed trim)
open ControlPlane.Library
open ControlPlane.Library.TextOrder (codeUnits)
open ControlPlane.Routing (SESSION_COOKIE split)
open ControlPlane.Store
open ControlPlane.StudioBindings (truthy)

-----------------------------------------------------------------------------------------
-- Texts
-----------------------------------------------------------------------------------------

/-- What new URL makes of a text on a base. -/
structure ParsedUrl where
  origin : String
  pathname : String
  search : String
  hash : String
  deriving DecidableEq, Repr

structure DoorPlatform extends SsoPlatform where
  toLowerCase : String → String
  parseUrl : String → String → Option ParsedUrl
  pkceChallenge : String → String

structure DoorEnv extends SsoEnv where
  hasRateLimit : Bool
  hasMailer : Bool
  deriving DecidableEq, Repr

/-- A part of an address between its dots. -/
def isLabel (text : List Char) : Bool :=
  text ≠ [] ∧ text.all fun c => !isTrimmed c

/-- EMAIL_RE -/
def isAddress (email : List Char) : Bool :=
  match email.splitOn '@' with
  | [name, domain] =>
      (name.splitOn '.').all isLabel && (domain.splitOn '.').all isLabel
      && decide (2 ≤ (domain.splitOn '.').length)
  | _ => false

def looksLikeEmail (email : String) : Bool :=
  (codeUnits email.toList).length ≤ 254 ∧ isAddress email.toList

/-- A setting is on only if it says so. -/
def settingEnabled (toLowerCase : String → String) (raw : Option String) : Bool :=
  match raw.map fun text => toLowerCase (trim text) with
  | some text => text = "true" ∨ text = "1"
  | none => false

/-- Only a path of this origin is returned to. -/
def safeSameOriginRedirectPath (platform : DoorPlatform) (raw : Option String) (origin : String)
    : Option String := do
  let path ← truthy raw
  let chars := path.toList
  if chars.head? ≠ some '/' ∨ chars.contains '\\' ∨ ['/', '/'] <:+: chars then none
  else
    let url ← platform.parseUrl path origin
    if url.origin ≠ origin then none else some (url.pathname ++ url.search ++ url.hash)

/-- /^\d{1,3}(\.\d{1,3}){3}$/ -/
def isIpv4 (text : List Char) : Bool :=
  let parts := text.splitOn '.'
  parts.length = 4
  ∧ parts.all fun part => part ≠ [] ∧ part.length ≤ 3 ∧ part.all Char.isDigit

/-- The domain that a session cookie is for, if the host can have one. -/
def sessionCookieDomain (toLowerCase : String → String) (host : String) : Option String :=
  let name := toLowerCase (trim ((split ':' host).headD ""))
  if name = "" ∨ name = "localhost" ∨ isIpv4 name.toList ∨ !name.toList.contains '.' then none
  else some name

def sessionCookie (token : String) (maxAgeSeconds : Nat) (domain : Option String) : String :=
  "; ".intercalate
    ([SESSION_COOKIE ++ "=" ++ token, "HttpOnly", "Secure", "SameSite=Lax", "Path=/"]
    ++ (domain.toList.map fun name => "Domain=" ++ name) ++ ["Max-Age=" ++ toString maxAgeSeconds])

def LOGIN_TTL_MINUTES : Nat := 15

def magicLinkSubject : String := "Your vivijure sign-in link"

def magicLinkText (link : String) : String :=
  "\n".intercalate
    ["Here is your sign-in link for vivijure studio:", "", link, "",
      "It works once and expires in " ++ toString LOGIN_TTL_MINUTES ++ " minutes.",
      "If you did not ask for this link, you can ignore this mail; nothing was created."]

-----------------------------------------------------------------------------------------
-- Requests and calls
-----------------------------------------------------------------------------------------

/-- What a request finds of the time and of chance. A sign-in reads the clock as it uses its state or
link, as it reads the claims, and as it starts the session.
-/
structure DoorMoment where
  now : Nat
  claimsRead : Nat
  started : Nat
  state : String
  verifier : String
  token : String
  newId : String
  deriving DecidableEq, Repr

/-- A request, with the parameters of its url or the body that it carries. -/
inductive DoorRequest
  | beginSso (provider : String) (redirectTo : Option String) (moment : DoorMoment)
  | finishSso (provider : String) (code state : Option String) (moment : DoorMoment)
  | emailStart (body : Option Json) (moment : DoorMoment)
  | emailCallback (origin token : Option String) (moment : DoorMoment)

inductive DoorCall
  | createOAuthState (row : OAuthState)
  | consumeOAuthState (state : String) (now : Nat)
  | fetch (request : ProviderRequest)
  | limit (key : String)
  | getSetting (key : String)
  | getAccountById (id : String)
  | getAccountByEmail (email : String)
  | getAccountIdByIdentity (provider : AuthProvider) (subject : String)
  | createAccount (id email : String)
  | linkIdentity (provider : AuthProvider) (subject accountId : String)
  | touchIdentityLogin (provider : AuthProvider) (subject : String)
  | createLoginToken (row : LoginToken)
  | consumeLoginToken (tokenHash : String) (now : Nat)
  | send (recipient subject text : String)
  | createSession (row : Session)

abbrev DoorCall.Answer : DoorCall → Type
  | .createOAuthState _ => Bool
  | .consumeOAuthState .. => Option OAuthState
  | .fetch _ => ProviderResponse
  | .limit _ => Bool
  | .getSetting _ => Option String
  | .getAccountById _ => Option Account
  | .getAccountByEmail _ => Option Account
  | .getAccountIdByIdentity .. => Option String
  | .createAccount .. => Option Account
  | .linkIdentity .. => Unit
  | .touchIdentityLogin .. => Unit
  | .createLoginToken _ => Bool
  | .consumeLoginToken .. => Option LoginToken
  | .send .. => Unit
  | .createSession _ => Bool

/-- A response: JSON, the way to a provider, or the way back with or without a session. -/
inductive DoorAnswer
  | json (response : JsonResponse)
  | authorize (address : String) (query : List (String × String))
  | redirect (location : String) (cookie : Option String)

abbrev DoorProgram : Type → Type := Dialogue DoorCall DoorCall.Answer

abbrev call (question : DoorCall) : DoorProgram question.Answer :=
  .ask question

section

variable (platform : DoorPlatform) (env : DoorEnv)

def redirectTo (path : String) (cookie : Option String := none) : DoorAnswer :=
  .redirect (env.publicOrigin ++ path) cookie

-----------------------------------------------------------------------------------------
-- The start of a round trip
-----------------------------------------------------------------------------------------

/-- Where a provider is asked, and the verifier that its code is bound to. For Apple it throws. -/
def authorizeUrl (provider : SsoProvider) (moment : DoorMoment)
    : Option (DoorAnswer × Option String) :=
  match provider with
  | .google =>
      some
        (.authorize "https://accounts.google.com/o/oauth2/v2/auth"
          [("client_id", env.googleOauthClientId.getD ""),
            ("redirect_uri", env.redirectUri .google), ("response_type", "code"),
            ("scope", "openid email"), ("state", moment.state),
            ("code_challenge", platform.pkceChallenge moment.verifier),
            ("code_challenge_method", "S256")],
          some moment.verifier)
  | .github =>
      some
        (.authorize "https://github.com/login/oauth/authorize"
          [("client_id", env.githubOauthClientId.getD ""),
            ("redirect_uri", env.redirectUri .github), ("scope", "read:user user:email"),
            ("state", moment.state)],
          none)
  | .apple => none

/-- The row of a round trip, good for ten minutes. -/
def stateRow (provider : SsoProvider) (verifier redirectTo : Option String) (moment : DoorMoment)
    : OAuthState where
  state := moment.state
  provider := provider.name
  verifier := verifier
  redirectTo := redirectTo
  expiresAt := moment.now + 10 * 60 * 1000

def beginSso (provider : String) (redirectTo : Option String) (moment : DoorMoment)
    : DoorProgram DoorAnswer :=
  match offered? env.toSsoEnv provider with
  | none => return .json (err "unknown_provider" 404)
  | some provider =>
      match authorizeUrl platform env provider moment with
      | none => return .json internalError
      | some (answer, verifier) => do
          let path := safeSameOriginRedirectPath platform redirectTo env.publicOrigin
          let written : Bool ← call (.createOAuthState (stateRow provider verifier path moment))
          if written then return answer else return .json internalError

-----------------------------------------------------------------------------------------
-- The account of an identity
-----------------------------------------------------------------------------------------

/-- The account of an identity that is already linked. -/
def linkedAccount (identity : VerifiedIdentity) (linkedId : String)
    : DoorProgram (Option UpsertResult) := do
  let found : Option Account ← call (.getAccountById linkedId)
  match found.filter fun account => !barred account with
  | none => return some (.refused .unavailable)
  | some account =>
      let _ : Unit ← call (.touchIdentityLogin identity.provider identity.subject)
      return some (.ok account false)

/-- An account gets a new identity. -/
def linkAccount (identity : VerifiedIdentity) (account : Account) (created : Bool)
    : DoorProgram (Option UpsertResult) := do
  let _ : Unit ← call (.linkIdentity identity.provider identity.subject account.id)
  let _ : Unit ← call (.touchIdentityLogin identity.provider identity.subject)
  return some (.ok account created)

/-- The account of an identity: the one that it is linked to, or the one of its email, or a new one if
that is allowed. It has no result where it throws.
-/
def upsertAccountForVerifiedEmail (identity : VerifiedIdentity) (allowCreate : Bool)
    (newId : String)
    : DoorProgram (Option UpsertResult) := do
  let email := normalizeEmail platform.toLowerCase identity.email
  let linkedId : Option String ←
    call (.getAccountIdByIdentity identity.provider identity.subject)
  match truthy linkedId with
  | some linkedId => linkedAccount identity linkedId
  | none =>
      let existing : Option Account ← call (.getAccountByEmail email)
      match existing with
      | some account =>
          if barred account then return some (.refused .unavailable)
          else linkAccount identity account false
      | none =>
          if !allowCreate then return some (.refused .signupsClosed)
          else
            let created : Option Account ← call (.createAccount newId email)
            match created with
            | none => return none
            | some account => linkAccount identity account true

/-- A session is started for the account of an identity. -/
def signIn (identity : VerifiedIdentity) (unavailable path : String) (moment : DoorMoment)
    (allowCreate : Bool)
    : DoorProgram DoorAnswer := do
  let result : Option UpsertResult ←
    upsertAccountForVerifiedEmail platform identity allowCreate moment.newId
  match result with
  | none => return .json internalError
  | some (.refused .signupsClosed) => return redirectTo env "/?error=signups_closed"
  | some (.refused .unavailable) => return redirectTo env unavailable
  | some (.ok account _) =>
      let session := sessionRow platform.sha256 account.id moment.token moment.started
      let written : Bool ← call (.createSession session)
      let domain := sessionCookieDomain platform.toLowerCase env.controlPlaneHost
      if written then
        return redirectTo env path
          (some (sessionCookie moment.token (SESSION_TTL_MS / 1000) domain))
      else return .json internalError

-----------------------------------------------------------------------------------------
-- The end of a round trip
-----------------------------------------------------------------------------------------

/-- GET /auth/:provider/callback -/
def finishSso (provider : String) (code state : Option String) (moment : DoorMoment)
    : DoorProgram DoorAnswer :=
  match offered? env.toSsoEnv provider with
  | none => return .json (err "unknown_provider" 404)
  | some offered =>
      match truthy code, truthy state with
      | some code, some state => do
          let row : Option OAuthState ← call (.consumeOAuthState state moment.now)
          match row.filter fun row => row.provider = offered.name with
          | none => return redirectTo env "/?error=sso_failed"
          | some row =>
              let exchanged : Exchanged ←
                (exchangeCode platform.toSsoPlatform env.toSsoEnv offered code row.verifier
                  moment.claimsRead).through fun request => call (.fetch request)
              match exchanged with
              | .threw => return .json internalError
              | .refused => return redirectTo env "/?error=sso_unverified_email"
              | .verified identity =>
                  let enabled : Option String ← call (.getSetting "signups_enabled")
                  signIn platform env identity "/?error=account_unavailable"
                    (row.redirectTo.getD "/") moment (settingEnabled platform.toLowerCase enabled)
      | _, _ => return redirectTo env "/?error=sso_failed"

-----------------------------------------------------------------------------------------
-- The link in a mail
-----------------------------------------------------------------------------------------

/-- The row of a link. Of its token it has the hash only. -/
def linkRow (email : String) (moment : DoorMoment) : LoginToken where
  tokenHash := sha256Hex platform.sha256 moment.token
  email := email
  expiresAt := moment.now + LOGIN_TTL_MINUTES * 60 * 1000

/-- The mail goes out only if its row was written. -/
def sendMagicLink (email : String) (moment : DoorMoment) : DoorProgram Unit := do
  let written : Bool ← call (.createLoginToken (linkRow platform email moment))
  if written then
    let link := env.publicOrigin ++ "/auth/email/callback?token=" ++ moment.token
    call (.send email magicLinkSubject (magicLinkText link))
  else return ()

/-- What a start of a mailed sign-in asks for. -/
def requestedEmail (body : Option Json) : String :=
  normalizeEmail platform.toLowerCase
    (match body.bind (Json.field? "email") with
    | none | some .null => ""
    | some (.str text) => text
    | some value => platform.asText value)

/-- A link goes to an account that is in order, or to a new one while signups are on. -/
def offerLink (email : String) (moment : DoorMoment) : DoorProgram Unit := do
  let enabled : Option String ← call (.getSetting "signups_enabled")
  let existing : Option Account ← call (.getAccountByEmail email)
  let open_ := match existing with
    | some account => !barred account
    | none => settingEnabled platform.toLowerCase enabled
  if open_ then sendMagicLink platform env email moment else return ()

/-- POST /api/auth/email/start. It is answered the same whatever becomes of it. The mail is sent after
the answer.
-/
def emailStart (body : Option Json) (moment : DoorMoment) : DoorProgram DoorAnswer := do
  let email := requestedEmail platform body
  let accepted : DoorAnswer := .json (FrontDoor.json [("ok", .bool true)] 202)
  if !looksLikeEmail email then return accepted
  else if env.hasRateLimit then
    let success : Bool ← call (.limit ("email-start:" ++ email))
    if success then
      let _ : Unit ← offerLink platform env email moment
      return accepted
    else return accepted
  else if env.hasMailer then return accepted
  else
    let _ : Unit ← offerLink platform env email moment
    return accepted

/-- POST /auth/email/callback, with the token of the form. A GET spends nothing. -/
def emailCallback (origin token : Option String) (moment : DoorMoment) : DoorProgram DoorAnswer :=
  if (truthy origin).any (· ≠ env.publicOrigin) then return .json (err "bad_origin" 403)
  else
    match truthy token with
    | none => return redirectTo env "/?error=link_invalid"
    | some token => do
        let enabled : Option String ← call (.getSetting "signups_enabled")
        let row : Option LoginToken ←
          call (.consumeLoginToken (sha256Hex platform.sha256 token) moment.now)
        match row with
        | none => return redirectTo env "/?error=link_invalid"
        | some row =>
            signIn platform env { provider := .email, subject := row.email, email := row.email }
              "/?error=link_invalid" "/" moment (settingEnabled platform.toLowerCase enabled)

def program : DoorRequest → DoorProgram DoorAnswer
  | .beginSso provider redirectTo moment => beginSso platform env provider redirectTo moment
  | .finishSso provider code state moment => finishSso platform env provider code state moment
  | .emailStart body moment => emailStart platform env body moment
  | .emailCallback origin token moment => emailCallback platform env origin token moment

end

-----------------------------------------------------------------------------------------
-- Side by side
-----------------------------------------------------------------------------------------

/-- Something that happened, and for whom. -/
inductive DoorEvent
  | stateIssued (party : Party DoorRequest) (row : OAuthState)
  | stateUsed (party : Party DoorRequest) (row : OAuthState)
  | linkIssued (party : Party DoorRequest) (row : LoginToken)
  | linkUsed (party : Party DoorRequest) (row : LoginToken)
  | mailSent (party : Party DoorRequest) (recipient subject text : String)
  | answered (party : Party DoorRequest) (request : ProviderRequest) (response : ProviderResponse)
  | settingRead (party : Party DoorRequest) (key : String) (value : Option String)
  | accountRead (party : Party DoorRequest) (account : Account)
  | accountCreated (party : Party DoorRequest) (account : Account)
  | sessionStarted (party : Party DoorRequest) (session : Session)

/-- The tables of the doors, and what has happened. -/
structure DoorDb where
  accounts : Accounts
  identities : Identities
  states : Keyed OAuthState.state
  links : Keyed LoginToken.tokenHash
  sessions : Sessions
  settings : String → Option String
  history : List DoorEvent

/-- What the outside contributes to an answer: the clock of the database, what a provider answers, and
whether the limit is kept.
-/
structure DoorInput where
  dbNow : Nat
  response : ProviderResponse
  allowed : Bool

/-- An operator suspends or deletes an account or changes a setting, and a session ends. -/
inductive DoorChange
  | suspend (now : Nat) (accountId : String)
  | delete (now : Nat) (accountId : String)
  | setSetting (key value : String)
  | revokeSession (tokenHash : String) (now : Nat)
  deriving DecidableEq, Repr

/-- INSERT, which throws where the key is taken. -/
def insertNew {ρ : Type} {key : ρ → String} (table : Keyed key) (row : ρ) : Option (Keyed key) :=
  if free : ∀ old ∈ table.rows, key old ≠ key row then some (table.insert row free) else none

namespace DoorDb

def empty : DoorDb where
  accounts := { table := .empty, emails := List.nodup_nil }
  identities := .empty
  states := .empty
  links := .empty
  sessions := .empty
  settings _ := none
  history := []

def log (db : DoorDb) (event : DoorEvent) : DoorDb :=
  { db with history := db.history ++ [event] }

/-- The row of an account that was looked for. -/
def readAccount (db : DoorDb) (party : Party DoorRequest) (found : Option Account) : DoorDb :=
  found.elim db fun account => db.log (.accountRead party account)

/-- A call of a request, answered. -/
def serve (party : Party DoorRequest) (db : DoorDb) (question : DoorCall) (input : DoorInput)
    : DoorDb × question.Answer :=
  match question with
  | .createOAuthState row =>
      match insertNew db.states row with
      | some states => ({ db with states }.log (.stateIssued party row), true)
      | none => (db, false)
  | .consumeOAuthState state now =>
      let statement := oauthStates.statement state now
      match statement.returning db.states with
      | some row =>
          ({ db with states := statement.apply db.states }.log (.stateUsed party row), some row)
      | none => (db, none)
  | .fetch request => (db.log (.answered party request input.response), input.response)
  | .limit _ => (db, input.allowed)
  | .getSetting key => (db.log (.settingRead party key (db.settings key)), db.settings key)
  | .getAccountById id =>
      let found := getAccountById db.accounts id
      (db.readAccount party found, found)
  | .getAccountByEmail email =>
      let found := getAccountByEmail db.accounts email
      (db.readAccount party found, found)
  | .getAccountIdByIdentity provider subject =>
      (db, getAccountIdByIdentity db.identities provider subject)
  | .createAccount id email =>
      match createAccount db.accounts id email with
      | some (accounts, account) =>
          ({ db with accounts }.log (.accountCreated party account), some account)
      | none => (db, none)
  | .linkIdentity provider subject accountId =>
      ({ db with identities := linkIdentity db.identities provider subject accountId }, ())
  | .touchIdentityLogin provider subject =>
      let touch := touchIdentityLogin input.dbNow provider subject
      ({ db with identities := touch.apply db.identities }, ())
  | .createLoginToken row =>
      match insertNew db.links row with
      | some links => ({ db with links }.log (.linkIssued party row), true)
      | none => (db, false)
  | .consumeLoginToken tokenHash now =>
      let statement := loginTokens.statement tokenHash now
      match statement.returning db.links with
      | some row =>
          ({ db with links := statement.apply db.links }.log (.linkUsed party row), some row)
      | none => (db, none)
  | .send recipient subject text => (db.log (.mailSent party recipient subject text), ())
  | .createSession row =>
      match createSession db.sessions row with
      | some sessions => ({ db with sessions }.log (.sessionStarted party row), true)
      | none => (db, false)

theorem suspendAccount_keeps (now : Nat) (id : String) (row : Account)
    : ((suspendAccount now id).set row).email = row.email :=
  rfl

theorem deleteAccount_keeps (now : Nat) (id : String) (row : Account)
    : ((deleteAccount now id).set row).email = row.email :=
  rfl

/-- What happens besides the requests. -/
def change (db : DoorDb) : DoorChange → DoorDb
  | .suspend now accountId =>
      { db with
        accounts :=
          db.accounts.update (suspendAccount now accountId) (suspendAccount_keeps now accountId) }
  | .delete now accountId =>
      { db with
        accounts :=
          db.accounts.update (deleteAccount now accountId) (deleteAccount_keeps now accountId) }
  | .setSetting key value => { db with settings := Function.update db.settings key (some value) }
  | .revokeSession tokenHash now =>
      { db with sessions := (revokeSession tokenHash now).apply db.sessions }

end DoorDb

def doorRules (platform : DoorPlatform) (env : DoorEnv)
    : PoolRules DoorCall DoorCall.Answer DoorAnswer DoorRequest DoorDb DoorInput DoorChange where
  program := program platform env
  serve := DoorDb.serve
  failed := .json internalError
  change db change := some (db.change change)

end ControlPlane.Doors
