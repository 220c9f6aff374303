import ControlPlane.Doors.Requests

/-! Who is let in. However sign-ins are interleaved with each other and with operators, and wherever they
fail: a session starts only for an account whose email a provider or a mailed link has vouched for, of
the same identity that signs in now.
-/

namespace ControlPlane.Doors

open ControlPlane.Crypto
open ControlPlane.FrontDoor
open ControlPlane.Identity (UpsertRefusal UpsertResult barred normalizeEmail)
open ControlPlane.Library
open ControlPlane.Store
open ControlPlane.StudioBindings (truthy)

-----------------------------------------------------------------------------------------
-- What may happen
-----------------------------------------------------------------------------------------

/-- What Google says in the claims of a token: it is from Google, for us, still good, and of a subject
with a verified email.
-/
structure GoogleClaims (platform : SsoPlatform) (env : SsoEnv) (now : Nat) (claims : Json)
    (subject email : String)
    : Prop where
  issuer : claim "iss" claims = "https://accounts.google.com" ∨ claim "iss" claims = "accounts.google.com"
  audience : isAudience env claims = true
  current : isCurrent platform now claims = true
  subject : claim "sub" claims = subject ∧ subject ≠ ""
  email : claim "email" claims = email ∧ email ≠ ""
  verified : isEmailVerified claims = true

/-- An address of a GitHub account that is its primary one, and verified. -/
structure PrimaryEntry (platform : SsoPlatform) (entry : Json) (email : String) : Prop where
  primary : (truthyField platform "primary" entry).isSome
  verified : (truthyField platform "verified" entry).isSome
  email : entry.field? "email" = some (.str email) ∧ email ≠ ""

section

variable (platform : DoorPlatform) (env : DoorEnv) (history : List DoorEvent)
  (party : Party DoorRequest)

/-- The party was answered well by a provider. -/
def Told (request : ProviderRequest) (body : Json) : Prop :=
  .answered party request { ok := true, body := some body } ∈ history

/-- The party came back from a provider with a code, and with a state that it used. -/
def CameBack (provider : SsoProvider) (code : String) (row : OAuthState) (moment : DoorMoment)
    : Prop :=
  party.request = .finishSso provider.name (some code) (some row.state) moment
  ∧ row.provider = provider.name ∧ .stateUsed party row ∈ history

/-- The identity of a party is vouched for: by Google or GitHub, for the code that it came back with, or
by a link that it used.
-/
inductive Vouched : VerifiedIdentity → Prop
  | google {code : String} {row : OAuthState} {moment : DoorMoment} {body claims : Json}
    {idToken subject email : String} (cameBack : CameBack history party .google code row moment)
    (told : Told history party (googleTokenRequest env.toSsoEnv code row.verifier) body)
    (isToken : body.field? "id_token" = some (.str idToken))
    (decoded : decodeJwtPayload idToken = some claims)
    (claimed
      : GoogleClaims platform.toSsoPlatform env.toSsoEnv moment.claimsRead claims subject email)
    : Vouched { provider := .google, subject, email }
  | github {code : String} {row : OAuthState} {moment : DoorMoment} {body user entry : Json}
    {entries : List Json} {value : Json} {token id email : String}
    (cameBack : CameBack history party .github code row moment)
    (told : Told history party (githubTokenRequest env.toSsoEnv code) body)
    (isValue : body.field? "access_token" = some value)
    (isToken : token = value.text?.getD (platform.asText value))
    (toldUser : Told history party (githubUserRequest token) user)
    (isUser : user.field? "id" = some (.num id))
    (toldEmails : Told history party (githubEmailsRequest token) (.array entries))
    (isEntry : entry ∈ entries) (isPrimary : PrimaryEntry platform.toSsoPlatform entry email)
    : Vouched { provider := .github, subject := platform.asText (.num id), email }
  | link {row : LoginToken} (used : .linkUsed party row ∈ history)
    : Vouched { provider := .email, subject := row.email, email := row.email }

/-- The identity has once been vouched for with the email of the account. -/
def Proven (identity : VerifiedIdentity) (account : Account) : Prop :=
  ∃ voucher earlier, Vouched platform env history voucher earlier
    ∧ earlier.provider = identity.provider ∧ earlier.subject = identity.subject
    ∧ account.email = normalizeEmail platform.toLowerCase earlier.email

/-- The identity of a party is vouched for, its account was found in order or was just created, and the
identity has been vouched for with the email of the account.
-/
structure Admitted (identity : VerifiedIdentity) (account : Account) : Prop where
  vouched : Vouched platform env history party identity
  standing : barred account = false
  seen : .accountRead party account ∈ history ∨ .accountCreated party account ∈ history
  proven : Proven platform env history identity account

/-- A new account has an email that is vouched for, and is created while signups are on. -/
structure Creates (account : Account) : Prop where
  vouched : ∃ identity, Vouched platform env history party identity
    ∧ account.email = normalizeEmail platform.toLowerCase identity.email
  enabled : ∃ value, .settingRead party "signups_enabled" value ∈ history
    ∧ settingEnabled platform.toLowerCase value = true

def Proper (before : List DoorEvent) : DoorEvent → Prop
  | .stateIssued party row =>
      ∃ name offered redirectTo moment, party.request = .beginSso name redirectTo moment
        ∧ offered? env.toSsoEnv name = some offered ∧ row.provider = offered.name
        ∧ row.state = moment.state ∧ row.consumedAt = none
  | .stateUsed _ row =>
      (∃ issuer issued now, .stateIssued issuer issued ∈ before ∧ now < issued.expiresAt
        ∧ row = { issued with consumedAt := some now })
      ∧ ∀ other earlier, .stateUsed other earlier ∈ before → earlier.state ≠ row.state
  | .linkIssued party row =>
      ∃ body moment, party.request = .emailStart body moment
        ∧ row = linkRow platform (requestedEmail platform body) moment
  | .linkUsed _ row =>
      (∃ issuer issued now, .linkIssued issuer issued ∈ before ∧ now < issued.expiresAt
        ∧ row = { issued with consumedAt := some now })
      ∧ ∀ other earlier, .linkUsed other earlier ∈ before → earlier.tokenHash ≠ row.tokenHash
  | .mailSent party recipient _ _ => ∃ row, .linkIssued party row ∈ before ∧ row.email = recipient
  | .accountCreated party account => Creates platform env before party account
  | .sessionStarted party session =>
      ∃ identity account, Admitted platform env before party identity account
        ∧ account.id = session.accountId
  | .answered .. | .settingRead .. | .accountRead .. => True

end

variable {platform : DoorPlatform} {env : DoorEnv} {history grown : List DoorEvent}
  {party : Party DoorRequest} {db after : DoorDb}

theorem Told.later {request : ProviderRequest} {body : Json} (told : Told history party request body)
    (grows : history <+: grown)
    : Told grown party request body :=
  grows.subset told

theorem CameBack.later {provider : SsoProvider} {code : String} {row : OAuthState}
    {moment : DoorMoment} (cameBack : CameBack history party provider code row moment)
    (grows : history <+: grown)
    : CameBack grown party provider code row moment :=
  ⟨cameBack.1, cameBack.2.1, grows.subset cameBack.2.2⟩

/-- What was vouched for stays so, by the way it was. -/
theorem Vouched.later {identity : VerifiedIdentity}
    (vouched : Vouched platform env history party identity) (grows : history <+: grown)
    : Vouched platform env grown party identity := by
  cases vouched with
  | google cameBack told isToken decoded claimed =>
      exact .google (cameBack.later grows) (told.later grows) isToken decoded claimed
  | github cameBack told isValue isToken toldUser isUser toldEmails isEntry isPrimary =>
      exact .github (cameBack.later grows) (told.later grows) isValue isToken
        (toldUser.later grows) isUser (toldEmails.later grows) isEntry isPrimary
  | link used => exact .link (grows.subset used)

theorem Proven.later {identity : VerifiedIdentity} {account : Account}
    (proven : Proven platform env history identity account) (grows : history <+: grown)
    : Proven platform env grown identity account := by
  obtain ⟨voucher, earlier, vouched, same⟩ := proven
  exact ⟨voucher, earlier, vouched.later grows, same⟩

-----------------------------------------------------------------------------------------
-- The exchange
-----------------------------------------------------------------------------------------

/-- Claims that are accepted say all that they have to. -/
theorem googleClaims_of_identity {platform : SsoPlatform} {env : SsoEnv} {now : Nat} {claims : Json}
    {identity : VerifiedIdentity}
    (accepted : googleIdentity platform env now claims = some identity)
    : ∃ subject email, identity = { provider := .google, subject, email }
        ∧ GoogleClaims platform env now claims subject email := by
  unfold googleIdentity at accepted
  split at accepted
  next => cases accepted
  next issuer =>
    split at accepted
    next => cases accepted
    next audience =>
      split at accepted
      next => cases accepted
      next current =>
        split at accepted
        next => cases accepted
        next rest =>
          cases accepted
          refine ⟨_, _, rfl, ?_⟩
          simp only [not_or] at rest
          constructor
          case issuer => simpa [or_iff_not_imp_left] using issuer
          case audience => simpa using audience
          case current => simpa using current
          case subject => exact ⟨rfl, rest.1⟩
          case email => exact ⟨rfl, rest.2.1⟩
          case verified => simpa using rest.2.2

/-- The address that is found is one of the entries, by induction on them. -/
theorem primaryEntry_of_found {platform : SsoPlatform} {entries : List Json} {email : String}
    (found : primaryEmail platform entries = .ok (some email)) (written : email ≠ "")
    : ∃ entry ∈ entries, PrimaryEntry platform entry email := by
  induction entries with
  | nil => cases found
  | cons entry later ih =>
      unfold primaryEmail at found
      split at found
      next isNil => cases isNil
      next => cases found
      next same =>
        cases same
        split at found
        next isPrimary isVerified isEmail =>
          cases found
          exact ⟨entry, List.mem_cons_self, Option.isSome_of_mem isPrimary,
            Option.isSome_of_mem isVerified, isEmail, written⟩
        next =>
          obtain ⟨other, isLater, isPrimary⟩ := ih found
          exact ⟨other, List.mem_cons_of_mem _ isLater, isPrimary⟩

-----------------------------------------------------------------------------------------
-- What the tables say
-----------------------------------------------------------------------------------------

/-- The accounts of one table are in another, with their emails. -/
def Persists (before after : Accounts) : Prop :=
  ∀ old ∈ before.table.rows, ∃ current ∈ after.table.rows,
    current.id = old.id ∧ current.email = old.email

theorem Persists.refl (accounts : Accounts) : Persists accounts accounts :=
  fun old isOld => ⟨old, isOld, rfl, rfl⟩

theorem Persists.trans {first second third : Accounts} (early : Persists first second)
    (late : Persists second third)
    : Persists first third := by
  intro old isOld
  obtain ⟨middle, isMiddle, sameId, sameEmail⟩ := early old isOld
  obtain ⟨current, isCurrent, laterId, laterEmail⟩ := late middle isMiddle
  exact ⟨current, isCurrent, laterId.trans sameId, laterEmail.trans sameEmail⟩

/-- The account has a row, with its email, whatever became of it. -/
def Present (accounts : Accounts) (account : Account) : Prop :=
  ∃ current ∈ accounts.table.rows, current.id = account.id ∧ current.email = account.email

theorem Present.later {accounts laterAccounts : Accounts} {account : Account}
    (present : Present accounts account) (persists : Persists accounts laterAccounts)
    : Present laterAccounts account := by
  obtain ⟨current, isCurrent, isId, isEmail⟩ := present
  obtain ⟨later, isLater, laterId, laterEmail⟩ := persists current isCurrent
  exact ⟨later, isLater, laterId.trans isId, laterEmail.trans isEmail⟩

theorem persists_update (accounts : Accounts) (statement : Update Account.id)
    (keeps : ∀ account, (statement.set account).email = account.email)
    : Persists accounts (accounts.update statement keeps) := by
  intro old isOld
  refine ⟨statement.onRow old, List.mem_map_of_mem isOld, ?_⟩
  rcases statement.onRow_cases old with same | ⟨_, set⟩
  · rw [same]
    exact ⟨rfl, rfl⟩
  · rw [set]
    exact ⟨statement.keeps old, keeps old⟩

theorem persists_createAccount {accounts grown : Accounts} {id email : String} {account : Account}
    (created : createAccount accounts id email = some (grown, account))
    : Persists accounts grown ∧ account ∈ grown.table.rows ∧ account.email = email
      ∧ barred account = false := by
  unfold createAccount at created
  dsimp only at created
  split at created
  next free =>
    cases created
    refine ⟨fun old isOld => ⟨old, List.mem_append_left _ isOld, rfl, rfl⟩, ?_, rfl, rfl⟩
    exact List.mem_append_right _ (List.mem_singleton_self _)
  next => cases created

/-- The link of an identity: somebody was vouched for under it, with the email of its account. -/
structure Linked (platform : DoorPlatform) (env : DoorEnv) (history : List DoorEvent)
    (accounts : Accounts) (row : AccountIdentity)
    : Prop where
  vouched : ∃ voucher identity, Vouched platform env history voucher identity
    ∧ row.key = (identity.provider, identity.subject)
    ∧ ∃ account ∈ accounts.table.rows, account.id = row.accountId
        ∧ account.email = normalizeEmail platform.toLowerCase identity.email

theorem Linked.later {accounts laterAccounts : Accounts} {row : AccountIdentity}
    (linked : Linked platform env history accounts row) (grows : history <+: grown)
    (persists : Persists accounts laterAccounts)
    : Linked platform env grown laterAccounts row := by
  obtain ⟨voucher, identity, vouched, isKey, account, isAccount, isId, isEmail⟩ := linked.vouched
  obtain ⟨current, isCurrent, sameId, sameEmail⟩ := persists account isAccount
  exact ⟨voucher, identity, vouched.later grows, isKey, current, isCurrent, sameId.trans isId,
    sameEmail.trans isEmail⟩

/-- The session was started, for an account whose email was vouched for. -/
structure Started (platform : DoorPlatform) (env : DoorEnv) (history : List DoorEvent)
    (accounts : Accounts) (session : Session)
    : Prop where
  start : ∃ party started, .sessionStarted party started ∈ history
    ∧ started.tokenHash = session.tokenHash ∧ started.accountId = session.accountId
    ∧ started.expiresAt = session.expiresAt
  account : ∃ account ∈ accounts.table.rows, account.id = session.accountId
    ∧ ∃ voucher identity, Vouched platform env history voucher identity
      ∧ account.email = normalizeEmail platform.toLowerCase identity.email

theorem Started.later {accounts laterAccounts : Accounts} {session : Session}
    (started : Started platform env history accounts session) (grows : history <+: grown)
    (persists : Persists accounts laterAccounts)
    : Started platform env grown laterAccounts session := by
  obtain ⟨⟨party, start, happened, same⟩, account, isAccount, isId, voucher, identity, vouched,
    isEmail⟩ := started
  obtain ⟨current, isCurrent, sameId, sameEmail⟩ := persists account isAccount
  exact ⟨⟨party, start, grows.subset happened, same⟩, current, isCurrent, sameId.trans isId, voucher,
    identity, vouched.later grows, sameEmail.trans isEmail⟩

/-- All that happened was proper, and the tables are true to it. -/
structure DoorDb.Kept (platform : DoorPlatform) (env : DoorEnv) (db : DoorDb) : Prop where
  proper : InOrder (Proper platform env) db.history
  states
    : Accounted oauthStates (fun row => ∃ party, .stateIssued party row ∈ db.history)
        (fun row => ∃ party, .stateUsed party row ∈ db.history) db.states
  links
    : Accounted loginTokens (fun row => ∃ party, .linkIssued party row ∈ db.history)
        (fun row => ∃ party, .linkUsed party row ∈ db.history) db.links
  identities : ∀ row ∈ db.identities.rows, Linked platform env db.history db.accounts row
  sessions : ∀ session ∈ db.sessions.rows, Started platform env db.history db.accounts session

/-- The history grows, and the accounts stay. -/
structure Moves (before after : DoorDb) : Prop where
  grows : before.history <+: after.history
  persists : Persists before.accounts after.accounts

/-- A move to a state whose tables are true to its history. -/
def Goes (platform : DoorPlatform) (env : DoorEnv) (before after : DoorDb) : Prop :=
  Moves before after ∧ after.Kept platform env

theorem Moves.refl (db : DoorDb) : Moves db db :=
  ⟨List.prefix_rfl, .refl db.accounts⟩

theorem Moves.trans {first second third : DoorDb} (early : Moves first second)
    (late : Moves second third)
    : Moves first third :=
  ⟨early.grows.trans late.grows, early.persists.trans late.persists⟩

-----------------------------------------------------------------------------------------
-- Statements
-----------------------------------------------------------------------------------------

/-- An event that neither issues nor uses a state or a link. -/
def DoorEvent.quiet : DoorEvent → Bool
  | .stateIssued .. | .stateUsed .. | .linkIssued .. | .linkUsed .. => false
  | _ => true

theorem mem_append_quiet {event other : DoorEvent} (quiet : event.quiet = true)
    (loud : other.quiet = false)
    : other ∈ history ++ [event] ↔ other ∈ history := by
  rw [List.mem_append, List.mem_singleton, or_iff_left]
  intro same
  rw [same, quiet] at loud
  cases loud

/-- A quiet event, with whatever it does to the accounts, the identities and the sessions. -/
theorem DoorDb.Kept.quietly {event : DoorEvent} (kept : db.Kept platform env)
    (quiet : event.quiet = true) (proper : Proper platform env db.history event)
    (isHistory : after.history = db.history ++ [event]) (isStates : after.states = db.states)
    (isLinks : after.links = db.links) (persists : Persists db.accounts after.accounts)
    (identities
      : ∀ row ∈ after.identities.rows,
          row ∈ db.identities.rows ∨ Linked platform env after.history after.accounts row)
    (sessions : ∀ session ∈ after.sessions.rows,
      session ∈ db.sessions.rows ∨ Started platform env after.history after.accounts session)
    : Goes platform env db after := by
  have grows : db.history <+: after.history := isHistory ▸ List.prefix_append _ _
  refine ⟨⟨grows, persists⟩, ?_⟩
  constructor
  case proper =>
    rw [isHistory]
    exact kept.proper.append proper
  case states =>
    rw [isHistory, isStates]
    simpa only [mem_append_quiet quiet (rfl : DoorEvent.quiet (.stateIssued _ _) = false),
      mem_append_quiet quiet (rfl : DoorEvent.quiet (.stateUsed _ _) = false)] using kept.states
  case links =>
    rw [isHistory, isLinks]
    simpa only [mem_append_quiet quiet (rfl : DoorEvent.quiet (.linkIssued _ _) = false),
      mem_append_quiet quiet (rfl : DoorEvent.quiet (.linkUsed _ _) = false)] using kept.links
  case identities =>
    intro row isRow
    rcases identities row isRow with old | linked
    · exact (kept.identities row old).later grows persists
    · exact linked
  case sessions =>
    intro session isSession
    rcases sessions session isSession with old | started
    · exact (kept.sessions session old).later grows persists
    · exact started

/-- A quiet event that does nothing to the tables. -/
theorem DoorDb.Kept.log {event : DoorEvent} (kept : db.Kept platform env)
    (quiet : event.quiet = true) (proper : Proper platform env db.history event)
    : Goes platform env db (db.log event) :=
  kept.quietly quiet proper rfl rfl rfl (.refl _) (fun _ => .inl) fun _ => .inl

/-- A change that is no event, and keeps the accounts, the links of the identities and the sessions. -/
theorem DoorDb.Kept.silently (kept : db.Kept platform env) (isHistory : after.history = db.history)
    (isStates : after.states = db.states) (isLinks : after.links = db.links)
    (persists : Persists db.accounts after.accounts)
    (identities : ∀ row ∈ after.identities.rows, Linked platform env db.history after.accounts row)
    (sessions
      : ∀ session ∈ after.sessions.rows, Started platform env db.history after.accounts session)
    : Goes platform env db after := by
  refine ⟨⟨isHistory ▸ List.prefix_rfl, persists⟩, ?_⟩
  constructor
  case proper => exact isHistory ▸ kept.proper
  case states => exact isHistory ▸ isStates ▸ kept.states
  case links => exact isHistory ▸ isLinks ▸ kept.links
  case identities => exact isHistory ▸ identities
  case sessions => exact isHistory ▸ sessions

/-- What is said of a link is said by its key and its account. -/
theorem Linked.congr {accounts : Accounts} {row other : AccountIdentity}
    (linked : Linked platform env history accounts row) (sameKey : other.key = row.key)
    (sameAccount : other.accountId = row.accountId)
    : Linked platform env history accounts other := by
  obtain ⟨voucher, identity, vouched, isKey, account, isAccount, isId, isEmail⟩ := linked.vouched
  exact ⟨voucher, identity, vouched, sameKey.trans isKey, account, isAccount,
    isId.trans sameAccount.symm, isEmail⟩

/-- A call that reads, asks the outside, or notes a login. -/
def DoorCall.reads : DoorCall → Bool
  | .fetch _ | .limit _ | .getSetting _ | .getAccountById _ | .getAccountByEmail _
  | .getAccountIdByIdentity .. | .touchIdentityLogin .. => true
  | _ => false

theorem DoorDb.Kept.readAccount (kept : db.Kept platform env) (found : Option Account)
    : Goes platform env db (db.readAccount party found) := by
  cases found with
  | none => exact ⟨.refl db, kept⟩
  | some account => exact kept.log rfl trivial

theorem DoorDb.Kept.read (kept : db.Kept platform env) (party : Party DoorRequest)
    {question : DoorCall} (reads : question.reads = true) (input : DoorInput)
    : Goes platform env db (db.serve party question input).1 := by
  cases question with
  | fetch request => exact kept.log rfl trivial
  | limit key => exact ⟨.refl db, kept⟩
  | getSetting key => exact kept.log rfl trivial
  | getAccountById id => exact kept.readAccount _
  | getAccountByEmail email => exact kept.readAccount _
  | getAccountIdByIdentity provider subject => exact ⟨.refl db, kept⟩
  | touchIdentityLogin provider subject =>
      refine kept.silently rfl rfl rfl (.refl _) ?_ kept.sessions
      intro row isRow
      rcases Update.mem_apply_cases isRow with ⟨old, isOld, _, _, rfl⟩ | isOld
      · exact (kept.identities old isOld).congr rfl rfl
      · exact kept.identities row isOld
  | _ => cases reads

/-- An identity is linked to an account with an email that it is vouched for. -/
theorem DoorDb.Kept.link {identity : VerifiedIdentity} {account : Account}
    (kept : db.Kept platform env) (vouched : Vouched platform env db.history party identity)
    (isEmail : account.email = normalizeEmail platform.toLowerCase identity.email)
    (present : Present db.accounts account) (input : DoorInput)
    : Goes platform env db
        (db.serve party (.linkIdentity identity.provider identity.subject account.id) input).1 := by
  refine kept.silently rfl rfl rfl (.refl _) ?_ kept.sessions
  intro row isRow
  have either := Keyed.insertOrIgnore_rows db.identities
    { provider := identity.provider, subject := identity.subject, accountId := account.id }
  rcases either with same | added
  · exact kept.identities row (same ▸ isRow)
  · have inAdded := added ▸ isRow
    rcases List.mem_append.mp inAdded with old | new
    · exact kept.identities row old
    · rw [List.mem_singleton.mp new]
      obtain ⟨current, isCurrent, sameId, sameEmail⟩ := present
      exact ⟨party, identity, vouched, rfl, current, isCurrent, sameId, sameEmail.trans isEmail⟩

theorem DoorDb.Kept.create (kept : db.Kept platform env) (id : String) {email : String}
    (creates
      : ∀ account, account.email = email → Creates platform env db.history party account)
    (input : DoorInput)
    : Goes platform env db (db.serve party (.createAccount id email) input).1 := by
  dsimp only [DoorDb.serve]
  split
  next accounts account created =>
    obtain ⟨persists, _, isEmail, _⟩ := persists_createAccount created
    have quiet : DoorEvent.quiet (.accountCreated party account) = true := rfl
    exact kept.quietly quiet (creates account isEmail) rfl rfl rfl persists (fun _ => .inl)
      fun _ => .inl
  next => exact ⟨.refl db, kept⟩

theorem DoorDb.Kept.start {session : Session} (kept : db.Kept platform env)
    {identity : VerifiedIdentity} {account : Account}
    (admitted : Admitted platform env db.history party identity account)
    (present : Present db.accounts account) (isId : account.id = session.accountId)
    (input : DoorInput)
    : Goes platform env db (db.serve party (.createSession session) input).1 := by
  dsimp only [DoorDb.serve]
  split
  next sessions created =>
    unfold createSession at created
    split at created
    next free =>
      cases created
      have quiet : DoorEvent.quiet (.sessionStarted party session) = true := rfl
      refine kept.quietly quiet ⟨identity, account, admitted, isId⟩ rfl rfl rfl (.refl _)
        (fun _ => .inl) fun other isOther => ?_
      rcases List.mem_append.mp isOther with old | new
      · exact .inl old
      · obtain ⟨voucher, earlier, vouched, _, _, isEmail⟩ := admitted.proven
        obtain ⟨current, isCurrent, sameId, sameEmail⟩ := present
        rw [List.mem_singleton.mp new]
        refine .inr ⟨⟨party, session, ?_, rfl, rfl, rfl⟩, current, isCurrent, sameId.trans isId,
          voucher, earlier, vouched.later (List.prefix_append _ _), sameEmail.trans isEmail⟩
        exact List.mem_append_right _ (List.mem_singleton_self _)
    next => cases created
  next => exact ⟨.refl db, kept⟩

/-- A row that is issued, with an event that says so, or nothing if its key is taken. -/
theorem DoorDb.Kept.issueState {row : OAuthState} (kept : db.Kept platform env)
    (proper : Proper platform env db.history (.stateIssued party row)) (input : DoorInput)
    : Goes platform env db (db.serve party (.createOAuthState row) input).1 := by
  dsimp only [DoorDb.serve]
  split
  next states issued =>
    unfold insertNew at issued
    split at issued
    next free =>
      cases issued
      have grows : db.history <+: db.history ++ [.stateIssued party row] := List.prefix_append _ _
      refine ⟨⟨grows, .refl _⟩, kept.proper.append proper, ?_, ?_, ?_, ?_⟩
      · have unused : row.consumedAt = none := by
          obtain ⟨_, _, _, _, _, _, _, _, unused⟩ := proper
          exact unused
        simpa [DoorDb.log, exists_or] using kept.states.insert free unused
      · simpa [DoorDb.log] using kept.links
      · exact fun other isOther => (kept.identities other isOther).later grows (.refl _)
      · exact fun session isSession => (kept.sessions session isSession).later grows (.refl _)
    next => cases issued
  next => exact ⟨.refl db, kept⟩

theorem DoorDb.Kept.issueLink {row : LoginToken} (kept : db.Kept platform env)
    (proper : Proper platform env db.history (.linkIssued party row)) (input : DoorInput)
    : Goes platform env db (db.serve party (.createLoginToken row) input).1
      ∧ ((db.serve party (.createLoginToken row) input).2 = true
        → .linkIssued party row ∈ (db.serve party (.createLoginToken row) input).1.history) := by
  dsimp only [DoorDb.serve]
  split
  next links issued =>
    unfold insertNew at issued
    split at issued
    next free =>
      cases issued
      have grows : db.history <+: db.history ++ [.linkIssued party row] := List.prefix_append _ _
      refine ⟨⟨⟨grows, .refl _⟩, kept.proper.append proper, ?_, ?_, ?_, ?_⟩, fun _ => ?_⟩
      · simpa [DoorDb.log] using kept.states
      · have unused : row.consumedAt = none := by
          obtain ⟨_, _, _, rfl⟩ := proper
          rfl
        simpa [DoorDb.log, exists_or] using kept.links.insert free unused
      · exact fun other isOther => (kept.identities other isOther).later grows (.refl _)
      · exact fun session isSession => (kept.sessions session isSession).later grows (.refl _)
      · exact List.mem_append_right _ (List.mem_singleton_self _)
    next => cases issued
  next => exact ⟨⟨.refl db, kept⟩, fun written => by cases written⟩

/-- A state that is used was issued, is in time, and was not used before. -/
theorem DoorDb.Kept.useState (kept : db.Kept platform env) (party : Party DoorRequest)
    (state : String) (now : Nat) (input : DoorInput)
    : Goes platform env db (db.serve party (.consumeOAuthState state now) input).1
      ∧ ∀ row, (db.serve party (.consumeOAuthState state now) input).2 = some row
        → row.state = state
          ∧ .stateUsed party row ∈ (db.serve party (.consumeOAuthState state now) input).1.history
    := by
  dsimp only [DoorDb.serve]
  split
  next row taken =>
    obtain ⟨⟨issued, ⟨issuer, happened⟩, rfl, inTime, rfl⟩, unused, states⟩ :=
      kept.states.consume taken
    have grows : db.history <+: db.history ++ [.stateUsed party (oauthStates.consume now issued)] :=
      List.prefix_append _ _
    refine ⟨⟨⟨grows, .refl _⟩, kept.proper.append ?_, ?_, ?_, ?_, ?_⟩, fun other isOther => ?_⟩
    · exact ⟨⟨issuer, issued, now, happened, inTime, rfl⟩, fun user earlier used =>
        unused earlier ⟨user, used⟩⟩
    · simpa [DoorDb.log, exists_or] using states
    · simpa [DoorDb.log] using kept.links
    · exact fun other isOther => (kept.identities other isOther).later grows (.refl _)
    · exact fun session isSession => (kept.sessions session isSession).later grows (.refl _)
    · cases isOther
      exact ⟨rfl, List.mem_append_right _ (List.mem_singleton_self _)⟩
  next => exact ⟨⟨.refl db, kept⟩, fun row isRow => by cases isRow⟩

theorem DoorDb.Kept.useLink (kept : db.Kept platform env) (party : Party DoorRequest)
    (tokenHash : String) (now : Nat) (input : DoorInput)
    : Goes platform env db (db.serve party (.consumeLoginToken tokenHash now) input).1
      ∧ ∀ row, (db.serve party (.consumeLoginToken tokenHash now) input).2 = some row
        → .linkUsed party row
            ∈ (db.serve party (.consumeLoginToken tokenHash now) input).1.history := by
  dsimp only [DoorDb.serve]
  split
  next row taken =>
    obtain ⟨⟨issued, ⟨issuer, happened⟩, rfl, inTime, rfl⟩, unused, links⟩ :=
      kept.links.consume taken
    have grows : db.history <+: db.history ++ [.linkUsed party (loginTokens.consume now issued)] :=
      List.prefix_append _ _
    refine ⟨⟨⟨grows, .refl _⟩, kept.proper.append ?_, ?_, ?_, ?_, ?_⟩, fun other isOther => ?_⟩
    · exact ⟨⟨issuer, issued, now, happened, inTime, rfl⟩, fun user earlier used =>
        unused earlier ⟨user, used⟩⟩
    · simpa [DoorDb.log] using kept.states
    · simpa [DoorDb.log, exists_or] using links
    · exact fun other isOther => (kept.identities other isOther).later grows (.refl _)
    · exact fun session isSession => (kept.sessions session isSession).later grows (.refl _)
    · cases isOther
      exact List.mem_append_right _ (List.mem_singleton_self _)
  next => exact ⟨⟨.refl db, kept⟩, fun row isRow => by cases isRow⟩

-----------------------------------------------------------------------------------------
-- Programs
-----------------------------------------------------------------------------------------

/-- Each question of the program keeps the tables true to the history, if the others do. -/
def Keeping {ρ : Type} (platform : DoorPlatform) (env : DoorEnv) (party : Party DoorRequest)
    (program : DoorProgram ρ) (db : DoorDb)
    : Prop :=
  program.Keeps (DoorDb.serve party) Dialogue.Anything (Goes platform env) (Goes platform env) db

/-- The program keeps to that, and where it ends it has established something of its result. -/
def Leading {ρ : Type} (platform : DoorPlatform) (env : DoorEnv) (party : Party DoorRequest)
    (program : DoorProgram ρ) (db : DoorDb) (post : DoorDb → ρ → Prop)
    : Prop :=
  program.Leads (DoorDb.serve party) Dialogue.Anything (Goes platform env) (Goes platform env) post db

/-- An exchange, with its questions put by way of the calls. -/
abbrev fetched {ρ : Type} (exchange : Exchange ρ) : DoorProgram ρ :=
  exchange.through fun request => call (.fetch request)

/-- A provider may answer anything, and what it answered is remembered. -/
theorem leading_fetch {ρ : Type} {request : ProviderRequest}
    {onward : ProviderResponse → Exchange ρ} {post : DoorDb → ρ → Prop}
    (each
      : ∀ response after, db.history <+: after.history →
          .answered party request response ∈ after.history →
          Leading platform env party (fetched (onward response)) after post)
    : Leading platform env party (fetched (fetch request >>= onward)) db post := by
  intro middle input goes _
  have read := goes.2.read party (rfl : DoorCall.reads (.fetch request) = true) input
  refine ⟨read, each input.response _ (goes.1.grows.trans read.1.grows) ?_⟩
  exact List.mem_append_right _ (List.mem_singleton_self _)

/-- A refusal vouches for nobody. -/
theorem leading_refused {exchanged : Exchanged} (refused : ∀ identity, exchanged ≠ .verified identity)
    : Leading platform env party (fetched (return exchanged)) db (fun db exchanged =>
        ∀ identity, exchanged = .verified identity →
          Vouched platform env db.history party identity) := by
  exact fun identity isVerified => absurd isVerified (refused identity)

theorem field_of_truthyField {key : String} {body : Option Json} {value : Json}
    {platform : SsoPlatform} (found : body.bind (truthyField platform key) = some value)
    : ∃ object, body = some object ∧ object.field? key = some value := by
  obtain ⟨object, isBody, isTruthy⟩ := Option.bind_eq_some_iff.mp found
  exact ⟨object, isBody, (Option.filter_eq_some_iff.mp isTruthy).1⟩

/-- The exchange of a code over Google. -/
theorem leading_exchangeGoogle {code : String} {row : OAuthState} {moment : DoorMoment}
    (cameBack : CameBack db.history party .google code row moment)
    : Leading platform env party
        (fetched (exchangeGoogle platform.toSsoPlatform env.toSsoEnv code row.verifier
          moment.claimsRead))
        db (fun db exchanged => ∀ identity, exchanged = .verified identity →
          Vouched platform env db.history party identity) := by
  refine leading_fetch fun response after grows answered => ?_
  obtain ⟨ok, body⟩ := response
  split
  next => exact leading_refused fun _ => Exchanged.noConfusion
  next isOk =>
    split
    next => exact leading_refused fun _ => Exchanged.noConfusion
    next idToken isToken =>
      split
      next => exact leading_refused fun _ => Exchanged.noConfusion
      next identity isIdentity =>
        intro other isVerified
        cases isVerified
        obtain ⟨object, rfl, isField⟩ := field_of_truthyField isToken
        obtain ⟨claims, decoded, accepted⟩ := Option.bind_eq_some_iff.mp isIdentity
        obtain ⟨subject, email, rfl, claimed⟩ := googleClaims_of_identity accepted
        obtain rfl : ok = true := by simpa using isOk
        exact .google (cameBack.later grows) answered isField decoded claimed
    next => exact leading_refused fun _ => Exchanged.noConfusion

/-- The exchange of a code over GitHub. -/
theorem leading_exchangeGithub {code : String} {row : OAuthState} {moment : DoorMoment}
    (cameBack : CameBack db.history party .github code row moment)
    : Leading platform env party
        (fetched (exchangeGithub platform.toSsoPlatform env.toSsoEnv code))
        db (fun db exchanged => ∀ identity, exchanged = .verified identity →
          Vouched platform env db.history party identity) := by
  refine leading_fetch fun response first grows answered => ?_
  obtain ⟨ok, body⟩ := response
  split
  next => exact leading_refused fun _ => Exchanged.noConfusion
  next isOk =>
    split
    next => exact leading_refused fun _ => Exchanged.noConfusion
    next value isValue =>
      obtain ⟨object, rfl, isField⟩ := field_of_truthyField isValue
      obtain rfl : ok = true := by simpa using isOk
      refine leading_fetch fun response second growsOn answeredUser => ?_
      obtain ⟨okUser, bodyUser⟩ := response
      split
      next id isOkUser isUser =>
        obtain ⟨user, rfl, isId⟩ := Option.bind_eq_some_iff.mp isUser
        obtain rfl : okUser = true := isOkUser
        refine leading_fetch fun response third growsLast answeredEmails => ?_
        obtain ⟨okEmails, bodyEmails⟩ := response
        split
        next entries isOkEmails isEntries =>
          obtain rfl : okEmails = true := isOkEmails
          obtain rfl : bodyEmails = some (.array entries) := isEntries
          split
          next => exact leading_refused fun _ => Exchanged.noConfusion
          next found isFound =>
            split
            next => exact leading_refused fun _ => Exchanged.noConfusion
            next email isEmail =>
              intro other isVerified
              cases isVerified
              obtain ⟨rfl, written⟩ := Option.filter_eq_some_iff.mp isEmail
              obtain ⟨entry, isEntry, isPrimary⟩ :=
                primaryEntry_of_found isFound (of_decide_eq_true written)
              have cameBackLater := ((cameBack.later grows).later growsOn).later growsLast
              exact .github cameBackLater ((growsOn.trans growsLast).subset answered) isField rfl
                (growsLast.subset answeredUser) isId answeredEmails isEntry isPrimary
        next => exact leading_refused fun _ => Exchanged.noConfusion
      next => exact leading_refused fun _ => Exchanged.noConfusion

/-- An identity that comes out of an exchange is vouched for. -/
theorem leading_exchangeCode {provider : SsoProvider} {code : String} {row : OAuthState}
    {moment : DoorMoment} (cameBack : CameBack db.history party provider code row moment)
    : Leading platform env party
        (fetched (exchangeCode platform.toSsoPlatform env.toSsoEnv provider code row.verifier
          moment.claimsRead))
        db (fun db exchanged => ∀ identity, exchanged = .verified identity →
          Vouched platform env db.history party identity) := by
  cases provider with
  | google => exact leading_exchangeGoogle cameBack
  | github => exact leading_exchangeGithub cameBack
  | apple => exact leading_refused fun _ => Exchanged.noConfusion

-----------------------------------------------------------------------------------------
-- The account
-----------------------------------------------------------------------------------------

/-- The account of an identity, if there is one, is admitted. -/
def Admits (platform : DoorPlatform) (env : DoorEnv) (party : Party DoorRequest)
    (identity : VerifiedIdentity) (db : DoorDb) (result : Option UpsertResult)
    : Prop :=
  ∀ account created, result = some (.ok account created) →
    Admitted platform env db.history party identity account ∧ Present db.accounts account

theorem Admitted.later {identity : VerifiedIdentity} {account : Account}
    (admitted : Admitted platform env history party identity account) (grows : history <+: grown)
    : Admitted platform env grown party identity account :=
  ⟨admitted.vouched.later grows, admitted.standing,
    admitted.seen.imp (fun read => grows.subset read) fun created => grows.subset created,
    admitted.proven.later grows⟩

/-- An account that was read in order, under an id that the identity is linked to. -/
theorem leading_linkedAccount {identity : VerifiedIdentity} {linkedId : String}
    (vouched : Vouched platform env db.history party identity)
    (linked
      : ∃ account ∈ db.accounts.table.rows, account.id = linkedId
        ∧ Proven platform env db.history identity account)
    : Leading platform env party (linkedAccount identity linkedId) db
        (Admits platform env party identity) := by
  intro middle input goes _
  have read := goes.2.read party (rfl : DoorCall.reads (.getAccountById linkedId) = true) input
  refine ⟨read, ?_⟩
  dsimp only [DoorDb.serve, Dialogue.andThen] at read ⊢
  split
  next => exact fun account created isOk => by cases isOk
  next account isFound =>
    obtain ⟨found, standing⟩ := Option.filter_eq_some_iff.mp isFound
    rw [found] at read ⊢
    obtain ⟨isRow, _⟩ := Option.filter_eq_some_iff.mp found
    obtain ⟨old, isOld, isId, voucher, earlier, proof_, sameProvider, sameSubject, isEmail⟩ := linked
    obtain ⟨current, isCurrent, sameId, sameEmail⟩ := goes.1.persists old isOld
    have same : current = account :=
      Keyed.eq_of_key isCurrent (Keyed.get?_mem isRow)
        ((sameId.trans isId).trans (Keyed.get?_key isRow).symm)
    have grows := goes.1.grows.trans read.1.grows
    have admitted : Admitted platform env (middle.readAccount party (some account)).history party
        identity account := by
      refine ⟨vouched.later grows, by simpa using standing, .inl ?_, voucher, earlier,
        proof_.later grows, sameProvider, sameSubject, ?_⟩
      · exact List.mem_append_right _ (List.mem_singleton_self _)
      · rw [← same, sameEmail, isEmail]
    have present : Present middle.accounts account := ⟨account, Keyed.get?_mem isRow, rfl, rfl⟩
    intro last input goesOn _
    refine ⟨goesOn.2.read party rfl input, fun other created isOk => ?_⟩
    cases isOk
    exact ⟨admitted.later goesOn.1.grows, present.later goesOn.1.persists⟩

/-- The identity is linked to an account with an email that it is vouched for. -/
theorem leading_linkAccount {identity : VerifiedIdentity} {account : Account} {created : Bool}
    (admitted : Admitted platform env db.history party identity account)
    (isEmail : account.email = normalizeEmail platform.toLowerCase identity.email)
    (present : Present db.accounts account)
    : Leading platform env party (linkAccount identity account created) db
        (Admits platform env party identity) := by
  intro middle input goes _
  have presentLater := present.later goes.1.persists
  have linked :=
    goes.2.link (admitted.vouched.later goes.1.grows) isEmail presentLater input
  refine ⟨linked, ?_⟩
  intro last input goesOn _
  refine ⟨goesOn.2.read party rfl input, fun other created isOk => ?_⟩
  cases isOk
  exact ⟨((admitted.later goes.1.grows).later linked.1.grows).later goesOn.1.grows,
    presentLater.later goesOn.1.persists⟩

/-- Signups were read to be on by the party. -/
def Enabled (platform : DoorPlatform) (history : List DoorEvent) (party : Party DoorRequest) : Prop :=
  ∃ value, .settingRead party "signups_enabled" value ∈ history
    ∧ settingEnabled platform.toLowerCase value = true

theorem Enabled.later (enabled : Enabled platform history party) (grows : history <+: grown)
    : Enabled platform grown party := by
  obtain ⟨value, isRead, isOn⟩ := enabled
  exact ⟨value, grows.subset isRead, isOn⟩

theorem mem_of_getAccountByEmail {accounts : Accounts} {email : String} {account : Account}
    (found : getAccountByEmail accounts email = some account)
    : account ∈ accounts.table.rows ∧ account.email = email := by
  refine ⟨List.mem_of_find?_eq_some found, ?_⟩
  have matched := List.find?_some found
  exact (of_decide_eq_true matched).1

/-- The link of an identity that was found. -/
theorem DoorDb.Kept.linked {identity : VerifiedIdentity} {linkedId : String}
    (kept : db.Kept platform env)
    (found : getAccountIdByIdentity db.identities identity.provider identity.subject = some linkedId)
    : ∃ account ∈ db.accounts.table.rows, account.id = linkedId
        ∧ Proven platform env db.history identity account := by
  obtain ⟨row, isFound, rfl⟩ := Option.map_eq_some_iff.mp found
  obtain ⟨voucher, earlier, vouched, isKey, account, isAccount, isId, isEmail⟩ :=
    (kept.identities row (Keyed.get?_mem isFound)).vouched
  have sameKey := isKey.symm.trans (Keyed.get?_key isFound)
  exact ⟨account, isAccount, isId, voucher, earlier, vouched, congrArg Prod.fst sameKey,
    congrArg Prod.snd sameKey, isEmail⟩

/-- The account that an identity comes to is admitted, and a new one is created only while signups are
on.
-/
theorem leading_upsert {identity : VerifiedIdentity} {allowCreate : Bool} {newId : String}
    (vouched : Vouched platform env db.history party identity)
    (enabled : allowCreate = true → Enabled platform db.history party)
    : Leading platform env party
        (upsertAccountForVerifiedEmail platform identity allowCreate newId) db
        (Admits platform env party identity) := by
  intro first input goes _
  refine ⟨goes.2.read party rfl input, ?_⟩
  have vouchedFirst := vouched.later goes.1.grows
  dsimp only [DoorDb.serve, Dialogue.andThen]
  split
  next linkedId isLinked =>
    exact leading_linkedAccount vouchedFirst
      (goes.2.linked (Option.filter_eq_some_iff.mp isLinked).1)
  next =>
    intro second input goesOn _
    let email := normalizeEmail platform.toLowerCase identity.email
    have read := goesOn.2.read party (rfl : DoorCall.reads (.getAccountByEmail email) = true) input
    refine ⟨read, ?_⟩
    dsimp only [DoorDb.serve, Dialogue.andThen] at read ⊢
    have vouchedSecond := (vouchedFirst.later goesOn.1.grows).later read.1.grows
    split
    next account found =>
      obtain ⟨isRow, isEmail⟩ := mem_of_getAccountByEmail found
      split
      next => exact fun account created isOk => by cases isOk
      next standing =>
        rw [found] at vouchedSecond ⊢
        refine leading_linkAccount ⟨vouchedSecond, by simpa using standing, .inl ?_, ?_⟩ isEmail
          ⟨account, isRow, rfl, rfl⟩
        · exact List.mem_append_right _ (List.mem_singleton_self _)
        · exact ⟨party, identity, vouchedSecond, rfl, rfl, isEmail⟩
    next =>
      split
      next => exact fun account created isOk => by cases isOk
      next allowed =>
        intro third input goesLast _
        have grows := (goes.1.grows.trans goesOn.1.grows).trans
          (read.1.grows.trans goesLast.1.grows)
        have enabledThird := (enabled (by simpa using allowed)).later grows
        have vouchedThird := vouchedSecond.later goesLast.1.grows
        have creates : ∀ account, account.email = email →
            Creates platform env third.history party account :=
          fun account isEmail => ⟨⟨identity, vouchedThird, isEmail⟩, enabledThird⟩
        have created := goesLast.2.create newId creates input
        refine ⟨created, ?_⟩
        dsimp only [DoorDb.serve] at created ⊢
        split
        next accounts account isCreated =>
          rw [isCreated] at created
          obtain ⟨_, isRow, isEmail, standing⟩ := persists_createAccount isCreated
          have vouchedLast := vouchedThird.later created.1.grows
          refine leading_linkAccount ⟨vouchedLast, standing, .inr ?_, ?_⟩ isEmail
            ⟨account, isRow, rfl, rfl⟩
          · exact List.mem_append_right _ (List.mem_singleton_self _)
          · exact ⟨party, identity, vouchedLast, rfl, rfl, isEmail⟩
        next => exact fun account created isOk => by cases isOk

-----------------------------------------------------------------------------------------
-- The doors
-----------------------------------------------------------------------------------------

/-- A session starts for the account that is admitted. -/
theorem keeping_signIn {identity : VerifiedIdentity} {unavailable path : String}
    {moment : DoorMoment} {allowCreate : Bool}
    (vouched : Vouched platform env db.history party identity)
    (enabled : allowCreate = true → Enabled platform db.history party)
    : Keeping platform env party
        (signIn platform env identity unavailable path moment allowCreate) db := by
  refine Dialogue.Leads.andThen (leading_upsert vouched enabled) fun state result admits => ?_
  split
  next => trivial
  next => trivial
  next => trivial
  next account created =>
    intro middle input goes _
    obtain ⟨admitted, present⟩ := admits account created rfl
    refine ⟨goes.2.start (admitted.later goes.1.grows) (present.later goes.1.persists) rfl input, ?_⟩
    dsimp only [DoorDb.serve]
    split
    next => trivial
    next => trivial

/-- A provider that is offered under a name has this name. -/
theorem name_of_offered {env : SsoEnv} {name : String} {provider : SsoProvider}
    (isOffered : offered? env name = some provider)
    : provider.name = name := by
  have found := (Option.filter_eq_some_iff.mp isOffered).1
  simpa using List.find?_some found

theorem keeping_beginSso {name : String} {redirectTo : Option String} {moment : DoorMoment}
    (isRequest : party.request = .beginSso name redirectTo moment) (db : DoorDb)
    : Keeping platform env party (beginSso platform env name redirectTo moment) db := by
  unfold beginSso
  split
  next => trivial
  next offered isOffered =>
    split
    next => trivial
    next answer verifier _ =>
      intro middle input goes _
      refine ⟨goes.2.issueState ⟨name, offered, redirectTo, moment, isRequest, isOffered, rfl, rfl,
        rfl⟩ input, ?_⟩
      dsimp only [DoorDb.serve, Dialogue.andThen]
      split
      next => split <;> trivial
      next => split <;> trivial

theorem keeping_finishSso {name : String} {code state : Option String} {moment : DoorMoment}
    (isRequest : party.request = .finishSso name code state moment) (db : DoorDb)
    : Keeping platform env party (finishSso platform env name code state moment) db := by
  unfold finishSso
  split
  next => trivial
  next offered isOffered =>
    split
    next code state isCode isState =>
      intro first input goes _
      obtain ⟨used, isUsed⟩ := goes.2.useState party state moment.now input
      refine ⟨used, ?_⟩
      generalize first.serve party (.consumeOAuthState state moment.now) input = answered
        at used isUsed ⊢
      obtain ⟨second, row⟩ := answered
      dsimp only [Dialogue.andThen] at used isUsed ⊢
      split
      next => trivial
      next row isRow =>
        obtain ⟨rfl, isProvider⟩ := Option.filter_eq_some_iff.mp isRow
        obtain ⟨rfl, happened⟩ := isUsed row rfl
        obtain ⟨rfl, _⟩ := Option.filter_eq_some_iff.mp isCode
        obtain ⟨rfl, _⟩ := Option.filter_eq_some_iff.mp isState
        have cameBack : CameBack second.history party offered code row moment := by
          rw [← name_of_offered isOffered] at isRequest
          exact ⟨isRequest, of_decide_eq_true isProvider, happened⟩
        refine Dialogue.Leads.andThen (leading_exchangeCode cameBack) fun third exchanged vouches => ?_
        split
        next => trivial
        next => trivial
        next identity =>
          intro last input goes _
          have read := goes.2.read party
            (rfl : DoorCall.reads (.getSetting "signups_enabled") = true) input
          refine ⟨read, keeping_signIn ?_ fun isOn => ⟨_, ?_, isOn⟩⟩
          · exact (vouches identity rfl).later (goes.1.grows.trans read.1.grows)
          · exact List.mem_append_right _ (List.mem_singleton_self _)
    next => trivial

/-- The mail goes out for a row that was written. -/
theorem keeping_sendMagicLink {body : Option Json} {moment : DoorMoment}
    (isRequest : party.request = .emailStart body moment) {answer : DoorAnswer} (db : DoorDb)
    : Keeping platform env party
        (do
          let _ : Unit ← sendMagicLink platform env (requestedEmail platform body) moment
          return answer)
        db := by
  intro first input goes _
  have proper : Proper platform env first.history
      (.linkIssued party (linkRow platform (requestedEmail platform body) moment)) :=
    ⟨body, moment, isRequest, rfl⟩
  obtain ⟨issued, isIssued⟩ := goes.2.issueLink proper input
  refine ⟨issued, ?_⟩
  generalize first.serve party
    (.createLoginToken (linkRow platform (requestedEmail platform body) moment)) input = answered
    at issued isIssued ⊢
  obtain ⟨second, written⟩ := answered
  dsimp only [Dialogue.andThen] at issued isIssued ⊢
  split
  next isWritten =>
    intro last input goesOn _
    have happened := goesOn.1.grows.subset (isIssued isWritten)
    exact ⟨goesOn.2.log rfl ⟨_, happened, rfl⟩, trivial⟩
  next => trivial

theorem keeping_offerLink {body : Option Json} {moment : DoorMoment}
    (isRequest : party.request = .emailStart body moment) {answer : DoorAnswer} (db : DoorDb)
    : Keeping platform env party
        (do
          let _ : Unit ← offerLink platform env (requestedEmail platform body) moment
          return answer)
        db := by
  intro first input goes _
  refine ⟨goes.2.read party rfl input, ?_⟩
  intro second input goesOn _
  refine ⟨goesOn.2.read party rfl input, ?_⟩
  dsimp only [DoorDb.serve, Dialogue.andThen]
  split
  next =>
    split
    next => exact keeping_sendMagicLink isRequest _
    next => trivial
  next =>
    split
    next => exact keeping_sendMagicLink isRequest _
    next => trivial

theorem keeping_emailStart {body : Option Json} {moment : DoorMoment}
    (isRequest : party.request = .emailStart body moment) (db : DoorDb)
    : Keeping platform env party (emailStart platform env body moment) db := by
  unfold emailStart
  dsimp only
  split
  next => trivial
  next =>
    split
    next =>
      intro first input goes _
      refine ⟨goes.2.read party rfl input, ?_⟩
      dsimp only [DoorDb.serve, Dialogue.andThen]
      split
      next => exact keeping_offerLink isRequest _
      next => trivial
    next =>
      split
      next => trivial
      next => exact keeping_offerLink isRequest _

theorem keeping_emailCallback (origin token : Option String) (moment : DoorMoment) (db : DoorDb)
    : Keeping platform env party (emailCallback platform env origin token moment) db := by
  unfold emailCallback
  split
  next => trivial
  next =>
    split
    next => trivial
    next token _ =>
      intro first input goes _
      have read := goes.2.read party
        (rfl : DoorCall.reads (.getSetting "signups_enabled") = true) input
      refine ⟨read, ?_⟩
      intro second input goesOn _
      obtain ⟨used, isUsed⟩ :=
        goesOn.2.useLink party (sha256Hex platform.sha256 token) moment.now input
      refine ⟨used, ?_⟩
      generalize second.serve party
        (.consumeLoginToken (sha256Hex platform.sha256 token) moment.now) input = answered
        at used isUsed ⊢
      obtain ⟨third, row⟩ := answered
      dsimp only [DoorDb.serve, Dialogue.andThen] at used isUsed ⊢
      split
      next => trivial
      next row =>
        refine keeping_signIn (.link (isUsed row rfl)) fun isOn => ⟨_, ?_, isOn⟩
        have isRead := List.mem_append_right first.history (List.mem_singleton_self
          (DoorEvent.settingRead party "signups_enabled" (first.settings "signups_enabled")))
        exact (goesOn.1.grows.trans used.1.grows).subset isRead

-----------------------------------------------------------------------------------------
-- Every run
-----------------------------------------------------------------------------------------

theorem keeping_program (party : Party DoorRequest) (db : DoorDb)
    : Keeping platform env party (program platform env party.request) db := by
  obtain ⟨place, request⟩ := party
  cases request with
  | beginSso name redirectTo moment => exact keeping_beginSso rfl db
  | finishSso name code state moment => exact keeping_finishSso rfl db
  | emailStart body moment => exact keeping_emailStart rfl db
  | emailCallback origin token moment => exact keeping_emailCallback origin token moment db

/-- Operators bar accounts and end sessions, and take no account away. -/
theorem goes_of_change (kept : db.Kept platform env) (changed : DoorChange)
    : Goes platform env db (db.change changed) := by
  have linked : ∀ accounts, Persists db.accounts accounts →
      ∀ row ∈ db.identities.rows, Linked platform env db.history accounts row :=
    fun accounts persists row isRow => (kept.identities row isRow).later List.prefix_rfl persists
  have started : ∀ accounts, Persists db.accounts accounts →
      ∀ session ∈ db.sessions.rows, Started platform env db.history accounts session :=
    fun accounts persists session isSession =>
      (kept.sessions session isSession).later List.prefix_rfl persists
  cases changed with
  | suspend now accountId =>
      have persists := persists_update db.accounts (suspendAccount now accountId) fun _ => rfl
      exact kept.silently rfl rfl rfl persists (linked _ persists) (started _ persists)
  | delete now accountId =>
      have persists := persists_update db.accounts (deleteAccount now accountId) fun _ => rfl
      exact kept.silently rfl rfl rfl persists (linked _ persists) (started _ persists)
  | setSetting key value =>
      exact kept.silently rfl rfl rfl (.refl _) (linked _ (.refl _)) kept.sessions
  | revokeSession tokenHash now =>
      refine kept.silently rfl rfl rfl (.refl _) (linked _ (.refl _)) fun session isSession => ?_
      rcases Update.mem_apply_cases isSession with ⟨old, isOld, _, _, rfl⟩ | isOld
      · exact ⟨(kept.sessions old isOld).start, (kept.sessions old isOld).account⟩
      · exact kept.sessions session isOld

/-- What the requests at the doors keep to, side by side. -/
def doorDiscipline (platform : DoorPlatform) (env : DoorEnv)
    : Discipline (doorRules platform env) where
  Kept := DoorDb.Kept platform env
  Moves := Moves
  refl := .refl
  trans := .trans
  keeps := keeping_program
  other kept changed := by
    cases changed
    exact goes_of_change kept _

theorem DoorDb.kept_empty : DoorDb.empty.Kept platform env := by
  refine ⟨inOrder_nil, ⟨?_, ?_⟩, ⟨?_, ?_⟩, ?_, ?_⟩ <;> simp [DoorDb.empty, Keyed.empty]

/-- In every run: a session starts only for an account in order, under an identity that its party is
vouched for, and that was vouched for with the email of this account. A state or a link serves one
sign-in, in time; mail goes to the address that its link is for; and accounts are created while
signups are on. No table holds a session of an account whose email nobody was vouched for.
-/
theorem sessions_are_vouched_for (platform : DoorPlatform) (env : DoorEnv)
    {actions : List (PoolAction DoorRequest DoorInput DoorChange)}
    {pool : Pool DoorCall DoorCall.Answer DoorAnswer DoorRequest DoorDb}
    (reached : exec (Pool.step (doorRules platform env)) (.begin .empty) actions = some pool)
    : InOrder (Proper platform env) pool.state.history
      ∧ ∀ session ∈ pool.state.sessions.rows,
          Started platform env pool.state.history pool.state.accounts session := by
  have kept : (doorDiscipline platform env).Kept pool.state :=
    Discipline.kept_of_run DoorDb.kept_empty reached
  exact ⟨kept.proper, kept.sessions⟩

-----------------------------------------------------------------------------------------
-- A first sign-in
-----------------------------------------------------------------------------------------

/-- A platform whose digest of a text is the sum of its characters. -/
def plainDoors : DoorPlatform where
  sha256 text := Vector.replicate 32 (UInt8.ofNat (text.toList.foldl (fun sum c => sum + c.toNat) 0))
  asText
    | .num spelled => spelled
    | _ => ""
  isZero spelled := spelled = "0"
  isPast _ _ := false
  toLowerCase := id
  parseUrl _ _ := none
  pkceChallenge := id

def githubOnly : DoorEnv where
  controlPlaneHost := "vivijure.test"
  googleOauthClientId := none
  googleOauthClientSecret := none
  githubOauthClientId := some "us"
  githubOauthClientSecret := some "secret"
  appleTeamId := none
  appleServicesId := none
  applePrivateKey := none
  hasRateLimit := true
  hasMailer := true

def firstMoment : DoorMoment where
  now := 0
  claimsRead := 0
  started := 0
  state := "state"
  verifier := "verifier"
  token := "token"
  newId := "acct_1"

/-- An input with what a provider answers. -/
def answering (body : Json) : DoorInput where
  dbNow := 0
  response := { ok := true, body := some body }
  allowed := true

/-- Joan signs in over GitHub, while signups are on. -/
def joansFirst : List (PoolAction DoorRequest DoorInput DoorChange) :=
  let nothing := answering .null
  let address : Json :=
    .object
      [("email", .str "joan@vivijure.test"), ("primary", .bool true), ("verified", .bool true)]
  [.other (.setSetting "signups_enabled" "true"), .start (.beginSso "github" none firstMoment),
    .ask 0 nothing, .start (.finishSso "github" (some "code") (some "state") firstMoment),
    .ask 1 nothing, .ask 1 (answering (.object [("access_token", .str "theirs")])),
    .ask 1 (answering (.object [("id", .num "7")])), .ask 1 (answering (.array [address]))]
  ++ List.replicate 7 (.ask 1 nothing)

theorem joan_is_let_in
    : ∃ pool, exec (Pool.step (doorRules plainDoors githubOnly)) (.begin .empty) joansFirst
          = some pool
        ∧ pool.state.sessions.rows.map Session.accountId = ["acct_1"]
        ∧ InOrder (Proper plainDoors githubOnly) pool.state.history := by
  have happens
      : (exec (Pool.step (doorRules plainDoors githubOnly)) (.begin .empty) joansFirst).map
          (fun pool => pool.state.sessions.rows.map Session.accountId) = some ["acct_1"] := by
    decide +kernel
  obtain ⟨pool, reached, isSession⟩ := Option.map_eq_some_iff.mp happens
  exact ⟨pool, reached, isSession, (sessions_are_vouched_for plainDoors githubOnly reached).1⟩

end ControlPlane.Doors
