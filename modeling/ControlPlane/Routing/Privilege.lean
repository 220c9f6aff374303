import ControlPlane.Routing.Dispatch

/-! A tenant's worker sees its owner's privilege and nobody else's: what is true of every request
that routing dispatches.
-/

namespace ControlPlane.Routing

open ControlPlane.Kek
open ControlPlane.Library
open ControlPlane.Store

/-- A row that may be dispatched to: live, neither suspended nor deleted, with a script. -/
structure RoutedTenant.Serving (tenant : RoutedTenant) (script : String) : Prop where
  live : tenant.status = "live"
  unsuspended : tenant.suspendedAt = none
  undeleted : tenant.deletedAt = none
  script : tenant.scriptName = some script

section Reading

variable (runtime : Runtime) (env : RoutingEnv) (store : StoreRead → Option RoutingStore)
  (now : Nat) (request : Request)

/-- The request carries a session token that resolves to an account in good standing. -/
structure SignedIn (account : Account) : Prop where
  session : ∃ token atSession found, readSessionCookie request.headers = some token
    ∧ store .session = some atSession
    ∧ getSession atSession.sessions (runtime.sha256Hex token) now = some found
    ∧ found.accountId = account.id
  found : ∃ atAccount, store .account = some atAccount
    ∧ getAccountById atAccount.accounts account.id = some account
  unsuspended : account.suspendedAt = none
  undeleted : account.deletedAt = none

/-- The owner's request carries the row's own studio token. -/
structure OwnToken (tenant : RoutedTenant) (sent : Request) : Prop where
  owner : ∃ account, SignedIn runtime store now request account ∧ account.id = tenant.accountId
  token : ∃ enc token, tenant.studioTokenEnc = some enc
    ∧ decryptStudioToken runtime.aes (studioKekRing env) enc = .ok token
    ∧ sent.headers.get "authorization" = some ("Bearer " ++ token)

/-- What a dispatch to a script may be. -/
structure RightlyDispatched (script : String) (sent : Request) : Prop where
  row : ∃ slug atTenant tenant,
    classifyHost runtime.toLowerCase (request.headers.get "host") (tenantDomainSuffix env)
      = .tenant slug
    ∧ store .tenant = some atTenant ∧ atTenant.tenants.get? slug = some tenant
    ∧ tenant.Serving script
    ∧ (sent.headers.get "authorization" = request.headers.get "authorization"
      ∨ OwnToken runtime env store now request tenant sent)
  noSession : readSessionCookie sent.headers = none
  otherCookies : otherCookies sent.headers = otherCookies request.headers

end Reading

variable {runtime : Runtime} {env : RoutingEnv} {store : StoreRead → Option RoutingStore}
  {now : Nat} {request : Request}

/-- A row that is not refused is live, and neither suspended nor deleted. -/
theorem tenantRefusal_eq_none {tenant : RoutedTenant} (kept : tenantRefusal tenant = none)
    : tenant.status = "live" ∧ tenant.suspendedAt = none ∧ tenant.deletedAt = none := by
  unfold tenantRefusal at kept
  by_cases undeleted : tenant.deletedAt = none
  · by_cases unsuspended : tenant.suspendedAt = none
    · by_cases live : tenant.status = "live"
      · exact ⟨live, unsuspended, undeleted⟩
      · simp only [undeleted, unsuspended, live, ne_eq, not_true_eq_false, if_false] at kept
        split at kept
        · cases kept
        · split at kept <;> cases kept
    · simp [undeleted, unsuspended] at kept
  · simp [undeleted] at kept

/-- The status texts are told apart, so that a row of the lifecycle is dispatched to just when it
is live.
-/
theorem tenantRefusal_routedTenant (tenant : Tenant) (suspendedAt : Option Nat)
    : tenantRefusal (routedTenant tenant suspendedAt) = none
      ↔ tenant.status = .live ∧ suspendedAt = none ∧ tenant.deletedAt = none := by
  constructor
  · intro kept
    obtain ⟨live, unsuspended, undeleted⟩ := tenantRefusal_eq_none kept
    refine ⟨?_, unsuspended, undeleted⟩
    cases status : tenant.status <;> simp [routedTenant, status, TenantLifecycle.text] at live ⊢
  · intro h
    obtain ⟨live, unsuspended, undeleted⟩ := h
    simp [tenantRefusal, routedTenant, live, unsuspended, undeleted, TenantLifecycle.text]

/-- An account that the session cookie resolves to is signed in. -/
theorem resolveSession_eq_some {account : Account}
    (resolved : resolveSession runtime store now request = some (some account))
    : SignedIn runtime store now request account := by
  unfold resolveSession at resolved
  split at resolved
  next => cases resolved
  next token carried =>
    obtain ⟨atSession, sessionRead, rest⟩ := Option.bind_eq_some_iff.mp resolved
    split at rest
    next => cases rest
    next session found =>
      obtain ⟨atAccount, accountRead, isAccount⟩ := Option.bind_eq_some_iff.mp rest
      obtain ⟨found', standing⟩ := Option.filter_eq_some_iff.mp (Option.some.inj isAccount)
      obtain ⟨unsuspended, undeleted⟩ := of_decide_eq_true standing
      have sameId : session.accountId = account.id := by
        obtain ⟨byKey, _⟩ := Option.filter_eq_some_iff.mp found'
        exact (Keyed.get?_key byKey).symm
      exact
        { session := ⟨token, atSession, session, carried, sessionRead, found, sameId⟩
          found := ⟨atAccount, accountRead, sameId ▸ found'⟩
          unsuspended := unsuspended
          undeleted := undeleted }

/-- A token to inject is the row's own, and the requester its owner. -/
theorem injectedToken_eq_some {tenant : RoutedTenant} {isOwner : Bool} {token : String}
    (injected : injectedToken runtime env tenant isOwner = some token)
    : isOwner ∧ ∃ enc, tenant.studioTokenEnc = some enc
        ∧ decryptStudioToken runtime.aes (studioKekRing env) enc = .ok token := by
  unfold injectedToken at injected
  split at injected
  next enc configured stored =>
    obtain ⟨owner, opened⟩ := Option.ite_none_right_eq_some.mp injected
    refine ⟨owner, enc, (Option.filter_eq_some_iff.mp stored).1, ?_⟩
    cases decrypted : decryptStudioToken runtime.aes (studioKekRing env) enc with
    | ok plaintext =>
        rw [decrypted] at opened
        cases opened
        rfl
    | error refused =>
        rw [decrypted] at opened
        cases opened
  next => cases injected

/-- A dispatched request has lost the session cookie only, and its authorization is its own or
the injected token's.
-/
theorem dispatchRequest_eq_some {isHeaderValue : String → Bool} {injected : Option String}
    {sent : Request} (dispatched : dispatchRequest isHeaderValue request injected = some sent)
    : readSessionCookie sent.headers = none
      ∧ otherCookies sent.headers = otherCookies request.headers
      ∧ (sent.headers.get "authorization" = request.headers.get "authorization"
        ∨ ∃ token, injected = some token
            ∧ sent.headers.get "authorization" = some ("Bearer " ++ token)) := by
  obtain ⟨stripped, isStripped, rest⟩ := Option.bind_eq_some_iff.mp dispatched
  obtain ⟨headers, isHeaders, isSent⟩ := Option.map_eq_some_iff.mp rest
  have sentHeaders : sent.headers = headers := (congrArg Request.headers isSent).symm
  have noSession := readSessionCookie_strip isStripped
  have others := otherCookies_strip isStripped
  have notCookie : "authorization" ≠ "cookie" := by decide
  have authorization := get_strip_of_ne isStripped notCookie
  rw [sentHeaders]
  cases given : injected.filter (· ≠ "") with
  | none =>
      rw [given] at isHeaders
      cases isHeaders
      exact ⟨noSession, others, .inl authorization⟩
  | some token =>
      rw [given] at isHeaders
      have cookie : headers.get "cookie" = stripped.get "cookie" :=
        Headers.get_set_of_ne isHeaders (by decide)
      refine ⟨?_, ?_, .inr ⟨token, (Option.filter_eq_some_iff.mp given).1,
        Headers.get_set isHeaders⟩⟩
      · rw [readSessionCookie, cookie]
        exact noSession
      · rw [otherCookies, cookiePairs, cookie]
        exact others

/-- A dispatch for a row goes to its script, with the token injected for the account that the
session resolves to.
-/
theorem dispatchTenant_dispatched {tenant : RoutedTenant} {script : String} {sent : Request}
    (dispatched : dispatchTenant runtime env store now request tenant = .dispatched script sent)
    : tenant.scriptName = some script
      ∧ ∃ account, resolveSession runtime store now request = some account
          ∧ dispatchRequest runtime.isHeaderValue request
              (injectedToken runtime env tenant
                (account.any fun account => account.id = tenant.accountId)) = some sent := by
  unfold dispatchTenant at dispatched
  split at dispatched
  · cases dispatched
  next named scripted =>
    have isNamed := (Option.filter_eq_some_iff.mp scripted).1
    split at dispatched
    · cases dispatched
    · cases resolved : resolveSession runtime store now request with
      | none =>
          rw [resolved] at dispatched
          cases dispatched
      | some account =>
          simp only [resolved] at dispatched
          split at dispatched
          · cases dispatched
          · split at dispatched
            · cases dispatched
            · split at dispatched
              · cases dispatched
              next sent' isSent =>
                cases dispatched
                exact ⟨isNamed, account, rfl, isSent⟩

/-- A request is dispatched for the row that its host's slug finds, which is not refused. -/
theorem routeTenantRequest_dispatched {script : String} {sent : Request}
    (dispatched : routeTenantRequest runtime env store now request = .dispatched script sent)
    : ∃ slug atTenant tenant,
        classifyHost runtime.toLowerCase (request.headers.get "host") (tenantDomainSuffix env)
          = .tenant slug
        ∧ store .tenant = some atTenant ∧ atTenant.tenants.get? slug = some tenant
        ∧ tenantRefusal tenant = none
        ∧ dispatchTenant runtime env store now request tenant = .dispatched script sent := by
  unfold routeTenantRequest at dispatched
  split at dispatched
  · cases dispatched
  · cases dispatched
  next slug host =>
    split at dispatched
    · cases dispatched
    next atTenant tenantRead =>
      split at dispatched
      · cases dispatched
      next tenant found =>
        split at dispatched
        · cases dispatched
        next notRefused =>
          exact ⟨slug, atTenant, tenant, host, tenantRead, found, notRefused, dispatched⟩

/-- Every dispatch is to a serving row's script, without the session cookie, and with the row's
own token at most for its owner.
-/
theorem routeTenantRequest_rightly {runtime : Runtime} {env : RoutingEnv}
    {store : StoreRead → Option RoutingStore} {now : Nat} {request : Request} {script : String}
    {sent : Request}
    (dispatched : routeTenantRequest runtime env store now request = .dispatched script sent)
    : RightlyDispatched runtime env store now request script sent := by
  obtain ⟨slug, atTenant, tenant, host, tenantRead, found, notRefused, forRow⟩ :=
    routeTenantRequest_dispatched dispatched
  obtain ⟨live, unsuspended, undeleted⟩ := tenantRefusal_eq_none notRefused
  obtain ⟨scripted, account, resolved, isSent⟩ := dispatchTenant_dispatched forRow
  obtain ⟨noSession, others, authorization⟩ := dispatchRequest_eq_some isSent
  refine ⟨⟨slug, atTenant, tenant, host, tenantRead, found,
    ⟨live, unsuspended, undeleted, scripted⟩, ?_⟩, noSession, others⟩
  rcases authorization with own | ⟨token, injected, isBearer⟩
  · exact .inl own
  · obtain ⟨isOwner, enc, stored, opened⟩ := injectedToken_eq_some injected
    cases account with
    | none => cases isOwner
    | some account =>
        have same : account.id = tenant.accountId := of_decide_eq_true isOwner
        exact .inr
          { owner := ⟨account, resolveSession_eq_some resolved, same⟩
            token := ⟨enc, token, stored, opened, isBearer⟩ }

--------------------------------------------------------------------------------
-- The owner's own request
--------------------------------------------------------------------------------

/-- A runtime whose hash is the text itself. -/
def plainRuntime : Runtime where
  toLowerCase := id
  sha256Hex := id
  isHeaderValue _ := true
  aes := labelled
  hasScript _ := true

def studioEnv : RoutingEnv where
  controlPlaneHost := "studio.example"
  tenantDispatch := true
  studioTokenKek := some "AAAAAAAAAAAAAAAAAAAAAAAAAAAAAAAAAAAAAAAAAAA="

/-- A live tenant whose owner is signed in. -/
def heroStore : RoutingStore where
  tenants := Keyed.singleton
    { id := "ten_1"
      slug := "hero"
      accountId := "acct_1"
      status := "live"
      scriptName := some "tenant-hero-studio"
      studioTokenEnc := some (labelled.encrypt zeroKey zeroIv "token")
      suspendedAt := none
      deletedAt := none }
  sessions := Keyed.singleton { tokenHash := "session", accountId := "acct_1", expiresAt := 9 }
  accounts :=
    { table := Keyed.singleton { id := "acct_1", email := "a@example.com" }
      emails := List.nodup_singleton _ }

def ownerRequest : Request where
  method := "GET"
  url := "https://hero.studio.example/"
  headers :=
    ⟨[("host", "hero.studio.example:443"),
      ("cookie", "a=1; __Secure-vp_session=session;b=2")]⟩

/-- The owner's request reaches the studio with its token, and keeps the other cookies. -/
theorem ownerRequest_rightly
    : ∃ script sent,
        otherCookies sent.headers = ["a=1", "b=2"]
        ∧ sent.headers.get "authorization" = some "Bearer token"
        ∧ RightlyDispatched plainRuntime studioEnv (fun _ => some heroStore) 0 ownerRequest
            script sent := by
  have routed : routeTenantRequest plainRuntime studioEnv (fun _ => some heroStore) 0 ownerRequest
      = .dispatched "tenant-hero-studio"
          { ownerRequest with
            headers :=
              ⟨[("host", "hero.studio.example:443"), ("cookie", "a=1; b=2"),
                ("authorization", "Bearer token")]⟩ } := by
    decide +kernel
  exact ⟨_, _, by decide, by decide, routeTenantRequest_rightly routed⟩

end ControlPlane.Routing
