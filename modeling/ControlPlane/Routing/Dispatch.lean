import ControlPlane.Routing.Cookies
import ControlPlane.Store.Accounts
import ControlPlane.Store.Ownership
import Mathlib.Algebra.GroupWithZero.Nat
import Mathlib.Data.List.Infix

/-! Routing by hostname: which requests reach a tenant's worker, and what they carry there. The
platform's lower case, its hash and its dispatch namespace are parameters.
-/

namespace ControlPlane.Routing

open ControlPlane.Kek
open ControlPlane.Library
open ControlPlane.Store

--------------------------------------------------------------------------------
-- Hosts and slugs
--------------------------------------------------------------------------------

inductive HostRoute
  | frontDoor
  | tenant (slug : String)
  | invalidTenant (reason : String)
  deriving DecidableEq, Repr

inductive SlugRejection
  | tooShort
  | tooLong
  | badShape
  | reserved
  | punycode
  deriving DecidableEq, Repr

/-- The length of a text in UTF-16 units. -/
def utf16Length (text : String) : Nat :=
  (text.toList.map fun c => if c.toNat < 0x10000 then 1 else 2).sum

def isSlugEnd (c : Char) : Bool :=
  ('a' ≤ c && c ≤ 'z') || ('0' ≤ c && c ≤ '9')

/-- SLUG_RE: 3 to 32 lower-case letters, digits and hyphens, with no hyphen at an end. -/
def matchesSlug (slug : String) : Bool :=
  let chars := slug.toList
  decide (3 ≤ chars.length ∧ chars.length ≤ 32)
  && chars.all (fun c => isSlugEnd c || c = '-')
  && chars.head?.any isSlugEnd && chars.getLast?.any isSlugEnd

/-- RESERVED: the labels no tenant may have. -/
def reservedSlugs : List String :=
  ["www", "api", "admin", "administrator", "root", "demo", "studio", "mcp", "studio-mcp",
    "app", "status", "mail", "smtp", "imap", "ns", "ns1", "ns2", "dns", "cdn", "static",
    "assets", "support", "help", "docs", "blog", "billing", "account", "accounts", "auth",
    "login", "signup", "security", "abuse", "postmaster", "webmaster", "test", "staging",
    "dev", "internal", "vivijure"]

def validateSlug (slug : String) : Except SlugRejection Unit :=
  if utf16Length slug < 3 then .error .tooShort
  else if utf16Length slug > 32 then .error .tooLong
  else if matchesSlug slug = false then .error .badShape
  else if "xn--".toList.isPrefixOf slug.toList then .error .punycode
  else if slug ∈ reservedSlugs then .error .reserved
  else .ok ()

/-- A text without the dot at its end. -/
def withoutTrailingDot (text : String) : String :=
  if text.toList.getLast? = some '.' then String.ofList text.toList.dropLast else text

section Hosts

variable (toLowerCase : String → String)

/-- A host without its port, in lower case, and without the dot of the root zone. -/
def normalizeHost (raw : String) : String :=
  withoutTrailingDot ((split ':' (toLowerCase (trim raw))).headD "")

/-- What a host is, against the suffix of the tenant domain. -/
def classifyHost (hostHeader : Option String) (tenantSuffix : String) : HostRoute :=
  match hostHeader.filter (· ≠ "") with
  | none => .frontDoor
  | some raw =>
      let host := (normalizeHost toLowerCase raw).toList
      let suffix := (withoutTrailingDot (toLowerCase (trim tenantSuffix))).toList
      if ['.'].isPrefixOf suffix = false ∨ suffix.length < 2 then .frontDoor
      else if suffix.isSuffixOf host = false then .frontDoor
      else
        let label := String.ofList (host.take (host.length - suffix.length))
        if label = "" then .invalidTenant "empty tenant label"
        else if '.' ∈ label.toList then
          .invalidTenant "multi-label host is not certificate-covered"
        else
          match validateSlug label with
          | .error _ => .invalidTenant "invalid tenant slug"
          | .ok () => .tenant label

end Hosts

--------------------------------------------------------------------------------
-- Requests and rows
--------------------------------------------------------------------------------

structure Request where
  method : String
  url : String
  headers : Headers
  body : Option String := none
  deriving DecidableEq, Repr

/-- What routing reads of a tenant row. The status is the column's text, which no CHECK bounds. -/
structure RoutedTenant where
  id : String
  slug : String
  accountId : String
  status : String
  scriptName : Option String
  studioTokenEnc : Option String
  suspendedAt : Option Nat
  deletedAt : Option Nat
  deriving DecidableEq, Repr

/-- A row of the tenants table, with its suspension, as routing reads it. -/
def routedTenant (tenant : Tenant) (suspendedAt : Option Nat) : RoutedTenant where
  id := tenant.id
  slug := tenant.slug
  accountId := tenant.accountId
  status := tenant.status.text
  scriptName := tenant.scriptName
  studioTokenEnc := tenant.studioTokenEnc
  suspendedAt := suspendedAt
  deletedAt := tenant.deletedAt

/-- The tables routing reads. No two tenants share a slug. -/
structure RoutingStore where
  tenants : Keyed RoutedTenant.slug
  sessions : Sessions
  accounts : Accounts

/-- The reads of one request, in their order. -/
inductive StoreRead
  | tenant
  | session
  | account
  deriving DecidableEq, Repr

structure RoutingEnv where
  controlPlaneHost : String
  tenantDispatch : Bool
  studioTokenKek : Option String := none
  studioTokenKekNext : Option String := none
  studioTokenKekEncryptSlot : Option String := none
  deriving DecidableEq, Repr

/-- The front door's origin. -/
def publicOrigin (env : RoutingEnv) : String := "https://" ++ env.controlPlaneHost

/-- What a tenant host ends in. -/
def tenantDomainSuffix (env : RoutingEnv) : String := "." ++ env.controlPlaneHost

def studioKekRing (env : RoutingEnv) : KekRing :=
  kekRing (env.studioTokenKek.getD "") env.studioTokenKekNext env.studioTokenKekEncryptSlot

/-- What the runtime does: the lower case of a text, the hash of a token, which texts are header
values, AES-GCM, and which scripts the dispatch namespace has.
-/
structure Runtime where
  toLowerCase : String → String
  sha256Hex : String → String
  isHeaderValue : String → Bool
  aes : AesGcm
  hasScript : String → Bool

/-- A refusal: its status, its message and its retry-after header. -/
structure Refusal where
  status : Nat
  message : String
  retryAfter : Option String := none
  deriving DecidableEq, Repr

/-- What routing answers. A request that is not a tenant's is left to the front door. -/
inductive Routed
  | frontDoor
  | refused (refusal : Refusal)
  | redirected (location : String)
  | dispatched (script : String) (sent : Request)
  | threw
  deriving DecidableEq, Repr

/-- The refusal of a row, or none when it is to be dispatched. -/
def tenantRefusal (tenant : RoutedTenant) : Option Refusal :=
  if tenant.deletedAt ≠ none then some { status := 404, message := "No studio at this address." }
  else if tenant.suspendedAt ≠ none then
    some { status := 403, message := "This studio is suspended. Contact support." }
  else if tenant.status = "live" then none
  else if tenant.status ∈
      ["pending", "provisioning", "awaiting_go_live", "awaiting_invoke_key"] then
    some
      { status := 503
        message := "This studio is still being set up."
        retryAfter := some "30" }
  else if tenant.status = "failed" then
    some { status := 503, message := "This studio failed to finish provisioning." }
  else
    -- deleting, deleted, and every status the lifecycle does not know
    some { status := 404, message := "No studio at this address." }

def hasBody (request : Request) : Bool :=
  request.method ≠ "GET" && request.method ≠ "HEAD"

/-- The request for a tenant's worker: no session cookie, and the studio token for the owner. -/
def dispatchRequest (isHeaderValue : String → Bool) (request : Request)
    (injectedToken : Option String)
    : Option Request :=
  (stripSessionCookie isHeaderValue request.headers).bind fun stripped =>
    let headers :=
      match injectedToken.filter (· ≠ "") with
      | some token => stripped.set isHeaderValue "authorization" ("Bearer " ++ token)
      | none => some stripped
    headers.map fun headers =>
      { method := request.method
        url := request.url
        headers := headers
        body := if hasBody request then request.body else none }

def wantsHtml (request : Request) : Bool :=
  request.method = "GET"
  && decide ("text/html".toList <:+: ((request.headers.get "accept").getD "").toList)

section Routing

variable (runtime : Runtime) (env : RoutingEnv)
  -- The store as each read finds it, or nothing where the read fails.
  (store : StoreRead → Option RoutingStore) (now : Nat) (request : Request)

/-- The account of the session cookie. A suspended or deleted account is none. Nothing is
answered where a read fails.
-/
def resolveSession : Option (Option Account) :=
  match readSessionCookie request.headers with
  | none => some none
  | some token => do
      let atSession ← store .session
      match getSession atSession.sessions (runtime.sha256Hex token) now with
      | none => some none
      | some session =>
          let atAccount ← store .account
          some ((getAccountById atAccount.accounts session.accountId).filter fun account =>
            account.suspendedAt = none ∧ account.deletedAt = none)

/-- The studio token of a row, for its owner. One that cannot be decrypted is none. -/
def injectedToken (tenant : RoutedTenant) (isOwner : Bool) : Option String :=
  match env.studioTokenKek.filter (· ≠ ""), tenant.studioTokenEnc.filter (· ≠ "") with
  | some _, some enc =>
      if isOwner then (decryptStudioToken runtime.aes (studioKekRing env) enc).toOption else none
  | _, _ => none

/-- Route a request for a row that is to be dispatched. -/
def dispatchTenant (tenant : RoutedTenant) : Routed :=
  match tenant.scriptName.filter (· ≠ "") with
  | none => .refused { status := 503, message := "This studio is not available yet." }
  | some script =>
      if env.tenantDispatch = false then
        .refused { status := 503, message := "This studio is not available." }
      else
        match resolveSession runtime store now request with
        | none => .threw
        | some account =>
            let isOwner := account.any fun account => account.id = tenant.accountId
            let token := injectedToken runtime env tenant isOwner
            if isOwner = false ∧ wantsHtml request then .redirected (publicOrigin env ++ "/")
            else if runtime.hasScript script = false then
              .refused { status := 503, message := "This studio is not available." }
            else
              match dispatchRequest runtime.isHeaderValue request token with
              | none => .threw
              | some sent => .dispatched script sent

/-- Route one request by its hostname. A lookup that fails is a refusal. -/
def routeTenantRequest : Routed :=
  match classifyHost runtime.toLowerCase (request.headers.get "host") (tenantDomainSuffix env) with
  | .frontDoor => .frontDoor
  | .invalidTenant _ => .refused { status := 404, message := "No studio at this address." }
  | .tenant slug =>
      match store .tenant with
      | none =>
          .refused
            { status := 503
              message := "This studio is temporarily unavailable."
              retryAfter := some "5" }
      | some atTenant =>
          match atTenant.tenants.get? slug with
          | none => .refused { status := 404, message := "No studio at this address." }
          | some tenant =>
              match tenantRefusal tenant with
              | some refusal => .refused refusal
              | none => dispatchTenant runtime env store now request tenant

end Routing

end ControlPlane.Routing
