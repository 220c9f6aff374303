import ControlPlane.Crypto.Digests
import ControlPlane.Kek.TokenCrypto
import ControlPlane.Library.Dialogues
import ControlPlane.Library.JsonText
import ControlPlane.Routing.Cookies
import ControlPlane.Store.Identities
import ControlPlane.StudioBindings.Variables

/-! The providers of a sign-in. A code is exchanged for an identity, and only for one whose email the
provider says it has verified.
-/

namespace ControlPlane.Doors

open ControlPlane.Crypto
open ControlPlane.Kek (Bytes atob byteChar)
open ControlPlane.Library
open ControlPlane.Routing (split)
open ControlPlane.Store
open ControlPlane.StudioBindings (truthy)

-----------------------------------------------------------------------------------------
-- Configuration
-----------------------------------------------------------------------------------------

inductive SsoProvider
  | google
  | github
  | apple
  deriving DecidableEq, Repr

namespace SsoProvider

def name : SsoProvider → String
  | .google => "google"
  | .github => "github"
  | .apple => "apple"

/-- isSsoProvider -/
def ofName? (text : String) : Option SsoProvider :=
  [.google, .github, .apple].find? fun provider => provider.name = text

end SsoProvider

structure SsoEnv where
  controlPlaneHost : String
  googleOauthClientId : Option String
  googleOauthClientSecret : Option String
  githubOauthClientId : Option String
  githubOauthClientSecret : Option String
  appleTeamId : Option String
  appleServicesId : Option String
  applePrivateKey : Option String
  deriving DecidableEq, Repr

/-- How the platform digests a text, writes a value that is no text, and reads the number of a
spelling: that it is zero, and that it is a second up to now.
-/
structure SsoPlatform where
  sha256 : Sha256
  asText : Json → String
  isZero : String → Bool
  isPast : String → Nat → Bool

namespace SsoEnv

variable (env : SsoEnv)

def publicOrigin : String :=
  "https://" ++ env.controlPlaneHost

/-- A provider is offered only if all that it takes is there. -/
def configuredProviders : List SsoProvider :=
  let has := fun (value : Option String) => (truthy value).isSome
  (if has env.googleOauthClientId && has env.googleOauthClientSecret then [.google] else [])
  ++ (if has env.githubOauthClientId && has env.githubOauthClientSecret then [.github] else [])
  ++ if has env.appleTeamId && has env.appleServicesId && has env.applePrivateKey then [.apple]
    else []

def redirectUri (provider : SsoProvider) : String :=
  env.publicOrigin ++ "/auth/" ++ provider.name ++ "/callback"

end SsoEnv

/-- The provider of a path, if it is one and is offered. -/
def offered? (env : SsoEnv) (provider : String) : Option SsoProvider :=
  (SsoProvider.ofName? provider).filter env.configuredProviders.contains

-----------------------------------------------------------------------------------------
-- What a provider is asked
-----------------------------------------------------------------------------------------

structure ProviderRequest where
  method : String
  address : String
  headers : List (String × String)
  form : List (String × String)
  deriving DecidableEq, Repr

/-- A body that is no JSON is none. -/
structure ProviderResponse where
  ok : Bool
  body : Option Json

/-- A provider's stable subject, and an email that it has verified. -/
structure VerifiedIdentity where
  provider : AuthProvider
  subject : String
  email : String
  deriving DecidableEq, Repr

/-- What becomes of a code. It throws where a provider answers with values of other types. -/
inductive Exchanged
  | threw
  | refused
  | verified (identity : VerifiedIdentity)
  deriving DecidableEq, Repr

abbrev Exchange : Type → Type := Dialogue ProviderRequest fun _ => ProviderResponse

def fetch (request : ProviderRequest) : Exchange ProviderResponse :=
  .ask request

section

variable (platform : SsoPlatform) (env : SsoEnv)

def googleTokenRequest (code : String) (verifier : Option String) : ProviderRequest where
  method := "POST"
  address := "https://oauth2.googleapis.com/token"
  headers := [("content-type", "application/x-www-form-urlencoded")]
  form :=
    [("code", code), ("client_id", env.googleOauthClientId.getD ""),
      ("client_secret", env.googleOauthClientSecret.getD ""),
      ("redirect_uri", env.redirectUri .google), ("grant_type", "authorization_code")]
    ++ (truthy verifier).toList.map fun secret => ("code_verifier", secret)

def githubTokenRequest (code : String) : ProviderRequest where
  method := "POST"
  address := "https://github.com/login/oauth/access_token"
  headers :=
    [("content-type", "application/x-www-form-urlencoded"), ("accept", "application/json")]
  form :=
    [("code", code), ("client_id", env.githubOauthClientId.getD ""),
      ("client_secret", env.githubOauthClientSecret.getD ""),
      ("redirect_uri", env.redirectUri .github)]

def githubRead (address token : String) : ProviderRequest where
  method := "GET"
  address := address
  headers :=
    [("authorization", "Bearer " ++ token), ("accept", "application/vnd.github+json"),
      ("user-agent", "vivijure-control-plane")]
  form := []

def githubUserRequest : String → ProviderRequest :=
  githubRead "https://api.github.com/user"

def githubEmailsRequest : String → ProviderRequest :=
  githubRead "https://api.github.com/user/emails"

-----------------------------------------------------------------------------------------
-- Google
-----------------------------------------------------------------------------------------

/-- A value that counts as true. -/
def isTruthy : Json → Bool
  | .null => false
  | .bool value => value
  | .num spelled => !platform.isZero spelled
  | .str value => value ≠ ""
  | .array _ | .object _ => true

/-- A field that counts as true. -/
def truthyField (key : String) (value : Json) : Option Json :=
  (value.field? key).filter (isTruthy platform)

def isComposite : Json → Bool
  | .array _ | .object _ => true
  | _ => false

/-- The claims of a token, which is not checked for its signature: it comes straight from the provider. -/
def decodeJwtPayload (jwt : String) : Option Json :=
  match split '.' jwt with
  | [_, payload, _] =>
      let pad := payload.toList.map fun c => if c = '-' then '+' else if c = '_' then '/' else c
      let filled := pad ++ List.replicate ((4 - pad.length % 4) % 4) '='
      ((atob (String.ofList filled)).bind fun bytes =>
        Json.parse (String.ofList (bytes.map byteChar))).filter isComposite
  | _ => none

/-- The text of a claim, and nothing if it is none. -/
def claim (key : String) (claims : Json) : String :=
  ((claims.field? key).bind Json.text?).getD ""

/-- claims.aud === env.GOOGLE_OAUTH_CLIENT_ID -/
def isAudience (claims : Json) : Bool :=
  match claims.field? "aud", env.googleOauthClientId with
  | some (.str audience), some clientId => audience = clientId
  | none, none => true
  | _, _ => false

def isCurrent (now : Nat) (claims : Json) : Bool :=
  match claims.field? "exp" with
  | some (.num spelled) => !platform.isPast spelled now
  | _ => false

/-- The flag is a truth value or the text of one, by the flow. -/
def isEmailVerified (claims : Json) : Bool :=
  match claims.field? "email_verified" with
  | some (.bool value) => value
  | some (.str text) => text = "true"
  | _ => false

/-- What the claims of a token vouch for. -/
def googleIdentity (now : Nat) (claims : Json) : Option VerifiedIdentity :=
  if claim "iss" claims ≠ "https://accounts.google.com" ∧ claim "iss" claims ≠ "accounts.google.com"
  then none
  else if !isAudience env claims then none
  else if !isCurrent platform now claims then none
  else if claim "sub" claims = "" ∨ claim "email" claims = "" ∨ !isEmailVerified claims then none
  else
    some
      { provider := .google, subject := claim "sub" claims, email := claim "email" claims }

def exchangeGoogle (code : String) (verifier : Option String) (now : Nat) : Exchange Exchanged := do
  let response : ProviderResponse ← fetch (googleTokenRequest env code verifier)
  if !response.ok then return .refused
  else
    match response.body.bind (truthyField platform "id_token") with
    | none => return .refused
    | some (.str idToken) =>
        match (decodeJwtPayload idToken).bind (googleIdentity platform env now) with
        | none => return .refused
        | some identity => return .verified identity
    | some _ => return .threw

-----------------------------------------------------------------------------------------
-- GitHub
-----------------------------------------------------------------------------------------

/-- The first address that is primary and verified. Of null no field can be read. -/
def primaryEmail : List Json → Except Unit (Option String)
  | [] => .ok none
  | .null :: _ => .error ()
  | entry :: later =>
      match truthyField platform "primary" entry, truthyField platform "verified" entry,
          entry.field? "email" with
      | some _, some _, some (.str email) => .ok (some email)
      | _, _, _ => primaryEmail later

def exchangeGithub (code : String) : Exchange Exchanged := do
  let tokenResponse : ProviderResponse ← fetch (githubTokenRequest env code)
  if !tokenResponse.ok then return .refused
  else
    match tokenResponse.body.bind (truthyField platform "access_token") with
    | none => return .refused
    | some value =>
        let token := value.text?.getD (platform.asText value)
        let userResponse : ProviderResponse ← fetch (githubUserRequest token)
        match userResponse.ok, userResponse.body.bind (Json.field? "id") with
        | true, some (.num id) =>
            let emailsResponse : ProviderResponse ← fetch (githubEmailsRequest token)
            match emailsResponse.ok, emailsResponse.body with
            | true, some (.array entries) =>
                match primaryEmail platform entries with
                | .error _ => return .threw
                | .ok found =>
                    match truthy found with
                    | none => return .refused
                    | some email =>
                        return .verified
                          { provider := .github, subject := platform.asText (.num id), email }
            | _, _ => return .refused
        | _, _ => return .refused

/-- A code becomes an identity, or nothing if the provider does not vouch for one. -/
def exchangeCode (provider : SsoProvider) (code : String) (verifier : Option String) (now : Nat)
    : Exchange Exchanged :=
  match provider with
  | .google => exchangeGoogle platform env code verifier now
  | .github => exchangeGithub platform env code
  | .apple => return .refused

end

end ControlPlane.Doors
