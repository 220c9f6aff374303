import ControlPlane.Kek.TokenCrypto
import ControlPlane.Library.JsonText
import ControlPlane.Library.TextParts
import ControlPlane.Modules.Catalog
import ControlPlane.Store.RunpodJobs
import ControlPlane.StudioBindings.Variables

/-! Submits of tenant modules that reach RunPod through the plane: who may submit what, the body that
is sent on, and the row of the job that comes of it.
-/

namespace ControlPlane.RunpodProxy

open ControlPlane.Kek (isTrimmed)
open ControlPlane.Library
open ControlPlane.Modules
open ControlPlane.Store
open ControlPlane.StudioBindings

-----------------------------------------------------------------------------------------
-- The bearer
-----------------------------------------------------------------------------------------

/-- The token of an Authorization header: /^Bearer\s+(\S+)$/i. -/
def bearerFrom (authorization : Option String) : Option String :=
  let header := (authorization.getD "").toList
  let after := header.drop 6
  let presented := after.dropWhile isTrimmed
  if (header.take 6).map Char.toLower = ['b', 'e', 'a', 'r', 'e', 'r'] ∧ after.head?.any isTrimmed
      ∧ presented ≠ [] ∧ presented.all fun c => !isTrimmed c then
    some (String.ofList presented)
  else none

/-- Every place is compared, wherever the first difference is. -/
def timingSafeEqual (a b : String) : Bool :=
  a.toList.length = b.toList.length
  ∧ (List.zipWith (fun x y : Char => x.toNat ^^^ y.toNat) a.toList b.toList).foldl (· ||| ·) 0 = 0

/-- The tenant that a token authenticates. There is one failure, whatever the reason. -/
def verifyTenantProxyToken (hmacHex : HmacHex) (signingKey presented : Option String)
    : Option String :=
  match truthy signingKey, truthy presented with
  | some key, some token =>
      match token.toList.splitOn '.' with
      | [version, tenantId, mac] =>
          if String.ofList version ≠ PROXY_TOKEN_PREFIX ∨ tenantId = [] ∨ mac = [] then none
          else if
              timingSafeEqual (String.ofList mac) (hmacHex key (macInput (String.ofList tenantId)))
            then some (String.ofList tenantId)
          else none
      | _ => none
  | _, _ => none

-----------------------------------------------------------------------------------------
-- The gate
-----------------------------------------------------------------------------------------

/-- Why a submit was refused. -/
inductive SubmitRefusal
  | unauthorized
  | unknownTenant
  | tenantNotLive
  | tenantSuspended
  | notSharedMode
  | endpointNotAllowed
  | badBody
  deriving DecidableEq, Repr

def SubmitRefusal.text : SubmitRefusal → String
  | .unauthorized => "unauthorized"
  | .unknownTenant => "unknown_tenant"
  | .tenantNotLive => "tenant_not_live"
  | .tenantSuspended => "tenant_suspended"
  | .notSharedMode => "not_shared_mode"
  | .endpointNotAllowed => "endpoint_not_allowed"
  | .badBody => "bad_body"

/-- HTTP_FOR. -/
def SubmitRefusal.status : SubmitRefusal → Nat
  | .unauthorized => 401
  | .badBody => 400
  | .unknownTenant | .tenantNotLive | .tenantSuspended | .notSharedMode | .endpointNotAllowed => 403

/-- The tenant gate. Suspension has a column of its own. -/
def submitRefusal (tenant : StudioTenant) : Option SubmitRefusal :=
  if tenant.deletedAt ≠ none then some .unknownTenant
  else if tenant.suspendedAt ≠ none then some .tenantSuspended
  else if tenant.status ≠ .live then some .tenantNotLive
  else if tenant.runpodMode ≠ "shared" then some .notSharedMode
  else none

def PUBLIC_ENDPOINT_ALLOWLIST : List String :=
  ["wan-2-6-i2v", "wan-2-2-t2v-720-lora", "minimax-hailuo-2-3-fast", "minimax-speech-02-hd"]

def isAllowedEndpoint (endpointId : String) (poolEndpointIds : List String) : Bool :=
  if endpointId = "" then false
  else endpointId ∈ poolEndpointIds ∨ endpointId ∈ PUBLIC_ENDPOINT_ALLOWLIST

-----------------------------------------------------------------------------------------
-- The body
-----------------------------------------------------------------------------------------

/-- A byte as two hexadecimal digits. -/
def hexByte (byte : UInt8) : List Char :=
  [Json.hexDigit (byte.toNat / 16), Json.hexDigit (byte.toNat % 16)]

/-- A token of 32 random bytes. -/
def mintWebhookToken (random : Nat → List UInt8) : String :=
  String.ofList ((random 32).flatMap hexByte)

def trimTrailingSlashes (text : String) : String :=
  String.ofList (text.toList.rdropWhile fun c => c = '/')

/-- The callback of one job, with its token as the last segment. -/
def callbackUrlFor (base token : String) : String :=
  trimTrailingSlashes base ++ "/" ++ token

/-- A member of an object is set: in its place, or behind the others. -/
def setMember (key : String) (value : Json) (members : List (String × Json))
    : List (String × Json) :=
  if key ∈ members.map Prod.fst then
    members.map fun member => if member.1 = key then (key, value) else member
  else members ++ [(key, value)]

/-- The object that is sent on, which has no result where a ProxyError is thrown. No clamp of the
execution time is configured.
-/
def buildUpstreamSubmitBody (tenantBody : Json) (webhookUrl : String)
    : Option (List (String × Json)) :=
  match tenantBody with
  | .object members => some (setMember "webhook" (.str webhookUrl) members)
  | _ => none

/-- The job id of an answer, if it says one. -/
def jobIdFrom (bodyText : String) : Option String :=
  (((Json.parse bodyText).bind (Json.field? "id")).bind Json.text?).filter fun id => id ≠ ""

-----------------------------------------------------------------------------------------
-- One submit
-----------------------------------------------------------------------------------------

/-- What a plane has configured for its proxy, with the digests it computes. -/
structure ProxyConfig where
  hmacHex : HmacHex
  sha256Hex : String → String
  signingKey : Option String
  callbackBase : String
  poolEndpointIds : List String

/-- A request of a module, as far as it is read. There is no body where it is no JSON. -/
structure SubmitRequest where
  authorization : Option String
  moduleName : Option String
  json : Option Json

/-- The answer of RunPod to a call, with the status of a final HTTP response. -/
structure UpstreamAnswer where
  status : Nat
  isFinal : 200 ≤ status ∧ status ≤ 599
  text : Except String String
  contentType : Option String

/-- A status of 2xx. -/
def UpstreamAnswer.ok (answer : UpstreamAnswer) : Bool :=
  200 ≤ answer.status ∧ answer.status ≤ 299

/-- What the calls of one submit find. An error is the text of what is thrown. -/
structure SubmitAnswers where
  tenantRead : Except String Unit
  runpodApiKey : Except String String
  random : Nat → List UInt8
  upstream : Except String UpstreamAnswer
  nowMs : Int
  now : Nat
  jobWritten : Bool

/-- A POST to RunPod. -/
structure UpstreamPost where
  endpointId : String
  key : String
  body : List (String × Json)

/-- A response of the plane, with the reason of a plane refusal. -/
structure PlaneResponse where
  status : Nat
  body : String
  contentType : String := "application/json"
  refusal : Option String := none

/-- What one submit did and answered. -/
structure SubmitRun where
  posts : List UpstreamPost := []
  answered : Option UpstreamAnswer := none
  opened : Option ProxyJobOpen := none
  index : RunpodJobIndex
  result : Except String PlaneResponse

def refuse (reason : SubmitRefusal) : PlaneResponse where
  status := reason.status
  body := (Json.object [("error", .str ("plane refusal: " ++ reason.text))]).stringify
  refusal := some reason.text

def planeUnavailable (reason detail : String) : PlaneResponse where
  status := 503
  body :=
    (Json.object [("error", .str ("plane refusal: " ++ reason)), ("detail", .str detail)]).stringify
  refusal := some reason

/-- The rows of the tenants, with their suspension. -/
abbrev ProxyTenants := Keyed fun tenant : StudioTenant => tenant.id

/-- A submit that was let through: its tenant, the credential, the callback token, and the body. -/
structure AdmittedSubmit where
  tenant : StudioTenant
  key : String
  webhookToken : String
  body : List (String × Json)

/-- handleProxySubmit up to its POST. -/
def admitSubmit (config : ProxyConfig) (tenants : ProxyTenants) (request : SubmitRequest)
    (endpointId : String) (answers : SubmitAnswers)
    : Except PlaneResponse AdmittedSubmit :=
  match verifyTenantProxyToken config.hmacHex config.signingKey (bearerFrom request.authorization)
  with
  | none => .error (refuse .unauthorized)
  | some tenantId =>
      match answers.tenantRead with
      | .error thrown => .error (planeUnavailable "store-unavailable" thrown)
      | .ok () =>
          match tenants.get? tenantId with
          | none => .error (refuse .unknownTenant)
          | some tenant =>
              match submitRefusal tenant with
              | some gate => .error (refuse gate)
              | none =>
                  if isAllowedEndpoint endpointId config.poolEndpointIds then
                    match request.json, answers.runpodApiKey with
                    | none, _ => .error (refuse .badBody)
                    | some _, .error thrown =>
                        .error (planeUnavailable "credential-unavailable" thrown)
                    | some tenantBody, .ok key =>
                        if key = "" then
                          .error
                            (planeUnavailable "credential-unavailable"
                              "no RunPod credential on the proxy")
                        else
                          let webhookToken := mintWebhookToken answers.random
                          match
                            buildUpstreamSubmitBody tenantBody
                              (callbackUrlFor config.callbackBase webhookToken)
                          with
                          | none => .error (refuse .badBody)
                          | some body =>
                              .ok
                                { tenant := tenant
                                  key := key
                                  webhookToken := webhookToken
                                  body := body }
                  else .error (refuse .endpointNotAllowed)

/-- The row that a submit opens for a job. -/
def jobOpened (config : ProxyConfig) (request : SubmitRequest) (endpointId : String)
    (answers : SubmitAnswers) (admitted : AdmittedSubmit) (jobId : String)
    : ProxyJobOpen where
  jobId := jobId
  tenantId := admitted.tenant.id
  tenantSlug := admitted.tenant.slug
  moduleName := request.moduleName
  endpointId := endpointId
  submittedAt := answers.nowMs
  webhookTokenSha256 := config.sha256Hex admitted.webhookToken

/-- The open of a submit whose answer was read. -/
def openOf (config : ProxyConfig) (request : SubmitRequest) (endpointId : String)
    (answers : SubmitAnswers) (admitted : AdmittedSubmit) (answer : UpstreamAnswer) (text : String)
    : Option ProxyJobOpen :=
  if answer.ok then (jobIdFrom text).map (jobOpened config request endpointId answers admitted)
  else none

/-- The index after an open that the database takes, or refuses. A failure is only logged. -/
def indexAfterOpen (index : RunpodJobIndex) (answers : SubmitAnswers) (opened : ProxyJobOpen)
    : RunpodJobIndex :=
  if answers.jobWritten then (index.openRunpodProxyJob answers.now opened).getD index else index

def handleProxySubmit (config : ProxyConfig) (tenants : ProxyTenants) (index : RunpodJobIndex)
    (request : SubmitRequest) (endpointId : String) (answers : SubmitAnswers)
    : SubmitRun :=
  match admitSubmit config tenants request endpointId answers with
  | .error response => { index := index, result := .ok response }
  | .ok admitted =>
      let post : UpstreamPost :=
        { endpointId := endpointId, key := admitted.key, body := admitted.body }
      match answers.upstream with
      -- not a plane refusal: the modules handle a transport failure themselves
      | .error thrown =>
          { posts := [post]
            index := index
            result :=
              .ok
                { status := 502
                  body :=
                    (Json.object [("error", .str ("upstream unreachable: " ++ thrown))]).stringify } }
      | .ok answer =>
          match answer.text with
          | .error thrown =>
              { posts := [post], answered := some answer, index := index, result := .error thrown }
          | .ok text =>
              let opened := openOf config request endpointId answers admitted answer text
              { posts := [post]
                answered := some answer
                opened := opened
                index := opened.elim index (indexAfterOpen index answers)
                result :=
                  .ok
                    { status := answer.status
                      body := text
                      contentType := answer.contentType.getD "application/json" } }

end ControlPlane.RunpodProxy
