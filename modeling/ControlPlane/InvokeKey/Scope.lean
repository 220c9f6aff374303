import ControlPlane.Library.JsonText
import ControlPlane.Teardown.Pass
import Mathlib.Data.List.Perm.Basic

/-! The scope of an invoke key, probed before the key is stored: it must not reach the management
API, and it must reach every endpoint that the studio submits to.
-/

namespace ControlPlane.InvokeKey

open ControlPlane.Library
open ControlPlane.Teardown (truthy)

-----------------------------------------------------------------------------------------
-- Verdicts
-----------------------------------------------------------------------------------------

def RUNPOD_INVOKE_BASE : String := "https://api.runpod.ai/v2"

def RUNPOD_GRAPHQL : String := "https://api.runpod.io/graphql"

inductive InvokeKeyRejection
  | badPrefix
  | graphqlCapable
  | endpointOutOfScope
  | endpointUnreachable
  | noEndpoints
  deriving DecidableEq, Repr

def InvokeKeyRejection.text : InvokeKeyRejection → String
  | .badPrefix => "bad_prefix"
  | .graphqlCapable => "graphql_capable"
  | .endpointOutOfScope => "endpoint_out_of_scope"
  | .endpointUnreachable => "endpoint_unreachable"
  | .noEndpoints => "no_endpoints"

structure InvokeKeyVerdict where
  ok : Bool
  reason : Option InvokeKeyRejection
  /-- The endpoints that answered with success, also on a rejection. -/
  inScope : List String
  /-- The endpoints that refused the key, or did not answer. -/
  outOfScope : List String
  detail : Option String
  deriving DecidableEq, Repr

/-- Keys of the current kind carry the prefix. Older ones predate scopes. -/
def hasModernKeyPrefix (key : String) : Bool :=
  ['r', 'p', 'a', '_'].isPrefixOf key.toList

-----------------------------------------------------------------------------------------
-- Probes
-----------------------------------------------------------------------------------------

structure ProbeRequest where
  method : String
  url : String
  authorization : String
  body : Option Json

/-- A probe threw, or it was answered. The body is absent where it is no JSON. -/
inductive ProbeAnswer
  | failed
  | answered (status : Nat) (body : Option Json)

/-- What a call finds, by how many calls went before it. -/
abbrev FetchImpl := Nat → ProbeRequest → ProbeAnswer

def graphqlRequest (key : String) : ProbeRequest where
  method := "POST"
  url := RUNPOD_GRAPHQL
  authorization := "Bearer " ++ key
  body := some (.object [("query", .str "query { myself { id } }")])

def healthRequest (key endpointId : String) : ProbeRequest where
  method := "GET"
  url := RUNPOD_INVOKE_BASE ++ "/" ++ endpointId ++ "/health"
  authorization := "Bearer " ++ key
  body := none

/-- res.ok -/
def isOk (status : Nat) : Bool :=
  200 ≤ status ∧ status ≤ 299

/-- The digits of a JSON number before its exponent, and the exponent of their last one. -/
def decimalParts (spelled : String) : Nat × Int :=
  let text := spelled.toList.map Char.toLower
  let mantissa := text.takeWhile fun c => c ≠ 'e'
  let power := (text.dropWhile fun c => c ≠ 'e').drop 1
  let fraction := (mantissa.dropWhile fun c => c ≠ '.').drop 1
  let size := Nat.ofDigitChars 10 (power.filter Char.isDigit) 0
  (Nat.ofDigitChars 10 (mantissa.filter Char.isDigit) 0,
    (if power.head? = some '-' then -(size : Int) else size) - fraction.length)

/-- The numbers that are 0 as doubles: at most half of the least positive one. -/
def isZeroNumber (spelled : String) : Bool :=
  let (digits, exponent) := decimalParts spelled
  digits = 0 ∨ (exponent < 0 ∧ digits * 2 ^ 1075 ≤ 10 ^ exponent.natAbs)

/-- Boolean(value) -/
def isTruthy : Json → Bool
  | .null => false
  | .bool value => value
  | .num spelled => !isZeroNumber spelled
  | .str value => value ≠ ""
  | .array _ | .object _ => true

/-- Only real data proves that the key reached the API: Boolean(body?.data?.myself). -/
def hasMyself (body : Option Json) : Bool :=
  ((body.bind (Json.field? "data")).bind (Json.field? "myself")).any isTruthy

/-- The key reached the management API. A failure reads as not reached. -/
def probeGraphql (answer : ProbeAnswer) : Bool :=
  match answer with
  | .failed => false
  | .answered status body =>
      if status = 401 ∨ status = 403 then false
      else if !isOk status then false
      else hasMyself body

inductive EndpointProbe
  | inScope
  | outOfScope
  | error
  deriving DecidableEq, Repr

def probeEndpointHealth (answer : ProbeAnswer) : EndpointProbe :=
  match answer with
  | .failed => .error
  | .answered status _ =>
      if isOk status then .inScope
      else if status = 401 ∨ status = 403 then .outOfScope
      else .error

-----------------------------------------------------------------------------------------
-- The verification
-----------------------------------------------------------------------------------------

/-- What the loop over the endpoints has gathered. -/
structure Probed where
  inScope : List String := []
  outOfScope : List String := []
  unreachable : Option String := none
  asked : List ProbeRequest := []

def Probed.take (probed : Probed) (key endpointId : String) (result : EndpointProbe) : Probed :=
  let asked := probed.asked ++ [healthRequest key endpointId]
  match result with
  | .inScope => { probed with asked, inScope := probed.inScope ++ [endpointId] }
  | .outOfScope => { probed with asked, outOfScope := probed.outOfScope ++ [endpointId] }
  | .error =>
      {
        probed with
        asked,
        outOfScope := probed.outOfScope ++ [endpointId],
        unreachable := some endpointId
      }

/-- Every endpoint is probed, whatever the earlier ones answered. -/
def probeEndpoints (fetchImpl : FetchImpl) (key : String) : Nat → Probed → List String → Probed
  | _, probed, [] => probed
  | call, probed, id :: rest =>
      let result := probeEndpointHealth (fetchImpl call (healthRequest key id))
      probeEndpoints fetchImpl key (call + 1) (probed.take key id result) rest

/-- A verdict, and the probes that were sent for it. -/
structure ScopeCheck where
  verdict : InvokeKeyVerdict
  asked : List ProbeRequest

def refused (reason : InvokeKeyRejection) (detail : Option String) : InvokeKeyVerdict :=
  { ok := false, reason := some reason, inScope := [], outOfScope := [], detail }

def badPrefixDetail : String :=
  "this does not look like a current RunPod key (expected an rpa_ prefix)"

def graphqlDetail (endpointIds : List String) : String :=
  "that key has GraphQL access, which can create and delete resources across your whole "
  ++ "RunPod account. We will not store a key that powerful. Create a Restricted key with "
  ++ "api.runpod.io/graphql set to None and api.runpod.ai restricted to the "
  ++ toString endpointIds.length ++ " vivijure endpoints your studio submits to."

/-- The verdict on an account whose key does not reach the management API. -/
def scopeVerdict (endpointIds : List String) (probed : Probed) : InvokeKeyVerdict :=
  let verdict ok reason detail : InvokeKeyVerdict :=
    { ok, reason, inScope := probed.inScope, outOfScope := probed.outOfScope, detail }
  if probed.inScope.length = endpointIds.length then verdict true none none
  else
    match truthy probed.unreachable, probed.outOfScope with
    | some unreachable, [_] =>
        verdict false (some .endpointUnreachable)
          (some ("could not reach endpoint " ++ unreachable
            ++ " to verify the key; nothing was stored"))
    | _, _ =>
        verdict false (some .endpointOutOfScope)
          (some ("that key does not cover " ++ toString probed.outOfScope.length ++ " of your "
            ++ toString endpointIds.length ++ " vivijure endpoints. Scope it to all "
            ++ toString endpointIds.length ++ ", then paste it again."))

def verifyInvokeKeyScope (key : String) (endpointIds : List String) (fetchImpl : FetchImpl)
    : ScopeCheck :=
  if endpointIds.length = 0 then { verdict := refused .noEndpoints none, asked := [] }
  else if !hasModernKeyPrefix key then
    { verdict := refused .badPrefix (some badPrefixDetail), asked := [] }
  else if probeGraphql (fetchImpl 0 (graphqlRequest key)) then
    {
      verdict := refused .graphqlCapable (some (graphqlDetail endpointIds)),
      asked := [graphqlRequest key]
    }
  else
    let probed := probeEndpoints fetchImpl key 1 {} endpointIds
    { verdict := scopeVerdict endpointIds probed, asked := graphqlRequest key :: probed.asked }

-----------------------------------------------------------------------------------------
-- Evidence
-----------------------------------------------------------------------------------------

namespace ProbeAnswer

/-- The API answered that it refuses the key. -/
def IsDenial : ProbeAnswer → Prop
  | .failed => False
  | .answered status _ => status = 401 ∨ status = 403

def IsSuccess : ProbeAnswer → Prop
  | .failed => False
  | .answered status _ => isOk status = true

/-- A success that carries data. -/
def CarriesData : ProbeAnswer → Prop
  | .failed => False
  | .answered status body => isOk status = true ∧ hasMyself body = true

theorem probeGraphql_iff (answer : ProbeAnswer)
    : probeGraphql answer = true ↔ answer.CarriesData := by
  cases answer with
  | failed => simp [probeGraphql, CarriesData]
  | answered status body =>
      simp only [probeGraphql, CarriesData]
      split
      · rename_i denied
        have apart : isOk status = false := by
          simp only [isOk, decide_eq_false_iff_not]
          omega
        simp [apart]
      · simp

theorem probeEndpointHealth_iff (answer : ProbeAnswer)
    : probeEndpointHealth answer = .inScope ↔ answer.IsSuccess := by
  cases answer with
  | failed => simp [probeEndpointHealth, IsSuccess]
  | answered status body =>
      simp only [probeEndpointHealth, IsSuccess]
      split
      · simp_all
      · rename_i refused
        simp only [refused]
        split <;> simp

end ProbeAnswer

/-- What each endpoint's probe came to. -/
def results (fetchImpl : FetchImpl) (key : String) (call : Nat) (ids : List String)
    : List (String × EndpointProbe) :=
  ids.mapIdx fun i id =>
    (id, probeEndpointHealth (fetchImpl (call + i) (healthRequest key id)))

section Results

variable (fetchImpl : FetchImpl) (key : String)

theorem results_cons (call : Nat) (id : String) (rest : List String)
    : results fetchImpl key call (id :: rest)
      = (id, probeEndpointHealth (fetchImpl call (healthRequest key id)))
        :: results fetchImpl key (call + 1) rest := by
  simp only [results, List.mapIdx_cons, Nat.add_zero, Nat.add_assoc, Nat.add_comm 1]

theorem map_results (call : Nat) (ids : List String)
    : (results fetchImpl key call ids).map Prod.fst = ids := by
  induction ids generalizing call with
  | nil => rfl
  | cons id rest ih => rw [results_cons, List.map_cons, ih]

theorem mem_results {call : Nat} {ids : List String} {result : String × EndpointProbe}
    (listed : result ∈ results fetchImpl key call ids)
    : ∃ i, ids[i]? = some result.1
      ∧ result.2 = probeEndpointHealth (fetchImpl (call + i) (healthRequest key result.1)) := by
  obtain ⟨i, inside, rfl⟩ := List.mem_mapIdx.mp listed
  exact ⟨i, List.getElem?_eq_getElem inside, rfl⟩

theorem results_getElem? {call : Nat} {ids : List String} {i : Nat} {id : String}
    (at_i : ids[i]? = some id)
    : (id, probeEndpointHealth (fetchImpl (call + i) (healthRequest key id)))
      ∈ results fetchImpl key call ids := by
  obtain ⟨inside, rfl⟩ := List.getElem?_eq_some_iff.mp at_i
  exact List.mem_mapIdx.mpr ⟨i, inside, rfl⟩

/-- The two lists are the results, split by whether the endpoint answered with success. -/
structure Splits (before after : Probed) (done : List (String × EndpointProbe)) : Prop where
  inScope : after.inScope
    = before.inScope ++ (done.filter fun result => result.2 = .inScope).map Prod.fst
  outOfScope : after.outOfScope
    = before.outOfScope ++ (done.filter fun result => !(result.2 = .inScope)).map Prod.fst
  asked : after.asked = before.asked ++ done.map fun result => healthRequest key result.1

theorem Splits.take {before after : Probed} {done : List (String × EndpointProbe)} {id : String}
    {result : EndpointProbe} (later : Splits key (before.take key id result) after done)
    : Splits key before after ((id, result) :: done) := by
  cases result with
  | inScope =>
      constructor
      · simp [later.inScope, Probed.take]
      · simp [later.outOfScope, Probed.take]
      · simp [later.asked, Probed.take]
  | outOfScope =>
      constructor
      · simp [later.inScope, Probed.take]
      · simp [later.outOfScope, Probed.take]
      · simp [later.asked, Probed.take]
  | error =>
      constructor
      · simp [later.inScope, Probed.take]
      · simp [later.outOfScope, Probed.take]
      · simp [later.asked, Probed.take]

/-- By induction on the endpoints; each one is taken into one of the lists. -/
theorem probeEndpoints_splits (call : Nat) (before : Probed) (ids : List String)
    : Splits key before (probeEndpoints fetchImpl key call before ids)
        (results fetchImpl key call ids) := by
  induction ids generalizing call before with
  | nil => constructor <;> simp [probeEndpoints, results]
  | cons id rest ih =>
      rw [results_cons]
      exact (ih (call + 1) _).take

/-- Each endpoint of the list is on exactly one side. -/
theorem probeEndpoints_perm (call : Nat) (ids : List String)
    : ((probeEndpoints fetchImpl key call {} ids).inScope
        ++ (probeEndpoints fetchImpl key call {} ids).outOfScope).Perm ids := by
  have split := probeEndpoints_splits fetchImpl key call {} ids
  have together := (List.filter_append_perm (fun result => decide (result.2 = .inScope))
    (results fetchImpl key call ids)).map Prod.fst
  rw [map_results, List.map_append] at together
  rw [split.inScope, split.outOfScope]
  simpa using together

/-- All endpoints are in scope when every one answered with success, and only then. -/
theorem all_inScope_iff (call : Nat) (ids : List String)
    : (probeEndpoints fetchImpl key call {} ids).inScope.length = ids.length
      ↔ ∀ i id, ids[i]? = some id → (fetchImpl (call + i) (healthRequest key id)).IsSuccess := by
  have split := (probeEndpoints_splits fetchImpl key call {} ids).inScope
  have sizes : (results fetchImpl key call ids).length = ids.length := List.length_mapIdx
  rw [split, List.nil_append, List.length_map, ← sizes, List.length_filter_eq_length_iff]
  constructor
  · intro every i id at_i
    have inScope := every _ (results_getElem? fetchImpl key at_i)
    exact (ProbeAnswer.probeEndpointHealth_iff _).mp (of_decide_eq_true inScope)
  · intro every result listed
    obtain ⟨i, at_i, came⟩ := mem_results fetchImpl key listed
    rw [came]
    exact decide_eq_true ((ProbeAnswer.probeEndpointHealth_iff _).mpr (every i _ at_i))

theorem evident_of_inScope {ids : List String} {id : String}
    (listed : id ∈ (probeEndpoints fetchImpl key 1 {} ids).inScope)
    : ∃ i, ids[i]? = some id ∧ (fetchImpl (1 + i) (healthRequest key id)).IsSuccess := by
  rw [(probeEndpoints_splits fetchImpl key 1 {} ids).inScope, List.nil_append] at listed
  obtain ⟨result, kept, rfl⟩ := List.mem_map.mp listed
  obtain ⟨member, succeeded⟩ := List.mem_filter.mp kept
  obtain ⟨i, at_i, came⟩ := mem_results fetchImpl key member
  have inScope := came.symm.trans (of_decide_eq_true succeeded)
  exact ⟨i, at_i, (ProbeAnswer.probeEndpointHealth_iff _).mp inScope⟩

end Results

-----------------------------------------------------------------------------------------
-- Acceptance
-----------------------------------------------------------------------------------------

/-- A key is accepted on positive evidence only, and no failed probe is evidence of anything. -/
structure AcceptedOnEvidence (key : String) (ids : List String) (fetchImpl : FetchImpl)
    (check : ScopeCheck)
    : Prop where
  denied : check.verdict.ok = true → (fetchImpl 0 (graphqlRequest key)).IsDenial
  succeeded : check.verdict.ok = true
    → ∀ i id, ids[i]? = some id → (fetchImpl (1 + i) (healthRequest key id)).IsSuccess
  carries : check.verdict.reason = some .graphqlCapable
    → (fetchImpl 0 (graphqlRequest key)).CarriesData
  evident : ∀ id ∈ check.verdict.inScope, ∃ i,
    ids[i]? = some id ∧ (fetchImpl (1 + i) (healthRequest key id)).IsSuccess
  once : (∃ id, healthRequest key id ∈ check.asked)
    → (check.verdict.inScope ++ check.verdict.outOfScope).Perm ids

theorem graphqlRequest_ne_healthRequest (key id : String)
    : graphqlRequest key ≠ healthRequest key id := by
  intro same
  have methods : "POST" = "GET" := congrArg ProbeRequest.method same
  exact absurd methods (by decide)

section Verdicts

variable (ids : List String) (probed : Probed)

/-- Each verdict hands both lists on, and none of them is about the management API. -/
theorem scopeVerdict_eq
    : ∃ reason detail, reason ≠ some .graphqlCapable
      ∧ scopeVerdict ids probed = {
          ok := probed.inScope.length = ids.length,
          reason,
          inScope := probed.inScope,
          outOfScope := probed.outOfScope,
          detail
        } := by
  unfold scopeVerdict
  split
  next all => exact ⟨none, none, nofun, by simp [all]⟩
  next missing =>
    simp only [missing, decide_false]
    split
    · exact ⟨some .endpointUnreachable, _, by decide, rfl⟩
    · exact ⟨some .endpointOutOfScope, _, by decide, rfl⟩

theorem scopeVerdict_ok
    : (scopeVerdict ids probed).ok = true ↔ probed.inScope.length = ids.length := by
  obtain ⟨reason, detail, _, same⟩ := scopeVerdict_eq ids probed
  rw [same, decide_eq_true_iff]

theorem scopeVerdict_reason : (scopeVerdict ids probed).reason ≠ some .graphqlCapable := by
  obtain ⟨reason, detail, other, same⟩ := scopeVerdict_eq ids probed
  rw [same]
  exact other

theorem scopeVerdict_inScope : (scopeVerdict ids probed).inScope = probed.inScope := by
  obtain ⟨reason, detail, _, same⟩ := scopeVerdict_eq ids probed
  rw [same]

theorem scopeVerdict_outOfScope : (scopeVerdict ids probed).outOfScope = probed.outOfScope := by
  obtain ⟨reason, detail, _, same⟩ := scopeVerdict_eq ids probed
  rw [same]

end Verdicts

/-- The management probe was answered, with a denial or with data, or something else keeps the
key out. -/
def AcceptanceSound (key : String) (ids : List String) (fetchImpl : FetchImpl) : Prop :=
  ids = []
  ∨ hasModernKeyPrefix key = false
  ∨ (fetchImpl 0 (graphqlRequest key)).IsDenial
  ∨ (fetchImpl 0 (graphqlRequest key)).CarriesData
  ∨ ∃ i id, ids[i]? = some id ∧ ¬(fetchImpl (1 + i) (healthRequest key id)).IsSuccess

/-- Everything but the denial holds of every verification. -/
theorem acceptedOnEvidence_of_denied {key : String} {ids : List String} {fetchImpl : FetchImpl}
    (denied : (verifyInvokeKeyScope key ids fetchImpl).verdict.ok = true
      → (fetchImpl 0 (graphqlRequest key)).IsDenial)
    : AcceptedOnEvidence key ids fetchImpl (verifyInvokeKeyScope key ids fetchImpl) := by
  revert denied
  unfold verifyInvokeKeyScope
  split
  · intro denied
    constructor <;> simp [refused]
  · split
    · intro denied
      constructor <;> simp [refused]
    · split
      · rename_i reached
        intro denied
        constructor
        · exact denied
        · simp [refused]
        · exact fun _ => (ProbeAnswer.probeGraphql_iff _).mp reached
        · simp [refused]
        · intro h
          obtain ⟨id, sent⟩ := h
          exact absurd (List.mem_singleton.mp sent).symm (graphqlRequest_ne_healthRequest key id)
      · intro denied
        constructor
        · exact denied
        · intro ok
          exact (all_inScope_iff fetchImpl key 1 ids).mp ((scopeVerdict_ok _ _).mp ok)
        · intro capable
          exact absurd capable (scopeVerdict_reason _ _)
        · intro id listed
          rw [scopeVerdict_inScope] at listed
          exact evident_of_inScope fetchImpl key listed
        · intro _
          rw [scopeVerdict_inScope, scopeVerdict_outOfScope]
          exact probeEndpoints_perm fetchImpl key 1 ids

/-- A key is accepted exactly when every endpoint answered and the management API gave no data. -/
theorem verifyInvokeKeyScope_ok {key : String} {ids : List String} {fetchImpl : FetchImpl}
    : (verifyInvokeKeyScope key ids fetchImpl).verdict.ok = true
      ↔ ids ≠ [] ∧ hasModernKeyPrefix key = true
        ∧ ¬(fetchImpl 0 (graphqlRequest key)).CarriesData
        ∧ ∀ i id, ids[i]? = some id
          → (fetchImpl (1 + i) (healthRequest key id)).IsSuccess := by
  rw [← ProbeAnswer.probeGraphql_iff]
  unfold verifyInvokeKeyScope
  split
  · rename_i none
    simp [refused, List.length_eq_zero_iff.mp none]
  · rename_i some
    have listed : ids ≠ [] := fun none => some (List.length_eq_zero_iff.mpr none)
    split
    · rename_i older
      simp_all [refused]
    · rename_i modern
      split
      · rename_i reached
        simp [refused, reached]
      · rename_i apart
        rw [scopeVerdict_ok, all_inScope_iff]
        simp_all

/-- A key is accepted on evidence exactly where `AcceptanceSound` holds of the answers. -/
theorem acceptedOnEvidence_iff (key : String) (ids : List String) (fetchImpl : FetchImpl)
    : AcceptedOnEvidence key ids fetchImpl (verifyInvokeKeyScope key ids fetchImpl)
      ↔ AcceptanceSound key ids fetchImpl := by
  constructor
  · intro evidence
    by_cases ok : (verifyInvokeKeyScope key ids fetchImpl).verdict.ok = true
    · exact .inr (.inr (.inl (evidence.denied ok)))
    · rw [verifyInvokeKeyScope_ok] at ok
      unfold AcceptanceSound
      by_contra none
      push Not at none
      obtain ⟨listed, modern, -, withheld, answered⟩ := none
      exact ok ⟨listed, by simpa using modern, withheld, answered⟩
  · intro sound
    refine acceptedOnEvidence_of_denied fun ok => ?_
    obtain ⟨listed, modern, withheld, answered⟩ := verifyInvokeKeyScope_ok.mp ok
    rcases sound with none | older | denied | reached | ⟨i, id, at_i, silent⟩
    · exact absurd none listed
    · exact absurd (older.symm.trans modern) Bool.false_ne_true
    · exact denied
    · exact absurd reached withheld
    · exact absurd (answered i id at_i) silent

/-- The management API cannot be reached, and the one endpoint answers: the key is accepted. -/
def blip : FetchImpl
  | 0, _ => .failed
  | _ + 1, _ => .answered 200 none

theorem blip_accepted
    : ¬AcceptedOnEvidence "rpa_key" ["ep"] blip (verifyInvokeKeyScope "rpa_key" ["ep"] blip) :=
  fun evidence => evidence.denied (by decide)

end ControlPlane.InvokeKey
