import ControlPlane.RunpodProxy.Gate
import ControlPlane.StudioBindings.Projections

/-! Nothing is forwarded to RunPod without a tenant that answers for it, a job that RunPod names is
recorded under the token it was given, and what RunPod answers reaches the module as it is.
-/

namespace ControlPlane.RunpodProxy

open ControlPlane.Library
open ControlPlane.Library.TextParts
open ControlPlane.Modules
open ControlPlane.Store
open ControlPlane.StudioBindings

-----------------------------------------------------------------------------------------
-- A token that verifies is the one that was minted
-----------------------------------------------------------------------------------------

/-- Places that leave no difference are the same, by induction on the texts. -/
theorem eq_of_no_difference {first second : List Char} (sameLength : first.length = second.length)
    (difference : Nat) (none_
      : (List.zipWith (fun x y : Char => x.toNat ^^^ y.toNat) first second).foldl (· ||| ·)
          difference = 0)
    : difference = 0 ∧ first = second := by
  induction first generalizing second difference with
  | nil =>
      cases second with
      | nil => exact ⟨none_, rfl⟩
      | cons y later => exact nomatch sameLength
  | cons x rest ih =>
      cases second with
      | nil => exact nomatch sameLength
      | cons y later =>
          rw [List.zipWith_cons_cons, List.foldl_cons] at none_
          obtain ⟨sofar, same⟩ := ih (Nat.succ.inj sameLength) _ none_
          obtain ⟨before, here⟩ := Nat.or_eq_zero_iff.mp sofar
          have cancelled : x.toNat ^^^ y.toNat ^^^ y.toNat = 0 ^^^ y.toNat := by rw [here]
          have sameChar : x = y := by
            rw [Nat.xor_assoc, Nat.xor_self, Nat.xor_zero, Nat.zero_xor] at cancelled
            exact Char.toNat_inj.mp cancelled
          exact ⟨before, by rw [sameChar, same]⟩

theorem eq_of_timingSafeEqual {a b : String} (equal : timingSafeEqual a b = true) : a = b := by
  obtain ⟨sameLength, none_⟩ := of_decide_eq_true equal
  exact String.toList_injective (eq_of_no_difference sameLength 0 none_).2

/-- A text that authenticates a tenant has the prefix, the tenant and its MAC for its parts. -/
theorem parts_of_verify {hmacHex : HmacHex} {signingKey presented : Option String}
    {tenantId : String}
    (verified : verifyTenantProxyToken hmacHex signingKey presented = some tenantId)
    : ∃ key token, signingKey = some key ∧ key ≠ "" ∧ presented = some token ∧ tenantId ≠ ""
        ∧ token.toList.splitOn '.'
          = [PROXY_TOKEN_PREFIX.toList, tenantId.toList,
              (hmacHex key (macInput tenantId)).toList] := by
  rw [verifyTenantProxyToken] at verified
  split at verified
  · next key token isKey isToken =>
      obtain ⟨keyed, keyFilled⟩ := truthy_eq_some.mp isKey
      obtain ⟨presents, -⟩ := truthy_eq_some.mp isToken
      refine ⟨key, token, keyed, keyFilled, presents, ?_⟩
      split at verified
      · next version named mac parts =>
          split at verified
          · exact nomatch verified
          · next shaped =>
              obtain ⟨isVersion, isNamed, -⟩ := not_or.mp shaped |>.imp not_not.mp not_or.mp
              split at verified
              · next equal =>
                  cases Option.some.inj verified
                  have filled : String.ofList named ≠ "" := by
                    intro empty
                    exact isNamed (by simpa using congrArg String.toList empty)
                  refine ⟨filled, ?_⟩
                  rw [parts, ← isVersion, ← eq_of_timingSafeEqual equal]
                  simp only [String.toList_ofList]
              · exact nomatch verified
      · exact nomatch verified
  · exact nomatch verified

/-- A token that authenticates a tenant is the one that is minted for it. -/
theorem mint_of_verify {hmacHex : HmacHex} {signingKey presented : Option String}
    {tenantId : String}
    (verified : verifyTenantProxyToken hmacHex signingKey presented = some tenantId)
    : presented = mintTenantProxyToken hmacHex signingKey tenantId ∧ presented ≠ none := by
  obtain ⟨key, token, keyed, keyFilled, presents, filled, parts⟩ := parts_of_verify verified
  have clean : '.' ∉ tenantId.toList := not_mem_of_mem_splitOn (by rw [parts]; simp)
  have whole : ['.'].intercalate (token.toList.splitOn '.') = token.toList :=
    List.intercalate_splitOn '.'
  rw [parts] at whole
  have minted : mintTenantProxyToken hmacHex signingKey tenantId = some token := by
    simp only [mintTenantProxyToken, keyed, Option.getD_some, if_neg keyFilled, filled, clean,
      or_self, if_false]
    apply congrArg some
    apply String.toList_injective
    rw [← whole]
    simp [List.intercalate]
  rw [minted, presents]
  exact ⟨rfl, Option.some_ne_none token⟩

-----------------------------------------------------------------------------------------
-- A member that is set
-----------------------------------------------------------------------------------------

/-- What is found under a name once a member is set, by induction on the members in front. -/
theorem find?_set (key : String) (value : Json) (members : List (String × Json)) (name : String)
    : ((members.map fun member => if member.1 = key then (key, value) else member).find?
          fun member => member.1 = name).map Prod.snd
      = if name = key ∧ key ∈ members.map Prod.fst then some value
        else (members.find? fun member => member.1 = name).map Prod.snd := by
  induction members with
  | nil => simp
  | cons member rest ih =>
      rw [List.map_cons, List.find?_cons, List.find?_cons]
      by_cases isKey : member.1 = key
      · by_cases isName : name = key
        · simp [isKey, isName]
        · have passed : ¬ member.1 = name := fun same => isName (same.symm.trans isKey)
          have differs : ¬ key = name := fun same => isName same.symm
          rw [if_pos isKey, decide_eq_false differs, decide_eq_false passed]
          simpa only [isName, false_and, if_false] using ih
      · rw [if_neg isKey]
        by_cases here : member.1 = name
        · have other : ¬ name = key := fun same => isKey (here.trans same)
          simp [here, other]
        · have later : key ∈ (member :: rest).map Prod.fst ↔ key ∈ rest.map Prod.fst := by
            rw [List.map_cons, List.mem_cons]
            exact or_iff_right fun same => isKey same.symm
          rw [decide_eq_false here]
          simpa only [later] using ih

/-- A member that is set holds its value, and the others hold what they held. -/
theorem field?_setMember (key : String) (value : Json) (members : List (String × Json))
    (name : String)
    : (Json.object (setMember key value members)).field? name
      = if name = key then some value else (Json.object members).field? name := by
  simp only [Json.field?, setMember]
  by_cases held : key ∈ members.map Prod.fst
  · rw [if_pos held, ← List.map_reverse, find?_set key value members.reverse name]
    simp only [List.map_reverse, List.mem_reverse, held, and_true]
  · rw [if_neg held, List.reverse_append, List.reverse_singleton, List.singleton_append,
      List.find?_cons]
    by_cases isName : name = key
    · simp [isName]
    · have differs : ¬ key = name := fun same => isName same.symm
      simp [isName, differs]

-----------------------------------------------------------------------------------------
-- What is let through
-----------------------------------------------------------------------------------------

/-- A submit of a tenant that the plane answers for, to an endpoint that it can price. -/
structure LetThrough (config : ProxyConfig) (tenants : ProxyTenants) (request : SubmitRequest)
    (endpointId : String) (answers : SubmitAnswers) (tenant : StudioTenant)
    : Prop where
  bearer :
    bearerFrom request.authorization
      = mintTenantProxyToken config.hmacHex config.signingKey tenant.id
  presented : bearerFrom request.authorization ≠ none
  read : answers.tenantRead = .ok ()
  row : tenants.get? tenant.id = some tenant
  notDeleted : tenant.deletedAt = none
  notSuspended : tenant.suspendedAt = none
  live : tenant.status = .live
  shared : tenant.runpodMode = "shared"
  endpoint :
    endpointId ≠ ""
      ∧ (endpointId ∈ config.poolEndpointIds ∨ endpointId ∈ PUBLIC_ENDPOINT_ALLOWLIST)

/-- The body of a submit with the plane's callback of this job in it, and nothing else changed. -/
def CarriesCallback (config : ProxyConfig) (request : SubmitRequest) (answers : SubmitAnswers)
    (body : List (String × Json))
    : Prop :=
  ∃ members, request.json = some (.object members)
    ∧ ∀ name, (Json.object body).field? name
        = if name = "webhook" then
            some (.str (callbackUrlFor config.callbackBase (mintWebhookToken answers.random)))
          else (Json.object members).field? name

/-- The row gate lets a row through that is there, not suspended, live and shared. -/
theorem submitRefusal_eq_none {tenant : StudioTenant} (passed : submitRefusal tenant = none)
    : tenant.deletedAt = none ∧ tenant.suspendedAt = none ∧ tenant.status = .live
      ∧ tenant.runpodMode = "shared" := by
  rw [submitRefusal] at passed
  split at passed
  · exact nomatch passed
  · next notDeleted =>
      split at passed
      · exact nomatch passed
      · next notSuspended =>
          split at passed
          · exact nomatch passed
          · next live =>
              split at passed
              · exact nomatch passed
              · next shared =>
                  exact ⟨not_not.mp notDeleted, not_not.mp notSuspended, not_not.mp live,
                    not_not.mp shared⟩

theorem endpoint_of_allowed {endpointId : String} {pool : List String}
    (allowed : isAllowedEndpoint endpointId pool = true)
    : endpointId ≠ "" ∧ (endpointId ∈ pool ∨ endpointId ∈ PUBLIC_ENDPOINT_ALLOWLIST) := by
  rw [isAllowedEndpoint] at allowed
  split at allowed
  · exact nomatch allowed
  · next filled => exact ⟨filled, of_decide_eq_true allowed⟩

theorem ProxyTenants.id_of_found {tenants : ProxyTenants} {tenantId : String}
    {tenant : StudioTenant} (found : tenants.get? tenantId = some tenant)
    : tenant.id = tenantId :=
  @Keyed.get?_key _ _ (fun row : StudioTenant => row.id) _ tenants tenantId tenant found

/-- What is built of the body of a request carries the callback. -/
theorem carriesCallback_of_built {config : ProxyConfig} {request : SubmitRequest}
    {answers : SubmitAnswers} {tenantBody : Json} {body : List (String × Json)}
    (parsed : request.json = some tenantBody)
    (built
      : buildUpstreamSubmitBody tenantBody
          (callbackUrlFor config.callbackBase (mintWebhookToken answers.random)) = some body)
    : CarriesCallback config request answers body := by
  cases tenantBody with
  | object members =>
      cases Option.some.inj built
      exact ⟨members, parsed, field?_setMember "webhook" _ members⟩
  | _ => exact nomatch built

/-- A tenant that passes the gates one after another is let through. -/
theorem letThrough_of_passed {config : ProxyConfig} {tenants : ProxyTenants}
    {request : SubmitRequest} {endpointId : String} {answers : SubmitAnswers} {tenantId : String}
    {tenant : StudioTenant}
    (verified
      : verifyTenantProxyToken config.hmacHex config.signingKey (bearerFrom request.authorization)
        = some tenantId)
    (read : answers.tenantRead = .ok ()) (found : tenants.get? tenantId = some tenant)
    (passed : submitRefusal tenant = none)
    (allowed : isAllowedEndpoint endpointId config.poolEndpointIds = true)
    : LetThrough config tenants request endpointId answers tenant := by
  have isTenant : tenant.id = tenantId := ProxyTenants.id_of_found found
  subst isTenant
  obtain ⟨bearer, presented⟩ := mint_of_verify verified
  obtain ⟨notDeleted, notSuspended, live, shared⟩ := submitRefusal_eq_none passed
  exact ⟨bearer, presented, read, found, notDeleted, notSuspended, live, shared,
    endpoint_of_allowed allowed⟩

/-- A submit is admitted for a tenant that is let through, with a fresh callback in its body. -/
theorem letThrough_of_admitted {config : ProxyConfig} {tenants : ProxyTenants}
    {request : SubmitRequest} {endpointId : String} {answers : SubmitAnswers}
    {admitted : AdmittedSubmit}
    (isAdmitted : admitSubmit config tenants request endpointId answers = .ok admitted)
    : LetThrough config tenants request endpointId answers admitted.tenant
      ∧ CarriesCallback config request answers admitted.body
      ∧ admitted.webhookToken = mintWebhookToken answers.random := by
  rw [admitSubmit] at isAdmitted
  split at isAdmitted
  · exact nomatch isAdmitted
  · next tenantId verified =>
      split at isAdmitted
      · exact nomatch isAdmitted
      · next read =>
          split at isAdmitted
          · exact nomatch isAdmitted
          · next tenant found =>
              split at isAdmitted
              · exact nomatch isAdmitted
              · next passed =>
                  split at isAdmitted
                  · next allowed =>
                      split at isAdmitted
                      · exact nomatch isAdmitted
                      · exact nomatch isAdmitted
                      · next tenantBody key parsed credential =>
                          split at isAdmitted
                          · exact nomatch isAdmitted
                          · dsimp only at isAdmitted
                            split at isAdmitted
                            · exact nomatch isAdmitted
                            · next body built =>
                                cases Except.ok.inj isAdmitted
                                exact ⟨letThrough_of_passed verified read found passed allowed,
                                  carriesCallback_of_built parsed built, rfl⟩
                  · exact nomatch isAdmitted

-----------------------------------------------------------------------------------------
-- One submit
-----------------------------------------------------------------------------------------

/-- RunPod took the job and named it. -/
def NamesJob (answer : UpstreamAnswer) (jobId : String) : Prop :=
  answer.ok = true
  ∧ ∃ text, answer.text = .ok text
      ∧ (Json.parse text).bind (Json.field? "id") = some (.str jobId) ∧ jobId ≠ ""

/-- The row of a job is there as it was opened, under the digest of its token. -/
def Stands (index : RunpodJobIndex) (opened : ProxyJobOpen) : Prop :=
  ∃ row, index.jobs.get? opened.jobId = some row
    ∧ row.tenantId = opened.tenantId
    ∧ row.tenantSlug = opened.tenantSlug
    ∧ row.endpointId = some opened.endpointId
    ∧ row.source = some .proxy
    ∧ row.webhookTokenSha256 = some opened.webhookTokenSha256

/-- What a submit sent, opened and answered, for the tenant it is of. -/
structure SubmitExact (config : ProxyConfig) (tenants : ProxyTenants) (index : RunpodJobIndex)
    (request : SubmitRequest) (endpointId : String) (answers : SubmitAnswers) (run : SubmitRun)
    : Prop where
  once : run.posts.length ≤ 1
  gated :
    ∀ post ∈ run.posts,
      post.endpointId = endpointId
      ∧ (∃ tenant, LetThrough config tenants request endpointId answers tenant)
      ∧ CarriesCallback config request answers post.body
  answered : ∀ answer, run.answered = some answer ↔ run.posts ≠ [] ∧ answers.upstream = .ok answer
  opened :
    ∀ jobId, (∃ opened, run.opened = some opened ∧ opened.jobId = jobId)
      ↔ ∃ answer, run.answered = some answer ∧ NamesJob answer jobId
  attributed :
    ∀ opened, run.opened = some opened →
      opened.webhookTokenSha256 = config.sha256Hex (mintWebhookToken answers.random)
      ∧ opened.endpointId = endpointId
      ∧ ∃ tenant, LetThrough config tenants request endpointId answers tenant
          ∧ opened.tenantId = tenant.id ∧ opened.tenantSlug = tenant.slug
  recorded :
    ∀ opened, run.opened = some opened →
      if answers.jobWritten ∧ (index.openRunpodProxyJob answers.now opened).isSome then
        Stands run.index opened
      else run.index = index
  untouched : run.opened = none → run.index = index
  passedOn :
    ∀ answer text, run.answered = some answer → answer.text = .ok text →
      ∃ response, run.result = .ok response
        ∧ response.status = answer.status ∧ response.body = text ∧ response.refusal = none

variable {config : ProxyConfig} {tenants : ProxyTenants} {index : RunpodJobIndex}
  {request : SubmitRequest} {endpointId : String} {answers : SubmitAnswers}

/-- A job id is read off a text exactly where the text says one. -/
theorem jobIdFrom_eq_some {text jobId : String}
    : jobIdFrom text = some jobId
      ↔ (Json.parse text).bind (Json.field? "id") = some (.str jobId) ∧ jobId ≠ "" := by
  rw [jobIdFrom, Option.filter_eq_some_iff, decide_eq_true_eq]
  refine and_congr_left fun _ => ?_
  cases (Json.parse text).bind (Json.field? "id") with
  | none => simp
  | some json => cases json <;> simp [Json.text?]

/-- An open that the database takes leaves the row there. -/
theorem stands_of_taken {now : Nat} {opened : ProxyJobOpen} {next : RunpodJobIndex}
    (taken : index.openRunpodProxyJob now opened = some next)
    : Stands next opened := by
  rw [RunpodJobIndex.openRunpodProxyJob] at taken
  split at taken
  · cases Option.some.inj taken
    have written := Keyed.get?_upsert index.jobs (opened.row now) (opened.refine_jobId now)
      opened.jobId
    rw [if_pos (show opened.jobId = (opened.row now).jobId from rfl)] at written
    cases held : index.jobs.get? opened.jobId with
    | none =>
        rw [held] at written
        exact ⟨_, written, rfl, rfl, rfl, rfl, rfl⟩
    | some old =>
        rw [held] at written
        exact ⟨_, written, rfl, rfl, rfl, rfl, rfl⟩
  · exact nomatch taken

/-- The index after an open is the one with the row, or the one before. -/
theorem recorded_of_open (index : RunpodJobIndex) (answers : SubmitAnswers) (opened : ProxyJobOpen)
    : if answers.jobWritten ∧ (index.openRunpodProxyJob answers.now opened).isSome then
        Stands (indexAfterOpen index answers opened) opened
      else indexAfterOpen index answers opened = index := by
  rw [indexAfterOpen]
  cases taken : index.openRunpodProxyJob answers.now opened with
  | none => simp
  | some next =>
      by_cases written : answers.jobWritten
      · simpa [written] using stands_of_taken taken
      · simp [written]

/-- A submit that is not let through sends nothing and leaves the index as it was. -/
theorem submitExact_of_refused (result : Except String PlaneResponse)
    : SubmitExact config tenants index request endpointId answers
        { index := index, result := result } where
  once := Nat.zero_le 1
  gated post sent := absurd sent List.not_mem_nil
  answered answer := by simp
  opened jobId := by simp
  attributed opened isOpened := nomatch isOpened
  recorded opened isOpened := nomatch isOpened
  untouched _ := rfl
  passedOn answer text isAnswered := nomatch isAnswered

/-- The gate of the one POST of an admitted submit. -/
theorem gated_of_admitted {admitted : AdmittedSubmit}
    (isAdmitted : admitSubmit config tenants request endpointId answers = .ok admitted)
    : ∀ post ∈ [UpstreamPost.mk endpointId admitted.key admitted.body],
        post.endpointId = endpointId
        ∧ (∃ tenant, LetThrough config tenants request endpointId answers tenant)
        ∧ CarriesCallback config request answers post.body := by
  intro post sent
  obtain ⟨letThrough, carries, -⟩ := letThrough_of_admitted isAdmitted
  rw [List.mem_singleton.mp sent]
  exact ⟨rfl, ⟨admitted.tenant, letThrough⟩, carries⟩

/-- A job is opened where the answer names it. -/
theorem opened_iff_namesJob {admitted : AdmittedSubmit} {answer : UpstreamAnswer} {text : String}
    (isText : answer.text = .ok text) (jobId : String)
    : (∃ opened, openOf config request endpointId answers admitted answer text = some opened
          ∧ opened.jobId = jobId)
      ↔ ∃ again, some answer = some again ∧ NamesJob again jobId := by
  rw [openOf]
  constructor
  · intro h
    obtain ⟨opened, isOpened, rfl⟩ := h
    split at isOpened
    · next accepted =>
        obtain ⟨jobId, isNamed, rfl⟩ := Option.map_eq_some_iff.mp isOpened
        exact ⟨answer, rfl, accepted, text, isText, jobIdFrom_eq_some.mp isNamed⟩
    · exact nomatch isOpened
  · intro h
    obtain ⟨again, same, accepted, read, isRead, named⟩ := h
    cases Option.some.inj same
    cases isText.symm.trans isRead
    rw [if_pos accepted, jobIdFrom_eq_some.mpr named]
    exact ⟨_, rfl, rfl⟩

/-- What is opened is the job of the tenant that was let through, under the token it was given. -/
theorem attributed_of_opened {admitted : AdmittedSubmit}
    (isAdmitted : admitSubmit config tenants request endpointId answers = .ok admitted)
    {answer : UpstreamAnswer} {text : String} {opened : ProxyJobOpen}
    (isOpened
      : openOf config request endpointId answers admitted answer text = some opened)
    : opened.webhookTokenSha256 = config.sha256Hex (mintWebhookToken answers.random)
      ∧ opened.endpointId = endpointId
      ∧ ∃ tenant, LetThrough config tenants request endpointId answers tenant
          ∧ opened.tenantId = tenant.id ∧ opened.tenantSlug = tenant.slug := by
  obtain ⟨letThrough, -, fresh⟩ := letThrough_of_admitted isAdmitted
  rw [openOf] at isOpened
  split at isOpened
  · obtain ⟨jobId, -, rfl⟩ := Option.map_eq_some_iff.mp isOpened
    exact ⟨congrArg config.sha256Hex fresh, rfl, admitted.tenant, letThrough, rfl, rfl⟩
  · exact nomatch isOpened

/-- A submit of a shared tenant is sent on, and the job that RunPod names is opened. -/
example
    : let run :=
        handleProxySubmit
          { hmacHex := fun _ _ => "a9", sha256Hex := id, signingKey := some "key"
            callbackBase := "https://plane/hook/", poolEndpointIds := [] }
          (Keyed.singleton
            { id := "ten_1", slug := "film", accountId := "acc_1", status := .live
              runpodMode := "shared" })
          ⟨Keyed.empty, fun _ member => absurd member List.not_mem_nil⟩
          { authorization := some "Bearer vjp1.ten_1.a9", moduleName := none
            json := some (.object []) }
          "wan-2-6-i2v"
          { tenantRead := .ok (), runpodApiKey := .ok "key", random := fun _ => [171]
            upstream :=
              .ok
                { status := 200, isFinal := by decide, contentType := none
                  text := .ok (Json.object [("id", .str "job_1")]).stringify }
            nowMs := 5, now := 5, jobWritten := true }
      run.posts.map UpstreamPost.endpointId = ["wan-2-6-i2v"]
      ∧ run.opened.map ProxyJobOpen.webhookTokenSha256 = some "ab"
      ∧ (run.index.jobs.get? "job_1").isSome := by
  decide +kernel

end ControlPlane.RunpodProxy
