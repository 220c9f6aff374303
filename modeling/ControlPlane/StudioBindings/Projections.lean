import ControlPlane.StudioBindings.Writers

/-! What one call of a writer does to a studio's bindings, name by name, and what a provision under
the same config and record binds under the names it projects.
-/

namespace ControlPlane.StudioBindings

open ControlPlane.Library
open ControlPlane.Provision
open ControlPlane.Workers

variable (normalised : ByteCounts)

-----------------------------------------------------------------------------------------
-- The values of the projected variables
-----------------------------------------------------------------------------------------

theorem plainTextOf_values (name : String) (text : Option String)
    : ValuesOf [name] (plainTextOf name text) where
  declares binding member := by
    obtain ⟨value, -, rfl⟩ := List.mem_map.mp member
    exact BindingType.noConfusion
  named binding member := by
    obtain ⟨value, -, rfl⟩ := List.mem_map.mp member
    exact List.mem_singleton_self name

theorem storageQuota_values (bytes mode : Option String)
    : ValuesOf storageQuotaVars (storageQuotaBindings bytes mode) where
  declares binding member := by
    rcases List.mem_append.mp member with first | second
    · exact (plainTextOf_values _ _).declares binding first
    · exact (plainTextOf_values _ _).declares binding second
  named binding member := by
    rcases List.mem_append.mp member with first | second
    · exact List.mem_cons.mpr (.inl (List.mem_singleton.mp ((plainTextOf_values _ _).named _ first)))
    · exact List.mem_cons_of_mem _ ((plainTextOf_values _ _).named _ second)

theorem doors_values (doors : MediaDoorUrls) : ValuesOf doors.names doors.bindings where
  declares binding member := by
    obtain ⟨door, -, rfl⟩ := List.mem_map.mp member
    exact BindingType.noConfusion
  named binding member := by
    obtain ⟨door, among, rfl⟩ := List.mem_map.mp member
    exact List.mem_map_of_mem among

theorem tierState_values (videoFinishUnreachable : Int)
    : ValuesOf [VIDEO_FINISH_TIER_STATE_VAR]
        (videoFinishTierStateBindings videoFinishUnreachable) := by
  unfold videoFinishTierStateBindings
  split
  · constructor <;> simp [WorkerBinding.type, WorkerBinding.name]
  · constructor <;> simp

/-- The doors a plane has are known doors. -/
theorem MediaDoorUrls.mem_mediaDoorNames {doors : MediaDoorUrls} {name : String}
    (member : name ∈ doors.names)
    : name ∈ mediaDoorNames :=
  doors.known.subset member

section Values

variable {config : PlaneConfig} {tenant : StudioTenant} {name : String}

theorem projected_storageQuota (own : name ∈ storageQuotaVars)
    : declared (projectedBindings normalised config tenant) name
      = declared
          (storageQuotaBindings
            (resolveStorageQuota normalised config.storageQuota tenant.quotaRow).bytes
            config.storageQuota.mode)
          name := by
  have apart
      : ∀ var ∈ storageQuotaVars,
          var ∉ mediaDoorNames ∧ var ∉ [VIDEO_FINISH_TIER_STATE_VAR]
          ∧ var ∉ [ABUSE_REPORT_URL_VAR] := by
    decide
  obtain ⟨noDoor, noTier, noUrl⟩ := apart name own
  rw [projectedBindings, declared_append, declared_append, declared_append,
    (doors_values _).elsewhere fun member => noDoor (MediaDoorUrls.mem_mediaDoorNames member),
    (tierState_values _).elsewhere noTier, abuseReportUrlBindings,
    (plainTextOf_values _ _).elsewhere noUrl]
  simp only [Option.or_none]

theorem projected_door (own : name ∈ mediaDoorNames)
    : declared (projectedBindings normalised config tenant) name
      = declared config.mediaDoorUrls.bindings name := by
  have apart
      : ∀ var ∈ mediaDoorNames,
          var ∉ storageQuotaVars ∧ var ∉ [VIDEO_FINISH_TIER_STATE_VAR]
          ∧ var ∉ [ABUSE_REPORT_URL_VAR] := by
    decide
  obtain ⟨noQuota, noTier, noUrl⟩ := apart name own
  rw [projectedBindings, declared_append, declared_append, declared_append,
    (storageQuota_values _ _).elsewhere noQuota, (tierState_values _).elsewhere noTier,
    abuseReportUrlBindings, (plainTextOf_values _ _).elsewhere noUrl]
  simp only [Option.none_or, Option.or_none]

theorem projected_tierState
    : declared (projectedBindings normalised config tenant) VIDEO_FINISH_TIER_STATE_VAR
      = declared (videoFinishTierStateBindings tenant.videoFinishUnreachable)
          VIDEO_FINISH_TIER_STATE_VAR := by
  have noDoor : VIDEO_FINISH_TIER_STATE_VAR ∉ config.mediaDoorUrls.names :=
    fun member => absurd (MediaDoorUrls.mem_mediaDoorNames member) (by decide)
  rw [projectedBindings, declared_append, declared_append, declared_append,
    (storageQuota_values _ _).elsewhere (by decide), (doors_values _).elsewhere noDoor,
    abuseReportUrlBindings, (plainTextOf_values _ _).elsewhere (by decide)]
  simp only [Option.none_or, Option.or_none]

theorem projected_abuseReportUrl
    : declared (projectedBindings normalised config tenant) ABUSE_REPORT_URL_VAR
      = declared (abuseReportUrlBindings config.abuseReportUrl) ABUSE_REPORT_URL_VAR := by
  have noDoor : ABUSE_REPORT_URL_VAR ∉ config.mediaDoorUrls.names :=
    fun member => absurd (MediaDoorUrls.mem_mediaDoorNames member) (by decide)
  rw [projectedBindings, declared_append, declared_append, declared_append,
    (storageQuota_values _ _).elsewhere (by decide), (doors_values _).elsewhere noDoor,
    (tierState_values _).elsewhere (by decide)]
  simp only [Option.none_or]

/-- Nothing else has a projected value. -/
theorem projected_elsewhere (other : name ∉ projectedVars)
    : declared (projectedBindings normalised config tenant) name = none := by
  have quota : name ∉ storageQuotaVars := fun member =>
    other (List.mem_append_left _ (List.mem_append_left _ member))
  have doors : name ∉ config.mediaDoorUrls.names := fun member =>
    other (List.mem_append_left _
      (List.mem_append_right _ (MediaDoorUrls.mem_mediaDoorNames member)))
  have last : name ∉ [VIDEO_FINISH_TIER_STATE_VAR, ABUSE_REPORT_URL_VAR] := fun member =>
    other (List.mem_append_right _ member)
  simp only [List.mem_cons, List.not_mem_nil, or_false, not_or] at last
  rw [projectedBindings, declared_append, declared_append, declared_append,
    (storageQuota_values _ _).elsewhere quota, (doors_values _).elsewhere doors,
    (tierState_values _).elsewhere (by simpa using last.1), abuseReportUrlBindings,
    (plainTextOf_values _ _).elsewhere (by simpa using last.2)]
  rfl

/-- What a provision uploads under a projected variable is its projected value: everything else it
uploads has another name.
-/
theorem declared_provisioned (parts : StudioParts) (projected : name ∈ projectedVars)
    : declared (provisionedBindings normalised config tenant parts) name
      = declared (projectedBindings normalised config tenant) name := by
  have apart : ∀ var ∈ projectedVars, var ∉ otherStudioNames := by
    decide
  have elsewhere
      : ∀ bindings : List WorkerBinding,
          (∀ binding ∈ bindings, binding.name ∈ otherStudioNames)
          → declared bindings name = none := by
    intro bindings named
    refine declared_eq_none fun member => apart name projected ?_
    obtain ⟨binding, among, same⟩ := List.mem_map.mp member
    exact same ▸ named binding among
  have endpoints
      : declared (parts.endpoints.map fun endpoint => .plainText endpoint.endpointVar endpoint.id)
          name
        = none := by
    refine elsewhere _ fun binding member => ?_
    obtain ⟨endpoint, among, rfl⟩ := List.mem_map.mp member
    exact List.mem_append_right _ (parts.planned endpoint among)
  have ceiling : declared (plainTextOf "SPEND_DAILY_CEILING" config.spendDailyCeiling) name = none :=
    elsewhere _ fun binding member => by
      rw [List.mem_singleton.mp ((plainTextOf_values _ _).named binding member)]
      decide
  have gateway
      : declared (gatewayBindings config.aiGatewayId parts.studioAigTokenValue) name = none := by
    unfold gatewayBindings
    split
    · exact elsewhere _ (by simp [WorkerBinding.name, otherStudioNames])
    · rfl
  unfold provisionedBindings projectedBindings
  simp only [declared_append, endpoints, ceiling, gateway, Option.or_none]
  rw [elsewhere _ (by simp [WorkerBinding.name, otherStudioNames]),
    elsewhere _ (by simp [WorkerBinding.name, otherStudioNames]),
    elsewhere [.ai "AI"] (by simp [WorkerBinding.name, otherStudioNames])]
  simp only [Option.none_or, Option.or_none, Option.or_assoc]

end Values

-----------------------------------------------------------------------------------------
-- What one call does
-----------------------------------------------------------------------------------------

/-- The variables a call projects. -/
def WriterCall.projects (config : PlaneConfig) : WriterCall → List String
  | .upgradeTenantStudio _ _ =>
      [VIDEO_FINISH_TIER_STATE_VAR] ++ [ABUSE_REPORT_URL_VAR] ++ storageQuotaVars
  | .applyStorageQuota _ _ => storageQuotaVars
  | .applyAbuseReportUrl _ => [ABUSE_REPORT_URL_VAR]
  | .applyVideoFinishTierState _ _ => [VIDEO_FINISH_TIER_STATE_VAR]
  | .refreshTenantStudioBindings => config.mediaDoorUrls.names
  | .detachTenantStudioBinding => [VIDEO_FINISH_TIER_STATE_VAR]

/-- The values it gives them, under the row it leaves. -/
def WriterCall.values (config : PlaneConfig) (tenant : StudioTenant)
    : WriterCall → List WorkerBinding
  | .upgradeTenantStudio _ _ =>
      videoFinishTierStateBindings tenant.videoFinishUnreachable
      ++ abuseReportUrlBindings config.abuseReportUrl
      ++ storageQuotaBindings
          (resolveStorageQuota normalised config.storageQuota tenant.quotaRow).bytes
          config.storageQuota.mode
  | .applyStorageQuota _ _ =>
      storageQuotaBindings (resolveStorageQuota normalised config.storageQuota tenant.quotaRow).bytes
        none
  | .applyAbuseReportUrl _ => abuseReportUrlBindings config.abuseReportUrl
  | .applyVideoFinishTierState _ _ | .detachTenantStudioBinding =>
      videoFinishTierStateBindings tenant.videoFinishUnreachable
  | .refreshTenantStudioBindings => config.mediaDoorUrls.bindings

/-- The binding of the tier is taken off by two of the writers. -/
def WriterCall.removes : WriterCall → List String
  | .refreshTenantStudioBindings | .detachTenantStudioBinding => [VIDEO_FINISH_BINDING]
  | _ => []

/-- An upgrade declares the assets it ships. -/
def WriterCall.declaresAssets : WriterCall → Prop
  | .upgradeTenantStudio _ _ => True
  | _ => False

/-- A script has a binding that serves assets. -/
def HasAssets (script : ScriptBindings) : Prop :=
  ∃ binding ∈ script.rows, binding.type = .assets

instance (call : WriterCall) : Decidable call.declaresAssets := by
  unfold WriterCall.declaresAssets; split <;> infer_instance

instance (script : ScriptBindings) : Decidable (HasAssets script) :=
  inferInstanceAs (Decidable (∃ binding ∈ script.rows, binding.type = .assets))

/-- The names that the plane gives a meaning to. -/
def ownNames : List String :=
  VIDEO_FINISH_BINDING :: projectedVars

/-- A script that holds none of the plane's own names as a secret. -/
def Unhidden (script : ScriptBindings) : Prop :=
  ∀ name ∈ ownNames, ∀ held, script.get? name = some held → held.type ≠ .secretText

section Calls

variable {config : PlaneConfig} {tenant : StudioTenant} {script : ScriptBindings} {name : String}

/-- What a call shows under a name afterwards. -/
def WriterCall.shows (config : PlaneConfig) (tenant : StudioTenant) (script : ScriptBindings)
    (name : String) (call : WriterCall)
    : Option WorkerBinding :=
  if name ∈ call.projects config then
    declared (call.values normalised config (call.recorded tenant)) name
  else if name ∈ call.removes then none
  else if call.declaresAssets ∧ ¬HasAssets script ∧ name = "ASSETS" then some (.assets "ASSETS")
  else script.get? name

/-- A binding of the assets type is its name. -/
theorem eq_assets {binding : WorkerBinding} (serves : binding.type = .assets)
    : binding = .assets binding.name := by
  cases binding <;> first | rfl | exact BindingType.noConfusion serves

/-- An upgrade keeps the assets binding that is there, and declares one where none is. -/
theorem get?_after_assets
    : (script.after
        (inheritAllBut [assetsBindingName (getScriptBindings script)] (getScriptBindings script)
          ++ [.assets (assetsBindingName (getScriptBindings script))])).get? name
      = if ¬HasAssets script ∧ name = "ASSETS" then some (.assets "ASSETS")
        else script.get? name := by
  have derives : ∀ assets, ValuesOf [assets] [.assets assets] := by
    intro assets
    constructor <;> simp [WorkerBinding.type, WorkerBinding.name]
  have declares : ∀ assets, declared [.assets assets] assets = some (.assets assets) := by
    intro assets
    simp [declared, WorkerBinding.type, WorkerBinding.name]
  rw [inheritAllBut_append]
  by_cases here : name = assetsBindingName (getScriptBindings script)
  · rw [here, get?_after_rederive_of_declared (List.mem_singleton_self _) (declares _)]
    cases found : (getScriptBindings script).find? fun entry => entry.type = .assets with
    | none =>
        have bare : ¬HasAssets script := by
          intro h
          obtain ⟨binding, member, serves⟩ := h
          have entry := List.find?_eq_none.mp found _ (List.mem_map_of_mem member)
          simp [serves] at entry
        have fallback : assetsBindingName (getScriptBindings script) = "ASSETS" := by
          rw [assetsBindingName, found]
          rfl
        rw [fallback, if_pos ⟨bare, rfl⟩]
    | some entry =>
        obtain ⟨binding, member, same⟩ := List.mem_map.mp (List.mem_of_find?_eq_some found)
        have serves : binding.type = .assets := by
          simpa [← same] using List.find?_some found
        have named : assetsBindingName (getScriptBindings script) = binding.name := by
          rw [assetsBindingName, found, ← same]
          rfl
        have has : HasAssets script := ⟨binding, member, serves⟩
        rw [named, if_neg fun both => both.1 has, Keyed.get?_of_mem member, eq_assets serves]
        rfl
  · rw [get?_after_rederive_of_not_mem (derives _) (by simpa using here),
      get?_after_inheritAllBut (by simpa using here)]
    refine (if_neg ?_).symm
    intro h
    obtain ⟨bare, rfl⟩ := h
    refine here ?_
    have nothing : (getScriptBindings script).find? (fun entry => entry.type = .assets) = none := by
      refine List.find?_eq_none.mpr fun entry member serves => bare ?_
      obtain ⟨binding, among, rfl⟩ := List.mem_map.mp member
      exact ⟨binding, among, by simpa using serves⟩
    rw [assetsBindingName, nothing]
    rfl

theorem abuseReportUrl_values (url : Option String)
    : ValuesOf [ABUSE_REPORT_URL_VAR] (abuseReportUrlBindings url) :=
  plainTextOf_values _ url

theorem tierState_abuse_values (videoFinishUnreachable : Int) (url : Option String)
    : ValuesOf ([VIDEO_FINISH_TIER_STATE_VAR] ++ [ABUSE_REPORT_URL_VAR])
        (videoFinishTierStateBindings videoFinishUnreachable ++ abuseReportUrlBindings url) :=
  (tierState_values _).append (abuseReportUrl_values _)

/-- The set of an upgrade derives its three projections at once. -/
theorem upgradeBindings_eq (release : String) (reads : StudioReads Unit)
    (before : List CensusEntry)
    : upgradeBindings normalised config tenant before
      = rederive (WriterCall.projects config (.upgradeTenantStudio release reads))
          (WriterCall.values normalised config tenant (.upgradeTenantStudio release reads))
          (inheritAllBut [assetsBindingName before] before ++ [.assets (assetsBindingName before)])
      := by
  dsimp only [upgradeBindings, withStorageQuota, withAbuseReportUrl, withVideoFinishTierState]
  rw [rederive_rederive (tierState_values _) (by decide),
    rederive_rederive (tierState_abuse_values _ _) (by decide)]
  rfl

/-- The values of a call are values of what it projects. -/
theorem WriterCall.values_of (call : WriterCall)
    : ValuesOf (call.projects config) (call.values normalised config tenant) := by
  cases call with
  | upgradeTenantStudio release reads =>
      exact (tierState_abuse_values _ _).append (storageQuota_values _ _)
  | applyStorageQuota intent reads => exact storageQuota_values _ _
  | applyAbuseReportUrl reads => exact abuseReportUrl_values _
  | applyVideoFinishTierState unreachable reads => exact tierState_values _
  | refreshTenantStudioBindings => exact doors_values _
  | detachTenantStudioBinding => exact tierState_values _

/-- What a call projects are projected variables. -/
theorem WriterCall.projects_subset (call : WriterCall) (own : name ∈ call.projects config)
    : name ∈ projectedVars := by
  have quota : storageQuotaVars ⊆ projectedVars := by decide
  have doors : mediaDoorNames ⊆ projectedVars := by decide
  have tier : [VIDEO_FINISH_TIER_STATE_VAR] ⊆ projectedVars := by decide
  have url : [ABUSE_REPORT_URL_VAR] ⊆ projectedVars := by decide
  cases call with
  | upgradeTenantStudio release reads =>
      rw [WriterCall.projects] at own
      rcases List.mem_append.mp own with first | last
      · rcases List.mem_append.mp first with isTier | isUrl
        · exact tier isTier
        · exact url isUrl
      · exact quota last
  | applyStorageQuota intent reads => exact quota own
  | applyAbuseReportUrl reads => exact url own
  | applyVideoFinishTierState unreachable reads => exact tier own
  | refreshTenantStudioBindings => exact doors (MediaDoorUrls.mem_mediaDoorNames own)
  | detachTenantStudioBinding => exact tier own

/-- Only the tier's binding is ever taken off. -/
theorem WriterCall.eq_of_removes (call : WriterCall) (removed : name ∈ call.removes)
    : name = VIDEO_FINISH_BINDING := by
  cases call with
  | refreshTenantStudioBindings => exact List.mem_singleton.mp removed
  | detachTenantStudioBinding => exact List.mem_singleton.mp removed
  | upgradeTenantStudio release reads => exact absurd removed List.not_mem_nil
  | applyStorageQuota intent reads => exact absurd removed List.not_mem_nil
  | applyAbuseReportUrl reads => exact absurd removed List.not_mem_nil
  | applyVideoFinishTierState unreachable reads => exact absurd removed List.not_mem_nil

/-- What a call takes off it does not project. -/
theorem WriterCall.apart_of_removes (call : WriterCall) (removed : name ∈ call.removes)
    : name ∉ projectedVars := by
  have tierApart : VIDEO_FINISH_BINDING ∉ projectedVars := by decide
  rwa [call.eq_of_removes removed]

/-- What a call may touch is the plane's own. -/
theorem WriterCall.own_of_mem (call : WriterCall)
    (touched : name ∈ call.projects config ++ call.removes)
    : name ∈ ownNames := by
  rcases List.mem_append.mp touched with projected | removed
  · exact List.mem_cons_of_mem _ (call.projects_subset projected)
  · rw [call.eq_of_removes removed]
    exact List.mem_cons_self

theorem truthy_eq_some {text : Option String} {value : String}
    : truthy text = some value ↔ text = some value ∧ value ≠ "" := by
  simp [truthy, Option.filter_eq_some_iff]

/-- The ceiling a preflight resolves is the one of the row that the call leaves. -/
theorem preflightStorageQuota_bytes {intent : Option StorageQuotaIntent}
    {reads : StudioReads Unit} {context : StorageQuotaContext}
    (passed : preflightStorageQuota normalised config tenant intent reads = .ok context)
    : context.bytes
      = (resolveStorageQuota normalised config.storageQuota
          ((WriterCall.applyStorageQuota intent reads).recorded tenant).quotaRow).bytes := by
  have sameRow
      : ((WriterCall.applyStorageQuota intent reads).recorded tenant).quotaRow
        = rowAfter tenant intent := by
    cases intent <;> rfl
  rw [sameRow]
  unfold preflightStorageQuota at passed
  split at passed
  · cases passed
  · split at passed
    · cases passed
    · cases passed
    · dsimp only at passed
      split at passed
      · cases passed
      · split at passed
        · cases passed
        · split at passed
          · cases passed
          · cases passed
          · cases passed
            rfl

theorem preflightAbuseReportUrl_url {reads : StudioReads Unit} {context : AbuseReportUrlContext}
    (passed : preflightAbuseReportUrl config tenant reads = .ok context)
    : config.abuseReportUrl = some context.url := by
  unfold preflightAbuseReportUrl at passed
  split at passed
  · cases passed
  · split at passed
    · cases passed
    · cases passed
    · next named url =>
        split at passed
        · cases passed
        · split at passed
          · cases passed
            exact (truthy_eq_some.mp url).1
          · cases passed

/-- What a passing preflight lets through comes of what it found. -/
theorem sent_of_passed {α β : Type} {checked : Except WriterRefusal α} {build : α → β} {sent : β}
    (mapped : checked.map build = .ok sent)
    : ∃ found, checked = .ok found ∧ build found = sent := by
  cases checked with
  | error refusal => cases mapped
  | ok found => exact ⟨found, rfl, Except.ok.inj mapped⟩

/-- A refresh sets the doors that the plane has, and takes the tier's binding off. -/
theorem get?_after_refresh {doors : MediaDoorUrls}
    (plain
      : ∀ var ∈ VIDEO_FINISH_BINDING :: doors.names, ∀ held, script.get? var = some held
        → held.type ≠ .secretText)
    : (script.after (refreshSettings doors (getScriptBindings script))).get? name
      = if name ∈ doors.names then declared doors.bindings name
        else if name = VIDEO_FINISH_BINDING then none
        else script.get? name := by
  have derives : ValuesOf (VIDEO_FINISH_BINDING :: doors.names) doors.bindings :=
    ⟨(doors_values doors).declares,
      fun binding member => List.mem_cons_of_mem _ ((doors_values doors).named binding member)⟩
  rw [refreshSettings, inheritAllBut_append, get?_after_patch derives fun var touched =>
    plain var ((List.mem_append.mp touched).elim id id)]
  by_cases isDoor : name ∈ doors.names
  · rw [if_pos isDoor, if_pos (List.mem_cons_of_mem _ isDoor)]
  · rw [if_neg isDoor]
    by_cases isTier : name = VIDEO_FINISH_BINDING
    · rw [if_pos isTier, isTier, if_pos List.mem_cons_self]
      exact (doors_values doors).elsewhere (isTier ▸ isDoor)
    · simp [isTier, isDoor]

/-- A call that is not refused shows what it is to show under every name. -/
theorem WriterCall.get?_sent {call : WriterCall} {desired : List WorkerBinding}
    (unhidden : Unhidden script)
    (sent : call.sends normalised config tenant (getScriptBindings script) = .ok desired)
    : (script.after desired).get? name = call.shows normalised config tenant script name := by
  have plain
      : ∀ var ∈ call.projects config ++ call.removes, ∀ held, script.get? var = some held
        → held.type ≠ .secretText :=
    fun var touched => unhidden var (call.own_of_mem touched)
  have derives := @WriterCall.values_of normalised config (call.recorded tenant) call
  unfold WriterCall.shows
  cases call with
  | upgradeTenantStudio release reads =>
      obtain ⟨context, -, rfl⟩ := sent_of_passed sent
      rw [upgradeBindings_eq normalised release reads]
      by_cases own : name ∈ WriterCall.projects config (.upgradeTenantStudio release reads)
      · rw [if_pos own]
        exact get?_after_rederive_of_mem derives own (plain name (List.mem_append_left _ own))
      · rw [if_neg own]
        refine (get?_after_rederive_of_not_mem derives own).trans (get?_after_assets.trans ?_)
        simp [WriterCall.declaresAssets, WriterCall.removes]
  | applyStorageQuota intent reads =>
      obtain ⟨context, passed, rfl⟩ := sent_of_passed sent
      have bytes := preflightStorageQuota_bytes normalised passed
      simp only [storageQuotaSettings, withStorageQuota, bytes]
      refine (get?_after_patch derives plain name).trans ?_
      simp [WriterCall.declaresAssets, WriterCall.removes]
  | applyAbuseReportUrl reads =>
      obtain ⟨context, passed, rfl⟩ := sent_of_passed sent
      have url := preflightAbuseReportUrl_url passed
      simp only [abuseReportUrlSettings, withAbuseReportUrl, ← url]
      refine (get?_after_patch derives plain name).trans ?_
      simp [WriterCall.declaresAssets, WriterCall.removes]
  | applyVideoFinishTierState unreachable reads =>
      obtain ⟨context, -, rfl⟩ := sent_of_passed sent
      refine (get?_after_patch derives plain name).trans ?_
      simp [WriterCall.declaresAssets, WriterCall.removes]
  | refreshTenantStudioBindings =>
      obtain ⟨context, -, rfl⟩ := sent_of_passed sent
      have plainHere
          : ∀ var ∈ VIDEO_FINISH_BINDING :: config.mediaDoorUrls.names, ∀ held,
              script.get? var = some held → held.type ≠ .secretText := by
        intro var touched
        refine plain var (List.mem_append.mpr ?_)
        rcases List.mem_cons.mp touched with isTier | isDoor
        · exact .inr (List.mem_singleton.mpr isTier)
        · exact .inl isDoor
      refine (get?_after_refresh plainHere).trans ?_
      simp [WriterCall.projects, WriterCall.values, WriterCall.removes, WriterCall.declaresAssets]
  | detachTenantStudioBinding =>
      obtain ⟨context, -, rfl⟩ := sent_of_passed sent
      refine (get?_after_patch derives plain name).trans ?_
      simp [WriterCall.declaresAssets, WriterCall.removes]

-----------------------------------------------------------------------------------------
-- The values a call gives
-----------------------------------------------------------------------------------------

theorem plainTextOf_type {var : String} {text : Option String} {binding : WorkerBinding}
    (member : binding ∈ plainTextOf var text)
    : binding.type = .plainText := by
  obtain ⟨value, -, rfl⟩ := List.mem_map.mp member
  rfl

theorem storageQuotaBindings_type {bytes mode : Option String} {binding : WorkerBinding}
    (member : binding ∈ storageQuotaBindings bytes mode)
    : binding.type = .plainText := by
  rcases List.mem_append.mp member with among | among
  · exact plainTextOf_type among
  · exact plainTextOf_type among

theorem tierStateBindings_type {videoFinishUnreachable : Int} {binding : WorkerBinding}
    (member : binding ∈ videoFinishTierStateBindings videoFinishUnreachable)
    : binding.type = .plainText := by
  unfold videoFinishTierStateBindings at member
  split at member
  · rw [List.mem_singleton.mp member]
    rfl
  · exact absurd member List.not_mem_nil

/-- Every value is a plain text. -/
theorem WriterCall.values_type {call : WriterCall} {binding : WorkerBinding}
    (member : binding ∈ call.values normalised config tenant)
    : binding.type = .plainText := by
  cases call with
  | upgradeTenantStudio release reads =>
      rcases List.mem_append.mp member with first | among
      · rcases List.mem_append.mp first with among | among
        · exact tierStateBindings_type among
        · exact plainTextOf_type among
      · exact storageQuotaBindings_type among
  | applyStorageQuota intent reads => exact storageQuotaBindings_type member
  | applyAbuseReportUrl reads => exact plainTextOf_type member
  | applyVideoFinishTierState unreachable reads => exact tierStateBindings_type member
  | refreshTenantStudioBindings =>
      obtain ⟨door, -, rfl⟩ := List.mem_map.mp member
      rfl
  | detachTenantStudioBinding => exact tierStateBindings_type member

/-- The variable whose value a call does not derive although it drops it: the mode of a plane that
meters, in applyStorageQuota.
-/
def WriterCall.strips (config : PlaneConfig) : WriterCall → List String
  | .applyStorageQuota _ _ =>
      if truthy config.storageQuota.mode = none then [] else [STORAGE_QUOTA_MODE_VAR]
  | _ => []

/-- Without a mode the ceiling is bound as with one, and so is the mode itself where there is none. -/
theorem storageQuotaBindings_without_mode {bytes mode : Option String}
    (apart : name = STORAGE_QUOTA_MODE_VAR → truthy mode = none)
    : declared (storageQuotaBindings bytes none) name
      = declared (storageQuotaBindings bytes mode) name := by
  unfold storageQuotaBindings
  rw [declared_append, declared_append]
  by_cases isMode : name = STORAGE_QUOTA_MODE_VAR
  · simp only [plainTextOf, apart isMode]
    rfl
  · rw [(plainTextOf_values _ none).elsewhere (by simpa using isMode),
      (plainTextOf_values _ mode).elsewhere (by simpa using isMode)]

/-- A call gives a variable its projected value, unless it strips it. -/
theorem WriterCall.values_eq_projected {call : WriterCall} (own : name ∈ call.projects config)
    (derived : name ∉ call.strips config)
    : declared (call.values normalised config tenant) name
      = declared (projectedBindings normalised config tenant) name := by
  have isTier (member : name ∈ [VIDEO_FINISH_TIER_STATE_VAR])
      : declared (videoFinishTierStateBindings tenant.videoFinishUnreachable) name
        = declared (projectedBindings normalised config tenant) name := by
    rw [List.mem_singleton.mp member, projected_tierState]
  have isUrl (member : name ∈ [ABUSE_REPORT_URL_VAR])
      : declared (abuseReportUrlBindings config.abuseReportUrl) name
        = declared (projectedBindings normalised config tenant) name := by
    rw [List.mem_singleton.mp member, projected_abuseReportUrl]
  cases call with
  | upgradeTenantStudio release reads =>
      rw [WriterCall.values, declared_append, declared_append]
      by_cases quota : name ∈ storageQuotaVars
      · have apart
            : ∀ var ∈ storageQuotaVars,
                var ∉ [VIDEO_FINISH_TIER_STATE_VAR] ∧ var ∉ [ABUSE_REPORT_URL_VAR] := by
          decide
        rw [(tierState_values _).elsewhere (apart name quota).1,
          (abuseReportUrl_values _).elsewhere (apart name quota).2,
          projected_storageQuota normalised quota]
        rfl
      · rw [(storageQuota_values _ _).elsewhere quota, Option.or_none]
        rcases List.mem_append.mp own with first | last
        · rcases List.mem_append.mp first with tier | url
          · have apart : name ∉ [ABUSE_REPORT_URL_VAR] := by
              rw [List.mem_singleton.mp tier]
              decide
            rw [(abuseReportUrl_values _).elsewhere apart, Option.or_none, isTier tier]
          · have apart : name ∉ [VIDEO_FINISH_TIER_STATE_VAR] := by
              rw [List.mem_singleton.mp url]
              decide
            rw [(tierState_values _).elsewhere apart, Option.none_or, isUrl url]
        · exact absurd last quota
  | applyStorageQuota intent reads =>
      rw [projected_storageQuota normalised own]
      refine storageQuotaBindings_without_mode fun isMode => ?_
      by_contra meters
      refine derived ?_
      rw [WriterCall.strips, if_neg meters]
      exact List.mem_singleton.mpr isMode
  | applyAbuseReportUrl reads => exact isUrl own
  | applyVideoFinishTierState unreachable reads => exact isTier own
  | refreshTenantStudioBindings =>
      exact (projected_door normalised (MediaDoorUrls.mem_mediaDoorNames own)).symm
  | detachTenantStudioBinding => exact isTier own

/-- What holds of plain texts and of everything held under the plane's own names holds of that after
a call.
-/
theorem WriterCall.ownTypes_kept (P : BindingType → Prop) {call : WriterCall}
    {desired : List WorkerBinding} (plain : P .plainText) (unhidden : Unhidden script)
    (before : ∀ var ∈ ownNames, ∀ held, script.get? var = some held → P held.type)
    (sent : call.sends normalised config tenant (getScriptBindings script) = .ok desired)
    : ∀ var ∈ ownNames, ∀ held, (script.after desired).get? var = some held → P held.type := by
  intro var own held found
  rw [WriterCall.get?_sent normalised unhidden sent, WriterCall.shows] at found
  split at found
  · rw [WriterCall.values_type normalised (List.mem_of_find?_eq_some found)]
    exact plain
  · split at found
    · cases found
    · split at found
      · next assets =>
          have noOwn : "ASSETS" ∉ ownNames := by decide
          exact absurd (assets.2.2 ▸ own) noOwn
      · exact before var own held found

end Calls

end ControlPlane.StudioBindings
