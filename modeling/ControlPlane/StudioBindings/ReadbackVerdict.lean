import ControlPlane.StudioBindings.Convergence
import ControlPlane.StudioBindings.Readback
import ControlPlane.StudioUpgrade.Truth

/-! When a readback tells the truth. A name that was there and is not is a shortfall to all four
writers, although three of them may drop a projected variable on purpose. Only the tier's
writer leaves its own variable out of the comparison.
-/

namespace ControlPlane.StudioBindings

open ControlPlane.Library
open ControlPlane.Migrations
open ControlPlane.Store
open ControlPlane.StudioUpgrade
open ControlPlane.Workers

variable {ν : Type} [DecidableEq ν] (number : String → ν) (normalised : ByteCounts)

-----------------------------------------------------------------------------------------
-- What a write is promised, and what it promises
-----------------------------------------------------------------------------------------

/-- The platform applied a set exactly: what it declares is bound, what it inherits is kept, and of
the rest the secrets; and it kept all secrets.
-/
structure AppliedExactly (desired : List WorkerBinding) (before after : Census) : Prop where
  bindings
    : ∀ name,
        name ∈ names after.bindings
        ↔ (∃ binding ∈ desired, binding.type ≠ .inherit ∧ binding.name = name)
          ∨ ∃ entry ∈ before.bindings,
              entry.name = name ∧ (.inherit name ∈ desired ∨ entry.type = .secretText)
  secrets : ∀ name, name ∈ after.secrets ↔ name ∈ before.secrets

/-- Within the budget of a confirm, some reading says what it should. -/
def Confirms {ρ : Type} (wanted : ρ → Prop) (probeStarted : Int) (readings : List (ρ × Int))
    : Prop :=
  ∃ early reading now later, readings = early ++ (reading, now) :: later ∧ wanted reading
    ∧ ∀ earlier ∈ early, earlier.2 - probeStarted + READBACK_PROBE_MS ≤ READBACK_BUDGET_MS

/-- The studio serves, and says what is bound. -/
def ReadbackWrite.Reported (studio : StudioAnswers ν) : ReadbackWrite → Prop
  | .upgradeTenantStudio => studio.servingStatus < 500
  | .applyStorageQuota context =>
      Confirms (fun reading => reading = .read (context.bytes.map number)) studio.probeStarted
        studio.storage
  | .applyAbuseReportUrl context =>
      Confirms (fun served => served = some context.url) studio.probeStarted studio.abuseReportUrl
  | .applyVideoFinishTierState _ => True

/-- The variables that a write projects. -/
def ReadbackWrite.projects : ReadbackWrite → List String
  | .upgradeTenantStudio => [VIDEO_FINISH_TIER_STATE_VAR] ++ [ABUSE_REPORT_URL_VAR] ++ storageQuotaVars
  | .applyStorageQuota _ => storageQuotaVars
  | .applyAbuseReportUrl _ => [ABUSE_REPORT_URL_VAR]
  | .applyVideoFinishTierState _ => [VIDEO_FINISH_TIER_STATE_VAR]

/-- A write removes a variable on purpose: it projects it, and the set it sends does not name it. -/
def ReadbackWrite.Removes (config : PlaneConfig) (tenant : StudioTenant)
    (before : List CensusEntry) (write : ReadbackWrite) (name : String)
    : Prop :=
  name ∈ write.projects
  ∧ name ∉ (write.desired normalised config tenant before).map WorkerBinding.name

instance (config : PlaneConfig) (tenant : StudioTenant) (before : List CensusEntry)
    (write : ReadbackWrite) (name : String)
    : Decidable (write.Removes normalised config tenant before name) :=
  inferInstanceAs
    (Decidable
      (name ∈ write.projects
        ∧ name ∉ (write.desired normalised config tenant before).map WorkerBinding.name))

/-- Something that the write did not remove on purpose is gone. -/
def ReadbackWrite.Loses (config : PlaneConfig) (tenant : StudioTenant) (before after : Census)
    (write : ReadbackWrite)
    : Prop :=
  (∃ name ∈ names before.bindings,
      ¬write.Removes normalised config tenant before.bindings name ∧ name ∉ names after.bindings)
  ∨ ∃ name ∈ before.secrets, name ∉ after.secrets

/-- The verdict on a write is exact. -/
structure VerdictExact (config : PlaneConfig) (tenant : StudioTenant) (before : Census)
    (write : ReadbackWrite)
    : Prop where
  whole
    : ∀ after (studio : StudioAnswers ν),
        AppliedExactly (write.desired normalised config tenant before.bindings) before after
        → write.Reported number studio → write.ok number before after studio = some true
  lost
    : ∀ after (studio : StudioAnswers ν),
        write.Loses normalised config tenant before after
        → write.ok number before after studio ≠ some true

/-- Each census name that a write removes on purpose is held as a secret, which stays. -/
def ReadbackWrite.DropsNothing (config : PlaneConfig) (tenant : StudioTenant)
    (before : List CensusEntry) (write : ReadbackWrite)
    : Prop :=
  ∀ name ∈ names before, write.Removes normalised config tenant before name
    → ⟨.secretText, name⟩ ∈ before

/-- The condition under which a verdict is exact: nothing that stood in the census is removed on
purpose, and what a write checks besides was not amiss before it.
-/
def ReadbackWrite.Comparable (config : PlaneConfig) (tenant : StudioTenant) (before : Census)
    : ReadbackWrite → Prop
  | .upgradeTenantStudio =>
      ReadbackWrite.DropsNothing normalised config tenant before.bindings .upgradeTenantStudio
      ∧ ∀ var ∈ REQUIRED_TENANT_STUDIO_VARS, var ∈ names before.bindings ∨ var ∈ before.secrets
  | .applyStorageQuota context =>
      ReadbackWrite.DropsNothing normalised config tenant before.bindings
          (.applyStorageQuota context)
      ∧ (context.bytes = none → STORAGE_QUOTA_VAR ∉ names before.bindings)
  | .applyAbuseReportUrl _ => True
  | .applyVideoFinishTierState unreachable =>
      unreachable = false → ⟨.secretText, VIDEO_FINISH_TIER_STATE_VAR⟩ ∉ before.bindings

-----------------------------------------------------------------------------------------
-- The parts of a verdict
-----------------------------------------------------------------------------------------

section Parts

variable {before after : Census} {own : List String}

theorem missingBindings_eq_nil
    : missingBindings own before after = []
      ↔ ∀ name ∈ names before.bindings, name ∉ own → name ∈ names after.bindings := by
  simp only [missingBindings, sortedNames, List.filter_eq_nil_iff, List.mem_filter,
    List.mem_insertionSort, decide_eq_true_eq, not_not, and_imp]

theorem missingSecrets_eq_nil
    : missingSecrets before after = [] ↔ ∀ name ∈ before.secrets, name ∈ after.secrets := by
  simp [missingSecrets, sortedNames, List.filter_eq_nil_iff, List.mem_insertionSort]

/-- An upgrade is all right when nothing is missing and the studio serves. -/
theorem upgradeTenantStudioOk_iff {servingStatus : Nat}
    : upgradeTenantStudioOk before after servingStatus = true
      ↔ (∀ name ∈ names before.bindings, name ∈ names after.bindings)
        ∧ (∀ name ∈ before.secrets, name ∈ after.secrets)
        ∧ (∀ var ∈ REQUIRED_TENANT_STUDIO_VARS, var ∈ names after.bindings ∨ var ∈ after.secrets)
        ∧ servingStatus < 500 := by
  have whole : (shortfall before.bindings after.bindings before.secrets after.secrets
        servingStatus).isNone = true
      ↔ (((sortedNames (names before.bindings)).filter fun name => name ∉ names after.bindings) = []
        ∧ ((sortedNames before.secrets).filter fun name => name ∉ after.secrets) = []
        ∧ (REQUIRED_TENANT_STUDIO_VARS.filter fun name =>
            name ∉ names after.bindings ++ after.secrets) = []
        ∧ servingStatus < 500) := by
    simp only [shortfall, names]
    split
    · next all => exact iff_of_true rfl all
    · next short => exact iff_of_false Bool.false_ne_true short
  rw [upgradeTenantStudioOk, whole]
  simp only [sortedNames, List.filter_eq_nil_iff, List.mem_insertionSort, decide_eq_true_eq,
    not_not, List.mem_append]

/-- A confirm that a studio meets within its budget ends in a current reading, by induction on the
readings before the one that is.
-/
theorem confirm_of_confirms {ρ : Type} {wanted : ρ → Prop} {current : ρ → Bool} {probeStarted : Int}
    {readings : List (ρ × Int)} (agrees : ∀ reading, wanted reading → current reading = true)
    (confirms : Confirms wanted probeStarted readings)
    : ∃ last, confirm current probeStarted readings = some last ∧ current last = true := by
  obtain ⟨early, reading, now, later, rfl, said, within⟩ := confirms
  induction early with
  | nil => exact ⟨reading, by simp [confirm, agrees reading said], agrees reading said⟩
  | cons first rest ih =>
      obtain ⟨answer, clock⟩ := first
      by_cases already : current answer = true
      · exact ⟨answer, by simp [confirm, already], already⟩
      · have inTime := within (answer, clock) List.mem_cons_self
        obtain ⟨last, confirmed, isCurrent⟩ :=
          ih fun earlier member => within earlier (List.mem_cons_of_mem _ member)
        refine ⟨last, ?_, isCurrent⟩
        rw [List.cons_append, confirm, if_neg already, if_neg (not_lt.mpr inTime)]
        exact confirmed

end Parts

-----------------------------------------------------------------------------------------
-- What an exact platform makes of a write
-----------------------------------------------------------------------------------------

section Applied

variable {desired : List WorkerBinding} {before after : Census} {name : String}

/-- What a set declares is there afterwards. -/
theorem AppliedExactly.of_declared (applied : AppliedExactly desired before after)
    {binding : WorkerBinding} (member : binding ∈ desired) (declares : binding.type ≠ .inherit)
    : binding.name ∈ names after.bindings :=
  (applied.bindings binding.name).mpr (.inl ⟨binding, member, declares, rfl⟩)

/-- What a set names is kept, inherited or declared. -/
theorem AppliedExactly.kept (applied : AppliedExactly desired before after)
    (there : name ∈ names before.bindings) (named : name ∈ desired.map WorkerBinding.name)
    : name ∈ names after.bindings := by
  obtain ⟨binding, member, rfl⟩ := List.mem_map.mp named
  by_cases inherits : binding.type = .inherit
  · obtain ⟨entry, among, same⟩ := List.mem_map.mp there
    refine (applied.bindings binding.name).mpr (.inr ⟨entry, among, same, .inl ?_⟩)
    cases binding with
    | inherit own => exact member
    | _ => exact nomatch inherits
  · exact applied.of_declared member inherits

/-- What a set does not name stays only where it is a secret. -/
theorem AppliedExactly.unnamed (applied : AppliedExactly desired before after)
    (unnamed : name ∉ desired.map WorkerBinding.name)
    : name ∈ names after.bindings ↔ ⟨.secretText, name⟩ ∈ before.bindings := by
  rw [applied.bindings]
  constructor
  · intro h
    rcases h with ⟨binding, member, -, named⟩ | ⟨entry, among, named, inherited | isSecret⟩
    · exact absurd (List.mem_map.mpr ⟨binding, member, named⟩) unnamed
    · exact absurd (List.mem_map.mpr ⟨_, inherited, rfl⟩) unnamed
    · obtain ⟨type, own⟩ := entry
      obtain rfl : own = name := named
      obtain rfl : type = .secretText := isSecret
      exact among
  · intro among
    exact .inr ⟨_, among, rfl, .inr rfl⟩

/-- A census that a platform could show after it applied a set exactly. -/
def appliedTo (desired : List WorkerBinding) (before : Census) : Census where
  bindings :=
    ((desired.filter fun binding => binding.type ≠ .inherit).map fun binding =>
      { type := binding.type, name := binding.name })
    ++ before.bindings.filter fun entry =>
      .inherit entry.name ∈ desired ∨ entry.type = .secretText
  secrets := before.secrets

theorem appliedTo_exactly (desired : List WorkerBinding) (before : Census)
    : AppliedExactly desired before (appliedTo desired before) where
  secrets _ := Iff.rfl
  bindings name := by
    rw [names, appliedTo, List.map_append, List.mem_append]
    refine or_congr ?_ ?_
    · simp only [List.map_map, List.mem_map, List.mem_filter, decide_eq_true_eq,
        Function.comp_apply, and_assoc]
    · simp only [List.mem_map, List.mem_filter, decide_eq_true_eq]
      constructor
      · intro h
        obtain ⟨entry, ⟨among, stays⟩, rfl⟩ := h
        exact ⟨entry, among, rfl, stays⟩
      · intro h
        obtain ⟨entry, among, rfl, stays⟩ := h
        exact ⟨entry, ⟨among, stays⟩, rfl⟩

end Applied

-----------------------------------------------------------------------------------------
-- The sets that are sent
-----------------------------------------------------------------------------------------

section Sent

variable {config : PlaneConfig} {tenant : StudioTenant} {before after : Census} {name : String}

/-- Deriving some variables anew keeps the other names of a list. -/
theorem mem_names_rederive {owned : List String} {values carried : List WorkerBinding}
    (other : name ∉ owned) (there : name ∈ carried.map WorkerBinding.name)
    : name ∈ (rederive owned values carried).map WorkerBinding.name := by
  obtain ⟨binding, member, rfl⟩ := List.mem_map.mp there
  refine List.mem_map.mpr ⟨binding, List.mem_append_left _ (List.mem_filter.mpr ?_), rfl⟩
  exact ⟨member, decide_eq_true other⟩

/-- Of the variables it derives anew, a list names those that have a value. -/
theorem mem_names_rederive_of_mem {owned : List String} {values carried : List WorkerBinding}
    (own : name ∈ owned)
    : name ∈ (rederive owned values carried).map WorkerBinding.name
      ↔ name ∈ values.map WorkerBinding.name := by
  rw [rederive, List.map_append, List.mem_append]
  constructor
  · intro h
    rcases h with kept | valued
    · obtain ⟨binding, member, rfl⟩ := List.mem_map.mp kept
      exact absurd own (of_decide_eq_true (List.mem_filter.mp member).2)
    · exact valued
  · exact .inr

/-- A census that is carried whole has its names. -/
theorem mem_names_inheritAllBut {left : List String} (census : List CensusEntry)
    (there : name ∈ names census) (kept : name ∉ left)
    : name ∈ (inheritAllBut left census).map WorkerBinding.name := by
  obtain ⟨entry, among, rfl⟩ := List.mem_map.mp there
  refine List.mem_map.mpr ⟨.inherit entry.name, List.mem_map.mpr ⟨entry, ?_, rfl⟩, rfl⟩
  exact List.mem_filter.mpr ⟨among, decide_eq_true kept⟩

/-- The set of an upgrade, with its three projections derived at once. -/
theorem upgradeBindings_rederives
    : upgradeBindings normalised config tenant before.bindings
      = rederive ReadbackWrite.upgradeTenantStudio.projects
          (WriterCall.values normalised config tenant (.upgradeTenantStudio "" { bundle := .ok () }))
          (inheritAllBut [assetsBindingName before.bindings] before.bindings
            ++ [.assets (assetsBindingName before.bindings)]) :=
  upgradeBindings_eq normalised "" { bundle := .ok () } before.bindings

/-- Everything that a write does not project it sends back. -/
theorem ReadbackWrite.carries (write : ReadbackWrite) (there : name ∈ names before.bindings)
    (other : name ∉ write.projects)
    : name ∈ (write.desired normalised config tenant before.bindings).map WorkerBinding.name := by
  have carried : name ∈ (inheritAllBut [] before.bindings).map WorkerBinding.name :=
    mem_names_inheritAllBut before.bindings there List.not_mem_nil
  cases write with
  | upgradeTenantStudio =>
      rw [ReadbackWrite.desired, upgradeBindings_rederives]
      refine mem_names_rederive other ?_
      rw [List.map_append, List.mem_append]
      by_cases assets : name = assetsBindingName before.bindings
      · exact .inr (List.mem_singleton.mpr assets)
      · exact .inl (mem_names_inheritAllBut _ there (by simpa using assets))
  | applyStorageQuota context => exact mem_names_rederive other carried
  | applyAbuseReportUrl context => exact mem_names_rederive other carried
  | applyVideoFinishTierState unreachable => exact mem_names_rederive other carried

/-- Under an exact platform a name is lost exactly where it is removed on purpose, and no secret. -/
theorem ReadbackWrite.kept_iff (write : ReadbackWrite)
    (applied
      : AppliedExactly (write.desired normalised config tenant before.bindings) before after)
    (there : name ∈ names before.bindings)
    : name ∈ names after.bindings
      ↔ (write.Removes normalised config tenant before.bindings name
          → ⟨.secretText, name⟩ ∈ before.bindings) := by
  by_cases named
      : name ∈ (write.desired normalised config tenant before.bindings).map WorkerBinding.name
  · exact iff_of_true (applied.kept there named) fun removed => absurd named removed.2
  · have removed : write.Removes normalised config tenant before.bindings name :=
      ⟨by_contra fun other => named (write.carries normalised there other), named⟩
    rw [applied.unnamed named]
    exact ⟨fun isSecret _ => isSecret, fun stays => stays removed⟩

/-- So nothing is missing exactly where nothing that stood there is removed on purpose. -/
theorem ReadbackWrite.all_kept_iff (write : ReadbackWrite)
    (applied
      : AppliedExactly (write.desired normalised config tenant before.bindings) before after)
    : (∀ name ∈ names before.bindings, name ∈ names after.bindings)
      ↔ write.DropsNothing normalised config tenant before.bindings :=
  forall_congr' fun _ => forall_congr' fun there => write.kept_iff normalised applied there

/-- A text that is there is bound under its name. -/
theorem plainTextOf_some {text : String} (filled : text ≠ "")
    : plainTextOf name (some text) = [.plainText name text] := by
  simp [plainTextOf, truthy, filled]

theorem plainTextOf_none : plainTextOf name none = [] := rfl

/-- The assets of an upgrade are declared on a binding that is there, or on a new one. -/
theorem assetsBindingName_cases (census : List CensusEntry)
    : assetsBindingName census ∈ names census ∨ assetsBindingName census = "ASSETS" := by
  unfold assetsBindingName
  cases found : census.find? fun entry => entry.type = .assets with
  | none => exact .inr rfl
  | some entry => exact .inl (List.mem_map_of_mem (List.mem_of_find?_eq_some found))

/-- A required variable is there after an upgrade only if it was there before. -/
theorem required_of_applied
    (applied
      : AppliedExactly (upgradeBindings normalised config tenant before.bindings) before after)
    (required : name ∈ REQUIRED_TENANT_STUDIO_VARS) (there : name ∈ names after.bindings)
    : name ∈ names before.bindings := by
  have apart
      : ∀ var ∈ REQUIRED_TENANT_STUDIO_VARS,
          var ∉ ReadbackWrite.upgradeTenantStudio.projects ∧ var ≠ "ASSETS" := by
    decide
  rcases (applied.bindings name).mp there with ⟨binding, member, declares, rfl⟩ | held
  · rw [upgradeBindings_rederives] at member
    rcases List.mem_append.mp member with kept | valued
    · rcases List.mem_append.mp (List.mem_filter.mp kept).1 with inherited | assets
      · obtain ⟨entry, -, rfl⟩ := List.mem_map.mp inherited
        exact absurd rfl declares
      · rw [List.mem_singleton.mp assets] at required ⊢
        rcases assetsBindingName_cases before.bindings with found | isNew
        · exact found
        · exact absurd isNew (apart _ required).2
    · have projected := (WriterCall.values_of normalised (.upgradeTenantStudio "" _)).named _ valued
      exact absurd projected (apart _ required).1
  · obtain ⟨entry, among, named, -⟩ := held
    exact named ▸ List.mem_map_of_mem among

/-- A verdict is the comparison of the censuses, once a confirm has ended as it should. -/
theorem map_confirm_eq_some_true {ρ : Type} {current : ρ → Bool} {probeStarted : Int}
    {readings : List (ρ × Int)} {verdict : ρ → Bool} {last : ρ}
    (confirmed : confirm current probeStarted readings = some last)
    : (confirm current probeStarted readings).map verdict = some true ↔ verdict last = true := by
  rw [confirmed, Option.map_some, Option.some_inj]

end Sent

-----------------------------------------------------------------------------------------
-- The four verdicts
-----------------------------------------------------------------------------------------

section Verdicts

variable {config : PlaneConfig} {tenant : StudioTenant} {before after : Census}
  {studio : StudioAnswers ν}

theorem upgrade_ok_iff
    (applied
      : AppliedExactly (upgradeBindings normalised config tenant before.bindings) before after)
    (serves : studio.servingStatus < 500)
    : ReadbackWrite.upgradeTenantStudio.ok number before after studio = some true
      ↔ ReadbackWrite.upgradeTenantStudio.Comparable normalised config tenant before := by
  have kept := ReadbackWrite.upgradeTenantStudio.all_kept_iff normalised applied
  rw [ReadbackWrite.ok, Option.some_inj, upgradeTenantStudioOk_iff, kept, ReadbackWrite.Comparable]
  constructor
  · intro h
    obtain ⟨drops, -, required, -⟩ := h
    refine ⟨drops, fun var isRequired => ?_⟩
    rcases required var isRequired with bound | secret
    · exact .inl (required_of_applied normalised applied isRequired bound)
    · exact .inr ((applied.secrets var).mp secret)
  · intro h
    obtain ⟨drops, required⟩ := h
    refine ⟨drops, fun name secret => (applied.secrets name).mpr secret, fun var isRequired => ?_,
      serves⟩
    rcases required var isRequired with bound | secret
    · exact .inl (kept.mpr drops var bound)
    · exact .inr ((applied.secrets var).mpr secret)

/-- The set of a lifted ceiling does not name it. -/
theorem quota_unnamed (census : List CensusEntry)
    : STORAGE_QUOTA_VAR ∉ (storageQuotaSettings none census).map WorkerBinding.name := by
  have own : STORAGE_QUOTA_VAR ∈ storageQuotaVars := List.mem_cons_self
  rw [storageQuotaSettings, withStorageQuota, mem_names_rederive_of_mem own]
  exact List.not_mem_nil

/-- A quota variable is there afterwards as it should be, unless a secret of its name stays. -/
theorem quota_bound_iff {bytes : Option String} (filled : bytes ≠ some "")
    (applied : AppliedExactly (storageQuotaSettings bytes before.bindings) before after)
    : (STORAGE_QUOTA_VAR ∈ names after.bindings ↔ bytes ≠ none)
      ↔ (bytes = none → ⟨.secretText, STORAGE_QUOTA_VAR⟩ ∉ before.bindings) := by
  cases bytes with
  | none =>
      rw [applied.unnamed (quota_unnamed before.bindings)]
      simp
  | some value =>
      have member : .plainText STORAGE_QUOTA_VAR value
          ∈ storageQuotaSettings (some value) before.bindings := by
        refine List.mem_append_right _ (List.mem_append_left _ ?_)
        rw [plainTextOf_some fun empty => filled (congrArg some empty)]
        exact List.mem_singleton_self _
      have bound := applied.of_declared member BindingType.noConfusion
      exact iff_of_true (iff_of_true bound (Option.some_ne_none value)) nofun

theorem storageQuota_ok_iff {context : StorageQuotaContext} (filled : context.bytes ≠ some "")
    (applied : AppliedExactly (storageQuotaSettings context.bytes before.bindings) before after)
    (reported : (ReadbackWrite.applyStorageQuota context).Reported number studio)
    : (ReadbackWrite.applyStorageQuota context).ok number before after studio = some true
      ↔ (ReadbackWrite.applyStorageQuota context).Comparable normalised config tenant before := by
  have ends : ∀ reading : StudioStorage ν, reading = .read (context.bytes.map number) →
      reading.isCurrent (context.bytes.map number) = true := by
    intro reading h
    obtain rfl := h
    exact decide_eq_true rfl
  obtain ⟨last, confirmed, isCurrent⟩ := confirm_of_confirms ends reported
  have served : last.served = context.bytes.map number := by
    cases last with
    | read quota => exact of_decide_eq_true isCurrent
    | unreadable => exact nomatch isCurrent
    | noReader => exact nomatch isCurrent
  have kept : (∀ name ∈ names before.bindings, name ∈ names after.bindings)
      ↔ (ReadbackWrite.applyStorageQuota context).DropsNothing normalised config tenant
          before.bindings :=
    ReadbackWrite.all_kept_iff normalised _ applied
  rw [ReadbackWrite.ok, applyStorageQuotaOk, map_confirm_eq_some_true confirmed,
    decide_eq_true_iff, missingBindings_eq_nil, missingSecrets_eq_nil,
    quota_bound_iff filled applied, ReadbackWrite.Comparable, ← kept]
  constructor
  · intro h
    obtain ⟨all, -, noSecret, -⟩ := h
    have whole := fun name there => all name there List.not_mem_nil
    refine ⟨whole, fun lifted there => noSecret lifted ?_⟩
    refine kept.mp whole STORAGE_QUOTA_VAR there ⟨List.mem_cons_self, ?_⟩
    rw [ReadbackWrite.desired, lifted]
    exact quota_unnamed before.bindings
  · intro h
    obtain ⟨whole, unbound⟩ := h
    refine ⟨fun name there _ => whole name there, fun name secret => (applied.secrets name).mpr secret,
      fun lifted isSecret => unbound lifted (List.mem_map_of_mem isSecret), served⟩

/-- The page of a plane that has one is bound, and nothing is dropped for it. -/
theorem abuseReportUrl_ok_iff {context : AbuseReportUrlContext} (filled : context.url ≠ "")
    (applied : AppliedExactly (abuseReportUrlSettings context.url before.bindings) before after)
    (reported : (ReadbackWrite.applyAbuseReportUrl context).Reported number studio)
    : (ReadbackWrite.applyAbuseReportUrl context).ok number before after studio = some true
      ↔ (ReadbackWrite.applyAbuseReportUrl context).Comparable normalised config tenant before := by
  have ends : ∀ served : Option String, served = some context.url →
      decide (served = some context.url) = true :=
    fun served said => decide_eq_true said
  obtain ⟨last, confirmed, isCurrent⟩ := confirm_of_confirms ends reported
  have member : .plainText ABUSE_REPORT_URL_VAR context.url
      ∈ abuseReportUrlSettings context.url before.bindings := by
    refine List.mem_append_right _ ?_
    rw [abuseReportUrlBindings, plainTextOf_some filled]
    exact List.mem_singleton_self _
  have drops : (ReadbackWrite.applyAbuseReportUrl context).DropsNothing normalised config tenant
      before.bindings := by
    intro name there h
    obtain ⟨own, unnamed⟩ := h
    rw [List.mem_singleton.mp own] at unnamed
    exact absurd (List.mem_map_of_mem member) unnamed
  have kept : ∀ name ∈ names before.bindings, name ∈ names after.bindings :=
    ((ReadbackWrite.applyAbuseReportUrl context).all_kept_iff normalised applied).mpr drops
  rw [ReadbackWrite.ok, applyAbuseReportUrlOk, map_confirm_eq_some_true confirmed,
    decide_eq_true_iff, missingBindings_eq_nil, missingSecrets_eq_nil]
  refine iff_of_true ⟨fun name there _ => kept name there, ?_, ?_, ?_⟩ trivial
  · exact fun name secret => (applied.secrets name).mpr secret
  · exact applied.of_declared member BindingType.noConfusion
  · exact of_decide_eq_true isCurrent

theorem videoFinishTierState_ok_iff {unreachable : Bool}
    (applied
      : AppliedExactly (videoFinishTierStateSettings unreachable before.bindings) before after)
    : (ReadbackWrite.applyVideoFinishTierState unreachable).ok number before after studio = some true
      ↔ (ReadbackWrite.applyVideoFinishTierState unreachable).Comparable normalised config tenant
          before := by
  have others : ∀ name ∈ names before.bindings, name ∉ [VIDEO_FINISH_TIER_STATE_VAR] →
      name ∈ names after.bindings := by
    intro name there other
    have kept : name ∈ names after.bindings
        ↔ ((ReadbackWrite.applyVideoFinishTierState unreachable).Removes normalised config tenant
            before.bindings name
          → ⟨.secretText, name⟩ ∈ before.bindings) :=
      ReadbackWrite.kept_iff normalised _ applied there
    exact kept.mpr fun removed => absurd removed.1 other
  have secrets : ∀ name ∈ before.secrets, name ∈ after.secrets :=
    fun name secret => (applied.secrets name).mpr secret
  rw [ReadbackWrite.ok, Option.some_inj, applyVideoFinishTierStateOk, decide_eq_true_iff,
    missingBindings_eq_nil, missingSecrets_eq_nil, ReadbackWrite.Comparable, and_iff_right others,
    and_iff_right secrets]
  cases unreachable with
  | true =>
      have member : .plainText VIDEO_FINISH_TIER_STATE_VAR VIDEO_FINISH_UNPROVISIONABLE
          ∈ videoFinishTierStateSettings true before.bindings :=
        List.mem_append_right _ (List.mem_singleton_self _)
      have bound := applied.of_declared member BindingType.noConfusion
      exact iff_of_true (iff_of_true bound rfl) fun same => by cases same
  | false =>
      have unnamed : VIDEO_FINISH_TIER_STATE_VAR
          ∉ (videoFinishTierStateSettings false before.bindings).map WorkerBinding.name := by
        rw [videoFinishTierStateSettings, withVideoFinishTierState,
          mem_names_rederive_of_mem (List.mem_singleton_self _)]
        exact List.not_mem_nil
      rw [applied.unnamed unnamed]
      simp

/-- A page that a preflight found is not empty. -/
theorem preflightAbuseReportUrl_filled {α : Type} {reads : StudioReads α}
    {context : AbuseReportUrlContext}
    (passed : preflightAbuseReportUrl config tenant reads = .ok context)
    : context.url ≠ "" := by
  unfold preflightAbuseReportUrl at passed
  split at passed
  · cases passed
  · split at passed
    · cases passed
    · cases passed
    · next named url =>
        split at passed
        · cases passed
        · split at passed
          · cases passed
            exact (truthy_eq_some.mp url).2
          · cases passed

/-- Behind an exact platform and an honest studio, a write is all right exactly where its censuses can
be compared.
-/
theorem ReadbackWrite.ok_iff {write : ReadbackWrite}
    (preflighted : write.Preflighted normalised config tenant)
    (applied
      : AppliedExactly (write.desired normalised config tenant before.bindings) before after)
    (reported : write.Reported number studio)
    : write.ok number before after studio = some true
      ↔ write.Comparable normalised config tenant before := by
  cases write with
  | upgradeTenantStudio => exact upgrade_ok_iff number normalised applied reported
  | applyStorageQuota context =>
      obtain ⟨intent, reads, -, filled⟩ := preflighted
      exact storageQuota_ok_iff number normalised filled applied reported
  | applyAbuseReportUrl context =>
      obtain ⟨reads, passed⟩ := preflighted
      exact abuseReportUrl_ok_iff number normalised (preflightAbuseReportUrl_filled passed) applied
        reported
  | applyVideoFinishTierState unreachable =>
      exact videoFinishTierState_ok_iff number normalised applied

/-- A write that lost something by no purpose of its own never says that all is well. -/
theorem ReadbackWrite.not_ok_of_loses {write : ReadbackWrite}
    (loses : write.Loses normalised config tenant before after)
    : write.ok number before after studio ≠ some true := by
  have missing (all : ∀ name ∈ names before.bindings, name ∈ names after.bindings)
      (secrets : ∀ name ∈ before.secrets, name ∈ after.secrets) : False := by
    rcases loses with ⟨name, there, -, gone⟩ | ⟨name, there, gone⟩
    · exact gone (all name there)
    · exact gone (secrets name there)
  intro good
  cases write with
  | upgradeTenantStudio =>
      obtain ⟨all, secrets, -⟩ := upgradeTenantStudioOk_iff.mp (Option.some.inj good)
      exact missing all secrets
  | applyStorageQuota context =>
      obtain ⟨last, -, verdict⟩ := Option.map_eq_some_iff.mp good
      obtain ⟨all, secrets, -⟩ := of_decide_eq_true verdict
      exact missing (fun name there => missingBindings_eq_nil.mp all name there List.not_mem_nil)
        (missingSecrets_eq_nil.mp secrets)
  | applyAbuseReportUrl context =>
      obtain ⟨last, -, verdict⟩ := Option.map_eq_some_iff.mp good
      obtain ⟨all, secrets, -⟩ := of_decide_eq_true verdict
      exact missing (fun name there => missingBindings_eq_nil.mp all name there List.not_mem_nil)
        (missingSecrets_eq_nil.mp secrets)
  | applyVideoFinishTierState unreachable =>
      obtain ⟨others, secrets, own⟩ := of_decide_eq_true (Option.some.inj good)
      rcases loses with ⟨name, there, kept, gone⟩ | ⟨name, there, gone⟩
      · by_cases isOwn : name ∈ [VIDEO_FINISH_TIER_STATE_VAR]
        · obtain rfl := List.mem_singleton.mp isOwn
          cases unreachable with
          | true => exact gone (own.mpr rfl)
          | false =>
              refine kept ⟨isOwn, ?_⟩
              rw [ReadbackWrite.desired, videoFinishTierStateSettings, withVideoFinishTierState,
                mem_names_rederive_of_mem isOwn]
              exact List.not_mem_nil
        · exact gone (missingBindings_eq_nil.mp others name there isOwn)
      · exact gone (missingSecrets_eq_nil.mp secrets name there)

/-- Answers of a studio that says at once what is bound. -/
def promptStudio (number : String → ν) : ReadbackWrite → StudioAnswers ν
  | .applyStorageQuota context =>
      { servingStatus := 200
        probeStarted := 0
        storage := [(.read (context.bytes.map number), 0)]
        abuseReportUrl := [] }
  | .applyAbuseReportUrl context =>
      { servingStatus := 200
        probeStarted := 0
        storage := []
        abuseReportUrl := [(some context.url, 0)] }
  | _ => { servingStatus := 200, probeStarted := 0, storage := [], abuseReportUrl := [] }

omit [DecidableEq ν] in
theorem promptStudio_reported (write : ReadbackWrite)
    : write.Reported number (promptStudio number write) := by
  cases write with
  | upgradeTenantStudio => exact Nat.lt_of_sub_eq_succ rfl
  | applyStorageQuota context =>
      exact ⟨[], _, 0, [], rfl, rfl, fun _ member => absurd member List.not_mem_nil⟩
  | applyAbuseReportUrl context =>
      exact ⟨[], _, 0, [], rfl, rfl, fun _ member => absurd member List.not_mem_nil⟩
  | applyVideoFinishTierState unreachable => trivial

/-- A verdict is exact precisely where its censuses can be compared. -/
theorem verdictExact_iff {write : ReadbackWrite}
    (preflighted : write.Preflighted normalised config tenant)
    : VerdictExact number normalised config tenant before write
      ↔ write.Comparable normalised config tenant before := by
  constructor
  · intro exact_
    have applied := appliedTo_exactly (write.desired normalised config tenant before.bindings) before
    have reported := promptStudio_reported number write
    exact (write.ok_iff number normalised preflighted applied reported).mp
      (exact_.whole _ _ applied reported)
  · intro comparable
    exact
      { whole := fun after studio applied reported =>
          (ReadbackWrite.ok_iff number normalised preflighted applied reported).mpr comparable
        lost := fun after studio loses => ReadbackWrite.not_ok_of_loses number normalised loses }

end Verdicts

-----------------------------------------------------------------------------------------
-- The job of an upgrade
-----------------------------------------------------------------------------------------

section Job

variable {σ : Type} {sqlite : Sqlite σ} {releases : Releases} {plane after : UpgradePlane σ}
  {request servingStatus : Nat} {driver next : StudioDriver} {final : UpgradePlane σ}

/-- What a driver does next lands. -/
theorem drive_run (there : plane.requests request = .driving driver)
    (ran : driver.ran sqlite normalised plane servingStatus = some (after, next))
    : plane.step sqlite normalised releases (.drive request (.run servingStatus))
      = some (after.put request (.driving next)) := by
  simp only [UpgradePlane.step, there, StudioDriver.act, ran, Option.map_some]

/-- A driver that goes on by what it does alone ends its job with an outcome. -/
def EndsJob (sqlite : Sqlite σ) (releases : Releases) (plane : UpgradePlane σ)
    (request servingStatus : Nat) (jobId : String) (outcome : JobOutcome)
    : Prop :=
  ∃ steps final ended,
    exec (UpgradePlane.step sqlite normalised releases) plane
        (List.replicate steps (.drive request (.run servingStatus)))
      = some final
    ∧ final.requests request = .driving ended ∧ ended.stage = .ended
    ∧ (final.jobs.get? jobId).map ProvisionJob.status = some outcome.status

/-- One more step in front. -/
theorem EndsJob.cons {jobId : String} {outcome : JobOutcome}
    (there : plane.requests request = .driving driver)
    (ran : driver.ran sqlite normalised plane servingStatus = some (after, next))
    (ends
      : EndsJob normalised sqlite releases (after.put request (.driving next)) request
          servingStatus jobId outcome)
    : EndsJob normalised sqlite releases plane request servingStatus jobId outcome := by
  obtain ⟨steps, final, ended, reached, place, isEnded, closed⟩ := ends
  refine ⟨steps + 1, final, ended, ?_, place, isEnded, closed⟩
  rw [List.replicate_succ]
  exact exec_cons.mpr ⟨_, drive_run normalised there ran, reached⟩

/-- A driver that is to close its open job closes it. -/
theorem endsJob_of_closing {jobId : String} {outcome : JobOutcome} {job : ProvisionJob}
    {errorStep errorMessage : Option String} (there : plane.requests request = .driving driver)
    (closes : driver.jobCall = some (.finishJob jobId outcome errorStep errorMessage))
    (works : ∀ step, driver.stage ≠ .starting ∧ driver.stage ≠ .marking step)
    (found : plane.jobs.get? jobId = some job) (isOpen : job.status.active = true)
    : EndsJob normalised sqlite releases plane request servingStatus jobId outcome := by
  have ran : driver.ran sqlite normalised plane servingStatus
      = some (plane.callJob (.finishJob jobId outcome errorStep errorMessage),
          { driver with stage := .ended }) := by
    unfold StudioDriver.ran
    rw [closes]
    cases stage : driver.stage with
    | starting => exact absurd stage (works .verify).1
    | marking step => exact absurd stage (works step).2
    | _ => rfl
  refine EndsJob.cons normalised there ran ⟨0, _, _, rfl, put_requests_self, rfl, ?_⟩
  have closed := Update.get?_apply_of_match (finishJob plane.now jobId outcome errorStep errorMessage)
    found isOpen
  exact congrArg (Option.map ProvisionJob.status) closed

/-- An upgrade that has read back ends its open job as its verdict says. -/
theorem upgradeJob_ends {job : ProvisionJob} {census : List CensusEntry} {secretsAfter : List String}
    (there : plane.requests request = .driving driver)
    (stage : driver.stage = .probing census secretsAfter)
    (found : plane.jobs.get? driver.jobId = some job) (isOpen : job.status.active = true)
    : EndsJob normalised sqlite releases plane request servingStatus driver.jobId
        (if upgradeTenantStudioOk ⟨driver.before, driver.secretsBefore⟩ ⟨census, secretsAfter⟩
            servingStatus
          then .succeeded else .failed) := by
  have probed : driver.ran sqlite normalised plane servingStatus
      = some (plane,
          { driver with
            short :=
              shortfall driver.before census driver.secretsBefore secretsAfter
                servingStatus }.mark .verify) := by
    unfold StudioDriver.ran StudioDriver.jobCall
    rw [stage]
  refine EndsJob.cons normalised there probed ?_
  refine EndsJob.cons normalised put_requests_self rfl ?_
  have progressed := Update.get?_apply_of_match
    (updateJobProgress plane.now driver.jobId UpgradeStep.verify.text
      (stepsJson (driver.done ++ [.verify]))) found isOpen
  cases short : shortfall driver.before census driver.secretsBefore secretsAfter servingStatus with
  | none =>
      have good : upgradeTenantStudioOk ⟨driver.before, driver.secretsBefore⟩
          ⟨census, secretsAfter⟩ servingStatus = true := by
        rw [upgradeTenantStudioOk, short]
        rfl
      rw [if_pos good]
      refine EndsJob.cons normalised put_requests_self rfl ?_
      exact endsJob_of_closing normalised put_requests_self rfl (fun _ => ⟨nofun, nofun⟩) progressed
        isOpen
  | some message =>
      have bad : ¬upgradeTenantStudioOk ⟨driver.before, driver.secretsBefore⟩
          ⟨census, secretsAfter⟩ servingStatus = true := by
        rw [upgradeTenantStudioOk, short]
        exact Bool.false_ne_true
      rw [if_neg bad]
      exact endsJob_of_closing normalised put_requests_self rfl (fun _ => ⟨nofun, nofun⟩) progressed
        isOpen

end Job

/-- The verdict on a write is exact where nothing that stood in the census is removed on purpose, the
required variables stood there before an upgrade, and no secret stands under a name that a write
is to clear; and nowhere else. The job of an upgrade ends as its verdict says.
-/
theorem readback_exact {σ : Type} (sqlite : Sqlite σ) (releases : Releases)
    : (∀ config tenant before (write : ReadbackWrite),
        write.Preflighted normalised config tenant
        → (VerdictExact number normalised config tenant before write
          ↔ write.Comparable normalised config tenant before))
      ∧ ∀ (plane : UpgradePlane σ) request servingStatus driver census secretsAfter job,
          plane.requests request = .driving driver
          → driver.stage = .probing census secretsAfter
          → plane.jobs.get? driver.jobId = some job → job.status.active = true
          → EndsJob normalised sqlite releases plane request servingStatus driver.jobId
              (if upgradeTenantStudioOk ⟨driver.before, driver.secretsBefore⟩
                  ⟨census, secretsAfter⟩ servingStatus
                then .succeeded else .failed) :=
  ⟨fun _ _ _ _ preflighted => verdictExact_iff number normalised preflighted,
    fun _ _ _ _ _ _ _ there stage found isOpen =>
      upgradeJob_ends normalised there stage found isOpen⟩

-----------------------------------------------------------------------------------------
-- Studios before a write
-----------------------------------------------------------------------------------------

/-- A census of a studio with a token, and with some variables besides those it must have. -/
def censusWith (vars : List String) : Census where
  bindings :=
    (REQUIRED_TENANT_STUDIO_VARS ++ vars).map (fun var => { type := .plainText, name := var })
    ++ [{ type := .secretText, name := "STUDIO_API_TOKEN" }]
  secrets := ["STUDIO_API_TOKEN"]

/-- What a preflight hands to the writer of a ceiling. -/
def quotaContext (bytes : Option String) (source : QuotaSource) : StorageQuotaContext where
  script := "tenant-acme-studio"
  studioApiToken := ""
  bytes := bytes
  source := source
  override := none

/-- A driver that has read back a studio that lost nothing. -/
def probingDriver : StudioDriver where
  jobId := "job_1"
  tenant := servedTenant
  context :=
    { script := "tenant-acme-studio"
      release := "v2"
      fromRelease := none
      bundle := { migrations := .empty, shipsAssets := false }
      studioApiToken := "" }
  before := (censusWith []).bindings
  secretsBefore := (censusWith []).secrets
  stage := .probing (censusWith []).bindings (censusWith []).secrets

/-- A plane on which it works. -/
def probingPlane : UpgradePlane Unit :=
  { servedPlane with
    jobs := Keyed.singleton (studioUpgradeJob 0 "job_1" "ten_1" none "v2")
    requests := fun _ => .driving probingDriver }

/-- A ceiling that is raised on a studio that had one, and an upgrade that lost nothing. -/
theorem raisedCeiling_exact
    : VerdictExact String.length oneKibibyte meteringPlane servedTenant
        (censusWith [STORAGE_QUOTA_VAR])
        (.applyStorageQuota (quotaContext (some "1024") .plane))
      ∧ EndsJob oneKibibyte emptySqlite bareReleases probingPlane 0 200 "job_1" .succeeded := by
  obtain ⟨verdicts, jobs⟩ := readback_exact String.length oneKibibyte emptySqlite bareReleases
  constructor
  · refine (verdicts _ _ _ _ ?_).mpr ⟨?_, nofun⟩
    · exact ⟨none, goodReads, rfl, by decide⟩
    · have keeps
          : ∀ name ∈ names (censusWith [STORAGE_QUOTA_VAR]).bindings,
              ¬ReadbackWrite.Removes oneKibibyte meteringPlane servedTenant
                  (censusWith [STORAGE_QUOTA_VAR]).bindings
                  (.applyStorageQuota (quotaContext (some "1024") .plane)) name := by
        decide
      exact fun name there removed => absurd removed (keeps name there)
  · have ends := jobs probingPlane 0 200 probingDriver _ _ _ rfl rfl rfl rfl
    have good : upgradeTenantStudioOk ⟨probingDriver.before, probingDriver.secretsBefore⟩
        (censusWith []) 200 = true := by
      decide
    rwa [if_pos good] at ends

/-- A ceiling that is lifted, and an upgrade behind a declaration that was cleared: both are reported
as failed by a platform that does all that they ask.
-/
theorem deliberateRemoval_inexact
    : (∃ context,
          ReadbackWrite.Preflighted some {} servedTenant (.applyStorageQuota context)
          ∧ ¬VerdictExact String.length some {} servedTenant (censusWith [STORAGE_QUOTA_VAR])
              (.applyStorageQuota context))
      ∧ ReadbackWrite.upgradeTenantStudio.Preflighted some {} servedTenant
      ∧ ¬VerdictExact String.length some {} servedTenant
          (censusWith [VIDEO_FINISH_TIER_STATE_VAR]) .upgradeTenantStudio := by
  have quota : ReadbackWrite.Preflighted some {} servedTenant
      (.applyStorageQuota (quotaContext none .planeUnset)) :=
    ⟨none, goodReads, rfl, nofun⟩
  have upgrade : ReadbackWrite.upgradeTenantStudio.Preflighted some {} servedTenant :=
    ⟨"v2", { bundle := .ok { migrations := .empty, shipsAssets := false } }, _, rfl⟩
  refine ⟨⟨_, quota, fun exact_ => ?_⟩, upgrade, fun exact_ => ?_⟩
  · have comparable := (verdictExact_iff _ _ quota).mp exact_
    exact absurd (comparable.2 rfl) (by decide)
  · have comparable := (verdictExact_iff _ _ upgrade).mp exact_
    have removed : ReadbackWrite.upgradeTenantStudio.Removes some {} servedTenant
        (censusWith [VIDEO_FINISH_TIER_STATE_VAR]).bindings VIDEO_FINISH_TIER_STATE_VAR :=
      ⟨by decide, by decide⟩
    exact absurd (comparable.1 VIDEO_FINISH_TIER_STATE_VAR (by decide) removed) (by decide)

end ControlPlane.StudioBindings
