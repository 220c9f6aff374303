import ControlPlane.Teardown.Legs

/-! What a teardown may destroy. The guard asks about the resources that are on the row, and the
studio worker of a row without a script name is deleted under a name that is not.
-/

namespace ControlPlane.Teardown

open ControlPlane.Library
open ControlPlane.Store

-----------------------------------------------------------------------------------------
-- What a pass may destroy
-----------------------------------------------------------------------------------------

/-- The resource a call destroys, where a column can hold its key. -/
def TeardownCall.destroys (namespaces : Namespaces) : TeardownCall → Option (ResourceKind × String)
  | .deleteUserWorker dispatchNamespace script =>
      if dispatchNamespace = namespaces.studios then some (.worker, script) else none
  | .revoke tokenId => some (.r2Token, tokenId)
  | .deleteD1 databaseId => some (.d1, databaseId)
  | .emptyBucket bucket | .deleteR2Bucket bucket => some (.r2Bucket, bucket)
  | .revokeByName _ | .mintBucketToken _ _ => none

theorem destroys_studio {namespaces : Namespaces} {script : String}
    : (TeardownCall.deleteUserWorker namespaces.studios script).destroys namespaces
      = some (.worker, script) :=
  if_pos rfl

/-- Another row carries the key. -/
def Shared (store : TenantStore) (tenant : Tenant) (kind : ResourceKind) (resourceKey : String)
    (row : Tenant)
    : Prop :=
  row ∈ store.tenants.rows ∧ row.id ≠ tenant.id ∧ row.resource kind = some resourceKey

/-- Nobody else loses a resource: only tombstones carry its key, and if one does, the ownership
lookup names the tenant, or names nobody and the operator said to go on.
-/
structure Spared (outside : Outside) (store : TenantStore) (tenant : Tenant) (opts : TeardownOpts)
    (kind : ResourceKind) (resourceKey : String)
    : Prop where
  unused : ∀ row, Shared store tenant kind resourceKey row → row.status = .deleted
  licensed
    : (∃ row, Shared store tenant kind resourceKey row)
      → ownerLookup outside store.ownership kind resourceKey = .ok (some tenant.id)
        ∨ (namesNobody (ownerLookup outside store.ownership kind resourceKey)
            ∧ opts.ignoreTombstoneReferrers)

/-- A pass destroys nothing that another row has a say in. -/
def DestroysOnlyItsOwn (outside : Outside) (namespaces : Namespaces) (store : TenantStore)
    (tenant : Tenant) (opts : TeardownOpts)
    : Prop :=
  ∀ call ∈ (teardownTenant outside namespaces tenant opts store).calls, ∀ kind resourceKey,
    call.destroys namespaces = some (kind, resourceKey)
    → Spared outside store tenant opts kind resourceKey

/-- No hold is open, and the reads before the first deletion succeed. -/
def Reaches (outside : Outside) (store : TenantStore) (tenant : Tenant) : Prop :=
  outside.holds = .ok [] ∧ ∃ referrers, readReferrers outside tenant store.tenants = .ok referrers

/-- The id of a new credential is on no row. -/
def MintsFresh (outside : Outside) (store : TenantStore) : Prop :=
  ∀ credentialId, outside.mintBucketToken = .ok credentialId →
    ∀ row ∈ store.tenants.rows, row.r2TokenId ≠ some credentialId

-----------------------------------------------------------------------------------------
-- Parts of a pass, and what their calls meet
-----------------------------------------------------------------------------------------

/-- (Continues Q K before after) says that a part of a pass adds calls that all meet Q, and
changes no owner of a kind in K.
-/
structure Continues (Q : TeardownCall → Prop) (K : ResourceKind → Prop) (before after : Pass)
    : Prop where
  calls : ∃ more, after.calls = before.calls ++ more ∧ ∀ call ∈ more, Q call
  owners
    : ∀ kind, K kind → ∀ resourceKey,
        getResourceOwner after.store.ownership kind resourceKey
          = getResourceOwner before.store.ownership kind resourceKey

section

variable {Q : TeardownCall → Prop} {K : ResourceKind → Prop} {outside : Outside}
  {namespaces : Namespaces} {tenant : Tenant} {opts : TeardownOpts}
  {referrers : List ResourceReferrer}

/-- A part that issues no call and changes no owner. -/
theorem continues_quiet {before after : Pass} (sameCalls : after.calls = before.calls)
    (owners
      : ∀ kind, K kind → ∀ resourceKey,
          getResourceOwner after.store.ownership kind resourceKey
            = getResourceOwner before.store.ownership kind resourceKey)
    : Continues Q K before after where
  calls :=
    ⟨[], by rw [sameCalls, List.append_nil], fun _ member => absurd member List.not_mem_nil⟩
  owners := owners

theorem Continues.refl (pass : Pass) : Continues Q K pass pass :=
  continues_quiet rfl fun _ _ _ => rfl

/-- Parts of a pass compose. -/
theorem Continues.trans {before middle after : Pass} (first : Continues Q K before middle)
    (second : Continues Q K middle after)
    : Continues Q K before after := by
  obtain ⟨⟨some, grown, allSome⟩, owners⟩ := first
  obtain ⟨⟨more, grownMore, allMore⟩, ownersMore⟩ := second
  refine ⟨⟨some ++ more, by rw [grownMore, grown, List.append_assoc], ?_⟩, ?_⟩
  · intro call member
    rcases List.mem_append.mp member with early | late
    · exact allSome call early
    · exact allMore call late
  · exact fun kind kept resourceKey =>
      (ownersMore kind kept resourceKey).trans (owners kind kept resourceKey)

/-- What a part leaves alone, it leaves alone in fewer kinds. -/
theorem Continues.weaken {K' : ResourceKind → Prop} {before after : Pass}
    (continues : Continues Q K before after) (fewer : ∀ kind, K' kind → K kind)
    : Continues Q K' before after :=
  ⟨continues.calls, fun kind kept => continues.owners kind (fewer kind kept)⟩

/-- A call stays issued. -/
theorem Continues.issued {before after : Pass} {call : TeardownCall}
    (continues : Continues Q K before after) (issued : call ∈ before.calls)
    : call ∈ after.calls := by
  obtain ⟨more, grown, _⟩ := continues.calls
  exact grown ▸ List.mem_append_left more issued

/-- What held of all calls before a part, and holds of what it adds, holds of all after it. -/
theorem Continues.all {before after : Pass} (continues : Continues Q K before after)
    (sofar : ∀ call ∈ before.calls, Q call)
    : ∀ call ∈ after.calls, Q call := by
  obtain ⟨more, grown, added⟩ := continues.calls
  intro call member
  rw [grown] at member
  rcases List.mem_append.mp member with early | late
  · exact sofar call early
  · exact added call late

theorem continues_fail (pass : Pass) (resource error : String)
    : Continues Q K pass (pass.fail resource error) :=
  continues_quiet rfl fun _ _ _ => rfl

theorem continues_gone (pass : Pass) (resource detail : String)
    : Continues Q K pass (pass.gone resource detail) :=
  continues_quiet rfl fun _ _ _ => rfl

theorem continues_call {pass : Pass} {call : TeardownCall} (met : Q call)
    : Continues Q K pass (pass.call call) where
  calls := ⟨[call], rfl, fun _ member => List.mem_singleton.mp member ▸ met⟩
  owners _ _ _ := rfl

/-- Clearing a column changes no owner of the other kinds. -/
theorem continues_clearColumn (pass : Pass) (resource : String) {cleared : ResourceKind}
    (others : ∀ kind, K kind → kind ≠ cleared)
    : Continues Q K pass (pass.clearColumn outside tenant.id resource cleared) := by
  have blanked : Continues Q K pass
      { pass with
        store := clearTenantResource pass.store tenant.id cleared
          ((outside.clear cleared).map Prod.fst) } :=
    continues_quiet rfl fun kind kept _ => getResourceOwner_clear (others kind kept)
  unfold Pass.clearColumn
  simp only
  split
  · exact blanked.trans (continues_fail _ _ _)
  · exact blanked

/-- What an attempt does with the result of what it tries issues no call. -/
theorem continues_settle {pass : Pass} {resource : String} {fn : Pass → Pass × Option Thrown}
    {clears : Option ResourceKind} {absentWhen : Thrown → Bool}
    (others : ∀ kind, K kind → clears ≠ some kind)
    : Continues Q K (fn pass).1
        (pass.attempt outside tenant.id resource fn clears absentWhen) := by
  have cleared : ∀ after : Pass,
      Continues Q K after (after.clearAny outside tenant.id resource clears) := by
    intro after
    cases clears with
    | none => exact .refl after
    | some cleared =>
        exact continues_clearColumn after resource fun kind kept same =>
          others kind kept (congrArg some same.symm)
  unfold Pass.attempt
  split
  · next after result =>
      rw [result]
      exact cleared after
  · next after thrown result =>
      rw [result]
      split
      · exact (continues_gone after _ _).trans (cleared _)
      · exact continues_fail after _ _

/-- An attempt adds the calls of what it tries. -/
theorem continues_attempt {pass : Pass} {resource : String} {fn : Pass → Pass × Option Thrown}
    {clears : Option ResourceKind} {absentWhen : Thrown → Bool}
    (tried : Continues Q K pass (fn pass).1) (others : ∀ kind, K kind → clears ≠ some kind)
    : Continues Q K pass (pass.attempt outside tenant.id resource fn clears absentWhen) :=
  tried.trans (continues_settle others)

/-- The guard issues no call: it refuses on the record, or says nothing. -/
theorem continues_guarded (outside : Outside) (tenant : Tenant) (opts : TeardownOpts)
    (referrers : List ResourceReferrer) (kind : ResourceKind) (pass : Pass)
    : Continues Q K pass (guarded outside tenant opts referrers kind pass).1 := by
  unfold guarded
  simp only
  split
  · exact .refl pass
  · split
    · exact .refl pass
    · split
      · exact .refl pass
      · exact continues_fail _ _ _

/-- A row that has no resource of a kind shares none. -/
theorem blocked_eq_nil {tenants : Tenants} {kind : ResourceKind}
    (none : tenant.resource kind = none)
    : blocked (findResourceReferrers tenants tenant) kind = [] := by
  refine List.filter_eq_nil_iff.mpr fun referrer reported isKind => ?_
  obtain ⟨_, _, _, ⟨resourceKey, isKey, _⟩, _⟩ := mem_findResourceReferrers.mp reported
  rw [of_decide_eq_true isKind, none] at isKey
  exact absurd isKey (Option.some_ne_none _).symm

/-- A row that shares a resource with the tenant's is among those that block it. -/
theorem mem_blocked {store : TenantStore} {kind : ResourceKind} {resourceKey : String}
    {row : Tenant} (isKey : tenant.resource kind = some resourceKey)
    (shared : Shared store tenant kind resourceKey row)
    : (⟨row.id, row.slug, row.status, kind⟩ : ResourceReferrer)
        ∈ blocked (findResourceReferrers store.tenants tenant) kind := by
  obtain ⟨member, other, carries⟩ := shared
  refine List.mem_filter.mpr ⟨mem_findResourceReferrers.mpr ?_, decide_eq_true rfl⟩
  exact ⟨row, member, other, ⟨resourceKey, isKey, carries⟩, rfl⟩

/-- Where the guard says nothing, the tenant's resource is nobody else's: it is shared with no
row, or with tombstones only and the lookup it made speaks for the tenant.
-/
theorem spared_of_guarded {store : TenantStore} {kind : ResourceKind} {resourceKey : String}
    {pass : Pass} (isKey : tenant.resource kind = some resourceKey)
    (owners
      : getResourceOwner pass.store.ownership kind resourceKey
        = getResourceOwner store.ownership kind resourceKey)
    (silent
      : (guarded outside tenant opts (findResourceReferrers store.tenants tenant) kind pass).2
        = false)
    : Spared outside store tenant opts kind resourceKey := by
  have asked : recordedOwner outside tenant pass.store.ownership kind
      = ownerLookup outside store.ownership kind resourceKey := by
    simp only [recordedOwner, isKey, ownerLookup, owners]
  unfold guarded at silent
  simp only [asked] at silent
  split at silent
  · next noHits =>
      have alone : ∀ row, ¬ Shared store tenant kind resourceKey row := by
        intro row shared
        have hit := mem_blocked isKey shared
        rw [noHits] at hit
        exact List.not_mem_nil hit
      exact ⟨fun row shared => absurd shared (alone row),
        fun some => absurd some.choose_spec (alone _)⟩
  · have tombstones : ∀ notLive : ¬ ((blocked (findResourceReferrers store.tenants tenant)
          kind).any fun hit => hit.status ≠ .deleted) = true,
        ∀ row, Shared store tenant kind resourceKey row → row.status = .deleted := by
      intro notLive row shared
      by_contra stillLive
      exact notLive (List.any_eq_true.mpr
        ⟨_, mem_blocked isKey shared, decide_eq_true stillLive⟩)
    split at silent
    · next owned =>
        refine ⟨tombstones owned.1, fun _ => .inl ?_⟩
        cases lookup : ownerLookup outside store.ownership kind resourceKey with
        | error thrown =>
            rw [lookup] at owned
            exact absurd owned.2 (Option.some_ne_none _).symm
        | ok owner =>
            rw [lookup] at owned
            exact congrArg _ owned.2
    · split at silent
      · next overridden => exact ⟨tombstones overridden.1, fun _ => .inr overridden.2⟩
      · exact absurd silent (Bool.false_ne_true ∘ Eq.symm)

/-- A kind without hits is not refused. -/
theorem guarded_of_nil {kind : ResourceKind} {pass : Pass}
    (noHits : blocked referrers kind = [])
    : guarded outside tenant opts referrers kind pass = (pass, false) := by
  simp only [guarded, noHits, if_true]

-----------------------------------------------------------------------------------------
-- The legs of a pass, one for each kind of resource
-----------------------------------------------------------------------------------------

/-- The worker leg deletes the studio's script, unless the guard refuses. -/
theorem continues_workerLeg {pass : Pass}
    (met
      : (guarded outside tenant opts referrers .worker pass).2 = false
        → Q (.deleteUserWorker namespaces.studios (scriptToDelete tenant)))
    (others : ∀ kind, K kind → kind ≠ .worker)
    : Continues Q K pass (workerLeg outside namespaces tenant opts referrers pass) := by
  have asked : Continues Q K pass _ :=
    continues_guarded outside tenant opts referrers .worker pass
  unfold workerLeg
  split
  next after refused result =>
    rw [result] at asked met
    split
    · exact asked
    · next notRefused =>
        refine asked.trans (continues_attempt (continues_call (met ?_)) ?_)
        · exact Bool.eq_false_iff.mpr notRefused
        · exact fun kind kept same => others kind kept (Option.some.inj same).symm

/-- A worker leg without a referrer deletes the studio's script. -/
theorem workerLeg_issues (outside : Outside) (namespaces : Namespaces) (tenant : Tenant)
    (opts : TeardownOpts) (pass : Pass) (noHits : blocked referrers .worker = [])
    : TeardownCall.deleteUserWorker namespaces.studios (scriptToDelete tenant)
        ∈ (workerLeg outside namespaces tenant opts referrers pass).calls := by
  have settled : Continues (fun _ => True) (fun _ => False)
      (deleteStudio outside namespaces tenant pass).1
      (pass.attempt outside tenant.id "worker" (deleteStudio outside namespaces tenant)
        (some .worker) isScriptAbsent) :=
    continues_settle fun _ => False.elim
  unfold workerLeg
  rw [guarded_of_nil noHits]
  exact settled.issued (List.mem_append_right _ (List.mem_singleton.mpr rfl))

/-- The deletion of a script of the module namespace. -/
theorem continues_deleteModule {pass : Pass} {script : String}
    (met : Q (.deleteUserWorker namespaces.modules script))
    : Continues Q K pass (deleteModule outside namespaces pass script) := by
  unfold deleteModule
  simp only
  split
  · exact continues_call met
  · split
    · exact (continues_call met).trans (continues_gone _ _ _)
    · exact (continues_call met).trans (continues_fail _ _ _)

/-- The sweep deletes scripts of the module namespace that start with the tenant's prefix, by
induction on the listing.
-/
theorem continues_modulesLeg {pass : Pass}
    (met
      : ∀ script, (tenantModuleScriptPrefix tenant.id).isPrefixOf script = true
        → Q (.deleteUserWorker namespaces.modules script))
    : Continues Q K pass (modulesLeg outside namespaces tenant pass) := by
  have sweep : ∀ (scripts : List String) (before : Pass),
      Continues Q K before
        ((scripts.filter (tenantModuleScriptPrefix tenant.id).isPrefixOf).foldl
          (deleteModule outside namespaces) before) := by
    intro scripts
    induction scripts with
    | nil => exact Continues.refl
    | cons script rest ih =>
        intro before
        cases own : (tenantModuleScriptPrefix tenant.id).isPrefixOf script with
        | true =>
            rw [List.filter_cons_of_pos own]
            exact (continues_deleteModule (met script own)).trans (ih _)
        | false =>
            rw [List.filter_cons_of_neg (by simp [own])]
            exact ih before
  unfold modulesLeg
  simp only
  split
  · exact continues_fail _ _ _
  · split
    · exact (sweep _ _).trans (continues_fail _ _ _)
    · split
      · exact (sweep _ _).trans (continues_fail _ _ _)
      · exact sweep _ _

theorem continues_revokeByName {pass : Pass} {resource name : String}
    (met : Q (.revokeByName name))
    : Continues Q K pass (revokeByName outside tenant resource name pass) :=
  continues_attempt (continues_call met) fun _ _ => Option.some_ne_none _ ∘ Eq.symm

/-- The names that a teardown revokes by. -/
def revokedNames (tenant : Tenant) : List String :=
  [tenantR2TokenName tenant.slug, tenantAigTokenName tenant.slug,
    tenantStudioAigTokenName tenant.slug]

/-- The tokens leg revokes the row's own credential by id, unless the guard refuses, and other
credentials by name.
-/
theorem continues_tokensLeg {pass : Pass}
    (met
      : (guarded outside tenant opts referrers .r2Token pass).2 = false
        → ∀ tokenId, truthy tenant.r2TokenId = some tokenId → Q (.revoke tokenId))
    (byName : ∀ name ∈ revokedNames tenant, Q (.revokeByName name))
    (others : ∀ kind, K kind → kind ≠ .r2Token)
    : Continues Q K pass (tokensLeg outside tenant opts referrers pass) := by
  have asked : Continues Q K pass _ :=
    continues_guarded outside tenant opts referrers .r2Token pass
  unfold tokensLeg
  split
  next after refused result =>
    rw [result] at asked met
    split
    · exact asked
    · next notRefused =>
        have byId : Continues Q K after (revokeStored outside tenant after).1 := by
          unfold revokeStored
          split
          · next tokenId isToken =>
              have revoked : Continues Q K after (after.call (.revoke tokenId)) :=
                continues_call (met (Bool.eq_false_iff.mpr notRefused) tokenId isToken)
              unfold revokeById
              simp only
              split
              · exact revoked.trans (continues_clearColumn _ _ others)
              · exact revoked.trans (continues_fail _ _ _)
          · exact .refl after
        simp only
        refine asked.trans (byId.trans ?_)
        refine Continues.trans ?_ (continues_revokeByName (byName _ (by simp [revokedNames])))
        refine Continues.trans ?_ (continues_revokeByName (byName _ (by simp [revokedNames])))
        split
        · exact .refl _
        · exact continues_revokeByName (byName _ (by simp [revokedNames]))

/-- The database leg deletes the row's own database, unless the guard refuses. -/
theorem continues_databaseLeg {pass : Pass}
    (met
      : (guarded outside tenant opts referrers .d1 pass).2 = false
        → ∀ databaseId, truthy tenant.d1DatabaseId = some databaseId → Q (.deleteD1 databaseId))
    (others : ∀ kind, K kind → kind ≠ .d1)
    : Continues Q K pass (databaseLeg outside tenant opts referrers pass) := by
  have asked : Continues Q K pass _ :=
    continues_guarded outside tenant opts referrers .d1 pass
  have harvest : ∀ before, Continues Q K before (harvestLeg outside before) := by
    intro before
    unfold harvestLeg
    split
    · exact continues_fail _ _ _
    · exact continues_fail _ _ _
    · split
      · exact continues_fail _ _ _
      · exact .refl _
  unfold databaseLeg
  split
  · exact .refl _
  · next databaseId isDatabase =>
      split
      next after refused result =>
        rw [result] at asked met
        split
        · exact asked
        · next notRefused =>
            simp only
            split
            · exact asked.trans (harvest after)
            · refine (asked.trans (harvest after)).trans (continues_attempt (continues_call ?_) ?_)
              · exact met (Bool.eq_false_iff.mpr notRefused) databaseId isDatabase
              · exact fun kind kept same => others kind kept (Option.some.inj same).symm

/-- The bucket leg empties and deletes the row's own bucket, unless the guard refuses, with a
credential that it mints and revokes.
-/
theorem continues_bucketLeg {pass : Pass}
    (met
      : (guarded outside tenant opts referrers .r2Bucket pass).2 = false
        → ∀ bucket, truthy tenant.r2BucketName = some bucket
        → Q (.emptyBucket bucket) ∧ Q (.deleteR2Bucket bucket))
    (minted : ∀ name bucket, Q (.mintBucketToken name bucket))
    (revoked
      : ∀ credentialId, outside.mintBucketToken = .ok credentialId → Q (.revoke credentialId))
    (others : ∀ kind, K kind → kind ≠ .r2Bucket)
    : Continues Q K pass (bucketLeg outside tenant opts referrers pass) := by
  have asked : Continues Q K pass _ :=
    continues_guarded outside tenant opts referrers .r2Bucket pass
  unfold bucketLeg
  split
  · exact .refl _
  · next bucket isBucket =>
      split
      next after refused result =>
        rw [result] at asked met
        split
        · exact asked
        · next notRefused =>
            obtain ⟨empties, deletes⟩ := met (Bool.eq_false_iff.mpr notRefused) bucket isBucket
            have works : ∀ before,
                Continues Q K before (emptyAndDelete outside bucket before).1 := by
              intro before
              unfold emptyAndDelete
              simp only
              split
              · exact continues_call empties
              · split
                · exact continues_call empties
                · exact (continues_call empties).trans (continues_call deletes)
            refine asked.trans (continues_attempt ?_ ?_)
            · unfold emptyThenDeleteBucket
              simp only
              split
              · exact continues_call (minted _ _)
              · next credentialId isMinted =>
                  have worked : Continues Q K after _ :=
                    ((continues_call
                      (minted (tenantR2TeardownTokenName tenant.slug) bucket)).trans
                        (works _)).trans
                      (continues_call (revoked credentialId isMinted))
                  split
                  · exact worked
                  · exact worked.trans (continues_fail _ _ _)
            · exact fun kind kept same => others kind kept (Option.some.inj same).symm

/-- The calls behind the worker leg meet Q where each leg's do. The legs clear one kind each, so
every guard finds the owners of its own kind as they were.
-/
theorem continues_reapBehindWorker {store : TenantStore} {pass : Pass}
    (unchanged
      : ∀ kind, kind ≠ .worker → ∀ resourceKey,
          getResourceOwner pass.store.ownership kind resourceKey
            = getResourceOwner store.ownership kind resourceKey)
    (modules
      : ∀ script, (tenantModuleScriptPrefix tenant.id).isPrefixOf script = true
        → Q (.deleteUserWorker namespaces.modules script))
    (stored
      : ∀ kind resourceKey before,
          truthy (tenant.resource kind) = some resourceKey
          → (guarded outside tenant opts referrers kind before).2 = false
          → getResourceOwner before.store.ownership kind resourceKey
              = getResourceOwner store.ownership kind resourceKey
          → ∀ call, call.destroys namespaces = some (kind, resourceKey) → Q call)
    (byName : ∀ name ∈ revokedNames tenant, Q (.revokeByName name))
    (minted : ∀ name bucket, Q (.mintBucketToken name bucket))
    (revoked
      : ∀ credentialId, outside.mintBucketToken = .ok credentialId → Q (.revoke credentialId))
    : Continues Q (fun _ => False) pass
        (reapBehindWorker outside namespaces tenant opts referrers pass) := by
  have modulesDone : Continues Q (fun kind => kind ≠ .worker) pass
      (modulesLeg outside namespaces tenant pass) :=
    continues_modulesLeg modules
  unfold reapBehindWorker
  simp only
  generalize modulesLeg outside namespaces tenant pass = swept at modulesDone ⊢
  have tokensDone : Continues Q (fun kind => kind = .d1 ∨ kind = .r2Bucket) pass
      (tokensLeg outside tenant opts referrers swept) := by
    refine (modulesDone.weaken ?_).trans (continues_tokensLeg ?_ byName ?_)
    · intro kind kept
      rcases kept with same | same <;> rw [same] <;> decide
    · intro silent tokenId isToken
      have owners := (modulesDone.owners .r2Token (by decide) tokenId).trans
        (unchanged .r2Token (by decide) tokenId)
      exact stored .r2Token tokenId swept isToken silent owners _ rfl
    · intro kind kept
      rcases kept with same | same <;> rw [same] <;> decide
  generalize tokensLeg outside tenant opts referrers swept = withoutTokens at tokensDone ⊢
  split
  · have databaseDone : Continues Q (fun kind => kind = .r2Bucket) pass
        (databaseLeg outside tenant opts referrers withoutTokens) := by
      refine (tokensDone.weaken fun _ => Or.inr).trans (continues_databaseLeg ?_ ?_)
      · intro silent databaseId isDatabase
        have owners := (tokensDone.owners .d1 (.inl rfl) databaseId).trans
          (unchanged .d1 (by decide) databaseId)
        exact stored .d1 databaseId withoutTokens isDatabase silent owners _ rfl
      · intro kind kept
        rw [kept]
        decide
    refine (databaseDone.weaken fun _ => False.elim).trans
      (continues_bucketLeg ?_ minted revoked fun _ => False.elim)
    intro silent bucket isBucket
    have owners := (databaseDone.owners .r2Bucket rfl bucket).trans
      (unchanged .r2Bucket (by decide) bucket)
    have harmless := stored .r2Bucket bucket _ isBucket silent owners
    exact ⟨harmless _ rfl, harmless _ rfl⟩
  · exact tokensDone.weaken fun _ => False.elim

/-- What the worker leg issued stays issued. -/
theorem reapBehindWorker_issued {pass : Pass} {call : TeardownCall} (issued : call ∈ pass.calls)
    : call ∈ (reapBehindWorker outside namespaces tenant opts referrers pass).calls :=
  (continues_reapBehindWorker (Q := fun _ => True) (fun _ _ _ => rfl) (fun _ _ => trivial)
    (fun _ _ _ _ _ _ _ _ => trivial) (fun _ _ => trivial) (fun _ _ => trivial)
    (fun _ _ => trivial)).issued issued

/-- Recording the outcome issues no call. -/
theorem recordTeardownSafely_calls (pass : Pass)
    : (recordTeardownSafely outside pass).calls = pass.calls := by
  unfold recordTeardownSafely
  split <;> rfl

/-- The calls of a teardown are those of its reap, where it reaches it, and none elsewhere. -/
theorem teardownTenant_calls (outside : Outside) (namespaces : Namespaces) (tenant : Tenant)
    (opts : TeardownOpts) (store : TenantStore)
    : (Reaches outside store tenant
        ∧ ∃ referrers, readReferrers outside tenant store.tenants = .ok referrers
          ∧ (teardownTenant outside namespaces tenant opts store).calls
            = (reap outside namespaces tenant opts referrers { store := store }).calls)
      ∨ (¬ Reaches outside store tenant
          ∧ (teardownTenant outside namespaces tenant opts store).calls = []) := by
  unfold teardownTenant Reaches
  simp only
  split
  · next thrown failed =>
      refine .inr ⟨?_, recordTeardownSafely_calls _⟩
      rw [failed]
      exact fun reached => nomatch reached.1
  · next hold more held =>
      refine .inr ⟨?_, recordTeardownSafely_calls _⟩
      rw [held]
      exact fun reached => absurd (Except.ok.inj reached.1) (List.cons_ne_nil _ _)
  · next held =>
      split
      · next thrown failed =>
          refine .inr ⟨?_, recordTeardownSafely_calls _⟩
          rw [failed]
          intro reached
          obtain ⟨_, referrers, isOk⟩ := reached
          exact nomatch isOk
      · next referrers isOk =>
          exact .inl ⟨⟨held, referrers, isOk⟩, referrers, isOk, recordTeardownSafely_calls _⟩

/-- The rows a pass reads are all other rows that share a resource with the tenant. -/
theorem readReferrers_eq {tenants : Tenants}
    (read : readReferrers outside tenant tenants = .ok referrers)
    : referrers = findResourceReferrers tenants tenant := by
  unfold readReferrers at read
  split at read
  · next nothing =>
      refine (Except.ok.inj read).symm.trans (List.eq_nil_iff_forall_not_mem.mpr ?_).symm
      intro referrer reported
      obtain ⟨_, _, _, ⟨resourceKey, isKey, _⟩, _⟩ := mem_findResourceReferrers.mp reported
      have isNone := List.all_eq_true.mp nothing referrer.resource (by
        cases referrer.resource <;> decide)
      rw [isKey] at isNone
      exact Bool.false_ne_true isNone
  · split at read
    · exact nomatch read
    · exact (Except.ok.inj read).symm

end

/-- A key that no row carries is spared. -/
theorem spared_of_unshared {outside : Outside} {store : TenantStore} {tenant : Tenant}
    {opts : TeardownOpts} {kind : ResourceKind} {resourceKey : String}
    (alone : ∀ row ∈ store.tenants.rows, row.resource kind ≠ some resourceKey)
    : Spared outside store tenant opts kind resourceKey where
  unused row shared := absurd shared.2.2 (alone row shared.1)
  licensed some := absurd some.choose_spec.2.2 (alone _ some.choose_spec.1)

/-- Every call of a reap spares what others have a say in, where the derived name of an unnamed
studio does: what is deleted under a key of the row was passed by the guard, and the
credential of an emptying is new.
-/
theorem continues_reap {outside : Outside} {namespaces : Namespaces} {store : TenantStore}
    {tenant : Tenant} {opts : TeardownOpts}
    (unnamed
      : tenant.scriptName = none
        → Spared outside store tenant opts .worker (tenantScriptName tenant.slug))
    (fresh : MintsFresh outside store)
    : Continues
        (fun call => ∀ kind resourceKey, call.destroys namespaces = some (kind, resourceKey)
          → Spared outside store tenant opts kind resourceKey)
        (fun _ => False) { store := store }
        (reap outside namespaces tenant opts (findResourceReferrers store.tenants tenant)
          { store := store }) := by
  have workerDone : Continues
      (fun call => ∀ kind resourceKey, call.destroys namespaces = some (kind, resourceKey)
        → Spared outside store tenant opts kind resourceKey)
      (fun kind => kind ≠ .worker) { store := store }
      (workerLeg outside namespaces tenant opts (findResourceReferrers store.tenants tenant)
        { store := store }) := by
    refine continues_workerLeg ?_ fun _ kept => kept
    intro silent kind resourceKey destroys
    obtain ⟨isWorker, isScript⟩ :=
      Prod.mk.inj (Option.some.inj (destroys_studio.symm.trans destroys))
    subst isWorker isScript
    cases named : tenant.scriptName with
    | none =>
        rw [scriptToDelete, named]
        exact unnamed named
    | some script =>
        rw [scriptToDelete, named]
        exact spared_of_guarded named rfl silent
  refine (workerDone.weaken fun _ => False.elim).trans (continues_reapBehindWorker
    workerDone.owners ?_ ?_ ?_ ?_ ?_)
  · intro script _ kind resourceKey destroys
    rw [TeardownCall.destroys, if_neg namespaces.apart] at destroys
    exact absurd destroys (Option.some_ne_none _).symm
  · intro kind resourceKey before isKey silent owners call destroys kind' resourceKey' destroys'
    obtain ⟨sameKind, sameKey⟩ := Prod.mk.inj (Option.some.inj (destroys.symm.trans destroys'))
    subst sameKind sameKey
    exact spared_of_guarded (Option.filter_eq_some_iff.mp isKey).1 owners silent
  · exact fun name _ kind resourceKey destroys => absurd destroys (Option.some_ne_none _).symm
  · exact fun name bucket kind resourceKey destroys => absurd destroys (Option.some_ne_none _).symm
  · intro credentialId isMinted kind resourceKey destroys
    obtain ⟨sameKind, sameKey⟩ := Prod.mk.inj (Option.some.inj destroys)
    subst sameKind sameKey
    exact spared_of_unshared (fresh credentialId isMinted)

/-- A teardown destroys nothing that another row has a say in exactly when it does not come to
delete a studio worker under the derived name, or nobody has a say in that name: the guard
is asked about the script on the row, and a row without one is deleted unasked.
-/
theorem destroysOnlyItsOwn_iff (outside : Outside) (namespaces : Namespaces)
    (store : TenantStore) (tenant : Tenant) (opts : TeardownOpts)
    (fresh : MintsFresh outside store)
    : DestroysOnlyItsOwn outside namespaces store tenant opts
      ↔ (Reaches outside store tenant → tenant.scriptName = none
          → Spared outside store tenant opts .worker (tenantScriptName tenant.slug)) := by
  rcases teardownTenant_calls outside namespaces tenant opts store
    with ⟨reached, referrers, read, same⟩ | ⟨unreached, none⟩
  · have shares := readReferrers_eq read
    subst shares
    constructor
    · intro own _ unnamed
      have noHits : blocked (findResourceReferrers store.tenants tenant) .worker = [] :=
        blocked_eq_nil unnamed
      have inLeg := workerLeg_issues outside namespaces tenant opts { store := store } noHits
      have destroyed := own (.deleteUserWorker namespaces.studios (scriptToDelete tenant))
        (same ▸ reapBehindWorker_issued inLeg) .worker (scriptToDelete tenant) destroys_studio
      rwa [scriptToDelete, unnamed] at destroyed
    · intro spared call issued kind resourceKey destroys
      rw [same] at issued
      exact (continues_reap (spared reached) fresh).all
        (fun _ member => absurd member List.not_mem_nil) call issued kind resourceKey destroys
  · constructor
    · exact fun _ reached => absurd reached unreached
    · intro _ call issued
      rw [none] at issued
      exact absurd issued List.not_mem_nil

/-- A store and an API that answer every call, with nothing to sweep and a bucket to empty. -/
def calm : Outside where
  holds := .ok []
  referrers := none
  owner _ := none
  deleteUserWorker _ _ := none
  listedModules := .ok []
  remainingModules := .ok []
  revoke _ := none
  revokeByName _ := none
  harvestComplete := .ok true
  indexRunpodJobs := none
  deleteD1 := none
  mintBucketToken := .ok "cred_1"
  emptyBucket := .ok { emptied := true, deleted := 3, stalled := none }
  deleteR2Bucket := none
  clear _ := none
  recordTeardown := none

def tenantNamespaces : Namespaces where
  studios := "vivijure-tenants"
  modules := "vivijure-tenant-modules"
  apart := by decide

/-- A failed tenant that took over a freed slug, before its script was recorded or after. -/
def successor (scriptName : Option String) : Tenant where
  id := "ten_new"
  slug := "studio"
  accountId := "acc_1"
  status := .failed
  scriptName := scriptName
  d1DatabaseId := some "db_1"
  r2BucketName := some "vivijure-tenant-studio"
  r2TokenId := some "tok_new"

/-- Beside it the live tenant that was renamed off the slug, and kept what it runs on. -/
def renamed (scriptName : Option String) : TenantStore where
  tenants :=
    { rows :=
        [successor scriptName,
          { id := "ten_old", slug := "studio-old", accountId := "acc_2", status := .live
            scriptName := some "tenant-studio-studio", d1DatabaseId := some "db_1"
            r2BucketName := some "vivijure-tenant-studio", r2TokenId := some "tok_old" }]
      unique := by simp [successor] }
  ownership := .empty

/-- With its script on record, the successor is kept off all that the live tenant runs on. -/
theorem recordedSuccessor_destroysOnlyItsOwn
    : DestroysOnlyItsOwn calm tenantNamespaces (renamed (some "tenant-studio-studio"))
        (successor (some "tenant-studio-studio")) { deleteData := true } := by
  have fresh : MintsFresh calm (renamed (some "tenant-studio-studio")) := by
    intro credentialId isMinted
    cases isMinted
    decide
  exact (destroysOnlyItsOwn_iff calm tenantNamespaces _ _ _ fresh).mpr fun _ unnamed =>
    absurd unnamed (Option.some_ne_none _)

/-- With none on record, its teardown deletes the live tenant's studio worker. -/
theorem unrecordedSuccessor_deletesLiveWorker
    : ¬ DestroysOnlyItsOwn calm tenantNamespaces (renamed none) (successor none)
        { deleteData := true } := by
  intro own
  have spared := own (.deleteUserWorker "vivijure-tenants" "tenant-studio-studio") (by decide)
    .worker "tenant-studio-studio" destroys_studio
  have deleted := spared.unused _ ⟨List.mem_cons_of_mem _ (List.mem_singleton.mpr rfl), by decide,
    rfl⟩
  exact absurd deleted (by decide)

end ControlPlane.Teardown
