import ControlPlane.Reconcile.Accounting
import Mathlib.Data.List.Find

/-! Whose name a resource has. Names are made of slugs and keys, and slugs may hold dashes: two of
the keys make one name for two rows, when the slug of the one is the slug of the other and -audio.
-/

namespace ControlPlane.Reconcile

open ControlPlane.Library
open ControlPlane.Provision
open ControlPlane.Store

/-- The planned keys and the retired ones. -/
def attributableKeys : List String :=
  provisionPlan.map PlannedCapability.key ++ retiredEndpointKeys

/-- The naming function makes a name for a row that owns endpoints, under one of its keys. -/
structure MadeFor (census : TenantCensus) (name : String) (owner : NameOwner) : Prop where
  tenant : owner.tenant ∈ census.tenants
  dedicated : readRunPodMode owner.tenant.runpodMode ≠ .shared
  key : owner.key ∈ attributableKeys
  named : tenantEndpointName owner.tenant.slug owner.key = name

/-- A name is made for one row at most, and under one key. -/
def SoleOwner (census : TenantCensus) (name : String) : Prop :=
  ∀ first second, MadeFor census name first → MadeFor census name second → first = second

/-- A name is the upscale endpoint of one row, and the audio-upscale endpoint of another. -/
def Contested (census : TenantCensus) (name : String) : Prop :=
  ∃ tenant ∈ census.tenants, ∃ other ∈ census.tenants,
    readRunPodMode tenant.runpodMode ≠ .shared ∧ readRunPodMode other.runpodMode ≠ .shared
    ∧ other.slug = tenant.slug ++ "-audio" ∧ name = tenantEndpointName other.slug "upscale"

/-- One key ends in a dash and another key for one pair alone. -/
theorem key_suffix
    : ∀ key ∈ attributableKeys, ∀ shorter ∈ attributableKeys,
        '-' :: shorter.toList <:+ key.toList → key = "audio-upscale" ∧ shorter = "upscale" := by
  decide

/-- The name without the words that all names begin with. -/
theorem tenantEndpointName_eq_iff {slug other key otherKey : String}
    : tenantEndpointName slug key = tenantEndpointName other otherKey
      ↔ slug.toList ++ '-' :: key.toList = other.toList ++ '-' :: otherKey.toList := by
  simp [tenantEndpointName, ← String.toList_inj]

/-- A slug and a key that are cut from a name at an earlier dash: the key at a later one is what the
earlier key ends in.
-/
theorem slug_of_longer_key {slug other key otherKey : String} {between : List Char}
    (isKey : key ∈ attributableKeys) (isOther : otherKey ∈ attributableKeys)
    (slugs : other.toList = slug.toList ++ '-' :: between)
    (keys : key.toList = between ++ '-' :: otherKey.toList)
    : other = slug ++ "-audio" ∧ key = "audio-upscale" ∧ otherKey = "upscale" := by
  obtain ⟨longer, shorter⟩ := key_suffix key isKey otherKey isOther ⟨between, keys.symm⟩
  subst longer shorter
  have cut : between ++ "-upscale".toList = "audio".toList ++ "-upscale".toList := keys.symm
  have audio : between = "audio".toList := List.append_cancel_right cut
  refine ⟨?_, rfl, rfl⟩
  rw [← String.toList_inj, slugs, audio, String.toList_append]
  rfl

/-- Two rows and keys make one name when they are the same, or at the one pair of keys. -/
theorem same_name_cases {slug other key otherKey : String} (isKey : key ∈ attributableKeys)
    (isOther : otherKey ∈ attributableKeys)
    (same : tenantEndpointName slug key = tenantEndpointName other otherKey)
    : (slug = other ∧ key = otherKey)
      ∨ (other = slug ++ "-audio" ∧ key = "audio-upscale" ∧ otherKey = "upscale")
      ∨ (slug = other ++ "-audio" ∧ otherKey = "audio-upscale" ∧ key = "upscale") := by
  rcases List.append_eq_append_iff.mp (tenantEndpointName_eq_iff.mp same) with
    ⟨between, slugs, keys⟩ | ⟨between, slugs, keys⟩
  · cases between with
    | nil =>
        left
        simp only [List.append_nil, List.nil_append, List.cons.injEq, true_and] at slugs keys
        exact ⟨String.toList_inj.mp slugs.symm, String.toList_inj.mp keys⟩
    | cons dash between =>
        right; left
        simp only [List.cons_append, List.cons.injEq] at keys
        obtain ⟨isDash, keys⟩ := keys
        subst isDash
        exact slug_of_longer_key isKey isOther slugs keys
  · cases between with
    | nil =>
        left
        simp only [List.append_nil, List.nil_append, List.cons.injEq, true_and] at slugs keys
        exact ⟨String.toList_inj.mp slugs, String.toList_inj.mp keys.symm⟩
    | cons dash between =>
        right; right
        simp only [List.cons_append, List.cons.injEq] at keys
        obtain ⟨isDash, keys⟩ := keys
        subst isDash
        exact slug_of_longer_key isOther isKey slugs keys

/-- Rows whose slugs differ have their names for themselves, unless two of them contest one. -/
theorem soleOwner_iff {census : TenantCensus} (slugs : (census.tenants.map Tenant.slug).Nodup)
    {name : String}
    : SoleOwner census name ↔ ¬ Contested census name := by
  constructor
  · intro sole h
    obtain ⟨tenant, member, other, otherMember, own, otherOwn, longer, isName⟩ := h
    have upscale : "upscale" ∈ attributableKeys := by decide
    have audioUpscale : "audio-upscale" ∈ attributableKeys := by decide
    have first : MadeFor census name ⟨other, "upscale"⟩ :=
      ⟨otherMember, otherOwn, upscale, isName.symm⟩
    have second : MadeFor census name ⟨tenant, "audio-upscale"⟩ := by
      refine ⟨member, own, audioUpscale, ?_⟩
      rw [isName, tenantEndpointName_eq_iff, longer]
      simp
    have same : "upscale" = "audio-upscale" := congrArg NameOwner.key (sole _ _ first second)
    exact absurd same (by simp)
  · intro uncontested first second ofFirst ofSecond
    obtain ⟨tenant, key⟩ := first
    obtain ⟨other, otherKey⟩ := second
    rcases same_name_cases ofFirst.key ofSecond.key (ofFirst.named.trans ofSecond.named.symm) with
      ⟨sameSlug, sameKey⟩ | ⟨longer, _, isKey⟩ | ⟨longer, _, isKey⟩
    · have sameRow : tenant = other :=
        List.inj_on_of_nodup_map slugs ofFirst.tenant ofSecond.tenant sameSlug
      exact congrArg₂ NameOwner.mk sameRow sameKey
    · refine absurd ⟨tenant, ofFirst.tenant, other, ofSecond.tenant, ofFirst.dedicated,
        ofSecond.dedicated, longer, ?_⟩ uncontested
      exact isKey ▸ ofSecond.named.symm
    · refine absurd ⟨other, ofSecond.tenant, tenant, ofFirst.tenant, ofSecond.dedicated,
        ofFirst.dedicated, longer, ?_⟩ uncontested
      exact isKey ▸ ofFirst.named.symm

/-- The names of the rows are what the naming function makes for them. -/
theorem mem_ownNames {census : TenantCensus} {made : String × NameOwner}
    : made ∈ ownNames census ↔ MadeFor census made.1 made.2 := by
  obtain ⟨name, tenant, key⟩ := made
  constructor
  · intro member
    obtain ⟨row, owns, made⟩ := List.mem_flatMap.mp member
    obtain ⟨isRow, dedicated⟩ := List.mem_filter.mp owns
    obtain ⟨isKey, attributable, same⟩ := List.mem_map.mp made
    cases same
    exact ⟨isRow, of_decide_eq_true dedicated, attributable, rfl⟩
  · intro h
    obtain ⟨isRow, dedicated, attributable, named⟩ := h
    refine List.mem_flatMap.mpr ⟨tenant, List.mem_filter.mpr ⟨isRow, ?_⟩, ?_⟩
    · exact decide_eq_true dedicated
    · exact List.mem_map.mpr ⟨key, attributable, by rw [named]⟩

/-- The owner of a name that one row has for itself does not depend on the order of the rows. -/
theorem lastNamed_perm {census moved : TenantCensus} {name : String}
    (order : moved.tenants.Perm census.tenants) (sole : SoleOwner census name)
    : lastNamed moved name = lastNamed census name := by
  have names : (ownNames census).Perm (ownNames moved) :=
    (order.symm.filter _).flatMap_right _
  have reversed : (ownNames census).reverse.Perm (ownNames moved).reverse :=
    (List.reverse_perm _).trans (names.trans (List.reverse_perm _).symm)
  refine congrArg (Option.map Prod.snd) (List.find?_eq_find?_of_perm reversed ?_).symm
  intro first h second h'
  obtain ⟨isFirst, firstName⟩ := h
  obtain ⟨isSecond, secondName⟩ := h'
  have firstOwner := mem_ownNames.mp (List.mem_reverse.mp isFirst)
  have secondOwner := mem_ownNames.mp (List.mem_reverse.mp isSecond)
  rw [of_decide_eq_true firstName] at firstOwner
  rw [of_decide_eq_true secondName] at secondOwner
  exact Prod.ext ((of_decide_eq_true firstName).trans (of_decide_eq_true secondName).symm)
    (sole _ _ firstOwner secondOwner)

end ControlPlane.Reconcile
