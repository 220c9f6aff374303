import ControlPlane.Ownership.Claims

/-! Whether a claim steals a resource from a tenant that stands, and whether a clear leaves a key
that is still carried without an owner. The guard of a claim is two reads before its upsert, and a
clear deletes the owner without asking who else carries the key.
-/

namespace ControlPlane.Ownership

open ControlPlane.Library
open ControlPlane.Store

/-- What an action leaves of the ownership table: an owner is replaced only by a claim during which
it did not always stand, and goes only when it clears the resource itself.
-/
structure OwnersKept (claims : Claims) (action : ClaimsAction) (next : Claims) : Prop where
  notStolen
    : ∀ kind resourceKey owner other, ownerOf claims.ownership kind resourceKey = some owner
      → ownerOf next.ownership kind resourceKey = some other → other ≠ owner
      → ∃ op, action = .upsert op ∧ claims.lapsed op owner
  removedByOwner
    : ∀ kind resourceKey owner, ownerOf claims.ownership kind resourceKey = some owner
      → ownerOf next.ownership kind resourceKey = none
      → ∃ op, action = .release op ∧ claims.ops op = .releasing owner kind resourceKey

/-- No owner that stands is robbed at one action. -/
def NotStolen (claims : Claims) (action : ClaimsAction) : Prop :=
  ∀ next, claims.step action = some next → OwnersKept claims action next

/-- With nothing under way, every key that a standing tenant carries has an owner. -/
def KeysOwned (claims : Claims) : Prop :=
  (∀ op, claims.ops op = .idle)
  → ∀ row ∈ claims.tenants.rows, standing row
    → ∀ kind resourceKey, row.resource kind = some resourceKey → resourceKey ≠ ""
      → ownerOf claims.ownership kind resourceKey ≠ none

/-- The operation has yet to read the owner of the key, or goes on to write it. -/
def OpAt.ClaimsKey (kind : ResourceKind) (resourceKey : String) : OpAt → Prop
  | .claiming _ own ownKey | .upserting _ own ownKey _ => own = kind ∧ ownKey = resourceKey
  | .idle | .checking _ _ _ _ | .blanking _ _ _ | .releasing _ _ _ => False

/-- The key has an owner, or a claim of it is under way. -/
def Covered (claims : Claims) (kind : ResourceKind) (resourceKey : String) : Prop :=
  ownerOf claims.ownership kind resourceKey ≠ none
  ∨ ∃ op, (claims.ops op).ClaimsKey kind resourceKey

/-- An upsert finds its own tenant as the owner, or the owner that its claim has read, or one that
did not stand at some moment since the claim began, or none.
-/
def OwnerAsRead (claims : Claims) : ClaimsAction → Prop
  | .upsert op =>
      ∀ tenantId kind resourceKey prior owner,
        claims.ops op = .upserting tenantId kind resourceKey prior
        → ownerOf claims.ownership kind resourceKey = some owner
        → owner = tenantId ∨ (prior = some owner ∧ owner ≠ "") ∨ claims.lapsed op owner
  | _ => True

/-- A delete of an owner finds no standing tenant that carries the key, unless a claim of it is under
way; and a tenant comes to stand again only with keys that are owned or being claimed.
-/
def LeavesNoOrphan (claims : Claims) : ClaimsAction → Prop
  | .release op =>
      ∀ tenantId kind resourceKey, claims.ops op = .releasing tenantId kind resourceKey
        → ownerOf claims.ownership kind resourceKey = some tenantId
        → ∀ row ∈ claims.tenants.rows, standing row → row.resource kind = some resourceKey
        → ∃ other, (claims.ops other).ClaimsKey kind resourceKey
  | .setTenantStatus _ tenantId status =>
      status ≠ .deleted ∧ status ≠ .failed
      → ∀ row, claims.tenants.get? tenantId = some row → standing row = false
        → ∀ kind resourceKey, row.resource kind = some resourceKey → resourceKey ≠ ""
        → Covered claims kind resourceKey
  | _ => True

-----------------------------------------------------------------------------------------
-- The ownership table after a statement
-----------------------------------------------------------------------------------------

variable {claims next : Claims}

/-- An upsert makes the tenant the owner of its key, and leaves the other keys alone. -/
theorem ownerOf_upsert (ownership : Keyed Ownership.key) (written kind : ResourceKind)
    (writtenKey resourceKey tenantId : String)
    : ownerOf (upsertOwner ownership written writtenKey tenantId) kind resourceKey
      = if (kind, resourceKey) = (written, writtenKey) then some tenantId
        else ownerOf ownership kind resourceKey := by
  rw [ownerOf, upsertOwner, Keyed.get?_upsert]
  by_cases same : (kind, resourceKey) = (written, writtenKey)
  · have isKey : (kind, resourceKey) = Ownership.key ⟨written, writtenKey, tenantId⟩ := same
    rw [if_pos same, if_pos isKey, Option.map_some]
    cases ownership.get? (kind, resourceKey) with
    | none => rfl
    | some old => rfl
  · have notKey : (kind, resourceKey) ≠ Ownership.key ⟨written, writtenKey, tenantId⟩ := same
    rw [if_neg same, if_neg notKey, ownerOf]

/-- A delete leaves an owner of a key alone, unless it is the tenant's own claim that is released. -/
theorem ownerOf_release {ownership : Keyed Ownership.key} {released kind : ResourceKind}
    {releasedKey resourceKey tenantId owner : String}
    (owned : ownerOf ownership kind resourceKey = some owner)
    : ownerOf (releaseOwnership ownership released releasedKey tenantId) kind resourceKey
        = some owner
      ∨ (kind = released ∧ resourceKey = releasedKey ∧ owner = tenantId) := by
  obtain ⟨row, found, isOwner⟩ := Option.map_eq_some_iff.mp owned
  have keyed : row.key = (kind, resourceKey) := Keyed.get?_key found
  obtain ⟨sameKind, sameKey⟩ := Prod.mk.inj keyed
  by_cases matched : kind = released ∧ resourceKey = releasedKey ∧ owner = tenantId
  · exact .inr matched
  · left
    rw [ownerOf, releaseOwnership, Keyed.get?_filter, ← ownerOf, owned]
    intro other member otherKeyed
    have isRow : other = row := Keyed.eq_of_key member (Keyed.get?_mem found)
      (otherKeyed.trans keyed.symm)
    subst isRow
    refine decide_eq_true fun own => matched ?_
    exact ⟨sameKind.symm.trans own.1, sameKey.symm.trans own.2.1, isOwner.symm.trans own.2.2⟩

/-- A delete adds no owner. -/
theorem ownerOf_of_release {ownership : Keyed Ownership.key} {released kind : ResourceKind}
    {releasedKey resourceKey tenantId owner : String}
    (owned
      : ownerOf (releaseOwnership ownership released releasedKey tenantId) kind resourceKey
          = some owner)
    : ownerOf ownership kind resourceKey = some owner := by
  obtain ⟨row, found, isOwner⟩ := Option.map_eq_some_iff.mp owned
  have member : row ∈ ownership.rows := List.mem_of_mem_filter (Keyed.get?_mem found)
  have keyed : row.key = (kind, resourceKey) := Keyed.get?_key found
  rw [ownerOf, ← keyed, Keyed.get?_of_mem member, Option.map_some, isOwner]

-----------------------------------------------------------------------------------------
-- The tenants after a statement
-----------------------------------------------------------------------------------------

/-- A statement whose SET clause leaves the status alone leaves everybody standing who stood. -/
theorem standing_apply {tenants : Tenants} {update : Update Tenant.id}
    (keeps : ∀ row, (update.set row).status = row.status) (tenantId : String)
    : Standing (update.apply tenants) tenantId = Standing tenants tenantId := by
  rw [Standing, Update.get?_apply, Standing]
  cases tenants.get? tenantId with
  | none => rfl
  | some row =>
      rw [Option.map_some, Option.any_some, Option.any_some]
      rcases update.onRow_cases row with same | ⟨-, set⟩
      · rw [same]
      · rw [set, standing, standing, keeps]

theorem write_status (tenantId : String) (write : ResourceWrite) (row : Tenant)
    : ((write.statement tenantId).set row).status = row.status := by
  cases write <;> rfl

theorem blank_status (tenantId : String) (kind : ResourceKind) (row : Tenant)
    : ((blankResource tenantId kind).set row).status = row.status := by
  cases kind <;> rfl

/-- A column write changes the column of its kind alone. -/
theorem write_resource (tenantId : String) (write : ResourceWrite) (row : Tenant)
    (kind : ResourceKind)
    : ((write.statement tenantId).set row).resource kind
      = if kind = write.kind then some write.resourceKey else row.resource kind := by
  cases write <;> cases kind <;> rfl

theorem blank_resource (tenantId : String) (blanked kind : ResourceKind) (row : Tenant)
    : ((blankResource tenantId blanked).set row).resource kind
      = if kind = blanked then none else row.resource kind := by
  cases blanked <;> cases kind <;> rfl

-----------------------------------------------------------------------------------------
-- What a step can be
-----------------------------------------------------------------------------------------

/-- Where a claim goes from its read of the owner. -/
inductive ReadsOwner (ownership : Keyed Ownership.key) (tenantId : String) (kind : ResourceKind)
    (resourceKey : String)
    : OpAt → Prop
  | noKey (empty : resourceKey = "") : ReadsOwner ownership tenantId kind resourceKey .idle
  | noOwner (prior : Option String)
      (free : ∀ owner, prior = some owner → owner = "" ∨ owner = tenantId)
    : ReadsOwner ownership tenantId kind resourceKey (.upserting tenantId kind resourceKey prior)
  | another (prior : String) (owned : ownerOf ownership kind resourceKey = some prior)
    : ReadsOwner ownership tenantId kind resourceKey (.checking tenantId kind resourceKey prior)

/-- What an action does, where it is enabled. -/
inductive Stepped (claims : Claims) : ClaimsAction → Claims → Prop
  | set {op : Nat} {tenantId : String} {write : ResourceWrite} (idle : claims.ops op = .idle)
    : Stepped claims (.set op tenantId write)
        ((({ claims with
          tenants := (write.statement tenantId).apply claims.tenants } : Claims).watch op).put op
          (.claiming tenantId write.kind write.resourceKey))
  | readOwner {op : Nat} {tenantId resourceKey : String} {kind : ResourceKind}
      (here : claims.ops op = .claiming tenantId kind resourceKey) (place : OpAt)
      (onward : ReadsOwner claims.ownership tenantId kind resourceKey place)
    : Stepped claims (.readOwner op) (claims.put op place)
  | declined {op : Nat} {tenantId resourceKey prior : String} {kind : ResourceKind}
      (here : claims.ops op = .checking tenantId kind resourceKey prior)
    : Stepped claims (.readStatus op) (claims.put op .idle)
  | readStatus {op : Nat} {tenantId resourceKey prior : String} {kind : ResourceKind}
      (here : claims.ops op = .checking tenantId kind resourceKey prior)
      (gone : Standing claims.tenants prior = false)
    : Stepped claims (.readStatus op)
        (claims.put op (.upserting tenantId kind resourceKey (some prior)))
  | upsert {op : Nat} {tenantId resourceKey : String} {kind : ResourceKind}
      {prior : Option String} (here : claims.ops op = .upserting tenantId kind resourceKey prior)
    : Stepped claims (.upsert op)
        (({ claims with
          ownership := upsertOwner claims.ownership kind resourceKey tenantId } : Claims).put op
          .idle)
  | readKey {op : Nat} {tenantId : String} {kind : ResourceKind} (found : Option String)
      (idle : claims.ops op = .idle)
    : Stepped claims (.readKey op tenantId kind) (claims.put op (.blanking tenantId kind found))
  | blank {op : Nat} {tenantId : String} {kind : ResourceKind} {resourceKey : Option String}
      (here : claims.ops op = .blanking tenantId kind resourceKey) (place : OpAt)
      (onward : place = .idle ∨ ∃ key, place = .releasing tenantId kind key)
    : Stepped claims (.blank op)
        (({ claims with
          tenants := (blankResource tenantId kind).apply claims.tenants } : Claims).put op place)
  | release {op : Nat} {tenantId resourceKey : String} {kind : ResourceKind}
      (here : claims.ops op = .releasing tenantId kind resourceKey)
    : Stepped claims (.release op)
        (({ claims with
          ownership
            := releaseOwnership claims.ownership kind resourceKey tenantId } : Claims).put op
          .idle)
  | setTenantStatus {now : Nat} {tenantId : String} {status : TenantLifecycle}
    : Stepped claims (.setTenantStatus now tenantId status)
        ({ claims with
          tenants
            := (Store.setTenantStatus now tenantId status).apply claims.tenants } : Claims).watchAll

/-- The code's lookup of an owner finds the row, unless the key is empty. -/
theorem getResourceOwner_eq {ownership : Keyed Ownership.key} {kind : ResourceKind}
    {resourceKey : String} (given : resourceKey ≠ "")
    : getResourceOwner ownership kind resourceKey = ownerOf ownership kind resourceKey := by
  rw [getResourceOwner, if_neg given, ownerOf]

theorem step_cases {action : ClaimsAction} (taken : claims.step action = some next)
    : Stepped claims action next := by
  cases action with
  | set op tenantId write =>
      obtain ⟨idle, moved⟩ := Option.ite_none_right_eq_some.mp taken
      cases moved
      exact .set idle
  | readOwner op =>
      simp only [Claims.step] at taken
      split at taken
      · next tenantId kind resourceKey here =>
          cases taken
          refine .readOwner here _ ?_
          split
          · next empty => exact .noKey empty
          · next given =>
              rw [getResourceOwner_eq given]
              split
              · exact .noOwner none fun _ same => by cases same
              · next prior owned =>
                  split
                  · next free =>
                      refine .noOwner (some prior) fun owner same => ?_
                      cases same
                      exact free
                  · exact .another prior owned
      · cases taken
  | readStatus op =>
      simp only [Claims.step] at taken
      split at taken
      · next tenantId kind resourceKey prior here =>
          by_cases stands : Standing claims.tenants prior = true
          · rw [if_pos stands] at taken
            cases taken
            exact .declined here
          · rw [if_neg stands] at taken
            cases taken
            exact .readStatus here (Bool.eq_false_iff.mpr stands)
      · cases taken
  | upsert op =>
      simp only [Claims.step] at taken
      split at taken
      · next tenantId kind resourceKey prior here =>
          cases taken
          exact .upsert here
      · cases taken
  | readKey op tenantId kind =>
      obtain ⟨idle, moved⟩ := Option.ite_none_right_eq_some.mp taken
      cases moved
      exact .readKey _ idle
  | blank op =>
      simp only [Claims.step] at taken
      split at taken
      · next tenantId kind resourceKey here =>
          cases taken
          refine .blank here _ ?_
          split
          · exact .inl rfl
          · next key _ => exact .inr ⟨key, rfl⟩
      · cases taken
  | release op =>
      simp only [Claims.step] at taken
      split at taken
      · next tenantId kind resourceKey here =>
          cases taken
          exact .release here
      · cases taken
  | setTenantStatus now tenantId status =>
      cases taken
      exact .setTenantStatus

-----------------------------------------------------------------------------------------
-- What a claim has noted
-----------------------------------------------------------------------------------------

/-- The operation is a claim. -/
def OpAt.IsClaim : OpAt → Prop
  | .claiming _ _ _ | .checking _ _ _ _ | .upserting _ _ _ _ => True
  | .idle | .blanking _ _ _ | .releasing _ _ _ => False

/-- A claim has noted whoever does not stand, and goes on to upsert over an owner it has read only
if that owner has no name, is its own tenant, or did not stand.
-/
structure Watched (claims : Claims) : Prop where
  noted
    : ∀ op, (claims.ops op).IsClaim → ∀ tenantId, Standing claims.tenants tenantId = false
      → claims.lapsed op tenantId
  read
    : ∀ op tenantId kind resourceKey prior,
        claims.ops op = .upserting tenantId kind resourceKey (some prior)
        → prior = "" ∨ prior = tenantId ∨ claims.lapsed op prior

/-- An operation that goes elsewhere keeps what is noted, if it was a claim wherever it is one. -/
theorem Watched.put (watched : Watched claims) {op : Nat} {place : OpAt}
    (noted
      : place.IsClaim → ∀ tenantId, Standing claims.tenants tenantId = false
        → claims.lapsed op tenantId)
    (read
      : ∀ tenantId kind resourceKey prior, place = .upserting tenantId kind resourceKey (some prior)
        → prior = "" ∨ prior = tenantId ∨ claims.lapsed op prior)
    : Watched (claims.put op place) := by
  constructor
  · intro other isClaim
    by_cases same : other = op
    · subst same
      rw [Claims.put_self] at isClaim
      exact noted isClaim
    · rw [Claims.put_of_ne same] at isClaim
      exact watched.noted other isClaim
  · intro other tenantId kind resourceKey prior here
    by_cases same : other = op
    · subst same
      rw [Claims.put_self] at here
      exact read tenantId kind resourceKey prior here
    · rw [Claims.put_of_ne same] at here
      exact watched.read other tenantId kind resourceKey prior here

/-- An operation that ends, or is no claim, keeps what is noted. -/
theorem Watched.away (watched : Watched claims) {op : Nat} {place : OpAt}
    (notClaim : ¬place.IsClaim)
    : Watched (claims.put op place) :=
  watched.put (fun isClaim => absurd isClaim notClaim) fun _ _ _ _ here =>
    absurd (here ▸ trivial) notClaim

/-- Beginning to watch for an operation that is idle takes nothing from what is noted. -/
theorem Watched.watch (watched : Watched claims) {op : Nat} (idle : claims.ops op = .idle)
    : Watched (claims.watch op) := by
  constructor
  · intro other isClaim tenantId gone
    have differs : other ≠ op := by
      intro same
      subst same
      exact absurd (idle ▸ isClaim : OpAt.IsClaim .idle) id
    simp only [Claims.watch, Function.update_of_ne differs]
    exact watched.noted other isClaim tenantId gone
  · intro other tenantId kind resourceKey prior here
    have differs : other ≠ op := by
      intro same
      subst same
      exact nomatch idle.symm.trans here
    simp only [Claims.watch, Function.update_of_ne differs]
    exact watched.read other tenantId kind resourceKey prior here

/-- Other tables with the same tenants standing keep what is noted. -/
theorem Watched.tables (watched : Watched claims) {tenants : Tenants}
    (ownership : Keyed Ownership.key)
    (same : ∀ tenantId, Standing tenants tenantId = Standing claims.tenants tenantId)
    : Watched { claims with tenants := tenants, ownership := ownership } where
  noted op isClaim tenantId gone := watched.noted op isClaim tenantId (same tenantId ▸ gone)
  read := watched.read

/-- Every action keeps what is noted. -/
theorem Watched.step {action : ClaimsAction} (watched : Watched claims)
    (taken : claims.step action = some next)
    : Watched next := by
  cases step_cases taken with
  | @set op tenantId write idle =>
      have onTables := watched.tables claims.ownership
        (standing_apply (write_status tenantId write))
      refine (onTables.watch idle).put (fun _ other gone => ?_) nofun
      simp only [Claims.watch, Function.update_self] at gone ⊢
      rw [gone, Bool.not_false]
  | @readOwner op tenantId resourceKey kind here place onward =>
      have noted := watched.noted op (here ▸ trivial)
      cases onward with
      | noKey _ => exact watched.away id
      | noOwner prior free =>
          refine watched.put (fun _ => noted) fun t k r owner isPlace => ?_
          cases isPlace
          rcases free owner rfl with nameless | own
          · exact .inl nameless
          · exact .inr (.inl own)
      | another prior owned => exact watched.put (fun _ => noted) nofun
  | declined here => exact watched.away id
  | @readStatus op tenantId resourceKey prior kind here gone =>
      have noted := watched.noted op (here ▸ trivial)
      refine watched.put (fun _ => noted) fun t k r owner isPlace => ?_
      cases isPlace
      exact .inr (.inr (noted prior gone))
  | upsert here => exact (watched.tables _ fun _ => rfl).away id
  | readKey found idle => exact watched.away id
  | @blank op tenantId kind resourceKey here place onward =>
      refine (watched.tables _ (standing_apply (blank_status tenantId kind))).away ?_
      rcases onward with ended | ⟨key, releases⟩
      · exact ended ▸ id
      · exact releases ▸ id
  | release here => exact (watched.tables _ fun _ => rfl).away id
  | @setTenantStatus now tenantId status =>
      constructor
      · intro op isClaim other gone
        simp only [Claims.watchAll] at gone ⊢
        rw [gone, Bool.not_false, Bool.or_true]
      · intro op t kind resourceKey prior here
        rcases watched.read op t kind resourceKey prior here with nameless | own | lapsed
        · exact .inl nameless
        · exact .inr (.inl own)
        · right; right
          simp only [Claims.watchAll]
          rw [lapsed, Bool.true_or]

-----------------------------------------------------------------------------------------
-- Stealing
-----------------------------------------------------------------------------------------

/-- An action that leaves the ownership table alone keeps its owners. -/
theorem ownersKept_of_same {action : ClaimsAction} (same : next.ownership = claims.ownership)
    : OwnersKept claims action next where
  notStolen kind resourceKey owner other owned after differs := by
    rw [same, owned] at after
    exact absurd (Option.some.inj after).symm differs
  removedByOwner kind resourceKey owner owned after := by
    rw [same, owned] at after
    exact nomatch after

/-- An upsert keeps the owners exactly when it finds what its claim has read. -/
theorem ownersKept_upsert_iff {op : Nat} {tenantId resourceKey : String} {kind : ResourceKind}
    {prior : Option String} (watched : Watched claims)
    (here : claims.ops op = .upserting tenantId kind resourceKey prior)
    : OwnersKept claims (.upsert op)
        (({ claims with
          ownership := upsertOwner claims.ownership kind resourceKey tenantId } : Claims).put op
          .idle)
      ↔ OwnerAsRead claims (.upsert op) := by
  constructor
  · intro kept t k key read owner at_ owned
    cases here.symm.trans at_
    by_cases own : owner = tenantId
    · exact .inl own
    · have after : ownerOf (upsertOwner claims.ownership kind resourceKey tenantId) kind
          resourceKey = some tenantId := by
        rw [ownerOf_upsert, if_pos rfl]
      obtain ⟨_, same, lapsed⟩ :=
        kept.notStolen kind resourceKey owner tenantId owned after fun same => own same.symm
      cases same
      exact .inr (.inr lapsed)
  · intro asRead
    constructor
    · intro k key owner other owned after differs
      change ownerOf (upsertOwner claims.ownership kind resourceKey tenantId) k key = _ at after
      rw [ownerOf_upsert] at after
      split at after
      · next same =>
          obtain ⟨sameKind, sameKey⟩ := Prod.mk.inj same
          subst sameKind sameKey
          cases after
          refine ⟨op, rfl, ?_⟩
          rcases asRead tenantId k key prior owner here owned with own | ⟨wasRead, named⟩ | lapsed
          · exact absurd own.symm differs
          · subst wasRead
            rcases watched.read op tenantId k key owner here with nameless | own | lapsed
            · exact absurd nameless named
            · exact absurd own.symm differs
            · exact lapsed
          · exact lapsed
      · exact absurd (Option.some.inj (owned.symm.trans after)).symm differs
    · intro k key owner owned after
      change ownerOf (upsertOwner claims.ownership kind resourceKey tenantId) k key = _ at after
      rw [ownerOf_upsert] at after
      split at after
      · exact nomatch after
      · exact nomatch owned.symm.trans after

/-- A delete takes away what its own tenant owns, and no other owner. -/
theorem ownersKept_release {op : Nat} {tenantId resourceKey : String} {kind : ResourceKind}
    (here : claims.ops op = .releasing tenantId kind resourceKey)
    : OwnersKept claims (.release op)
        (({ claims with
          ownership
            := releaseOwnership claims.ownership kind resourceKey tenantId } : Claims).put op
          .idle) where
  notStolen k key owner other owned after differs := by
    have before := ownerOf_of_release after
    exact absurd (Option.some.inj (owned.symm.trans before)).symm differs
  removedByOwner k key owner owned after := by
    rcases ownerOf_release owned with kept | ⟨sameKind, sameKey, own⟩
    · exact nomatch kept.symm.trans after
    · subst sameKind sameKey own
      exact ⟨op, rfl, here⟩

/-- One action keeps the owners that stand exactly when an upsert finds the owner as read. -/
theorem notStolen_iff {action : ClaimsAction} (watched : Watched claims)
    (taken : claims.step action = some next)
    : NotStolen claims action ↔ OwnerAsRead claims action := by
  have atNext : NotStolen claims action ↔ OwnersKept claims action next := by
    constructor
    · exact fun kept => kept next taken
    · intro kept other alsoTaken
      cases alsoTaken.symm.trans taken
      exact kept
  rw [atNext]
  cases step_cases taken with
  | set idle => exact iff_of_true (ownersKept_of_same rfl) trivial
  | readOwner here place onward => exact iff_of_true (ownersKept_of_same rfl) trivial
  | declined here => exact iff_of_true (ownersKept_of_same rfl) trivial
  | readStatus here gone => exact iff_of_true (ownersKept_of_same rfl) trivial
  | upsert here => exact ownersKept_upsert_iff watched here
  | readKey found idle => exact iff_of_true (ownersKept_of_same rfl) trivial
  | blank here place onward => exact iff_of_true (ownersKept_of_same rfl) trivial
  | release here => exact iff_of_true (ownersKept_release here) trivial
  | setTenantStatus => exact iff_of_true (ownersKept_of_same rfl) trivial

-----------------------------------------------------------------------------------------
-- Keys without an owner
-----------------------------------------------------------------------------------------

/-- Every key that a standing tenant carries has an owner, or a claim of it is under way. -/
def AllCovered (claims : Claims) : Prop :=
  ∀ row ∈ claims.tenants.rows, standing row → ∀ kind resourceKey,
    row.resource kind = some resourceKey → resourceKey ≠ "" → Covered claims kind resourceKey

/-- With nothing under way, what is covered is owned. -/
theorem AllCovered.owned (covered : AllCovered claims) : KeysOwned claims := by
  intro idle row member stands kind resourceKey carries given
  rcases covered row member stands kind resourceKey carries given with owned | ⟨op, claimsKey⟩
  · exact owned
  · rw [idle op] at claimsKey
    exact claimsKey.elim

/-- An operation that goes elsewhere takes no claim with it, if what it claimed is still covered. -/
theorem Covered.put {kind : ResourceKind} {resourceKey : String} {op : Nat} {place : OpAt}
    (covered : Covered claims kind resourceKey)
    (own
      : (claims.ops op).ClaimsKey kind resourceKey
        → place.ClaimsKey kind resourceKey ∨ ownerOf claims.ownership kind resourceKey ≠ none)
    : Covered (claims.put op place) kind resourceKey := by
  rcases covered with hasOwner | ⟨other, claimsKey⟩
  · exact .inl hasOwner
  · by_cases same : other = op
    · subst same
      rcases own claimsKey with still | hasOwner
      · refine .inr ⟨other, ?_⟩
        rwa [Claims.put_self]
      · exact .inl hasOwner
    · refine .inr ⟨other, ?_⟩
      rwa [Claims.put_of_ne same]

/-- Where the tenants stay, an operation that goes elsewhere keeps all keys covered if the key it
claimed is.
-/
theorem AllCovered.put (covered : AllCovered claims) {op : Nat} {place : OpAt}
    (own
      : ∀ kind resourceKey, resourceKey ≠ "" → (claims.ops op).ClaimsKey kind resourceKey
        → place.ClaimsKey kind resourceKey ∨ ownerOf claims.ownership kind resourceKey ≠ none)
    : AllCovered (claims.put op place) := by
  intro row member stands kind resourceKey carries given
  exact (covered row member stands kind resourceKey carries given).put (own kind resourceKey given)

/-- A column write is a claim of the key it writes, and leaves the other columns alone. -/
theorem allCovered_set {op : Nat} {tenantId : String} {write : ResourceWrite}
    (covered : AllCovered claims) (idle : claims.ops op = .idle)
    : AllCovered ((({ claims with
        tenants := (write.statement tenantId).apply claims.tenants } : Claims).watch op).put op
        (.claiming tenantId write.kind write.resourceKey)) := by
  intro row member stands kind resourceKey carries given
  have kept : Covered claims kind resourceKey
      → Covered (claims.put op (.claiming tenantId write.kind write.resourceKey)) kind
          resourceKey := by
    intro before
    refine before.put fun claimsKey => ?_
    rw [idle] at claimsKey
    exact claimsKey.elim
  rcases Update.mem_apply_cases member with ⟨old, earlier, -, -, isSet⟩ | earlier
  · subst isSet
    rw [write_resource] at carries
    rw [standing, write_status] at stands
    split at carries
    · next same =>
        cases carries
        refine .inr ⟨op, ?_⟩
        rw [Claims.put_self]
        exact ⟨same.symm, rfl⟩
    · exact kept (covered old earlier stands kind resourceKey carries given)
  · exact kept (covered row earlier stands kind resourceKey carries given)

/-- A column that is blanked carries nothing, and the other columns are left alone. -/
theorem allCovered_blank {op : Nat} {tenantId : String} {kind : ResourceKind}
    {resourceKey : Option String} {place : OpAt} (covered : AllCovered claims)
    (here : claims.ops op = .blanking tenantId kind resourceKey)
    : AllCovered (({ claims with
        tenants := (blankResource tenantId kind).apply claims.tenants } : Claims).put op place) := by
  intro row member stands carried key carries given
  have kept : Covered claims carried key → Covered (claims.put op place) carried key := by
    intro before
    refine before.put fun claimsKey => ?_
    rw [here] at claimsKey
    exact claimsKey.elim
  rcases Update.mem_apply_cases member with ⟨old, earlier, -, -, isSet⟩ | earlier
  · subst isSet
    rw [blank_resource] at carries
    rw [standing, blank_status] at stands
    split at carries
    · exact nomatch carries
    · exact kept (covered old earlier stands carried key carries given)
  · exact kept (covered row earlier stands carried key carries given)

/-- An upsert gives its key an owner, and ends the claim of no other key. -/
theorem allCovered_upsert {op : Nat} {tenantId resourceKey : String} {kind : ResourceKind}
    {prior : Option String} (covered : AllCovered claims)
    (here : claims.ops op = .upserting tenantId kind resourceKey prior)
    : AllCovered (({ claims with
        ownership := upsertOwner claims.ownership kind resourceKey tenantId } : Claims).put op
        .idle) := by
  intro row member stands carried key carries given
  by_cases same : (carried, key) = (kind, resourceKey)
  · left
    change ownerOf (upsertOwner claims.ownership kind resourceKey tenantId) carried key ≠ none
    rw [ownerOf_upsert, if_pos same]
    exact Option.some_ne_none tenantId
  · rcases covered row member stands carried key carries given with hasOwner | ⟨other, claimsKey⟩
    · left
      change ownerOf (upsertOwner claims.ownership kind resourceKey tenantId) carried key ≠ none
      rwa [ownerOf_upsert, if_neg same]
    · have differs : other ≠ op := by
        intro isOp
        subst isOp
        rw [here] at claimsKey
        exact same (Prod.ext claimsKey.1.symm claimsKey.2.symm)
      refine .inr ⟨other, ?_⟩
      rwa [Claims.put_of_ne differs]

/-- A delete that leaves no orphan keeps all keys covered. -/
theorem allCovered_release {op : Nat} {tenantId resourceKey : String} {kind : ResourceKind}
    (covered : AllCovered claims)
    (here : claims.ops op = .releasing tenantId kind resourceKey)
    (noOrphan : LeavesNoOrphan claims (.release op))
    : AllCovered (({ claims with
        ownership
          := releaseOwnership claims.ownership kind resourceKey tenantId } : Claims).put op
        .idle) := by
  intro row member stands carried key carries given
  have claimed : ∀ other, (claims.ops other).ClaimsKey carried key
      → ((claims.put op .idle).ops other).ClaimsKey carried key := by
    intro other claimsKey
    have differs : other ≠ op := by
      intro isOp
      subst isOp
      rw [here] at claimsKey
      exact claimsKey
    rwa [Claims.put_of_ne differs]
  rcases covered row member stands carried key carries given with hasOwner | ⟨other, claimsKey⟩
  · obtain ⟨owner, owned⟩ := Option.ne_none_iff_exists'.mp hasOwner
    rcases ownerOf_release owned with kept | ⟨sameKind, sameKey, own⟩
    · left
      intro none
      exact nomatch kept.symm.trans none
    · subst sameKind sameKey own
      obtain ⟨other, claimsKey⟩ :=
        noOrphan owner carried key here owned row member stands carries
      exact .inr ⟨other, claimed other claimsKey⟩
  · exact .inr ⟨other, claimed other claimsKey⟩

/-- A status write keeps all keys covered if a tenant that comes to stand carries covered keys. -/
theorem allCovered_setTenantStatus {now : Nat} {tenantId : String} {status : TenantLifecycle}
    (covered : AllCovered claims)
    (noOrphan : LeavesNoOrphan claims (.setTenantStatus now tenantId status))
    : AllCovered ({ claims with
        tenants
          := (Store.setTenantStatus now tenantId status).apply claims.tenants } : Claims).watchAll := by
  intro row member stands kind resourceKey carries given
  rcases Update.mem_apply_cases member with ⟨old, earlier, found, -, isSet⟩ | earlier
  · subst isSet
    have written : status ≠ .deleted ∧ status ≠ .failed := of_decide_eq_true stands
    have carried : old.resource kind = some resourceKey := by
      cases kind <;> exact carries
    by_cases stood : standing old = true
    · exact covered old earlier stood kind resourceKey carried given
    · exact noOrphan written old found (Bool.eq_false_iff.mpr stood) kind resourceKey carried given
  · exact covered row earlier stands kind resourceKey carries given

/-- Every action that leaves no orphan keeps all keys covered. -/
theorem AllCovered.step {action : ClaimsAction} (covered : AllCovered claims)
    (noOrphan : LeavesNoOrphan claims action) (taken : claims.step action = some next)
    : AllCovered next := by
  cases step_cases taken with
  | set idle => exact allCovered_set covered idle
  | @readOwner op tenantId resourceKey kind here place onward =>
      refine covered.put fun carried key given claimsKey => ?_
      rw [here] at claimsKey
      obtain ⟨sameKind, sameKey⟩ := claimsKey
      subst sameKind sameKey
      cases onward with
      | noKey empty => exact absurd empty given
      | noOwner prior free => exact .inl ⟨rfl, rfl⟩
      | another prior owned => exact .inr (owned ▸ Option.some_ne_none prior)
  | declined here =>
      refine covered.put fun carried key given claimsKey => ?_
      rw [here] at claimsKey
      exact claimsKey.elim
  | readStatus here gone =>
      refine covered.put fun carried key given claimsKey => ?_
      rw [here] at claimsKey
      exact claimsKey.elim
  | upsert here => exact allCovered_upsert covered here
  | readKey found idle =>
      refine covered.put fun carried key given claimsKey => ?_
      rw [idle] at claimsKey
      exact claimsKey.elim
  | blank here place onward => exact allCovered_blank covered here
  | release here => exact allCovered_release covered here noOrphan
  | setTenantStatus => exact allCovered_setTenantStatus covered noOrphan

-----------------------------------------------------------------------------------------
-- Whole runs
-----------------------------------------------------------------------------------------

theorem watched_opening (tenants : Tenants) (ownership : Keyed Ownership.key)
    : Watched (Claims.opening tenants ownership) where
  noted _ isClaim := isClaim.elim
  read _ _ _ _ _ here := nomatch here

/-- From tables in which every key that a standing tenant carries has an owner: no owner that stands
is robbed exactly when every upsert finds what its claim has read, and while deletes and status writes
leave no orphan, the keys stay owned whenever nothing is under way.
-/
theorem ownershipKept (tenants : Tenants) (ownership : Keyed Ownership.key)
    (run : List ClaimsAction) (owned : KeysOwned (Claims.opening tenants ownership))
    : (Throughout Claims.step NotStolen (Claims.opening tenants ownership) run
        ↔ Throughout Claims.step OwnerAsRead (Claims.opening tenants ownership) run)
      ∧ (Throughout Claims.step LeavesNoOrphan (Claims.opening tenants ownership) run
        → Everywhere Claims.step KeysOwned (Claims.opening tenants ownership) run) := by
  constructor
  · refine throughout_congr ?_ ?_ (watched_opening tenants ownership)
    · exact fun claims action next watched taken => Watched.step watched taken
    · exact fun claims action next watched taken => notStolen_iff watched taken
  · intro noOrphan
    have covered : AllCovered (Claims.opening tenants ownership) := by
      intro row member stands kind resourceKey carries given
      exact .inl (owned (fun _ => rfl) row member stands kind resourceKey carries given)
    refine everywhere_of_throughout ?_ (fun _ => AllCovered.owned) covered noOrphan
    exact fun claims action next kept leaves taken => AllCovered.step kept leaves taken

-----------------------------------------------------------------------------------------
-- Two tenants of one database
-----------------------------------------------------------------------------------------

def provisioningTenant (id slug : String) : Tenant where
  id := id
  slug := slug
  accountId := "acc_" ++ slug
  status := .provisioning

/-- Two tenants that are being provisioned, and own nothing yet. -/
def twoTenants : Claims :=
  .opening
    ((Keyed.singleton (provisioningTenant "ten_a" "alpha")).insertOrIgnore
      (provisioningTenant "ten_b" "beta"))
    .empty

/-- Both claims read that the database has no owner. -/
def bothRead : List ClaimsAction :=
  [.set 0 "ten_a" (.setTenantD1 "db_1"), .set 1 "ten_b" (.setTenantD1 "db_1"), .readOwner 0,
    .readOwner 1, .upsert 0]

/-- The second claim is refused, and then the owner clears its column. -/
def ownerClears : List ClaimsAction :=
  [.set 0 "ten_a" (.setTenantD1 "db_1"), .readOwner 0, .upsert 0,
    .set 0 "ten_b" (.setTenantD1 "db_1"), .readOwner 0, .readStatus 0,
    .readKey 0 "ten_a" .d1, .blank 0, .release 0]

/-- Two claims that read the same absence: the second robs the first, which stood all along. -/
theorem bothRead_steals : ¬Throughout Claims.step NotStolen twoTenants (bothRead ++ [.upsert 1]) := by
  intro kept
  obtain ⟨claims, reached, shown⟩ := Option.map_eq_some_iff.mp
    (show (exec Claims.step twoTenants bothRead).map (fun claims =>
        (ownerOf claims.ownership .d1 "db_1", claims.lapsed 1 "ten_a",
          (claims.step (.upsert 1)).map fun next => ownerOf next.ownership .d1 "db_1"))
      = some (some "ten_a", false, some (some "ten_b")) by decide +kernel)
  simp only [Prod.mk.injEq] at shown
  obtain ⟨owned, stood, after⟩ := shown
  obtain ⟨next, upserted, robbed⟩ := Option.map_eq_some_iff.mp after
  have atUpsert := ((throughout_cons upserted).mp (throughout_append kept reached).2).1
  obtain ⟨op, isUpsert, lapsed⟩ :=
    (atUpsert next upserted).notStolen .d1 "db_1" "ten_a" "ten_b" owned robbed (by decide)
  cases isUpsert
  exact Bool.false_ne_true (stood.symm.trans lapsed)

/-- The owner of a database clears it, and the tenant that still carries it is left without one. -/
theorem ownerClears_orphans : ¬Everywhere Claims.step KeysOwned twoTenants ownerClears := by
  intro owned
  obtain ⟨final, reached, idle, carries, orphan⟩
      : ∃ final, exec Claims.step twoTenants ownerClears = some final
          ∧ (∀ op, final.ops op = .idle)
          ∧ (∃ row ∈ final.tenants.rows, standing row ∧ row.resource .d1 = some "db_1")
          ∧ ownerOf final.ownership .d1 "db_1" = none := by
    refine ⟨_, rfl, fun op => ?_, ?_, rfl⟩
    · by_cases own : op = 0
      · subst own
        rfl
      · simp only [Claims.put, Claims.watch, Function.update_of_ne own]
        rfl
    · exact ⟨{ provisioningTenant "ten_b" "beta" with d1DatabaseId := some "db_1" },
        List.mem_of_mem_tail List.mem_cons_self, rfl, rfl⟩
  obtain ⟨row, member, stands, onRow⟩ := carries
  exact owned.final reached idle row member stands .d1 "db_1" onRow (by decide) orphan

/-- Neither half holds of every run. -/
theorem claimsAndClears_fail
    : ¬Throughout Claims.step NotStolen twoTenants (bothRead ++ [.upsert 1])
      ∧ ¬Everywhere Claims.step KeysOwned twoTenants ownerClears :=
  ⟨bothRead_steals, ownerClears_orphans⟩

/-- Tenants that carry nothing are owed no owner. -/
theorem twoTenants_owned : KeysOwned twoTenants := by
  intro _ row member _ kind resourceKey carries
  have rows : twoTenants.tenants.rows
      = [provisioningTenant "ten_a" "alpha", provisioningTenant "ten_b" "beta"] :=
    rfl
  rw [rows, List.mem_cons, List.mem_singleton] at member
  rcases member with isFirst | isSecond
  · subst isFirst
    cases kind <;> exact nomatch carries
  · subst isSecond
    cases kind <;> exact nomatch carries

theorem bothRead_kept_iff
    : (Throughout Claims.step NotStolen twoTenants bothRead
        ↔ Throughout Claims.step OwnerAsRead twoTenants bothRead)
      ∧ (Throughout Claims.step LeavesNoOrphan twoTenants bothRead
        → Everywhere Claims.step KeysOwned twoTenants bothRead) :=
  ownershipKept _ _ bothRead twoTenants_owned

end ControlPlane.Ownership
