import ControlPlane.Cloudflare.TokenCensus
import ControlPlane.Library.HexText
import ControlPlane.Modules.Catalog
import ControlPlane.Provision.Invocation
import ControlPlane.Teardown.Guard

/-! The names under which a tenant's resources are found again are no other tenant's: what a
teardown revokes by name and sweeps by prefix is the tenant's own, in whatever the account holds.
-/

namespace ControlPlane.Teardown

open ControlPlane.Cloudflare
open ControlPlane.Library
open ControlPlane.Modules (tenantModuleScriptName)
open ControlPlane.Provision (tenantBucketName tenantD1Name)
open ControlPlane.Store

-----------------------------------------------------------------------------------------
-- Names of tokens, databases and buckets
-----------------------------------------------------------------------------------------

/-- The credentials of a tenant that are named after its slug. -/
inductive TokenKind
  | r2
  | aig
  | studioAig
  | r2Teardown
  deriving DecidableEq, Repr

def tokenName : TokenKind → String → String
  | .r2 => tenantR2TokenName
  | .aig => tenantAigTokenName
  | .studioAig => tenantStudioAigTokenName
  | .r2Teardown => tenantR2TeardownTokenName

/-- What a kind puts behind the slug. -/
def TokenKind.ending : TokenKind → String
  | .r2 => "-r2"
  | .aig => "-aig"
  | .studioAig => "-aig-studio"
  | .r2Teardown => "-teardown"

theorem tokenName_eq (kind : TokenKind) (slug : String)
    : tokenName kind slug = "vivijure-tenant-" ++ slug ++ kind.ending := by
  cases kind <;> rfl

/-- The last letter of a name tells its kind, whatever the slug ends in. -/
theorem tokenName_getLast? (kind : TokenKind) (slug : String)
    : (tokenName kind slug).toList.getLast? = kind.ending.toList.getLast? := by
  rw [tokenName_eq, String.toList_append]
  cases kind <;> exact List.getLast?_append_of_ne_nil _ (by decide)

theorem kind_of_getLast? {kind other : TokenKind}
    (same : kind.ending.toList.getLast? = other.ending.toList.getLast?)
    : kind = other := by
  cases kind <;> cases other <;> first | rfl | exact absurd same (by decide)

/-- A name is of one kind and one slug. -/
theorem tokenName_inj {kind other : TokenKind} {slug neighbour : String}
    (same : tokenName kind slug = tokenName other neighbour)
    : kind = other ∧ slug = neighbour := by
  have last := congrArg (fun name : String => name.toList.getLast?) same
  simp only [tokenName_getLast?] at last
  have sameKind := kind_of_getLast? last
  subst sameKind
  rw [tokenName_eq, tokenName_eq, String.append_left_inj, String.append_right_inj] at same
  exact ⟨rfl, same⟩

theorem tenantD1Name_injective : Function.Injective tenantD1Name := by
  intro slug neighbour same
  simpa [tenantD1Name] using same

theorem tenantBucketName_injective : Function.Injective tenantBucketName :=
  tenantD1Name_injective

-----------------------------------------------------------------------------------------
-- Names of module scripts
-----------------------------------------------------------------------------------------

/-- An id with its type in front: 96 random bits. -/
def newId (front : String) (buf : Vector UInt8 12) : String :=
  front ++ "_" ++ String.ofList (hexText buf.toList)

/-- Letters that become small one by one, or once the runs are hyphens. -/
theorem hyphenate_eq (inRun : Bool) (chars : List Char)
    : hyphenate inRun chars = (Modules.hyphenated inRun chars).map Char.toLower := by
  induction chars generalizing inRun with
  | nil => rfl
  | cons c rest ih =>
      simp only [hyphenate, Modules.hyphenated]
      split
      · simp [ih]
      · cases inRun with
        | true => simp [ih]
        | false => simp [ih]

/-- The sweep looks for the prefix that the uploads put in front of their names. -/
theorem tenantModuleScriptPrefix_eq (tenantId : String)
    : tenantModuleScriptPrefix tenantId = Modules.tenantModuleScriptPrefix tenantId := by
  rw [tenantModuleScriptPrefix, Modules.tenantModuleScriptPrefix, hyphenate_eq]

/-- A digit stays as it is. -/
theorem plain_hexDigit {value : Nat} (below : value < 16)
    : (Json.hexDigit value).isAlphanum = true
      ∧ (Json.hexDigit value).toLower = Json.hexDigit value := by
  have all : ∀ value < 16,
      (Json.hexDigit value).isAlphanum = true
        ∧ (Json.hexDigit value).toLower = Json.hexDigit value := by
    decide
  exact all value below

/-- Digits stay as they are, by induction on them. -/
theorem hyphenate_digits (inRun : Bool) {digits : List Char} (rest : List Char)
    (hex : ∀ c ∈ digits, ∃ value < 16, c = Json.hexDigit value) (filled : digits ≠ [])
    : hyphenate inRun (digits ++ rest) = digits ++ hyphenate false rest := by
  induction digits generalizing inRun with
  | nil => exact absurd rfl filled
  | cons c digits ih =>
      obtain ⟨value, below, isDigit⟩ := hex c List.mem_cons_self
      obtain ⟨plain, small⟩ := plain_hexDigit below
      rw [← isDigit] at plain small
      rw [List.cons_append, hyphenate, if_pos plain, small]
      cases digits with
      | nil => rfl
      | cons next digits =>
          have later := ih false (fun c isLater => hex c (List.mem_cons_of_mem _ isLater))
            (List.cons_ne_nil _ _)
          rw [later]
          rfl

/-- The prefix of an id that was made for a tenant. -/
theorem prefix_newId (buf : Vector UInt8 12)
    : (tenantModuleScriptPrefix (newId "ten" buf)).toList
      = ['t', 'e', 'n', '-'] ++ hexText buf.toList ++ ['-'] := by
  have filled : hexText buf.toList ≠ [] := by
    apply List.ne_nil_of_length_pos
    simp
  have digits : hyphenate true (hexText buf.toList) = hexText buf.toList := by
    have whole := hyphenate_digits true [] (fun c => exists_of_mem_hexText) filled
    simpa [hyphenate] using whole
  have front : hyphenate false ('t' :: 'e' :: 'n' :: '_' :: hexText buf.toList)
      = 't' :: 'e' :: 'n' :: '-' :: hyphenate true (hexText buf.toList) := rfl
  have chars : (newId "ten" buf).toList = 't' :: 'e' :: 'n' :: '_' :: hexText buf.toList := by
    simp [newId]
  rw [tenantModuleScriptPrefix, chars, front, digits]
  simp

/-- A prefix of an id that was made is in front of the scripts of that id only. -/
theorem id_of_isPrefixOf {buf other : Vector UInt8 12} {moduleName : String}
    (found
      : (tenantModuleScriptPrefix (newId "ten" buf)).isPrefixOf
          (tenantModuleScriptName (newId "ten" other) moduleName)
        = true)
    : newId "ten" buf = newId "ten" other := by
  have front : (tenantModuleScriptPrefix (newId "ten" buf)).toList
      <+: (tenantModuleScriptName (newId "ten" other) moduleName).toList :=
    String.startsWith_string_iff.mp found
  have named : (tenantModuleScriptName (newId "ten" other) moduleName).toList
      = (tenantModuleScriptPrefix (newId "ten" other)).toList ++ moduleName.toList := by
    rw [tenantModuleScriptName, ← tenantModuleScriptPrefix_eq, String.toList_append]
  have sameLength : (tenantModuleScriptPrefix (newId "ten" buf)).toList.length
      = (tenantModuleScriptPrefix (newId "ten" other)).toList.length := by
    simp [prefix_newId]
  rw [named] at front
  have same := List.IsPrefix.eq_of_length
    (List.prefix_of_prefix_length_le front (List.prefix_append _ _) sameLength.le) sameLength
  rw [prefix_newId, prefix_newId] at same
  have digits : hexText buf.toList = hexText other.toList := by simpa using same
  rw [newId, newId, digits]

-----------------------------------------------------------------------------------------
-- What an account keeps
-----------------------------------------------------------------------------------------

/-- The tokens of an account, and the scripts of the namespace of modules. -/
structure Holdings where
  tokens : List AccountTokenSummary
  scripts : List String

/-- The calls that reach what they delete by its name alone. -/
def TeardownCall.byName (namespaces : Namespaces) : TeardownCall → Bool
  | .revokeByName _ => true
  | .deleteUserWorker dispatchNamespace _ => dispatchNamespace = namespaces.modules
  | _ => false

/-- What a call by name leaves of an account, which may fail it in any of its ways. -/
inductive Leaves (namespaces : Namespaces) : TeardownCall → Holdings → Holdings → Prop
  | revoked (account : TokenAccount) (name : String) (scripts : List String)
    : Leaves namespaces (.revokeByName name) ⟨account.tokens, scripts⟩
        ⟨account.afterRevoke name, scripts⟩
  | deleted (script : String) (tokens : List AccountTokenSummary) (scripts : List String)
    : Leaves namespaces (.deleteUserWorker namespaces.modules script) ⟨tokens, scripts⟩
        ⟨tokens, scripts.filter fun resident => resident ≠ script⟩
  | kept (script : String) (holdings : Holdings)
    : Leaves namespaces (.deleteUserWorker namespaces.modules script) holdings holdings

/-- What calls by name leave of an account, one after another. -/
inductive LeavesAll (namespaces : Namespaces) : List TeardownCall → Holdings → Holdings → Prop
  | nil (holdings : Holdings) : LeavesAll namespaces [] holdings holdings
  | cons {call : TeardownCall} {calls : List TeardownCall} {before middle after : Holdings}
      (first : Leaves namespaces call before middle)
      (rest : LeavesAll namespaces calls middle after)
    : LeavesAll namespaces (call :: calls) before after

/-- What an account holds of a tenant is still there. -/
structure Keeps (tenant : Tenant) (before after : Holdings) : Prop where
  tokens : ∀ token ∈ before.tokens, (∃ kind, token.name = tokenName kind tenant.slug) →
    token ∈ after.tokens
  scripts : ∀ script ∈ before.scripts,
    (∃ moduleName, script = tenantModuleScriptName tenant.id moduleName) → script ∈ after.scripts

/-- A call by one of a tenant's own names. -/
def ByOwnName (namespaces : Namespaces) (tenant : Tenant) : TeardownCall → Prop
  | .revokeByName name => ∃ kind, name = tokenName kind tenant.slug
  | .deleteUserWorker dispatchNamespace script =>
      dispatchNamespace = namespaces.modules
      → (tenantModuleScriptPrefix tenant.id).isPrefixOf script = true
  | _ => True

/-- Two tenants, with ids that were made for tenants. The slugs may be any. -/
structure Neighbours (tenant other : Tenant) : Prop where
  slugs : tenant.slug ≠ other.slug
  ids : tenant.id ≠ other.id
  made : ∃ buf, tenant.id = newId "ten" buf
  otherMade : ∃ buf, other.id = newId "ten" buf

/-- No script of a neighbour starts with the prefix of a tenant. -/
theorem not_isPrefixOf {tenant other : Tenant} (neighbours : Neighbours tenant other)
    (moduleName : String)
    : (tenantModuleScriptPrefix tenant.id).isPrefixOf (tenantModuleScriptName other.id moduleName)
      = false := by
  obtain ⟨buf, isMade⟩ := neighbours.made
  obtain ⟨otherBuf, isOther⟩ := neighbours.otherMade
  rw [Bool.eq_false_iff, isMade, isOther]
  intro found
  exact neighbours.ids (by rw [isMade, isOther, id_of_isPrefixOf found])

/-- A revocation by name keeps the tokens that have another one. -/
theorem mem_afterRevoke {account : TokenAccount} {name : String} {token : AccountTokenSummary}
    (member : token ∈ account.tokens) (differs : token.name ≠ name)
    : token ∈ account.afterRevoke name := by
  simp only [TokenAccount.afterRevoke]
  rcases account.revoke_cases name with ⟨failure, -, same⟩ | ⟨-, same⟩ | ⟨hit, found, same⟩
  · rwa [same]
  · rwa [same]
  · obtain ⟨isHeld, named⟩ := TokenAccount.find_some found
    rw [same]
    simp only [TokenAccount.afterDelete]
    have other : token.id ≠ hit.id := by
      intro sameId
      have sameToken := List.inj_on_of_nodup_map account.distinct member isHeld sameId
      exact differs (sameToken ▸ named)
    split
    · exact List.mem_filter.mpr ⟨member, decide_eq_true other⟩
    · exact List.mem_filter.mpr ⟨member, decide_eq_true other⟩
    · exact member

/-- One call by a tenant's own name takes nothing from a neighbour. -/
theorem keeps_of_leaves {namespaces : Namespaces} {tenant other : Tenant} {call : TeardownCall}
    {before after : Holdings} (neighbours : Neighbours tenant other)
    (own : ByOwnName namespaces tenant call) (leaves : Leaves namespaces call before after)
    : Keeps other before after := by
  cases leaves with
  | revoked account name scripts =>
      obtain ⟨ownKind, isOwn⟩ := own
      refine ⟨?_, fun script resident _ => resident⟩
      intro token held ⟨kind, named⟩
      refine mem_afterRevoke held ?_
      rw [named, isOwn]
      intro same
      exact neighbours.slugs (tokenName_inj same).2.symm
  | deleted script tokens scripts =>
      refine ⟨fun token held _ => held, ?_⟩
      intro resident isResident ⟨moduleName, named⟩
      refine List.mem_filter.mpr ⟨isResident, decide_eq_true ?_⟩
      intro same
      have apart := not_isPrefixOf neighbours moduleName
      rw [← named, same, own rfl] at apart
      cases apart
  | kept script holdings => exact ⟨fun token held _ => held, fun script resident _ => resident⟩

/-- Calls by a tenant's own names take nothing from a neighbour, by induction on the calls. -/
theorem keeps_of_leavesAll {namespaces : Namespaces} {tenant other : Tenant}
    {calls : List TeardownCall} {before after : Holdings} (neighbours : Neighbours tenant other)
    (own : ∀ call ∈ calls, ByOwnName namespaces tenant call)
    (leaves : LeavesAll namespaces calls before after)
    : Keeps other before after := by
  induction leaves with
  | nil holdings => exact ⟨fun token held _ => held, fun script resident _ => resident⟩
  | cons first rest ih =>
      have now := keeps_of_leaves neighbours (own _ List.mem_cons_self) first
      have later := ih fun call isLater => own call (List.mem_cons_of_mem _ isLater)
      constructor
      · intro token held named
        exact later.tokens token (now.tokens token held named) named
      · intro script resident named
        exact later.scripts script (now.scripts script resident named) named

-----------------------------------------------------------------------------------------
-- The calls of a teardown
-----------------------------------------------------------------------------------------

/-- What a reap calls by name, it calls by the tenant's own names. -/
theorem continues_byOwnName (outside : Outside) (namespaces : Namespaces) (tenant : Tenant)
    (opts : TeardownOpts) (referrers : List ResourceReferrer) (store : TenantStore)
    : Continues (ByOwnName namespaces tenant) (fun _ => False) { store := store }
        (reap outside namespaces tenant opts referrers { store := store }) := by
  have elsewhere : ∀ kind resourceKey call,
      TeardownCall.destroys namespaces call = some (kind, resourceKey)
        → ByOwnName namespaces tenant call := by
    intro kind resourceKey call destroys
    cases call with
    | revokeByName name => cases destroys
    | deleteUserWorker dispatchNamespace script =>
        intro isModules
        rw [isModules, TeardownCall.destroys, if_neg namespaces.apart] at destroys
        cases destroys
    | revoke tokenId => trivial
    | deleteD1 databaseId => trivial
    | mintBucketToken name bucket => trivial
    | emptyBucket bucket => trivial
    | deleteR2Bucket bucket => trivial
  have workerDone : Continues (ByOwnName namespaces tenant) (fun kind => kind ≠ .worker)
      { store := store }
      (workerLeg outside namespaces tenant opts referrers { store := store }) := by
    refine continues_workerLeg (fun _ => ?_) fun _ kept => kept
    exact fun isModules => absurd isModules.symm namespaces.apart
  refine (workerDone.weaken fun _ => False.elim).trans
    (continues_reapBehindWorker workerDone.owners ?_ ?_ ?_ ?_ ?_)
  · exact fun script own _ => own
  · intro kind resourceKey before _ _ _ call destroys
    exact elsewhere kind resourceKey call destroys
  · intro name revoked
    simp only [revokedNames, List.mem_cons, List.not_mem_nil, or_false] at revoked
    rcases revoked with isR2 | isAig | isStudioAig
    · exact ⟨.r2, isR2⟩
    · exact ⟨.aig, isAig⟩
    · exact ⟨.studioAig, isStudioAig⟩
  · exact fun name bucket => trivial
  · exact fun credentialId _ => trivial

theorem byOwnName_of_issued {outside : Outside} {namespaces : Namespaces} {tenant : Tenant}
    {opts : TeardownOpts} {store : TenantStore} {call : TeardownCall}
    (issued : call ∈ (teardownTenant outside namespaces tenant opts store).calls)
    : ByOwnName namespaces tenant call := by
  rcases teardownTenant_calls outside namespaces tenant opts store
    with ⟨-, referrers, -, same⟩ | ⟨-, none⟩
  · rw [same] at issued
    exact (continues_byOwnName outside namespaces tenant opts referrers store).all
      (fun _ member => absurd member List.not_mem_nil) call issued
  · rw [none] at issued
    exact absurd issued List.not_mem_nil

/-- teardownTenantModules, as its own outcome. -/
def teardownTenantModules (outside : Outside) (namespaces : Namespaces) (tenant : Tenant)
    (store : TenantStore)
    : TeardownOutcome :=
  (modulesLeg outside namespaces tenant { store := store }).outcome

/-- A sweep that is ok has seen that nothing of the tenant's prefix is left. -/
theorem remaining_of_ok {outside : Outside} {namespaces : Namespaces} {tenant : Tenant}
    {store : TenantStore} (ok : (teardownTenantModules outside namespaces tenant store).ok = true)
    : ∃ resident, outside.remainingModules = .ok resident
      ∧ ∀ script ∈ resident, (tenantModuleScriptPrefix tenant.id).isPrefixOf script = false := by
  have silent : (modulesLeg outside namespaces tenant { store := store }).failures.length = 0 :=
    of_decide_eq_true ok
  unfold modulesLeg at silent
  simp only at silent
  split at silent
  · simp [Pass.fail] at silent
  · split at silent
    · simp [Pass.fail] at silent
    · next resident listed =>
        split at silent
        · simp [Pass.fail] at silent
        · next nothing =>
            refine ⟨resident, listed, fun script isResident => Bool.eq_false_iff.mpr ?_⟩
            intro own
            exact nothing (List.length_pos_of_mem (List.mem_filter.mpr ⟨isResident, own⟩))

/-- What a teardown of a tenant means for a neighbour of it. -/
structure ReapsApart (tenant other : Tenant) : Prop where
  tokens : ∀ kind otherKind, tokenName kind tenant.slug ≠ tokenName otherKind other.slug
  kinds : ∀ kind otherKind,
    tokenName kind tenant.slug = tokenName otherKind tenant.slug → kind = otherKind
  databases : tenantD1Name tenant.slug ≠ tenantD1Name other.slug
  buckets : tenantBucketName tenant.slug ≠ tenantBucketName other.slug
  scripts : ∀ moduleName,
    (tenantModuleScriptPrefix tenant.id).isPrefixOf (tenantModuleScriptName other.id moduleName)
      = false
  /-- Of what an account holds of the neighbour, all its calls by name leave everything. -/
  reaped : ∀ outside namespaces opts store before after,
    LeavesAll namespaces
      ((teardownTenant outside namespaces tenant opts store).calls.filter
        (TeardownCall.byName namespaces)) before after
    → Keeps other before after
  /-- It says of its sweep that it is ok only if its last listing had none of the scripts. -/
  swept : ∀ outside namespaces store,
    (teardownTenantModules outside namespaces tenant store).ok = true
    → ∃ resident, outside.remainingModules = .ok resident
      ∧ ∀ script ∈ resident, (tenantModuleScriptPrefix tenant.id).isPrefixOf script = false

/-- Neighbours share no name, and a teardown of one leaves the other what it has. -/
theorem reapsApart {tenant other : Tenant} (neighbours : Neighbours tenant other)
    : ReapsApart tenant other where
  tokens := by
    intro kind otherKind same
    exact neighbours.slugs (tokenName_inj same).2
  kinds kind otherKind same := (tokenName_inj same).1
  databases := tenantD1Name_injective.ne neighbours.slugs
  buckets := tenantBucketName_injective.ne neighbours.slugs
  scripts := not_isPrefixOf neighbours
  reaped := by
    intro outside namespaces opts store before after
    apply keeps_of_leavesAll neighbours
    intro call issued
    exact byOwnName_of_issued (List.mem_of_mem_filter issued)
  swept outside namespaces store := remaining_of_ok

/-- A tenant by its id and slug. -/
def named (buf : Vector UInt8 12) (slug : String) : Tenant where
  id := newId "ten" buf
  slug := slug
  accountId := "acct_1"
  status := .live

/-- A slug that ends as the token names do, beside the one it continues. -/
theorem reapsApart_suffixed
    : ReapsApart (named (Vector.replicate 12 0) "film")
        (named (Vector.replicate 12 1) "film-aig") :=
  reapsApart
    { slugs := by decide
      ids := by decide
      made := ⟨_, rfl⟩
      otherMade := ⟨_, rfl⟩ }

end ControlPlane.Teardown
