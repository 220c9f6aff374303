import ControlPlane.Store.Ownership

/-! One teardown of one tenant, as the calls it issues and the failures it collects. Which store
reads and API calls fail is left open; no failure stops the pass, apart from the two
reads that come before the first deletion.
-/

namespace ControlPlane.Teardown

open ControlPlane.Library
open ControlPlane.Store

/-- What a call can throw: an answer of the API that says no, or anything else. -/
inductive Thrown
  | other (message : String)
  | cfApi (status : Nat) (codes : List Nat) (message : String)
  deriving DecidableEq, Repr

/-- String(e). -/
def Thrown.text : Thrown → String
  | .other message => message
  | .cfApi _ _ message => message

/-- The code of a script that is not there. -/
def cfScriptNotFound : Nat := 10007

/-- The one answer that proves a script is already gone. -/
def isScriptAbsent : Thrown → Bool
  | .cfApi status codes _ => status = 404 ∧ cfScriptNotFound ∈ codes
  | .other _ => false

/-- What a refusal reports of an open hold. -/
structure PreservationHold where
  id : String
  kind : String
  reason : String
  openedAt : String
  openedBy : String
  expiresAt : Option String
  deriving DecidableEq, Repr

structure EmptyBucketResult where
  emptied : Bool
  deleted : Nat
  stalled : Option String
  deriving DecidableEq, Repr

structure TeardownOpts where
  deleteData : Bool
  ignoreTombstoneReferrers : Bool := false
  deriving DecidableEq, Repr

/-- The two dispatch namespaces: tenant studios, and tenant modules. They are kept apart, as
sharing one would collide script names.
-/
structure Namespaces where
  studios : String
  modules : String
  apart : modules ≠ studios

/-- What the store and the API answer to a pass. A throw is none of the store's statements. -/
structure Outside where
  holds : Except Thrown (List PreservationHold)
  referrers : Option Thrown
  owner : ResourceKind → Option Thrown
  deleteUserWorker : String → String → Option Thrown
  listedModules : Except Thrown (List String)
  remainingModules : Except Thrown (List String)
  revoke : String → Option Thrown
  revokeByName : String → Option Thrown
  harvestComplete : Except Thrown Bool
  indexRunpodJobs : Option Thrown
  deleteD1 : Option Thrown
  mintBucketToken : Except Thrown String
  emptyBucket : Except Thrown EmptyBucketResult
  deleteR2Bucket : Option Thrown
  clear : ResourceKind → Option (ClearFault × Thrown)
  recordTeardown : Option Thrown

/-- The calls of a pass that change something outside the store. -/
inductive TeardownCall
  | deleteUserWorker (dispatchNamespace script : String)
  | revoke (tokenId : String)
  | revokeByName (name : String)
  | deleteD1 (databaseId : String)
  | mintBucketToken (name bucket : String)
  | emptyBucket (bucket : String)
  | deleteR2Bucket (bucket : String)
  deriving DecidableEq, Repr

/-- What was already gone when the pass came to delete it. -/
structure Absence where
  resource : String
  detail : String
  deriving DecidableEq, Repr

/-- A pass on its way: the tables, the calls issued, and what it has to report. -/
structure Pass where
  store : TenantStore
  calls : List TeardownCall := []
  failures : List TeardownFailure := []
  absent : List Absence := []
  recorded : Option (List TeardownFailure) := none

def tenantScriptName (slug : String) : String := "tenant-" ++ slug ++ "-studio"

def tenantR2TokenName (slug : String) : String := "vivijure-tenant-" ++ slug ++ "-r2"

def tenantAigTokenName (slug : String) : String := "vivijure-tenant-" ++ slug ++ "-aig"

def tenantStudioAigTokenName (slug : String) : String :=
  "vivijure-tenant-" ++ slug ++ "-aig-studio"

def tenantR2TeardownTokenName (slug : String) : String :=
  "vivijure-tenant-" ++ slug ++ "-teardown"

/-- Each run of other characters becomes one hyphen, and letters become small. -/
def hyphenate : Bool → List Char → List Char
  | _, [] => []
  | inRun, c :: rest =>
      if c.isAlphanum then c.toLower :: hyphenate false rest
      else if inRun then hyphenate true rest
      else '-' :: hyphenate true rest

/-- The module scripts of a tenant start with its id. -/
def tenantModuleScriptPrefix (tenantId : String) : String :=
  String.ofList (hyphenate false tenantId.toList) ++ "-"

/-- A column that is neither null nor empty. -/
def truthy (column : Option String) : Option String :=
  column.filter fun value => value ≠ ""

namespace Pass

def call (pass : Pass) (issued : TeardownCall) : Pass :=
  { pass with calls := pass.calls ++ [issued] }

def fail (pass : Pass) (resource error : String) : Pass :=
  { pass with failures := pass.failures ++ [{ resource := resource, error := error }] }

def gone (pass : Pass) (resource detail : String) : Pass :=
  { pass with absent := pass.absent ++ [{ resource := resource, detail := detail }] }

/-- Blank a column. A store that fails is its own entry: the resource is gone all the same. -/
def clearColumn (outside : Outside) (tenantId : String) (pass : Pass) (resource : String)
    (clears : ResourceKind)
    : Pass :=
  let cleared :=
    { pass with
      store := clearTenantResource pass.store tenantId clears
        ((outside.clear clears).map Prod.fst) }
  match outside.clear clears with
  | some fault => cleared.fail (resource ++ "_record") fault.2.text
  | none => cleared

/-- Blank the column that a leg clears, if it clears one. -/
def clearAny (outside : Outside) (tenantId : String) (pass : Pass) (resource : String)
    : Option ResourceKind → Pass
  | some clears => pass.clearColumn outside tenantId resource clears
  | none => pass

/-- Try to delete, and blank the column on success or when the thing was already gone. -/
def attempt (outside : Outside) (tenantId : String) (pass : Pass) (resource : String)
    (fn : Pass → Pass × Option Thrown) (clears : Option ResourceKind)
    (absentWhen : Thrown → Bool)
    : Pass :=
  match fn pass with
  | (after, none) => after.clearAny outside tenantId resource clears
  | (after, some thrown) =>
      if absentWhen thrown then
        (after.gone resource thrown.text).clearAny outside tenantId resource clears
      else
        after.fail resource thrown.text

end Pass

/-- The other rows that point at the tenant's resource of a kind. -/
def blocked (referrers : List ResourceReferrer) (kind : ResourceKind) : List ResourceReferrer :=
  referrers.filter fun referrer => referrer.resource = kind

/-- What the ownership lookup of a pass answers. An empty key is not looked up. -/
def ownerLookup (outside : Outside) (ownership : Keyed Ownership.key) (kind : ResourceKind)
    (resourceKey : String)
    : Except Thrown (Option String) :=
  if resourceKey = "" then .ok none
  else
    match outside.owner kind with
    | some thrown => .error thrown
    | none => .ok (getResourceOwner ownership kind resourceKey)

/-- An answer that names no owner: none is recorded, or the empty text is. -/
def namesNobody : Except Thrown (Option String) → Bool
  | .ok owner => owner = none ∨ owner = some ""
  | .error _ => false

/-- What the operator may do about a refusal. -/
def refusalAdvice (tenantId : String) (live : Bool) (lookup : Except Thrown (Option String))
    : String :=
  if live then " -- AT LEAST ONE IS NOT DELETED, this resource is in use"
  else
    match lookup with
    | .ok (some owner) =>
        if owner ≠ "" ∧ owner ≠ tenantId then
          " -- recorded owner is " ++ owner ++
            ", not this tenant (i_own cannot override a recorded owner)"
        else legacyAdvice
    | .ok none => legacyAdvice
    | .error _ =>
        " -- all referrers are tombstones, but the ownership lookup FAILED, so whether this " ++
        "tenant owns the resource is UNKNOWN. i_own is refused on an unknown, not on a legacy " ++
        "row. Retry once the store is reachable (cp#106)"
where
  legacyAdvice : String :=
    " -- all referrers are tombstones and NO owner is recorded (legacy); re-run with i_own: \"" ++
      tenantId ++ "\" after verifying ownership, or re-provision to record ownership (cp#106)"

/-- Who is recorded as the owner of the tenant's resource of a kind. -/
def recordedOwner (outside : Outside) (tenant : Tenant) (ownership : Keyed Ownership.key)
    (kind : ResourceKind)
    : Except Thrown (Option String) :=
  match tenant.resource kind with
  | some resourceKey => ownerLookup outside ownership kind resourceKey
  | none => .ok none

/-- Refuse a resource that another row still points at, and say who. A tombstone's claim gives
way to a recorded owner, and to the operator where nobody is recorded.
-/
def guarded (outside : Outside) (tenant : Tenant) (opts : TeardownOpts)
    (referrers : List ResourceReferrer) (kind : ResourceKind) (pass : Pass)
    : Pass × Bool :=
  let hits := blocked referrers kind
  if hits = [] then (pass, false)
  else
    let live := hits.any fun hit => hit.status ≠ .deleted
    let lookup := recordedOwner outside tenant pass.store.ownership kind
    if ¬ live ∧ lookup.toOption.join = some tenant.id then (pass, false)
    else if ¬ live ∧ namesNobody lookup ∧ opts.ignoreTombstoneReferrers then (pass, false)
    else
      let who := ", ".intercalate (hits.map fun hit =>
        hit.tenantId ++ " (" ++ hit.slug ++ ", status=" ++ hit.status.text ++ ")")
      (pass.fail kind.text
        ("refused: " ++ kind.text ++ " is still referenced by " ++ toString hits.length ++
          " other tenant row(s): " ++ who ++ refusalAdvice tenant.id live lookup), true)

end ControlPlane.Teardown
