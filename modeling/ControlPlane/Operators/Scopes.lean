import ControlPlane.Kek.TokenCrypto
import ControlPlane.Library.JsonText
import ControlPlane.Library.Words

/-! The scopes of an operator credential: what a mint may ask for, how the granted ones are stored
in one column, and what a stored text grants under the catalogue of the day.
-/

namespace ControlPlane.Operators

open ControlPlane.Kek (isTrimmed)
open ControlPlane.Library

inductive OperatorScope
  | tenantsRead
  | tenantsWrite
  | tenantsDestroy
  | tenantsProvision
  | studioOperate
  | creditsWrite
  | platformSettings
  | meterOperate
  | keysRotate
  deriving DecidableEq, Repr

def OperatorScope.id : OperatorScope → String
  | .tenantsRead => "tenants:read"
  | .tenantsWrite => "tenants:write"
  | .tenantsDestroy => "tenants:destroy"
  | .tenantsProvision => "tenants:provision"
  | .studioOperate => "studio:operate"
  | .creditsWrite => "credits:write"
  | .platformSettings => "platform:settings"
  | .meterOperate => "meter:operate"
  | .keysRotate => "keys:rotate"

/-- What the console shows of a scope. -/
def OperatorScope.summary : OperatorScope → String
  | .tenantsRead =>
      "Read tenant records, provisioning state, credit balances, preservation holds and "
      ++ "smoke-render results, plus fleet-level reports (the tenant census, our R2 usage, "
      ++ "RunPod reconciliation) and the audit trail. Includes fetching a smoke-render "
      ++ "artifact, which is rendered tenant content."
  | .tenantsWrite =>
      "Change a tenant's state without rebuilding it: suspend and resume, storage quota, "
      ++ "abuse-report URL, video-finish binding and tier state, opening and releasing "
      ++ "preservation holds."
  | .tenantsDestroy =>
      "Tear a tenant down. Irreversible, so it is its own scope and never folded into "
      ++ "tenants:write."
  | .tenantsProvision =>
      "Create an ACCOUNT for a named email address and provision a studio for it on our "
      ++ "shared render capacity. This is the only capability that brings an account holder "
      ++ "into existence, and it creates accounts even when public signups are switched "
      ++ "off. It does NOT accept the AUP for that person and cannot make the studio "
      ++ "usable: the studio stays unreachable until the owner signs in and accepts."
  | .studioOperate =>
      "Run the studio: module and studio upgrades, refreshing studio bindings, and "
      ++ "starting a smoke render (which spends GPU)."
  | .creditsWrite =>
      "Issue an operator credit. This mints money from nothing and is the most abusable "
      ++ "surface here."
  | .platformSettings =>
      "Flip platform-wide switches, today the signups gate."
  | .meterOperate =>
      "Run the metering pipeline: force an ingest tick, which advances the ingestion "
      ++ "watermark, and force an overage settlement, which turns already-measured usage "
      ++ "into ledger rows. Separate from credits:write, which mints money from nothing on "
      ++ "the manual rail, and from platform:settings, because neither is a switch: these "
      ++ "move the cursors a billing period is built from."
  | .keysRotate =>
      "Read KEK status and run the re-encryption sweep over stored studio tokens."

/-- Every scope, in catalogue order. -/
def ALL_SCOPES : List OperatorScope :=
  [.tenantsRead, .tenantsWrite, .tenantsDestroy, .tenantsProvision, .studioOperate, .creditsWrite,
    .platformSettings, .meterOperate, .keysRotate]

/-- The names of all scopes there may ever be. A name is one word, and names one scope. -/
structure Naming (ι : Type*) where
  id : ι → String
  injective : ∀ scope other, id scope = id other → scope = other
  word : ∀ scope, Words.IsWord isTrimmed (id scope).toList

theorem OperatorScope.id_injective (scope other : OperatorScope) (same : scope.id = other.id)
    : scope = other := by
  cases scope <;> cases other <;> first | rfl | exact absurd same (by decide)

theorem OperatorScope.id_word (scope : OperatorScope)
    : Words.IsWord isTrimmed scope.id.toList := by
  have written : scope.id.toList.isEmpty = false := by cases scope <;> rfl
  have whole : (scope.id.toList.all fun c => !isTrimmed c) = true := by cases scope <;> rfl
  refine ⟨List.isEmpty_eq_false_iff.mp written, fun c member => ?_⟩
  simpa using List.all_eq_true.mp whole c member

def operatorNaming : Naming OperatorScope where
  id := OperatorScope.id
  injective := OperatorScope.id_injective
  word := OperatorScope.id_word

namespace Naming

variable {ι : Type*} (naming : Naming ι) (catalogue : List ι)

/-- The scope that a text names, if the catalogue has it. -/
def known? (value : String) : Option ι :=
  catalogue.find? fun scope => naming.id scope = value

/-- Stored scopes, read under a catalogue. What the catalogue does not have is dropped. -/
def parseScopes (stored : Option String) : List ι :=
  (Words.split isTrimmed (stored.getD "").toList).filterMap fun word =>
    naming.known? catalogue (String.ofList word)

/-- The scopes as they are stored: each once, in the order of the catalogue, with spaces between. -/
def formatScopes [DecidableEq ι] (scopes : List ι) : String :=
  String.ofList
    ([' '].intercalate
      ((catalogue.filter fun scope => scope ∈ scopes).map fun scope => (naming.id scope).toList))

/-- The names in the catalogue, for an error to list. -/
def knownNames : String :=
  ", ".intercalate (catalogue.map naming.id)

/-- A value that names a scope of the catalogue. -/
def isKnownScope (value : Json) : Bool :=
  (value.text?.bind (naming.known? catalogue)).isSome

/-- The scope list of a mint request. A value that is no known scope is refused, and so is an empty
list. How a value reads in a message, the platform says.
-/
def canonicaliseScopes (asText : Json → String) : Json → Except String (List ι)
  | .array (first :: others) =>
      let unknown := (first :: others).filter fun value => !naming.isKnownScope catalogue value
      if unknown = [] then
        .ok (catalogue.filter fun scope =>
          (first :: others).any fun value => value.text? = some (naming.id scope))
      else
        .error ("unknown scope(s) " ++ ", ".intercalate (unknown.map asText) ++
          "; known scopes are " ++ naming.knownNames catalogue)
  | _ =>
      .error ("scopes must be a non-empty array; known scopes are " ++ naming.knownNames catalogue)

variable {naming catalogue} {later : List ι}

theorem known?_eq_some {value : String} {scope : ι}
    : naming.known? catalogue value = some scope ↔ scope ∈ catalogue ∧ naming.id scope = value := by
  constructor
  · intro found
    have isFound : catalogue.find? (fun scope => naming.id scope = value) = some scope := found
    exact ⟨List.mem_of_find?_eq_some isFound, by simpa using List.find?_some isFound⟩
  · intro h
    obtain ⟨has, rfl⟩ := h
    cases found : naming.known? catalogue (naming.id scope) with
    | none => exact absurd (decide_eq_true rfl) (List.find?_eq_none.mp found scope has)
    | some other =>
        have same : naming.id other = naming.id scope := by
          simpa using List.find?_some (found : catalogue.find? _ = some other)
        rw [naming.injective other scope same]

/-- A catalogue finds a scope under its own name exactly if it has it. -/
theorem known?_id [DecidableEq ι] (scope : ι)
    : naming.known? later (naming.id scope) = if scope ∈ later then some scope else none := by
  split
  next has => exact known?_eq_some.mpr ⟨has, rfl⟩
  next lacks =>
    refine Option.eq_none_iff_forall_ne_some.mpr fun other found => ?_
    obtain ⟨has, same⟩ := known?_eq_some.mp found
    exact lacks (naming.injective other scope same ▸ has)

/-- What was stored under one catalogue grants, under another, the scopes that are still in it. -/
theorem parseScopes_formatScopes [DecidableEq ι] (scopes : List ι)
    : naming.parseScopes later (some (naming.formatScopes catalogue scopes))
      = (catalogue.filter fun scope => scope ∈ scopes).filter fun scope => scope ∈ later := by
  have reads : ∀ chosen : List ι,
      (chosen.map fun scope => (naming.id scope).toList).filterMap
          (fun word => naming.known? later (String.ofList word))
        = chosen.filter fun scope => scope ∈ later := by
    intro chosen
    rw [List.filterMap_map, ← List.filterMap_eq_filter]
    refine List.filterMap_congr fun scope _ => ?_
    rw [Function.comp_apply, String.ofList_toList, known?_id]
    by_cases has : scope ∈ later <;> simp [Option.guard, has]
  rw [parseScopes, formatScopes, Option.getD_some, String.toList_ofList, ← reads]
  cases isChosen : catalogue.filter fun scope => scope ∈ scopes with
  | nil =>
      -- an empty column has one part, which names nothing
      have nameless : naming.known? later "" = none := by
        refine List.find?_eq_none.mpr fun scope _ same => ?_
        refine (naming.word scope).written ?_
        rw [of_decide_eq_true same, String.toList_empty]
      simpa [Words.split, Words.between] using nameless
  | cons first others =>
      have words : ∀ word ∈ (first :: others).map fun scope => (naming.id scope).toList,
          Words.IsWord isTrimmed word := by
        intro word member
        obtain ⟨scope, _, isWord⟩ := List.mem_map.mp member
        exact isWord ▸ naming.word scope
      rw [List.map_cons] at words ⊢
      rw [Words.split_intercalate rfl words]

/-- A value names the scope. -/
def Names (naming : Naming ι) (scope : ι) (value : Json) : Prop :=
  value.text? = some (naming.id scope)

theorem isKnownScope_iff {value : Json}
    : naming.isKnownScope catalogue value = true ↔ ∃ scope ∈ catalogue, naming.Names scope value := by
  rw [isKnownScope, Option.isSome_iff_exists]
  constructor
  · intro h
    obtain ⟨scope, found⟩ := h
    obtain ⟨text, isText, known⟩ := Option.bind_eq_some_iff.mp found
    obtain ⟨has, rfl⟩ := known?_eq_some.mp known
    exact ⟨scope, has, isText⟩
  · intro h
    obtain ⟨scope, has, isNamed⟩ := h
    exact ⟨scope, Option.bind_eq_some_iff.mpr ⟨_, isNamed, known?_eq_some.mpr ⟨has, rfl⟩⟩⟩

/-- A scope list is accepted exactly if it is an array with something in it, of names in the
catalogue, and grants exactly the scopes it names.
-/
theorem canonicaliseScopes_eq_ok {asText : Json → String} {requested : Json} {granted : List ι}
    : naming.canonicaliseScopes catalogue asText requested = .ok granted
      ↔ ∃ values, requested = .array values ∧ values ≠ []
          ∧ (∀ value ∈ values, ∃ scope ∈ catalogue, naming.Names scope value)
          ∧ granted = catalogue.filter fun scope =>
              values.any fun value => value.text? = some (naming.id scope) := by
  constructor
  · intro accepted
    unfold canonicaliseScopes at accepted
    split at accepted
    next first others =>
      dsimp only at accepted
      split at accepted
      next known =>
        cases accepted
        refine ⟨first :: others, rfl, List.cons_ne_nil _ _, fun value member => ?_, rfl⟩
        refine isKnownScope_iff.mp ?_
        simpa using List.filter_eq_nil_iff.mp known value member
      next => cases accepted
    next => cases accepted
  · intro h
    obtain ⟨values, rfl, some_, known, rfl⟩ := h
    cases values with
    | nil => exact absurd rfl some_
    | cons first others =>
        refine if_pos (List.filter_eq_nil_iff.mpr fun value member => ?_)
        rw [isKnownScope_iff.mpr (known value member)]
        exact Bool.false_ne_true

/-- Granted scopes are each there once, in the order of the catalogue. -/
theorem filter_granted [DecidableEq ι] {asText : Json → String} {requested : Json}
    {granted : List ι} (accepted : naming.canonicaliseScopes catalogue asText requested = .ok granted)
    : (catalogue.filter fun scope => scope ∈ granted) = granted := by
  obtain ⟨values, _, _, _, isGranted⟩ := canonicaliseScopes_eq_ok.mp accepted
  conv_rhs => rw [isGranted]
  refine List.filter_congr fun scope has => ?_
  rw [Bool.eq_iff_iff, decide_eq_true_iff, isGranted, List.mem_filter, and_iff_right has]

/-- A mint grants all the scopes it asks for and no others. Its stored text grants them for as long
as the catalogue of the day has them: no catalogue makes more of it.
-/
theorem stored_scopes_narrow [DecidableEq ι] (naming : Naming ι) (atMint later : List ι)
    (asText : Json → String) {requested : Json} {granted : List ι}
    (accepted : naming.canonicaliseScopes atMint asText requested = .ok granted)
    : (∃ values, requested = .array values ∧ values ≠ []
        ∧ (∀ value ∈ values, ∃ scope ∈ granted, naming.Names scope value)
        ∧ ∀ scope ∈ granted, scope ∈ atMint ∧ ∃ value ∈ values, naming.Names scope value)
      ∧ naming.parseScopes later (some (naming.formatScopes atMint granted))
        = granted.filter fun scope => scope ∈ later := by
  obtain ⟨values, isArray, some_, known, isGranted⟩ := canonicaliseScopes_eq_ok.mp accepted
  have mem_granted : ∀ scope, scope ∈ granted
      ↔ scope ∈ atMint ∧ ∃ value ∈ values, naming.Names scope value := by
    intro scope
    rw [isGranted, List.mem_filter, List.any_eq_true]
    simp [Names]
  refine ⟨⟨values, isArray, some_, fun value member => ?_, fun scope => (mem_granted scope).mp⟩, ?_⟩
  · obtain ⟨scope, has, isNamed⟩ := known value member
    exact ⟨scope, (mem_granted scope).mpr ⟨has, value, member, isNamed⟩, isNamed⟩
  · rw [parseScopes_formatScopes, filter_granted accepted]

end Naming

/-- Of two scopes that were granted, the one that is retired grants nothing any more. -/
theorem retiredScope_narrows
    : operatorNaming.parseScopes [.tenantsRead, .tenantsWrite]
        (some (operatorNaming.formatScopes ALL_SCOPES [.tenantsRead, .creditsWrite]))
      = [.tenantsRead] := by
  have accepted : operatorNaming.canonicaliseScopes ALL_SCOPES (fun _ => "")
        (.array [.str "credits:write", .str "tenants:read"])
      = .ok [.tenantsRead, .creditsWrite] := rfl
  have narrows := Naming.stored_scopes_narrow operatorNaming ALL_SCOPES
    [.tenantsRead, .tenantsWrite] _ accepted
  exact narrows.2

end ControlPlane.Operators
