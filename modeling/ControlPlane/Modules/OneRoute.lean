import ControlPlane.Library.Runs
import ControlPlane.Modules.Upload
import Mathlib.Logic.Basic

/-! Uploads and key installs of one tenant's modules, while the plane's proxy and the tenant's mode
change between them. Each decides on the state of its own moment, and a secret outlives the upload
it was put after.
-/

namespace ControlPlane.Modules

open ControlPlane.Library
open ControlPlane.Store
open ControlPlane.Workers

/-- The module scripts of a tenant, and what the calls that landed decided, by module: whether the
latest upload was proxied, and whether the key was ever put. The flag says that the latest
call was an install that completed.
-/
structure TenantModules where
  scripts : Scripts
  decided : String → Option Bool
  keyed : String → Bool
  installed : Bool

/-- No scripts. -/
def TenantModules.none : TenantModules where
  scripts _ := .none
  decided _ := .none
  keyed _ := false
  installed := false

variable (tenantId : String)

/-- One upload that landed. -/
def TenantModules.uploadOne (proxied : Bool) (modules : TenantModules) (upload : ModuleUpload)
    : TenantModules :=
  { modules with
    scripts :=
      uploadUserWorker modules.scripts (tenantModuleScriptName tenantId upload.spec.module)
        upload.bindings
    decided := Function.update modules.decided upload.spec.module (some proxied) }

/-- One key that landed. -/
def TenantModules.keyOne (key : String) (modules : TenantModules) (spec : TenantModuleSpec)
    : TenantModules :=
  { modules with
    scripts :=
      (putScriptSecret modules.scripts (tenantModuleScriptName tenantId spec.module)
        TENANT_RUNPOD_SECRET key).getD modules.scripts
    keyed := Function.update modules.keyed spec.module true }

/-- A call of either operation, with what the plane and the tenant are at its moment. -/
inductive ModuleAction
  | upload (plane : ModulePlane) (tenant : ModuleTenant) (answers : UploadAnswers)
  | install (plane : ModulePlane) (scriptName : Option String) (runpodMode key : String)
      (answers : InstallAnswers)

/-- One call. -/
def TenantModules.step (modules : TenantModules) : ModuleAction → Option TenantModules
  | .upload plane tenant answers =>
      let proxied := (plane.proxyBinding tenant.runpodMode tenantId).isSome
      some
        { (uploadTenantModules plane tenantId tenant answers).1.foldl
            (TenantModules.uploadOne tenantId proxied) modules with
          installed := false }
  | .install plane scriptName runpodMode key answers =>
      let outcome :=
        installInvokeKey plane tenantId scriptName runpodMode answers modules.scripts
      some
        { outcome.1.foldl (TenantModules.keyOne tenantId key) modules with
          installed := outcome.2.isNone }

/-- No script has half of the pair, and after an install that completed every module that reaches
RunPod does so either by the pair or with the key, not both.
-/
def OneRoute (modules : TenantModules) : Prop :=
  (∀ name script, modules.scripts name = some script
    → (script.Binds MODULE_PROXY_BASE_BINDING ↔ script.Binds MODULE_PROXY_TOKEN_BINDING))
  ∧ (modules.installed = true → ∀ spec ∈ TENANT_MODULE_CATALOG, reachesRunpod spec = true
      → ∀ script, modules.scripts (tenantModuleScriptName tenantId spec.module) = some script
        → Xor
            (script.Binds MODULE_PROXY_BASE_BINDING ∧ script.Binds MODULE_PROXY_TOKEN_BINDING)
            ((script.secrets TENANT_RUNPOD_SECRET).isSome = true))

-----------------------------------------------------------------------------------------
-- What one upload binds
-----------------------------------------------------------------------------------------

/-- The two names of the pair. -/
def pairNames : List String :=
  [ MODULE_PROXY_BASE_BINDING, MODULE_PROXY_TOKEN_BINDING ]

/-- No binding has a name of the pair. -/
def Unpaired (bindings : List WorkerBinding) : Prop :=
  ∀ binding ∈ bindings, binding.name ∉ pairNames

instance (bindings : List WorkerBinding) : Decidable (Unpaired bindings) :=
  inferInstanceAs (Decidable (∀ binding ∈ bindings, binding.name ∉ pairNames))

theorem transportBindings_unpaired {plane : ModulePlane} {tenant : ModuleTenant}
    {spec : TenantModuleSpec} {bindings : List WorkerBinding}
    (bound : transportBindings plane tenant spec = .ok bindings)
    : Unpaired bindings := by
  have doorNames : ∀ capability ∈ doorBackedPlan, capability.doorsUrlVar ∉ pairNames
      ∧ ∀ token ∈ capability.tokens, token ∉ pairNames := by
    decide
  rw [transportBindings] at bound
  cases door : doorCapability spec with
  | none =>
      simp only [door] at bound
      split at bound
      · cases bound
        simp [Unpaired, WorkerBinding.name, pairNames, MODULE_PROXY_BASE_BINDING,
          MODULE_PROXY_TOKEN_BINDING]
      · split at bound
        · cases bound
        · cases bound
          simp [Unpaired]
  | some capability =>
      have planned : capability ∈ doorBackedPlan := by
        rw [doorCapability] at door
        split at door
        · exact List.mem_of_find?_eq_some door
        · cases door
      obtain ⟨urlVar, tokens⟩ := doorNames capability planned
      simp only [door] at bound
      split at bound
      next resolved _ =>
        cases bound
        intro binding member
        rcases List.mem_cons.mp member with rfl | member
        · exact urlVar
        · obtain ⟨token, given, rfl⟩ := List.mem_map.mp member
          exact tokens token.1 (resolved.named token given)
      next => cases bound

theorem rendersBindings_unpaired {tenant : ModuleTenant} {spec : TenantModuleSpec}
    {bindings : List WorkerBinding} (bound : rendersBindings tenant spec = .ok bindings)
    : Unpaired bindings := by
  rw [rendersBindings] at bound
  split at bound
  · split at bound
    · cases bound
      simp [Unpaired, WorkerBinding.name, pairNames, MODULE_PROXY_BASE_BINDING,
        MODULE_PROXY_TOKEN_BINDING]
    · cases bound
  · cases bound
    simp [Unpaired]

theorem telemetryBindings_unpaired (telemetryD1Id : String) (spec : TenantModuleSpec)
    : Unpaired (telemetryBindings telemetryD1Id spec) := by
  rw [telemetryBindings]
  split <;> simp [Unpaired, WorkerBinding.name, pairNames, MODULE_PROXY_BASE_BINDING,
    MODULE_PROXY_TOKEN_BINDING]

theorem gatewayBindings_unpaired (plane : ModulePlane) (tenant : ModuleTenant)
    (spec : TenantModuleSpec)
    : Unpaired (gatewayBindings plane tenantId tenant spec) := by
  rw [gatewayBindings]
  split
  · split <;> simp [Unpaired, WorkerBinding.name, pairNames, MODULE_PROXY_BASE_BINDING,
      MODULE_PROXY_TOKEN_BINDING]
  · simp [Unpaired]

/-- A module is bound to its parts, the pair among them. -/
theorem moduleBindings_eq {plane : ModulePlane} {telemetryD1Id : String} {tenant : ModuleTenant}
    {moduleProxy : Option ProxyBinding} {fetchBundle : String → Option String}
    {spec : TenantModuleSpec} {bindings : List WorkerBinding}
    (bound
      : moduleBindings plane tenantId telemetryD1Id tenant moduleProxy fetchBundle spec
        = .ok bindings)
    : ∃ transport renders, transportBindings plane tenant spec = .ok transport
        ∧ rendersBindings tenant spec = .ok renders
        ∧ bindings = transport ++ pairBindings moduleProxy spec ++ renders
            ++ telemetryBindings telemetryD1Id spec
            ++ gatewayBindings plane tenantId tenant spec := by
  cases onTransport : transportBindings plane tenant spec with
  | error message =>
      simp only [moduleBindings, onTransport] at bound
      cases bound
  | ok transport =>
      cases onBundle : fetchBundle spec.module with
      | some message =>
          simp only [moduleBindings, onTransport, onBundle] at bound
          cases bound
      | none =>
          cases onRenders : rendersBindings tenant spec with
          | error message =>
              simp only [moduleBindings, onTransport, onBundle, onRenders] at bound
              cases bound
          | ok renders =>
              refine ⟨transport, renders, rfl, rfl, ?_⟩
              simp only [moduleBindings, onTransport, onBundle, onRenders] at bound
              change assertNoTenantModuleForbiddenBindings _ _ = .ok bindings at bound
              rw [assertNoTenantModuleForbiddenBindings] at bound
              split at bound
              · cases bound
              · cases bound
                rfl

/-- A module is uploaded with both names of the pair when it is proxied and reaches RunPod, and
with neither otherwise.
-/
theorem mem_moduleBindings {plane : ModulePlane} {telemetryD1Id : String} {tenant : ModuleTenant}
    {moduleProxy : Option ProxyBinding} {fetchBundle : String → Option String}
    {spec : TenantModuleSpec} {bindings : List WorkerBinding} {name : String}
    (bound
      : moduleBindings plane tenantId telemetryD1Id tenant moduleProxy fetchBundle spec
        = .ok bindings)
    (paired : name ∈ pairNames)
    : name ∈ bindings.map WorkerBinding.name
      ↔ moduleProxy.isSome = true ∧ reachesRunpod spec = true := by
  obtain ⟨transport, renders, onTransport, onRenders, rfl⟩ := moduleBindings_eq tenantId bound
  have elsewhere : ∀ part : List WorkerBinding, Unpaired part
      → name ∉ part.map WorkerBinding.name := by
    intro part unpaired member
    obtain ⟨binding, inPart, rfl⟩ := List.mem_map.mp member
    exact unpaired binding inPart paired
  have ofPair : name ∈ (pairBindings moduleProxy spec).map WorkerBinding.name
      ↔ moduleProxy.isSome = true ∧ reachesRunpod spec = true := by
    unfold pairBindings
    split
    next reaches =>
      cases moduleProxy with
      | none => simp
      | some proxy => simpa [reaches, pairNames, WorkerBinding.name] using paired
    next away => simp [away]
  simp only [List.map_append, List.mem_append, ofPair,
    elsewhere transport (transportBindings_unpaired onTransport),
    elsewhere renders (rendersBindings_unpaired onRenders),
    elsewhere _ (telemetryBindings_unpaired telemetryD1Id spec),
    elsewhere _ (gatewayBindings_unpaired tenantId plane tenant spec), false_or, or_false]

/-- What one upload landed is a module of the catalog with bindings of its own, by induction on the
loop.
-/
theorem mem_uploadLoop {plane : ModulePlane} {telemetryD1Id : String} {tenant : ModuleTenant}
    {moduleProxy : Option ProxyBinding} {answers : UploadAnswers} {specs : List TenantModuleSpec}
    {upload : ModuleUpload}
    (member
      : upload ∈ (uploadLoop plane tenantId telemetryD1Id tenant moduleProxy answers specs).1)
    : upload.spec ∈ specs
      ∧ moduleBindings plane tenantId telemetryD1Id tenant moduleProxy answers.fetchBundle
          upload.spec = .ok upload.bindings := by
  induction specs with
  | nil => exact absurd member List.not_mem_nil
  | cons spec rest ih =>
      rw [uploadLoop] at member
      split at member
      next => exact absurd member List.not_mem_nil
      next bindings bound =>
        split at member
        next => exact absurd member List.not_mem_nil
        next =>
          cases List.mem_singleton.mp member
          exact ⟨List.mem_cons_self, bound⟩
        next =>
          rcases List.mem_cons.mp member with rfl | later
          · exact ⟨List.mem_cons_self, bound⟩
          · obtain ⟨inRest, bindings_eq⟩ := ih later
            exact ⟨List.mem_cons_of_mem _ inRest, bindings_eq⟩

/-- An upload of the call binds the pair as the call decided. -/
theorem mem_uploadTenantModules {plane : ModulePlane} {tenant : ModuleTenant}
    {answers : UploadAnswers} {upload : ModuleUpload}
    (member : upload ∈ (uploadTenantModules plane tenantId tenant answers).1)
    : upload.spec ∈ TENANT_MODULE_CATALOG
      ∧ ∀ name ∈ pairNames, (name ∈ upload.bindings.map WorkerBinding.name
          ↔ (plane.proxyBinding tenant.runpodMode tenantId).isSome = true
            ∧ reachesRunpod upload.spec = true) := by
  rw [uploadTenantModules] at member
  split at member
  · split at member
    · exact absurd member List.not_mem_nil
    · obtain ⟨inCatalog, bound⟩ := mem_uploadLoop tenantId member
      exact ⟨inCatalog, fun name paired => mem_moduleBindings tenantId bound paired⟩
  · exact absurd member List.not_mem_nil

-----------------------------------------------------------------------------------------
-- Scripts are what was decided for them
-----------------------------------------------------------------------------------------

/-- The scripts of the catalog carry the pair as their latest upload decided, and the key when it
was put on them.
-/
structure Tracks (modules : TenantModules) : Prop where
  halves
    : ∀ name script, modules.scripts name = some script
      → (script.Binds MODULE_PROXY_BASE_BINDING ↔ script.Binds MODULE_PROXY_TOKEN_BINDING)
  present
    : ∀ spec ∈ TENANT_MODULE_CATALOG, ∀ script,
        modules.scripts (tenantModuleScriptName tenantId spec.module) = some script
        → ∃ proxied, modules.decided spec.module = some proxied
          ∧ (script.Binds MODULE_PROXY_BASE_BINDING
              ↔ proxied = true ∧ reachesRunpod spec = true)
          ∧ (script.secrets TENANT_RUNPOD_SECRET).isSome = modules.keyed spec.module
  absent
    : ∀ spec ∈ TENANT_MODULE_CATALOG,
        modules.scripts (tenantModuleScriptName tenantId spec.module) = none
        → modules.decided spec.module = none ∧ modules.keyed spec.module = false

/-- The catalog lists a module once. -/
theorem catalog_unique
    : ∀ spec ∈ TENANT_MODULE_CATALOG, ∀ other ∈ TENANT_MODULE_CATALOG,
        spec.module = other.module → spec = other := by
  decide

/-- An upload leaves its script with its bindings, and the secrets that were there. -/
theorem scripts_uploadOne_self (proxied : Bool) (modules : TenantModules) (upload : ModuleUpload)
    : (modules.uploadOne tenantId proxied upload).scripts
        (tenantModuleScriptName tenantId upload.spec.module)
      = some
          { bindings := upload.bindings
            secrets :=
              ((modules.scripts (tenantModuleScriptName tenantId upload.spec.module)).map
                Script.secrets).getD fun _ => none } :=
  Function.update_self ..

theorem scripts_uploadOne_of_ne {proxied : Bool} {modules : TenantModules} {upload : ModuleUpload}
    {name : String} (other : name ≠ tenantModuleScriptName tenantId upload.spec.module)
    : (modules.uploadOne tenantId proxied upload).scripts name = modules.scripts name :=
  Function.update_of_ne other ..

/-- Other modules have other script names. -/
theorem scriptName_ne {module other : String} (apart : module ≠ other)
    : tenantModuleScriptName tenantId module ≠ tenantModuleScriptName tenantId other :=
  fun same => apart (tenantModuleScriptName_injective tenantId same)

/-- An upload that binds the pair as decided is tracked. -/
theorem Tracks.uploadOne {modules : TenantModules} (tracks : Tracks tenantId modules)
    {upload : ModuleUpload} {proxied : Bool} (inCatalog : upload.spec ∈ TENANT_MODULE_CATALOG)
    (paired
      : ∀ name ∈ pairNames, (name ∈ upload.bindings.map WorkerBinding.name
          ↔ proxied = true ∧ reachesRunpod upload.spec = true))
    : Tracks tenantId (modules.uploadOne tenantId proxied upload) := by
  have base := paired MODULE_PROXY_BASE_BINDING (by decide)
  have token := paired MODULE_PROXY_TOKEN_BINDING (by decide)
  refine ⟨?_, ?_, ?_⟩
  · intro name script found
    by_cases same : name = tenantModuleScriptName tenantId upload.spec.module
    · subst same
      rw [scripts_uploadOne_self] at found
      cases found
      exact base.trans token.symm
    · rw [scripts_uploadOne_of_ne tenantId same] at found
      exact tracks.halves name script found
  · intro spec member script found
    by_cases same : spec.module = upload.spec.module
    · cases catalog_unique spec member upload.spec inCatalog same
      rw [scripts_uploadOne_self] at found
      cases found
      refine ⟨proxied, Function.update_self .., base, ?_⟩
      cases before : modules.scripts (tenantModuleScriptName tenantId upload.spec.module) with
      | none =>
          obtain ⟨-, unkeyed⟩ := tracks.absent upload.spec member before
          exact unkeyed.symm
      | some script =>
          obtain ⟨-, -, -, keyed⟩ := tracks.present upload.spec member script before
          exact keyed
    · rw [scripts_uploadOne_of_ne tenantId (scriptName_ne tenantId same)] at found
      obtain ⟨decision, decided, bound, keyed⟩ := tracks.present spec member script found
      exact ⟨decision, (Function.update_of_ne same ..).trans decided, bound, keyed⟩
  · intro spec member missing
    by_cases same : spec.module = upload.spec.module
    · rw [same, scripts_uploadOne_self] at missing
      cases missing
    · rw [scripts_uploadOne_of_ne tenantId (scriptName_ne tenantId same)] at missing
      obtain ⟨undecided, unkeyed⟩ := tracks.absent spec member missing
      exact ⟨(Function.update_of_ne same ..).trans undecided, unkeyed⟩

/-- What a key does to a script that is there: its bindings stay. -/
theorem scripts_keyOne_self {key : String} {modules : TenantModules} {spec : TenantModuleSpec}
    {script : Script}
    (found : modules.scripts (tenantModuleScriptName tenantId spec.module) = some script)
    : (modules.keyOne tenantId key spec).scripts (tenantModuleScriptName tenantId spec.module)
      = some
          { script with
            secrets := Function.update script.secrets TENANT_RUNPOD_SECRET (some key) } := by
  rw [TenantModules.keyOne, putScriptSecret, found]
  exact Function.update_self ..

theorem scripts_keyOne_of_ne {key : String} {modules : TenantModules} {spec : TenantModuleSpec}
    {name : String} (other : name ≠ tenantModuleScriptName tenantId spec.module)
    : (modules.keyOne tenantId key spec).scripts name = modules.scripts name := by
  rw [TenantModules.keyOne, putScriptSecret]
  cases modules.scripts (tenantModuleScriptName tenantId spec.module) with
  | none => rfl
  | some script => exact Function.update_of_ne other ..

/-- A key that is put on a script of the catalog is tracked. -/
theorem Tracks.keyOne {modules : TenantModules} (tracks : Tracks tenantId modules) (key : String)
    {spec : TenantModuleSpec} {script : Script} (inCatalog : spec ∈ TENANT_MODULE_CATALOG)
    (there : modules.scripts (tenantModuleScriptName tenantId spec.module) = some script)
    : Tracks tenantId (modules.keyOne tenantId key spec) := by
  refine ⟨?_, ?_, ?_⟩
  · intro name after found
    by_cases same : name = tenantModuleScriptName tenantId spec.module
    · subst same
      rw [scripts_keyOne_self tenantId there] at found
      cases found
      exact tracks.halves _ script there
    · rw [scripts_keyOne_of_ne tenantId same] at found
      exact tracks.halves name after found
  · intro other member after found
    by_cases same : other.module = spec.module
    · cases catalog_unique other member spec inCatalog same
      rw [scripts_keyOne_self tenantId there] at found
      cases found
      obtain ⟨decision, decided, bound, -⟩ := tracks.present spec member script there
      have put : (Function.update script.secrets TENANT_RUNPOD_SECRET (some key)
          TENANT_RUNPOD_SECRET).isSome = true := by
        rw [Function.update_self]
        rfl
      have noted : (modules.keyOne tenantId key spec).keyed spec.module = true :=
        Function.update_self ..
      exact ⟨decision, decided, bound, put.trans noted.symm⟩
    · rw [scripts_keyOne_of_ne tenantId (scriptName_ne tenantId same)] at found
      obtain ⟨decision, decided, bound, keyed⟩ := tracks.present other member after found
      exact ⟨decision, decided, bound, keyed.trans (Function.update_of_ne same ..).symm⟩
  · intro other member missing
    by_cases same : other.module = spec.module
    · rw [same, scripts_keyOne_self tenantId there] at missing
      cases missing
    · rw [scripts_keyOne_of_ne tenantId (scriptName_ne tenantId same)] at missing
      obtain ⟨undecided, unkeyed⟩ := tracks.absent other member missing
      exact ⟨undecided, (Function.update_of_ne same ..).trans unkeyed⟩

/-- All uploads of a call are tracked, by induction on them. -/
theorem Tracks.uploads {modules : TenantModules} (tracks : Tracks tenantId modules)
    {uploads : List ModuleUpload} {proxied : Bool}
    (paired
      : ∀ upload ∈ uploads, upload.spec ∈ TENANT_MODULE_CATALOG
          ∧ ∀ name ∈ pairNames, (name ∈ upload.bindings.map WorkerBinding.name
              ↔ proxied = true ∧ reachesRunpod upload.spec = true))
    : Tracks tenantId (uploads.foldl (TenantModules.uploadOne tenantId proxied) modules) := by
  induction uploads generalizing modules with
  | nil => exact tracks
  | cons upload rest ih =>
      obtain ⟨inCatalog, pairs⟩ := paired upload List.mem_cons_self
      exact ih (tracks.uploadOne tenantId inCatalog pairs)
        fun other member => paired other (List.mem_cons_of_mem _ member)

/-- A script is there after a key was put exactly when it was there before. -/
theorem isSome_scripts_keyOne (key : String) (modules : TenantModules) (spec : TenantModuleSpec)
    (name : String)
    : ((modules.keyOne tenantId key spec).scripts name).isSome = (modules.scripts name).isSome := by
  by_cases same : name = tenantModuleScriptName tenantId spec.module
  · subst same
    cases there : modules.scripts (tenantModuleScriptName tenantId spec.module) with
    | none => rw [TenantModules.keyOne, putScriptSecret, there]; exact congrArg _ there
    | some script => rw [scripts_keyOne_self tenantId there]; rfl
  · rw [scripts_keyOne_of_ne tenantId same]

/-- All keys of a call are tracked, by induction on the modules they were put on. -/
theorem Tracks.keys {modules : TenantModules} (tracks : Tracks tenantId modules) (key : String)
    {specs : List TenantModuleSpec}
    (there
      : ∀ spec ∈ specs, spec ∈ TENANT_MODULE_CATALOG
          ∧ (modules.scripts (tenantModuleScriptName tenantId spec.module)).isSome = true)
    : Tracks tenantId (specs.foldl (TenantModules.keyOne tenantId key) modules) := by
  induction specs generalizing modules with
  | nil => exact tracks
  | cons spec rest ih =>
      obtain ⟨inCatalog, present⟩ := there spec List.mem_cons_self
      obtain ⟨script, found⟩ := Option.isSome_iff_exists.mp present
      refine ih (tracks.keyOne tenantId key inCatalog found) fun other member => ?_
      obtain ⟨otherIn, otherThere⟩ := there other (List.mem_cons_of_mem _ member)
      exact ⟨otherIn, (isSome_scripts_keyOne tenantId key modules spec _).trans otherThere⟩

/-- Keys change no decision, by induction on the modules they are put on. -/
theorem decided_keys (key : String) (modules : TenantModules) (specs : List TenantModuleSpec)
    : (specs.foldl (TenantModules.keyOne tenantId key) modules).decided = modules.decided := by
  induction specs generalizing modules with
  | nil => rfl
  | cons spec rest ih => exact ih (modules.keyOne tenantId key spec)

/-- A module is keyed if it was, or if it is one of those that a key is put on, by induction on
them.
-/
theorem keyed_keys (key : String) (modules : TenantModules) (specs : List TenantModuleSpec)
    (module : String)
    : (specs.foldl (TenantModules.keyOne tenantId key) modules).keyed module = true
      ↔ modules.keyed module = true ∨ module ∈ specs.map TenantModuleSpec.module := by
  induction specs generalizing modules with
  | nil => simp
  | cons spec rest ih =>
      rw [List.foldl_cons, ih, List.map_cons, List.mem_cons, ← or_assoc]
      refine or_congr_left ?_
      by_cases same : module = spec.module
      · simp [TenantModules.keyOne, same]
      · simp [TenantModules.keyOne, same]

/-- What the loop puts the key on is there, by induction on the loop. -/
theorem mem_installLoop {scripts : Scripts} {answers : InstallAnswers}
    {specs : List TenantModuleSpec} {spec : TenantModuleSpec}
    (member : spec ∈ (installLoop scripts tenantId answers specs).1)
    : spec ∈ specs
      ∧ (scripts (tenantModuleScriptName tenantId spec.module)).isSome = true := by
  induction specs with
  | nil => exact absurd member List.not_mem_nil
  | cons head rest ih =>
      rw [installLoop] at member
      split at member
      next => exact absurd member List.not_mem_nil
      next script there =>
        split at member
        next => exact absurd member List.not_mem_nil
        next =>
          cases List.mem_singleton.mp member
          exact ⟨List.mem_cons_self, by rw [there]; rfl⟩
        next =>
          rcases List.mem_cons.mp member with rfl | later
          · exact ⟨List.mem_cons_self, by rw [there]; rfl⟩
          · obtain ⟨inRest, present⟩ := ih later
            exact ⟨List.mem_cons_of_mem _ inRest, present⟩

/-- The loop ends without a failure exactly when every script is there and takes the key, and then
it has put the key on each, by induction on the loop.
-/
theorem installLoop_done {scripts : Scripts} {answers : InstallAnswers}
    {specs : List TenantModuleSpec}
    : ((installLoop scripts tenantId answers specs).2 = none
        ↔ ∀ spec ∈ specs,
            (scripts (tenantModuleScriptName tenantId spec.module)).isSome = true
            ∧ answers.module spec.module = .done)
      ∧ ((installLoop scripts tenantId answers specs).2 = none
        → (installLoop scripts tenantId answers specs).1 = specs) := by
  induction specs with
  | nil => simp [installLoop]
  | cons spec rest ih =>
      obtain ⟨ends, reaches⟩ := ih
      cases there : scripts (tenantModuleScriptName tenantId spec.module) with
      | none => simp [installLoop, there]
      | some script =>
          cases answer : answers.module spec.module with
          | failed message => simp [installLoop, there, answer]
          | lost message => simp [installLoop, there, answer]
          | done =>
              simp only [installLoop, there, answer, List.forall_mem_cons, Option.isSome_some,
                true_and]
              exact ⟨ends, fun done => by rw [reaches done]⟩

-----------------------------------------------------------------------------------------
-- When every module has one route
-----------------------------------------------------------------------------------------

/-- An install completes: the studio takes the key, every module script is there and takes it
unless the modules are proxied, and the readiness probe does not throw.
-/
def Completes (plane : ModulePlane) (scriptName : Option String) (runpodMode : String)
    (answers : InstallAnswers) (modules : TenantModules) : Prop :=
  given scriptName = true ∧ answers.studio = .done ∧ answers.ready = none
  ∧ ((plane.proxyBinding (readRunPodMode runpodMode) tenantId).isSome = true
    ∨ ∀ spec ∈ TENANT_MODULE_CATALOG, (modules.decided spec.module).isSome = true
        ∧ answers.module spec.module = .done)

/-- What an install that completes finds on each module that reaches RunPod. If the modules are
proxied now, the latest upload was proxied or the key was put earlier, but not both; if they are
not, the latest upload was not proxied either.
-/
def FindsOneRoute (modules : TenantModules) : ModuleAction → Prop
  | .upload _ _ _ => True
  | .install plane scriptName runpodMode _ answers =>
      Completes tenantId plane scriptName runpodMode answers modules
        → ∀ spec ∈ TENANT_MODULE_CATALOG, reachesRunpod spec = true
          → ∀ proxied, modules.decided spec.module = some proxied
            → if (plane.proxyBinding (readRunPodMode runpodMode) tenantId).isSome then
                proxied ≠ modules.keyed spec.module
              else proxied = false

/-- A script of the catalog is there exactly when an upload decided on it. -/
theorem Tracks.there_iff {modules : TenantModules} (tracks : Tracks tenantId modules)
    {spec : TenantModuleSpec} (member : spec ∈ TENANT_MODULE_CATALOG)
    : (modules.scripts (tenantModuleScriptName tenantId spec.module)).isSome
      = (modules.decided spec.module).isSome := by
  cases found : modules.scripts (tenantModuleScriptName tenantId spec.module) with
  | none => rw [(tracks.absent spec member found).1]; rfl
  | some script =>
      obtain ⟨proxied, decided, -⟩ := tracks.present spec member script found
      rw [decided]
      rfl

/-- The install answers without a failure exactly when it completes. -/
theorem install_completes {modules : TenantModules} (tracks : Tracks tenantId modules)
    (plane : ModulePlane) (scriptName : Option String) (runpodMode : String)
    (answers : InstallAnswers)
    : (installInvokeKey plane tenantId scriptName runpodMode answers modules.scripts).2 = none
      ↔ Completes tenantId plane scriptName runpodMode answers modules := by
  have onAll : (∀ spec ∈ TENANT_MODULE_CATALOG,
        (modules.scripts (tenantModuleScriptName tenantId spec.module)).isSome = true
        ∧ answers.module spec.module = .done)
      ↔ ∀ spec ∈ TENANT_MODULE_CATALOG, (modules.decided spec.module).isSome = true
        ∧ answers.module spec.module = .done := by
    refine forall₂_congr fun spec member => ?_
    rw [tracks.there_iff tenantId member]
  rw [installInvokeKey, Completes]
  split
  next named =>
    cases studio : answers.studio with
    | failed message => simp
    | lost message => simp
    | done =>
        cases proxy : plane.proxyBinding (readRunPodMode runpodMode) tenantId with
        | some binding => simp [named]
        | none =>
            have ends : (installLoop modules.scripts tenantId answers TENANT_MODULE_CATALOG).2 = none
                ↔ _ := (installLoop_done tenantId).1
            simp only [Option.or_eq_none_iff, ends, onAll, named, Option.isSome_none,
              Bool.false_eq_true, false_or, true_and]
            exact and_comm
  next unnamed => simp [unnamed]

/-- Two routes exclude each other exactly when the flags that stand for them differ. -/
theorem xor_iff_ne (proxied keyed : Bool)
    : Xor (proxied = true) (keyed = true) ↔ proxied ≠ keyed := by
  cases proxied <;> cases keyed <;> simp [Xor]

/-- Scripts that are tracked have one route each exactly when what was decided of them differs from
whether they are keyed.
-/
theorem Tracks.oneRoute_flags {modules : TenantModules} (tracks : Tracks tenantId modules)
    : OneRoute tenantId modules
      ↔ (modules.installed = true → ∀ spec ∈ TENANT_MODULE_CATALOG, reachesRunpod spec = true
          → ∀ proxied, modules.decided spec.module = some proxied
            → proxied ≠ modules.keyed spec.module) := by
  have routes : ∀ spec ∈ TENANT_MODULE_CATALOG, reachesRunpod spec = true → ∀ script proxied,
      modules.scripts (tenantModuleScriptName tenantId spec.module) = some script
      → modules.decided spec.module = some proxied
      → (Xor (script.Binds MODULE_PROXY_BASE_BINDING ∧ script.Binds MODULE_PROXY_TOKEN_BINDING)
            ((script.secrets TENANT_RUNPOD_SECRET).isSome = true)
          ↔ proxied ≠ modules.keyed spec.module) := by
    intro spec member reaches script proxied found decided
    obtain ⟨proxied', decided', bound, keyed⟩ := tracks.present spec member script found
    cases decided.symm.trans decided'
    have whole : script.Binds MODULE_PROXY_BASE_BINDING ∧ script.Binds MODULE_PROXY_TOKEN_BINDING
        ↔ proxied = true := by
      rw [← tracks.halves _ script found, and_self, bound, and_iff_left reaches]
    rw [whole, keyed]
    exact xor_iff_ne proxied _
  constructor
  · intro h installed spec member reaches proxied decided
    obtain ⟨-, oneEach⟩ := h
    have there := tracks.there_iff tenantId member
    rw [decided] at there
    obtain ⟨script, found⟩ := Option.isSome_iff_exists.mp there
    exact (routes spec member reaches script proxied found decided).mp
      (oneEach installed spec member reaches script found)
  · intro differ
    refine ⟨tracks.halves, fun installed spec member reaches script found => ?_⟩
    obtain ⟨proxied, decided, -⟩ := tracks.present spec member script found
    exact (routes spec member reaches script proxied found decided).mpr
      (differ installed spec member reaches proxied decided)

theorem tracks_step {modules next : TenantModules} {action : ModuleAction}
    (tracks : Tracks tenantId modules) (taken : modules.step tenantId action = some next)
    : Tracks tenantId next := by
  cases action with
  | upload plane tenant answers =>
      cases taken
      have paired : ∀ upload ∈ (uploadTenantModules plane tenantId tenant answers).1, _ :=
        fun upload member => mem_uploadTenantModules tenantId member
      have after := tracks.uploads tenantId paired
      exact ⟨after.halves, after.present, after.absent⟩
  | install plane scriptName runpodMode key answers =>
      cases taken
      have there : ∀ spec ∈ (installInvokeKey plane tenantId scriptName runpodMode answers
          modules.scripts).1, spec ∈ TENANT_MODULE_CATALOG
            ∧ (modules.scripts (tenantModuleScriptName tenantId spec.module)).isSome = true := by
        intro spec member
        rw [installInvokeKey] at member
        split at member
        · split at member
          · exact absurd member List.not_mem_nil
          · exact absurd member List.not_mem_nil
          · split at member
            · exact absurd member List.not_mem_nil
            · exact mem_installLoop tenantId member
        · exact absurd member List.not_mem_nil
      have after := tracks.keys tenantId key there
      exact ⟨after.halves, after.present, after.absent⟩

/-- An install that completes puts the key on every module, unless they are proxied. -/
theorem keyed_install {modules : TenantModules} {plane : ModulePlane} {scriptName : Option String}
    {runpodMode : String} {answers : InstallAnswers} (key : String)
    (completed
      : (installInvokeKey plane tenantId scriptName runpodMode answers modules.scripts).2 = none)
    {spec : TenantModuleSpec} (member : spec ∈ TENANT_MODULE_CATALOG)
    : ((installInvokeKey plane tenantId scriptName runpodMode answers modules.scripts).1.foldl
          (TenantModules.keyOne tenantId key) modules).keyed spec.module
      = if (plane.proxyBinding (readRunPodMode runpodMode) tenantId).isSome then
          modules.keyed spec.module
        else true := by
  rw [installInvokeKey] at completed ⊢
  split at completed
  next named =>
    rw [if_pos named]
    cases studio : answers.studio with
    | failed message => simp [studio] at completed
    | lost message => simp [studio] at completed
    | done =>
        cases proxy : plane.proxyBinding (readRunPodMode runpodMode) tenantId with
        | some binding => rfl
        | none =>
            simp only [studio, proxy, Option.or_eq_none_iff] at completed
            have onAll := (installLoop_done tenantId).2 completed.1
            refine (keyed_keys tenantId key modules _ spec.module).mpr (.inr ?_)
            rw [onAll]
            exact List.mem_map_of_mem member
  next => cases completed

/-- Whatever changes between the calls, every module has one route after each install that
completes exactly when each of them finds what it needs for that.
-/
theorem oneRoute_iff (actions : List ModuleAction)
    : Everywhere (TenantModules.step tenantId) (OneRoute tenantId) .none actions
      ↔ Throughout (TenantModules.step tenantId) (FindsOneRoute tenantId) .none actions := by
  have exact_step : ∀ modules action next, Tracks tenantId modules → True
      → OneRoute tenantId modules → TenantModules.step tenantId modules action = some next
      → (OneRoute tenantId next ↔ FindsOneRoute tenantId modules action) := by
    intro modules action next tracks _ _ taken
    rw [(tracks_step tenantId tracks taken).oneRoute_flags]
    cases action with
    | upload plane tenant answers =>
        cases taken
        exact ⟨fun _ => trivial, fun _ => nofun⟩
    | install plane scriptName runpodMode key answers =>
        cases taken
        rw [FindsOneRoute, ← install_completes tenantId tracks, Option.isNone_iff_eq_none]
        refine forall_congr' fun completed => forall₃_congr fun spec member reaches => ?_
        simp only [decided_keys, keyed_install tenantId key completed member]
        refine forall₂_congr fun proxied decided => ?_
        split
        · rfl
        · exact Bool.not_eq_true _ ▸ Iff.rfl
  have start : Tracks tenantId .none :=
    ⟨fun _ _ => nofun, fun _ _ _ => nofun, fun _ _ _ => ⟨rfl, rfl⟩⟩
  have startGood : OneRoute tenantId .none :=
    ⟨fun _ _ => nofun, nofun⟩
  exact everywhere_iff_throughout (fun _ _ _ tracks _ taken => tracks_step tenantId tracks taken)
    exact_step start startGood (throughout_of_forall (fun _ _ _ _ => trivial) _ _)

/-- A plane without a proxy. -/
def unproxiedPlane : ModulePlane where
  hmacHex key message := key ++ message
  runpodProxy := none
  aiGatewayId := none
  vpcDoors capability :=
    some
      { doorsUrl := "https://door.example", tokens := [], named := noBearers_named capability }

/-- The same plane once its proxy is configured. -/
def proxiedPlane : ModulePlane :=
  { unproxiedPlane with
    runpodProxy := some { base := "https://plane.example", signingKey := "k" } }

/-- A tenant of the shared tier. -/
def sharedTenant : ModuleTenant where
  slug := "studio"
  endpoints :=
    [{ key := "backend", label := none, id := "ep_1", name := none
       endpointVar := "RUNPOD_ENDPOINT_ID" }]
  telemetryD1Id := some "db_1"
  bucketName := some "bucket_1"
  runpodMode := .shared
  aigTokenValue := none

def allUploaded : UploadAnswers where
  createDispatchNamespace := none
  fetchBundle _ := none
  uploadUserWorker _ := .done

def allInstalled : InstallAnswers where
  studio := .done
  module _ := .done
  ready := none

/-- The proxy is configured between two provisions of one tenant. -/
def proxyArrives : List ModuleAction :=
  [.upload unproxiedPlane sharedTenant allUploaded,
    .install unproxiedPlane (some "tenant-studio-studio") "shared" "key" allInstalled,
    .upload proxiedPlane sharedTenant allUploaded,
    .install proxiedPlane (some "tenant-studio-studio") "shared" "key" allInstalled]

/-- What a script holds of the two routes: the halves of the pair, and the key. -/
def Script.routes (script : Script) : Bool × Bool × Bool :=
  (script.Binds MODULE_PROXY_BASE_BINDING, script.Binds MODULE_PROXY_TOKEN_BINDING,
    (script.secrets TENANT_RUNPOD_SECRET).isSome)

/-- The last install completes, and leaves the pair and the key on one module. -/
theorem proxyArrives_leavesBoth
    : ¬Everywhere (TenantModules.step "ten_1") (OneRoute "ten_1") .none proxyArrives := by
  intro everywhere
  obtain ⟨modules, reached, seen⟩
      : ∃ modules, exec (TenantModules.step "ten_1") .none proxyArrives = some modules
        ∧ (modules.installed,
            (modules.scripts (tenantModuleScriptName "ten_1" "keyframe")).map Script.routes)
          = (true, some (true, true, true)) :=
    Option.map_eq_some_iff.mp (by decide +kernel)
  obtain ⟨installed, onScript⟩ := Prod.mk.inj seen
  obtain ⟨script, found, routes⟩ := Option.map_eq_some_iff.mp onScript
  obtain ⟨base, rest⟩ := Prod.mk.inj routes
  obtain ⟨token, keyed⟩ := Prod.mk.inj rest
  have keyframe : { module := "keyframe", endpointKey := some "backend", recordsRunpodJobs := true }
      ∈ TENANT_MODULE_CATALOG := by
    simp [TENANT_MODULE_CATALOG]
  rcases (everywhere.final reached).2 installed _ keyframe (by decide) script found with
    ⟨-, unkeyed⟩ | ⟨-, unpaired⟩
  · exact unkeyed keyed
  · exact unpaired ⟨of_decide_eq_true base, of_decide_eq_true token⟩

end ControlPlane.Modules
