import ControlPlane.StudioBindings.Projections

/-! Over any run, every writer of a studio's bindings leaves the variables it projects as a provision
under the same config and record would bind them, and the rest alone. With both fixed, the order of
the calls does not matter.
-/

namespace ControlPlane.StudioBindings

open ControlPlane.Library
open ControlPlane.Workers

variable (normalised : ByteCounts)

/-- The names a call says nothing about: a mode that it strips, and the doors that a refresh finds
on a studio of a plane that does not have them.
-/
def WriterCall.unpromised (config : PlaneConfig) (call : WriterCall) : List String :=
  call.strips config
  ++ match call with
    | .refreshTenantStudioBindings =>
        mediaDoorNames.filter fun door => door ∉ config.mediaDoorUrls.names
    | _ => []

/-- What a call makes of a script. -/
structure WriterCall.Converges (config : PlaneConfig) (tenant : StudioTenant) (parts : StudioParts)
    (before after : ScriptBindings) (call : WriterCall) : Prop where
  projects
    : ∀ name ∈ call.projects config, name ∉ call.unpromised config
      → after.get? name
        = declared (provisionedBindings normalised config (call.recorded tenant) parts) name
  removes : ∀ name ∈ call.removes, after.get? name = none
  declares
    : call.declaresAssets → ¬HasAssets before → after.get? "ASSETS" = some (.assets "ASSETS")
  others
    : ∀ name, name ∉ call.projects config → name ∉ call.removes → name ∉ call.unpromised config
      → ¬(call.declaresAssets ∧ ¬HasAssets before ∧ name = "ASSETS")
      → after.get? name = before.get? name

/-- An action that calls a writer converges its studio. -/
def Converging (parts : StudioParts) (world : StudioWorld) (action : StudioAction) : Prop :=
  ∀ call next, action = .call call → world.step normalised action = some next
    → call.Converges normalised world.config world.tenant parts world.script next.script

/-- A script that holds none of the plane's own names as its assets. -/
def ServesApart (script : ScriptBindings) : Prop :=
  ∀ name ∈ ownNames, ∀ held, script.get? name = some held → held.type ≠ .assets

section Steps

variable {config : PlaneConfig} {tenant : StudioTenant} {script : ScriptBindings}
variable {world next : StudioWorld} {call : WriterCall} {desired : List WorkerBinding}

theorem WriterCall.sent_converges (parts : StudioParts) (unhidden : Unhidden script)
    (sent : call.sends normalised config tenant (getScriptBindings script) = .ok desired)
    : call.Converges normalised config tenant parts script (script.after desired) where
  projects name own promised := by
    have derived : name ∉ call.strips config :=
      fun stripped => promised (List.mem_append_left _ stripped)
    rw [WriterCall.get?_sent normalised unhidden sent, WriterCall.shows, if_pos own,
      WriterCall.values_eq_projected normalised own derived,
      declared_provisioned normalised parts (call.projects_subset own)]
  removes name removed := by
    have apart : name ∉ call.projects config :=
      fun own => call.apart_of_removes removed (call.projects_subset own)
    rw [WriterCall.get?_sent normalised unhidden sent, WriterCall.shows, if_neg apart,
      if_pos removed]
  declares ships bare := by
    have notOwn : "ASSETS" ∉ ownNames := by decide
    have apart : "ASSETS" ∉ call.projects config :=
      fun own => notOwn (call.own_of_mem (List.mem_append_left _ own))
    have notRemoved : "ASSETS" ∉ call.removes :=
      fun removed => notOwn (call.own_of_mem (List.mem_append_right (call.projects config) removed))
    rw [WriterCall.get?_sent normalised unhidden sent, WriterCall.shows, if_neg apart,
      if_neg notRemoved, if_pos ⟨ships, bare, rfl⟩]
  others name apart notRemoved _ notAssets := by
    rw [WriterCall.get?_sent normalised unhidden sent, WriterCall.shows, if_neg apart,
      if_neg notRemoved, if_neg notAssets]

/-- A call that is made is sent. -/
theorem StudioWorld.step_call (taken : world.step normalised (.call call) = some next)
    : ∃ desired,
        call.sends normalised world.config world.tenant (getScriptBindings world.script)
          = .ok desired
        ∧ next = { world with
            tenant := call.recorded world.tenant
            script := world.script.after desired } := by
  rw [StudioWorld.step] at taken
  split at taken
  · cases taken
  · next desired sent => exact ⟨desired, sent, (Option.some.inj taken).symm⟩

/-- No action hides one of the plane's names. -/
theorem unhidden_step {action : StudioAction} (unhidden : Unhidden world.script)
    (taken : world.step normalised action = some next)
    : Unhidden next.script := by
  cases action with
  | configure config =>
      cases taken
      exact unhidden
  | record tenant =>
      cases taken
      exact unhidden
  | call call =>
      obtain ⟨desired, sent, rfl⟩ := StudioWorld.step_call normalised taken
      exact WriterCall.ownTypes_kept normalised (fun type => type ≠ .secretText)
        BindingType.noConfusion unhidden unhidden sent

theorem converging_step (parts : StudioParts) {action : StudioAction}
    (unhidden : Unhidden world.script) (taken : world.step normalised action = some next)
    : Converging normalised parts world action := by
  intro call after h sentOnce
  obtain rfl := h
  obtain ⟨desired, sent, rfl⟩ := StudioWorld.step_call normalised sentOnce
  exact WriterCall.sent_converges normalised parts unhidden sent

/-- Whether a call is refused does not depend on the script. -/
theorem WriterCall.sends_iff (call : WriterCall) (before census : List CensusEntry)
    : (∃ desired, call.sends normalised config tenant before = .ok desired)
      ↔ ∃ desired, call.sends normalised config tenant census = .ok desired := by
  have mapped {β : Type} (checked : Except WriterRefusal β) (build other : β → List WorkerBinding)
      : (∃ desired, checked.map build = .ok desired)
        ↔ ∃ desired, checked.map other = .ok desired := by
    cases checked with
    | error refusal =>
        constructor
        · intro h
          obtain ⟨_, sent⟩ := h
          cases sent
        · intro h
          obtain ⟨_, sent⟩ := h
          cases sent
    | ok found => exact ⟨fun _ => ⟨_, rfl⟩, fun _ => ⟨_, rfl⟩⟩
  cases call <;> exact mapped _ _ _

end Steps

-----------------------------------------------------------------------------------------
-- Calls under one config and one record
-----------------------------------------------------------------------------------------

/-- A studio under a config and a record that stay as they are, since it started from a script. What
serves its assets was there, or is the binding that upgrades declare.
-/
structure Settling (config : PlaneConfig) (tenant : StudioTenant) (start : ScriptBindings)
    (world : StudioWorld) : Prop where
  config : world.config = config
  tenant : world.tenant = tenant
  unhidden : Unhidden world.script
  apart : ServesApart world.script
  serves : HasAssets start → HasAssets world.script
  shipped
    : ¬HasAssets start → HasAssets world.script
      → world.script.get? "ASSETS" = some (.assets "ASSETS")

section Order

variable {config : PlaneConfig} {tenant : StudioTenant} {start : ScriptBindings}
variable {world next : StudioWorld} {call : WriterCall}

/-- A call under one config and one record shows the projected values of its names. -/
theorem Settling.shows (settling : Settling config tenant start world)
    (taken : world.step normalised (.call call) = some next) (name : String)
    : next.script.get? name = call.shows normalised config tenant world.script name := by
  obtain ⟨desired, sent, rfl⟩ := StudioWorld.step_call normalised taken
  rw [settling.config, settling.tenant] at sent
  exact WriterCall.get?_sent normalised settling.unhidden sent

theorem Settling.step (settling : Settling config tenant start world)
    (fixed : call.recorded tenant = tenant)
    (taken : world.step normalised (.call call) = some next)
    : Settling config tenant start next := by
  have shows := settling.shows normalised taken
  have notOwn : "ASSETS" ∉ ownNames := by decide
  have elsewhere
      : ∀ name ∉ ownNames, next.script.get? name
          = if call.declaresAssets ∧ ¬HasAssets world.script ∧ name = "ASSETS" then
              some (.assets "ASSETS")
            else world.script.get? name := by
    intro name foreign
    have apart : name ∉ call.projects config :=
      fun own => foreign (call.own_of_mem (List.mem_append_left _ own))
    have notRemoved : name ∉ call.removes :=
      fun removed => foreign (call.own_of_mem (List.mem_append_right (call.projects config) removed))
    rw [shows, WriterCall.shows, if_neg apart, if_neg notRemoved]
  have unhidden := unhidden_step normalised settling.unhidden taken
  obtain ⟨desired, sent, rfl⟩ := StudioWorld.step_call normalised taken
  have apart : ServesApart (world.script.after desired) :=
    WriterCall.ownTypes_kept normalised (fun type => type ≠ .assets) BindingType.noConfusion
      settling.unhidden settling.apart sent
  refine ⟨settling.config, ?_, unhidden, apart, fun served => ?_, fun bare serves => ?_⟩
  · exact (congrArg call.recorded settling.tenant).trans fixed
  · obtain ⟨binding, member, serves⟩ := settling.serves served
    have found := Keyed.get?_of_mem member
    have foreign : binding.name ∉ ownNames := fun own => settling.apart _ own binding found serves
    have kept := elsewhere binding.name foreign
    rw [if_neg fun declares => declares.2.1 (settling.serves served), found] at kept
    exact ⟨binding, Keyed.get?_mem kept, serves⟩
  · by_cases before : HasAssets world.script
    · rw [elsewhere "ASSETS" notOwn, if_neg fun declares => declares.2.1 before]
      exact settling.shipped bare before
    · obtain ⟨binding, member, isAssets⟩ := serves
      have found := Keyed.get?_of_mem member
      have foreign : binding.name ∉ ownNames := fun own => apart _ own binding found isAssets
      have kept := elsewhere binding.name foreign
      rw [found] at kept
      split at kept
      · next declares =>
          rw [← declares.2.2, found, kept, declares.2.2]
      · exact absurd ⟨binding, Keyed.get?_mem kept.symm, isAssets⟩ before

/-- A call sets a name to a value that does not depend on the call. -/
def WriterCall.Sets (config : PlaneConfig) (start : ScriptBindings) (name : String)
    (call : WriterCall) : Prop :=
  name ∈ call.projects config ++ call.removes
  ∨ (call.declaresAssets ∧ ¬HasAssets start ∧ name = "ASSETS")

instance (config : PlaneConfig) (start : ScriptBindings) (name : String)
    : DecidablePred (WriterCall.Sets config start name) := by
  intro call
  unfold WriterCall.Sets
  infer_instance

/-- The value that calls set a name to. -/
def settledValue (config : PlaneConfig) (tenant : StudioTenant) (name : String)
    : Option WorkerBinding :=
  if name = "ASSETS" then some (.assets "ASSETS")
  else declared (projectedBindings normalised config tenant) name

theorem Settling.writes (settling : Settling config tenant start world)
    (fixed : call.recorded tenant = tenant)
    (taken : world.step normalised (.call call) = some next) {name : String}
    (derived : name ∉ call.strips config)
    : next.script.get? name
      = if call.Sets config start name then settledValue normalised config tenant name
        else world.script.get? name := by
  have notOwn : "ASSETS" ∉ ownNames := by decide
  have ownValue (own : name ∈ ownNames)
      : settledValue normalised config tenant name
        = declared (projectedBindings normalised config tenant) name := by
    refine if_neg fun isAssets => notOwn ?_
    rwa [← isAssets]
  rw [settling.shows normalised taken, WriterCall.shows, fixed]
  by_cases own : name ∈ call.projects config
  · have touched := List.mem_append_left call.removes own
    rw [if_pos own, if_pos (.inl touched), ownValue (call.own_of_mem touched)]
    exact WriterCall.values_eq_projected normalised own derived
  · by_cases removed : name ∈ call.removes
    · have touched := List.mem_append_right (call.projects config) removed
      rw [if_neg own, if_pos removed, if_pos (.inl touched), ownValue (call.own_of_mem touched)]
      exact (projected_elsewhere normalised (call.apart_of_removes removed)).symm
    · have untouched : name ∉ call.projects config ++ call.removes :=
        fun touched => (List.mem_append.mp touched).elim own removed
      rw [if_neg own, if_neg removed]
      by_cases ships : call.declaresAssets ∧ ¬HasAssets start ∧ name = "ASSETS"
      · have sets : call.Sets config start name := .inr ⟨ships.1, ships.2⟩
        obtain ⟨declares, bare, rfl⟩ := ships
        rw [if_pos sets, settledValue, if_pos rfl]
        by_cases serves : HasAssets world.script
        · rw [if_neg fun both => both.2.1 serves]
          exact settling.shipped bare serves
        · rw [if_pos ⟨declares, serves, rfl⟩]
      · have sets : ¬call.Sets config start name := fun both => both.elim untouched ships
        rw [if_neg sets, if_neg fun both => ?_]
        exact ships ⟨both.1, fun served => both.2.1 (settling.serves served), both.2.2⟩

/-- A call to a writer, on its own. -/
def StudioWorld.write (world : StudioWorld) (call : WriterCall) : Option StudioWorld :=
  world.step normalised (.call call)

/-- Calls under one config and one record leave a studio as they would in any other order. -/
theorem order_irrelevant (settling : Settling config tenant start world)
    {calls others : List WriterCall} {final : StudioWorld} (reordered : calls.Perm others)
    (fixed : ∀ call ∈ calls, call.recorded tenant = tenant)
    (reached : exec (StudioWorld.write normalised) world calls = some final)
    : ∃ other, exec (StudioWorld.write normalised) world others = some other
        ∧ ∀ name, (∀ call ∈ calls, name ∉ call.strips config)
          → other.script.get? name = final.script.get? name := by
  have keeps
      : ∀ state, ∀ call ∈ calls, ∀ next,
          Settling config tenant start state → state.write normalised call = some next
          → Settling config tenant start next :=
    fun state call member next good taken => good.step normalised (fixed call member) taken
  have runs
      : ∀ state, ∀ call ∈ calls, Settling config tenant start state
        → ((∃ next, state.write normalised call = some next)
          ↔ ∃ desired, call.sends normalised config tenant [] = .ok desired) := by
    intro state call _ good
    rw [call.sends_iff normalised [] (getScriptBindings state.script), ← good.config, ← good.tenant]
    constructor
    · intro h
      obtain ⟨next, taken⟩ := h
      obtain ⟨desired, sent, -⟩ := StudioWorld.step_call normalised taken
      exact ⟨desired, sent⟩
    · intro h
      obtain ⟨desired, sent⟩ := h
      rw [StudioWorld.write, StudioWorld.step, sent]
      exact ⟨_, rfl⟩
  have among : ∀ call ∈ others, call ∈ calls := fun call member => reordered.mem_iff.mpr member
  have enabled := (exec_isSome_iff keeps runs settling).mp ⟨final, reached⟩
  obtain ⟨other, arrived⟩ :=
    (exec_isSome_iff (fun state call member => keeps state call (among call member))
      (fun state call member => runs state call (among call member)) settling).mpr
      fun call member => enabled call (among call member)
  refine ⟨other, arrived, fun name derived => ?_⟩
  have writes
      : ∀ state, ∀ call ∈ calls, ∀ next,
          Settling config tenant start state → state.write normalised call = some next
          → next.script.get? name
            = if call.Sets config start name then settledValue normalised config tenant name
              else state.script.get? name :=
    fun state call member next good taken =>
      good.writes normalised (fixed call member) taken (derived call member)
  rw [exec_settles keeps writes settling reached,
    exec_settles (fun state call member => keeps state call (among call member))
      (fun state call member => writes state call (among call member)) settling arrived]
  simp only [reordered.mem_iff]

end Order

/-- In every run each call sets what it projects as a provision would and keeps the rest, apart from
the tier's binding and the assets. Under one config and one record, with no variable of the plane
serving assets, calls leave the same bindings in any order, but for a mode that one of them strips.
-/
theorem writers_converge {world : StudioWorld} (unhidden : Unhidden world.script)
    (parts : StudioParts) (run : List StudioAction)
    : Throughout (StudioWorld.step normalised) (Converging normalised parts) world run
      ∧ (ServesApart world.script
          → ∀ (calls others : List WriterCall) (final : StudioWorld), calls.Perm others
            → (∀ call ∈ calls, call.recorded world.tenant = world.tenant)
            → exec (StudioWorld.write normalised) world calls = some final
            → ∃ other, exec (StudioWorld.write normalised) world others = some other
                ∧ ∀ name, (∀ call ∈ calls, name ∉ call.strips world.config)
                  → other.script.get? name = final.script.get? name) := by
  constructor
  · refine (throughout_congr (fun _ _ _ good taken => unhidden_step normalised good taken) ?_
      unhidden).mpr (throughout_of_forall (fun _ _ _ _ => trivial) world run)
    intro state action next good taken
    exact ⟨fun _ => trivial, fun _ => converging_step normalised parts good taken⟩
  · intro apart calls others final reordered fixed reached
    have settling : Settling world.config world.tenant world.script world :=
      ⟨rfl, rfl, unhidden, apart, id, fun bare serves => absurd serves bare⟩
    exact order_irrelevant normalised settling reordered fixed reached

-----------------------------------------------------------------------------------------
-- A studio of each kind
-----------------------------------------------------------------------------------------

/-- A live tenant with a studio. -/
def servedTenant : StudioTenant where
  id := "ten_1"
  slug := "acme"
  accountId := "acct_1"
  status := .live
  scriptName := some "tenant-acme-studio"
  d1DatabaseId := some "db_1"
  studioTokenEnc := some "sealed"

/-- What a provision built for it. -/
def servedParts : StudioParts where
  dbUuid := "db_1"
  bucket := "acme-bucket"
  endpoints := []
  tokenId := "r2_1"
  s3Secret := "secret"
  studioApiToken := "token"
  studioAigTokenValue := none
  planned := noEndpoints_planned

/-- A studio of that tenant. -/
def studioOf (config : PlaneConfig) (bindings : List WorkerBinding) : StudioWorld where
  config := config
  tenant := servedTenant
  script := Keyed.empty.replaceAll bindings

/-- Reads of a preflight that find everything in order. -/
def goodReads : StudioReads Unit :=
  { bundle := .ok (), capabilityReason := some "available" }

/-- The byte count "1024", which is normalised already. -/
def oneKibibyte : ByteCounts := fun value => if value = "1024" then some "1024" else none

/-- A metering plane with a ceiling and one door. -/
def meteringPlane : PlaneConfig where
  storageQuota := { bytes := some "1024", mode := some "meter" }
  abuseReportUrl := some "https://studio.example/report-abuse"
  mediaDoorUrls := { entries := [("AUDIO_MIX_URL", "https://mix.example")] }

theorem unhidden_of_rows {script : ScriptBindings}
    (plain : ∀ binding ∈ script.rows, binding.type ≠ .secretText)
    : Unhidden script :=
  fun _ _ _ found => plain _ (Keyed.get?_mem found)

theorem servesApart_of_rows {script : ScriptBindings}
    (apart : ∀ binding ∈ script.rows, binding.type = .assets → binding.name ∉ ownNames)
    : ServesApart script := by
  intro name own held found serves
  exact apart held (Keyed.get?_mem found) serves (Keyed.get?_key found ▸ own)

/-- An upgrade and a refresh of a bare studio, in either order. -/
theorem upgrade_refresh_converge
    : let world := studioOf meteringPlane [.vpcService VIDEO_FINISH_BINDING "svc"]
      let calls := [WriterCall.upgradeTenantStudio "v2" goodReads, .refreshTenantStudioBindings]
      Throughout (StudioWorld.step oneKibibyte) (Converging oneKibibyte servedParts) world
          (calls.map .call)
      ∧ ∃ final other, exec (StudioWorld.write oneKibibyte) world calls = some final
          ∧ exec (StudioWorld.write oneKibibyte) world calls.reverse = some other
          ∧ ∀ name, other.script.get? name = final.script.get? name := by
  intro world calls
  have unhidden : Unhidden world.script := unhidden_of_rows (by decide)
  have apart : ServesApart world.script := servesApart_of_rows (by decide)
  obtain ⟨converges, ordered⟩ :=
    writers_converge oneKibibyte unhidden servedParts (calls.map .call)
  refine ⟨converges, ?_⟩
  have fixed : ∀ call ∈ calls, call.recorded world.tenant = world.tenant := by
    intro call member
    rcases List.mem_pair.mp member with rfl | rfl <;> rfl
  have strips : ∀ call ∈ calls, ∀ name, name ∉ call.strips world.config := by
    intro call member name
    rcases List.mem_pair.mp member with rfl | rfl <;> exact List.not_mem_nil
  obtain ⟨other, arrived, same⟩ :=
    ordered apart calls calls.reverse _ calls.reverse_perm.symm fixed rfl
  exact ⟨_, other, rfl, arrived, fun name => same name fun call member => strips call member name⟩

/-- The variables that a call is said to project, every door among them. -/
def WriterCall.variables (config : PlaneConfig) : WriterCall → List String
  | .refreshTenantStudioBindings => mediaDoorNames
  | call => call.projects config

/-- Every other binding is kept, and every variable is as a provision would bind it. -/
def WriterCall.PreservesAll (config : PlaneConfig) (tenant : StudioTenant) (parts : StudioParts)
    (before after : ScriptBindings) (call : WriterCall) : Prop :=
  (∀ name ∉ call.variables config, after.get? name = before.get? name)
  ∧ ∀ name ∈ call.variables config,
      after.get? name
        = declared (provisionedBindings normalised config (call.recorded tenant) parts) name

/-- A call that is made on a studio, and does more or less than preserve and project. -/
def Strays (world : StudioWorld) (call : WriterCall) : Prop :=
  ∃ next, world.write normalised call = some next
    ∧ ¬call.PreservesAll normalised world.config world.tenant servedParts world.script next.script

/-- Calls that stray: a detach takes the tier's binding off; an upgrade declares the assets; a ceiling
held as a secret stays where none is bound; the mode of a metering plane is stripped; a door that
the plane no longer has stays.
-/
theorem writers_stray
    : Strays oneKibibyte (studioOf {} [.vpcService VIDEO_FINISH_BINDING "svc"])
        .detachTenantStudioBinding
      ∧ Strays oneKibibyte (studioOf {} []) (.upgradeTenantStudio "v2" goodReads)
      ∧ Strays oneKibibyte (studioOf {} [.secretText STORAGE_QUOTA_VAR "1"])
          (.applyStorageQuota none goodReads)
      ∧ Strays oneKibibyte (studioOf meteringPlane []) (.applyStorageQuota none goodReads)
      ∧ Strays oneKibibyte (studioOf {} [.plainText "VIDEO_FINISH_URL" "https://old.example"])
          .refreshTenantStudioBindings := by
  refine ⟨⟨_, rfl, fun all => ?_⟩, ⟨_, rfl, fun all => ?_⟩, ⟨_, rfl, fun all => ?_⟩,
    ⟨_, rfl, fun all => ?_⟩, ⟨_, rfl, fun all => ?_⟩⟩
  · exact absurd (all.1 VIDEO_FINISH_BINDING (by decide)) (by decide +kernel)
  · exact absurd (all.1 "ASSETS" (by decide)) (by decide +kernel)
  · exact absurd (all.2 STORAGE_QUOTA_VAR (by decide)) (by decide +kernel)
  · exact absurd (all.2 STORAGE_QUOTA_MODE_VAR (by decide)) (by decide +kernel)
  · exact absurd (all.2 "VIDEO_FINISH_URL" (by decide)) (by decide +kernel)

end ControlPlane.StudioBindings
