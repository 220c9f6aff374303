import ControlPlane.Library.Runs
import ControlPlane.Modules.ReadyRounds

/-! The readiness gate loses no module: whatever the modules answer, the wait ends, and what it
returns is the catalog, each module once. A tenant is promoted on such a wait only.
-/

namespace ControlPlane.Modules

open ControlPlane.Library
open ControlPlane.Store (Jobs Tenant Tenants)
open ControlPlane.TenantLifecycle (GoLiveAt GoLivePlane InstallOutcome LifeAction RowLife
  UnverifiedModule afterInstall afterVerify)

-----------------------------------------------------------------------------------------
-- The promotion
-----------------------------------------------------------------------------------------

/-- A go-live that is about to promote its tenant has no unconfirmed module. -/
def Confirmed (place : GoLiveAt) : Prop :=
  ∀ tenant inScope readiness,
    place = .promoting tenant inScope readiness → readiness.unconfirmed = []

/-- Whatever happens to a tenant's row, only a confirmed go-live promotes it. -/
def PromotesConfirmed (plane : GoLivePlane) (tenantId : String) : Prop :=
  ∀ now jobs tenants actions life request next,
    exec (RowLife.step plane tenantId) (.opening now jobs tenants) actions = some life →
    life.step plane tenantId (.promote request) = some next →
    ∃ tenant inScope readiness,
      life.goLives request = .promoting tenant inScope readiness ∧ readiness.unconfirmed = []

theorem confirmed_performInvokeKeyInstall (plane : GoLivePlane) (tenant : Tenant) (key : String)
    : Confirmed (TenantLifecycle.performInvokeKeyInstall plane tenant key) := by
  intro promoted inScope readiness same
  unfold TenantLifecycle.performInvokeKeyInstall at same
  dsimp only at same
  split at same
  · exact nomatch same
  · split at same
    · exact nomatch same
    · split at same <;> exact nomatch same

theorem confirmed_installInvokeKey (plane : GoLivePlane) (accountId : String) (namesKey : Bool)
    (found : Option Tenant)
    : Confirmed (TenantLifecycle.installInvokeKey plane accountId namesKey found) := by
  intro promoted inScope readiness same
  cases found with
  | none => exact nomatch same
  | some tenant =>
      simp only [TenantLifecycle.installInvokeKey] at same
      split at same
      · exact nomatch same
      · split at same
        · exact nomatch same
        · split at same
          · split at same
            · exact nomatch same
            · split at same
              · exact nomatch same
              · exact confirmed_performInvokeKeyInstall plane tenant _ _ _ _ same
          · exact nomatch same

theorem confirmed_afterInstall (tenant : Tenant) (inScope : List String) (outcome : InstallOutcome)
    : Confirmed (afterInstall tenant inScope outcome) := by
  intro promoted covered readiness same
  cases outcome with
  | threw => exact nomatch same
  | modulesNotReady step message => exact nomatch same
  | probed reported =>
      rw [afterInstall] at same
      split at same
      · rename_i confirmed
        cases same
        exact confirmed
      · exact nomatch same

theorem confirmed_setGoLive {life : RowLife}
    (confirmed : ∀ request, Confirmed (life.goLives request)) {request : Nat} {place : GoLiveAt}
    (isConfirmed : Confirmed place) (other : Nat)
    : Confirmed ((life.setGoLive request place).goLives other) := by
  simp only [RowLife.setGoLive, Function.update_apply]
  split
  · exact isConfirmed
  · exact confirmed other

/-- Every action keeps every go-live confirmed. -/
theorem confirmed_step {plane : GoLivePlane} {tenantId : String} {life next : RowLife}
    {action : LifeAction} (confirmed : ∀ request, Confirmed (life.goLives request))
    (taken : life.step plane tenantId action = some next)
    : ∀ request, Confirmed (next.goLives request) := by
  cases action with
  | tick seconds =>
      cases taken
      exact confirmed
  | createProvisionJob id runpodMode toRelease =>
      obtain ⟨jobs, -, moved⟩ := Option.map_eq_some_iff.mp taken
      cases moved
      exact confirmed
  | driver jobId call =>
      simp only [RowLife.step] at taken
      split at taken
      · cases taken
      · cases taken
      · obtain ⟨race, -, moved⟩ := Option.map_eq_some_iff.mp taken
        cases moved
        exact confirmed
  | column write =>
      cases taken
      exact confirmed
  | openGoLive request accountId namesKey =>
      obtain ⟨-, moved⟩ := Option.ite_none_right_eq_some.mp taken
      cases moved
      exact confirmed_setGoLive confirmed (confirmed_installInvokeKey _ _ _ _)
  | verifyKey request verdict =>
      simp only [RowLife.step] at taken
      split at taken
      · cases taken
        refine confirmed_setGoLive confirmed fun _ _ _ same => ?_
        cases verdict <;> exact nomatch same
      · cases taken
  | installKey request outcome =>
      simp only [RowLife.step] at taken
      split at taken
      · cases taken
        exact confirmed_setGoLive confirmed (confirmed_afterInstall _ _ outcome)
      · cases taken
  | promote request =>
      simp only [RowLife.step] at taken
      split at taken
      · cases taken
        have kept : ∀ other, Confirmed ((life.runs (Store.setTenantStatus life.now tenantId
            .live)).goLives other) := confirmed
        exact confirmed_setGoLive kept fun _ _ _ same => nomatch same
      · cases taken
  | openTeardown operator body =>
      obtain ⟨-, moved⟩ := Option.ite_none_right_eq_some.mp taken
      cases moved
      exact confirmed
  | beginTeardown operator token =>
      simp only [RowLife.step] at taken
      split at taken
      · cases taken
      · split at taken
        · split at taken
          · cases taken
            exact confirmed
          · cases taken
            exact confirmed
        · cases taken
  | sweep operator ok =>
      simp only [RowLife.step] at taken
      split at taken
      · cases taken
        exact confirmed
      · cases taken
  | readBack operator =>
      simp only [RowLife.step] at taken
      split at taken
      · cases taken
        exact confirmed
      · cases taken
  | finishTeardown operator =>
      simp only [RowLife.step] at taken
      split at taken
      · cases taken
        exact confirmed
      · cases taken

theorem promotesConfirmed (plane : GoLivePlane) (tenantId : String)
    : PromotesConfirmed plane tenantId := by
  intro now jobs tenants actions life request next reached taken
  have start : ∀ other, Confirmed ((RowLife.opening now jobs tenants).goLives other) :=
    fun _ _ _ _ same => nomatch same
  have confirmed : ∀ other, Confirmed (life.goLives other) :=
    exec_preserves (fun _ _ _ held moved => confirmed_step held moved) start reached
  simp only [RowLife.step] at taken
  split at taken
  · rename_i tenant inScope readiness at_
    exact ⟨tenant, inScope, readiness, at_, confirmed request _ _ _ at_⟩
  · cases taken

-----------------------------------------------------------------------------------------
-- The gate
-----------------------------------------------------------------------------------------

/-- The module answered 200 with the text null. -/
def Probe.IsNull (probe : Probe) : Prop :=
  ∃ text, probe.answer = .answered 200 text ∧ Json.parse text = some .null

/-- A call failed, or its answer was classified as misconfigured. -/
def Probe.Refuses (probe : Probe) : Prop :=
  probe.answer = .failed ∨ probe.verdict = some .misconfigured

/-- What a go-live makes of the wait: the install ends as the wait does. -/
def installOutcome : ReadyOutcome → InstallOutcome
  | .threw .probe => .threw
  | .threw (.module error) => .modulesNotReady error.step.text error.message
  | .returned readiness =>
      .probed
        {
          verified := readiness.verified,
          unverified := readiness.unverified,
          unconfirmed := readiness.unconfirmed,
          attempts := readiness.attempts,
          elapsedMs := readiness.elapsedMs.toNat
        }

/-- All modules of the catalog, as a readiness reports them. -/
def ModuleReadiness.modules (readiness : ModuleReadiness) : List String :=
  readiness.verified ++ readiness.unverified.map UnverifiedModule.module ++ readiness.unconfirmed
    ++ readiness.notProbed

section Gate

variable (catalog : List TenantModuleSpec) (deadlineMs : Int)

/-- What the gate promises of a wait. -/
structure Gated (run : ReadyRun) : Prop where
  sleeps : ∀ sleep ∈ run.sleeps, sleep.elapsedMs + sleep.wait < deadlineMs
  reprobes : run.rounds.IsChain Reprobes
  throws : (∃ failure, run.outcome = .threw failure)
    ↔ (∃ probe ∈ run.rounds.flatten, probe.Refuses) ∨ ∀ spec ∈ catalog, reachesRunpod spec = false
  partition : ∀ readiness, run.outcome = .returned readiness →
    readiness.modules.Nodup ∧ readiness.modules.Perm (catalog.map TenantModuleSpec.module)
  verified : ∀ readiness, run.outcome = .returned readiness →
    ∀ moduleName ∈ readiness.verified, LastVerdict run.rounds moduleName .ready
  unverified : ∀ readiness, run.outcome = .returned readiness →
    ∀ entry ∈ readiness.unverified, ∃ probe text,
      lastProbe run.rounds entry.module = some probe ∧ probe.answer = .answered 404 text
  promotes : ∀ tenant inScope promoted covered reported,
    afterInstall tenant inScope (installOutcome run.outcome)
      = .promoting promoted covered reported →
    ∃ readiness, run.outcome = .returned readiness ∧ readiness.unconfirmed = []

/-- A round with an answer null has another answer that ends the wait. -/
def NullsBacked (run : ReadyRun) : Prop :=
  (∃ probe ∈ run.rounds.flatten, probe.IsNull) → ∃ probe ∈ run.rounds.flatten, probe.Refuses

variable {world : ReadyWorld} {catalog deadlineMs}

theorem classifyCredentials_ne (body : Json) : classifyCredentials body ≠ .unverifiable := by
  unfold classifyCredentials
  dsimp only
  split
  · simp
  · rename_i apiKey _
    cases apiKey <;> split <;> try split
    all_goals simp

/-- Only a 404 leaves a module unverifiable. -/
theorem classify_ne {status : Nat} (text expected : String) (other : status ≠ 404)
    : classifyReadyResponse status text expected ≠ some .unverifiable := by
  unfold classifyReadyResponse
  rw [if_neg other]
  split
  · simp
  · split
    · simp
    · simp
    · split
      · simp
      · split
        · rename_i token _
          cases token <;> simp
        · exact fun same => classifyCredentials_ne _ (Option.some.inj same)
        · exact fun same => classifyCredentials_ne _ (Option.some.inj same)

theorem answered_of_unverifiable {probe : Probe} (unverifiable : probe.verdict = some .unverifiable)
    : ∃ text, probe.answer = .answered 404 text := by
  cases isAnswer : probe.answer with
  | failed =>
      simp only [Probe.verdict, isAnswer] at unverifiable
      cases unverifiable
  | answered status text =>
      simp only [Probe.verdict, isAnswer] at unverifiable
      by_cases absent : status = 404
      · exact ⟨text, by rw [absent]⟩
      · exact absurd unverifiable (classify_ne text probe.module absent)

/-- An answer has no verdict when it is 200 with the text null. -/
theorem classify_eq_none_iff {status : Nat} {text expected : String}
    : classifyReadyResponse status text expected = none
      ↔ status = 200 ∧ Json.parse text = some .null := by
  unfold classifyReadyResponse
  split
  · rename_i absent
    simp [absent]
  · split
    · rename_i other
      simp [other]
    · rename_i answered
      simp only [Decidable.not_not] at answered
      split
      · rename_i unread
        simp [unread]
      · rename_i null
        simp [answered, null]
      · rename_i body notNull isBody
        have apart : ¬(status = 200 ∧ Json.parse text = some .null) := by
          intro h
          obtain ⟨-, null⟩ := h
          exact notNull (Option.some.inj (isBody.symm.trans null))
        refine ⟨fun unread => ?_, fun null => absurd null apart⟩
        split at unread
        · exact nomatch unread
        · split at unread <;> exact nomatch unread

theorem verdict_eq_none_iff (probe : Probe)
    : probe.verdict = none ↔ probe.answer = .failed ∨ probe.IsNull := by
  cases isAnswer : probe.answer with
  | failed => simp [Probe.verdict, isAnswer]
  | answered status text =>
      simp only [Probe.verdict, isAnswer, classify_eq_none_iff, Probe.IsNull, reduceCtorEq,
        false_or, ReadyAnswer.answered.injEq]
      constructor
      · intro h
        obtain ⟨ok, null⟩ := h
        exact ⟨text, ⟨ok, rfl⟩, null⟩
      · intro h
        obtain ⟨_, ⟨ok, rfl⟩, null⟩ := h
        exact ⟨ok, null⟩

theorem ends_iff (probe : Probe) : probe.Ends ↔ probe.Refuses ∨ probe.IsNull := by
  rw [Probe.Ends, Probe.Refuses, verdict_eq_none_iff]
  exact or_right_comm

/-- The route promotes only on a wait that left no module unconfirmed. -/
theorem promotes_of_outcome (run : ReadyRun) (tenant : Tenant) (inScope : List String)
    (promoted : Tenant) (covered : List String) (reported : TenantLifecycle.ModuleReadiness)
    (promotes : afterInstall tenant inScope (installOutcome run.outcome)
      = .promoting promoted covered reported)
    : ∃ readiness, run.outcome = .returned readiness ∧ readiness.unconfirmed = [] := by
  cases isOutcome : run.outcome with
  | threw failure =>
      rw [isOutcome] at promotes
      cases failure with
      | probe => exact nomatch promotes
      | module error => exact nomatch promotes
  | returned readiness =>
      rw [isOutcome, installOutcome, afterInstall] at promotes
      split at promotes
      · rename_i confirmed
        exact ⟨readiness, rfl, confirmed⟩
      · exact nomatch promotes

/-- A wait that returns has every module of the catalog once. -/
theorem modules_perm {run : ReadyRun} {readiness : ModuleReadiness}
    {verified unverified : List String}
    (rest : Rest catalog { pending := (catalog.filter reachesRunpod).map TenantModuleSpec.module }
      run.rounds readiness verified unverified)
    : readiness.modules.Perm (catalog.map TenantModuleSpec.module) := by
  have split := (List.filter_append_perm reachesRunpod catalog).map TenantModuleSpec.module
  rw [List.map_append] at split
  refine List.Perm.trans ?_ split
  rw [ModuleReadiness.modules, rest.isVerified, rest.isUnverified, rest.others]
  exact rest.parts.append_right _

/-- A wait with a module to ask is gated exactly when its null answers are backed. -/
theorem gated_iff_of_waits {run : ReadyRun} (distinct : (catalog.map TenantModuleSpec.module).Nodup)
    (someone : (catalog.filter reachesRunpod).map TenantModuleSpec.module ≠ [])
    (waits : Waits world catalog deadlineMs
      { pending := (catalog.filter reachesRunpod).map TenantModuleSpec.module } run)
    : Gated catalog deadlineMs run ↔ NullsBacked run := by
  have reached : ¬∀ spec ∈ catalog, reachesRunpod spec = false := by
    intro none
    refine someone (List.map_eq_nil_iff.mpr (List.filter_eq_nil_iff.mpr ?_))
    intro spec member
    simp [none spec member]
  constructor
  · intro gated h
    obtain ⟨probe, asked, null⟩ := h
    have threw := waits.throws.mpr ⟨probe, asked, (ends_iff probe).mpr (.inr null)⟩
    exact (gated.throws.mp threw).resolve_right reached
  · intro backed
    constructor
    · exact waits.sleeps
    · exact waits.chain
    · rw [waits.throws]
      constructor
      · intro h
        obtain ⟨probe, asked, ends⟩ := h
        rcases (ends_iff probe).mp ends with refuses | null
        · exact .inl ⟨probe, asked, refuses⟩
        · exact .inl (backed ⟨probe, asked, null⟩)
      · intro h
        rcases h with ⟨probe, asked, refuses⟩ | none
        · exact ⟨probe, asked, (ends_iff probe).mpr (.inl refuses)⟩
        · exact absurd none reached
    · intro readiness returned
      obtain ⟨verified, unverified, rest⟩ := waits.returns readiness returned
      have parts := modules_perm rest
      exact ⟨parts.nodup_iff.mpr distinct, parts⟩
    · intro readiness returned moduleName member
      obtain ⟨verified, unverified, rest⟩ := waits.returns readiness returned
      rw [rest.isVerified] at member
      exact rest.readyLast moduleName member
    · intro readiness returned entry member
      obtain ⟨verified, unverified, rest⟩ := waits.returns readiness returned
      have named := List.mem_map_of_mem (f := UnverifiedModule.module) member
      rw [rest.isUnverified] at named
      obtain ⟨probe, last, absent⟩ := rest.absentLast entry.module named
      obtain ⟨text, answered⟩ := answered_of_unverifiable absent
      exact ⟨probe, text, last, answered⟩
    · exact promotes_of_outcome run

/-- Without a module to ask the wait is refused. -/
theorem gated_of_nobody (failure : ReadyFailure)
    (nobody : ∀ spec ∈ catalog, reachesRunpod spec = false)
    : Gated catalog deadlineMs { outcome := .threw failure, rounds := [], sleeps := [] } where
  sleeps := nofun
  reprobes := .nil
  throws := ⟨fun _ => .inr nobody, fun _ => ⟨failure, rfl⟩⟩
  partition := nofun
  verified := nofun
  unverified := nofun
  promotes := promotes_of_outcome _

theorem await_ends (world : ReadyWorld) (deadlineMs : Int) (catalog : List TenantModuleSpec)
    (distinct : (catalog.map TenantModuleSpec.module).Nodup) (advances : Advances world)
    : ∃ run, (∃ bound, ∀ fuel ≥ bound,
          awaitTenantModulesReady world deadlineMs catalog fuel = some run)
        ∧ (Gated catalog deadlineMs run ↔ NullsBacked run) := by
  by_cases nobody : (catalog.filter reachesRunpod).map TenantModuleSpec.module = []
  · have none : ∀ spec ∈ catalog, reachesRunpod spec = false := by
      intro spec member
      have left := List.filter_eq_nil_iff.mp (List.map_eq_nil_iff.mp nobody) spec member
      exact Bool.eq_false_iff.mpr left
    refine ⟨_, ⟨0, fun fuel _ => if_pos nobody⟩, fun _ => ?_, fun _ => gated_of_nobody _ none⟩
    intro h
    obtain ⟨probe, asked, -⟩ := h
    exact absurd asked List.not_mem_nil
  · have fewer : ((catalog.filter reachesRunpod).map TenantModuleSpec.module).Nodup :=
      distinct.sublist (List.filter_sublist.map _)
    let start : ReadyLoop :=
      { pending := (catalog.filter reachesRunpod).map TenantModuleSpec.module }
    let left := deadlineMs - elapsedAfter world 1
    have enough
        : deadlineMs - elapsedAfter world (start.attempts + 1) < (left.toNat + 1 : Nat) := by
      simp only [start, left, Nat.zero_add]
      omega
    have ends : ∃ run, rounds world catalog deadlineMs (left.toNat + 1) start = some run :=
      rounds_end advances enough (Nat.succ_pos _)
    obtain ⟨run, ended⟩ := ends
    refine ⟨run, ⟨left.toNat + 1, fun fuel more => ?_⟩,
      gated_iff_of_waits distinct nobody (rounds_waits fewer ended)⟩
    rw [awaitTenantModulesReady, if_neg nobody]
    exact rounds_le more ended

/-- The wait ends, and the gate holds of it exactly when no null answer is all that ends it. -/
theorem readinessGate_iff (world : ReadyWorld) (deadlineMs : Int) (catalog : List TenantModuleSpec)
    (distinct : (catalog.map TenantModuleSpec.module).Nodup) (advances : Advances world)
    : ∃ run, (∃ bound, ∀ fuel ≥ bound,
          awaitTenantModulesReady world deadlineMs catalog fuel = some run)
        ∧ ((Gated catalog deadlineMs run ∧ ∀ plane, PromotesConfirmed plane world.tenantId)
          ↔ NullsBacked run) := by
  obtain ⟨run, ended, gated⟩ := await_ends world deadlineMs catalog distinct advances
  refine ⟨run, ended, fun ⟨holds, _⟩ => gated.mp holds, fun backed => ⟨gated.mpr backed, ?_⟩⟩
  exact fun plane => promotesConfirmed plane world.tenantId

end Gate

/-- Modules that all answer alike, and a clock that outruns every sleep. -/
def alike (status : Nat) (text : String) : ReadyWorld where
  tenantId := "t1"
  callTenantModule _ _ _ := .answered status text
  now reading := 2000 * reading

theorem alike_advances (status : Nat) (text : String) : Advances (alike status text) := by
  intro attempts _
  have most := (backoffAfter_bounds attempts).2
  simp only [alike]
  push_cast
  omega

/-- Where no module knows the route, the whole catalog is returned, and nothing is verified. -/
theorem readinessGate_absent
    : ∃ run, (∃ bound, ∀ fuel ≥ bound,
          awaitTenantModulesReady (alike 404 "") MODULE_READY_PROBE_DEADLINE_MS
            TENANT_MODULE_CATALOG fuel = some run)
        ∧ ((Gated TENANT_MODULE_CATALOG MODULE_READY_PROBE_DEADLINE_MS run
            ∧ ∀ plane, PromotesConfirmed plane (alike 404 "").tenantId)
          ↔ NullsBacked run) :=
  readinessGate_iff (alike 404 "") MODULE_READY_PROBE_DEADLINE_MS TENANT_MODULE_CATALOG
    (by decide) (alike_advances 404 "")

theorem alike_null {loop : ReadyLoop} {probe : Probe}
    (asked : probe ∈ probes (alike 200 "null") loop)
    : probe.IsNull ∧ ¬probe.Refuses := by
  obtain ⟨moduleName, -, rfl⟩ := List.mem_map.mp asked
  have null : Json.parse "null" = some .null := rfl
  refine ⟨⟨"null", rfl, null⟩, ?_⟩
  intro h
  rcases h with failed | bad
  · exact nomatch failed
  · have unread : classifyReadyResponse 200 "null" moduleName = none :=
      classify_eq_none_iff.mpr ⟨rfl, null⟩
    exact nomatch unread.symm.trans bad

/-- The text null is no envelope, but it has no verdict either: the wait throws what reading it
throws.
-/
theorem null_ungated
    : ∃ run, (∃ bound, ∀ fuel ≥ bound,
          awaitTenantModulesReady (alike 200 "null") MODULE_READY_PROBE_DEADLINE_MS
            TENANT_MODULE_CATALOG fuel = some run)
        ∧ ¬Gated TENANT_MODULE_CATALOG MODULE_READY_PROBE_DEADLINE_MS run := by
  obtain ⟨run, ⟨bound, ended⟩, gated⟩ := await_ends (alike 200 "null")
    MODULE_READY_PROBE_DEADLINE_MS TENANT_MODULE_CATALOG (by decide) (alike_advances 200 "null")
  refine ⟨run, ⟨bound, ended⟩, fun holds => ?_⟩
  let start : ReadyLoop :=
    { pending := (TENANT_MODULE_CATALOG.filter reachesRunpod).map TenantModuleSpec.module }
  have first : rounds (alike 200 "null") TENANT_MODULE_CATALOG MODULE_READY_PROBE_DEADLINE_MS
      (bound + 1) start = some run := ended (bound + 1) (Nat.le_succ bound)
  have rejects : (probes (alike 200 "null") start).any (fun probe => probe.verdict = none) := by
    have someone : start.pending ≠ [] := by decide
    obtain ⟨probe, asked⟩ := List.exists_mem_of_ne_nil (probes (alike 200 "null") start)
      fun nobody => someone (List.map_eq_nil_iff.mp nobody)
    have unread := (verdict_eq_none_iff probe).mpr (.inr (alike_null asked).1)
    exact List.any_eq_true.mpr ⟨probe, asked, decide_eq_true unread⟩
  rw [rounds, turn] at first
  dsimp only at first
  rw [if_pos rejects] at first
  obtain rfl := Option.some.inj first
  rcases holds.throws.mp ⟨.probe, rfl⟩ with ⟨probe, asked, refuses⟩ | nobody
  · rw [List.flatten_singleton] at asked
    exact (alike_null asked).2 refuses
  · exact absurd nobody (by decide)

end ControlPlane.Modules
