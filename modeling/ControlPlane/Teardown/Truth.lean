import ControlPlane.Teardown.Harvest

/-! The row after a teardown. A column goes blank only behind a delete that worked, and a pass that
reports no failure has passed every leg.
-/

namespace ControlPlane.Teardown

open ControlPlane.Library
open ControlPlane.Store

/-- A call did what it was for, or found it done. -/
def TeardownCall.Succeeded (outside : Outside) : TeardownCall → Prop
  | .deleteUserWorker dispatchNamespace script =>
      ∀ thrown, outside.deleteUserWorker dispatchNamespace script = some thrown
        → isScriptAbsent thrown
  | .revoke tokenId => outside.revoke tokenId = none
  | .revokeByName name => outside.revokeByName name = none
  | .deleteD1 _ => outside.deleteD1 = none
  | .mintBucketToken _ _ => ∃ credentialId, outside.mintBucketToken = .ok credentialId
  | .emptyBucket _ => ∃ result, outside.emptyBucket = .ok result ∧ result.emptied
  | .deleteR2Bucket _ => outside.deleteR2Bucket = none

/-- The call that reaps the tenant's resource of a kind, where the row holds a key for one. -/
def reapingCall (namespaces : Namespaces) (tenant : Tenant) : ResourceKind → Option TeardownCall
  | .worker => some (.deleteUserWorker namespaces.studios (scriptToDelete tenant))
  | .r2Token => (truthy tenant.r2TokenId).map .revoke
  | .d1 => (truthy tenant.d1DatabaseId).map .deleteD1
  | .r2Bucket => (truthy tenant.r2BucketName).map .deleteR2Bucket

/-- The tenant's resource of a kind was deleted or revoked in this pass, or found to be gone. -/
def Reaped (outside : Outside) (namespaces : Namespaces) (tenant : Tenant)
    (calls : List TeardownCall) (kind : ResourceKind)
    : Prop :=
  ∃ call, reapingCall namespaces tenant kind = some call ∧ call ∈ calls ∧ call.Succeeded outside

/-- The tenant's column of a kind is NULL. -/
def Cleared (tenant : Tenant) (pass : Pass) (kind : ResourceKind) : Prop :=
  ∃ row, pass.store.tenants.get? tenant.id = some row ∧ row.resource kind = none

-----------------------------------------------------------------------------------------
-- Parts of a pass, and what they answer for
-----------------------------------------------------------------------------------------

/-- A part of a pass succeeds in each of its calls or leaves a failure behind, takes no failure back,
and blanks a column only behind the call that reaps it.
-/
structure Answers (outside : Outside) (namespaces : Namespaces) (tenant : Tenant)
    (before after : Pass)
    : Prop where
  calls
    : ∃ more, after.calls = before.calls ++ more
        ∧ ∀ call ∈ more, call.Succeeded outside ∨ after.failures ≠ []
  failures : ∃ more, after.failures = before.failures ++ more
  columns
    : ∀ row, before.store.tenants.get? tenant.id = some row
        → ∃ row', after.store.tenants.get? tenant.id = some row'
          ∧ ∀ kind, row'.resource kind = row.resource kind
            ∨ (row'.resource kind = none ∧ Reaped outside namespaces tenant after.calls kind)

section

variable {outside : Outside} {namespaces : Namespaces} {tenant : Tenant} {opts : TeardownOpts}
  {referrers : List ResourceReferrer}

/-- A reaped resource stays reaped as calls are added. -/
theorem Reaped.mono {calls more : List TeardownCall} {kind : ResourceKind}
    (reaped : Reaped outside namespaces tenant calls kind)
    : Reaped outside namespaces tenant (calls ++ more) kind := by
  obtain ⟨call, isReaping, issued, succeeded⟩ := reaped
  exact ⟨call, isReaping, List.mem_append_left _ issued, succeeded⟩

/-- A part that leaves the tables alone, with the calls and failures it adds. -/
theorem Answers.ofAdded {before after : Pass} {calls : List TeardownCall}
    {failures : List TeardownFailure} (sameStore : after.store = before.store)
    (addedCalls : after.calls = before.calls ++ calls)
    (addedFailures : after.failures = before.failures ++ failures)
    (answered : ∀ call ∈ calls, call.Succeeded outside ∨ failures ≠ [])
    : Answers outside namespaces tenant before after where
  calls := by
    refine ⟨calls, addedCalls, fun call member => (answered call member).imp_right ?_⟩
    intro some none
    rw [addedFailures] at none
    exact some (List.append_eq_nil_iff.mp none).2
  failures := ⟨failures, addedFailures⟩
  columns row found := ⟨row, sameStore.symm ▸ found, fun _ => .inl rfl⟩

theorem Answers.refl (pass : Pass) : Answers outside namespaces tenant pass pass :=
  .ofAdded rfl (List.append_nil _).symm (List.append_nil _).symm fun _ member =>
    absurd member List.not_mem_nil

/-- No failure at the end is no failure before. -/
theorem Answers.failures_nil {before after : Pass}
    (answers : Answers outside namespaces tenant before after) (none : after.failures = [])
    : before.failures = [] := by
  obtain ⟨more, grown⟩ := answers.failures
  rw [grown] at none
  exact (List.append_eq_nil_iff.mp none).1

/-- What was issued stays issued. -/
theorem Answers.issued {before after : Pass} {call : TeardownCall}
    (answers : Answers outside namespaces tenant before after) (issued : call ∈ before.calls)
    : call ∈ after.calls := by
  obtain ⟨more, grown, _⟩ := answers.calls
  exact grown ▸ List.mem_append_left _ issued

/-- A blank column stays blank. -/
theorem Answers.cleared {before after : Pass} {kind : ResourceKind}
    (answers : Answers outside namespaces tenant before after)
    (cleared : Cleared tenant before kind)
    : Cleared tenant after kind := by
  obtain ⟨row, found, blank⟩ := cleared
  obtain ⟨row', found', columns⟩ := answers.columns row found
  refine ⟨row', found', ?_⟩
  rcases columns kind with same | ⟨none, _⟩
  · exact same.trans blank
  · exact none

/-- Parts of a pass compose. -/
theorem Answers.trans {before middle after : Pass}
    (first : Answers outside namespaces tenant before middle)
    (second : Answers outside namespaces tenant middle after)
    : Answers outside namespaces tenant before after := by
  obtain ⟨some, grown, answeredSome⟩ := first.calls
  obtain ⟨more, grownMore, answeredMore⟩ := second.calls
  have whole : after.calls = before.calls ++ (some ++ more) := by
    rw [grownMore, grown, List.append_assoc]
  refine ⟨⟨some ++ more, whole, ?_⟩, ?_, ?_⟩
  · intro call member
    rcases List.mem_append.mp member with early | late
    · exact (answeredSome call early).imp_right fun failed none =>
        failed (second.failures_nil none)
    · exact answeredMore call late
  · obtain ⟨failures, grownFailures⟩ := first.failures
    obtain ⟨moreFailures, grownFailuresMore⟩ := second.failures
    exact ⟨failures ++ moreFailures, by rw [grownFailuresMore, grownFailures, List.append_assoc]⟩
  · intro row found
    obtain ⟨row', found', columns⟩ := first.columns row found
    obtain ⟨row'', found'', columns'⟩ := second.columns row' found'
    refine ⟨row'', found'', fun kind => ?_⟩
    rcases columns' kind with same | blanked
    · rcases columns kind with kept | ⟨none, reaped⟩
      · exact .inl (same.trans kept)
      · exact .inr ⟨same.trans none, grownMore ▸ reaped.mono⟩
    · exact .inr blanked

theorem answers_fail (pass : Pass) (resource error : String)
    : Answers outside namespaces tenant pass (pass.fail resource error) :=
  .ofAdded rfl (List.append_nil _).symm rfl fun _ member => absurd member List.not_mem_nil

theorem answers_gone (pass : Pass) (resource detail : String)
    : Answers outside namespaces tenant pass (pass.gone resource detail) :=
  .ofAdded rfl (List.append_nil _).symm (List.append_nil _).symm fun _ member =>
    absurd member List.not_mem_nil

/-- A call that succeeds. -/
theorem answers_call {pass : Pass} {call : TeardownCall} (succeeded : call.Succeeded outside)
    : Answers outside namespaces tenant pass (pass.call call) :=
  .ofAdded rfl rfl (List.append_nil _).symm fun _ member =>
    .inl (List.mem_singleton.mp member ▸ succeeded)

/-- A call whose failure is recorded. -/
theorem answers_failedCall (pass : Pass) (call : TeardownCall) (resource error : String)
    : Answers outside namespaces tenant pass ((pass.call call).fail resource error) :=
  .ofAdded rfl rfl rfl fun _ _ => .inr (List.cons_ne_nil _ _)

/-- The tenant's row after a column is blanked, or is not because a statement threw. -/
theorem get?_clearTenantResource {store : TenantStore} {cleared : ResourceKind} {row : Tenant}
    (found : store.tenants.get? tenant.id = some row) (fault : Option ClearFault)
    : ∃ row', (clearTenantResource store tenant.id cleared fault).tenants.get? tenant.id = some row'
        ∧ (∀ kind, row'.resource kind = row.resource kind
          ∨ (kind = cleared ∧ row'.resource kind = none))
        ∧ (fault = none → row'.resource cleared = none) := by
  have blanked := (blankResource tenant.id cleared).get?_apply_of_match found rfl
  have columns : ∀ kind, ((blankResource tenant.id cleared).set row).resource kind
        = row.resource kind
      ∨ (kind = cleared ∧ ((blankResource tenant.id cleared).set row).resource kind = none) := by
    intro kind
    cases cleared <;> cases kind <;> first | exact .inl rfl | exact .inr ⟨rfl, rfl⟩
  have blank : ((blankResource tenant.id cleared).set row).resource cleared = none := by
    cases cleared <;> rfl
  cases fault with
  | none => exact ⟨_, blanked, columns, fun _ => blank⟩
  | some stage =>
      cases stage with
      | release => exact ⟨_, blanked, columns, fun none => absurd none (Option.some_ne_none _)⟩
      | _ => exact ⟨row, found, fun _ => .inl rfl, fun none => absurd none (Option.some_ne_none _)⟩

/-- Blanking a column behind the call that reaped it. -/
theorem answers_clearColumn {pass : Pass} (resource : String) {cleared : ResourceKind}
    (reaped : Reaped outside namespaces tenant pass.calls cleared)
    : Answers outside namespaces tenant pass
        (pass.clearColumn outside tenant.id resource cleared) := by
  have blanked : Answers outside namespaces tenant pass
      { pass with
        store := clearTenantResource pass.store tenant.id cleared
          ((outside.clear cleared).map Prod.fst) } := by
    refine ⟨⟨[], (List.append_nil _).symm, ?_⟩, ⟨[], (List.append_nil _).symm⟩, ?_⟩
    · exact fun _ member => absurd member List.not_mem_nil
    · intro row found
      obtain ⟨row', found', columns, _⟩ :=
        get?_clearTenantResource found ((outside.clear cleared).map Prod.fst)
      refine ⟨row', found', fun kind => (columns kind).imp_right fun none => ⟨none.2, ?_⟩⟩
      exact none.1 ▸ reaped
  unfold Pass.clearColumn
  simp only
  split
  · exact blanked.trans (answers_fail _ _ _)
  · exact blanked

/-- A column whose blanking leaves no failure behind is blank. -/
theorem cleared_of_clearColumn {pass : Pass} {resource : String} {cleared : ResourceKind}
    {row : Tenant} (found : pass.store.tenants.get? tenant.id = some row)
    (none : (pass.clearColumn outside tenant.id resource cleared).failures = [])
    : Cleared tenant (pass.clearColumn outside tenant.id resource cleared) cleared := by
  obtain ⟨row', found', _, blank⟩ :=
    get?_clearTenantResource found ((outside.clear cleared).map Prod.fst)
  unfold Pass.clearColumn at none ⊢
  simp only at none ⊢
  cases clears : outside.clear cleared with
  | some fault =>
      rw [clears] at none
      exact absurd (List.append_eq_nil_iff.mp none).2 (List.cons_ne_nil _ _)
  | none =>
      rw [clears] at found' blank
      exact ⟨row', found', blank rfl⟩

/-- The guard answers for itself, and a refusal is a failure. -/
theorem answers_guarded (outside : Outside) (namespaces : Namespaces) (tenant : Tenant)
    (opts : TeardownOpts) (referrers : List ResourceReferrer) (kind : ResourceKind) (pass : Pass)
    : Answers outside namespaces tenant pass (guarded outside tenant opts referrers kind pass).1
      ∧ ((guarded outside tenant opts referrers kind pass).2 = true
        → (guarded outside tenant opts referrers kind pass).1.failures ≠ []) := by
  unfold guarded
  simp only
  split
  · exact ⟨.refl pass, nofun⟩
  · split
    · exact ⟨.refl pass, nofun⟩
    · split
      · exact ⟨.refl pass, nofun⟩
      · refine ⟨answers_fail _ _ _, fun _ none => ?_⟩
        exact List.cons_ne_nil _ _ (List.append_eq_nil_iff.mp none).2

/-- What an attempt tries adds calls and failures, and touches no table. A call that does not succeed
leaves a failure behind, or an error that the attempt records.
-/
structure Tried (outside : Outside) (absentWhen : Thrown → Bool) (before : Pass)
    (result : Pass × Option Thrown)
    : Prop where
  store : result.1.store = before.store
  calls
    : ∃ more, result.1.calls = before.calls ++ more
        ∧ ∀ call ∈ more, call.Succeeded outside ∨ result.1.failures ≠ []
          ∨ ∃ thrown, result.2 = some thrown ∧ absentWhen thrown = false
  failures : ∃ more, result.1.failures = before.failures ++ more

/-- What is tried is done: without an error, or with one that says it was done before. -/
def Done (absentWhen : Thrown → Bool) (result : Option Thrown) : Prop :=
  ∀ thrown, result = some thrown → absentWhen thrown

/-- What an attempt tried, seen for itself, where it is done. -/
theorem Tried.answers {absentWhen : Thrown → Bool} {before : Pass}
    {result : Pass × Option Thrown} (tried : Tried outside absentWhen before result)
    (done : Done absentWhen result.2)
    : Answers outside namespaces tenant before result.1 := by
  obtain ⟨more, grown, answered⟩ := tried.calls
  refine ⟨⟨more, grown, fun call member => ?_⟩, tried.failures, ?_⟩
  · rcases answered call member with succeeded | failed | ⟨thrown, isThrown, notAbsent⟩
    · exact .inl succeeded
    · exact .inr failed
    · exact absurd (notAbsent.symm.trans (done thrown isThrown)) Bool.false_ne_true
  · exact fun row found => ⟨row, tried.store.symm ▸ found, fun _ => .inl rfl⟩

/-- What an attempt tried and did not do answers once the failure is recorded. -/
theorem Tried.answers_failed {absentWhen : Thrown → Bool} {before : Pass}
    {result : Pass × Option Thrown} (tried : Tried outside absentWhen before result)
    (resource error : String)
    : Answers outside namespaces tenant before (result.1.fail resource error) := by
  obtain ⟨more, grown, _⟩ := tried.calls
  obtain ⟨failures, grownFailures⟩ := tried.failures
  have recorded : (result.1.fail resource error).failures
      = before.failures ++ (failures ++ [{ resource := resource, error := error }]) := by
    change result.1.failures ++ _ = _
    rw [grownFailures, List.append_assoc]
  refine .ofAdded tried.store grown recorded fun _ _ => .inr fun none => ?_
  exact List.cons_ne_nil _ _ (List.append_eq_nil_iff.mp none).2

/-- An attempt answers, where what it clears was reaped by what it tried. -/
theorem answers_attempt {pass : Pass} {resource : String} {fn : Pass → Pass × Option Thrown}
    {clears : Option ResourceKind} {absentWhen : Thrown → Bool}
    (tried : Tried outside absentWhen pass (fn pass))
    (reaped
      : Done absentWhen (fn pass).2 → ∀ kind, clears = some kind
        → Reaped outside namespaces tenant (fn pass).1.calls kind)
    : Answers outside namespaces tenant pass
        (pass.attempt outside tenant.id resource fn clears absentWhen) := by
  have cleared : Done absentWhen (fn pass).2 → ∀ after : Pass, after.calls = (fn pass).1.calls
      → Answers outside namespaces tenant after
          (after.clearAny outside tenant.id resource clears) := by
    intro done after sameCalls
    cases clears with
    | none => exact .refl after
    | some kind =>
        refine answers_clearColumn resource ?_
        rw [sameCalls]
        exact reaped done kind rfl
  unfold Pass.attempt
  cases result : fn pass with
  | mk after thrown =>
      rw [result] at tried cleared
      cases thrown with
      | none =>
          have done : Done absentWhen (none : Option Thrown) := fun _ => nofun
          exact (tried.answers done).trans (cleared done after rfl)
      | some thrown =>
          simp only
          split
          · next absent =>
              have done : Done absentWhen (some thrown) :=
                fun _ same => Option.some.inj same ▸ absent
              exact ((tried.answers done).trans (answers_gone _ _ _)).trans
                (cleared done _ rfl)
          · exact tried.answers_failed _ _

/-- An attempt that leaves no failure behind did what it tried, and its column is blank. -/
theorem attempt_done {pass : Pass} {resource : String} {fn : Pass → Pass × Option Thrown}
    {clears : Option ResourceKind} {absentWhen : Thrown → Bool} {row : Tenant}
    (tried : Tried outside absentWhen pass (fn pass))
    (found : pass.store.tenants.get? tenant.id = some row)
    (none : (pass.attempt outside tenant.id resource fn clears absentWhen).failures = [])
    : Done absentWhen (fn pass).2
      ∧ ∀ kind, clears = some kind
        → Cleared tenant (pass.attempt outside tenant.id resource fn clears absentWhen) kind := by
  unfold Pass.attempt at none ⊢
  have kept : (fn pass).1.store.tenants.get? tenant.id = some row := tried.store.symm ▸ found
  cases result : fn pass with
  | mk after thrown =>
      rw [result] at none kept
      cases thrown with
      | none =>
          refine ⟨fun _ => nofun, fun kind isKind => ?_⟩
          subst isKind
          exact cleared_of_clearColumn kept none
      | some thrown =>
          simp only at none ⊢
          split at none
          · next absent =>
              rw [if_pos absent]
              refine ⟨fun _ same => Option.some.inj same ▸ absent, fun kind isKind => ?_⟩
              subst isKind
              exact cleared_of_clearColumn kept none
          · exact absurd (List.append_eq_nil_iff.mp none).2 (List.cons_ne_nil _ _)

-----------------------------------------------------------------------------------------
-- The legs
-----------------------------------------------------------------------------------------

/-- One call, with the answer it gets. -/
theorem tried_call {pass : Pass} {call : TeardownCall} {answer : Option Thrown}
    {absentWhen : Thrown → Bool} (succeeded : Done absentWhen answer → call.Succeeded outside)
    : Tried outside absentWhen pass (pass.call call, answer) where
  store := rfl
  calls := by
    refine ⟨[call], rfl, fun _ member => ?_⟩
    rw [List.mem_singleton.mp member]
    by_cases done : Done absentWhen answer
    · exact .inl (succeeded done)
    · unfold Done at done
      push Not at done
      obtain ⟨thrown, isThrown, notAbsent⟩ := done
      exact .inr (.inr ⟨thrown, isThrown, Bool.eq_false_iff.mpr notAbsent⟩)
  failures := ⟨[], (List.append_nil _).symm⟩

/-- An attempt that knows no absence is done when nothing is thrown. -/
theorem done_never {answer : Option Thrown} (done : Done (fun _ => false) answer)
    : answer = none := by
  cases answer with
  | none => rfl
  | some thrown => exact absurd (done thrown rfl) Bool.false_ne_true

/-- An attempt issues what it tries. -/
theorem attempt_calls (pass : Pass) (resource : String) (fn : Pass → Pass × Option Thrown)
    (clears : Option ResourceKind) (absentWhen : Thrown → Bool)
    : (pass.attempt outside tenant.id resource fn clears absentWhen).calls = (fn pass).1.calls := by
  have cleared : ∀ after : Pass,
      (after.clearAny outside tenant.id resource clears).calls = after.calls := by
    intro after
    cases clears with
    | none => rfl
    | some kind =>
        simp only [Pass.clearAny, Pass.clearColumn]
        split <;> rfl
  unfold Pass.attempt
  split
  · next after result =>
      rw [result]
      exact cleared after
  · next after thrown result =>
      rw [result]
      split
      · exact cleared _
      · rfl

/-- A leg that answers, and without a failure has reaped the resource of a kind and blanked its
column.
-/
structure Reaps (outside : Outside) (namespaces : Namespaces) (tenant : Tenant)
    (kind : ResourceKind) (before after : Pass)
    : Prop where
  answers : Answers outside namespaces tenant before after
  reaped
    : ∀ row, before.store.tenants.get? tenant.id = some row → after.failures = []
        → Reaped outside namespaces tenant after.calls kind ∧ Cleared tenant after kind

/-- An attempt on a resource reaps it, where what it tries does when it is done. -/
theorem reaps_attempt {pass : Pass} {kind : ResourceKind} {resource : String}
    {fn : Pass → Pass × Option Thrown} {absentWhen : Thrown → Bool}
    (tried : Tried outside absentWhen pass (fn pass))
    (reaped
      : Done absentWhen (fn pass).2 → Reaped outside namespaces tenant (fn pass).1.calls kind)
    : Reaps outside namespaces tenant kind pass
        (pass.attempt outside tenant.id resource fn (some kind) absentWhen) where
  answers := answers_attempt tried fun done _ same => Option.some.inj same ▸ reaped done
  reaped row found none := by
    obtain ⟨done, cleared⟩ := attempt_done tried found none
    rw [attempt_calls]
    exact ⟨reaped done, cleared kind rfl⟩

/-- What comes before a leg that reaps. -/
theorem Reaps.after {kind : ResourceKind} {before middle after : Pass}
    (first : Answers outside namespaces tenant before middle)
    (second : Reaps outside namespaces tenant kind middle after)
    : Reaps outside namespaces tenant kind before after where
  answers := first.trans second.answers
  reaped row found none := by
    obtain ⟨row', found', _⟩ := first.columns row found
    exact second.reaped row' found' none

/-- What comes behind a leg that reaps. -/
theorem Reaps.before {kind : ResourceKind} {before middle after : Pass}
    (first : Reaps outside namespaces tenant kind before middle)
    (second : Answers outside namespaces tenant middle after)
    : Reaps outside namespaces tenant kind before after where
  answers := first.answers.trans second
  reaped row found none := by
    obtain ⟨⟨call, isReaping, issued, succeeded⟩, cleared⟩ :=
      first.reaped row found (second.failures_nil none)
    exact ⟨⟨call, isReaping, second.issued issued, succeeded⟩, second.cleared cleared⟩

/-- A leg that the guard refuses leaves a failure behind. -/
theorem reaps_refused {kind : ResourceKind} {before after : Pass}
    (answers : Answers outside namespaces tenant before after) (refused : after.failures ≠ [])
    : Reaps outside namespaces tenant kind before after where
  answers := answers
  reaped _ _ none := absurd none refused

/-- The worker leg reaps the studio. -/
theorem reaps_workerLeg (outside : Outside) (namespaces : Namespaces) (tenant : Tenant)
    (opts : TeardownOpts) (referrers : List ResourceReferrer) (pass : Pass)
    : Reaps outside namespaces tenant .worker pass
        (workerLeg outside namespaces tenant opts referrers pass) := by
  obtain ⟨asked, refuses⟩ :=
    answers_guarded outside namespaces tenant opts referrers .worker pass
  unfold workerLeg
  split
  next after refused result =>
    rw [result] at asked refuses
    split
    · next isRefused => exact reaps_refused asked (refuses isRefused)
    · refine .after asked (reaps_attempt (tried_call fun done => done) fun done => ?_)
      exact ⟨_, rfl, List.mem_append_right _ (List.mem_singleton.mpr rfl), done⟩

/-- What is tried behind a call that succeeded. -/
theorem Tried.behind {absentWhen : Thrown → Bool} {pass : Pass} {call : TeardownCall}
    {result : Pass × Option Thrown} (succeeded : call.Succeeded outside)
    (tried : Tried outside absentWhen (pass.call call) result)
    : Tried outside absentWhen pass result := by
  obtain ⟨more, grown, answered⟩ := tried.calls
  refine ⟨tried.store, ⟨call :: more, ?_, ?_⟩, tried.failures⟩
  · rw [grown]
    exact List.append_assoc _ _ _
  · intro issued member
    rcases List.mem_cons.mp member with same | later
    · exact .inl (same ▸ succeeded)
    · exact answered issued later

/-- A call behind what was tried, that succeeds or whose failure is recorded. -/
theorem Tried.onward {absentWhen : Thrown → Bool} {before middle after : Pass}
    {thrown : Option Thrown} {call : TeardownCall} {failures : List TeardownFailure}
    (tried : Tried outside absentWhen before (middle, thrown)) (store : after.store = middle.store)
    (calls : after.calls = middle.calls ++ [call])
    (recorded : after.failures = middle.failures ++ failures)
    (answered : call.Succeeded outside ∨ failures ≠ [])
    : Tried outside absentWhen before (after, thrown) := by
  obtain ⟨more, grown, sofar⟩ := tried.calls
  obtain ⟨earlier, grownFailures⟩ := tried.failures
  refine ⟨store.trans tried.store, ⟨more ++ [call], ?_, ?_⟩, earlier ++ failures, ?_⟩
  · change after.calls = _
    rw [calls, ← List.append_assoc]
    exact congrArg (· ++ [call]) grown
  · have stays : ∀ some : List TeardownFailure, some ≠ [] ∨ failures ≠ []
        → some ++ failures ≠ [] := by
      intro some either none
      obtain ⟨first, second⟩ := List.append_eq_nil_iff.mp none
      exact either.elim (fun differs => differs first) fun differs => differs second
    intro issued member
    rcases List.mem_append.mp member with early | last
    · rcases sofar issued early with succeeded | failed | threw
      · exact .inl succeeded
      · exact .inr (.inl (recorded ▸ stays _ (.inl failed)))
      · exact .inr (.inr threw)
    · rw [List.mem_singleton.mp last]
      exact answered.imp_right fun some => .inl (recorded ▸ stays _ (.inr some))
  · change after.failures = _
    rw [recorded, ← List.append_assoc]
    exact congrArg (· ++ failures) grownFailures

/-- Emptying and deleting a bucket: what is not done throws. -/
theorem tried_emptyAndDelete (bucket : String) (pass : Pass)
    : Tried outside (fun _ => false) pass (emptyAndDelete outside bucket pass) := by
  unfold emptyAndDelete
  cases empties : outside.emptyBucket with
  | error thrown =>
      refine ⟨rfl, ⟨[.emptyBucket bucket], rfl, ?_⟩, [], (List.append_nil _).symm⟩
      exact fun _ _ => .inr (.inr ⟨thrown, rfl, rfl⟩)
  | ok result =>
      simp only
      split
      · refine ⟨rfl, ⟨[.emptyBucket bucket], rfl, ?_⟩, [], (List.append_nil _).symm⟩
        exact fun _ _ => .inr (.inr ⟨_, rfl, rfl⟩)
      · next emptied =>
          refine ⟨rfl, ⟨[.emptyBucket bucket, .deleteR2Bucket bucket], ?_, ?_⟩, [],
            (List.append_nil _).symm⟩
          · simp [Pass.call]
          · intro call member
            rcases List.mem_cons.mp member with isEmpty | later
            · exact .inl (isEmpty ▸ ⟨result, empties, not_not.mp emptied⟩)
            · rw [List.mem_singleton.mp later]
              cases deletes : outside.deleteR2Bucket with
              | none => exact .inl deletes
              | some thrown => exact .inr (.inr ⟨thrown, rfl, rfl⟩)

/-- A bucket that was emptied and deleted without an error is gone. -/
theorem emptyAndDelete_done {bucket : String} {pass : Pass}
    (done : (emptyAndDelete outside bucket pass).2 = none)
    : TeardownCall.deleteR2Bucket bucket ∈ (emptyAndDelete outside bucket pass).1.calls
      ∧ outside.deleteR2Bucket = none := by
  unfold emptyAndDelete at done ⊢
  cases empties : outside.emptyBucket with
  | error thrown =>
      rw [empties] at done
      exact absurd done (Option.some_ne_none _)
  | ok result =>
      rw [empties] at done
      simp only at done ⊢
      split at done
      · exact absurd done (Option.some_ne_none _)
      · next emptied =>
          rw [if_neg emptied]
          exact ⟨List.mem_append_right _ (List.mem_singleton.mpr rfl), done⟩

/-- Mint, work, revoke: a credential that could not be revoked is a failure. -/
theorem tried_emptyThenDeleteBucket (bucket : String) (pass : Pass)
    : Tried outside (fun _ => false) pass (emptyThenDeleteBucket outside tenant bucket pass) := by
  unfold emptyThenDeleteBucket
  cases mints : outside.mintBucketToken with
  | error thrown =>
      refine ⟨rfl, ⟨[_], rfl, ?_⟩, [], (List.append_nil _).symm⟩
      exact fun _ _ => .inr (.inr ⟨thrown, rfl, rfl⟩)
  | ok credentialId =>
      simp only
      have minted : (TeardownCall.mintBucketToken (tenantR2TeardownTokenName tenant.slug)
          bucket).Succeeded outside :=
        ⟨credentialId, mints⟩
      have worked := Tried.behind minted (tried_emptyAndDelete bucket
        (pass.call (.mintBucketToken (tenantR2TeardownTokenName tenant.slug) bucket)))
      cases revokes : outside.revoke credentialId with
      | none =>
          exact worked.onward rfl rfl (List.append_nil _).symm
            (.inl (show (TeardownCall.revoke credentialId).Succeeded outside from revokes))
      | some stranded => exact worked.onward rfl rfl rfl (.inr (List.cons_ne_nil _ _))

/-- A bucket that was emptied and deleted so is gone. -/
theorem emptyThenDeleteBucket_done {bucket : String} {pass : Pass}
    (done : (emptyThenDeleteBucket outside tenant bucket pass).2 = none)
    : TeardownCall.deleteR2Bucket bucket
        ∈ (emptyThenDeleteBucket outside tenant bucket pass).1.calls
      ∧ outside.deleteR2Bucket = none := by
  unfold emptyThenDeleteBucket at done ⊢
  cases mints : outside.mintBucketToken with
  | error thrown =>
      rw [mints] at done
      exact absurd done (Option.some_ne_none _)
  | ok credentialId =>
      rw [mints] at done
      simp only at done ⊢
      cases revokes : outside.revoke credentialId with
      | none =>
          rw [revokes] at done
          obtain ⟨issued, deleted⟩ := emptyAndDelete_done done
          exact ⟨List.mem_append_left _ issued, deleted⟩
      | some stranded =>
          rw [revokes] at done
          obtain ⟨issued, deleted⟩ := emptyAndDelete_done done
          exact ⟨List.mem_append_left _ issued, deleted⟩

/-- The bucket leg reaps the bucket that is on the row. -/
theorem reaps_bucketLeg (pass : Pass) {bucket : String}
    (isBucket : truthy tenant.r2BucketName = some bucket)
    : Reaps outside namespaces tenant .r2Bucket pass
        (bucketLeg outside tenant opts referrers pass) := by
  obtain ⟨asked, refuses⟩ :=
    answers_guarded outside namespaces tenant opts referrers .r2Bucket pass
  unfold bucketLeg
  rw [isBucket]
  simp only
  split
  · next refused => exact reaps_refused asked (refuses refused)
  · refine .after asked (reaps_attempt (tried_emptyThenDeleteBucket bucket _) fun done => ?_)
    obtain ⟨issued, deleted⟩ := emptyThenDeleteBucket_done (done_never done)
    exact ⟨_, congrArg (Option.map _) isBucket, issued, deleted⟩

/-- The bucket leg answers, also without a bucket. -/
theorem answers_bucketLeg (pass : Pass)
    : Answers outside namespaces tenant pass (bucketLeg outside tenant opts referrers pass) := by
  cases isBucket : truthy tenant.r2BucketName with
  | some bucket => exact (reaps_bucketLeg pass isBucket).answers
  | none =>
      unfold bucketLeg
      rw [isBucket]
      exact .refl pass

/-- The harvest answers: it issues no call, and what it does not do it records. -/
theorem answers_harvestLeg (pass : Pass)
    : Answers outside namespaces tenant pass (harvestLeg outside pass) := by
  unfold harvestLeg
  split
  · exact answers_fail _ _ _
  · exact answers_fail _ _ _
  · split
    · exact answers_fail _ _ _
    · exact .refl pass

/-- The database leg reaps the database that is on the row. -/
theorem reaps_databaseLeg (pass : Pass) {databaseId : String}
    (isDatabase : truthy tenant.d1DatabaseId = some databaseId)
    : Reaps outside namespaces tenant .d1 pass
        (databaseLeg outside tenant opts referrers pass) := by
  obtain ⟨asked, refuses⟩ := answers_guarded outside namespaces tenant opts referrers .d1 pass
  unfold databaseLeg
  rw [isDatabase]
  simp only
  split
  · next refused => exact reaps_refused asked (refuses refused)
  · refine .after (asked.trans (answers_harvestLeg _)) ?_
    split
    · next failed =>
        refine reaps_refused (.refl _) fun none => ?_
        rw [none] at failed
        exact Bool.false_ne_true failed
    · refine reaps_attempt (tried_call fun done => done_never done) fun done => ?_
      exact ⟨_, congrArg (Option.map _) isDatabase,
        List.mem_append_right _ (List.mem_singleton.mpr rfl), done_never done⟩

/-- The database leg answers, also without a database. -/
theorem answers_databaseLeg (pass : Pass)
    : Answers outside namespaces tenant pass (databaseLeg outside tenant opts referrers pass) := by
  cases isDatabase : truthy tenant.d1DatabaseId with
  | some databaseId => exact (reaps_databaseLeg pass isDatabase).answers
  | none =>
      unfold databaseLeg
      rw [isDatabase]
      exact .refl pass

/-- Nothing of the tenant is left in the module namespace: what was listed was deleted, and the census
finds no more.
-/
def ModulesSwept (outside : Outside) (namespaces : Namespaces) (tenant : Tenant)
    (calls : List TeardownCall)
    : Prop :=
  ∃ listed resident,
    outside.listedModules = .ok listed ∧ outside.remainingModules = .ok resident
    ∧ (∀ script ∈ listed, (tenantModuleScriptPrefix tenant.id).isPrefixOf script
      → TeardownCall.deleteUserWorker namespaces.modules script ∈ calls)
    ∧ ∀ script ∈ resident, ¬ (tenantModuleScriptPrefix tenant.id).isPrefixOf script

/-- Deleting one module script answers, and issues its call. -/
theorem answers_deleteModule (pass : Pass) (script : String)
    : Answers outside namespaces tenant pass (deleteModule outside namespaces pass script)
      ∧ TeardownCall.deleteUserWorker namespaces.modules script
        ∈ (deleteModule outside namespaces pass script).calls := by
  have issued : TeardownCall.deleteUserWorker namespaces.modules script
      ∈ (pass.call (.deleteUserWorker namespaces.modules script)).calls :=
    List.mem_append_right _ (List.mem_singleton.mpr rfl)
  unfold deleteModule
  cases answer : outside.deleteUserWorker namespaces.modules script with
  | none =>
      refine ⟨answers_call ?_, issued⟩
      exact fun thrown isThrown => absurd (answer.symm.trans isThrown) nofun
  | some thrown =>
      simp only
      split
      · next absent =>
          have succeeded : (TeardownCall.deleteUserWorker namespaces.modules script).Succeeded
              outside := by
            intro other isOther
            rw [← Option.some.inj (answer.symm.trans isOther)]
            exact absent
          exact ⟨(answers_call succeeded).trans (answers_gone _ _ _), issued⟩
      · exact ⟨answers_failedCall _ _ _ _, issued⟩

/-- The sweep answers and issues a call for each script, by induction on the listing. -/
theorem answers_sweep (scripts : List String) (pass : Pass)
    : Answers outside namespaces tenant pass
        (scripts.foldl (deleteModule outside namespaces) pass)
      ∧ ∀ script ∈ scripts, TeardownCall.deleteUserWorker namespaces.modules script
        ∈ (scripts.foldl (deleteModule outside namespaces) pass).calls := by
  induction scripts generalizing pass with
  | nil => exact ⟨.refl pass, fun _ member => absurd member List.not_mem_nil⟩
  | cons head rest ih =>
      obtain ⟨one, issued⟩ := answers_deleteModule pass head
      obtain ⟨more, issuedMore⟩ := ih (deleteModule outside namespaces pass head)
      refine ⟨one.trans more, fun script member => ?_⟩
      rcases List.mem_cons.mp member with same | later
      · exact more.issued (same ▸ issued)
      · exact issuedMore script later

/-- The module leg answers, and without a failure nothing of the tenant is left. -/
theorem answers_modulesLeg (outside : Outside) (namespaces : Namespaces) (tenant : Tenant)
    (pass : Pass)
    : Answers outside namespaces tenant pass (modulesLeg outside namespaces tenant pass)
      ∧ ((modulesLeg outside namespaces tenant pass).failures = []
        → ModulesSwept outside namespaces tenant
            (modulesLeg outside namespaces tenant pass).calls) := by
  have failed : ∀ (before : Pass) (resource error : String),
      (before.fail resource error).failures ≠ [] := by
    intro before resource error none
    exact List.cons_ne_nil _ _ (List.append_eq_nil_iff.mp none).2
  unfold modulesLeg
  cases lists : outside.listedModules with
  | error thrown => exact ⟨answers_fail _ _ _, fun none => absurd none (failed _ _ _)⟩
  | ok listed =>
      obtain ⟨swept, issued⟩ := answers_sweep
        (listed.filter fun script => (tenantModuleScriptPrefix tenant.id).isPrefixOf script) pass
      simp only
      cases remains : outside.remainingModules with
      | error thrown =>
          exact ⟨swept.trans (answers_fail _ _ _), fun none => absurd none (failed _ _ _)⟩
      | ok resident =>
          simp only
          split
          · exact ⟨swept.trans (answers_fail _ _ _), fun none => absurd none (failed _ _ _)⟩
          · next noneLeft =>
              refine ⟨swept, fun _ => ⟨listed, resident, lists, remains, ?_, ?_⟩⟩
              · exact fun script member own => issued script (List.mem_filter.mpr ⟨member, own⟩)
              · intro script member own
                refine noneLeft (List.length_pos_of_mem (a := script) ?_)
                exact List.mem_filter.mpr ⟨member, own⟩

/-- Revoking by name answers, and issues its call. -/
theorem answers_revokeByName (outside : Outside) (namespaces : Namespaces) (tenant : Tenant)
    (resource name : String) (pass : Pass)
    : Answers outside namespaces tenant pass (revokeByName outside tenant resource name pass)
      ∧ TeardownCall.revokeByName name
        ∈ (revokeByName outside tenant resource name pass).calls := by
  refine ⟨answers_attempt (tried_call fun done => done_never done) fun _ _ => nofun, ?_⟩
  unfold revokeByName
  rw [attempt_calls]
  exact List.mem_append_right _ (List.mem_singleton.mpr rfl)

/-- Revoking the credential that is on the row answers, and reaps it. -/
theorem answers_revokeStored (outside : Outside) (namespaces : Namespaces) (tenant : Tenant)
    (pass : Pass)
    : Answers outside namespaces tenant pass (revokeStored outside tenant pass).1
      ∧ ∀ tokenId, truthy tenant.r2TokenId = some tokenId
        → Reaps outside namespaces tenant .r2Token pass (revokeStored outside tenant pass).1 := by
  unfold revokeStored
  cases isToken : truthy tenant.r2TokenId with
  | none => exact ⟨.refl pass, fun _ => nofun⟩
  | some tokenId =>
      simp only [revokeById]
      cases revokes : outside.revoke tokenId with
      | none =>
          have called : Answers outside namespaces tenant pass (pass.call (.revoke tokenId)) :=
            answers_call revokes
          have reaped : Reaped outside namespaces tenant (pass.call (.revoke tokenId)).calls
              .r2Token :=
            ⟨_, congrArg (Option.map _) isToken,
              List.mem_append_right _ (List.mem_singleton.mpr rfl), revokes⟩
          have cleared := called.trans (answers_clearColumn "r2_token" reaped)
          refine ⟨cleared, fun _ _ => ⟨cleared, fun row found none => ?_⟩⟩
          have sameCalls : ((pass.call (.revoke tokenId)).clearColumn outside tenant.id "r2_token"
              .r2Token).calls = (pass.call (.revoke tokenId)).calls := by
            unfold Pass.clearColumn
            simp only
            split <;> rfl
          exact ⟨sameCalls ▸ reaped, cleared_of_clearColumn found none⟩
      | some thrown =>
          have failed : Answers outside namespaces tenant pass
              ((pass.call (.revoke tokenId)).fail "r2_token" thrown.text) :=
            answers_failedCall _ _ _ _
          refine ⟨failed, fun _ _ => reaps_refused failed fun none => ?_⟩
          exact List.cons_ne_nil _ _ (List.append_eq_nil_iff.mp none).2

/-- The tokens leg answers, and without a failure it has revoked every credential of the tenant. -/
theorem answers_tokensLeg (outside : Outside) (namespaces : Namespaces) (tenant : Tenant)
    (opts : TeardownOpts) (referrers : List ResourceReferrer) (pass : Pass)
    : Answers outside namespaces tenant pass (tokensLeg outside tenant opts referrers pass)
      ∧ ((tokensLeg outside tenant opts referrers pass).failures = []
        → TeardownCall.revokeByName (tenantAigTokenName tenant.slug)
            ∈ (tokensLeg outside tenant opts referrers pass).calls
          ∧ TeardownCall.revokeByName (tenantStudioAigTokenName tenant.slug)
            ∈ (tokensLeg outside tenant opts referrers pass).calls)
      ∧ ∀ tokenId, truthy tenant.r2TokenId = some tokenId
        → Reaps outside namespaces tenant .r2Token pass
            (tokensLeg outside tenant opts referrers pass) := by
  obtain ⟨asked, refuses⟩ :=
    answers_guarded outside namespaces tenant opts referrers .r2Token pass
  unfold tokensLeg
  split
  next after refused result =>
    rw [result] at asked refuses
    split
    · next isRefused =>
        have failed := refuses isRefused
        exact ⟨asked, fun none => absurd none failed, fun _ _ => reaps_refused asked failed⟩
    · obtain ⟨stored, reapsStored⟩ := answers_revokeStored outside namespaces tenant after
      simp only
      generalize revokeStored outside tenant after = byId at stored reapsStored ⊢
      have byName : Answers outside namespaces tenant byId.1
          (if byId.2 then byId.1
          else revokeByName outside tenant "r2_token_by_name" (tenantR2TokenName tenant.slug)
            byId.1) := by
        split
        · exact .refl _
        · exact (answers_revokeByName _ _ _ _ _ _).1
      generalize (if byId.2 then byId.1
          else revokeByName outside tenant "r2_token_by_name" (tenantR2TokenName tenant.slug)
            byId.1) = named at byName ⊢
      obtain ⟨modules, issuedModules⟩ := answers_revokeByName outside namespaces tenant
        "aig_token_by_name" (tenantAigTokenName tenant.slug) named
      obtain ⟨studio, issuedStudio⟩ := answers_revokeByName outside namespaces tenant
        "aig_studio_token_by_name" (tenantStudioAigTokenName tenant.slug)
        (revokeByName outside tenant "aig_token_by_name" (tenantAigTokenName tenant.slug) named)
      have behind := (byName.trans modules).trans studio
      refine ⟨asked.trans (stored.trans behind), ?_, ?_⟩
      · exact fun _ => ⟨studio.issued issuedModules, issuedStudio⟩
      · exact fun tokenId isToken => .after asked ((reapsStored tokenId isToken).before behind)

end

-----------------------------------------------------------------------------------------
-- The row after a whole teardown
-----------------------------------------------------------------------------------------

/-- A hold is open, or a read before the first deletion fails. -/
def HeldBack (outside : Outside) (store : TenantStore) (tenant : Tenant) : Prop :=
  (∃ hold more, outside.holds = .ok (hold :: more))
  ∨ (∃ thrown, outside.holds = .error thrown)
  ∨ ∃ thrown, readReferrers outside tenant store.tenants = .error thrown

/-- The kinds of resource that a pass deletes: the data only where the options say so. -/
def InScope (opts : TeardownOpts) : ResourceKind → Prop
  | .worker | .r2Token => True
  | .d1 | .r2Bucket => opts.deleteData

/-- No leg was refused, and none failed: each one's calls were issued, and every call that was issued
succeeded or found its thing gone.
-/
structure EveryLegDone (outside : Outside) (namespaces : Namespaces) (tenant : Tenant)
    (opts : TeardownOpts) (calls : List TeardownCall)
    : Prop where
  succeeded : ∀ call ∈ calls, call.Succeeded outside
  issued
    : ∀ kind, InScope opts kind → ∀ call, reapingCall namespaces tenant kind = some call
        → call ∈ calls
  modules : ModulesSwept outside namespaces tenant calls
  byName
    : TeardownCall.revokeByName (tenantAigTokenName tenant.slug) ∈ calls
      ∧ TeardownCall.revokeByName (tenantStudioAigTokenName tenant.slug) ∈ calls

/-- What the row and the answer of a teardown say is what was done. A column holds a resource where it
is neither NULL nor the empty text.
-/
structure RecordsReaped (outside : Outside) (namespaces : Namespaces) (tenant : Tenant)
    (opts : TeardownOpts) (store : TenantStore) (log : TenantJobLog) (index : RunpodJobIndex)
    (after : IndexedPass)
    : Prop where
  columns
    : ∃ row, after.pass.store.tenants.get? tenant.id = some row
        ∧ ∀ kind, row.resource kind = tenant.resource kind
          ∨ (row.resource kind = none
            ∧ Reaped outside namespaces tenant after.pass.calls kind)
  untouched
    : HeldBack outside store tenant → after.pass.calls = [] ∧ after.pass.store = store
  harvested
    : ∀ databaseId, TeardownCall.deleteD1 databaseId ∈ after.pass.calls
        → WholeLogIndexed log tenant index after.index
  ok
    : after.pass.outcome.ok
        → EveryLegDone outside namespaces tenant opts after.pass.calls
          ∧ (opts.deleteData → ∀ kind, truthy (tenant.resource kind) ≠ none
            → Cleared tenant after.pass kind)

section

variable {outside : Outside} {namespaces : Namespaces} {tenant : Tenant} {opts : TeardownOpts}
  {referrers : List ResourceReferrer}

/-- A reap answers, and without a failure it has swept the modules and revoked by name. -/
theorem answers_reap (outside : Outside) (namespaces : Namespaces) (tenant : Tenant)
    (opts : TeardownOpts) (referrers : List ResourceReferrer) (pass : Pass)
    : Answers outside namespaces tenant pass (reap outside namespaces tenant opts referrers pass)
      ∧ ((reap outside namespaces tenant opts referrers pass).failures = []
        → ModulesSwept outside namespaces tenant
            (reap outside namespaces tenant opts referrers pass).calls
          ∧ TeardownCall.revokeByName (tenantAigTokenName tenant.slug)
            ∈ (reap outside namespaces tenant opts referrers pass).calls
          ∧ TeardownCall.revokeByName (tenantStudioAigTokenName tenant.slug)
            ∈ (reap outside namespaces tenant opts referrers pass).calls)
      ∧ ∀ kind, InScope opts kind → (reapingCall namespaces tenant kind).isSome
        → Reaps outside namespaces tenant kind pass
            (reap outside namespaces tenant opts referrers pass) := by
  have worker := reaps_workerLeg outside namespaces tenant opts referrers pass
  unfold reap reapBehindWorker
  simp only
  generalize workerLeg outside namespaces tenant opts referrers pass = studioGone at worker ⊢
  obtain ⟨modules, swept⟩ := answers_modulesLeg outside namespaces tenant studioGone
  generalize modulesLeg outside namespaces tenant studioGone = modulesGone at modules swept ⊢
  obtain ⟨tokens, byName, credential⟩ :=
    answers_tokensLeg outside namespaces tenant opts referrers modulesGone
  generalize tokensLeg outside tenant opts referrers modulesGone = tokensGone
    at tokens byName credential ⊢
  have data : Answers outside namespaces tenant tokensGone
      (if opts.deleteData then
        bucketLeg outside tenant opts referrers (databaseLeg outside tenant opts referrers tokensGone)
      else tokensGone) := by
    split
    · exact (answers_databaseLeg _).trans (answers_bucketLeg _)
    · exact .refl _
  have beforeData := (worker.answers.trans modules).trans tokens
  refine ⟨beforeData.trans data, ?_, ?_⟩
  · intro none
    have noFailure := data.failures_nil none
    obtain ⟨listed, resident, lists, remains, deleted, gone⟩ :=
      swept (tokens.failures_nil noFailure)
    obtain ⟨moduleToken, studioToken⟩ := byName noFailure
    refine ⟨⟨listed, resident, lists, remains, ?_, gone⟩, data.issued moduleToken,
      data.issued studioToken⟩
    exact fun script member own => data.issued (tokens.issued (deleted script member own))
  · intro kind inScope some
    cases kind with
    | worker => exact worker.before (modules.trans (tokens.trans data))
    | r2Token =>
        obtain ⟨tokenId, isToken⟩ := Option.isSome_iff_exists.mp (Option.isSome_map.symm.trans some)
        exact ((credential tokenId isToken).before data).after (worker.answers.trans modules)
    | d1 =>
        obtain ⟨databaseId, isDatabase⟩ :=
          Option.isSome_iff_exists.mp (Option.isSome_map.symm.trans some)
        have deletes : opts.deleteData := inScope
        rw [if_pos deletes]
        exact ((reaps_databaseLeg _ isDatabase).before (answers_bucketLeg _)).after beforeData
    | r2Bucket =>
        obtain ⟨bucket, isBucket⟩ := Option.isSome_iff_exists.mp (Option.isSome_map.symm.trans some)
        have deletes : opts.deleteData := inScope
        rw [if_pos deletes]
        exact (reaps_bucketLeg _ isBucket).after (beforeData.trans (answers_databaseLeg _))

/-- Recording the outcome changes neither the tables nor the failures. -/
theorem recordTeardownSafely_rest (outside : Outside) (pass : Pass)
    : (recordTeardownSafely outside pass).store = pass.store
      ∧ (recordTeardownSafely outside pass).failures = pass.failures := by
  unfold recordTeardownSafely
  split <;> exact ⟨rfl, rfl⟩

/-- A pass that is held back records why, and leaves the tables alone. -/
theorem teardownTenant_heldBack (namespaces : Namespaces) (opts : TeardownOpts)
    {store : TenantStore} (held : HeldBack outside store tenant)
    : let after := teardownTenant outside namespaces tenant opts store
      after.calls = [] ∧ after.store = store ∧ after.failures ≠ [] := by
  have refused : ∀ resource error,
      (recordTeardownSafely outside (Pass.fail { store := store } resource error)).calls = []
      ∧ (recordTeardownSafely outside (Pass.fail { store := store } resource error)).store = store
      ∧ (recordTeardownSafely outside
          (Pass.fail { store := store } resource error)).failures ≠ [] := by
    intro resource error
    obtain ⟨sameStore, sameFailures⟩ :=
      recordTeardownSafely_rest outside (Pass.fail { store := store } resource error)
    refine ⟨recordTeardownSafely_calls _, sameStore, ?_⟩
    rw [sameFailures]
    exact List.cons_ne_nil _ _
  intro after
  simp only [after, teardownTenant]
  rcases held with ⟨hold, more, open_⟩ | ⟨thrown, failed⟩ | ⟨thrown, failed⟩
  · rw [open_]
    exact refused _ _
  · rw [failed]
    exact refused _ _
  · split
    · exact refused _ _
    · exact refused _ _
    · rw [failed]
      exact refused _ _

/-- A pass that is not held back is its reap. -/
theorem teardownTenant_through (namespaces : Namespaces) (opts : TeardownOpts)
    {store : TenantStore} (through : ¬ HeldBack outside store tenant)
    : ∃ referrers,
        teardownTenant outside namespaces tenant opts store
          = recordTeardownSafely outside
              (reap outside namespaces tenant opts referrers { store := store }) := by
  unfold HeldBack at through
  unfold teardownTenant
  simp only
  split
  · next thrown failed => exact absurd (.inr (.inl ⟨thrown, failed⟩)) through
  · next hold more open_ => exact absurd (.inl ⟨hold, more, open_⟩) through
  · split
    · next thrown failed => exact absurd (.inr (.inr ⟨thrown, failed⟩)) through
    · next referrers _ => exact ⟨referrers, rfl⟩

/-- What is issued behind nothing succeeded, where nothing failed. -/
theorem Answers.succeeded {before after : Pass}
    (answers : Answers outside namespaces tenant before after) (noCalls : before.calls = [])
    (none : after.failures = [])
    : ∀ call ∈ after.calls, call.Succeeded outside := by
  obtain ⟨more, grown, answered⟩ := answers.calls
  intro call member
  rw [grown, noCalls] at member
  exact (answered call member).resolve_right fun failed => failed none

/-- A reap that leaves no failure behind has done every leg. -/
theorem everyLegDone_of_reap {store : TenantStore}
    (found : store.tenants.get? tenant.id = some tenant)
    (none : (reap outside namespaces tenant opts referrers { store := store }).failures = [])
    : EveryLegDone outside namespaces tenant opts
          (reap outside namespaces tenant opts referrers { store := store }).calls
        ∧ (opts.deleteData → ∀ kind, truthy (tenant.resource kind) ≠ Option.none
          → Cleared tenant (reap outside namespaces tenant opts referrers { store := store })
              kind) := by
  obtain ⟨answers, swept, reaps⟩ :=
    answers_reap outside namespaces tenant opts referrers { store := store }
  obtain ⟨modules, byName⟩ := swept none
  refine ⟨⟨answers.succeeded rfl none, ?_, modules, byName⟩, ?_⟩
  · intro kind inScope call isReaping
    obtain ⟨⟨reaping, isReaping', issued, _⟩, _⟩ :=
      (reaps kind inScope (Option.isSome_of_mem isReaping)).reaped tenant found none
    exact Option.some.inj (isReaping'.symm.trans isReaping) ▸ issued
  · intro deletes kind set
    have inScope : InScope opts kind := by
      cases kind with
      | worker | r2Token => trivial
      | d1 | r2Bucket => exact deletes
    have isReaped : (reapingCall namespaces tenant kind).isSome := by
      cases kind with
      | worker => rfl
      | r2Token | d1 | r2Bucket =>
          exact Option.isSome_map.trans (Option.isSome_iff_ne_none.mpr set)
    exact ((reaps kind inScope isReaped).reaped tenant found none).2

end

/-- A teardown's row and answer record what it reaped, whatever fails on the way. -/
theorem teardown_recordsReaped {now : Nat} {log : TenantJobLog} {outside : Outside}
    {namespaces : Namespaces} {tenant : Tenant} {opts : TeardownOpts} {store : TenantStore}
    {index : RunpodJobIndex} (found : store.tenants.get? tenant.id = some tenant)
    : RecordsReaped outside namespaces tenant opts store log index
        (teardownIndexed now log outside namespaces tenant opts store index) := by
  have samePass
      : (teardownIndexed now log outside namespaces tenant opts store index).pass
        = teardownTenant (outside.reading log) namespaces tenant opts store :=
    teardownIndexed_pass store index
  have harvested : ∀ databaseId,
      TeardownCall.deleteD1 databaseId
        ∈ (teardownIndexed now log outside namespaces tenant opts store index).pass.calls
      → WholeLogIndexed log tenant index
          (teardownIndexed now log outside namespaces tenant opts store index).index :=
    fun _ => teardownIndexed_deletes
  generalize teardownIndexed now log outside namespaces tenant opts store index = after
    at samePass harvested ⊢
  have isOk : after.pass.outcome.ok → after.pass.failures = [] :=
    fun ok => List.length_eq_zero_iff.mp (of_decide_eq_true ok)
  by_cases held : HeldBack (outside.reading log) store tenant
  · obtain ⟨nothing, sameStore, failed⟩ := teardownTenant_heldBack namespaces opts held
    rw [← samePass] at nothing sameStore failed
    refine ⟨⟨tenant, ?_, fun _ => .inl rfl⟩, fun _ => ⟨nothing, sameStore⟩, harvested, ?_⟩
    · rw [sameStore]
      exact found
    · exact fun ok => absurd (isOk ok) failed
  · obtain ⟨referrers, through⟩ := teardownTenant_through namespaces opts held
    obtain ⟨sameStore, sameFailures⟩ := recordTeardownSafely_rest (outside.reading log)
      (reap (outside.reading log) namespaces tenant opts referrers { store := store })
    have sameCalls : (recordTeardownSafely (outside.reading log)
          (reap (outside.reading log) namespaces tenant opts referrers { store := store })).calls
        = (reap (outside.reading log) namespaces tenant opts referrers { store := store }).calls :=
      recordTeardownSafely_calls _
    rw [← through, ← samePass] at sameStore sameFailures sameCalls
    refine ⟨?_, fun isHeld => absurd isHeld held, harvested, ?_⟩
    · obtain ⟨answers, _⟩ :=
        answers_reap (outside.reading log) namespaces tenant opts referrers { store := store }
      obtain ⟨row, stored, columns⟩ := answers.columns tenant found
      refine ⟨row, ?_, ?_⟩
      · rw [sameStore]
        exact stored
      · rw [sameCalls]
        exact columns
    · intro ok
      have none : (reap (outside.reading log) namespaces tenant opts referrers
          { store := store }).failures = [] := sameFailures.symm.trans (isOk ok)
      obtain ⟨done, cleared⟩ := everyLegDone_of_reap found none
      refine ⟨?_, fun deletes kind set => ?_⟩
      · rw [sameCalls]
        exact ⟨done.succeeded, done.issued, done.modules, done.byName⟩
      · obtain ⟨row, stored, blank⟩ := cleared deletes kind set
        refine ⟨row, ?_, blank⟩
        rw [sameStore]
        exact stored

/-- A tenant alone in the store, with all four of its resources. -/
def soleTenant : Tenant where
  id := "ten_1"
  slug := "studio"
  accountId := "acc_1"
  status := .live
  scriptName := some "tenant-studio-studio"
  d1DatabaseId := some "db_1"
  r2BucketName := some "vivijure-tenant-studio"
  r2TokenId := some "tok_1"

def soleStore : TenantStore where
  tenants := { rows := [soleTenant], unique := by simp }
  ownership := .empty

/-- A log with one finished job. -/
def oneJobLog : TenantJobLog where
  present := .ok true
  select := none
  rows :=
    [{ jobId := some "job_1", moduleName := some "keyframe", outcome := some "COMPLETED"
       submittedAt := some 10, terminalAt := some 20 }]
  tableless absent := by cases absent

/-- No job has reached the index yet. -/
def noJobsYet : RunpodJobIndex where
  jobs := .empty
  webhookTokens _ member := absurd member List.not_mem_nil

/-- Where every call succeeds, the teardown is ok, and the row says so. -/
theorem soleTenant_recordsReaped
    : (teardownIndexed 30 oneJobLog calm tenantNamespaces soleTenant { deleteData := true } soleStore
        noJobsYet).pass.outcome.ok = true
      ∧ RecordsReaped calm tenantNamespaces soleTenant { deleteData := true } soleStore oneJobLog
          noJobsYet
          (teardownIndexed 30 oneJobLog calm tenantNamespaces soleTenant { deleteData := true }
            soleStore noJobsYet) :=
  ⟨by decide +kernel, teardown_recordsReaped rfl⟩

end ControlPlane.Teardown
