import ControlPlane.Library.Runs
import ControlPlane.Store.Tenants

/-! The reclaim lease of a tenant row and the token that proves it, over whole runs of the
statements that claim, complete and write the lifecycle. The jobs table may be any table at
each step.
-/

namespace ControlPlane.TenantLifecycle

open ControlPlane.Library
open ControlPlane.Store

/-- The clock does not run backwards. -/
def ClockForward (run : TenantRun) : Prop :=
  run.Pairwise fun earlier later => earlier.now ≤ later.now

/-- The random tokens the run mints. -/
def mintedTokens (run : TenantRun) : List String :=
  run.filterMap fun event => event.call.minted.map Prod.fst

/-- The token the row starts with. -/
def startToken (start : Tenants) (id : String) : Option String :=
  (start.get? id).bind Tenant.reclaimLeaseToken

/-- No token is minted twice, and none is the one the row started with. -/
def FreshTokens (start : Tenants) (id : String) (run : TenantRun) : Prop :=
  ((startToken start id).toList ++ mintedTokens run).Nodup

instance (run : TenantRun) : Decidable (ClockForward run) := by
  unfold ClockForward; infer_instance

instance (start : Tenants) (id : String) (run : TenantRun)
    : Decidable (FreshTokens start id run) := by
  unfold FreshTokens; infer_instance

/-- The event claims the row, and mints this token for so many seconds. -/
def Claims (id token : String) (seconds : Nat) (event : TenantEvent) : Prop :=
  event.call.tenantId = id ∧ event.call.minted = some (token, seconds)

/-- The event completes a claim of the row with this token. -/
def Completes (id token : String) (event : TenantEvent) : Prop :=
  event.call.tenantId = id ∧ event.call.presented = some token

/-- The event is one of the two statements that reuse a slug. -/
def Reclaims (id : String) (event : TenantEvent) : Prop :=
  (∃ accountId seconds token, event.call = .claimReclaim id accountId seconds token)
  ∨ ∃ accountId token, event.call = .reclaimSlug id accountId token

/-- No claim succeeds while the lease of an earlier winner is unexpired and uncompleted. -/
def ExcludesWhileHeld (start : Tenants) (id : String) (run : TenantRun) : Prop :=
  ∀ before winner during contender rest token seconds other otherSeconds,
    run = before ++ winner :: during ++ contender :: rest
    → Claims id token seconds winner
    → winner.answer (start.after before) ≠ none
    → (∀ first done second, during = first ++ done :: second
        → Completes id token done
        → done.answer (start.after (before ++ winner :: first)) = none)
    → Claims id other otherSeconds contender
    → contender.now ≤ winner.now + seconds
    → contender.answer (start.after (before ++ winner :: during)) = none

/-- Once a completing call is accepted, no later one with the same token is. -/
def SpentOnce (start : Tenants) (id : String) (run : TenantRun) : Prop :=
  ∀ before first during second rest token,
    run = before ++ first :: during ++ second :: rest
    → Completes id token first
    → first.answer (start.after before) ≠ none
    → Completes id token second
    → second.answer (start.after (before ++ first :: during)) = none

/-- A completing call with any token but the row's current one answers null and changes
nothing.
-/
def RefusesStrangers (start : Tenants) (id : String) (run : TenantRun) : Prop :=
  ∀ before event rest token tenant,
    run = before ++ event :: rest
    → Completes id token event
    → (start.after before).get? id = some tenant
    → tenant.reclaimLeaseToken ≠ some token
    → event.answer (start.after before) = none
      ∧ start.after (before ++ [event]) = start.after before

/-- live_at is never cleared once set, and from then on the slug is never reused. -/
def LiveForGood (start : Tenants) (id : String) (run : TenantRun) : Prop :=
  ∀ before later rest tenant first,
    run = before ++ later ++ rest
    → (start.after before).get? id = some tenant
    → tenant.liveAt = some first
    → (∃ tenant', (start.after (before ++ later)).get? id = some tenant'
        ∧ tenant'.liveAt = some first)
      ∧ ∀ event, rest.head? = some event → Reclaims id event
        → event.answer (start.after (before ++ later)) = none

/-- A tombstone stays one until a lifecycle write, and keeps its first deleted_at through
everything.
-/
def TombstoneKept (start : Tenants) (id : String) (run : TenantRun) : Prop :=
  ∀ before later rest tenant,
    run = before ++ later ++ rest
    → (start.after before).get? id = some tenant
    → tenant.status = .deleted
    → ∃ tenant', (start.after (before ++ later)).get? id = some tenant'
        ∧ (∀ first, tenant.deletedAt = some first → tenant'.deletedAt = some first)
        ∧ ((∀ event ∈ later, ∀ status, event.call = .setTenantStatus id status
              → status = .deleted)
            → tenant'.status = .deleted)

-----------------------------------------------------------------------------------------
-- Who can take the token off a row
-----------------------------------------------------------------------------------------

/-- The event's method answers a row exactly when it finds its row and the WHERE clause
holds of it.
-/
theorem answer_ne_none_iff {tenants : Tenants} {id : String} {event : TenantEvent}
    (names : event.call.tenantId = id)
    : event.answer tenants ≠ none
      ↔ ∃ tenant, tenants.get? id = some tenant ∧ event.statement.guard tenant := by
  have target : event.statement.target = id := by
    rw [TenantEvent.statement, TenantCall.statement_target, names]
  rw [TenantEvent.answer, Option.ne_none_iff_exists']
  simp only [Update.returning_eq_some, target]
  constructor
  · intro answered
    obtain ⟨_, tenant, found, met, _⟩ := answered
    exact ⟨tenant, found, met⟩
  · intro matched
    obtain ⟨tenant, found, met⟩ := matched
    exact ⟨_, tenant, found, met, rfl⟩

/-- The table after one more event. -/
theorem after_snoc (start : Tenants) (sofar : TenantRun) (event : TenantEvent)
    : start.after (sofar ++ [event]) = event.statement.apply (start.after sofar) := by
  rw [Tenants.after_append]
  rfl

/-- One event either leaves the row alone or, naming it and matching it, writes it. -/
theorem get?_event {tenants : Tenants} {id : String} {tenant : Tenant} (event : TenantEvent)
    (found : tenants.get? id = some tenant)
    : (event.statement.apply tenants).get? id = some tenant
      ∨ event.call.tenantId = id
        ∧ event.statement.guard tenant
        ∧ (event.statement.apply tenants).get? id = some (event.statement.set tenant) := by
  by_cases matched : id = event.statement.target ∧ event.statement.guard tenant
  · obtain ⟨same, met⟩ := matched
    have changed := Update.get?_apply_of_match event.statement (same ▸ found) met
    rw [← same] at changed
    rw [TenantEvent.statement, TenantCall.statement_target] at same
    exact .inr ⟨same.symm, met, changed⟩
  · exact .inl (Update.get?_apply_of_not event.statement found matched)

/-- What one event can do to a row's lease and token: leave both, claim a free lease, or
complete the claim whose token the row carries.
-/
theorem token_step {tenants : Tenants} {id : String} {tenant : Tenant} (event : TenantEvent)
    (found : tenants.get? id = some tenant)
    : ∃ next, (event.statement.apply tenants).get? id = some next
        ∧ ((next.reclaimLeaseUntil = tenant.reclaimLeaseUntil
              ∧ next.reclaimLeaseToken = tenant.reclaimLeaseToken)
          ∨ (∃ token seconds, Claims id token seconds event
              ∧ Lease.Free event.now tenant.reclaimLeaseUntil
              ∧ next.reclaimLeaseUntil = some (event.now + seconds)
              ∧ next.reclaimLeaseToken = some token)
          ∨ ∃ token, Completes id token event
              ∧ event.answer tenants ≠ none
              ∧ tenant.reclaimLeaseToken = some token
              ∧ next.reclaimLeaseUntil = none
              ∧ next.reclaimLeaseToken = none) := by
  rcases get?_event event found with kept | ⟨names, met, changed⟩
  · exact ⟨tenant, kept, .inl ⟨rfl, rfl⟩⟩
  refine ⟨_, changed, ?_⟩
  cases claims : event.call.minted with
  | some pair =>
      obtain ⟨token, seconds⟩ := pair
      obtain ⟨free, lease, minted⟩ := TenantCall.claim_spec claims
      exact .inr (.inl ⟨token, seconds, ⟨names, claims⟩, free met, lease, minted⟩)
  | none =>
      cases completes : event.call.presented with
      | some token =>
          obtain ⟨proof, lease, cleared⟩ := TenantCall.completion_spec completes
          have answered := (answer_ne_none_iff names).mpr ⟨tenant, found, met⟩
          exact .inr (.inr ⟨token, ⟨names, completes⟩, answered, proof met, lease, cleared⟩)
      | none => exact .inl (TenantCall.frame_spec claims completes)

/-- A call that answers a row has rewritten the one it names. -/
theorem accepted {tenants : Tenants} {id : String} {event : TenantEvent}
    (names : event.call.tenantId = id) (answered : event.answer tenants ≠ none)
    : ∃ tenant, tenants.get? id = some tenant
        ∧ event.statement.guard tenant
        ∧ (event.statement.apply tenants).get? id = some (event.statement.set tenant) := by
  obtain ⟨tenant, found, met⟩ := (answer_ne_none_iff names).mp answered
  have target : id = event.statement.target := by
    rw [TenantEvent.statement, TenantCall.statement_target, names]
  have changed := Update.get?_apply_of_match event.statement (target ▸ found) met
  exact ⟨tenant, found, met, target ▸ changed⟩

/-- The row's token is the one it started with or one a claim has minted, by induction on
the run.
-/
theorem token_seen {start : Tenants} {id token : String} {run : TenantRun} {tenant : Tenant}
    (found : (start.after run).get? id = some tenant)
    (carries : tenant.reclaimLeaseToken = some token)
    : token ∈ (startToken start id).toList ++ mintedTokens run := by
  induction run using List.reverseRecOn generalizing tenant with
  | nil =>
      have began : start.get? id = some tenant := found
      simp [startToken, began, carries]
  | append_singleton sofar event ih =>
      rw [mintedTokens, List.filterMap_append, ← List.append_assoc]
      rw [after_snoc] at found
      cases earlier : (start.after sofar).get? id with
      | none => simp [Update.get?_apply, earlier] at found
      | some previous =>
          obtain ⟨next, reached, moves⟩ := token_step event earlier
          have same : next = tenant := Option.some.inj (reached.symm.trans found)
          subst same
          rcases moves with ⟨_, kept⟩ | ⟨minted, seconds, claims, _, _, written⟩ | cleared
          · exact List.mem_append_left _ (ih earlier (kept ▸ carries))
          · have this : minted = token := Option.some.inj (written.symm.trans carries)
            exact List.mem_append_right _ (by simp [claims.2, this])
          · obtain ⟨_, _, _, _, _, gone⟩ := cleared
            simp [gone] at carries

/-- While a claim is unexpired and uncompleted the row keeps its lease and token, by
induction on the events since. Another claim needs a free lease and another completion
needs the row's token.
-/
theorem claim_kept {start : Tenants} {id token : String} {seconds : Nat}
    {before during : TenantRun} {winner : TenantEvent}
    (claims : Claims id token seconds winner)
    (won : winner.answer (start.after before) ≠ none)
    (uncompleted
      : ∀ first done second, during = first ++ done :: second
        → Completes id token done
        → done.answer (start.after (before ++ winner :: first)) = none)
    (unexpired : ∀ event ∈ during, event.now ≤ winner.now + seconds)
    : ∃ tenant, (start.after (before ++ winner :: during)).get? id = some tenant
        ∧ tenant.reclaimLeaseUntil = some (winner.now + seconds)
        ∧ tenant.reclaimLeaseToken = some token := by
  refine prefix_induction (P := fun sofar =>
    ∃ tenant, (start.after (before ++ winner :: sofar)).get? id = some tenant
      ∧ tenant.reclaimLeaseUntil = some (winner.now + seconds)
      ∧ tenant.reclaimLeaseToken = some token) ?_ ?_
  · rw [after_snoc]
    obtain ⟨tenant, _, _, changed⟩ := accepted claims.1 won
    exact ⟨_, changed, (TenantCall.claim_spec claims.2).2⟩
  · intro sofar event rest cut held
    obtain ⟨tenant, found, lease, carries⟩ := held
    rw [← List.cons_append, ← List.append_assoc, after_snoc]
    obtain ⟨next, reached, moves⟩ := token_step event found
    refine ⟨next, reached, ?_⟩
    rcases moves with ⟨sameLease, sameToken⟩ | taken | completed
    · exact ⟨sameLease.trans lease, sameToken.trans carries⟩
    · obtain ⟨_, _, _, free, _, _⟩ := taken
      have inTime := unexpired event (by simp [cut])
      rw [lease, Lease.free_some] at free
      omega
    · obtain ⟨presented, completes, answered, carried, _, _⟩ := completed
      have this : presented = token := Option.some.inj (carried.symm.trans carries)
      subst this
      exact absurd (uncompleted sofar event rest cut completes) answered

/-- Once a token is gone from the row and is not minted again, it does not come back, by
induction on the events since.
-/
theorem token_gone {start : Tenants} {id token : String} {before during : TenantRun}
    {tenant : Tenant} (found : (start.after before).get? id = some tenant)
    (gone : tenant.reclaimLeaseToken ≠ some token) (unminted : token ∉ mintedTokens during)
    : ∃ tenant', (start.after (before ++ during)).get? id = some tenant'
        ∧ tenant'.reclaimLeaseToken ≠ some token := by
  refine prefix_induction (P := fun sofar =>
    ∃ tenant', (start.after (before ++ sofar)).get? id = some tenant'
      ∧ tenant'.reclaimLeaseToken ≠ some token) ?_ ?_
  · exact ⟨tenant, by simpa using found, gone⟩
  · intro sofar event rest cut before'
    obtain ⟨previous, reached, absent⟩ := before'
    rw [← List.append_assoc, after_snoc]
    obtain ⟨next, onward, moves⟩ := token_step event reached
    refine ⟨next, onward, ?_⟩
    intro carries
    rcases moves with ⟨_, kept⟩ | ⟨minted, seconds, claims, _, _, written⟩ | cleared
    · exact absent (kept ▸ carries)
    · have this : minted = token := Option.some.inj (written.symm.trans carries)
      refine unminted ?_
      simp [mintedTokens, cut, claims.2, this]
    · obtain ⟨_, _, _, _, _, none⟩ := cleared
      simp [none] at carries

-----------------------------------------------------------------------------------------
-- Claims and completions over whole runs
-----------------------------------------------------------------------------------------

theorem excludesWhileHeld {start : Tenants} {id : String} {run : TenantRun}
    (clock : ClockForward run)
    : ExcludesWhileHeld start id run := by
  intro before winner during contender rest token seconds other otherSeconds cut claims won
    uncompleted contends inTime
  have earlier : ∀ event ∈ during, event.now ≤ winner.now + seconds := by
    intro event member
    have ordered : event.now ≤ contender.now := by
      rw [cut] at clock
      have upto := List.pairwise_append.mp clock
      exact upto.2.2 event (by simp [member]) contender (by simp)
    omega
  obtain ⟨tenant, found, lease, _⟩ := claim_kept claims won uncompleted earlier
  by_contra answered
  obtain ⟨tenant', found', met⟩ := (answer_ne_none_iff contends.1).mp answered
  have same : tenant = tenant' := Option.some.inj (found.symm.trans found')
  subst same
  have free := (TenantCall.claim_spec contends.2).1 met
  rw [lease, Lease.free_some] at free
  omega

theorem spentOnce {start : Tenants} {id : String} {run : TenantRun}
    (fresh : FreshTokens start id run)
    : SpentOnce start id run := by
  intro before first during second rest token cut completes won again
  obtain ⟨tenant, found, met, changed⟩ := accepted completes.1 won
  obtain ⟨proof, _, cleared⟩ := TenantCall.completion_spec completes.2
  have seen := token_seen found (proof met)
  have unminted : token ∉ mintedTokens during := by
    intro minted
    rw [FreshTokens, cut] at fresh
    have parts : mintedTokens (before ++ first :: during ++ second :: rest)
        = mintedTokens before ++ mintedTokens (first :: during ++ second :: rest) := by
      simp [mintedTokens]
    rw [parts, ← List.append_assoc] at fresh
    have later : token ∈ mintedTokens (first :: during ++ second :: rest) := by
      simp only [mintedTokens, List.mem_filterMap] at minted ⊢
      obtain ⟨event, member, mints⟩ := minted
      exact ⟨event, by simp [member], mints⟩
    exact List.disjoint_of_nodup_append fresh seen later
  have spent : (first.statement.set tenant).reclaimLeaseToken ≠ some token := by
    rw [TenantEvent.statement, cleared]
    exact (Option.some_ne_none token).symm
  rw [← after_snoc] at changed
  obtain ⟨tenant', found', absent⟩ := token_gone changed spent unminted
  rw [List.append_assoc, List.singleton_append] at found'
  by_contra answered
  obtain ⟨tenant'', found'', met', _⟩ := accepted again.1 answered
  have same : tenant' = tenant'' := Option.some.inj (found'.symm.trans found'')
  subst same
  exact absent ((TenantCall.completion_spec again.2).1 met')

theorem refusesStrangers (start : Tenants) (id : String) (run : TenantRun)
    : RefusesStrangers start id run := by
  intro before event rest token tenant _ completes found stranger
  have refused : event.answer (start.after before) = none := by
    by_contra answered
    obtain ⟨tenant', found', met, _⟩ := accepted completes.1 answered
    have same : tenant = tenant' := Option.some.inj (found.symm.trans found')
    subst same
    exact stranger ((TenantCall.completion_spec completes.2).1 met)
  refine ⟨refused, ?_⟩
  rw [after_snoc]
  exact Update.apply_eq_self refused

/-- What every event of a continuation keeps of the row, the continuation keeps. -/
theorem kept_after {P : Tenant → Prop} {start : Tenants} {id : String}
    {before later : TenantRun} {tenant : Tenant}
    (found : (start.after before).get? id = some tenant) (holds : P tenant)
    (keeps
      : ∀ event ∈ later, ∀ old, event.call.tenantId = id → event.statement.guard old
        → P old → P (event.statement.set old))
    : ∃ tenant', (start.after (before ++ later)).get? id = some tenant' ∧ P tenant' := by
  rw [Tenants.after_append]
  refine Update.applyAll_invariant ?_ found holds
  intro update member old _ before' target met
  obtain ⟨event, isEvent, same⟩ := List.mem_map.mp member
  subst same
  rw [TenantEvent.statement, TenantCall.statement_target] at target
  exact keeps event isEvent old target met before'

/-- Both statements that reuse a slug refuse a row that was ever live. -/
theorem Reclaims.neverLive {id : String} {event : TenantEvent} {tenant : Tenant}
    (reclaims : Reclaims id event) (met : event.statement.guard tenant)
    : tenant.liveAt = none := by
  rcases reclaims with ⟨accountId, seconds, token, isClaim⟩ | ⟨accountId, token, isReclaim⟩
  · simp only [TenantEvent.statement, isClaim, TenantCall.statement, claimReclaim,
      decide_eq_true_eq] at met
    exact met.2.1
  · simp only [TenantEvent.statement, isReclaim, TenantCall.statement, reclaimSlug,
      decide_eq_true_eq] at met
    exact met.2.1

theorem Reclaims.tenantId {id : String} {event : TenantEvent} (reclaims : Reclaims id event)
    : event.call.tenantId = id := by
  rcases reclaims with ⟨accountId, seconds, token, isClaim⟩ | ⟨accountId, token, isReclaim⟩
  · rw [isClaim]
    rfl
  · rw [isReclaim]
    rfl

theorem liveForGood (start : Tenants) (id : String) (run : TenantRun)
    : LiveForGood start id run := by
  intro before later rest tenant first _ found wasLive
  have kept : ∃ tenant', (start.after (before ++ later)).get? id = some tenant'
      ∧ tenant'.liveAt = some first :=
    kept_after found wasLive fun _ _ _ _ _ live => TenantCall.set_liveAt live
  refine ⟨kept, ?_⟩
  intro event _ reclaims
  obtain ⟨tenant', found', live⟩ := kept
  by_contra answered
  obtain ⟨tenant'', found'', met, _⟩ := accepted reclaims.tenantId answered
  have same : tenant' = tenant'' := Option.some.inj (found'.symm.trans found'')
  subst same
  have never := reclaims.neverLive met
  simp [live] at never

theorem tombstoneKept (start : Tenants) (id : String) (run : TenantRun)
    : TombstoneKept start id run := by
  intro before later rest tenant _ found tombstone
  refine kept_after found ⟨fun _ died => died, fun _ => tombstone⟩ ?_
  intro event member old names met held
  obtain ⟨date, status⟩ := held
  refine ⟨fun first died => TenantCall.set_deletedAt (date first died), ?_⟩
  intro unwritten
  refine TenantCall.set_deleted (status unwritten) ?_ met
  intro written next isWrite
  have this : written = id := by
    rw [← names, isWrite]
    rfl
  exact unwritten event member next (this ▸ isWrite)

/-- The contract of the reclaim lease and its token over a run on one row. -/
structure TokenContract (start : Tenants) (id : String) (run : TenantRun) : Prop where
  excludesWhileHeld : ExcludesWhileHeld start id run
  spentOnce : SpentOnce start id run
  refusesStrangers : RefusesStrangers start id run
  liveForGood : LiveForGood start id run
  tombstoneKept : TombstoneKept start id run

/-- Every run with a forward clock and fresh tokens keeps the contract. -/
theorem tokenContract (start : Tenants) (id : String) (run : TenantRun)
    (clock : ClockForward run) (fresh : FreshTokens start id run)
    : TokenContract start id run where
  excludesWhileHeld := excludesWhileHeld clock
  spentOnce := spentOnce fresh
  refusesStrangers := refusesStrangers start id run
  liveForGood := liveForGood start id run
  tombstoneKept := tombstoneKept start id run

/-- A tenant that failed before it went live. -/
def failedTenant : Tenants :=
  .singleton { id := "ten_1", slug := "studio", accountId := "acc_1", status := .failed }

/-- A reclaim lapses, a teardown takes the row over, both try to complete, and a second
teardown runs after the reaper wrote the lifecycle.
-/
def contestedRun : TenantRun :=
  let noJobs : Jobs := .empty
  [⟨0, noJobs, .claimReclaim "ten_1" "acc_1" 300 "t1"⟩,
    ⟨300, noJobs, .beginTeardown "ten_1" 300 "t2"⟩,
    ⟨301, noJobs, .beginTeardown "ten_1" 300 "t3"⟩,
    ⟨302, noJobs, .reclaimSlug "ten_1" "acc_1" "t1"⟩,
    ⟨400, noJobs, .finishTeardown "ten_1" "t3" true⟩,
    ⟨401, noJobs, .finishTeardown "ten_1" "t3" true⟩,
    ⟨500, noJobs, .setTenantStatus "ten_1" .failed⟩,
    ⟨501, noJobs, .beginTeardown "ten_1" 300 "t4"⟩]

theorem contestedRun_keepsContract : TokenContract failedTenant "ten_1" contestedRun :=
  tokenContract failedTenant "ten_1" contestedRun (by decide) (by decide)

end ControlPlane.TenantLifecycle
