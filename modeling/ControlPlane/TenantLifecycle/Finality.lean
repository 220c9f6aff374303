import ControlPlane.TenantLifecycle.GoLive

/-! Whether a deleted row stays deleted. A teardown guards its own statements with a lease and a
token; setTenantStatus has no guard, so what a late writer finds decides.
-/

namespace ControlPlane.TenantLifecycle

open ControlPlane.JobLifecycle
open ControlPlane.Library
open ControlPlane.Store

/-- The lifecycle a call of a driver writes. -/
def writtenLifecycle : RaceAction → Option TenantLifecycle
  | .markProvisioning _ => some .provisioning
  | .writeAwaiting _ => some .awaitingGoLive
  | .writeFailed _ => some .failed
  | .otherWrite status => some status
  | .tick _ | .start _ | .claim _ _ | .beat _ | .yields _ | .finishSucceeded _
  | .finishFailed _ _ _ | .reap _ _ _ | .rollback _ => none

/-- No driver writes that a row is deleted, or being deleted. -/
theorem writtenLifecycle_alive {call : RaceAction} {status : TenantLifecycle}
    (written : writtenLifecycle call = some status) (notOther : ∀ other, call ≠ .otherWrite other)
    : status ≠ .deleted ∧ status ≠ .deleting := by
  unfold writtenLifecycle at written
  split at written
  all_goals first
    | exact absurd rfl (notOther _)
    | cases written
  all_goals exact ⟨nofun, nofun⟩

/-- The teardown is under way, and the token on the row is its own. -/
def Holds (life : RowLife) (operator : Nat) (row : Tenant) : Prop :=
  ∃ token, (life.teardowns operator).token? = some token ∧ row.reclaimLeaseToken = some token

/-- What an action leaves of the lifecycle: deleted stays deleted, deleting is left alone by all but
the teardown that holds the row, and live is written on a row that still has its studio.
-/
structure KeepsFinal (tenantId : String) (life : RowLife) (action : LifeAction) (next : RowLife)
    : Prop where
  deletedStays
    : life.lifecycle tenantId = some .deleted → next.lifecycle tenantId = some .deleted
  heldStays
    : ∀ row operator, life.row tenantId = some row → row.status = .deleting
      → Holds life operator row → action ≠ .finishTeardown operator
      → next.lifecycle tenantId = some .deleting
  liveLands
    : ∀ request row, action = .promote request → life.row tenantId = some row
      → row.status ≠ .deleted ∧ row.status ≠ .deleting ∧ row.scriptName ≠ none

/-- Deleted is final, and a go-live never resurrects, at one action. -/
def DeletedIsFinal (plane : GoLivePlane) (tenantId : String) (life : RowLife)
    (action : LifeAction) : Prop :=
  ∀ next, life.step plane tenantId action = some next → KeepsFinal tenantId life action next

/-- A write of the lifecycle comes in time: a driver's or a reap's before the row is deleted and
while no teardown holds it in deleting, a go-live's before a teardown has claimed the row or its
studio was recorded as gone.
-/
def InTime (tenantId : String) (life : RowLife) : LifeAction → Prop
  | .driver _ call =>
      writtenLifecycle call ≠ none → ∀ row, life.row tenantId = some row
        → row.status ≠ .deleted ∧ ∀ operator, row.status = .deleting → ¬Holds life operator row
  | .promote _ =>
      ∀ row, life.row tenantId = some row
        → row.status ≠ .deleted ∧ row.status ≠ .deleting ∧ row.scriptName ≠ none
  | .tick _ | .createProvisionJob _ _ _ | .column _ | .openGoLive _ _ _ | .verifyKey _ _
  | .installKey _ _ | .openTeardown _ _ | .beginTeardown _ _ | .sweep _ _ | .readBack _
  | .finishTeardown _ => True

-----------------------------------------------------------------------------------------
-- What one call does to the row
-----------------------------------------------------------------------------------------

variable {plane : GoLivePlane} {tenantId : String} {life next : RowLife}

/-- A driver's call changes the tenants by the lifecycle it writes, and by nothing else. -/
theorem race_tenants {race after : Race} {jobId : String} {call : RaceAction}
    (taken : race.step jobId tenantId call = some after)
    : after.tenants
      = (writtenLifecycle call).elim race.tenants fun status =>
          (setTenantStatus race.now tenantId status).apply race.tenants := by
  cases call with
  | tick seconds =>
      cases taken
      rfl
  | start driver =>
      obtain ⟨-, moved⟩ := Option.ite_none_right_eq_some.mp taken
      cases moved
      rfl
  | claim driver leaseSeconds =>
      obtain ⟨-, moved⟩ := Option.ite_none_right_eq_some.mp taken
      cases moved
      rfl
  | markProvisioning driver =>
      obtain ⟨-, moved⟩ := Option.ite_none_right_eq_some.mp taken
      cases moved
      rfl
  | beat call =>
      obtain ⟨-, moved⟩ := Option.ite_none_right_eq_some.mp taken
      cases moved
      rfl
  | yields driver =>
      obtain ⟨-, moved⟩ := Option.ite_none_right_eq_some.mp taken
      cases moved
      rfl
  | writeAwaiting driver =>
      obtain ⟨-, moved⟩ := Option.ite_none_right_eq_some.mp taken
      cases moved
      rfl
  | finishSucceeded driver =>
      simp only [Race.step] at taken
      split at taken
      · cases taken
        rfl
      · cases taken
  | finishFailed driver errorStep errorMessage =>
      simp only [Race.step] at taken
      split at taken
      all_goals
        cases taken
        try rfl
  | reap driver errorStep errorMessage =>
      obtain ⟨-, moved⟩ := Option.ite_none_right_eq_some.mp taken
      cases moved
      rfl
  | writeFailed driver =>
      simp only [Race.step] at taken
      split at taken
      · cases taken
        rfl
      · cases taken
  | rollback driver =>
      obtain ⟨-, moved⟩ := Option.ite_none_right_eq_some.mp taken
      cases moved
      rfl
  | otherWrite status =>
      cases taken
      rfl

/-- The row after a statement. -/
theorem row_runs (life : RowLife) (statement : Update Tenant.id)
    : (life.runs statement).row tenantId = (life.row tenantId).map statement.onRow :=
  Update.get?_apply ..

/-- A statement whose SET clause leaves the status alone leaves the lifecycle alone. -/
theorem lifecycle_runs_of_keeps (life : RowLife) (statement : Update Tenant.id)
    (keeps : ∀ row, (statement.set row).status = row.status)
    : (life.runs statement).lifecycle tenantId = life.lifecycle tenantId := by
  have kept : ∀ row, (statement.onRow row).status = row.status := by
    intro row
    rcases statement.onRow_cases row with same | ⟨-, set⟩
    · rw [same]
    · rw [set, keeps]
  rw [RowLife.lifecycle, row_runs, Option.map_map, RowLife.lifecycle]
  exact congrArg (Option.map · _) (funext kept)

theorem columnWrite_status (tenantId : String) (write : ColumnWrite) (row : Tenant)
    : ((write.statement tenantId).set row).status = row.status := by
  cases write with
  | setTenantEndpoints endpointsJson => rfl
  | setTenantScript scriptName release => rfl
  | clearTenantResource kind => cases kind <;> rfl

/-- A teardown that has just been confirmed, or refused, holds no token. -/
theorem confirmTeardown_token (provisioner : Bool) (body : TeardownBody) (found : Option Tenant)
    : (confirmTeardown provisioner body found).token? = none := by
  unfold confirmTeardown
  split
  · rfl
  · split
    · rfl
    · split
      · rfl
      · split
        · rfl
        · split <;> rfl

/-- setTenantStatus leaves its status on the row, whatever it finds. -/
theorem lifecycle_written {row : Tenant} (found : life.row tenantId = some row)
    (status : TenantLifecycle)
    : (life.runs (setTenantStatus life.now tenantId status)).lifecycle tenantId = some status := by
  have keyed : row.id = tenantId := Keyed.get?_key found
  rw [RowLife.lifecycle, row_runs, found, Option.map_some, Option.map_some,
    Update.onRow_of_match keyed rfl]
  rfl

theorem lifecycle_eq {row : Tenant} (found : life.row tenantId = some row)
    : life.lifecycle tenantId = some row.status := by
  rw [RowLife.lifecycle, found, Option.map_some]

/-- An action that leaves the lifecycle alone, and does not promote, keeps what is final. -/
theorem keepsFinal_of_same {action : LifeAction}
    (same : next.lifecycle tenantId = life.lifecycle tenantId)
    (notLive : ∀ request, action ≠ .promote request)
    : KeepsFinal tenantId life action next where
  deletedStays deleted := same.trans deleted
  heldStays row operator found deleting _ _ := by
    rw [same, lifecycle_eq found, deleting]
  liveLands request row promotes := absurd promotes (notLive request)

/-- A write of a status that is neither deleted nor deleting keeps what is final exactly when it
finds the row not deleted, and not held in deleting.
-/
theorem keepsFinal_written_iff {action : LifeAction} {status : TenantLifecycle}
    (written : next.lifecycle tenantId = (life.row tenantId).map fun _ => status)
    (alive : status ≠ .deleted ∧ status ≠ .deleting)
    (notFinish : ∀ operator, action ≠ .finishTeardown operator)
    (notLive : ∀ request, action ≠ .promote request)
    : KeepsFinal tenantId life action next
      ↔ ∀ row, life.row tenantId = some row
          → row.status ≠ .deleted
            ∧ ∀ operator, row.status = .deleting → ¬Holds life operator row := by
  constructor
  · intro kept row found
    rw [found, Option.map_some] at written
    constructor
    · intro deleted
      have stays := kept.deletedStays (by rw [lifecycle_eq found, deleted])
      exact alive.1 (Option.some.inj (written.symm.trans stays))
    · intro operator deleting held
      have stays := kept.heldStays row operator found deleting held (notFinish operator)
      exact alive.2 (Option.some.inj (written.symm.trans stays))
  · intro free
    constructor
    · intro deleted
      obtain ⟨row, found, gone⟩ := Option.map_eq_some_iff.mp deleted
      exact absurd gone (free row found).1
    · intro row operator found deleting held _
      exact absurd held ((free row found).2 operator deleting)
    · exact fun request row promotes => absurd promotes (notLive request)

-----------------------------------------------------------------------------------------
-- Teardowns under way have tokens of their own
-----------------------------------------------------------------------------------------

/-- A token in flight was minted, and by one teardown only. -/
structure OwnTokens (life : RowLife) : Prop where
  minted : ∀ operator token, (life.teardowns operator).token? = some token → token ∈ life.minted
  own
    : ∀ operator other token, (life.teardowns operator).token? = some token
      → (life.teardowns other).token? = some token → operator = other

/-- A teardown that goes on with the token it has, or with none, keeps the tokens apart. -/
theorem OwnTokens.setTeardown (own : OwnTokens life) {operator : Nat} {place : TeardownAt}
    (carried : ∀ token, place.token? = some token → (life.teardowns operator).token? = some token)
    : OwnTokens (life.setTeardown operator place) := by
  have earlier : ∀ other token,
      ((life.setTeardown operator place).teardowns other).token? = some token
      → (life.teardowns other).token? = some token := by
    intro other token held
    by_cases same : other = operator
    · subst same
      refine carried token ?_
      simpa [RowLife.setTeardown] using held
    · simpa [RowLife.setTeardown, same] using held
  refine ⟨fun other token held => own.minted other token (earlier other token held), ?_⟩
  intro other third token held alsoHeld
  exact own.own other third token (earlier other token held) (earlier third token alsoHeld)

theorem OwnTokens.congr (own : OwnTokens life) (teardowns : next.teardowns = life.teardowns)
    (minted : next.minted = life.minted)
    : OwnTokens next := by
  constructor
  · intro operator token held
    rw [minted]
    exact own.minted operator token (teardowns ▸ held)
  · intro operator other token held alsoHeld
    exact own.own operator other token (teardowns ▸ held) (teardowns ▸ alsoHeld)

/-- A teardown that is given a new token keeps the tokens apart. -/
theorem OwnTokens.mint (own : OwnTokens life) {operator : Nat} {place : TeardownAt}
    {token : String} (fresh : token ∉ life.minted) (given : place.token? = some token)
    : OwnTokens { life.setTeardown operator place with minted := token :: life.minted } := by
  have held_cases : ∀ other held,
      ((life.setTeardown operator place).teardowns other).token? = some held
      → (other = operator ∧ held = token)
        ∨ (other ≠ operator ∧ (life.teardowns other).token? = some held) := by
    intro other held carries
    by_cases same : other = operator
    · subst same
      refine .inl ⟨rfl, ?_⟩
      have carried : place.token? = some held := by
        simpa [RowLife.setTeardown] using carries
      exact Option.some.inj (carried.symm.trans given)
    · exact .inr ⟨same, by simpa [RowLife.setTeardown, same] using carries⟩
  constructor
  · intro other held carries
    rcases held_cases other held carries with ⟨-, isNew⟩ | ⟨-, before⟩
    · exact isNew ▸ List.mem_cons_self
    · exact List.mem_cons_of_mem _ (own.minted other held before)
  · intro other third held carries alsoCarries
    rcases held_cases other held carries with ⟨isOperator, isNew⟩ | ⟨-, before⟩
    · rcases held_cases third held alsoCarries with ⟨alsoOperator, -⟩ | ⟨-, alsoBefore⟩
      · exact isOperator.trans alsoOperator.symm
      · exact absurd (own.minted third held alsoBefore) (isNew ▸ fresh)
    · rcases held_cases third held alsoCarries with ⟨-, alsoNew⟩ | ⟨-, alsoBefore⟩
      · exact absurd (own.minted other held before) (alsoNew ▸ fresh)
      · exact own.own other third held before alsoBefore

/-- Every action keeps the tokens apart. -/
theorem ownTokens_step {action : LifeAction} (own : OwnTokens life)
    (taken : life.step plane tenantId action = some next)
    : OwnTokens next := by
  cases action with
  | tick seconds =>
      cases taken
      exact own.congr rfl rfl
  | createProvisionJob id runpodMode toRelease =>
      obtain ⟨jobs, -, moved⟩ := Option.map_eq_some_iff.mp taken
      cases moved
      exact own.congr rfl rfl
  | driver jobId call =>
      simp only [RowLife.step] at taken
      split at taken
      · cases taken
      · cases taken
      · obtain ⟨race, -, moved⟩ := Option.map_eq_some_iff.mp taken
        cases moved
        exact own.congr rfl rfl
  | column write =>
      cases taken
      exact own.congr rfl rfl
  | openGoLive request accountId namesKey =>
      obtain ⟨-, moved⟩ := Option.ite_none_right_eq_some.mp taken
      cases moved
      exact own.congr rfl rfl
  | verifyKey request verdict =>
      simp only [RowLife.step] at taken
      split at taken
      · cases taken
        exact own.congr rfl rfl
      · cases taken
  | installKey request outcome =>
      simp only [RowLife.step] at taken
      split at taken
      · cases taken
        exact own.congr rfl rfl
      · cases taken
  | promote request =>
      simp only [RowLife.step] at taken
      split at taken
      · cases taken
        exact own.congr rfl rfl
      · cases taken
  | openTeardown operator body =>
      obtain ⟨-, moved⟩ := Option.ite_none_right_eq_some.mp taken
      cases moved
      refine own.setTeardown fun token held => ?_
      rw [confirmTeardown_token] at held
      cases held
  | beginTeardown operator token =>
      simp only [RowLife.step] at taken
      split at taken
      · cases taken
      · next fresh =>
          split at taken
          · next request at_ =>
              split at taken
              · cases taken
                exact own.setTeardown fun _ held => by cases held
              · next lease won =>
                  cases taken
                  have runs
                      : OwnTokens (life.runs (Store.beginTeardown life.now life.jobs tenantId
                          reclaimLeaseSeconds token)) :=
                    own.congr rfl rfl
                  have given : (TeardownAt.leased request lease token).token? = some token := rfl
                  exact runs.mint fresh given
          · cases taken
  | sweep operator ok =>
      simp only [RowLife.step] at taken
      split at taken
      · next request lease token at_ =>
          cases taken
          exact own.setTeardown fun held carried => at_ ▸ carried
      · cases taken
  | readBack operator =>
      simp only [RowLife.step] at taken
      split at taken
      · next request token ok at_ =>
          cases taken
          exact own.setTeardown fun held carried => at_ ▸ carried
      · cases taken
  | finishTeardown operator =>
      simp only [RowLife.step] at taken
      split at taken
      · next request token ok found at_ =>
          cases taken
          have runs
              : OwnTokens (life.runs (Store.finishTeardown life.now tenantId token
                  (ok && request.deleteData))) :=
            own.congr rfl rfl
          refine runs.setTeardown fun held carried => ?_
          cases carried
      · cases taken

-----------------------------------------------------------------------------------------
-- What one action leaves of a deleted row, and of one that is being deleted
-----------------------------------------------------------------------------------------

/-- A claim of a teardown leaves a deleted row deleted and a deleting row deleting. -/
theorem keepsFinal_begin {operator : Nat} {token : String} {place : TeardownAt}
    : KeepsFinal tenantId life (.beginTeardown operator token)
        { (life.runs (Store.beginTeardown life.now life.jobs tenantId reclaimLeaseSeconds
            token)).setTeardown operator place with
          minted := token :: life.minted } := by
  have left : ∀ row status, life.row tenantId = some row → row.status = status
      → status = .deleted ∨ status = .deleting
      → (life.runs (Store.beginTeardown life.now life.jobs tenantId reclaimLeaseSeconds
          token)).lifecycle tenantId = some status := by
    intro row status found isStatus dying
    rw [RowLife.lifecycle, row_runs, found, Option.map_some, Option.map_some, Option.some.injEq]
    rcases Update.onRow_cases
        (Store.beginTeardown life.now life.jobs tenantId reclaimLeaseSeconds token) row with
      same | ⟨-, set⟩
    · rw [same, isStatus]
    · rw [set]
      rcases dying with deleted | deleting
      · simp [Store.beginTeardown, isStatus, deleted]
      · simp [Store.beginTeardown, isStatus, deleting]
  constructor
  · intro deleted
    obtain ⟨row, found, gone⟩ := Option.map_eq_some_iff.mp deleted
    exact left row .deleted found gone (.inl rfl)
  · intro row other found deleting _ _
    exact left row .deleting found deleting (.inr rfl)
  · intro request row promotes
    cases promotes

/-- A completion leaves a deleted row deleted. It changes a row only under its own token, so a row
that another teardown holds is left alone.
-/
theorem keepsFinal_finish {operator : Nat} {request : TeardownRequest} {token : String} {ok : Bool}
    {found : Option Tenant} {place : TeardownAt} (own : OwnTokens life)
    (at_ : life.teardowns operator = .finishing request token ok found) (reaped : Bool)
    : KeepsFinal tenantId life (.finishTeardown operator)
        ((life.runs (Store.finishTeardown life.now tenantId token reaped)).setTeardown operator
          place) := by
  have carried : (life.teardowns operator).token? = some token := by
    rw [at_]
    rfl
  constructor
  · intro deleted
    obtain ⟨row, there, gone⟩ := Option.map_eq_some_iff.mp deleted
    change (life.runs _).lifecycle tenantId = some .deleted
    rw [RowLife.lifecycle, row_runs, there, Option.map_some, Option.map_some, Option.some.injEq]
    rcases Update.onRow_cases (Store.finishTeardown life.now tenantId token reaped) row with
      same | ⟨-, set⟩
    · rw [same, gone]
    · rw [set]
      simp [Store.finishTeardown, gone]
  · intro row other there deleting held notOwn
    obtain ⟨held, alsoCarried, onRow⟩ := held
    have differs : held ≠ token := by
      intro same
      subst same
      exact notOwn (congrArg _ (own.own operator other held carried alsoCarried))
    change (life.runs _).lifecycle tenantId = some .deleting
    rw [RowLife.lifecycle, row_runs, there, Option.map_some, Option.map_some, Option.some.injEq]
    rcases Update.onRow_cases (Store.finishTeardown life.now tenantId token reaped) row with
      same | ⟨met, -⟩
    · rw [same, deleting]
    · simp only [Store.finishTeardown, decide_eq_true_eq] at met
      exact absurd (Option.some.inj (onRow.symm.trans met)) differs
  · intro other row promotes
    cases promotes

/-- A driver's call keeps what is final exactly when what it writes comes in time. -/
theorem keepsFinal_driver_iff {jobId : String} {call : RaceAction} {race : Race}
    (called : (life.race jobId).step jobId tenantId call = some race)
    (notOther : ∀ other, call = .otherWrite other → False)
    : KeepsFinal tenantId life (.driver jobId call) (life.afterRace jobId race)
      ↔ InTime tenantId life (.driver jobId call) := by
  have tenants := race_tenants called
  cases written : writtenLifecycle call with
  | none =>
      rw [written, Option.elim_none] at tenants
      refine iff_of_true (keepsFinal_of_same ?_ nofun) fun writes => absurd written writes
      exact congrArg (fun table : Tenants => (table.get? tenantId).map Tenant.status) tenants
  | some status =>
      rw [written, Option.elim_some] at tenants
      have after : (life.afterRace jobId race).lifecycle tenantId
          = (life.row tenantId).map fun _ => status := by
        change (race.tenants.get? tenantId).map Tenant.status = _
        rw [tenants]
        change (life.runs (setTenantStatus life.now tenantId status)).lifecycle tenantId = _
        cases found : life.row tenantId with
        | none =>
            rw [RowLife.lifecycle, row_runs, found]
            rfl
        | some row => rw [lifecycle_written found, Option.map_some]
      have notFinish : ∀ operator, LifeAction.driver jobId call ≠ .finishTeardown operator :=
        fun _ => nofun
      have notLive : ∀ request, LifeAction.driver jobId call ≠ .promote request := fun _ => nofun
      have alive := writtenLifecycle_alive written notOther
      refine (keepsFinal_written_iff after alive notFinish notLive).trans ?_
      refine ⟨fun free _ => free, fun inTime => inTime ?_⟩
      rw [written]
      exact Option.some_ne_none status

/-- One action keeps what is final exactly when the lifecycle write it makes, if it makes one, comes
in time.
-/
theorem keepsFinal_iff {action : LifeAction} (own : OwnTokens life)
    (taken : life.step plane tenantId action = some next)
    : KeepsFinal tenantId life action next ↔ InTime tenantId life action := by
  cases action with
  | tick seconds =>
      cases taken
      exact iff_of_true (keepsFinal_of_same rfl nofun) trivial
  | createProvisionJob id runpodMode toRelease =>
      obtain ⟨jobs, -, moved⟩ := Option.map_eq_some_iff.mp taken
      cases moved
      exact iff_of_true (keepsFinal_of_same rfl nofun) trivial
  | driver jobId call =>
      simp only [RowLife.step] at taken
      split at taken
      · cases taken
      · cases taken
      · next notTick notOther =>
          obtain ⟨race, called, moved⟩ := Option.map_eq_some_iff.mp taken
          cases moved
          exact keepsFinal_driver_iff called notOther
  | column write =>
      cases taken
      refine iff_of_true (keepsFinal_of_same ?_ nofun) trivial
      exact lifecycle_runs_of_keeps life _ (columnWrite_status tenantId write)
  | openGoLive request accountId namesKey =>
      obtain ⟨-, moved⟩ := Option.ite_none_right_eq_some.mp taken
      cases moved
      exact iff_of_true (keepsFinal_of_same rfl nofun) trivial
  | verifyKey request verdict =>
      simp only [RowLife.step] at taken
      split at taken
      · cases taken
        exact iff_of_true (keepsFinal_of_same rfl nofun) trivial
      · cases taken
  | installKey request outcome =>
      simp only [RowLife.step] at taken
      split at taken
      · cases taken
        exact iff_of_true (keepsFinal_of_same rfl nofun) trivial
      · cases taken
  | promote request =>
      constructor
      · exact fun kept row found => kept.liveLands request row rfl found
      · intro free
        refine ⟨fun deleted => ?_, fun row operator found deleting _ _ => ?_, ?_⟩
        · obtain ⟨row, found, gone⟩ := Option.map_eq_some_iff.mp deleted
          exact absurd gone (free row found).1
        · exact absurd deleting (free row found).2.1
        · exact fun other row _ found => free row found
  | openTeardown operator body =>
      obtain ⟨-, moved⟩ := Option.ite_none_right_eq_some.mp taken
      cases moved
      exact iff_of_true (keepsFinal_of_same rfl nofun) trivial
  | beginTeardown operator token =>
      simp only [RowLife.step] at taken
      split at taken
      · cases taken
      · split at taken
        · split at taken
          · cases taken
            exact iff_of_true (keepsFinal_of_same rfl nofun) trivial
          · cases taken
            exact iff_of_true keepsFinal_begin trivial
        · cases taken
  | sweep operator ok =>
      simp only [RowLife.step] at taken
      split at taken
      · cases taken
        exact iff_of_true (keepsFinal_of_same rfl nofun) trivial
      · cases taken
  | readBack operator =>
      simp only [RowLife.step] at taken
      split at taken
      · cases taken
        exact iff_of_true (keepsFinal_of_same rfl nofun) trivial
      · cases taken
  | finishTeardown operator =>
      simp only [RowLife.step] at taken
      split at taken
      · next request token ok found at_ =>
          cases taken
          exact iff_of_true (keepsFinal_finish own at_ _) trivial
      · cases taken

-----------------------------------------------------------------------------------------
-- Whole runs
-----------------------------------------------------------------------------------------

theorem ownTokens_opening (now : Nat) (jobs : Jobs) (tenants : Tenants)
    : OwnTokens (RowLife.opening now jobs tenants) where
  minted _ _ held := nomatch held
  own _ _ _ held := nomatch held

/-- A deleted row is deleted in every state of a run whose lifecycle writes come in time. -/
theorem deleted_everywhere {plane : GoLivePlane} {tenantId : String} {life : RowLife}
    {run : List LifeAction} (own : OwnTokens life)
    (deleted : life.lifecycle tenantId = some .deleted)
    (inTime : Throughout (RowLife.step plane tenantId) (InTime tenantId) life run)
    : Everywhere (RowLife.step plane tenantId)
        (fun reached => reached.lifecycle tenantId = some .deleted) life run := by
  have keeps : ∀ state action next,
      OwnTokens state ∧ state.lifecycle tenantId = some .deleted → InTime tenantId state action
      → state.step plane tenantId action = some next
      → OwnTokens next ∧ next.lifecycle tenantId = some .deleted := by
    intro state action next kept timely taken
    have final := (keepsFinal_iff kept.1 taken).mpr timely
    exact ⟨ownTokens_step kept.1 taken, final.deletedStays kept.2⟩
  exact everywhere_of_throughout keeps (fun _ kept => kept.2) ⟨own, deleted⟩ inTime

def sharedPlane : GoLivePlane where
  provisioner := true
  sharedPoolInvokeKey := some "rpa_pool"

/-- A studio that waits for its owner to go live. -/
def waitingTenant : Tenant where
  id := "ten_1"
  slug := "alpha"
  accountId := "acc_1"
  status := .awaitingGoLive
  scriptName := some "tenant-alpha-studio"
  endpointsJson := some "[\"ep_1\"]"
  runpodMode := "shared"

/-- The owner's key is being installed while the operator tears the studio down, data included. -/
def teardownDuringGoLive : List LifeAction :=
  [.openGoLive 0 "acc_1" false, .verifyKey 0 (.ok ["ep_1"]),
    .openTeardown 0 { confirmSlug := some "alpha", deleteData := true, iOwn := none },
    .beginTeardown 0 "token-1", .column (.clearTenantResource .worker), .sweep 0 true,
    .readBack 0, .finishTeardown 0,
    .installKey 0
      (.probed
        { verified := ["keyframe"], unverified := [], unconfirmed := [], attempts := 3
          elapsedMs := 9000 })]

end ControlPlane.TenantLifecycle
