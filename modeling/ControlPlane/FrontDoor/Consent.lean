import ControlPlane.FrontDoor.SignedIn

/-! Nothing behind the gates is done but for an account that is signed in and has accepted the policy,
and no tenant is live whose account did not: one rule for each kind of call, the programs by these
rules, and every run by the programs.
-/

namespace ControlPlane.FrontDoor

open ControlPlane.Crypto
open ControlPlane.Library
open ControlPlane.Routing (readSessionCookie)
open ControlPlane.Store
open ControlPlane.TenantLifecycle

variable {τ : Type} {platform : AccountPlatform} {history grown : List (AccountEvent τ)}
  {db middle next : AccountDb τ} {caller : AccountCaller} {accountId : String}

-----------------------------------------------------------------------------------------
-- What stays as things happen
-----------------------------------------------------------------------------------------

theorem Authenticated.later (authenticated : Authenticated platform history caller accountId)
    (grows : history <+: grown)
    : Authenticated platform grown caller accountId := by
  obtain ⟨before, token, isPrefix, rest⟩ := authenticated.session
  obtain ⟨account, isFound, stands⟩ := authenticated.standing
  exact ⟨⟨before, token, isPrefix.trans grows, rest⟩, ⟨account, grows.subset isFound, stands⟩⟩

theorem Consented.later (consented : Consented history caller accountId)
    (grows : history <+: grown)
    : Consented grown caller accountId := by
  obtain ⟨other, row, isAccepted, rest⟩ := consented
  exact ⟨other, row, grows.subset isAccepted, rest⟩

theorem Gated.later (gated : Gated platform history caller accountId) (grows : history <+: grown)
    : Gated platform grown caller accountId :=
  ⟨gated.authenticated.later grows, gated.consented.later grows⟩

/-- The tenant is there, and belongs to the account. -/
def Owned (tenants : Tenants) (tenantId accountId : String) : Prop :=
  ∃ row ∈ tenants.rows, row.id = tenantId ∧ row.accountId = accountId

/-- A go-live by which a tenant of the account went live. -/
def WentLive (platform : AccountPlatform) (history : List (AccountEvent τ))
    (tenantId accountId : String)
    : Prop :=
  ∃ before caller, before ++ [.wentLive caller tenantId] <+: history
    ∧ Gated platform before caller accountId

/-- The tables say what has happened, and what has happened was allowed. -/
structure AccountDb.Kept (platform : AccountPlatform) (db : AccountDb τ) : Prop where
  signed : Signed platform db.sessions db.history
  allowed : ∀ before event, before ++ [event] <+: db.history → Allowed platform before event
  acceptances : ∀ row ∈ db.acceptances.rows, ∃ caller, .accepted caller row ∈ db.history
  live : ∀ tenant ∈ db.tenants.rows, tenant.status = .live →
    WentLive platform db.history tenant.id tenant.accountId

/-- What any call and any other statement does: more has happened, no tenant changes hands, and what
is kept stays kept.
-/
structure Moves (platform : AccountPlatform) (db next : AccountDb τ) : Prop where
  grows : db.history <+: next.history
  owners : ∀ tenantId accountId, Owned db.tenants tenantId accountId →
    Owned next.tenants tenantId accountId
  kept : db.Kept platform → next.Kept platform

theorem Moves.refl (db : AccountDb τ) : Moves platform db db :=
  ⟨List.prefix_rfl, fun _ _ owned => owned, id⟩

theorem Moves.trans (first : Moves platform db middle) (second : Moves platform middle next)
    : Moves platform db next :=
  ⟨first.grows.trans second.grows,
    fun tenantId accountId owned =>
      second.owners tenantId accountId (first.owners tenantId accountId owned),
    fun kept => second.kept (first.kept kept)⟩

theorem WentLive.later {tenantId : String} (live : WentLive platform history tenantId accountId)
    (grows : history <+: grown)
    : WentLive platform grown tenantId accountId := by
  obtain ⟨before, caller, isPrefix, gated⟩ := live
  exact ⟨before, caller, isPrefix.trans grows, gated⟩

theorem allowed_append {event : AccountEvent τ}
    (allowed : ∀ before event, before ++ [event] <+: history → Allowed platform before event)
    (isAllowed : Allowed platform history event)
    : ∀ before other, before ++ [other] <+: history ++ [event] → Allowed platform before other := by
  intro before other isPrefix
  rcases List.prefix_concat_iff.mp isPrefix with whole | earlier
  · obtain ⟨rfl, same⟩ := List.append_inj' whole rfl
    cases same
    exact isAllowed
  · exact allowed before other earlier

/-- An event that changes no table. -/
theorem moves_log {event : AccountEvent τ} (quiet : event.quiet = true)
    (isAllowed : Allowed platform db.history event)
    : Moves platform db (db.log event) where
  grows := List.prefix_append _ _
  owners _ _ owned := owned
  kept kept :=
    { signed := kept.signed.log quiet
      allowed := allowed_append kept.allowed isAllowed
      acceptances := fun row isRow => by
        obtain ⟨caller, isAccepted⟩ := kept.acceptances row isRow
        exact ⟨caller, List.mem_append_left _ isAccepted⟩
      live := fun tenant isTenant isLive =>
        (kept.live tenant isTenant isLive).later (List.prefix_append _ _) }

theorem moves_signOut (tokenHash : String) (now : Nat)
    : Moves platform db
        ({ db with sessions := (revokeSession tokenHash now).apply db.sessions }.log
          (.signedOut caller tokenHash)) where
  grows := List.prefix_append _ _
  owners _ _ owned := owned
  kept kept :=
    { signed := kept.signed.signOut caller tokenHash now
      allowed := allowed_append kept.allowed trivial
      acceptances := fun row isRow => by
        obtain ⟨other, isAccepted⟩ := kept.acceptances row isRow
        exact ⟨other, List.mem_append_left _ isAccepted⟩
      live := fun tenant isTenant isLive =>
        (kept.live tenant isTenant isLive).later (List.prefix_append _ _) }

theorem moves_accept {row : AupAcceptance}
    (isAllowed : Allowed platform db.history (.accepted caller row))
    : Moves platform db
        ({ db with acceptances := recordAupAcceptance db.acceptances row }.log
          (.accepted caller row)) where
  grows := List.prefix_append _ _
  owners _ _ owned := owned
  kept kept :=
    { signed := kept.signed.log rfl
      allowed := allowed_append kept.allowed isAllowed
      acceptances := fun other isRow => by
        rcases mem_recordAupAcceptance isRow with earlier | rfl
        · obtain ⟨another, isAccepted⟩ := kept.acceptances other earlier
          exact ⟨another, List.mem_append_left _ isAccepted⟩
        · exact ⟨caller, List.mem_append_right _ (List.mem_singleton_self _)⟩
      live := fun tenant isTenant isLive =>
        (kept.live tenant isTenant isLive).later (List.prefix_append _ _) }

theorem owned_apply {tenants : Tenants} {statement : Update Tenant.id} {tenantId : String}
    (keepsOwner : ∀ row, (statement.set row).accountId = row.accountId)
    (owned : Owned tenants tenantId accountId)
    : Owned (statement.apply tenants) tenantId accountId := by
  obtain ⟨row, isRow, rfl, rfl⟩ := owned
  refine ⟨_, Sweep.mem_apply.mpr ⟨row, isRow, rfl⟩, ?_, ?_⟩
  · exact statement.toSweep.onRow_keeps Tenant.id (fun old _ => statement.keeps old) row
  · exact statement.toSweep.onRow_keeps Tenant.accountId (fun old _ => keepsOwner old) row

/-- The account that a tenant belongs to goes live with it behind the gates. -/
theorem moves_goLive {tenantId : String} (dbNow : Nat)
    (gated : Gated platform db.history caller accountId)
    (owned : Owned db.tenants tenantId accountId)
    : Moves platform db
        ({ db with tenants := (setTenantStatus dbNow tenantId .live).apply db.tenants }.log
          (.wentLive caller tenantId)) where
  grows := List.prefix_append _ _
  owners _ _ other := owned_apply (fun _ => rfl) other
  kept kept :=
    { signed := kept.signed.log rfl
      allowed := allowed_append kept.allowed trivial
      acceptances := fun row isRow => by
        obtain ⟨other, isAccepted⟩ := kept.acceptances row isRow
        exact ⟨other, List.mem_append_left _ isAccepted⟩
      live := fun tenant isTenant isLive => by
        rcases Update.mem_apply_cases isTenant with ⟨old, isOld, found, _, rfl⟩ | earlier
        · -- the row of the tenant, which belongs to the account
          obtain ⟨row, isRow, isId, isAccount⟩ := owned
          have same : old = row := Keyed.eq_of_key isOld isRow ((Keyed.get?_key found).trans isId.symm)
          have isPrefix : db.history ++ [AccountEvent.wentLive caller tenantId]
              <+: db.history ++ [.wentLive caller tenantId] := List.prefix_rfl
          refine ⟨db.history, caller, ?_, ?_⟩
          · exact (Keyed.get?_key found : old.id = tenantId) ▸ isPrefix
          · have isOwner : old.accountId = accountId := same ▸ isAccount
            exact isOwner.symm ▸ gated
        · exact (kept.live tenant earlier isLive).later (List.prefix_append _ _) }

-----------------------------------------------------------------------------------------
-- Programs
-----------------------------------------------------------------------------------------

/-- Whatever the others do between its calls, each call of the program moves the database so. -/
abbrev Stays (platform : AccountPlatform) (caller : AccountCaller) {ρ : Type}
    (program : AccountProgram τ ρ) (db : AccountDb τ)
    : Prop :=
  program.Keeps (AccountDb.serve caller) Dialogue.Anything (Moves platform) (Moves platform) db

/-- A call, and what follows it. -/
theorem stays_call {ρ : Type} {question : AccountCall τ}
    {onward : question.Answer → AccountProgram τ ρ}
    (moves
      : ∀ middle input, Moves platform db middle →
          Moves platform middle (AccountDb.serve caller middle question input).1
          ∧ Stays platform caller (onward (AccountDb.serve caller middle question input).2)
              (AccountDb.serve caller middle question input).1)
    : Stays platform caller (call question >>= onward) db :=
  fun middle input moved _ => moves middle input moved

/-- A call that leaves the database alone, and what follows it. -/
theorem stays_quietly {ρ : Type} {question : AccountCall τ}
    {onward : question.Answer → AccountProgram τ ρ}
    (leaves : ∀ middle input, (AccountDb.serve caller middle question input).1 = middle)
    (follows
      : ∀ middle input, Moves platform db middle →
          Stays platform caller (onward (AccountDb.serve caller middle question input).2) middle)
    : Stays platform caller (call question >>= onward) db := by
  refine stays_call fun middle input moved => ?_
  rw [leaves]
  exact ⟨Moves.refl middle, follows middle input moved⟩

/-- Tasks for an account behind the gates, by induction on the handler. -/
theorem through_stays (tenantId : Option String)
    (program : Dialogue (TaskCall τ) TaskCall.Answer AccountResponse)
    (gated : Gated platform db.history caller accountId)
    : Stays platform caller (program.through (TaskCall.under accountId tenantId)) db := by
  induction program generalizing db with
  | returns response => trivial
  | asks question onward ih =>
      cases question with
      | task given =>
          intro middle input moved _
          have stillGated := gated.later moved.grows
          exact ⟨moves_log rfl stillGated,
            ih _ (stillGated.later (List.prefix_append _ _))⟩

/-- The tenant that a go-live is about. -/
def GoLiveAt.Of (tenantId : String) : GoLiveAt → Prop
  | .verifying tenant _ _ | .installing tenant _ | .promoting tenant _ _ => tenant.id = tenantId
  | _ => True

theorem afterInstall_of (tenant : Tenant) (inScope : List String) (outcome : InstallOutcome)
    : GoLiveAt.Of tenant.id (afterInstall tenant inScope outcome) := by
  cases outcome with
  | threw => trivial
  | modulesNotReady step message => trivial
  | probed readiness =>
      unfold afterInstall
      dsimp only
      split
      next => rfl
      next => trivial

theorem afterVerify_of (tenant : Tenant) (verdict : Except InvokeKeyRejection (List String))
    : GoLiveAt.Of tenant.id (afterVerify tenant verdict) := by
  cases verdict with
  | error rejection => trivial
  | ok inScope => rfl

theorem performInvokeKeyInstall_of (plane : GoLivePlane) (tenant : Tenant) (key : String)
    : GoLiveAt.Of tenant.id (performInvokeKeyInstall plane tenant key) := by
  unfold performInvokeKeyInstall
  dsimp only
  split
  next => trivial
  next =>
    split
    next => trivial
    next =>
      split
      next => trivial
      next => rfl

theorem installInvokeKey_of (plane : GoLivePlane) (namesKey : Bool) (tenant : Tenant)
    : GoLiveAt.Of tenant.id (installInvokeKey plane accountId namesKey (some tenant)) := by
  unfold installInvokeKey
  dsimp only
  split
  next => trivial
  next =>
    split
    next => trivial
    next =>
      split
      next =>
        split
        next => trivial
        next =>
          split
          next => trivial
          next => exact performInvokeKeyInstall_of plane tenant _
      next => trivial

theorem promoted_stays {tenantId : String} {place : GoLiveAt} (isOf : GoLiveAt.Of tenantId place)
    (gated : Gated platform db.history caller accountId)
    (owned : Owned db.tenants tenantId accountId)
    : Stays platform caller (promoted place : AccountProgram τ _) db := by
  cases place with
  | promoting tenant inScope readiness =>
      have same : tenant.id = tenantId := isOf
      refine stays_call fun middle input moved => ?_
      exact ⟨moves_goLive input.dbNow (gated.later moved.grows)
        (same ▸ moved.owners tenantId accountId owned), trivial⟩
  | idle => trivial
  | verifying tenant key endpoints => trivial
  | installing tenant inScope => trivial
  | answered answer => trivial

theorem installed_stays {tenantId key : String} {place : GoLiveAt}
    (isOf : GoLiveAt.Of tenantId place) (gated : Gated platform db.history caller accountId)
    (owned : Owned db.tenants tenantId accountId)
    : Stays platform caller (installed key place : AccountProgram τ _) db := by
  cases place with
  | installing tenant inScope =>
      refine stays_quietly (fun _ _ => rfl) fun middle input moved => ?_
      have same : tenant.id = tenantId := isOf
      exact promoted_stays (same ▸ afterInstall_of tenant inScope _) (gated.later moved.grows)
        (moved.owners tenantId accountId owned)
  | idle => trivial
  | verifying tenant key endpoints => trivial
  | promoting tenant inScope readiness => exact promoted_stays isOf gated owned
  | answered answer => trivial

theorem goesLive_stays {tenantId : String} {place : GoLiveAt}
    (isOf : GoLiveAt.Of tenantId place) (gated : Gated platform db.history caller accountId)
    (owned : Owned db.tenants tenantId accountId)
    : Stays platform caller (goesLive place : AccountProgram τ _) db := by
  cases place with
  | verifying tenant key endpoints =>
      refine stays_quietly (fun _ _ => rfl) fun middle input moved => ?_
      have same : tenant.id = tenantId := isOf
      exact installed_stays (same ▸ afterVerify_of tenant _) (gated.later moved.grows)
        (moved.owners tenantId accountId owned)
  | idle => trivial
  | installing tenant inScope => trivial
  | promoting tenant inScope readiness => exact promoted_stays isOf gated owned
  | answered answer => trivial

theorem tenantHandler_stays {env : AccountEnv} {handlers : AccountHandlers τ} {account : Account}
    {tenant : Tenant} (action : TenantAction)
    (gated : Gated platform db.history caller account.id)
    (owned : Owned db.tenants tenant.id account.id)
    : Stays platform caller (tenantHandler env caller.request handlers account tenant action) db := by
  unfold tenantHandler
  split
  next => exact goesLive_stays (installInvokeKey_of env.goLive _ tenant) gated owned
  next => exact through_stays (some tenant.id) _ gated

theorem tenantRoutes_stays {env : AccountEnv} {handlers : AccountHandlers τ} {account : Account}
    (gated : Gated platform db.history caller account.id)
    : Stays platform caller (tenantRoutes env caller.request handlers account) db := by
  unfold tenantRoutes
  split
  next => exact through_stays none _ gated
  next =>
    split
    next => trivial
    next id behind _ =>
      split
      next => trivial
      next action _ =>
        refine stays_quietly (fun _ _ => rfl) fun middle input moved => ?_
        have answer : (AccountDb.serve caller middle (.getTenantById id) input).2
            = middle.tenants.get? id := rfl
        rw [answer]
        cases found : middle.tenants.get? id with
        | none => trivial
        | some tenant =>
            dsimp only
            split
            next => trivial
            next isOwner =>
              refine tenantHandler_stays action (gated.later moved.grows) ?_
              exact ⟨tenant, Keyed.get?_mem found, rfl, not_not.mp isOwner⟩

/-- An acceptance that a request of the account makes. -/
theorem acceptAup_stays {served : Option String} {env : AccountEnv} (isEnv : caller.env = env)
    (authenticated : Authenticated platform db.history caller accountId)
    (isRoute : (caller.request.method, caller.request.path) = ("POST", "/api/aup/accept"))
    (wasServed : ∀ text, served = some text → .served caller text ∈ db.history)
    : Stays platform caller (acceptAup platform env caller.request accountId served) db := by
  unfold acceptAup
  split
  next => trivial
  next isCurrent =>
    split
    next => trivial
    next text =>
      refine stays_call fun middle input moved => ⟨moves_accept ?_, trivial⟩
      have version : submittedVersion platform caller.request.body = env.aupVersion :=
        not_not.mp isCurrent
      exact ⟨authenticated.later moved.grows, isRoute, by rw [isEnv], version, text,
        moved.grows.subset (wasServed text rfl), rfl⟩

theorem me_stays {env : AccountEnv} {account : Account}
    : Stays platform caller (me platform env account : AccountProgram τ _) db :=
  stays_quietly (fun _ _ => rfl) fun _ _ _ =>
    stays_quietly (fun _ _ => rfl) fun _ _ _ =>
      stays_quietly (fun _ _ => rfl) fun _ _ _ => trivial

/-- No route of a tenant is exempt from the policy. -/
theorem exempt_is_no_route {env : AccountEnv} {handlers : AccountHandlers τ} {account : Account}
    (isExempt : isAupExempt caller.request.path = true)
    : tenantRoutes env caller.request handlers account = refuse "not_found" 404 := by
  have isOne : caller.request.path ∈ AUP_EXEMPT := of_decide_eq_true isExempt
  have unrouted : ∀ path ∈ AUP_EXEMPT,
      path ∉ ACCOUNT_ROUTES.map Prod.snd ∧ tenantPath path = none := by decide
  obtain ⟨noRoute, noTenant⟩ := unrouted _ isOne
  have noHandler
      : ¬ (ACCOUNT_ROUTES.any fun route =>
          route = (caller.request.method, caller.request.path)) = true := by
    intro isAny
    obtain ⟨route, member, same⟩ := List.any_eq_true.mp isAny
    refine noRoute ?_
    rw [show caller.request.path = route.2 by rw [of_decide_eq_true same]]
    exact List.mem_map_of_mem member
  rw [tenantRoutes, if_neg noHandler, noTenant]

/-- What the table has of an account and a version was accepted. -/
theorem AccountDb.Kept.consented (kept : db.Kept platform)
    (has : hasAcceptedAup db.acceptances accountId caller.env.aupVersion = true)
    : Consented db.history caller accountId := by
  obtain ⟨row, found⟩ := Option.isSome_iff_exists.mp has
  obtain ⟨other, isAccepted⟩ := kept.acceptances row (Keyed.get?_mem found)
  have isKey : row.key = (accountId, caller.env.aupVersion) := Keyed.get?_key found
  exact ⟨other, row, isAccepted, (Prod.mk.inj isKey).1, (Prod.mk.inj isKey).2⟩

/-- An account that was resolved goes through the policy to the rest. -/
theorem behindSession_stays {handlers : AccountHandlers τ} {account : Account}
    (kept : db.Kept platform) (authenticated : Authenticated platform db.history caller account.id)
    : Stays platform caller (behindSession platform caller.env caller.request handlers account) db
      := by
  unfold behindSession
  split
  next => exact me_stays
  next =>
    split
    next isRoute =>
      refine stays_call fun middle input moved => ?_
      have authenticatedThen := authenticated.later moved.grows
      cases isServed : input.served with
      | none =>
          simp only [AccountDb.serve, isServed]
          refine ⟨Moves.refl middle, acceptAup_stays rfl authenticatedThen isRoute fun text same => ?_⟩
          cases same
      | some text =>
          simp only [AccountDb.serve, isServed]
          refine ⟨moves_log rfl trivial, acceptAup_stays rfl
            (authenticatedThen.later (List.prefix_append _ _)) isRoute fun other same => ?_⟩
          cases same
          exact List.mem_append_right _ (List.mem_singleton_self _)
    next =>
      split
      next isExempt =>
        rw [exempt_is_no_route isExempt]
        trivial
      next =>
        refine stays_quietly (fun _ _ => rfl) fun middle input moved => ?_
        have answer : (AccountDb.serve caller middle
              (.hasAcceptedAup account.id caller.env.aupVersion) input).2
            = hasAcceptedAup middle.acceptances account.id caller.env.aupVersion := rfl
        rw [answer]
        split
        next has =>
          exact tenantRoutes_stays
            ⟨authenticated.later moved.grows, (moved.kept kept).consented has⟩
        next => trivial

/-- Resolving a cookie establishes the account that it stands for. -/
theorem resolveSession_leads (kept : db.Kept platform)
    : (resolveSession platform caller.request caller.now).Leads (AccountDb.serve caller)
        Dialogue.Anything (Moves platform) (Moves platform)
        (fun state found => state.Kept platform ∧ ∀ account, found = some account →
          Authenticated platform state.history caller account.id)
        db := by
  unfold resolveSession
  split
  next => exact ⟨kept, fun account same => by cases same⟩
  next token isCookie =>
    intro middle input moved _
    have keptThen := moved.kept kept
    have looks : Moves platform middle (middle.log (.lookedUp caller)) := moves_log rfl trivial
    refine ⟨looks, ?_⟩
    have answer : (AccountDb.serve caller middle
          (.getSession (sha256Hex platform.sha256 token) caller.now) input).2
        = getSession middle.sessions (sha256Hex platform.sha256 token) caller.now := rfl
    rw [answer]
    cases found : getSession middle.sessions (sha256Hex platform.sha256 token) caller.now with
    | none => exact ⟨looks.kept keptThen, fun account same => by cases same⟩
    | some session =>
        have signedIn : SignedIn platform middle.history token caller.now session.accountId :=
          keptThen.signed.getSession_iff.mp (by rw [found]; rfl)
        intro last further movedOn _
        have lookedUp : middle.history ++ [.lookedUp caller] <+: last.history := movedOn.grows
        have keptLast := movedOn.kept (looks.kept keptThen)
        cases isAccount : getAccountById last.accounts session.accountId with
        | none =>
            simp only [AccountDb.serve, isAccount]
            exact ⟨Moves.refl last, keptLast, fun account same => by cases same⟩
        | some account =>
            simp only [AccountDb.serve, isAccount]
            have finds : Moves platform last (last.log (.found caller account)) :=
              moves_log rfl trivial
            refine ⟨finds, finds.kept keptLast, fun other same => ?_⟩
            obtain ⟨same, stands⟩ := Option.filter_eq_some_iff.mp same
            cases same
            have isId : account.id = session.accountId :=
              Keyed.get?_key (Option.filter_eq_some_iff.mp isAccount).1
            refine ⟨⟨middle.history, token, ?_, isCookie, isId ▸ signedIn⟩, account, ?_, rfl,
              of_decide_eq_true stands⟩
            · exact lookedUp.trans (List.prefix_append _ _)
            · exact List.mem_append_right _ (List.mem_singleton_self _)

theorem endSession_stays
    : Stays platform caller (endSession platform caller.request caller.now : AccountProgram τ _) db
      := by
  unfold endSession
  split
  next => trivial
  next token _ =>
    exact stays_call fun middle input moved => ⟨moves_signOut _ _, trivial⟩

theorem accountRoutes_stays {handlers : AccountHandlers τ} (kept : db.Kept platform)
    : Stays platform caller
        (accountRoutes platform caller.env caller.request caller.now handlers) db := by
  unfold accountRoutes
  split
  next => exact endSession_stays
  next =>
    refine (resolveSession_leads kept).andThen fun state found established => ?_
    obtain ⟨keptThen, authenticated⟩ := established
    cases found with
    | none => trivial
    | some account => exact behindSession_stays keptThen (authenticated account rfl)

-----------------------------------------------------------------------------------------
-- Every run
-----------------------------------------------------------------------------------------

theorem moves_signIn {token : String} {now : Nat} {sessions : Sessions}
    (made : createSession db.sessions (sessionRow platform.sha256 accountId token now)
      = some sessions)
    : Moves platform db ({ db with sessions }.log (.signedIn accountId token now)) where
  grows := List.prefix_append _ _
  owners _ _ owned := owned
  kept kept :=
    { signed := kept.signed.signIn made
      allowed := allowed_append kept.allowed trivial
      acceptances := fun row isRow => by
        obtain ⟨other, isAccepted⟩ := kept.acceptances row isRow
        exact ⟨other, List.mem_append_left _ isAccepted⟩
      live := fun tenant isTenant isLive =>
        (kept.live tenant isTenant isLive).later (List.prefix_append _ _) }

theorem moves_createTenant {row : Tenant} (free : ∀ old ∈ db.tenants.rows, old.id ≠ row.id)
    (notLive : row.status ≠ .live)
    : Moves platform db { db with tenants := db.tenants.insert row free } where
  grows := List.prefix_rfl
  owners tenantId accountId owned := by
    obtain ⟨old, isOld, isOwner⟩ := owned
    exact ⟨old, List.mem_append_left _ isOld, isOwner⟩
  kept kept :=
    { signed := kept.signed
      allowed := kept.allowed
      acceptances := kept.acceptances
      live := fun tenant isTenant isLive => by
        rcases List.mem_append.mp isTenant with earlier | new
        · exact kept.live tenant earlier isLive
        · exact absurd (List.mem_singleton.mp new ▸ isLive) notLive }

theorem moves_writeTenant (update : OtherUpdate)
    : Moves platform db { db with tenants := update.statement.apply db.tenants } where
  grows := List.prefix_rfl
  owners tenantId accountId owned := owned_apply update.owner owned
  kept kept :=
    { signed := kept.signed
      allowed := kept.allowed
      acceptances := kept.acceptances
      live := fun tenant isTenant isLive => by
        rcases Update.mem_apply_cases isTenant with ⟨old, isOld, _, _, rfl⟩ | earlier
        · have wasLive := kept.live old isOld (update.notLive old isLive)
          rw [update.statement.keeps old, update.owner old]
          exact wasLive
        · exact kept.live tenant earlier isLive }

/-- What every step keeps. -/
structure AccountPlane.Kept (platform : AccountPlatform) (plane : AccountPlane τ) : Prop where
  db : plane.db.Kept platform
  underway : ∀ one ∈ plane.underway, Stays platform one.caller one.program plane.db

/-- The database moves, and one request goes on as it may. -/
theorem AccountPlane.Kept.set {plane : AccountPlane τ} (kept : plane.Kept platform) {place : Nat}
    {one : AccountUnderway τ} (moves : Moves platform plane.db next)
    (stays : Stays platform one.caller one.program next)
    : AccountPlane.Kept platform { db := next, underway := plane.underway.set place one } where
  db := moves.kept kept.db
  underway other member := by
    rcases List.mem_or_eq_of_mem_set member with earlier | rfl
    · exact (kept.underway other earlier).later (fun first second => first.trans second) moves
    · exact stays

theorem AccountPlane.Kept.moved {plane : AccountPlane τ} (kept : plane.Kept platform)
    (moves : Moves platform plane.db next)
    : AccountPlane.Kept platform { plane with db := next } where
  db := moves.kept kept.db
  underway one member :=
    (kept.underway one member).later (fun first second => first.trans second) moves

theorem AccountPlane.Kept.step {handlers : AccountHandlers τ} {plane after : AccountPlane τ}
    {action : AccountAction} (kept : plane.Kept platform)
    (taken : plane.step platform handlers action = some after)
    : after.Kept platform := by
  cases action with
  | arrive request env now =>
      cases taken
      refine ⟨kept.db, fun one member => ?_⟩
      rcases List.mem_append.mp member with earlier | new
      · exact kept.underway one earlier
      · cases List.mem_singleton.mp new
        exact accountRoutes_stays kept.db
  | call place input =>
      obtain ⟨one, isUnderway, went⟩ := Option.bind_eq_some_iff.mp taken
      obtain ⟨served, isServed, rfl⟩ := Option.map_eq_some_iff.mp went
      obtain ⟨moves, stays⟩ := (kept.underway one (List.mem_of_getElem? isUnderway)).next Moves.refl
        (Dialogue.may_anything _ _) isServed
      exact kept.set moves stays
  | fail place =>
      obtain ⟨one, isUnderway, rfl⟩ := Option.map_eq_some_iff.mp taken
      exact kept.set (Moves.refl _) trivial
  | signIn accountId token now =>
      obtain ⟨sessions, made, rfl⟩ := Option.map_eq_some_iff.mp taken
      exact kept.moved (moves_signIn made)
  | writeAccounts accounts =>
      cases taken
      exact kept.moved
        ⟨List.prefix_rfl, fun _ _ owned => owned, fun before =>
          ⟨before.signed, before.allowed, before.acceptances, before.live⟩⟩
  | createTenant row =>
      simp only [AccountPlane.step] at taken
      split at taken
      next free =>
        cases taken
        exact kept.moved (moves_createTenant free.1 free.2)
      next => cases taken
  | writeTenant update =>
      cases taken
      exact kept.moved (moves_writeTenant update)

theorem AccountPlane.kept_empty : (AccountPlane.empty : AccountPlane τ).Kept platform := by
  refine ⟨⟨⟨?_, ?_⟩, ?_, ?_, ?_⟩, ?_⟩
  all_goals simp [AccountPlane.empty, Keyed.empty, Since]

theorem AccountPlane.kept_of_run {handlers : AccountHandlers τ} {actions : List AccountAction}
    {plane : AccountPlane τ} (reached : exec (step platform handlers) empty actions = some plane)
    : plane.Kept platform :=
  exec_preserves (fun _ _ _ kept taken => kept.step taken) kept_empty reached

/-- In every state that requests can reach, a session token finds an account exactly if it was given
out to it at a sign-in that is less than thirty days back, and nobody signed out with it since.
-/
theorem session_stands_for_sign_in (platform : AccountPlatform) (handlers : AccountHandlers τ)
    {actions : List AccountAction} {plane : AccountPlane τ}
    (reached : exec (AccountPlane.step platform handlers) .empty actions = some plane)
    (token accountId : String) (now : Nat)
    : (getSession plane.db.sessions (sha256Hex platform.sha256 token) now).map Session.accountId
        = some accountId
      ↔ SignedIn platform plane.db.history token now accountId :=
  (AccountPlane.kept_of_run reached).db.signed.getSession_iff

/-- However requests are interleaved and wherever they fail: whatever is done behind the gates is done
for an account whose cookie stood for it, which was neither suspended nor deleted, and which had by
then accepted the version that its request ran under; an acceptance is the account's own and pins the
text that was served; and every tenant that is live went live by such a request of its own account.
-/
theorem gates_hold (platform : AccountPlatform) (handlers : AccountHandlers τ)
    {actions : List AccountAction} {plane : AccountPlane τ}
    (reached : exec (AccountPlane.step platform handlers) .empty actions = some plane)
    : (∀ before event, before ++ [event] <+: plane.db.history → Allowed platform before event)
      ∧ ∀ tenant ∈ plane.db.tenants.rows, tenant.status = .live →
          WentLive platform plane.db.history tenant.id tenant.accountId :=
  ⟨(AccountPlane.kept_of_run reached).db.allowed, (AccountPlane.kept_of_run reached).db.live⟩

-----------------------------------------------------------------------------------------
-- An account that goes live
-----------------------------------------------------------------------------------------

/-- A platform whose digest of a text is the sum of its characters. -/
def summing : AccountPlatform where
  sha256 text := Vector.replicate 32 (UInt8.ofNat ((text.toList.map Char.toNat).foldl (· + ·) 0))
  asText _ := ""
  timeText _ := ""
  tenantView _ := .null

def idle : AccountHandlers Unit where
  account _ _ := .returns (.json ⟨200, none⟩)
  tenant _ _ _ := .returns (.json ⟨200, none⟩)

/-- An account signs in, accepts the policy, and takes its studio live. -/
def joanGoesLive : List AccountAction :=
  let env : AccountEnv :=
    { aupVersion := "v1"
      aupUrl := ""
      goLive := { provisioner := true, sharedPoolInvokeKey := some "key" } }
  let input : AccountInput :=
    { dbNow := 0
      dbText := ""
      served := some "be kind"
      verdict := .ok ["e"]
      outcome := .probed ⟨[], [], [], 1, 0⟩
      given := .null }
  let headers : Routing.Headers := { entries := [("cookie", "__Secure-vp_session=token")] }
  let accept : AccountRequest :=
    { method := "POST"
      path := "/api/aup/accept"
      headers
      body := some (.object [("version", .str "v1")]) }
  let goLive : AccountRequest :=
    { method := "POST"
      path := "/api/tenant/ten_1/go-live"
      headers
      body := none }
  let accounts : Accounts :=
    { table := .singleton { id := "acct_1", email := "joan" }
      emails := List.nodup_singleton _ }
  let tenant : Tenant :=
    { id := "ten_1"
      slug := "joan"
      accountId := "acct_1"
      status := .awaitingInvokeKey
      scriptName := some "studio"
      endpointsJson := some "[\"e\"]"
      runpodMode := "shared" }
  [.writeAccounts accounts, .createTenant tenant, .signIn "acct_1" "token" 0, .arrive accept env 1]
  ++ List.replicate 4 (.call 0 input) ++ [.arrive goLive env 2] ++ List.replicate 7 (.call 1 input)

theorem joan_is_signed_in
    : ∃ plane, exec (AccountPlane.step summing idle) .empty joanGoesLive = some plane
        ∧ SignedIn summing plane.db.history "token" 5 "acct_1" := by
  have finds
      : ((exec (AccountPlane.step summing idle) .empty joanGoesLive).map fun plane =>
          (getSession plane.db.sessions (sha256Hex summing.sha256 "token") 5).map Session.accountId)
        = some (some "acct_1") := by decide +kernel
  obtain ⟨plane, reached, isJoan⟩ := Option.map_eq_some_iff.mp finds
  exact ⟨plane, reached, (session_stands_for_sign_in summing idle reached _ _ _).mp isJoan⟩

/-- Her studio is live, and it was she who took it there. -/
theorem joan_consented
    : ∃ plane, exec (AccountPlane.step summing idle) .empty joanGoesLive = some plane
        ∧ WentLive summing plane.db.history "ten_1" "acct_1" := by
  have lives
      : ((exec (AccountPlane.step summing idle) .empty joanGoesLive).map fun plane =>
          (plane.db.tenants.get? "ten_1").map fun tenant =>
            (tenant.id, tenant.accountId, tenant.status))
        = some (some ("ten_1", "acct_1", .live)) := by decide +kernel
  obtain ⟨plane, reached, isFound⟩ := Option.map_eq_some_iff.mp lives
  obtain ⟨tenant, found, same⟩ := Option.map_eq_some_iff.mp isFound
  obtain ⟨isId, isAccount, isLive⟩ : tenant.id = "ten_1" ∧ tenant.accountId = "acct_1"
      ∧ tenant.status = .live := by simpa using same
  have wentLive := (gates_hold summing idle reached).2 tenant (Keyed.get?_mem found) isLive
  rw [isId, isAccount] at wentLive
  exact ⟨plane, reached, wentLive⟩

end ControlPlane.FrontDoor
