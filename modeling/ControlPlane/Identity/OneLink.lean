import ControlPlane.Identity.Calls

/-! What any number of sign-ins keep: who an identity is linked to, who made an account, and that
nobody comes back to an account that was barred when they began.
-/

namespace ControlPlane.Identity

open ControlPlane.Library
open ControlPlane.Store

--------------------------------------------------------------------------------
-- What only grows
--------------------------------------------------------------------------------

/-- The accounts of one table are in another, and those that were barred still are. -/
def Ages (before after : Accounts) : Prop :=
  ∀ old ∈ before.table.rows, ∃ current, after.table.get? old.id = some current
    ∧ (barred old → barred current)

theorem Ages.refl (accounts : Accounts) : Ages accounts accounts :=
  fun old member => ⟨old, Keyed.get?_of_mem member, id⟩

theorem Ages.trans {first second third : Accounts} (early : Ages first second)
    (late : Ages second third)
    : Ages first third := by
  intro old member
  obtain ⟨middle, found, stays⟩ := early old member
  obtain ⟨current, foundLater, staysLater⟩ := late middle (Keyed.get?_mem found)
  rw [Keyed.get?_key found] at foundLater
  exact ⟨current, foundLater, staysLater ∘ stays⟩

/-- A statement that frees nobody ages the accounts. -/
theorem ages_update {accounts : Accounts} {statement : Update Account.id}
    {keeps : ∀ account, (statement.set account).email = account.email}
    (bars : ∀ account, barred account → barred (statement.set account))
    : Ages accounts (accounts.update statement keeps) := by
  intro old member
  refine ⟨statement.onRow old, ?_, ?_⟩
  · rw [Accounts.update, Update.get?_apply, Keyed.get?_of_mem member, Option.map_some]
  · intro isBarred
    rcases statement.onRow_cases old with same | ⟨_, set⟩
    · rw [same]
      exact isBarred
    · rw [set]
      exact bars old isBarred

/-- A new account ages the others by nothing. -/
theorem ages_createAccount {accounts grown : Accounts} {id email : String} {account : Account}
    (created : createAccount accounts id email = some (grown, account))
    : Ages accounts grown := by
  obtain ⟨free, inserted⟩ := createAccount_eq_some created
  intro old member
  refine ⟨old, ?_, fun isBarred => isBarred⟩
  rw [inserted]
  exact Keyed.get?_insert_of_found free (Keyed.get?_of_mem member)

/-- The links of one table are in another. -/
def KeepsLinks (before after : Identities) : Prop :=
  ∀ provider subject accountId, getAccountIdByIdentity before provider subject = some accountId →
    getAccountIdByIdentity after provider subject = some accountId

/-- A login is noted without changing any link. -/
theorem keepsLinks_touch (identities : Identities) (now : Nat) (provider : AuthProvider)
    (subject : String)
    : KeepsLinks identities ((touchIdentityLogin now provider subject).apply identities) := by
  intro other otherSubject accountId linked
  obtain ⟨row, found, isAccount⟩ := Option.map_eq_some_iff.mp linked
  rw [getAccountIdByIdentity, Update.get?_apply, found, Option.map_some, Option.map_some]
  rcases (touchIdentityLogin now provider subject).onRow_cases row with same | ⟨_, set⟩
  · rw [same, isAccount]
  · rw [set]
    exact congrArg some isAccount

/-- A link that is inserted or ignored leaves the links there were. -/
theorem keepsLinks_link (identities : Identities) (provider : AuthProvider)
    (subject accountId : String)
    : KeepsLinks identities (linkIdentity identities provider subject accountId) := by
  intro other otherSubject otherAccount linked
  obtain ⟨row, found, isAccount⟩ := Option.map_eq_some_iff.mp linked
  unfold linkIdentity Keyed.insertOrIgnore
  split
  next free =>
    have apart : (other, otherSubject) ≠ (provider, subject) := by
      rw [← Keyed.get?_key found]
      exact free row (Keyed.get?_mem found)
    rw [getAccountIdByIdentity, Keyed.get?_insert, AccountIdentity.key, if_neg apart]
    exact linked
  next => exact linked

/-- An identity that is free, or linked to the account already, is linked to it afterwards. -/
theorem linked_linkIdentity {identities : Identities} {provider : AuthProvider}
    {subject accountId : String}
    (free : ∀ other, getAccountIdByIdentity identities provider subject = some other →
      other = accountId)
    : getAccountIdByIdentity (linkIdentity identities provider subject accountId) provider subject
      = some accountId := by
  cases linked : getAccountIdByIdentity identities provider subject with
  | some other =>
      rw [← free other linked]
      exact keepsLinks_link identities provider subject other provider subject other linked
  | none =>
      let link : AccountIdentity :=
        { provider := provider, subject := subject, accountId := accountId }
      have untaken : ∀ old ∈ identities.rows, old.key ≠ link.key := by
        intro old member same
        have found := Keyed.get?_of_mem member
        rw [same] at found
        have isKey : (provider, subject) = link.key := rfl
        rw [getAccountIdByIdentity, isKey, found] at linked
        exact nomatch linked
      have inserted : linkIdentity identities provider subject accountId
          = identities.insert link untaken := dif_pos untaken
      have isKey : (provider, subject) = link.key := rfl
      rw [getAccountIdByIdentity, inserted, Keyed.get?_insert, if_pos isKey]
      rfl

--------------------------------------------------------------------------------
-- What is true of one sign-in
--------------------------------------------------------------------------------

/-- The account a sign-in has in hand. -/
def Place.account? : Place → Option Account
  | .touchingLinked account | .linking account _ | .touching account _
  | .returned (.ok account _) => some account
  | .consumingToken _ _ | .findingIdentity | .findingLinked _ | .findingEmail | .creating
  | .returned (.refused _) | .threw => none

/-- The account that a sign-in's identity is linked to, as far as it has come to know or to make
it so.
-/
def Place.linkedTo? : Place → Option String
  | .findingLinked linkedId => some linkedId
  | .touchingLinked account | .touching account _ | .returned (.ok account _) => some account.id
  | .consumingToken _ _ | .findingIdentity | .findingEmail | .creating | .linking _ _
  | .returned (.refused _) | .threw => none

/-- The account was not barred when the sign-in began. -/
def Standing (began : Accounts) (account : Account) : Prop :=
  ∀ old ∈ began.table.rows, old.id = account.id → ¬ barred old

/-- What is true of a sign-in where it stands. -/
structure Placed (accounts : Accounts) (identities : Identities) (call : SignIn) : Prop where
  later : Ages call.began accounts
  linked : ∀ accountId, call.place.linkedTo? = some accountId →
    getAccountIdByIdentity identities call.provider call.subject = some accountId
  standing : ∀ account, call.place.account? = some account → Standing call.began account
  allowed : call.place = .creating → call.allowCreate = true

theorem Placed.grow {accounts laterAccounts : Accounts} {identities laterIdentities : Identities}
    {call : SignIn} (placed : Placed accounts identities call)
    (ages : Ages accounts laterAccounts) (links : KeepsLinks identities laterIdentities)
    : Placed laterAccounts laterIdentities call where
  later := placed.later.trans ages
  linked accountId known := links _ _ _ (placed.linked accountId known)
  standing := placed.standing
  allowed := placed.allowed

/-- An account that is found in good standing was so when the sign-in began. -/
theorem standing_of_found {began accounts : Accounts} {account : Account}
    (later : Ages began accounts) (member : account ∈ accounts.table.rows)
    (good : barred account = false)
    : Standing began account := by
  intro old isOld same wasBarred
  obtain ⟨current, found, stays⟩ := later old isOld
  rw [same, Keyed.get?_of_mem member] at found
  cases found
  rw [stays wasBarred] at good
  cases good

/-- An account that is new was not there when the sign-in began. -/
theorem standing_of_created {began accounts grown : Accounts} {id email : String}
    {account : Account} (later : Ages began accounts)
    (created : createAccount accounts id email = some (grown, account))
    : Standing began account := by
  obtain ⟨free, _⟩ := createAccount_eq_some created
  intro old isOld same _
  obtain ⟨current, found, _⟩ := later old isOld
  exact free current (Keyed.get?_mem found) ((Keyed.get?_key found).trans same)

--------------------------------------------------------------------------------
-- What is true of all of them
--------------------------------------------------------------------------------

/-- Each account row was there at the start, or a sign-in that was allowed to inserted it. -/
structure Origins (start : Accounts) (state : SignIns) : Prop where
  rows : ∀ account ∈ state.accounts.table.rows,
    (∃ old ∈ start.table.rows, old.id = account.id) ∨ (account.id, true) ∈ state.signups
  allowed : ∀ signup ∈ state.signups, signup.2 = true

/-- What every step keeps. -/
structure Kept (start : Accounts) (state : SignIns) : Prop where
  origins : Origins start state
  placed : ∀ id call, state.calls id = some call →
    Placed state.accounts state.identities call

/-- What the next state may differ in from a state where the sign-ins are placed. -/
structure Grows (before after : SignIns) : Prop where
  ages : Ages before.accounts after.accounts
  links : KeepsLinks before.identities after.identities

/-- A step that grows the store, inserts no account and leaves the sign-ins but one that it places
keeps everything.
-/
theorem Kept.setCall {start : Accounts} {state : SignIns} (kept : Kept start state)
    (middle : SignIns) (grows : Grows state middle) (sameCalls : middle.calls = state.calls)
    (origins : Origins start middle) {id : String} {call : SignIn}
    (placed : Placed middle.accounts middle.identities call)
    : Kept start (middle.setCall id call) where
  origins := ⟨origins.rows, origins.allowed⟩
  placed other held isHeld := by
    have cases : some call = some held ∨ middle.calls other = some held :=
      held_update_cases isHeld
    rcases cases with new | before
    · cases new
      exact placed
    · rw [sameCalls] at before
      exact (kept.placed other held before).grow grows.ages grows.links

/-- A step that grows the store and leaves the sign-ins keeps everything. -/
theorem Kept.store {start : Accounts} {state next : SignIns} (kept : Kept start state)
    (grows : Grows state next) (sameCalls : next.calls = state.calls)
    (origins : Origins start next)
    : Kept start next where
  origins := origins
  placed other held isHeld := by
    rw [sameCalls] at isHeld
    exact (kept.placed other held isHeld).grow grows.ages grows.links

theorem Grows.refl (state : SignIns) : Grows state state where
  ages := Ages.refl _
  links _ _ _ linked := linked

/-- The identity that a sign-in comes to link is free, or linked to the account already. -/
def LinkFree (state : SignIns) : SignInAction → Prop
  | .call id _ _ =>
      match state.calls id with
      | some { provider, subject, place := .linking account _, .. } =>
          ∀ other ∈ getAccountIdByIdentity state.identities provider subject, other = account.id
      | _ => True
  | _ => True

instance (state : SignIns) (action : SignInAction) : Decidable (LinkFree state action) := by
  unfold LinkFree
  split
  · split <;> infer_instance
  · infer_instance

theorem linkFree_iff {state : SignIns} {id newId : String} {dbNow : Nat} {call : SignIn}
    {account : Account} {created : Bool} (held : state.calls id = some call)
    (place : call.place = .linking account created)
    : LinkFree state (.call id dbNow newId)
      ↔ ∀ other, getAccountIdByIdentity state.identities call.provider call.subject = some other →
          other = account.id := by
  obtain ⟨provider, subject, verifiedEmail, allowCreate, _, began⟩ := call
  cases place
  simp only [LinkFree, held, Option.mem_def]

/-- An update of the accounts changes no id. -/
theorem Origins.update {start : Accounts} {state : SignIns} (origins : Origins start state)
    {statement : Update Account.id}
    {keeps : ∀ account, (statement.set account).email = account.email}
    : Origins start { state with accounts := state.accounts.update statement keeps } where
  rows account member := by
    obtain ⟨old, isOld, became⟩ := Sweep.mem_apply.mp member
    have sameId : account.id = old.id := by
      rw [← became]
      exact statement.toSweep.onRow_keeps Account.id (fun row _ => statement.keeps row) old
    rw [sameId]
    exact origins.rows old isOld
  allowed := origins.allowed

/-- One store call of a sign-in keeps everything, if it links a free identity. One case for each
place that it stands at.
-/
theorem Kept.call {toLowerCase : String → String} {start : Accounts} {state : SignIns}
    (kept : Kept start state) {id newId : String} {dbNow : Nat} {call : SignIn}
    (held : state.calls id = some call) (free : LinkFree state (.call id dbNow newId))
    : Kept start (state.call toLowerCase id dbNow newId call) := by
  have placed := kept.placed id call held
  have refl := Grows.refl state
  -- A place without an account and without a link is fine wherever the sign-in was.
  have bare : ∀ {place : Place}, place.account? = none → place.linkedTo? = none →
      place ≠ .creating → Placed state.accounts state.identities (call.at place) := by
    intro place noAccount noLink notCreating
    exact
      { later := placed.later
        linked := fun accountId known => by
          rw [SignIn.at, noLink] at known
          cases known
        standing := fun account known => by
          rw [SignIn.at, noAccount] at known
          cases known
        allowed := fun isCreating => absurd isCreating notCreating }
  unfold SignIns.call
  cases place : call.place with
  | consumingToken tokenHash now =>
      let used : SignIns := { state with logins := (state.logins.accept tokenHash now).2 }
      have origins : Origins start used := ⟨kept.origins.rows, kept.origins.allowed⟩
      have grows : Grows state used := ⟨refl.ages, refl.links⟩
      dsimp only
      split
      next => exact kept.setCall used grows rfl origins (bare rfl rfl fun same => by cases same)
      next =>
        exact kept.setCall used grows rfl origins
          ⟨placed.later, (fun _ known => by cases known), (fun _ known => by cases known),
            fun same => by cases same⟩
  | findingIdentity =>
      dsimp only
      split
      next linkedId found =>
        have linked := (Option.filter_eq_some_iff.mp found).1
        refine kept.setCall state refl rfl kept.origins
          ⟨placed.later, ?_, (fun _ known => by cases known), fun same => by cases same⟩
        intro accountId known
        cases known
        exact linked
      next => exact kept.setCall state refl rfl kept.origins (bare rfl rfl fun same => by cases same)
  | findingLinked linkedId =>
      dsimp only
      split
      next => exact kept.setCall state refl rfl kept.origins (bare rfl rfl fun same => by cases same)
      next account found =>
        obtain ⟨byId, good⟩ := Option.filter_eq_some_iff.mp found
        obtain ⟨inTable, _⟩ := Option.filter_eq_some_iff.mp byId
        refine kept.setCall state refl rfl kept.origins
          ⟨placed.later, ?_, ?_, fun same => by cases same⟩
        · intro accountId known
          cases known
          rw [Keyed.get?_key inTable]
          exact placed.linked linkedId (by rw [place]; rfl)
        · intro held known
          cases known
          exact standing_of_found placed.later (Keyed.get?_mem inTable) (by simpa using good)
  | touchingLinked account =>
      have links := keepsLinks_touch state.identities dbNow call.provider call.subject
      refine kept.setCall
        { state with
          identities :=
            (touchIdentityLogin dbNow call.provider call.subject).apply state.identities }
        ⟨refl.ages, links⟩ rfl
        ⟨kept.origins.rows, kept.origins.allowed⟩
        ⟨placed.later, ?_, ?_, fun same => by cases same⟩
      · intro accountId known
        cases known
        exact links _ _ _ (placed.linked account.id (by rw [place]; rfl))
      · intro held known
        cases known
        exact placed.standing account (by rw [place]; rfl)
  | findingEmail =>
      dsimp only
      split
      next existing found =>
        split
        next => exact kept.setCall state refl rfl kept.origins (bare rfl rfl fun same => by cases same)
        next good =>
          refine kept.setCall state refl rfl kept.origins
            ⟨placed.later, (fun _ known => by cases known), ?_, fun same => by cases same⟩
          intro held known
          cases known
          exact standing_of_found placed.later (List.mem_of_find?_eq_some found)
            (Bool.eq_false_iff.mpr good)
      next =>
        split
        next allowed =>
          exact kept.setCall state refl rfl kept.origins
            ⟨placed.later, (fun _ known => by cases known), (fun _ known => by cases known),
              fun _ => allowed⟩
        next => exact kept.setCall state refl rfl kept.origins (bare rfl rfl fun same => by cases same)
  | creating =>
      dsimp only
      split
      next => exact kept.setCall state refl rfl kept.origins (bare rfl rfl fun same => by cases same)
      next accounts account created =>
        have ages := ages_createAccount created
        obtain ⟨untaken, inserted⟩ := createAccount_eq_some created
        have allowed : call.allowCreate = true := placed.allowed place
        have origins : Origins start
            { state with
              accounts := accounts
              signups := (account.id, call.allowCreate) :: state.signups } := by
          refine ⟨fun row member => ?_, fun signup member => ?_⟩
          · simp only [inserted, Keyed.insert] at member
            rcases List.mem_append.mp member with before | new
            · rcases kept.origins.rows row before with atStart | signedUp
              · exact .inl atStart
              · exact .inr (List.mem_cons_of_mem _ signedUp)
            · rw [List.mem_singleton.mp new, allowed]
              exact .inr (List.mem_cons_self ..)
          · rcases List.mem_cons.mp member with new | before
            · rw [new]
              exact allowed
            · exact kept.origins.allowed signup before
        refine kept.setCall
          { state with
            accounts := accounts
            signups := (account.id, call.allowCreate) :: state.signups }
          ⟨ages, refl.links⟩ rfl origins
          ⟨placed.later.trans ages, (fun _ known => by cases known), ?_, fun same => by cases same⟩
        intro held known
        cases known
        exact standing_of_created placed.later created
  | linking account created =>
      have links := keepsLinks_link state.identities call.provider call.subject account.id
      refine kept.setCall
        { state with
          identities :=
            linkIdentity state.identities call.provider call.subject account.id }
        ⟨refl.ages, links⟩ rfl
        ⟨kept.origins.rows, kept.origins.allowed⟩
        ⟨placed.later, ?_, ?_, fun same => by cases same⟩
      · intro accountId known
        cases known
        exact linked_linkIdentity ((linkFree_iff held place).mp free)
      · intro inHand known
        cases known
        exact placed.standing account (by rw [place]; rfl)
  | touching account created =>
      have links := keepsLinks_touch state.identities dbNow call.provider call.subject
      refine kept.setCall
        { state with
          identities :=
            (touchIdentityLogin dbNow call.provider call.subject).apply state.identities }
        ⟨refl.ages, links⟩ rfl
        ⟨kept.origins.rows, kept.origins.allowed⟩
        ⟨placed.later, ?_, ?_, fun same => by cases same⟩
      · intro accountId known
        cases known
        exact links _ _ _ (placed.linked account.id (by rw [place]; rfl))
      · intro inHand known
        cases known
        exact placed.standing account (by rw [place]; rfl)
  | returned result => exact kept
  | threw => exact kept

end ControlPlane.Identity
