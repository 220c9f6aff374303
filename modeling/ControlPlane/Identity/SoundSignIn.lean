import Mathlib.Data.List.Nodup
import ControlPlane.Identity.OneLink

/-! Signing in is sound as long as no two sign-ins of one identity come to link it to different
accounts. The second link is ignored, and the second sign-in goes on to its own account.
-/

namespace ControlPlane.Identity

open ControlPlane.Library
open ControlPlane.Store

/-- Each key was used once, and before its row's expiry. -/
def UsedOnce {ρ : Type} {key : ρ → String} {use : OneUse key} (used : UsedTable use) : Prop :=
  (used.accepted.map Prod.fst).Nodup
  ∧ ∀ entry ∈ used.accepted, ∃ row, used.table.get? entry.1 = some row
      ∧ entry.2 < use.expiresAt row

/-- What signing in promises of every state, from the accounts there were at the start. -/
structure Sound (start : Accounts) (state : SignIns) : Prop where
  linked : ∀ id call account created, state.calls id = some call →
    call.place = .returned (.ok account created) →
    getAccountIdByIdentity state.identities call.provider call.subject = some account.id
  emails : ∀ account ∈ state.accounts.table.rows, ∀ other ∈ state.accounts.table.rows,
    account.email = other.email → account = other
  identities : ∀ identity ∈ state.identities.rows, ∀ other ∈ state.identities.rows,
    identity.provider = other.provider → identity.subject = other.subject → identity = other
  origins : Origins start state
  standing : ∀ id call account created, state.calls id = some call →
    call.place = .returned (.ok account created) →
    ∀ old ∈ call.began.table.rows, old.id = account.id →
      old.suspendedAt = none ∧ old.deletedAt = none
  logins : UsedOnce state.logins
  oauth : UsedOnce state.oauth
  handoffs : UsedOnce state.handoffs

theorem usedOnce {ρ : Type} {key : ρ → String} {use : OneUse key} (used : UsedTable use)
    : UsedOnce used :=
  ⟨used.once, fun _ member => used.timely member⟩

/-- What every step keeps is sound. -/
theorem Kept.sound {start : Accounts} {state : SignIns} (kept : Kept start state)
    : Sound start state where
  linked id call account created held isReturned :=
    (kept.placed id call held).linked account.id (by rw [isReturned]; rfl)
  emails account isAccount other isOther same :=
    List.inj_on_of_nodup_map state.accounts.emails isAccount isOther same
  identities identity isIdentity other isOther sameProvider sameSubject :=
    Keyed.eq_of_key isIdentity isOther (Prod.ext sameProvider sameSubject)
  origins := kept.origins
  standing id call account created held isReturned old isOld same := by
    have good : ¬ barred old :=
      (kept.placed id call held).standing account (by rw [isReturned]; rfl) old isOld same
    simpa [barred] using good
  logins := usedOnce state.logins
  oauth := usedOnce state.oauth
  handoffs := usedOnce state.handoffs

/-- A place without an account and without a link, at which a sign-in begins or fails. -/
theorem placed_bare {accounts : Accounts} {identities : Identities} {call : SignIn}
    (later : Ages call.began accounts) (noAccount : call.place.account? = none)
    (noLink : call.place.linkedTo? = none) (notCreating : call.place ≠ .creating)
    : Placed accounts identities call where
  later := later
  linked accountId known := by
    rw [noLink] at known
    cases known
  standing account known := by
    rw [noAccount] at known
    cases known
  allowed isCreating := absurd isCreating notCreating

/-- One step keeps everything, if a sign-in that links an identity finds it free. -/
theorem Kept.step {toLowerCase : String → String} {start : Accounts} {state next : SignIns}
    {action : SignInAction} (kept : Kept start state) (free : LinkFree state action)
    (taken : state.step toLowerCase action = some next)
    : Kept start next := by
  have refl := Grows.refl state
  cases action with
  | issueLogin row =>
      obtain ⟨logins, _, rfl⟩ := Option.map_eq_some_iff.mp taken
      exact kept.store ⟨refl.ages, refl.links⟩ rfl ⟨kept.origins.rows, kept.origins.allowed⟩
  | issueOAuth row =>
      obtain ⟨oauth, _, rfl⟩ := Option.map_eq_some_iff.mp taken
      exact kept.store ⟨refl.ages, refl.links⟩ rfl ⟨kept.origins.rows, kept.origins.allowed⟩
  | issueHandoff row =>
      obtain ⟨handoffs, _, rfl⟩ := Option.map_eq_some_iff.mp taken
      exact kept.store ⟨refl.ages, refl.links⟩ rfl ⟨kept.origins.rows, kept.origins.allowed⟩
  | consumeOAuth oauthState now =>
      cases taken
      exact kept.store ⟨refl.ages, refl.links⟩ rfl ⟨kept.origins.rows, kept.origins.allowed⟩
  | consumeHandoff tokenHash now =>
      cases taken
      exact kept.store ⟨refl.ages, refl.links⟩ rfl ⟨kept.origins.rows, kept.origins.allowed⟩
  | redeem id tokenHash allowCreate now =>
      obtain ⟨_, began⟩ := Option.ite_none_right_eq_some.mp taken
      cases began
      exact kept.setCall state refl rfl kept.origins
        (placed_bare (Ages.refl state.accounts) rfl rfl nofun)
  | upsert id provider subject verifiedEmail allowCreate =>
      obtain ⟨_, began⟩ := Option.ite_none_right_eq_some.mp taken
      cases began
      exact kept.setCall state refl rfl kept.origins
        (placed_bare (Ages.refl state.accounts) rfl rfl nofun)
  | call id dbNow newId =>
      cases held : state.calls id with
      | none =>
          simp only [SignIns.step, held] at taken
          cases taken
      | some call =>
          simp only [SignIns.step, held] at taken
          obtain ⟨_, went⟩ := Option.ite_none_right_eq_some.mp taken
          cases went
          exact kept.call held free
  | fail id =>
      cases held : state.calls id with
      | none =>
          simp only [SignIns.step, held] at taken
          cases taken
      | some call =>
          simp only [SignIns.step, held] at taken
          obtain ⟨_, failed⟩ := Option.ite_none_right_eq_some.mp taken
          cases failed
          exact kept.setCall state refl rfl kept.origins
            (placed_bare (kept.placed id call held).later rfl rfl nofun)
  | suspend now accountId =>
      cases taken
      have ages : Ages state.accounts
          (state.accounts.update (suspendAccount now accountId) fun _ => rfl) :=
        ages_update fun account _ => by simp [barred, suspendAccount]
      exact kept.store ⟨ages, refl.links⟩ rfl kept.origins.update
  | delete now accountId =>
      cases taken
      have ages : Ages state.accounts
          (state.accounts.update (deleteAccount now accountId) fun _ => rfl) :=
        ages_update fun account _ => by simp [barred, deleteAccount]
      exact kept.store ⟨ages, refl.links⟩ rfl kept.origins.update

/-- A store in which no sign-in is in flight keeps everything. -/
theorem kept_idle (accounts : Accounts) (identities : Identities)
    (logins : Keyed LoginToken.tokenHash) (oauth : Keyed OAuthState.state)
    (handoffs : Keyed InvokeKeyHandoff.tokenHash)
    : Kept accounts (.idle accounts identities logins oauth handoffs) where
  origins := ⟨fun account member => .inl ⟨account, member, rfl⟩, by simp [SignIns.idle]⟩
  placed _ _ held := nomatch held

/-- A sign-in that comes to link an identity which is another account's returns its own account all
the same: its link is ignored.
-/
theorem stolenLink_unsound {toLowerCase : String → String} {start : Accounts} {state : SignIns}
    {id newId : String} {dbNow : Nat} (stolen : ¬ LinkFree state (.call id dbNow newId))
    : ∃ final,
        exec (SignIns.step toLowerCase) state [.call id dbNow newId, .call id dbNow newId]
          = some final
        ∧ ¬ Sound start final := by
  unfold LinkFree at stolen
  dsimp only at stolen
  split at stolen
  next provider subject verifiedEmail allowCreate account created began held =>
    obtain ⟨other, linked, apart⟩ := by simpa only [not_forall] using stolen
    let call : SignIn :=
      ⟨provider, subject, verifiedEmail, allowCreate, .linking account created, began⟩
    let links := linkIdentity state.identities provider subject account.id
    let linking := { state with identities := links }.setCall id (call.at (.touching account created))
    have heldNext : linking.calls id = some (call.at (.touching account created)) :=
      Function.update_self ..
    have first : state.step toLowerCase (.call id dbNow newId) = some linking := by
      simp only [SignIns.step, held]
      exact if_pos trivial
    let touched := (touchIdentityLogin dbNow provider subject).apply links
    let final :=
      { linking with identities := touched }.setCall id
        (call.at (.returned (.ok account created)))
    have second : linking.step toLowerCase (.call id dbNow newId) = some final := by
      simp only [SignIns.step, heldNext]
      exact if_pos trivial
    refine ⟨final, exec_cons.mpr ⟨linking, first, exec_cons.mpr ⟨final, second, rfl⟩⟩, ?_⟩
    intro sound
    have returned := sound.linked id (call.at (.returned (.ok account created))) account created
      (Function.update_self ..) rfl
    have stillOther : getAccountIdByIdentity touched provider subject = some other :=
      keepsLinks_touch links dbNow provider subject _ _ _
        (keepsLinks_link state.identities provider subject account.id _ _ _ linked)
    exact apart (Option.some.inj (stillOther.symm.trans returned))
  next => exact absurd trivial stolen

/-- Where every sign-in that comes to link its identity finds it free or its own, all states of all
runs are sound; and where one does not, two calls of its own lead to a state that is not.
-/
theorem signIns_sound (toLowerCase : String → String) (accounts : Accounts)
    (identities : Identities) (logins : Keyed LoginToken.tokenHash)
    (oauth : Keyed OAuthState.state) (handoffs : Keyed InvokeKeyHandoff.tokenHash)
    : (∀ actions,
        Throughout (SignIns.step toLowerCase) LinkFree
          (.idle accounts identities logins oauth handoffs) actions →
        Everywhere (SignIns.step toLowerCase) (Sound accounts)
          (.idle accounts identities logins oauth handoffs) actions)
      ∧ ∀ actions state id dbNow newId,
          exec (SignIns.step toLowerCase) (.idle accounts identities logins oauth handoffs) actions
            = some state →
          ¬ LinkFree state (.call id dbNow newId) →
          ∃ final,
            exec (SignIns.step toLowerCase) state [.call id dbNow newId, .call id dbNow newId]
              = some final
            ∧ ¬ Sound accounts final := by
  constructor
  · intro actions free
    refine everywhere_of_throughout (C := LinkFree) ?_ (fun _ kept => kept.sound)
      (kept_idle accounts identities logins oauth handoffs) free
    intro state action next kept isFree taken
    exact kept.step isFree taken
  · intro actions state id dbNow newId _ stolen
    exact stolenLink_unsound stolen

--------------------------------------------------------------------------------
-- One identity, two addresses
--------------------------------------------------------------------------------

def noAccounts : Accounts where
  table := .empty
  emails := List.nodup_nil

/-- No account, no identity and no token. -/
def nobody : SignIns :=
  .idle noAccounts .empty .empty .empty .empty

/-- A number of calls of one sign-in. -/
def callsOf (id newId : String) (count : Nat) : List SignInAction :=
  List.replicate count (.call id 0 newId)

/-- Two callbacks of one identity arrive with different addresses, and look it up before either of
them links it.
-/
def twoCallbacks : List SignInAction :=
  [.upsert "first" .google "sub" "a@example.com" true,
    .upsert "second" .google "sub" "b@example.com" true]
  ++ callsOf "first" "acct_1" 3 ++ callsOf "second" "acct_2" 3
  ++ callsOf "first" "acct_1" 2 ++ callsOf "second" "acct_2" 2

/-- One of them alone goes through all its calls. -/
theorem oneCallback_sound
    : Everywhere (SignIns.step id) (Sound noAccounts) nobody
        (.upsert "first" .google "sub" "a@example.com" true :: callsOf "first" "acct_1" 5) :=
  (signIns_sound id noAccounts .empty .empty .empty .empty).1 _ (by decide +kernel)

/-- The second callback returns an account that the identity is not linked to. -/
theorem twoCallbacks_unsound
    : ¬ ∀ (accounts : Accounts) identities logins oauth handoffs actions,
        Everywhere (SignIns.step id) (Sound accounts)
          (.idle accounts identities logins oauth handoffs) actions := by
  intro always
  have shown : (exec (SignIns.step id) nobody twoCallbacks).map
        (fun state =>
          ((state.calls "second").map fun call => (call.provider, call.subject, call.place),
            getAccountIdByIdentity state.identities .google "sub"))
      = some
          (some (.google, "sub", .returned (.ok { id := "acct_2", email := "b@example.com" } true)),
            some "acct_1") := by
    decide +kernel
  obtain ⟨state, reached, seen⟩ := Option.map_eq_some_iff.mp shown
  obtain ⟨ended, link⟩ := Prod.mk.inj seen
  obtain ⟨call, held, isCall⟩ := Option.map_eq_some_iff.mp ended
  obtain ⟨isProvider, isRest⟩ := Prod.mk.inj isCall
  obtain ⟨isSubject, returned⟩ := Prod.mk.inj isRest
  have sound : Sound noAccounts state :=
    (always noAccounts .empty .empty .empty .empty twoCallbacks).final reached
  have linked := sound.linked "second" call _ _ held returned
  rw [isProvider, isSubject, link] at linked
  exact absurd linked (by decide)

end ControlPlane.Identity
