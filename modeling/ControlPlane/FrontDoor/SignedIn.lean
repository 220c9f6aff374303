import ControlPlane.FrontDoor.AccountPlane

/-! The sessions say who signed in and did not sign out since. -/

namespace ControlPlane.FrontDoor

open ControlPlane.Crypto
open ControlPlane.Library
open ControlPlane.Store

variable {τ : Type} {platform : AccountPlatform} {sessions : Sessions}
  {history after : List (AccountEvent τ)} {accountId token : String} {time : Nat}

/-- One more event is one more that happened since, or is the sign-in itself. -/
theorem since_append {event : AccountEvent τ} {later : List (AccountEvent τ)}
    : Since (history ++ [event]) accountId token time later
      ↔ (∃ after, Since history accountId token time after ∧ later = after ++ [event])
        ∨ (event = .signedIn accountId token time ∧ later = []) := by
  constructor
  · intro h
    obtain ⟨before, same⟩ := h
    rcases List.eq_nil_or_concat later with rfl | ⟨front, last, rfl⟩
    · obtain ⟨_, isEvent⟩ := List.append_inj' same rfl
      exact .inr ⟨(List.cons.inj isEvent).1, rfl⟩
    · rw [List.concat_eq_append, ← List.cons_append, ← List.append_assoc] at same
      obtain ⟨isHistory, isEvent⟩ := List.append_inj' same rfl
      exact .inl ⟨front, ⟨before, isHistory⟩, by rw [List.concat_eq_append, isEvent]⟩
  · intro h
    rcases h with ⟨after, ⟨before, isHistory⟩, rfl⟩ | ⟨rfl, rfl⟩
    · exact ⟨before, by rw [isHistory]; simp⟩
    · exact ⟨history, rfl⟩

/-- What a row says of a sign-in, and of what happened since. -/
structure Tells (platform : AccountPlatform) (row : Session) (accountId token : String)
    (time : Nat) (after : List (AccountEvent τ))
    : Prop where
  hash : row.tokenHash = sha256Hex platform.sha256 token
  account : row.accountId = accountId
  expiry : row.expiresAt = time + SESSION_TTL_MS
  open_ : row.revokedAt = none ↔ ∀ caller, .signedOut caller row.tokenHash ∉ after

/-- There is a row for each sign-in, and a sign-in for each row. -/
structure Signed (platform : AccountPlatform) (sessions : Sessions)
    (history : List (AccountEvent τ))
    : Prop where
  rows : ∀ accountId token time after, Since history accountId token time after →
    ∃ row ∈ sessions.rows, Tells platform row accountId token time after
  came : ∀ row ∈ sessions.rows, ∃ accountId token time after,
    Since history accountId token time after ∧ Tells platform row accountId token time after

/-- An event that nobody signs in or out by. -/
def AccountEvent.quiet : AccountEvent τ → Bool
  | .signedIn .. | .signedOut .. => false
  | _ => true

theorem AccountEvent.ne_signedIn {event : AccountEvent τ} (quiet : event.quiet = true)
    : event ≠ .signedIn accountId token time := by
  intro same
  rw [same] at quiet
  exact Bool.false_ne_true quiet

theorem AccountEvent.ne_signedOut {event : AccountEvent τ} (quiet : event.quiet = true)
    (caller : AccountCaller) (tokenHash : String)
    : event ≠ .signedOut caller tokenHash := by
  intro same
  rw [same] at quiet
  exact Bool.false_ne_true quiet

/-- What does not sign out with the row's token leaves what it says. -/
theorem Tells.later {row : Session} {event : AccountEvent τ}
    (tells : Tells platform row accountId token time after)
    (other : ∀ caller, event ≠ .signedOut caller row.tokenHash)
    : Tells platform row accountId token time (after ++ [event]) where
  hash := tells.hash
  account := tells.account
  expiry := tells.expiry
  open_ := by
    rw [tells.open_]
    refine forall_congr' fun caller => not_congr ?_
    rw [List.mem_append, List.mem_singleton, or_iff_left (other caller).symm]

theorem Signed.log (signed : Signed platform sessions history) {event : AccountEvent τ}
    (quiet : event.quiet = true)
    : Signed platform sessions (history ++ [event]) where
  rows accountId token time later since := by
    rcases since_append.mp since with ⟨after, earlier, rfl⟩ | ⟨isSignIn, _⟩
    · obtain ⟨row, isRow, tells⟩ := signed.rows accountId token time after earlier
      exact ⟨row, isRow, tells.later fun caller => event.ne_signedOut quiet caller _⟩
    · exact absurd isSignIn (event.ne_signedIn quiet)
  came row isRow := by
    obtain ⟨accountId, token, time, after, since, tells⟩ := signed.came row isRow
    exact ⟨accountId, token, time, after ++ [event], since_append.mpr (.inl ⟨after, since, rfl⟩),
      tells.later fun caller => event.ne_signedOut quiet caller _⟩

/-- A sign-in adds the row of its token. -/
theorem Signed.signIn (signed : Signed platform sessions history) {later : Sessions}
    (made : createSession sessions (sessionRow platform.sha256 accountId token time) = some later)
    : Signed platform later (history ++ [.signedIn accountId token time]) := by
  unfold createSession at made
  split at made
  next free =>
    cases made
    have isNew : ∀ row, row ∈ (sessions.insert (sessionRow platform.sha256 accountId token time)
        free).rows ↔ row ∈ sessions.rows ∨ row = sessionRow platform.sha256 accountId token time := by
      simp [Keyed.insert]
    have tellsNew : Tells platform (sessionRow platform.sha256 accountId token time) accountId token
        time ([] : List (AccountEvent τ)) :=
      ⟨rfl, rfl, rfl, by simp [sessionRow]⟩
    constructor
    case rows =>
      intro accountId' token' time' after since
      rcases since_append.mp since with ⟨earlier, before, rfl⟩ | ⟨isSignIn, rfl⟩
      · obtain ⟨row, isRow, tells⟩ := signed.rows _ _ _ _ before
        refine ⟨row, (isNew row).mpr (.inl isRow), tells.later fun caller same => ?_⟩
        cases same
      · cases isSignIn
        exact ⟨_, (isNew _).mpr (.inr rfl), tellsNew⟩
    case came =>
      intro row isRow
      rcases (isNew row).mp isRow with earlier | rfl
      · obtain ⟨accountId', token', time', after, since, tells⟩ := signed.came row earlier
        refine ⟨accountId', token', time', _, since_append.mpr (.inl ⟨after, since, rfl⟩),
          tells.later fun caller same => ?_⟩
        cases same
      · exact ⟨accountId, token, time, [], since_append.mpr (.inr ⟨rfl, rfl⟩), tellsNew⟩
  next => cases made

/-- Signing out closes the row of its token, as signing out tells. -/
theorem Tells.signOut {row : Session} (tells : Tells platform row accountId token time after)
    (caller : AccountCaller) (tokenHash : String) (now : Nat)
    : Tells platform ((revokeSession tokenHash now).onRow row) accountId token time
        (after ++ [.signedOut caller tokenHash]) := by
  by_cases isRow : row.tokenHash = tokenHash
  · have isOut : ¬ ∀ other, AccountEvent.signedOut other row.tokenHash
        ∉ after ++ [.signedOut caller tokenHash] := by
      intro h
      exact h caller (by simp [isRow])
    by_cases isOpen : row.revokedAt = none
    · rw [Update.onRow_of_match isRow (decide_eq_true isOpen)]
      exact ⟨tells.hash, tells.account, tells.expiry,
        iff_of_false (Option.some_ne_none now) isOut⟩
    · rw [Update.onRow_of_not fun h => isOpen (of_decide_eq_true h.2)]
      exact ⟨tells.hash, tells.account, tells.expiry, iff_of_false isOpen isOut⟩
  · rw [Update.onRow_of_not fun h => isRow h.1]
    refine tells.later fun other same => ?_
    cases same
    exact isRow rfl

theorem Signed.signOut (signed : Signed platform sessions history) (caller : AccountCaller)
    (tokenHash : String) (now : Nat)
    : Signed platform ((revokeSession tokenHash now).apply sessions)
        (history ++ [.signedOut caller tokenHash]) where
  rows accountId token time later since := by
    rcases since_append.mp since with ⟨after, earlier, rfl⟩ | ⟨isSignIn, _⟩
    · obtain ⟨row, isRow, tells⟩ := signed.rows accountId token time after earlier
      exact ⟨_, Sweep.mem_apply.mpr ⟨row, isRow, rfl⟩, tells.signOut caller tokenHash now⟩
    · cases isSignIn
  came row isRow := by
    obtain ⟨old, isOld, rfl⟩ := Sweep.mem_apply.mp isRow
    obtain ⟨accountId, token, time, after, since, tells⟩ := signed.came old isOld
    exact ⟨accountId, token, time, _, since_append.mpr (.inl ⟨after, since, rfl⟩),
      tells.signOut caller tokenHash now⟩

/-- A token finds an account exactly if it stands for it. -/
theorem Signed.getSession_iff (signed : Signed platform sessions history) {now : Nat}
    : (getSession sessions (sha256Hex platform.sha256 token) now).map Session.accountId
        = some accountId
      ↔ SignedIn platform history token now accountId := by
  constructor
  · intro found
    obtain ⟨row, isFound, rfl⟩ := Option.map_eq_some_iff.mp found
    obtain ⟨isRow, isGood⟩ := Option.filter_eq_some_iff.mp isFound
    obtain ⟨isOpen, inTime⟩ := of_decide_eq_true isGood
    obtain ⟨accountId, given, time, after, since, tells⟩ := signed.came row (Keyed.get?_mem isRow)
    have isHash := Keyed.get?_key isRow
    refine ⟨given, time, after, tells.account ▸ since, ?_, tells.expiry ▸ inTime, ?_⟩
    · exact (sha256Hex_eq_iff platform.sha256 given token).mp (tells.hash.symm.trans isHash)
    · exact isHash ▸ tells.open_.mp isOpen
  · intro h
    obtain ⟨given, time, after, since, same, inTime, isOpen⟩ := h
    obtain ⟨row, isRow, tells⟩ := signed.rows accountId given time after since
    have isHash : row.tokenHash = sha256Hex platform.sha256 token :=
      tells.hash.trans ((sha256Hex_eq_iff platform.sha256 given token).mpr same)
    refine Option.map_eq_some_iff.mpr ⟨row, Option.filter_eq_some_iff.mpr ⟨?_, ?_⟩, tells.account⟩
    · exact isHash ▸ Keyed.get?_of_mem isRow
    · exact decide_eq_true ⟨tells.open_.mpr (isHash ▸ isOpen), tells.expiry ▸ inTime⟩

end ControlPlane.FrontDoor
