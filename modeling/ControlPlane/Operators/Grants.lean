import ControlPlane.Operators.AdminPlane

/-! The table says what was granted, and what has come of it. So the principal that a row stands for
is the one that the history entitles a bearer to.
-/

namespace ControlPlane.Operators

open ControlPlane.Crypto
open ControlPlane.Library
open ControlPlane.Library.Calendar
open ControlPlane.StudioBindings (truthy truthy_eq_some)

variable {τ : Type} {platform : AdminPlatform} {credentials : OperatorCredentials}
  {history : List (Event τ)} {row : OperatorCredential} {created : NewCredential}

-----------------------------------------------------------------------------------------
-- Rows and texts
-----------------------------------------------------------------------------------------

/-- The columns of a row that never change are those it was created with. -/
structure OperatorCredential.CameOf (row : OperatorCredential) (created : NewCredential) : Prop where
  id : row.id = created.id
  name : row.name = created.name
  hash : row.tokenSha256 = created.tokenSha256
  scopes : row.scopes = created.scopes
  expiry : row.expiresAt = created.expiresAt

theorem presentsRoot_iff {platform : Platform} {rootSecret : Option String} {presented : String}
    : presentsRoot platform rootSecret presented = true ↔ IsRoot platform rootSecret presented := by
  simp only [presentsRoot, Option.any_eq_true, constantTimeEqual_iff, IsRoot, SameDigest]

/-- The hash of a row finds it, as no two rows share one. -/
theorem getOperatorCredentialByHash_eq_some {tokenHash : String}
    : credentials.getOperatorCredentialByHash tokenHash = some row
      ↔ row ∈ credentials.table.rows ∧ row.tokenSha256 = tokenHash := by
  constructor
  · intro found
    exact ⟨List.mem_of_find?_eq_some found, by simpa using List.find?_some found⟩
  · intro h
    obtain ⟨isRow, rfl⟩ := h
    cases found : credentials.getOperatorCredentialByHash row.tokenSha256 with
    | none => exact absurd (decide_eq_true rfl) (List.find?_eq_none.mp found row isRow)
    | some other =>
        have isOther := List.mem_of_find?_eq_some found
        have same : other.tokenSha256 = row.tokenSha256 := by simpa using List.find?_some found
        rw [List.inj_on_of_nodup_map credentials.hashes isOther isRow same]

theorem truthy_toISOString (instant : Int)
    : truthy (some (toISOString instant)) = some (toISOString instant) := by
  refine truthy_eq_some.mpr ⟨rfl, fun empty => ?_⟩
  have chars := congrArg String.toList empty
  rw [toISOString, String.toList_ofList] at chars
  simp [isoText, isoRest] at chars

/-- An expiry that was written as a text has passed once its instant has come. -/
theorem isExpired_eq_false {platform : Platform} {expires : Option Int} {now : Int}
    (dates : ∀ instant, expires = some instant → IsDate instant) (isDate : IsDate now)
    : isExpired platform (expires.map toISOString) (toISOString now) = false
      ↔ ∀ instant, expires = some instant → now < instant := by
  cases expires with
  | none => exact ⟨fun _ instant later => (by cases later), fun _ => rfl⟩
  | some expiry =>
      have reads := dateParse_toISOString platform.parseDate (near_of_isDate (dates expiry rfl))
      have readsNow := dateParse_toISOString platform.parseDate (near_of_isDate isDate)
      simp [isExpired, truthy_toISOString, reads, readsNow]

-----------------------------------------------------------------------------------------
-- Rows and grants
-----------------------------------------------------------------------------------------

/-- The row that a mint created is the one that its request asks for. -/
def Asked (platform : AdminPlatform) (caller : Caller) (created : NewCredential)
    (asked : MintRequest)
    : Prop :=
  readMint platform caller.request.body = .ok asked
  ∧ (∀ instant, asked.expiry caller.moment.mintedAt = some instant → IsDate instant)
  ∧ created = asked.row platform.toPlatform caller.moment created.createdBy

/-- The scopes that a mint request asks for. -/
theorem filter_asked {body : Option Json} {asked : MintRequest}
    (isRead : readMint platform body = .ok asked)
    : (ALL_SCOPES.filter fun scope => scope ∈ asked.scopes) = asked.scopes := by
  unfold readMint at isRead
  split at isRead
  next => cases isRead
  next =>
    split at isRead
    next => cases isRead
    next accepted =>
      split at isRead
      next => cases isRead
      next =>
        cases isRead
        exact Naming.filter_granted accepted

/-- A row stands for the principal of its grant. -/
theorem credentialPrincipal_eq {caller : Caller} {asked : MintRequest}
    (came : row.CameOf created) (isAsked : Asked platform caller created asked)
    : credentialPrincipal row = (asked.grant caller.moment).principal := by
  obtain ⟨isRead, _, isCreated⟩ := isAsked
  have everywhere : (asked.scopes.filter fun scope => scope ∈ ALL_SCOPES) = asked.scopes := by
    refine List.filter_eq_self.mpr fun scope _ => ?_
    cases scope <;> rfl
  rw [credentialPrincipal, came.name, came.id, came.scopes, isCreated, MintRequest.row,
    Naming.parseScopes_formatScopes, filter_asked isRead, everywhere]
  rfl

/-- A row answers to the token of its grant. -/
theorem answers_iff {caller : Caller} {asked : MintRequest} {presented : String}
    (came : row.CameOf created) (isAsked : Asked platform caller created asked)
    : row.tokenSha256 = sha256Hex platform.sha256 presented
      ↔ SameDigest platform.sha256 presented (asked.grant caller.moment).token := by
  obtain ⟨_, _, isCreated⟩ := isAsked
  rw [came.hash, isCreated, MintRequest.row, eq_comm, sha256Hex_eq_iff]
  rfl

/-- The table says of each mint and each revocation what there is to say, and nothing else. -/
structure Faithful (platform : AdminPlatform) (credentials : OperatorCredentials)
    (history : List (Event τ))
    : Prop where
  asked : ∀ caller created, .minted caller created ∈ history →
    ∃ asked, Asked platform caller created asked
  kept : ∀ caller created, .minted caller created ∈ history →
    ∃ row ∈ credentials.table.rows, row.CameOf created
  came : ∀ row ∈ credentials.table.rows,
    ∃ caller created, .minted caller created ∈ history ∧ row.CameOf created
  revoked : ∀ row ∈ credentials.table.rows,
    row.revokedAt = none ↔ ∀ caller, .revoked caller row.id ∉ history
  texts : ∀ row ∈ credentials.table.rows, truthy row.revokedAt = row.revokedAt
  known : ∀ caller id, .revoked caller id ∈ history → ∃ row ∈ credentials.table.rows, row.id = id

/-- A row stands as long as its grant does. -/
theorem Faithful.stands_iff (faithful : Faithful platform credentials history) {now : Int}
    {caller : Caller} {asked : MintRequest} (isDate : IsDate now)
    (isRow : row ∈ credentials.table.rows) (came : row.CameOf created)
    (isAsked : Asked platform caller created asked)
    : stands platform.toPlatform (toISOString now) row = true
      ↔ (asked.grant caller.moment).Stands history now := by
  obtain ⟨_, dates, isCreated⟩ := isAsked
  have isId : row.id = (asked.grant caller.moment).id := by
    rw [came.id, isCreated]
    rfl
  have inTime : ∀ instant, (asked.grant caller.moment).expires = some instant → IsDate instant :=
    dates
  have isExpiry
      : row.expiresAt = ((asked.grant caller.moment).expires).map toISOString := by
    rw [came.expiry, isCreated]
    rfl
  rw [stands, decide_eq_true_iff, faithful.texts row isRow, faithful.revoked row isRow, isId, Bool.not_eq_true', isExpiry,
    isExpired_eq_false inTime isDate]
  exact ⟨fun h => ⟨h.1, h.2⟩, fun h => ⟨h.kept, h.timely⟩⟩

/-- A grant entitles a bearer exactly if the hash of the bearer finds a row that stands, and stands
for the grant.
-/
theorem Faithful.entitles_iff (faithful : Faithful platform credentials history) {now : Int}
    (isDate : IsDate now) (presented : String) (principal : OperatorPrincipal)
    : (∃ grant, Entitles platform history now presented grant ∧ grant.principal = principal)
      ↔ ∃ row, credentials.getOperatorCredentialByHash (sha256Hex platform.sha256 presented)
            = some row
          ∧ stands platform.toPlatform (toISOString now) row = true
          ∧ credentialPrincipal row = principal := by
  constructor
  · intro h
    obtain ⟨grant, entitles, isPrincipal⟩ := h
    obtain ⟨caller, created, asked, isMinted, isRead, isGrant⟩ := entitles.granted
    subst isGrant
    obtain ⟨row, isRow, came⟩ := faithful.kept caller created isMinted
    obtain ⟨others, isAsked⟩ := faithful.asked caller created isMinted
    have same : others = asked := Except.ok.inj (isAsked.1.symm.trans isRead)
    subst same
    exact ⟨row,
      getOperatorCredentialByHash_eq_some.mpr ⟨isRow, (answers_iff came isAsked).mpr entitles.answers⟩,
      (faithful.stands_iff isDate isRow came isAsked).mpr entitles.stands,
      (credentialPrincipal_eq came isAsked).trans isPrincipal⟩
  · intro h
    obtain ⟨row, found, isStanding, isPrincipal⟩ := h
    obtain ⟨isRow, answers⟩ := getOperatorCredentialByHash_eq_some.mp found
    obtain ⟨caller, created, isMinted, came⟩ := faithful.came row isRow
    obtain ⟨asked, isAsked⟩ := faithful.asked caller created isMinted
    exact ⟨asked.grant caller.moment,
      ⟨⟨caller, created, asked, isMinted, isAsked.1, rfl⟩, (answers_iff came isAsked).mp answers,
        (faithful.stands_iff isDate isRow came isAsked).mp isStanding⟩,
      (credentialPrincipal_eq came isAsked).symm.trans isPrincipal⟩

/-- A bearer is looked up as the principal that the history entitles it to. -/
theorem Faithful.resolves_iff (faithful : Faithful platform credentials history)
    {rootSecret : Option String} {now : Int} (isDate : IsDate now) {presented : String}
    {principal : OperatorPrincipal}
    : resolveOperator platform.toPlatform rootSecret (toISOString now) presented
          (credentials.getOperatorCredentialByHash (sha256Hex platform.sha256 presented))
        = some principal
      ↔ Resolves platform rootSecret history now presented principal := by
  have entitles_iff := faithful.entitles_iff isDate presented
  unfold resolveOperator
  split
  next row found =>
    obtain ⟨isFound, isStanding⟩ := Option.filter_eq_some_iff.mp found
    constructor
    · intro isPrincipal
      obtain ⟨grant, entitles, rfl⟩ :=
        (entitles_iff principal).mpr ⟨row, isFound, isStanding, Option.some.inj isPrincipal⟩
      exact .named grant entitles
    · intro resolves
      cases resolves with
      | named grant entitles =>
          obtain ⟨other, alsoFound, _, isPrincipal⟩ :=
            (entitles_iff grant.principal).mp ⟨grant, entitles, rfl⟩
          cases isFound.symm.trans alsoFound
          rw [isPrincipal]
      | root nobody _ =>
          obtain ⟨grant, entitles, _⟩ :=
            (entitles_iff (credentialPrincipal row)).mpr ⟨row, isFound, isStanding, rfl⟩
          exact absurd entitles (nobody grant)
  next missing =>
    have nobody : ∀ grant, ¬ Entitles platform history now presented grant := by
      intro grant entitles
      obtain ⟨row, isFound, isStanding, _⟩ :=
        (entitles_iff grant.principal).mp ⟨grant, entitles, rfl⟩
      have found := Option.filter_eq_some_iff.mpr ⟨isFound, isStanding⟩
      cases missing.symm.trans found
    rw [Option.ite_none_right_eq_some, presentsRoot_iff, Option.some.injEq]
    constructor
    · intro h
      obtain ⟨isRoot, rfl⟩ := h
      exact .root nobody isRoot
    · intro resolves
      cases resolves with
      | named grant entitles => exact absurd entitles (nobody grant)
      | root _ isRoot => exact ⟨isRoot, rfl⟩

end ControlPlane.Operators
