import ControlPlane.Operators.GrantedTable

/-! However admin requests are interleaved and wherever they fail: a bearer is who the history says it
is, and all that is done is done for a request that was admitted, under the name of its caller.
-/

namespace ControlPlane.Operators

open ControlPlane.Crypto
open ControlPlane.FrontDoor
open ControlPlane.Library
open ControlPlane.Library.Calendar
open ControlPlane.RunpodProxy (bearerFrom)
open ControlPlane.StudioBindings (truthy)

variable {τ : Type} {platform : AdminPlatform} {rootSecret : Option String} {handlers : Handlers τ}
  {history grown : List (Event τ)} {db after : AdminDb τ} {caller : Caller}
  {principal : OperatorPrincipal}

-----------------------------------------------------------------------------------------
-- What an admitted request puts to the store
-----------------------------------------------------------------------------------------

/-- What a request may call for that was admitted as a principal. -/
def Permits (platform : AdminPlatform) (caller : Caller) (principal : OperatorPrincipal)
    : AdminCall τ → Prop
  | .getOperatorCredentialByHash _ => False
  | .listOperatorCredentials => True
  | .createOperatorCredential row =>
      principal = rootPrincipal ∧ row.createdBy = principal.actor
      ∧ ∃ asked, Asked platform caller row asked
  | .revokeOperatorCredential _ _ now => principal = rootPrincipal ∧ truthy (some now) = some now
  | .recordAdminAction actor .. => actor = principal.actor
  | .work _ => True

theorem mintOperator_asks (isRoot : principal = rootPrincipal)
    : (mintOperator platform caller.request caller.moment principal : AdminProgram τ _).Asks
        (Permits platform caller principal) := by
  unfold mintOperator
  split
  next => trivial
  next asked isRead =>
    split
    next dates =>
      have isMint : Permits platform caller principal (τ := τ)
          (.createOperatorCredential
            (asked.row platform.toPlatform caller.moment principal.actor)) := by
        refine ⟨isRoot, rfl, asked, isRead, fun instant isExpiry => ?_, rfl⟩
        rw [isExpiry] at dates
        exact of_decide_eq_true dates
      refine (Dialogue.asks_ask isMint).andThen fun made => ?_
      cases made with
      | error message =>
          dsimp only
          split
          next => trivial
          next => trivial
      | ok done =>
          refine Dialogue.Asks.andThen (Dialogue.asks_ask ?_) fun _ => ?_
          · exact rfl
          · trivial
    next => trivial

theorem revokeOperator_asks (isRoot : principal = rootPrincipal)
    : (revokeOperator caller.request caller.moment principal : AdminProgram τ _).Asks
        (Permits platform caller principal) := by
  refine ⟨⟨isRoot, truthy_toISOString _⟩, fun revoked => ⟨rfl, fun _ => ?_⟩⟩
  cases revoked with
  | true => trivial
  | false => trivial

/-- Whoever is not refused has what the route asks for. -/
theorem meets_of_not_refused {requirement : Option AdminRequirement}
    (kinds : principal.kind = .root → principal = rootPrincipal)
    (passes : refusal? principal requirement = none)
    : Meets principal requirement := by
  unfold refusal? at passes
  split at passes
  next => cases passes
  next => trivial
  next =>
    split at passes
    next => cases passes
    next isRoot => exact kinds (not_not.mp isRoot)
  next scope =>
    split at passes
    next has => exact List.contains_iff_mem.mp has
    next => cases passes

/-- A route whose handler is meant for root alone is met by root alone. -/
theorem isRoot_of_meets {method path : String} {handler : AdminHandler}
    (meets : Meets principal (adminRequirement method path))
    (isHandler : adminHandler method path = some handler) (forRoot : handler.requires = .root)
    : principal = rootPrincipal := by
  rw [adminRequirement_eq, isHandler, Option.map_some, forRoot] at meets
  exact meets

/-- By the handler that is reached. -/
theorem dispatch_asks
    (meets : Meets principal (adminRequirement caller.request.method caller.request.path))
    : (dispatch platform handlers caller.request caller.moment principal).Asks
        (Permits platform caller principal) := by
  unfold dispatch
  split
  next => trivial
  next => trivial
  next => exact ⟨trivial, fun _ => trivial⟩
  next isMint => exact mintOperator_asks (isRoot_of_meets meets isMint rfl)
  next isRevoke => exact revokeOperator_asks (isRoot_of_meets meets isRevoke rfl)
  next handler _ _ _ _ _ =>
    refine Dialogue.asks_through (fun question => ?_) (handlers handler principal caller.request)
    cases question with
    | record action target detail => exact Dialogue.asks_ask rfl
    | work task => exact Dialogue.asks_ask trivial

-----------------------------------------------------------------------------------------
-- Where a request stands
-----------------------------------------------------------------------------------------

/-- What is left of a program: all of it, or what an admitted request may do, or nothing. -/
inductive Placed (platform : AdminPlatform) (rootSecret : Option String) (handlers : Handlers τ)
    (history : List (Event τ)) (caller : Caller)
    : AdminProgram τ JsonResponse → Prop
  | begun
      : Placed platform rootSecret handlers history caller
          (adminRoutes platform rootSecret handlers caller.request caller.moment)
  | admitted (principal : OperatorPrincipal)
      (admitted : Admitted platform rootSecret history caller principal)
      (program : AdminProgram τ JsonResponse)
      (asks : program.Asks (Permits platform caller principal))
      : Placed platform rootSecret handlers history caller program
  | answered (response : JsonResponse)
      : Placed platform rootSecret handlers history caller (.returns response)

theorem Admitted.later (admitted : Admitted platform rootSecret history caller principal)
    (grows : history <+: grown)
    : Admitted platform rootSecret grown caller principal := by
  obtain ⟨before, presented, isPrefix, isBearer, resolves⟩ := admitted.resolved
  exact ⟨⟨before, presented, isPrefix.trans grows, isBearer, resolves⟩, admitted.meets⟩

theorem Placed.later {program : AdminProgram τ JsonResponse}
    (placed : Placed platform rootSecret handlers history caller program)
    (grows : history <+: grown)
    : Placed platform rootSecret handlers grown caller program := by
  cases placed with
  | begun => exact .begun
  | admitted principal admitted _ asks => exact .admitted principal (admitted.later grows) _ asks
  | answered response => exact .answered response

/-- The database is faithful to its history, and all of the history is attributed. -/
structure AdminDb.Kept (platform : AdminPlatform) (rootSecret : Option String) (db : AdminDb τ)
    : Prop where
  faithful : Faithful platform db.credentials db.history
  attributed : ∀ before event, before ++ [event] <+: db.history →
    Attributed platform rootSecret before event
  trail : db.trail = db.history.filterMap Event.auditRow?

/-- A lookup that resolves to a principal admits it to all that it may do. -/
theorem authorised_placed {presented : String}
    (faithful : Faithful platform db.credentials db.history) (isDate : IsDate caller.moment.now)
    (isBearer : truthy (bearerFrom caller.request.authorization) = some presented)
    : Placed platform rootSecret handlers (db.history ++ [.lookedUp caller]) caller
        (authorised platform rootSecret handlers caller.request caller.moment presented
          (db.credentials.getOperatorCredentialByHash
            (sha256Hex platform.sha256 presented))) := by
  unfold authorised
  split
  next => exact .answered _
  next principal isResolved =>
    have resolves := (faithful.resolves_iff isDate).mp isResolved
    have kinds : principal.kind = .root → principal = rootPrincipal := by
      intro isRoot
      cases resolves with
      | named grant entitles => cases isRoot
      | root nobody isRoot => rfl
    split
    next => exact .answered _
    next passes =>
      have meets := meets_of_not_refused kinds passes
      exact .admitted principal
        ⟨⟨db.history, presented, List.prefix_rfl, isBearer, resolves⟩, meets⟩ _
        (dispatch_asks meets)

-----------------------------------------------------------------------------------------
-- One step
-----------------------------------------------------------------------------------------

theorem AdminDb.Kept.extend {event : Event τ} (kept : db.Kept platform rootSecret)
    (faithful : Faithful platform after.credentials after.history)
    (isHistory : after.history = db.history ++ [event])
    (attributed : Attributed platform rootSecret db.history event)
    (isTrail : after.trail = db.trail ++ event.auditRow?.toList)
    : after.Kept platform rootSecret where
  faithful := faithful
  attributed before other isPrefix := by
    rw [isHistory] at isPrefix
    rcases List.prefix_concat_iff.mp isPrefix with whole | earlier
    · obtain ⟨rfl, same⟩ := List.append_inj' whole rfl
      cases same
      exact attributed
    · exact kept.attributed before other earlier
  trail := by
    rw [isTrail, isHistory, List.filterMap_append, kept.trail]
    cases written : event.auditRow? with
    | none => simp [written]
    | some row => simp [written]

theorem AdminDb.Kept.log {event : Event τ} (kept : db.Kept platform rootSecret)
    (quiet : event.quiet = true) (silent : event.auditRow? = none)
    (attributed : Attributed platform rootSecret db.history event)
    : (db.log event).Kept platform rootSecret :=
  kept.extend (kept.faithful.log quiet) rfl attributed (by rw [silent]; simp [AdminDb.log])

theorem AdminDb.Kept.record {event : AuditRow → Event τ} (kept : db.Kept platform rootSecret)
    {dbNow actor action : String} {target detail : Option String}
    (quiet : ∀ row, (event row).quiet = true) (written : ∀ row, (event row).auditRow? = some row)
    (attributed : ∀ row, row.actor = actor → Attributed platform rootSecret db.history (event row))
    : (db.recordAdminAction dbNow actor action target detail event).Kept platform rootSecret := by
  refine kept.extend (kept.faithful.log (quiet _)) rfl (attributed _ rfl) ?_
  rw [written]
  rfl

/-- What an INSERT that goes through makes of the database. -/
theorem AdminDb.Kept.inserted {created : NewCredential} {dbNow : String} {asked : MintRequest}
    (kept : db.Kept platform rootSecret)
    (admitted : Admitted platform rootSecret db.history caller rootPrincipal)
    (isRoot : created.createdBy = rootPrincipal.actor)
    (isAsked : Asked platform caller created asked)
    (made : db.inserted caller created dbNow = some after)
    : after.Kept platform rootSecret ∧ db.history <+: after.history := by
  obtain ⟨credentials, isInserted, rfl⟩ := Option.map_eq_some_iff.mp made
  exact ⟨kept.extend (kept.faithful.insert isAsked isInserted) rfl ⟨admitted, isRoot⟩
      (by simp [AdminDb.log, Event.auditRow?]), List.prefix_append _ _⟩

/-- A call that an admitted request may put. -/
theorem AdminDb.Kept.serve (kept : db.Kept platform rootSecret)
    (admitted : Admitted platform rootSecret db.history caller principal)
    {question : AdminCall τ} (permits : Permits platform caller principal question)
    (input : AdminInput)
    : (AdminDb.serve caller db question input).1.Kept platform rootSecret
      ∧ db.history <+: (AdminDb.serve caller db question input).1.history := by
  cases question with
  | getOperatorCredentialByHash tokenHash => exact absurd permits id
  | listOperatorCredentials => exact ⟨kept, List.prefix_rfl⟩
  | createOperatorCredential row =>
      obtain ⟨rfl, isRoot, asked, isAsked⟩ := permits
      have unchanged : db.Kept platform rootSecret ∧ db.history <+: db.history :=
        ⟨kept, List.prefix_rfl⟩
      simp only [AdminDb.serve, AdminDb.createOperatorCredential]
      split
      next fault _ =>
        split
        next =>
          cases made : db.inserted caller row input.dbNow with
          | none => exact unchanged
          | some after => exact kept.inserted admitted isRoot isAsked made
        next => exact unchanged
      next =>
        split
        next after made => exact kept.inserted admitted isRoot isAsked made
        next => exact unchanged
  | revokeOperatorCredential id revokedBy now =>
      obtain ⟨rfl, isText⟩ := permits
      simp only [AdminDb.serve, AdminDb.revokeOperatorCredential]
      split
      next => exact ⟨kept, List.prefix_rfl⟩
      next changed =>
        exact ⟨kept.extend (kept.faithful.revoke isText changed) rfl admitted
          (by simp [AdminDb.log, Event.auditRow?]), List.prefix_append _ _⟩
  | recordAdminAction actor action target detail =>
      have isActor : actor = principal.actor := permits
      refine ⟨kept.record (fun _ => rfl) (fun _ => rfl) fun row same => ?_,
        List.prefix_append _ _⟩
      exact ⟨principal, admitted, same.trans isActor⟩
  | work task =>
      exact ⟨kept.log rfl rfl ⟨principal, admitted⟩, List.prefix_append _ _⟩

/-- A program put forward keeps the database, and stands somewhere in what has happened then. -/
theorem Placed.next {program rest : AdminProgram τ JsonResponse} {input : AdminInput}
    (kept : db.Kept platform rootSecret)
    (placed : Placed platform rootSecret handlers db.history caller program)
    (taken : program.next (AdminDb.serve caller) db input = some (after, rest))
    : after.Kept platform rootSecret ∧ db.history <+: after.history
      ∧ Placed platform rootSecret handlers after.history caller rest := by
  cases placed with
  | begun =>
      unfold adminRoutes at taken
      split at taken
      next isDate =>
        split at taken
        next => cases taken
        next presented isBearer =>
          cases taken
          exact ⟨kept.log rfl rfl trivial, List.prefix_append _ _,
            authorised_placed kept.faithful isDate isBearer⟩
      next => cases taken
  | admitted principal admitted _ asks =>
      obtain ⟨question, permits, rfl, onward⟩ := asks.next taken
      obtain ⟨keptAfter, grows⟩ := kept.serve admitted permits input
      exact ⟨keptAfter, grows, .admitted principal (admitted.later grows) rest onward⟩
  | answered response => cases taken

-----------------------------------------------------------------------------------------
-- Every run
-----------------------------------------------------------------------------------------

/-- What every step keeps. -/
structure AdminPlane.Kept (platform : AdminPlatform) (rootSecret : Option String)
    (handlers : Handlers τ) (plane : AdminPlane τ)
    : Prop where
  db : plane.db.Kept platform rootSecret
  placed : ∀ (place : Nat) one, plane.underway[place]? = some one →
    Placed platform rootSecret handlers plane.db.history
      { place, request := one.request, moment := one.moment } one.program

theorem AdminPlane.Kept.set {plane : AdminPlane τ} (kept : plane.Kept platform rootSecret handlers)
    {place : Nat} {one : Underway τ} {program : AdminProgram τ JsonResponse}
    (isUnderway : plane.underway[place]? = some one)
    (keptAfter : after.Kept platform rootSecret) (grows : plane.db.history <+: after.history)
    (placed
      : Placed platform rootSecret handlers after.history
          { place, request := one.request, moment := one.moment } program)
    : AdminPlane.Kept platform rootSecret handlers
        { db := after
          underway := plane.underway.set place { one with program } } where
  db := keptAfter
  placed other another isAnother := by
    rcases eq_or_ne place other with rfl | apart
    · have within := (List.getElem?_eq_some_iff.mp isUnderway).choose
      rw [List.getElem?_set_self within] at isAnother
      cases isAnother
      exact placed
    · rw [List.getElem?_set_ne apart] at isAnother
      exact (kept.placed other another isAnother).later grows

theorem AdminPlane.Kept.step {plane next : AdminPlane τ} {action : AdminAction}
    (kept : plane.Kept platform rootSecret handlers)
    (taken : plane.step platform rootSecret handlers action = some next)
    : next.Kept platform rootSecret handlers := by
  cases action with
  | arrive request moment =>
      cases taken
      refine ⟨kept.db, fun place one isUnderway => ?_⟩
      rw [List.getElem?_append] at isUnderway
      split at isUnderway
      next => exact kept.placed place one isUnderway
      next =>
        cases List.mem_singleton.mp (List.mem_of_getElem? isUnderway)
        exact .begun
  | call place input =>
      obtain ⟨one, isUnderway, went⟩ := Option.bind_eq_some_iff.mp taken
      obtain ⟨served, isServed, rfl⟩ := Option.map_eq_some_iff.mp went
      obtain ⟨keptAfter, grows, placed⟩ :=
        (kept.placed place one isUnderway).next kept.db isServed
      exact kept.set isUnderway keptAfter grows placed
  | fail place =>
      obtain ⟨one, isUnderway, rfl⟩ := Option.map_eq_some_iff.mp taken
      exact kept.set isUnderway kept.db List.prefix_rfl (.answered _)
  | touch id now =>
      cases taken
      exact ⟨⟨kept.db.faithful.touch id now, kept.db.attributed, kept.db.trail⟩, kept.placed⟩
  | reclaim accountId action dbNow target detail =>
      cases taken
      have keptAfter
          : (plane.db.recordAdminAction dbNow (accountActor accountId) action target detail
              .reclaimed).Kept platform rootSecret :=
        kept.db.record (fun _ => rfl) (fun _ => rfl) fun _ same => ⟨accountId, same⟩
      exact ⟨keptAfter, fun place one isUnderway =>
        (kept.placed place one isUnderway).later (List.prefix_append _ _)⟩

theorem AdminPlane.kept_empty : (empty : AdminPlane τ).Kept platform rootSecret handlers := by
  refine ⟨⟨⟨?_, ?_, ?_, ?_, ?_, ?_⟩, ?_, rfl⟩, ?_⟩
  all_goals simp [AdminPlane.empty, AdminDb.empty, OperatorCredentials.empty, Keyed.empty]

theorem AdminPlane.kept_of_run {actions : List AdminAction} {plane : AdminPlane τ}
    (reached : exec (step platform rootSecret handlers) empty actions = some plane)
    : plane.Kept platform rootSecret handlers :=
  exec_preserves (fun _ _ _ kept taken => kept.step taken) kept_empty reached

/-- In every state that requests can reach, a bearer resolves to an operator exactly if a mint granted
its digest a credential that was not revoked and has not expired, and then with exactly the scopes
that the mint was asked for. It resolves to root exactly if no such grant is there and it has the
digest of the shared secret, which is set.
-/
theorem bearer_resolves_as_granted (platform : AdminPlatform) (rootSecret : Option String)
    (handlers : Handlers τ) {actions : List AdminAction} {plane : AdminPlane τ}
    (reached : exec (AdminPlane.step platform rootSecret handlers) .empty actions = some plane)
    {now : Int} (isDate : IsDate now) (presented : String) (principal : OperatorPrincipal)
    : resolveOperator platform.toPlatform rootSecret (toISOString now) presented
          (plane.db.credentials.getOperatorCredentialByHash
            (sha256Hex platform.sha256 presented))
        = some principal
      ↔ Resolves platform rootSecret plane.db.history now presented principal :=
  (AdminPlane.kept_of_run reached).db.faithful.resolves_iff isDate

/-- A platform whose digest of a text is the sum of its characters. -/
def summing : AdminPlatform where
  sha256 text := Vector.replicate 32 (UInt8.ofNat (text.toList.map Char.toNat).sum)
  parseDate _ := none
  safeInteger _ := none
  asText _ := ""

/-- A handler that records that it ran. -/
def recording : Handlers Unit := fun _ _ _ =>
  .asks (.record "meter.tick_llm" none none) fun _ => .returns ⟨200, none⟩

/-- Root mints a credential for joan, who runs the meter with it. -/
def joanRuns : List AdminAction :=
  let input : AdminInput := { dbNow := "", fault := none, given := .null }
  let asked : Json :=
    .object [("name", .str "joan"), ("scopes", .array [.str "meter:operate"])]
  let mint : AdminRequest :=
    { method := "POST"
      path := "/api/admin/operators"
      authorization := some "Bearer root"
      body := some asked }
  let run : AdminRequest :=
    { method := "POST"
      path := "/api/admin/llm-meter/run"
      authorization := some "Bearer token"
      body := none }
  [.arrive mint { now := 0, mintedAt := 0, token := "token", newId := "opc_1" }, .call 0 input,
    .call 0 input, .call 0 input, .arrive run { now := 5, mintedAt := 5, token := "", newId := "" },
    .call 1 input, .call 1 input]

/-- The token that was minted for joan is hers, and reaches as far as was asked. -/
theorem joan_resolves
    : ∃ plane, exec (AdminPlane.step summing (some "root") recording) .empty joanRuns = some plane
        ∧ Resolves summing (some "root") plane.db.history 5 "token"
            { kind := .credential
              actor := "operator:joan"
              operator := some "joan"
              credentialId := some "opc_1"
              scopes := [.meterOperate] } := by
  have resolves
      : ((exec (AdminPlane.step summing (some "root") recording) .empty joanRuns).map fun plane =>
          resolveOperator summing.toPlatform (some "root") (toISOString 5) "token"
            (plane.db.credentials.getOperatorCredentialByHash
              (sha256Hex summing.sha256 "token")))
        = some (some
            { kind := .credential
              actor := "operator:joan"
              operator := some "joan"
              credentialId := some "opc_1"
              scopes := [.meterOperate] }) := by decide +kernel
  obtain ⟨plane, reached, isJoan⟩ := Option.map_eq_some_iff.mp resolves
  exact ⟨plane, reached,
    (bearer_resolves_as_granted summing (some "root") recording reached (by decide) _ _).mp isJoan⟩

theorem accountActor_ne_operatorActor (accountId name : String)
    : accountActor accountId ≠ operatorActor name := by
  intro same
  have chars := congrArg String.toList same
  rw [accountActor, operatorActor, String.toList_append, String.toList_append] at chars
  cases chars

/-- An actor that names an operator was a grant's. -/
theorem Admitted.of_operatorActor {name : String}
    (admitted : Admitted platform rootSecret history caller principal)
    (isActor : principal.actor = operatorActor name)
    : ∃ before presented grant, before ++ [.lookedUp caller] <+: history
      ∧ truthy (bearerFrom caller.request.authorization) = some presented
      ∧ Entitles platform before caller.moment.now presented grant ∧ grant.name = name := by
  obtain ⟨before, presented, isPrefix, isBearer, resolves⟩ := admitted.resolved
  cases resolves with
  | named grant entitles =>
      exact ⟨before, presented, grant, isPrefix, isBearer, entitles, operatorActor_injective isActor⟩
  | root nobody isRoot => exact absurd isActor.symm (operatorActor_ne_root name)

/-- Whatever was done in a run was done for a request that was looked up before, whose bearer stood
for its principal then, and whose principal has what the route asks for; only root minted and
revoked. The trail is what was recorded, and a row under the name of an operator was written for a
bearer that a grant to this operator entitled.
-/
theorem acts_are_attributed (platform : AdminPlatform) (rootSecret : Option String)
    (handlers : Handlers τ) {actions : List AdminAction} {plane : AdminPlane τ}
    (reached : exec (AdminPlane.step platform rootSecret handlers) .empty actions = some plane)
    : (∀ before event, before ++ [event] <+: plane.db.history →
        Attributed platform rootSecret before event)
      ∧ plane.db.trail = plane.db.history.filterMap Event.auditRow?
      ∧ ∀ row ∈ plane.db.trail, ∀ name, row.actor = operatorActor name →
          ∃ caller before presented grant, before ++ [.lookedUp caller] <+: plane.db.history
            ∧ truthy (bearerFrom caller.request.authorization) = some presented
            ∧ Entitles platform before caller.moment.now presented grant ∧ grant.name = name := by
  have kept := (AdminPlane.kept_of_run reached).db
  refine ⟨kept.attributed, kept.trail, fun row isRow name isActor => ?_⟩
  rw [kept.trail] at isRow
  obtain ⟨event, happened, isWritten⟩ := List.mem_filterMap.mp isRow
  obtain ⟨before, after, isHistory⟩ := List.append_of_mem happened
  have upTo : before ++ [event] <+: plane.db.history := ⟨after, by rw [isHistory]; simp⟩
  have attributed := kept.attributed before event upTo
  cases event with
  | recorded caller other =>
      cases isWritten
      obtain ⟨principal, admitted, same⟩ := attributed
      obtain ⟨earlier, presented, grant, isPrefix, rest⟩ :=
        admitted.of_operatorActor (same.symm.trans isActor)
      exact ⟨caller, earlier, presented, grant,
        (isPrefix.trans (List.prefix_append before [_])).trans upTo, rest⟩
  | reclaimed other =>
      cases isWritten
      obtain ⟨accountId, same⟩ := attributed
      exact absurd (same.symm.trans isActor) (accountActor_ne_operatorActor accountId name)
  | lookedUp caller => cases isWritten
  | minted caller created => cases isWritten
  | revoked caller id => cases isWritten
  | worked caller task => cases isWritten

/-- A row that joan left is traced to her grant. -/
theorem joan_is_attributed
    : ∃ plane, exec (AdminPlane.step summing (some "root") recording) .empty joanRuns = some plane
        ∧ ∃ caller before presented grant, before ++ [.lookedUp caller] <+: plane.db.history
            ∧ truthy (bearerFrom caller.request.authorization) = some presented
            ∧ Entitles summing before caller.moment.now presented grant ∧ grant.name = "joan" := by
  have records
      : ((exec (AdminPlane.step summing (some "root") recording) .empty joanRuns).map fun plane =>
          plane.db.trail.any fun row => row.actor = operatorActor "joan")
        = some true := by decide +kernel
  obtain ⟨plane, reached, isRecorded⟩ := Option.map_eq_some_iff.mp records
  obtain ⟨row, isRow, isActor⟩ := List.any_eq_true.mp isRecorded
  exact ⟨plane, reached,
    (acts_are_attributed summing (some "root") recording reached).2.2 row isRow "joan"
      (of_decide_eq_true isActor)⟩

end ControlPlane.Operators
