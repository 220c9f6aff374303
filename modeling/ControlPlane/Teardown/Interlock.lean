import ControlPlane.Teardown.Guard
import ControlPlane.Teardown.Holds

/-! However openings, releases and teardowns are interleaved, and wherever they fail: a teardown deletes
only if at its read every hold that had been opened on its tenant was released, each by one request
that names it, its tenant and a reason. No clock releases a hold.
-/

namespace ControlPlane.Teardown

open ControlPlane.FrontDoor
open ControlPlane.Library
open ControlPlane.Store

-----------------------------------------------------------------------------------------
-- What may happen
-----------------------------------------------------------------------------------------

/-- Every hold on the tenant that was opened so far was released so far. -/
def Unheld (history : List HoldEvent) (tenantId : String) : Prop :=
  ∀ opener row, HoldEvent.opened opener row ∈ history → row.tenantId = tenantId →
    ∃ releaser released, HoldEvent.released releaser released ∈ history ∧ released.id = row.id

/-- The row is the hold that its request asks for, under an id that no hold had. -/
structure Opens (platform : HoldPlatform) (before : List HoldEvent) (party : Party HoldRequest)
    (row : HoldRow)
    : Prop where
  asked : ∃ actor body moment hold,
    party.request = .opening row.tenantId actor body moment
    ∧ HoldRequest.readHold platform row.tenantId actor body moment = .ok hold
    ∧ row = hold.stored row.openedAt
  new : ∀ opener old, HoldEvent.opened opener old ∈ before → old.id ≠ row.id

/-- The row is a hold that was opened and not yet released, as a request leaves it that names the
hold, its tenant and a reason.
-/
structure Releases (platform : HoldPlatform) (before : List HoldEvent) (party : Party HoldRequest)
    (row : HoldRow)
    : Prop where
  stood : ∃ opener opening actor body releasedAt,
    HoldEvent.opened opener opening ∈ before
    ∧ party.request = .releasing opening.tenantId opening.id actor body
    ∧ HoldRequest.trimmedField platform "reason" body ≠ ""
    ∧ row = opening.release releasedAt actor (HoldRequest.trimmedField platform "reason" body)
  once : ∀ releaser earlier, HoldEvent.released releaser earlier ∈ before → earlier.id ≠ row.id

/-- An audit row comes after what it reports, under the actor of its party. -/
inductive Reports (before : List HoldEvent) (party : Party HoldRequest) (actor target : String)
    : String → Prop
  | opened (row : HoldRow) (happened : HoldEvent.opened party row ∈ before)
      (isActor : row.openedBy = actor) (isTarget : row.tenantId = target)
      : Reports before party actor target HoldRequest.OPENED
  | released (row : HoldRow) (happened : HoldEvent.released party row ∈ before)
      (isActor : row.releasedBy = some actor) (isTarget : row.tenantId = target)
      : Reports before party actor target HoldRequest.RELEASED

/-- The party has asked before, and at that time the tenant was under no hold. -/
def FoundUnheld (before : List HoldEvent) (party : Party HoldRequest) (tenantId : String) : Prop :=
  ∃ earlier, earlier ++ [.asked party tenantId] <+: before ∧ Unheld earlier tenantId

def Proper (platform : HoldPlatform) (before : List HoldEvent) : HoldEvent → Prop
  | .opened party row => Opens platform before party row
  | .released party row => Releases platform before party row
  | .recorded party actor action target _ => Reports before party actor target action
  | .asked _ _ => True
  | .deleted party tenantId _ => FoundUnheld before party tenantId

/-- What became of a hold: it is as its release left it, or as it was opened if nobody released it. -/
def Standing (history : List HoldEvent) (row : HoldRow) : Prop :=
  (∃ releaser, HoldEvent.released releaser row ∈ history)
  ∨ (∃ opener, HoldEvent.opened opener row ∈ history)
    ∧ ∀ releaser released, HoldEvent.released releaser released ∈ history → released.id ≠ row.id

variable {platform : HoldPlatform} {history grown : List HoldEvent} {db after : HoldDb}
  {party : Party HoldRequest}

/-- All that happened was proper, and the table says what became of each hold. -/
structure HoldDb.Kept (platform : HoldPlatform) (db : HoldDb) : Prop where
  proper : InOrder (Proper platform) db.history
  standing : ∀ row, row ∈ db.holds.rows ↔ Standing db.history row
  single : ∀ opener other row another, HoldEvent.opened opener row ∈ db.history →
    HoldEvent.opened other another ∈ db.history → row.id = another.id → row = another

-----------------------------------------------------------------------------------------
-- Single events
-----------------------------------------------------------------------------------------

/-- A hold that was opened is open. -/
theorem Opens.isOpen {row : HoldRow} (opens : Opens platform history party row)
    : row.releasedAt = none := by
  obtain ⟨actor, body, moment, hold, _, _, isRow⟩ := opens.asked
  rw [isRow]
  rfl

theorem Releases.isReleased {row : HoldRow} (releases : Releases platform history party row)
    : row.releasedAt ≠ none := by
  obtain ⟨opener, opening, actor, body, releasedAt, _, _, _, isRow⟩ := releases.stood
  rw [isRow]
  exact Option.some_ne_none releasedAt

theorem HoldDb.Kept.opens {row : HoldRow} (kept : db.Kept platform)
    (happened : .opened party row ∈ db.history)
    : ∃ before, Opens platform before party row := by
  obtain ⟨before, _, opens⟩ := kept.proper.of_mem happened
  exact ⟨before, opens⟩

theorem HoldDb.Kept.releases {row : HoldRow} (kept : db.Kept platform)
    (happened : .released party row ∈ db.history)
    : ∃ before, Releases platform before party row := by
  obtain ⟨before, _, releases⟩ := kept.proper.of_mem happened
  exact ⟨before, releases⟩

/-- An open row is one that was opened and not released. -/
theorem HoldDb.Kept.opened_of_open {row : HoldRow} (kept : db.Kept platform)
    (isRow : row ∈ db.holds.rows) (isOpen : row.releasedAt = none)
    : (∃ opener, .opened opener row ∈ db.history)
      ∧ ∀ releaser released, .released releaser released ∈ db.history → released.id ≠ row.id := by
  rcases (kept.standing row).mp isRow with ⟨releaser, happened⟩ | opened
  · obtain ⟨_, releases⟩ := kept.releases happened
    exact absurd isOpen releases.isReleased
  · exact opened

/-- A tenant with no open row is under no hold. -/
theorem HoldDb.Kept.unheld {tenantId : String} (kept : db.Kept platform)
    (nothing : db.holds.listPreservationHolds tenantId true = [])
    : Unheld db.history tenantId := by
  intro opener row happened isTenant
  by_contra unreleased
  have isRow : row ∈ db.holds.rows := by
    refine (kept.standing row).mpr (.inr ⟨⟨opener, happened⟩, fun releaser released later same => ?_⟩)
    exact unreleased ⟨releaser, released, later, same⟩
  obtain ⟨_, opens⟩ := kept.opens happened
  have listed : row ∈ db.holds.listPreservationHolds tenantId true := by
    refine (sortBy_perm _ _).mem_iff.mpr (List.mem_filter.mpr ⟨isRow, ?_⟩)
    simp [isTenant, opens.isOpen]
  rw [nothing] at listed
  exact absurd listed List.not_mem_nil

-----------------------------------------------------------------------------------------
-- Statements
-----------------------------------------------------------------------------------------

/-- An event that neither opens nor releases. -/
def HoldEvent.quiet : HoldEvent → Bool
  | .opened .. | .released .. => false
  | _ => true

theorem mem_append_quiet {event other : HoldEvent} (quiet : event.quiet = true)
    (loud : other.quiet = false)
    : other ∈ history ++ [event] ↔ other ∈ history := by
  rw [List.mem_append, List.mem_singleton, or_iff_left]
  intro same
  rw [same, quiet] at loud
  cases loud

theorem HoldDb.Kept.log {event : HoldEvent} (kept : db.Kept platform)
    (quiet : event.quiet = true) (proper : Proper platform db.history event)
    : (db.log event).Kept platform := by
  have opened : ∀ opener row, HoldEvent.opened opener row ∈ db.history ++ [event]
      ↔ .opened opener row ∈ db.history := fun _ _ => mem_append_quiet quiet rfl
  have released : ∀ releaser row, HoldEvent.released releaser row ∈ db.history ++ [event]
      ↔ .released releaser row ∈ db.history := fun _ _ => mem_append_quiet quiet rfl
  refine ⟨kept.proper.append proper, fun row => ?_, ?_⟩
  · simpa only [HoldDb.log, Standing, opened, released] using kept.standing row
  · simpa only [HoldDb.log, opened] using kept.single

/-- An INSERT that goes through. Its id is on no row, so no hold ever had it. -/
theorem HoldDb.Kept.insert {row : HoldRow} {holds : Holds} (kept : db.Kept platform)
    (asked
      : ∃ actor body moment hold, party.request = .opening row.tenantId actor body moment
        ∧ HoldRequest.readHold platform row.tenantId actor body moment = .ok hold
        ∧ row = hold.stored row.openedAt)
    (inserted : db.holds.openPreservationHold row = some holds)
    : (HoldDb.log { db with holds } (.opened party row)).Kept platform := by
  unfold Holds.openPreservationHold at inserted
  split at inserted
  next free =>
    cases inserted
    have unreleased : ∀ releaser released, .released releaser released ∈ db.history →
        released.id ≠ row.id := fun releaser released happened =>
      free released ((kept.standing released).mpr (.inl ⟨releaser, happened⟩))
    have unopened : ∀ opener old, .opened opener old ∈ db.history → old.id ≠ row.id := by
      intro opener old happened same
      refine free old ((kept.standing old).mpr (.inr ⟨⟨opener, happened⟩, ?_⟩)) same
      intro releaser released later isOld
      exact unreleased releaser released later (isOld.trans same)
    have released : ∀ releaser other, HoldEvent.released releaser other
        ∈ db.history ++ [.opened party row] ↔ .released releaser other ∈ db.history := by simp
    have opened : ∀ opener other, HoldEvent.opened opener other
        ∈ db.history ++ [.opened party row]
        ↔ .opened opener other ∈ db.history ∨ opener = party ∧ other = row := by simp
    constructor
    case proper => exact kept.proper.append ⟨asked, unopened⟩
    case standing =>
      intro other
      have isRow : other ∈ (db.holds.insert row free).rows ↔ other ∈ db.holds.rows ∨ other = row := by
        simp [Keyed.insert]
      simp only [HoldDb.log, Standing, released, opened, isRow, kept.standing other]
      constructor
      · intro either
        rcases either with standing | rfl
        · exact standing.imp id fun still => ⟨still.1.imp fun _ => .inl, still.2⟩
        · exact .inr ⟨⟨party, .inr ⟨rfl, rfl⟩⟩, unreleased⟩
      · intro standing
        rcases standing with gone | ⟨⟨opener, earlier | ⟨_, rfl⟩⟩, still⟩
        · exact .inl (.inl gone)
        · exact .inl (.inr ⟨⟨opener, earlier⟩, still⟩)
        · exact .inr rfl
    case single =>
      intro opener other first second
      simp only [HoldDb.log, opened]
      intro isFirst isSecond same
      rcases isFirst with early | ⟨_, rfl⟩
      · rcases isSecond with late | ⟨_, rfl⟩
        · exact kept.single opener other first second early late same
        · exact absurd same (unopened opener first early)
      · rcases isSecond with late | ⟨_, rfl⟩
        · exact absurd same.symm (unopened other second late)
        · rfl
  next => cases inserted

/-- The hold of a row was opened, under its id and for its tenant. -/
theorem HoldDb.Kept.opened_of_row {row : HoldRow} (kept : db.Kept platform)
    (isRow : row ∈ db.holds.rows)
    : ∃ opener opening, .opened opener opening ∈ db.history
        ∧ opening.id = row.id ∧ opening.tenantId = row.tenantId := by
  rcases (kept.standing row).mp isRow with ⟨releaser, happened⟩ | ⟨⟨opener, happened⟩, _⟩
  · obtain ⟨before, upTo, releases⟩ := kept.proper.of_mem happened
    obtain ⟨opener, opening, actor, body, releasedAt, opened, _, _, rfl⟩ := releases.stood
    exact ⟨opener, opening, upTo.subset (List.mem_append_left _ opened), rfl, rfl⟩
  · exact ⟨opener, row, happened, rfl, rfl⟩

/-- A hold that a request finds among the holds of a tenant was opened for this tenant. -/
theorem HoldDb.Kept.opened_of_listed {tenantId holdId : String} (kept : db.Kept platform)
    (isListed
      : ¬ ((db.holds.listPreservationHolds tenantId false).find? fun row =>
          row.id = holdId).isNone = true)
    : ∃ opener opening, .opened opener opening ∈ db.history
        ∧ opening.id = holdId ∧ opening.tenantId = tenantId := by
  rw [Option.isNone_iff_eq_none] at isListed
  obtain ⟨row, found⟩ := Option.ne_none_iff_exists'.mp isListed
  have isId : row.id = holdId := by simpa using List.find?_some found
  have listed := (sortBy_perm _ _).mem_iff.mp (List.mem_of_find?_eq_some found)
  obtain ⟨isRow, matched⟩ := List.mem_filter.mp listed
  obtain ⟨opener, opening, opened, sameId, sameTenant⟩ := kept.opened_of_row isRow
  have ofTenant : row.tenantId = tenantId := by simpa using matched
  exact ⟨opener, opening, opened, sameId.trans isId, sameTenant.trans ofTenant⟩

/-- An UPDATE that releases a hold. It meets the row as it was opened. -/
theorem HoldDb.Kept.release {opener : Party HoldRequest} {opening row : HoldRow}
    {actor reason dbNow : String} {body : Option Json} (kept : db.Kept platform)
    (opened : .opened opener opening ∈ db.history)
    (isRequest : party.request = .releasing opening.tenantId opening.id actor body)
    (isReason : HoldRequest.trimmedField platform "reason" body = reason) (given : reason ≠ "")
    (returned
      : (Holds.releasePreservationHold opening.id actor reason dbNow).returning db.holds = some row)
    : (HoldDb.log
        { db with
          holds := (Holds.releasePreservationHold opening.id actor reason dbNow).apply db.holds }
        (.released party row)).Kept platform
      ∧ row.tenantId = opening.tenantId ∧ row.releasedBy = some actor := by
  obtain ⟨old, found, isOpen, rfl⟩ := Update.returning_eq_some.mp returned
  have isRow := Keyed.get?_mem found
  have isId : old.key = opening.id := Keyed.get?_key found
  obtain ⟨⟨first, happened⟩, unreleased⟩ :=
    kept.opened_of_open isRow (Option.isNone_iff_eq_none.mp isOpen)
  obtain rfl := kept.single first opener old opening happened opened isId
  subst isReason
  let after := old.release dbNow actor (HoldRequest.trimmedField platform "reason" body)
  have released : ∀ releaser other,
      HoldEvent.released releaser other ∈ db.history ++ [.released party after]
        ↔ .released releaser other ∈ db.history ∨ releaser = party ∧ other = after := by simp
  have openings : ∀ opener other,
      HoldEvent.opened opener other ∈ db.history ++ [.released party after]
        ↔ .opened opener other ∈ db.history := by simp
  refine ⟨?_, rfl, rfl⟩
  constructor
  case proper =>
    exact kept.proper.append
      ⟨⟨opener, old, actor, body, dbNow, opened, isRequest, given, rfl⟩, unreleased⟩
  case standing =>
    intro other
    refine (Update.mem_apply_of_match found isOpen other).trans ?_
    change other = after ∨ other ∈ db.holds.rows ∧ other.id ≠ old.id
      ↔ Standing (db.history ++ [.released party after]) other
    simp only [Standing, released, openings, kept.standing other]
    constructor
    · intro either
      rcases either with rfl | ⟨gone | ⟨isOpening, still⟩, apart⟩
      · exact .inl ⟨party, .inr ⟨rfl, rfl⟩⟩
      · exact .inl (gone.imp fun _ => .inl)
      · refine .inr ⟨isOpening, fun releaser later happened => ?_⟩
        rcases happened with earlier | ⟨_, rfl⟩
        · exact still releaser later earlier
        · exact fun same => apart same.symm
    · intro standing
      rcases standing with ⟨releaser, earlier | ⟨_, rfl⟩⟩ | ⟨isOpening, still⟩
      · exact .inr ⟨.inl ⟨releaser, earlier⟩, unreleased releaser other earlier⟩
      · exact .inl rfl
      · refine .inr ⟨.inr ⟨isOpening, fun releaser later earlier =>
          still releaser later (.inl earlier)⟩, fun same => ?_⟩
        exact still party after (.inr ⟨rfl, rfl⟩) same.symm
  case single =>
    intro opener other first second isFirst isSecond
    exact kept.single opener other first second ((openings _ _).mp isFirst)
      ((openings _ _).mp isSecond)

-----------------------------------------------------------------------------------------
-- Programs
-----------------------------------------------------------------------------------------

/-- The history grows, and the table stays true to it. -/
def Goes (platform : HoldPlatform) (before after : HoldDb) : Prop :=
  before.history <+: after.history ∧ after.Kept platform

/-- Each question of the program keeps the table true to the history, if the others do. -/
def Keeping {ρ : Type} (platform : HoldPlatform) (party : Party HoldRequest)
    (program : HoldProgram ρ) (db : HoldDb)
    : Prop :=
  program.Keeps (HoldDb.serve party) Dialogue.Anything (Goes platform) (Goes platform) db

theorem Reports.later {actor target action : String}
    (reports : Reports history party actor target action) (grows : history <+: grown)
    : Reports grown party actor target action := by
  cases reports with
  | opened row happened isActor isTarget =>
      exact .opened row (grows.subset happened) isActor isTarget
  | released row happened isActor isTarget =>
      exact .released row (grows.subset happened) isActor isTarget

theorem keeping_recordAdminAction {actor action target detail : String} {answer : HoldAnswer}
    (reports : Reports db.history party actor target action)
    : Keeping platform party
        (do
          let _ : Unit ← HoldRequest.call (.recordAdminAction actor action target detail)
          return answer)
        db := by
  intro middle input goes _
  exact ⟨⟨List.prefix_append _ _, goes.2.log rfl (reports.later goes.1)⟩, trivial⟩

/-- What a request asks for is what it says, of the tenant and the actor it is given. -/
theorem readHold_eq_ok {tenantId actor : String} {body : Option Json} {moment : HoldMoment}
    {hold : NewHold}
    (isHold : HoldRequest.readHold platform tenantId actor body moment = .ok hold)
    : hold.tenantId = tenantId ∧ hold.openedBy = actor := by
  unfold HoldRequest.readHold at isHold
  simp only at isHold
  split at isHold
  next => cases isHold
  next =>
    split at isHold
    next => cases isHold
    next =>
      cases isHold
      exact ⟨rfl, rfl⟩

/-- The row of an INSERT is what its request asks for. -/
theorem stored_asks {tenantId actor : String} {body : Option Json} {moment : HoldMoment}
    {hold : NewHold} (isRequest : party.request = .opening tenantId actor body moment)
    (isHold : HoldRequest.readHold platform tenantId actor body moment = .ok hold) (dbNow : String)
    : ∃ actor body moment another,
        party.request = .opening (hold.stored dbNow).tenantId actor body moment
        ∧ HoldRequest.readHold platform (hold.stored dbNow).tenantId actor body moment = .ok another
        ∧ hold.stored dbNow = another.stored (hold.stored dbNow).openedAt := by
  have ofTenant : (hold.stored dbNow).tenantId = tenantId := (readHold_eq_ok isHold).1
  rw [ofTenant]
  exact ⟨actor, body, moment, hold, isRequest, isHold, rfl⟩

theorem keeping_openHold {tenantId actor : String} {body : Option Json} {moment : HoldMoment}
    (isRequest : party.request = .opening tenantId actor body moment) (db : HoldDb)
    : Keeping platform party (HoldRequest.openHold platform tenantId actor body moment) db := by
  intro first input goes _
  refine ⟨⟨List.prefix_rfl, goes.2⟩, ?_⟩
  dsimp only [HoldDb.serve]
  cases found : first.tenants.get? tenantId with
  | none => trivial
  | some tenant =>
      obtain rfl : tenant.id = tenantId := Keyed.get?_key found
      dsimp only [Dialogue.andThen]
      split
      next => trivial
      next hold isHold =>
        obtain ⟨ofTenant, ofActor⟩ := readHold_eq_ok isHold
        intro second input goes _
        dsimp only [HoldDb.serve]
        split
        next holds inserted =>
          have kept := goes.2.insert (stored_asks isRequest isHold input.dbNow) inserted
          refine ⟨⟨List.prefix_append _ _, kept⟩, ?_⟩
          intro third input goes _
          refine ⟨⟨List.prefix_rfl, goes.2⟩, ?_⟩
          dsimp only [HoldDb.serve, Dialogue.andThen]
          split
          next => trivial
          next row _ =>
            have happened := goes.1.subset (List.mem_append_right _ (List.mem_singleton_self _))
            exact keeping_recordAdminAction (.opened _ happened ofActor ofTenant)
        next => exact ⟨⟨List.prefix_rfl, goes.2⟩, trivial⟩

theorem keeping_releaseHold {tenantId holdId actor : String} {body : Option Json}
    (isRequest : party.request = .releasing tenantId holdId actor body) (db : HoldDb)
    : Keeping platform party (HoldRequest.releaseHold platform tenantId holdId actor body) db := by
  intro first input goes _
  refine ⟨⟨List.prefix_rfl, goes.2⟩, ?_⟩
  dsimp only [HoldDb.serve]
  cases found : first.tenants.get? tenantId with
  | none => trivial
  | some tenant =>
      obtain rfl : tenant.id = tenantId := Keyed.get?_key found
      dsimp only [Dialogue.andThen]
      split
      next => trivial
      next given =>
        intro second input goes _
        dsimp only [HoldDb.serve]
        split
        next => exact ⟨⟨List.prefix_rfl, goes.2⟩, trivial⟩
        next =>
          refine ⟨⟨List.prefix_append _ _, goes.2.log rfl trivial⟩, ?_⟩
          dsimp only [Dialogue.andThen]
          split
          next => trivial
          next isListed =>
            obtain ⟨opener, opening, opened, rfl, ofTenant⟩ := goes.2.opened_of_listed isListed
            rw [← ofTenant] at isRequest
            intro third input goes _
            have stillOpened := goes.1.subset (List.mem_append_left _ opened)
            dsimp only [HoldDb.serve]
            split
            next row returned =>
              obtain ⟨kept, rowTenant, rowActor⟩ :=
                goes.2.release stillOpened isRequest rfl given returned
              refine ⟨⟨List.prefix_append _ _, kept⟩, ?_⟩
              refine keeping_recordAdminAction (.released row ?_ rowActor (rowTenant.trans ofTenant))
              exact List.mem_append_right _ (List.mem_singleton_self _)
            next => exact ⟨⟨List.prefix_rfl, goes.2⟩, trivial⟩

theorem FoundUnheld.later {tenantId : String} (found : FoundUnheld history party tenantId)
    (grows : history <+: grown)
    : FoundUnheld grown party tenantId := by
  obtain ⟨earlier, upTo, unheld⟩ := found
  exact ⟨earlier, upTo.trans grows, unheld⟩

/-- By induction on the calls. -/
theorem keeping_deletions {tenantId : String} {answer : HoldAnswer} (calls : List TeardownCall)
    (found : FoundUnheld db.history party tenantId)
    : Keeping platform party
        (do
          let _ : Unit ← HoldRequest.deletions tenantId calls
          return answer)
        db := by
  induction calls generalizing db with
  | nil => trivial
  | cons issued later ih =>
      intro middle input goes _
      have stillFound := found.later goes.1
      exact ⟨⟨List.prefix_append _ _, goes.2.log rfl stillFound⟩,
        ih (stillFound.later (List.prefix_append _ _))⟩

/-- A pass that is shown a hold, or cannot see, issues nothing. -/
theorem teardownTenant_calls_of_held {outside : Outside} {namespaces : Namespaces} {tenant : Tenant}
    {opts : TeardownOpts} {store : TenantStore} (held : outside.holds ≠ .ok [])
    : (teardownTenant outside namespaces tenant opts store).calls = [] := by
  rcases teardownTenant_calls outside namespaces tenant opts store with ⟨reaches, _⟩ | ⟨_, nothing⟩
  · exact absurd reaches.1 held
  · exact nothing

theorem keeping_tearDown (outside : Outside) (store : TenantStore) (tenant : Tenant)
    (opts : TeardownOpts) (db : HoldDb)
    : Keeping platform party (HoldRequest.tearDown platform outside store tenant opts) db := by
  intro first input goes _
  dsimp only [HoldDb.serve]
  split
  next thrown _ =>
    refine ⟨⟨List.prefix_rfl, goes.2⟩, ?_⟩
    dsimp only [Dialogue.andThen]
    rw [teardownTenant_calls_of_held]
    · trivial
    · intro same
      cases same
  next =>
    refine ⟨⟨List.prefix_append _ _, goes.2.log rfl trivial⟩, ?_⟩
    dsimp only [Dialogue.andThen]
    cases isOpen : first.holds.listPreservationHolds tenant.id true with
    | nil =>
        exact keeping_deletions _ ⟨first.history, List.prefix_rfl, goes.2.unheld isOpen⟩
    | cons row more =>
        rw [teardownTenant_calls_of_held]
        · trivial
        · intro same
          cases same

-----------------------------------------------------------------------------------------
-- Every run
-----------------------------------------------------------------------------------------

theorem keeping_program (party : Party HoldRequest) (db : HoldDb)
    : Keeping platform party (HoldRequest.program platform party.request) db := by
  obtain ⟨place, request⟩ := party
  cases request with
  | opening tenantId actor body moment => exact keeping_openHold rfl db
  | releasing tenantId holdId actor body => exact keeping_releaseHold rfl db
  | teardown outside store tenant opts => exact keeping_tearDown outside store tenant opts db

/-- What becomes of the rows of the tenants is nothing to the holds. -/
theorem goes_of_change {tenants : Tenants} (kept : db.Kept platform)
    (changed : (holdRules platform).change db tenants = some after)
    : Goes platform db after := by
  cases changed
  exact ⟨List.prefix_rfl, ⟨kept.proper, kept.standing, kept.single⟩⟩

/-- What openings, releases and teardowns keep to, side by side. -/
def holdDiscipline (platform : HoldPlatform) : Discipline (holdRules platform) where
  Kept := HoldDb.Kept platform
  Moves before after := before.history <+: after.history
  refl _ := List.prefix_rfl
  trans := List.IsPrefix.trans
  keeps := keeping_program
  other := goes_of_change

theorem HoldDb.kept_empty : HoldDb.empty.Kept platform := by
  refine ⟨inOrder_nil, fun row => ?_, ?_⟩
  · simp [HoldDb.empty, Standing, Keyed.empty]
  · simp [HoldDb.empty]

/-- A hold that was not released since it was opened had not been opened when the party asked. -/
theorem asked_of_foundUnheld {before later : List HoldEvent} {opener : Party HoldRequest}
    {row : HoldRow} (proper : InOrder (Proper platform) history)
    (upTo : before ++ .opened opener row :: later <+: history)
    (found : FoundUnheld (before ++ .opened opener row :: later) party row.tenantId)
    (unreleased
      : ∀ releaser released, .released releaser released ∈ later → released.id ≠ row.id)
    : .asked party row.tenantId ∈ before := by
  obtain ⟨earlier, isEarlier, unheld⟩ := found
  have isOpening : before ++ [.opened opener row] <+: before ++ .opened opener row :: later :=
    ⟨later, by simp⟩
  rcases List.prefix_or_prefix_of_prefix isEarlier isOpening with first | first
  · rcases List.prefix_concat_iff.mp first with whole | isBefore
    · cases (List.append_inj' whole rfl).2
    · exact isBefore.subset (List.mem_append_right _ (List.mem_singleton_self _))
  · rcases List.prefix_concat_iff.mp first with whole | isBefore
    · cases (List.append_inj' whole rfl).2
    · exfalso
      have opened : HoldEvent.opened opener row ∈ earlier :=
        isBefore.subset (List.mem_append_right _ (List.mem_singleton_self _))
      obtain ⟨releaser, released, happened, same⟩ := unheld opener row opened rfl
      have inAll := isEarlier.subset (List.mem_append_left _ happened)
      rcases List.mem_append.mp inAll with inBefore | since
      · -- a release before the opening would be of another hold under the same id
        have isNew : Opens platform before opener row := proper _ _ (isOpening.trans upTo)
        have ofBefore : InOrder (Proper platform) before := fun front event isFront =>
          proper front event (isFront.trans ((List.prefix_append _ _).trans upTo))
        obtain ⟨front, isFront, releases⟩ := ofBefore.of_mem inBefore
        obtain ⟨other, opening, _, _, _, isOld, _, _, rfl⟩ := releases.stood
        exact isNew.new other opening (isFront.subset (List.mem_append_left _ isOld)) same
      · rcases List.mem_cons.mp since with isOpened | isLater
        · cases isOpened
        · exact unreleased releaser released isLater same

/-- In every run: a teardown deletes only if at its read every hold that had been opened on its tenant
was released; each release is the only one of its hold, by a request that names the
hold, its tenant and a reason; audit rows come after what they report; and the table says what became
of each hold.
-/
theorem held_tenants_are_kept (platform : HoldPlatform)
    {actions : List (PoolAction HoldRequest HoldInput Tenants)}
    {pool : Pool HoldCall HoldCall.Answer HoldAnswer HoldRequest HoldDb}
    (reached : exec (Pool.step (holdRules platform)) (.begin .empty) actions = some pool)
    : InOrder (Proper platform) pool.state.history
      ∧ (∀ row, row ∈ pool.state.holds.rows ↔ Standing pool.state.history row)
      ∧ ∀ before opener row later party call,
          before ++ .opened opener row :: later ++ [.deleted party row.tenantId call]
            <+: pool.state.history →
          (∀ releaser released, .released releaser released ∈ later → released.id ≠ row.id) →
          .asked party row.tenantId ∈ before := by
  have kept : (holdDiscipline platform).Kept pool.state :=
    Discipline.kept_of_run HoldDb.kept_empty reached
  refine ⟨kept.proper, kept.standing, ?_⟩
  intro before opener row later party call upTo unreleased
  have found : FoundUnheld (before ++ .opened opener row :: later) party row.tenantId :=
    kept.proper _ _ upTo
  exact asked_of_foundUnheld kept.proper (List.IsPrefix.trans (List.prefix_append _ _) upTo) found
    unreleased

-----------------------------------------------------------------------------------------
-- A tenant that is reported
-----------------------------------------------------------------------------------------

def plainHolds : HoldPlatform where
  asText _ := ""
  namespaces := tenantNamespaces

def noTime : HoldInput where
  dbNow := "2026-08-01 12:00:00"
  fault := none

def reporting (text : String) : Option Json :=
  some (.object [("kind", .str "internal"), ("reason", .str text)])

/-- A tenant and its teardown, which deletes its worker first. -/
def reportedTeardown : HoldRequest :=
  .teardown calm (renamed none) (successor none) { deleteData := false }

/-- A hold is opened, released, and then the tenant is torn down. -/
def reportedRun : List (PoolAction HoldRequest HoldInput Tenants) :=
  [.other (renamed none).tenants,
    .start (.opening "ten_new" "operator:joan" (reporting "report 7") ⟨0, "hold_1"⟩),
    .ask 0 noTime, .ask 0 noTime, .ask 0 noTime, .ask 0 noTime,
    .start (.releasing "ten_new" "hold_1" "operator:ann" (reporting "closed")),
    .ask 1 noTime, .ask 1 noTime, .ask 1 noTime, .ask 1 noTime,
    .start reportedTeardown, .ask 2 noTime, .ask 2 noTime]

/-- Its worker is deleted, as the hold was released when the teardown asked. -/
theorem reported_is_cleared
    : ∃ pool, exec (Pool.step (holdRules plainHolds)) (.begin .empty) reportedRun = some pool
        ∧ pool.state.history.length = 7 ∧ InOrder (Proper plainHolds) pool.state.history := by
  have happens
      : (exec (Pool.step (holdRules plainHolds)) (.begin .empty) reportedRun).map (fun pool =>
          pool.state.history.length) = some 7 := by decide +kernel
  obtain ⟨pool, reached, isLong⟩ := Option.map_eq_some_iff.mp happens
  exact ⟨pool, reached, isLong, (held_tenants_are_kept plainHolds reached).1⟩

/-- The read is not taken back: a hold that is opened after it comes too late for the pass. -/
example
    : (exec (Pool.step (holdRules plainHolds)) (.begin .empty)
        [.other (renamed none).tenants, .start reportedTeardown, .ask 0 noTime,
          .start (.opening "ten_new" "operator:joan" (reporting "report 7") ⟨0, "hold_1"⟩),
          .ask 1 noTime, .ask 1 noTime, .ask 0 noTime]).map (fun pool =>
            pool.state.history.map fun event =>
              match event with
              | .opened .. => "opened"
              | .asked .. => "asked"
              | .deleted .. => "deleted"
              | _ => "other")
      = some ["asked", "opened", "deleted"] := by decide +kernel

end ControlPlane.Teardown
