import ControlPlane.Onboarding.Requests

/-! Whether an account ends up with more than one studio. Looking for a studio of the account and
inserting its row are two store calls, and only the slug has a constraint in the database.
-/

namespace ControlPlane.Onboarding

open ControlPlane.Library
open ControlPlane.Store

/-- What a tenant row takes: a slug for good, and a place of its account until it is deleted. -/
structure Seat where
  tenantId : String
  accountId : String
  slug : String
  gone : Bool
  deriving DecidableEq, Repr

/-- An account has at most one seat that is not gone, and no two seats have one slug. -/
structure OnePerAccount (seats : List Seat) : Prop where
  accounts : ∀ accountId, seats.countP (fun seat => seat.accountId = accountId ∧ ¬seat.gone) ≤ 1
  slugs : (seats.map Seat.slug).Nodup

/-- A seat whose slug is free, for an account that had none among the first seats, is the only one
of its account exactly when none of the later seats, which are not gone, is the account's.
-/
theorem onePerAccount_append {seats : List Seat} {taken : Seat} {seen : Nat}
    (one : OnePerAccount seats) (unused : ∀ seat ∈ seats, seat.slug ≠ taken.slug)
    (none_before : ∀ seat ∈ seats.take seen, seat.accountId = taken.accountId → seat.gone = true)
    (kept_since : ∀ seat ∈ seats.drop seen, seat.gone = false) (present : taken.gone = false)
    : OnePerAccount (seats ++ [taken])
      ↔ ∀ seat ∈ seats.drop seen, seat.accountId ≠ taken.accountId := by
  have before : (seats.take seen).countP
      (fun seat => seat.accountId = taken.accountId ∧ ¬seat.gone) = 0 := by
    refine List.countP_eq_zero.mpr fun seat member => ?_
    simpa using none_before seat member
  have since : seats.countP (fun seat => seat.accountId = taken.accountId ∧ ¬seat.gone)
      = (seats.drop seen).countP
          (fun seat => seat.accountId = taken.accountId ∧ ¬seat.gone) := by
    conv_lhs => rw [← List.take_append_drop seen seats]
    rw [List.countP_append, before, Nat.zero_add]
  have slugs : ((seats ++ [taken]).map Seat.slug).Nodup := by
    refine List.map_append .. ▸ nodup_append_singleton one.slugs fun seat member => ?_
    exact unused seat member
  constructor
  · intro after seat member same
    have alone := after.accounts taken.accountId
    rw [List.countP_append, since] at alone
    have another : 0 < (seats.drop seen).countP
        (fun seat => seat.accountId = taken.accountId ∧ ¬seat.gone) :=
      List.countP_pos_iff.mpr ⟨seat, member, by simp [same, kept_since seat member]⟩
    have own : [taken].countP (fun seat => seat.accountId = taken.accountId ∧ ¬seat.gone) = 1 := by
      simp [present]
    omega
  · intro apart
    refine ⟨fun accountId => ?_, slugs⟩
    rw [List.countP_append]
    by_cases same : taken.accountId = accountId
    · subst same
      have none_since : (seats.drop seen).countP
          (fun seat => seat.accountId = taken.accountId ∧ ¬seat.gone) = 0 := by
        refine List.countP_eq_zero.mpr fun seat member => ?_
        simp [apart seat member]
      have own : [taken].countP (fun seat => seat.accountId = taken.accountId ∧ ¬seat.gone) ≤ 1 :=
        List.countP_le_length
      omega
    · have others : [taken].countP (fun seat => seat.accountId = accountId ∧ ¬seat.gone) = 0 := by
        simp [same]
      have alone := one.accounts accountId
      omega

/-- The seat of a tenant row. -/
def seatOf (row : Tenant) : Seat where
  tenantId := row.id
  accountId := row.accountId
  slug := row.slug
  gone := row.status = .deleted

def FrontDoor.seats (state : FrontDoor) : List Seat :=
  state.tenants.rows.map seatOf

/-- Every account has at most one tenant row that is not deleted, and no slug is on two rows. -/
def OneStudio (state : FrontDoor) : Prop :=
  (∀ accountId,
    state.tenants.rows.countP (fun row => row.accountId = accountId ∧ row.status ≠ .deleted) ≤ 1)
  ∧ (state.tenants.rows.map Tenant.slug).Nodup

theorem oneStudio_seats {state : FrontDoor} : OneStudio state ↔ OnePerAccount state.seats := by
  have counts : ∀ accountId, state.seats.countP (fun seat => seat.accountId = accountId ∧ ¬seat.gone)
      = state.tenants.rows.countP
          (fun row => row.accountId = accountId ∧ row.status ≠ .deleted) := by
    intro accountId
    rw [FrontDoor.seats, List.countP_map]
    refine List.countP_congr fun row _ => ?_
    refine (decide_eq_true_iff.trans ?_).trans decide_eq_true_iff.symm
    simp [seatOf]
  have slugs : state.seats.map Seat.slug = state.tenants.rows.map Tenant.slug := by
    rw [FrontDoor.seats, List.map_map]
    rfl
  constructor
  · intro h
    obtain ⟨accounts, unique⟩ := h
    exact ⟨fun accountId => counts accountId ▸ accounts accountId, slugs ▸ unique⟩
  · intro h
    obtain ⟨accounts, unique⟩ := h
    exact ⟨fun accountId => counts accountId ▸ accounts accountId, slugs ▸ unique⟩

-----------------------------------------------------------------------------------------
-- What one call does to the seats
-----------------------------------------------------------------------------------------

/-- A statement that keeps the seat of the row it sets keeps all seats. -/
theorem seats_apply {tenants : Tenants} {update : Update Tenant.id}
    (keeps
      : ∀ row ∈ tenants.rows, row.id = update.target → update.guard row = true
        → seatOf (update.set row) = seatOf row)
    : (update.apply tenants).rows.map seatOf = tenants.rows.map seatOf := by
  change (tenants.rows.map update.onRow).map seatOf = tenants.rows.map seatOf
  rw [List.map_map]
  refine List.map_congr_left fun row member => ?_
  by_cases met : row.id = update.target ∧ update.guard row = true
  · exact (congrArg seatOf (Update.onRow_of_match met.1 met.2)).trans
      (keeps row member met.1 met.2)
  · exact congrArg seatOf (Update.onRow_of_not met)

theorem seats_claimReclaim (now : Nat) (jobs : Jobs) (tenantId accountId token : String)
    (leaseSeconds : Nat) (tenants : Tenants)
    : ((claimReclaim now jobs tenantId accountId leaseSeconds token).apply tenants).rows.map seatOf
      = tenants.rows.map seatOf :=
  seats_apply fun _ _ _ _ => rfl

/-- A row that is reclaimed was not deleted, and is not deleted after. -/
theorem seats_reclaimSlug (now : Nat) (jobs : Jobs) (tenantId accountId token : String)
    (tenants : Tenants)
    : ((reclaimSlug now jobs tenantId accountId token).apply tenants).rows.map seatOf
      = tenants.rows.map seatOf := by
  refine seats_apply fun row _ _ met => ?_
  simp only [reclaimSlug, decide_eq_true_eq] at met
  have present : row.status ≠ .deleted := by
    intro deleted
    have tierA := met.2.2.2.2.1
    rw [deleted] at tierA
    exact absurd tierA (by decide)
  simp [seatOf, reclaimSlug, present]

theorem seats_blankResource (tenantId : String) (kind : ResourceKind) (tenants : Tenants)
    : ((blankResource tenantId kind).apply tenants).rows.map seatOf = tenants.rows.map seatOf := by
  refine seats_apply fun row _ _ _ => ?_
  cases kind <;> rfl

/-- The rows of a tenant are not deleted. -/
def Present (seats : List Seat) (tenantId : String) : Prop :=
  ∀ seat ∈ seats, seat.tenantId = tenantId → seat.gone = false

theorem seats_setTenantStatus {now : Nat} {tenantId : String} {status : TenantLifecycle}
    {tenants : Tenants} (present : Present (tenants.rows.map seatOf) tenantId)
    (alive : status ≠ .deleted)
    : ((setTenantStatus now tenantId status).apply tenants).rows.map seatOf
      = tenants.rows.map seatOf := by
  refine seats_apply fun row member same _ => ?_
  have kept : row.status ≠ .deleted := by
    simpa [seatOf] using present (seatOf row) (List.mem_map_of_mem member) same
  simp [seatOf, setTenantStatus, alive, kept]

-----------------------------------------------------------------------------------------
-- What a request has found
-----------------------------------------------------------------------------------------

/-- A request has looked for a studio of its account and found none. -/
def Request.looked : Request → Bool
  | { place := .creating, .. } => true
  | { route := .operator, place := .findingSlug, .. } => true
  | { route := .operator, place := .findingLease _, .. } => true
  | _ => false

/-- What a request has found is still so: of the seats it has seen none is its account's, and the
later ones are not gone. A row that waits for its job is not deleted.
-/
structure Request.Fits (seats : List Seat) (request : Request) : Prop where
  seen
    : request.looked = true → request.seen ≤ seats.length
        ∧ (∀ seat ∈ seats.take request.seen, seat.accountId = request.accountId
          → seat.gone = true)
        ∧ ∀ seat ∈ seats.drop request.seen, seat.gone = false
  waiting : ∀ tenantId, request.place = .queueing tenantId → Present seats tenantId

/-- All requests fit the seats, and what was started is not deleted. -/
structure Sound (state : FrontDoor) : Prop where
  requests : ∀ id request, state.requests id = some request → request.Fits state.seats
  started : ∀ tenantId ∈ state.started, Present state.seats tenantId

theorem Present.append {seats : List Seat} {taken : Seat} {tenantId : String}
    (present : Present seats tenantId) (alive : taken.gone = false)
    : Present (seats ++ [taken]) tenantId := by
  intro seat member same
  rcases List.mem_append.mp member with earlier | new
  · exact present seat earlier same
  · cases List.mem_singleton.mp new
    exact alive

/-- One more seat changes nothing of what a request has found. -/
theorem Request.Fits.append {seats : List Seat} {taken : Seat} {request : Request}
    (fits : request.Fits seats) (alive : taken.gone = false)
    : request.Fits (seats ++ [taken]) := by
  refine ⟨fun looked => ?_, fun tenantId at_ => (fits.waiting tenantId at_).append alive⟩
  obtain ⟨within, before, since⟩ := fits.seen looked
  refine ⟨?_, ?_, ?_⟩
  · rw [List.length_append]
    omega
  · rw [List.take_append_of_le_length within]
    exact before
  · rw [List.drop_append_of_le_length within]
    intro seat member
    rcases List.mem_append.mp member with earlier | new
    · exact since seat earlier
    · cases List.mem_singleton.mp new
      exact alive

/-- A request that has not looked yet, and waits for no job, fits any seats. -/
theorem Request.fits_of_blank {seats : List Seat} {request : Request}
    (blank : request.looked = false) (idle : ∀ tenantId, request.place ≠ .queueing tenantId)
    : request.Fits seats :=
  ⟨fun looked => by simp [blank] at looked, fun tenantId at_ => absurd at_ (idle tenantId)⟩

/-- Moving one request keeps the rest sound. -/
theorem Sound.setRequest {state : FrontDoor} (sound : Sound state) (id : String)
    {request : Option Request} (fits : ∀ next, request = some next → next.Fits state.seats)
    : Sound (state.setRequest id request) := by
  refine ⟨fun other found held => ?_, sound.started⟩
  rcases held_update_cases held with moved | kept
  · exact fits found moved
  · exact sound.requests other found kept

theorem Sound.congr {state next : FrontDoor} (sound : Sound state)
    (seats : next.seats = state.seats) (requests : next.requests = state.requests)
    (started : next.started = state.started)
    : Sound next := by
  refine ⟨fun id request held => ?_, fun tenantId member => ?_⟩
  · rw [seats]
    exact sound.requests id request (requests ▸ held)
  · rw [seats]
    exact sound.started tenantId (started ▸ member)

/-- A refusal has found nothing and waits for nothing. -/
theorem fits_refused {seats : List Seat} {request : Request}
    : ∀ next, request.refused = some next → next.Fits seats := by
  intro next moved
  obtain ⟨route, slug, accountId, seen, place⟩ := request
  cases route with
  | owner => cases moved
  | operator =>
      cases moved
      exact Request.fits_of_blank rfl fun _ => nofun

/-- What an operator's request has found, it has found when it comes to create a tenant. -/
theorem fits_afterSlug {seats : List Seat} {request : Request} (fits : request.Fits seats)
    (looked : request.route = .operator → request.looked = true) (reclaim : Option String)
    : ∀ next, request.afterSlug reclaim = some next → next.Fits seats := by
  intro next moved
  obtain ⟨route, slug, accountId, seen, place⟩ := request
  cases route with
  | owner =>
      cases reclaim with
      | none =>
          cases moved
          exact Request.fits_of_blank rfl fun _ => nofun
      | some tenantId =>
          cases moved
          exact Request.fits_of_blank rfl fun _ => nofun
  | operator =>
      cases moved
      exact ⟨fun _ => fits.seen (looked rfl), fun _ => nofun⟩

/-- The seat a request is about to take. -/
def Request.seat (request : Request) (minted : String) : Seat where
  tenantId := minted
  accountId := request.accountId
  slug := request.slug
  gone := false

/-- An insert that lands adds one seat; any other call leaves the seats as they were. -/
theorem FrontDoor.seats_call (state : FrontDoor) (id minted : String) (request : Request)
    : (state.call id minted request).seats
      = if request.place = .creating
            ∧ (createTenant state.now state.tenants minted request.slug request.accountId
                .pending).isSome then
          state.seats ++ [request.seat minted]
        else state.seats := by
  obtain ⟨route, slug, accountId, seen, place⟩ := request
  cases place with
  | auditing => rfl
  | upserting => rfl
  | findingAccount =>
      simp only [FrontDoor.call]
      split <;> rfl
  | findingSlug =>
      simp only [FrontDoor.call]
      split <;> rfl
  | findingLease tenantId =>
      simp only [FrontDoor.call]
      split <;> rfl
  | claiming tenantId =>
      simp only [FrontDoor.call]
      split
      · rfl
      · exact seats_claimReclaim ..
  | intending tenantId token => rfl
  | reaping tenantId token => rfl
  | rereading tenantId token ok => rfl
  | reporting tenantId token ok => rfl
  | reclaiming tenantId token =>
      simp only [FrontDoor.call]
      split
      · rfl
      · exact seats_reclaimSlug ..
  | creating =>
      simp only [FrontDoor.call, true_and]
      cases created : createTenant state.now state.tenants minted slug accountId .pending with
      | none => rfl
      | some tenants =>
          obtain ⟨-, -, rows⟩ := createTenant_eq_some created
          change tenants.rows.map seatOf = _
          rw [rows, List.map_append]
          rfl
  | queueing tenantId =>
      simp only [FrontDoor.call]
      split <;> rfl
  | completing => rfl
  | refusing => rfl

/-- A row that was just reclaimed is not deleted. -/
theorem present_reclaimed {now : Nat} {jobs : Jobs} {tenantId accountId token : String}
    {tenants : Tenants} {row : Tenant}
    (returned : (reclaimSlug now jobs tenantId accountId token).returning tenants = some row)
    : Present (tenants.rows.map seatOf) tenantId := by
  obtain ⟨old, found, met, -⟩ := Update.returning_eq_some.mp returned
  simp only [reclaimSlug, decide_eq_true_eq] at met
  intro seat member same
  obtain ⟨other, inRows, rfl⟩ := List.mem_map.mp member
  have alike : other = old := by
    refine Keyed.eq_of_key inRows (Keyed.get?_mem found) ?_
    exact same.trans (Keyed.get?_key found).symm
  have present : old.status ≠ .deleted := by
    intro deleted
    have tierA := met.2.2.2.2.1
    rw [deleted] at tierA
    exact absurd tierA (by decide)
  simp [seatOf, alike, present]

/-- Each call keeps what the requests have found, by cases on the place of the one that makes it. -/
theorem Sound.call {state : FrontDoor} (sound : Sound state) {id : String} (minted : String)
    {request : Request} (held : state.requests id = some request)
    : Sound (state.call id minted request) := by
  have fits := sound.requests id request held
  obtain ⟨route, slug, accountId, seen, place⟩ := request
  cases place with
  | auditing =>
      refine sound.setRequest id ?_
      intro next h
      obtain ⟨⟩ := h
      cases route <;> exact Request.fits_of_blank rfl fun _ => nofun
  | upserting => exact sound
  | findingAccount =>
      simp only [FrontDoor.call]
      split
      next => exact sound.setRequest id fits_refused
      next nothing =>
        have gone := getTenantForAccount_eq_none.mp nothing
        refine sound.setRequest id ?_
        intro next h
        obtain ⟨⟩ := h
        refine ⟨fun _ => ⟨?_, ?_, ?_⟩, fun tenantId at_ => by cases route <;> cases at_⟩
        · exact (List.length_map ..).ge
        · intro seat member same
          obtain ⟨row, inRows, rfl⟩ := List.mem_map.mp (List.mem_of_mem_take member)
          simpa [seatOf] using gone row inRows same
        · intro seat member
          have past : state.seats.drop state.tenants.rows.length = [] :=
            List.drop_eq_nil_of_le (List.length_map ..).le
          rw [past] at member
          exact absurd member List.not_mem_nil
  | findingSlug =>
      simp only [FrontDoor.call]
      split
      next => exact sound.setRequest id fits_refused
      next =>
        refine sound.setRequest id (fits_afterSlug fits ?_ none)
        intro h
        obtain ⟨⟩ := h
        rfl
      next reclaim =>
        refine sound.setRequest id ?_
        intro next h
        obtain ⟨⟩ := h
        cases route with
        | owner => exact Request.fits_of_blank rfl fun _ => nofun
        | operator => exact ⟨fun _ => fits.seen rfl, fun _ => nofun⟩
  | findingLease tenantId =>
      simp only [FrontDoor.call]
      split
      next => exact sound.setRequest id fits_refused
      next =>
        refine sound.setRequest id (fits_afterSlug fits ?_ (some tenantId))
        intro h
        obtain ⟨⟩ := h
        rfl
  | claiming tenantId =>
      simp only [FrontDoor.call]
      split
      next => exact sound.setRequest id nofun
      next =>
        have claimed : Sound
            { state with
              tenants :=
                (claimReclaim state.now state.jobs tenantId accountId reclaimLeaseSeconds
                  minted).apply state.tenants } :=
          sound.congr (seats_claimReclaim ..) rfl rfl
        refine claimed.setRequest id ?_
        intro next h
        obtain ⟨⟩ := h
        cases route <;> exact Request.fits_of_blank rfl fun _ => nofun
  | intending tenantId token =>
      refine sound.setRequest id ?_
      intro next h
      obtain ⟨⟩ := h
      cases route <;> exact Request.fits_of_blank rfl fun _ => nofun
  | reaping tenantId token => exact sound
  | rereading tenantId token ok =>
      refine sound.setRequest id ?_
      intro next h
      obtain ⟨⟩ := h
      cases route <;> exact Request.fits_of_blank rfl fun _ => nofun
  | reporting tenantId token ok =>
      refine sound.setRequest id fun next moved => ?_
      cases ok with
      | false => cases moved
      | true =>
          cases moved
          cases route <;> exact Request.fits_of_blank rfl fun _ => nofun
  | reclaiming tenantId token =>
      simp only [FrontDoor.call]
      split
      next => exact sound.setRequest id nofun
      next row returned =>
        have same := seats_reclaimSlug state.now state.jobs tenantId accountId token state.tenants
        have reclaimed : Sound
            { state with
              tenants :=
                (reclaimSlug state.now state.jobs tenantId accountId token).apply
                  state.tenants } :=
          sound.congr same rfl rfl
        refine reclaimed.setRequest id ?_
        intro next h
        obtain ⟨⟩ := h
        refine ⟨fun looked => ?_, ?_⟩
        · cases route <;> cases looked
        · intro other h
          obtain ⟨⟩ := h
          change Present (List.map seatOf _) tenantId
          rw [same]
          exact present_reclaimed returned
  | creating =>
      simp only [FrontDoor.call]
      split
      next => exact sound.setRequest id nofun
      next tenants created =>
        obtain ⟨newId, -, rows⟩ := createTenant_eq_some created
        have seats : ({ state with tenants := tenants } : FrontDoor).seats
            = state.seats
              ++ [{ tenantId := minted, accountId := accountId, slug := slug, gone := false }] := by
          rw [FrontDoor.seats, rows, List.map_append]
          rfl
        have grown : Sound { state with tenants := tenants } := by
          refine ⟨fun other found kept => ?_, fun tenantId member => ?_⟩
          · exact seats ▸ (sound.requests other found kept).append rfl
          · exact seats ▸ (sound.started tenantId member).append rfl
        refine grown.setRequest id ?_
        intro next h
        obtain ⟨⟩ := h
        refine ⟨fun looked => ?_, ?_⟩
        · cases route <;> cases looked
        · intro other h
          obtain ⟨⟩ := h
          -- no older row has the minted id
          intro seat member same
          replace member := seats ▸ member
          rcases List.mem_append.mp member with earlier | new
          · obtain ⟨row, inRows, rfl⟩ := List.mem_map.mp earlier
            exact absurd same (newId row inRows)
          · cases List.mem_singleton.mp new
            rfl
  | queueing tenantId =>
      simp only [FrontDoor.call]
      split
      next => exact sound.setRequest id nofun
      next jobs _ =>
        have startedOne : Sound
            { state with
              jobs := jobs
              started := tenantId :: state.started } := by
          refine ⟨sound.requests, fun other member => ?_⟩
          rcases List.mem_cons.mp member with rfl | earlier
          · exact fits.waiting other rfl
          · exact sound.started other earlier
        refine startedOne.setRequest id fun next moved => ?_
        cases route with
        | owner => cases moved
        | operator =>
            cases moved
            exact Request.fits_of_blank rfl fun _ => nofun
  | completing => exact sound.setRequest id nofun
  | refusing => exact sound.setRequest id nofun

theorem sound_step {state next : FrontDoor} {action : FrontDoorAction} (sound : Sound state)
    (taken : state.step action = some next)
    : Sound next := by
  cases action with
  | tick ms =>
      cases taken
      exact sound.congr rfl rfl rfl
  | provision id slug accountId =>
      obtain ⟨-, same⟩ := Option.ite_none_right_eq_some.mp taken
      cases same
      refine sound.setRequest id ?_
      intro request h
      obtain ⟨⟩ := h
      exact Request.fits_of_blank rfl fun _ => nofun
  | operatorProvision id slug =>
      obtain ⟨-, same⟩ := Option.ite_none_right_eq_some.mp taken
      cases same
      refine sound.setRequest id ?_
      intro request h
      obtain ⟨⟩ := h
      exact Request.fits_of_blank rfl fun _ => nofun
  | upserted id account =>
      simp only [FrontDoor.step] at taken
      split at taken
      next request held =>
        obtain ⟨-, same⟩ := Option.ite_none_right_eq_some.mp taken
        cases same
        cases account with
        | none => exact sound.setRequest id fits_refused
        | some accountId =>
            refine sound.setRequest id ?_
            intro moved h
            obtain ⟨⟩ := h
            cases route : request.route <;> exact Request.fits_of_blank rfl fun _ => nofun
      next => cases taken
  | call id minted =>
      obtain ⟨request, held, rfl⟩ := Option.map_eq_some_iff.mp taken
      exact sound.call minted held
  | clear id kind =>
      simp only [FrontDoor.step] at taken
      split at taken
      · cases taken
        exact sound.congr (seats_blankResource ..) rfl rfl
      · cases taken
  | reaped id ok =>
      simp only [FrontDoor.step] at taken
      split at taken
      next request held =>
        split at taken
        · cases taken
          refine sound.setRequest id ?_
          intro moved h
          obtain ⟨⟩ := h
          cases route : request.route <;> exact Request.fits_of_blank rfl fun _ => nofun
        · cases taken
      next => cases taken
  | drop id =>
      cases taken
      exact sound.setRequest id nofun
  | driverStatus tenantId status =>
      obtain ⟨⟨member, alive⟩, same⟩ := Option.ite_none_right_eq_some.mp taken
      cases same
      exact sound.congr (seats_setTenantStatus (sound.started tenantId member) alive) rfl rfl
  | driverJob call =>
      cases taken
      exact sound.congr rfl rfl rfl

/-- Only an insert that lands changes the seats. -/
theorem seats_step {state next : FrontDoor} {action : FrontDoorAction} (sound : Sound state)
    (taken : state.step action = some next) (calls : ∀ id minted, action ≠ .call id minted)
    : next.seats = state.seats := by
  cases action with
  | tick ms =>
      cases taken
      rfl
  | provision id slug accountId =>
      obtain ⟨-, same⟩ := Option.ite_none_right_eq_some.mp taken
      cases same
      rfl
  | operatorProvision id slug =>
      obtain ⟨-, same⟩ := Option.ite_none_right_eq_some.mp taken
      cases same
      rfl
  | upserted id account =>
      simp only [FrontDoor.step] at taken
      split at taken
      · obtain ⟨-, same⟩ := Option.ite_none_right_eq_some.mp taken
        cases same
        rfl
      · cases taken
  | call id minted => exact absurd rfl (calls id minted)
  | clear id kind =>
      simp only [FrontDoor.step] at taken
      split at taken
      · cases taken
        exact seats_blankResource ..
      · cases taken
  | reaped id ok =>
      simp only [FrontDoor.step] at taken
      split at taken
      · split at taken
        · cases taken
          rfl
        · cases taken
      · cases taken
  | drop id =>
      cases taken
      rfl
  | driverStatus tenantId status =>
      obtain ⟨⟨member, alive⟩, same⟩ := Option.ite_none_right_eq_some.mp taken
      cases same
      exact seats_setTenantStatus (sound.started tenantId member) alive
  | driverJob call =>
      cases taken
      rfl

-----------------------------------------------------------------------------------------
-- When every account has one studio
-----------------------------------------------------------------------------------------

/-- An insert that will land finds that no row of its account was inserted since the request looked
for one.
-/
def Unraced (state : FrontDoor) : FrontDoorAction → Prop
  | .call id minted =>
      ∀ request, state.requests id = some request → request.place = .creating
        → (∀ row ∈ state.tenants.rows, row.id ≠ minted ∧ row.slug ≠ request.slug)
        → ∀ row ∈ state.tenants.rows.drop request.seen, row.accountId ≠ request.accountId
  | _ => True

/-- The insert lands exactly when neither its id nor its slug is taken. -/
theorem isSome_createTenant {now : Nat} {tenants : Tenants} {id slug accountId : String}
    {status : TenantLifecycle}
    : (createTenant now tenants id slug accountId status).isSome = true
      ↔ ∀ row ∈ tenants.rows, row.id ≠ id ∧ row.slug ≠ slug := by
  rw [createTenant]
  split
  next free =>
    split
    next unused => exact iff_of_true rfl fun row member => ⟨free row member, unused row member⟩
    next used => exact 
      iff_of_false Bool.false_ne_true fun both => used fun row member => (both row member).2
  next bound => exact 
    iff_of_false Bool.false_ne_true fun both => bound fun row member => (both row member).1

/-- From a store where every account has one studio, it stays so exactly when no insert of a request
comes after another one for the same account that landed since the request looked.
-/
theorem oneStudio_iff {nowMs : Nat} {release : String} {tenants : Tenants} {jobs : Jobs}
    (one : OneStudio (.idle nowMs release tenants jobs)) (run : List FrontDoorAction)
    : Everywhere FrontDoor.step OneStudio (.idle nowMs release tenants jobs) run
      ↔ Throughout FrontDoor.step Unraced (.idle nowMs release tenants jobs) run := by
  have exact_step : ∀ state action next, Sound state → True → OneStudio state
      → FrontDoor.step state action = some next → (OneStudio next ↔ Unraced state action) := by
    intro state action next sound _ one taken
    rw [oneStudio_seats] at one ⊢
    cases action with
    | call id minted =>
        obtain ⟨request, held, rfl⟩ := Option.map_eq_some_iff.mp taken
        have fits := sound.requests id request held
        rw [FrontDoor.seats_call]
        by_cases lands : request.place = .creating
            ∧ (createTenant state.now state.tenants minted request.slug request.accountId
                .pending).isSome = true
        · have free := isSome_createTenant.mp lands.2
          have looked : request.looked = true := by
            obtain ⟨route, slug, accountId, seen, place⟩ := request
            cases lands.1
            rfl
          have unused : ∀ seat ∈ state.seats, seat.slug ≠ (request.seat minted).slug := by
            intro seat member
            obtain ⟨row, inRows, rfl⟩ := List.mem_map.mp member
            exact (free row inRows).2
          obtain ⟨-, before, since⟩ := fits.seen looked
          rw [if_pos lands, onePerAccount_append one unused before since rfl]
          constructor
          · intro apart other held' _ _ row member
            cases held'.symm.trans held
            refine apart (seatOf row) ?_
            rw [FrontDoor.seats, ← List.map_drop]
            exact List.mem_map_of_mem member
          · intro unraced seat member
            rw [FrontDoor.seats, ← List.map_drop] at member
            obtain ⟨row, inRows, rfl⟩ := List.mem_map.mp member
            exact unraced request held lands.1 free row inRows
        · rw [if_neg lands]
          refine iff_of_true one fun other held' creating free => ?_
          cases held'.symm.trans held
          exact absurd ⟨creating, isSome_createTenant.mpr free⟩ lands
    | _ =>
        refine iff_of_true ?_ trivial
        rw [seats_step sound taken fun _ _ => nofun]
        exact one
  have start : Sound (.idle nowMs release tenants jobs) := ⟨fun _ _ => nofun, fun _ => nofun⟩
  exact everywhere_iff_throughout (fun _ _ _ sound _ taken => sound_step sound taken) exact_step
    start one (throughout_of_forall (fun _ _ _ _ => trivial) _ _)

/-- A plane without a tenant. -/
def emptyPlane : FrontDoor :=
  .idle 1000000 "v1" .empty .empty

/-- One account asks for two names at the same time. -/
def twoNames : List FrontDoorAction :=
  [.provision "r1" "alpha" "acc_1", .provision "r2" "beta" "acc_1",
    .call "r1" "", .call "r2" "", .call "r1" "", .call "r2" "",
    .call "r1" "ten_1", .call "r2" "ten_2"]

theorem emptyPlane_oneStudio : OneStudio emptyPlane :=
  ⟨fun _ => Nat.zero_le 1, List.nodup_nil⟩

theorem twoNames_oneStudio_iff
    : Everywhere FrontDoor.step OneStudio emptyPlane twoNames
      ↔ Throughout FrontDoor.step Unraced emptyPlane twoNames :=
  oneStudio_iff emptyPlane_oneStudio twoNames

/-- Both inserts land, and the account has two studios. -/
theorem twoNames_giveTwoStudios
    : OneStudio emptyPlane ∧ ¬Everywhere FrontDoor.step OneStudio emptyPlane twoNames := by
  refine ⟨emptyPlane_oneStudio, fun everywhere => ?_⟩
  obtain ⟨state, reached, two⟩
      : ∃ state, exec FrontDoor.step emptyPlane twoNames = some state
        ∧ state.tenants.rows.countP
            (fun row => row.accountId = "acc_1" ∧ row.status ≠ .deleted) = 2 :=
    Option.map_eq_some_iff.mp (by decide +kernel)
  have alone := (everywhere.final reached).1 "acc_1"
  rw [two] at alone
  exact absurd alone (by decide)

end ControlPlane.Onboarding
