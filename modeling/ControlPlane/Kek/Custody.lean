import ControlPlane.Kek.Convergence
import ControlPlane.Library.Runs

/-! Sweeps and token writes interleave at every store access, and the write direction can turn
between them. What a sweep holds while it waits opens to the same token as what it read.
-/

namespace ControlPlane.Kek

open ControlPlane.Library
open ControlPlane.Store

/-- The two key texts that stay installed. -/
structure InstalledKeys where
  primary : String
  next : String
  deriving DecidableEq, Repr

/-- The ring of an actor that starts under some write direction. -/
def InstalledKeys.ring (keys : InstalledKeys) (encryptSlot : Option String) : KekRing :=
  kekRing keys.primary (some keys.next) encryptSlot

/-- A sweep between two store accesses: the rows it has yet to decrypt, and the compare and set
it is about to run.
-/
structure SweepRun where
  ring : KekRing
  todo : List EncryptedTokenRow
  pending : Option (EncryptedTokenRow × String) := none
  deriving DecidableEq, Repr

/-- A token that is encrypted and about to be stored. -/
structure TokenWrite where
  id : String
  encValue : String
  plaintext : String
  deriving DecidableEq, Repr

/-- The tenants, what each worker holds, and the token that each tenant is due: the one last
written, or else the one that could be read at the start.
-/
structure RotationState where
  tenants : Tenants
  sweeps : Nat → Option SweepRun
  writes : Nat → Option TokenWrite
  due : String → Option String

inductive RotationAction
  | startSweep (worker : Nat) (encryptSlot : Option String) (limit : Nat)
  | sweepRow (worker : Nat) (iv : Iv)
  | sweepWrite (worker : Nat)
  | stopSweep (worker : Nat)
  | encryptToken (worker : Nat) (encryptSlot : Option String) (iv : Iv) (id plaintext : String)
  | storeToken (worker : Nat)
  deriving DecidableEq, Repr

variable (aes : AesGcm) (keys : InstalledKeys)

/-- What the row of a sweep leaves it to do. A throw ends it. -/
def SweepRun.planned (sweep : SweepRun) (row : EncryptedTokenRow) (rest : List EncryptedTokenRow)
    : RowPlan → Option SweepRun
  | .unreadable | .onTarget => some { sweep with todo := rest }
  | .rotate newEnc => some { sweep with todo := rest, pending := some (row, newEnc) }
  | .throw _ => none

/-- One store access of one worker, with the computation that leads up to the next one. -/
def RotationState.step (state : RotationState) : RotationAction → Option RotationState
  | .startSweep worker encryptSlot limit =>
      if rotationWindowOpen (keys.ring encryptSlot) then
        some
          { state with
            sweeps :=
              Function.update state.sweeps worker
                (some
                  { ring := keys.ring encryptSlot
                    todo := (listEncryptedStudioTokens state.tenants).take limit }) }
      else none
  | .sweepRow worker iv =>
      match state.sweeps worker with
      | some { ring, todo := row :: rest, pending := none } =>
          some
            { state with
              sweeps :=
                Function.update state.sweeps worker
                  (SweepRun.planned { ring, todo := row :: rest } row rest
                    (planRow aes ring iv row)) }
      | _ => none
  | .sweepWrite worker =>
      match state.sweeps worker with
      | some { ring, todo, pending := some (row, newEnc) } =>
          some
            { state with
              tenants :=
                (setTenantStudioTokenIfUnchanged row.id row.studioTokenEnc newEnc).apply
                  state.tenants
              sweeps := Function.update state.sweeps worker (some { ring, todo }) }
      | _ => none
  | .stopSweep worker => some { state with sweeps := Function.update state.sweeps worker none }
  | .encryptToken worker encryptSlot iv id plaintext =>
      match encryptStudioToken aes (keys.ring encryptSlot) iv plaintext with
      | .ok encValue =>
          some
            { state with
              writes := Function.update state.writes worker (some { id, encValue, plaintext }) }
      | .error _ => none
  | .storeToken worker =>
      match state.writes worker with
      | some write =>
          some
            { state with
              tenants := (setTenantStudioToken write.id write.encValue).apply state.tenants
              writes := Function.update state.writes worker none
              due := Function.update state.due write.id (some write.plaintext) }
      | none => none

/-- The tokens that can be read at the start, and nobody at work. -/
def RotationState.initial (tenants : Tenants) : RotationState where
  tenants := tenants
  sweeps _ := none
  writes _ := none
  due id :=
    ((tenants.get? id).bind Tenant.studioTokenEnc).bind fun blob =>
      (decryptStudioToken aes (keys.ring none) blob).toOption

/-- Some installed key opens the blob to the plaintext. The write direction does not matter. -/
def Opens (blob plaintext : String) : Prop :=
  ∃ slot, opensUnder aes (keys.ring none) slot blob = some plaintext

/-- What carries the tokens through a run: a stored token opens to the one that is due, and what
a worker holds opens to what it stands for.
-/
structure TokensKept (state : RotationState) : Prop where
  stored
    : ∀ tenant ∈ state.tenants.rows, ∀ plaintext, state.due tenant.id = some plaintext
      → ∃ blob, tenant.studioTokenEnc = some blob ∧ Opens aes keys blob plaintext
  rings
    : ∀ worker sweep, state.sweeps worker = some sweep
      → ∃ encryptSlot, sweep.ring = keys.ring encryptSlot
  pending
    : ∀ worker sweep row newEnc, state.sweeps worker = some sweep
      → sweep.pending = some (row, newEnc)
      → ∃ plaintext, Opens aes keys row.studioTokenEnc plaintext ∧ Opens aes keys newEnc plaintext
  writes
    : ∀ worker write, state.writes worker = some write
      → Opens aes keys write.encValue write.plaintext

variable {aes keys}

theorem opensUnder_ring (encryptSlot : Option String) (slot : KekSlot) (blob : String)
    : opensUnder aes (keys.ring encryptSlot) slot blob
      = opensUnder aes (keys.ring none) slot blob :=
  rfl

/-- What a slot of any ring over the keys opens is open. -/
theorem opens_of_ring {encryptSlot : Option String} {slot : KekSlot} {blob plaintext : String}
    (opened : opensUnder aes (keys.ring encryptSlot) slot blob = some plaintext)
    : Opens aes keys blob plaintext :=
  ⟨slot, opensUnder_ring encryptSlot slot blob ▸ opened⟩

theorem AesGcm.Exact.opens_unique (exactly : aes.Exact) {blob plaintext found : String}
    (opened : Opens aes keys blob plaintext) (again : Opens aes keys blob found)
    : found = plaintext := by
  obtain ⟨slot, opens⟩ := opened
  obtain ⟨other, opens'⟩ := again
  exact exactly.opensUnder_unique opens opens'

/-- A blob opens to a plaintext exactly when it decrypts to it, under every write direction. -/
theorem AesGcm.Exact.opens_iff (exactly : aes.Exact) (encryptSlot : Option String)
    {blob plaintext : String}
    : Opens aes keys blob plaintext
      ↔ decryptStudioToken aes (keys.ring encryptSlot) blob = .ok plaintext := by
  rw [exactly.decryptStudioToken_eq]
  constructor
  · intro ⟨slot, opened⟩
    exact ⟨slot, (opensUnder_ring encryptSlot slot blob).trans opened⟩
  · exact fun ⟨_, opened⟩ => opens_of_ring opened

-----------------------------------------------------------------------------------------
-- Each action keeps the tokens
-----------------------------------------------------------------------------------------

variable {state next : RotationState}

/-- Replacing what one sweep holds keeps the tokens when the new entry is sound itself. -/
theorem TokensKept.setSweep (kept : TokensKept aes keys state) (worker : Nat)
    {entry : Option SweepRun}
    (ring : ∀ sweep, entry = some sweep → ∃ encryptSlot, sweep.ring = keys.ring encryptSlot)
    (pending
      : ∀ sweep row newEnc, entry = some sweep → sweep.pending = some (row, newEnc)
        → ∃ plaintext, Opens aes keys row.studioTokenEnc plaintext
            ∧ Opens aes keys newEnc plaintext)
    : TokensKept aes keys
        { state with sweeps := Function.update state.sweeps worker entry } where
  stored := kept.stored
  rings := by
    intro other sweep holds
    rcases held_update_cases holds with isNew | before
    · exact ring sweep isNew
    · exact kept.rings other sweep before
  pending := by
    intro other sweep row newEnc holds waits
    rcases held_update_cases holds with isNew | before
    · exact pending sweep row newEnc isNew waits
    · exact kept.pending other sweep row newEnc before waits
  writes := kept.writes

/-- A row that a sweep is about to rotate was opened, and its new blob opens to the same. -/
theorem AesGcm.Exact.rotate_keeps (exactly : aes.Exact) {encryptSlot : Option String} {iv : Iv}
    {row : EncryptedTokenRow} {newEnc : String}
    (plan : planRow aes (keys.ring encryptSlot) iv row = .rotate newEnc)
    : ∃ plaintext, Opens aes keys row.studioTokenEnc plaintext
        ∧ Opens aes keys newEnc plaintext := by
  obtain ⟨plaintext, opened, rotated⟩ := exactly.rotate_opens plan
  exact ⟨plaintext, opens_of_ring opened, opens_of_ring rotated⟩

/-- A planned row leaves the sweep on its ring, waiting for nothing or for the new blob. -/
theorem planned_cases (sweep : SweepRun) (row : EncryptedTokenRow) (rest : List EncryptedTokenRow)
    (plan : RowPlan) (later : SweepRun) (planned : sweep.planned row rest plan = some later)
    : later.ring = sweep.ring
      ∧ (later.pending = sweep.pending
        ∨ ∃ newEnc, plan = .rotate newEnc ∧ later.pending = some (row, newEnc)) := by
  cases plan with
  | unreadable =>
      cases planned
      exact ⟨rfl, .inl rfl⟩
  | onTarget =>
      cases planned
      exact ⟨rfl, .inl rfl⟩
  | rotate newEnc =>
      cases planned
      exact ⟨rfl, .inr ⟨newEnc, rfl, rfl⟩⟩
  | throw error => cases planned

/-- The compare and set of a sweep leaves in a row what opens to the same token. -/
theorem TokensKept.sweepWrite (kept : TokensKept aes keys state) (exactly : aes.Exact)
    {row : EncryptedTokenRow} {newEnc plaintext : String}
    (opened : Opens aes keys row.studioTokenEnc plaintext)
    (rotated : Opens aes keys newEnc plaintext)
    : TokensKept aes keys
        { state with
          tenants :=
            (setTenantStudioTokenIfUnchanged row.id row.studioTokenEnc newEnc).apply
              state.tenants } where
  stored := by
    intro tenant member due isDue
    rcases Update.mem_apply_cases member with ⟨old, earlier, _, met, became⟩ | earlier
    · simp only [setTenantStudioTokenIfUnchanged, decide_eq_true_eq] at met
      subst became
      -- The row still holds what the sweep read, which opens to the token that is due.
      obtain ⟨blob, holds, opens⟩ := kept.stored old earlier due isDue
      cases met.symm.trans holds
      exact ⟨newEnc, rfl, exactly.opens_unique opens opened ▸ rotated⟩
    · exact kept.stored tenant earlier due isDue
  rings := kept.rings
  pending := kept.pending
  writes := kept.writes

/-- A stored token is the one that its tenant is due from then on. -/
theorem TokensKept.storeToken (kept : TokensKept aes keys state) {worker : Nat}
    {write : TokenWrite} (holds : state.writes worker = some write)
    : TokensKept aes keys
        { state with
          tenants := (setTenantStudioToken write.id write.encValue).apply state.tenants
          writes := Function.update state.writes worker none
          due := Function.update state.due write.id (some write.plaintext) } where
  stored := by
    intro tenant member due isDue
    obtain ⟨old, earlier, became⟩ := Sweep.mem_apply.mp member
    by_cases isTarget : old.id = write.id
    · have written : tenant = { old with studioTokenEnc := some write.encValue } := by
        rw [← became]
        exact if_pos (by simp [Update.toSweep, setTenantStudioToken, isTarget])
      subst written
      simp only [isTarget, Function.update_self, Option.some.injEq] at isDue
      exact ⟨write.encValue, rfl, isDue ▸ kept.writes worker write holds⟩
    · have untouched : tenant = old := by
        rw [← became]
        exact Update.onRow_of_not (by simp [setTenantStudioToken, isTarget])
      subst untouched
      simp only [Function.update_of_ne isTarget] at isDue
      exact kept.stored tenant earlier due isDue
  rings := kept.rings
  pending := kept.pending
  writes := by
    intro other later stillHeld
    rcases held_update_cases stillHeld with isNone | before
    · cases isNone
    · exact kept.writes other later before

/-- One store access keeps the tokens. -/
theorem TokensKept.step (kept : TokensKept aes keys state) (exactly : aes.Exact)
    {action : RotationAction} (taken : state.step aes keys action = some next)
    : TokensKept aes keys next := by
  cases action with
  | startSweep worker encryptSlot limit =>
      simp only [RotationState.step] at taken
      split at taken
      · cases taken
        refine kept.setSweep worker ?_ ?_
        · intro sweep isNew
          cases isNew
          exact ⟨encryptSlot, rfl⟩
        · intro sweep row newEnc isNew waits
          cases isNew
          cases waits
      · cases taken
  | sweepRow worker iv =>
      simp only [RotationState.step] at taken
      split at taken
      · next ring row rest holds =>
          cases taken
          obtain ⟨encryptSlot, isRing⟩ := kept.rings worker _ holds
          simp only at isRing
          subst isRing
          have isRow := planned_cases
            { ring := keys.ring encryptSlot, todo := row :: rest } row rest
            (planRow aes (keys.ring encryptSlot) iv row)
          refine kept.setSweep worker ?_ ?_
          · intro sweep isNew
            exact ⟨encryptSlot, (isRow sweep isNew).1⟩
          · intro sweep other newEnc isNew waits
            rcases (isRow sweep isNew).2 with idle | ⟨newer, plan, isPending⟩
            · rw [idle] at waits
              cases waits
            · rw [isPending] at waits
              cases waits
              exact exactly.rotate_keeps plan
      · cases taken
  | sweepWrite worker =>
      simp only [RotationState.step] at taken
      split at taken
      · next ring todo row newEnc holds =>
          cases taken
          obtain ⟨plaintext, opened, rotated⟩ := kept.pending worker _ row newEnc holds rfl
          refine (kept.sweepWrite exactly opened rotated).setSweep worker ?_ ?_
          · intro sweep isNew
            cases isNew
            exact kept.rings worker { ring, todo, pending := some (row, newEnc) } holds
          · intro sweep other newer isNew waits
            cases isNew
            cases waits
      · cases taken
  | stopSweep worker =>
      cases taken
      exact kept.setSweep worker (fun sweep isNew => nomatch isNew)
        (fun sweep row newEnc isNew => nomatch isNew)
  | encryptToken worker encryptSlot iv id plaintext =>
      simp only [RotationState.step] at taken
      split at taken
      · next encValue encrypted =>
          cases taken
          refine ⟨kept.stored, kept.rings, kept.pending, fun other write holds => ?_⟩
          rcases held_update_cases holds with isNew | before
          · cases isNew
            exact opens_of_ring (exactly.opens_encrypted encrypted)
          · exact kept.writes other write before
      · cases taken
  | storeToken worker =>
      simp only [RotationState.step] at taken
      split at taken
      · next write holds =>
          cases taken
          exact kept.storeToken holds
      · cases taken

/-- At the start each readable token is due, and nobody holds anything. -/
theorem tokensKept_initial (exactly : aes.Exact) (keys : InstalledKeys) (tenants : Tenants)
    : TokensKept aes keys (.initial aes keys tenants) where
  stored := by
    intro tenant member plaintext isDue
    have listed : tenant ∈ tenants.rows := member
    simp only [RotationState.initial] at isDue
    obtain ⟨blob, holds, readable⟩ := Option.bind_eq_some_iff.mp isDue
    rw [Keyed.get?_of_mem listed, Option.bind_some] at holds
    refine ⟨blob, holds, (exactly.opens_iff none).mpr ?_⟩
    cases answer : decryptStudioToken aes (keys.ring none) blob with
    | error error =>
        rw [answer] at readable
        cases readable
    | ok found =>
        rw [answer] at readable
        cases readable
        rfl
  rings := fun _ _ holds => nomatch holds
  pending := fun _ _ _ _ holds => nomatch holds
  writes := fun _ _ holds => nomatch holds

/-- The tokens are kept in every state that a run reaches. -/
theorem tokensKept_of_run (exactly : aes.Exact) {tenants : Tenants} {run : List RotationAction}
    (reached
      : exec (RotationState.step aes keys) (.initial aes keys tenants) run = some state)
    : TokensKept aes keys state :=
  exec_preserves (fun _ _ _ kept taken => TokensKept.step kept exactly taken)
    (tokensKept_initial exactly keys tenants) reached

-----------------------------------------------------------------------------------------
-- What a census promises
-----------------------------------------------------------------------------------------

/-- A ring that still has the key text of the write slot. -/
def KeepsWriteKey (ring later : KekRing) : Prop :=
  ∃ slot, later.key slot = ring.key ring.encryptSlot

/-- A census that finds it safe found every token on the write key. -/
theorem onTarget_of_safe {ring : KekRing} {tenants : Tenants}
    (safe : (kekCensus aes ring tenants).safeToPromote) {row : EncryptedTokenRow}
    (listed : row ∈ listEncryptedStudioTokens tenants)
    : ∃ plaintext, opensUnder aes ring ring.encryptSlot row.studioTokenEnc = some plaintext := by
  simp only [kekCensus, Bool.and_eq_true, decide_eq_true_eq, List.countP_eq_zero,
    List.length_map, List.length_eq_zero_iff, List.filter_eq_nil_iff] at safe
  rcases planRow_cases aes ring zeroIv row with
    ⟨plaintext, written, _⟩ | ⟨_, _, _, needs, _⟩ | ⟨_, unreadable, _⟩
  · exact ⟨plaintext, written⟩
  · exact absurd needs (safe.1 row listed)
  · exact absurd unreadable (safe.2 row listed)

/-- After a census that finds it safe, every ring that keeps the write key reads every token. -/
theorem AesGcm.Exact.readable_of_safe (exactly : aes.Exact) {ring later : KekRing}
    {tenants : Tenants} (safe : (kekCensus aes ring tenants).safeToPromote)
    (keeps : KeepsWriteKey ring later) {tenant : Tenant} (member : tenant ∈ tenants.rows)
    {blob : String} (holds : tenant.studioTokenEnc = some blob) (filled : blob ≠ "")
    : ∃ plaintext, decryptStudioToken aes later blob = .ok plaintext := by
  have listed : (⟨tenant.id, tenant.slug, blob⟩ : EncryptedTokenRow)
      ∈ listEncryptedStudioTokens tenants :=
    mem_listEncryptedStudioTokens.mpr
      ⟨tenant, member, Tenant.encryptedToken_eq_some.mpr ⟨holds, filled, rfl, rfl⟩⟩
  obtain ⟨plaintext, written⟩ := onTarget_of_safe safe listed
  obtain ⟨slot, same⟩ := keeps
  refine ⟨plaintext, exactly.decryptStudioToken_eq.mpr ⟨slot, ?_⟩⟩
  rw [opensUnder, same]
  exact written

/-- Each tenant reads as the token that is due, under every write direction, and a safe census
lets the other key go.
-/
structure TokensInCustody (aes : AesGcm) (keys : InstalledKeys) (state : RotationState)
    : Prop where
  current
    : ∀ tenant ∈ state.tenants.rows, ∀ plaintext, state.due tenant.id = some plaintext
      → ∃ blob, tenant.studioTokenEnc = some blob
          ∧ ∀ encryptSlot, decryptStudioToken aes (keys.ring encryptSlot) blob = .ok plaintext
  promotes
    : ∀ encryptSlot, (kekCensus aes (keys.ring encryptSlot) state.tenants).safeToPromote
      → ∀ later, KeepsWriteKey (keys.ring encryptSlot) later
        → ∀ tenant ∈ state.tenants.rows, ∀ blob, tenant.studioTokenEnc = some blob → blob ≠ ""
          → ∃ plaintext, decryptStudioToken aes later blob = .ok plaintext

/-- No run of sweeps and token writes loses a token. -/
theorem tokensInCustody (aes : AesGcm) (exactly : aes.Exact) (keys : InstalledKeys)
    (tenants : Tenants) (run : List RotationAction) (state : RotationState)
    (reached
      : exec (RotationState.step aes keys) (.initial aes keys tenants) run = some state)
    : TokensInCustody aes keys state := by
  have kept := tokensKept_of_run exactly reached
  refine ⟨?_, fun encryptSlot safe later keeps tenant member blob holds filled =>
    exactly.readable_of_safe safe keeps member holds filled⟩
  intro tenant member plaintext isDue
  obtain ⟨blob, holds, opens⟩ := kept.stored tenant member plaintext isDue
  exact ⟨blob, holds, fun encryptSlot => (exactly.opens_iff encryptSlot).mp opens⟩

/-- The two keys of the examples. -/
def turnedKeys : InstalledKeys where
  primary := "AAAAAAAAAAAAAAAAAAAAAAAAAAAAAAAAAAAAAAAAAAA="
  next := "BAAAAAAAAAAAAAAAAAAAAAAAAAAAAAAAAAAAAAAAAAA="

/-- A sweep decrypts a token, the token is minted anew, and the compare and set misses. -/
def remintedRun : List RotationAction :=
  [.startSweep 0 (some "next") 1, .sweepRow 0 zeroIv,
    .encryptToken 1 (some "next") zeroIv "ten_a" "tok_new", .storeToken 1, .sweepWrite 0]

theorem remintedRun_inCustody
    : ∃ state,
        exec (RotationState.step labelled turnedKeys)
          (.initial labelled turnedKeys twoOldTokens) remintedRun = some state
        ∧ TokensInCustody labelled turnedKeys state :=
  ⟨_, rfl, tokensInCustody labelled labelled_exact turnedKeys twoOldTokens remintedRun _ rfl⟩

end ControlPlane.Kek
