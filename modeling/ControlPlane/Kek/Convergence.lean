import ControlPlane.Kek.Rotation

/-! Repeating a bounded sweep converges exactly when the bound covers the work. A run examines the
first rows of the estate, rotated or not, and so never gets to the others.
-/

namespace ControlPlane.Kek

open ControlPlane.Library
open ControlPlane.Store

variable (aes : AesGcm)

/-- The tenants after some runs of the sweep, each with its own random ivs. -/
def afterSweeps (ring : KekRing) (ivs : Nat → String → Iv) (limit : Nat) (tenants : Tenants)
    : Nat → Tenants
  | 0 => tenants
  | runs + 1 =>
      (sweepReencrypt aes ring (ivs runs) limit (afterSweeps ring ivs limit tenants runs)).1

/-- Every readable row is on the write key with its token, the others are as they were, and
another sweep changes nothing.
-/
structure Converged (ring : KekRing) (limit : Nat) (before after : Tenants) : Prop where
  readable
    : ∀ row ∈ listEncryptedStudioTokens before, ∀ slot plaintext,
        opensUnder aes ring slot row.studioTokenEnc = some plaintext
        → ∃ later ∈ listEncryptedStudioTokens after, later.id = row.id
            ∧ opensUnder aes ring ring.encryptSlot later.studioTokenEnc = some plaintext
  unreadable
    : ∀ row ∈ listEncryptedStudioTokens before,
        (∀ slot, opensUnder aes ring slot row.studioTokenEnc = none)
        → row ∈ listEncryptedStudioTokens after
  settled
    : ∀ ivs, (sweepReencrypt aes ring ivs limit after).1 = after
        ∧ ∀ result, (sweepReencrypt aes ring ivs limit after).2 = .ok result → result.rotated = 0

/-- The sweeps converge within as many runs as there are rows, and a run that reports to be
complete has looked at every row.
-/
structure RotationConverges (ring : KekRing) (ivs : Nat → String → Iv) (limit : Nat)
    (tenants : Tenants)
    : Prop where
  converges
    : ∃ runs ≤ (listEncryptedStudioTokens tenants).length,
        Converged aes ring limit tenants (afterSweeps aes ring ivs limit tenants runs)
  complete
    : ∀ runs result,
        (sweepReencrypt aes ring (ivs runs) limit (afterSweeps aes ring ivs limit tenants runs)).2
          = .ok result
        → result.complete
        → result.examined
              = (listEncryptedStudioTokens (afterSweeps aes ring ivs limit tenants runs)).length
          ∧ result.skippedOnTarget + result.rotated + result.raced + result.unreadable.length
              = result.examined

/-- Each row that needs rotation is among those a run examines, and the write slot holds a key. -/
def SweepReaches (ring : KekRing) (limit : Nat) (tenants : Tenants) : Prop :=
  ∀ index row, (listEncryptedStudioTokens tenants)[index]? = some row
    → bucket aes ring row.studioTokenEnc = .needsRotation
    → index < limit ∧ ∃ key, ring.writeKey = .ok key

/-- The row as a sweep that examines it leaves it. -/
def rotatedRow (ring : KekRing) (iv : Iv) (row : EncryptedTokenRow) : EncryptedTokenRow :=
  match planRow aes ring iv row with
  | .rotate newEnc => { row with studioTokenEnc := newEnc }
  | _ => row

-----------------------------------------------------------------------------------------
-- One sweep rewrites the first rows of the estate
-----------------------------------------------------------------------------------------

variable {aes} {ring : KekRing} {ivs : String → Iv} {limit : Nat} {tenants : Tenants}

/-- With a write key a sweep throws nothing. -/
theorem planRow_ne_throw {key : CryptoKey} (writes : ring.writeKey = .ok key) (iv : Iv)
    (row : EncryptedTokenRow) (error : TokenError)
    : planRow aes ring iv row ≠ .throw error := by
  rcases planRow_cases aes ring iv row with
    ⟨_, _, _, plan⟩ | ⟨plaintext, _, _, _, plan⟩ | ⟨_, _, plan⟩
  · simp [plan]
  · simp [plan, encryptStudioToken_eq, writes, Except.map]
  · simp [plan]

/-- Without a write key a sweep rotates nothing. -/
theorem planRow_ne_rotate {refusal : TokenError} (writes : ring.writeKey = .error refusal)
    (iv : Iv) (row : EncryptedTokenRow) (newEnc : String)
    : planRow aes ring iv row ≠ .rotate newEnc := by
  rcases planRow_cases aes ring iv row with
    ⟨_, _, _, plan⟩ | ⟨plaintext, _, _, _, plan⟩ | ⟨_, _, plan⟩
  · simp [plan]
  · simp [plan, encryptStudioToken_eq, writes, Except.map]
  · simp [plan]

/-- What a sweep encrypts again opens under the write slot to what the other slot read. -/
theorem AesGcm.Exact.rotate_opens (exactly : aes.Exact) {iv : Iv} {row : EncryptedTokenRow}
    {newEnc : String} (plan : planRow aes ring iv row = .rotate newEnc)
    : ∃ plaintext, opensUnder aes ring ring.encryptSlot.other row.studioTokenEnc = some plaintext
        ∧ opensUnder aes ring ring.encryptSlot newEnc = some plaintext := by
  rcases planRow_cases aes ring iv row with
    ⟨_, _, _, other⟩ | ⟨plaintext, _, opened, _, other⟩ | ⟨_, _, other⟩
  · rw [other] at plan
    cases plan
  · rw [other] at plan
    cases encrypted : encryptStudioToken aes ring iv plaintext with
    | error error =>
        rw [encrypted] at plan
        cases plan
    | ok blob =>
        rw [encrypted] at plan
        cases plan
        exact ⟨plaintext, opened, exactly.opens_encrypted encrypted⟩
  · rw [other] at plan
    cases plan

/-- Two listed rows with one id are one row. -/
theorem eq_of_id {row other : EncryptedTokenRow}
    (first : row ∈ listEncryptedStudioTokens tenants)
    (second : other ∈ listEncryptedStudioTokens tenants) (same : row.id = other.id)
    : row = other :=
  List.inj_on_of_nodup_map (listEncryptedStudioTokens_nodup tenants) first second same

/-- The compare and set of a listed row changes that row of the list. -/
theorem AesGcm.Exact.list_rotate (exactly : aes.Exact) {row : EncryptedTokenRow} {iv : Iv}
    {newEnc : String} (listed : row ∈ listEncryptedStudioTokens tenants)
    (plan : planRow aes ring iv row = .rotate newEnc)
    : listEncryptedStudioTokens
        ((setTenantStudioTokenIfUnchanged row.id row.studioTokenEnc newEnc).apply tenants)
      = (listEncryptedStudioTokens tenants).map fun other =>
          if other = row then rotatedRow aes ring iv row else other := by
  obtain ⟨plaintext, opened, rotated⟩ := exactly.rotate_opens plan
  rw [list_setIfUnchanged (exactly.opened_ne_empty opened) (exactly.opened_ne_empty rotated)]
  refine List.map_congr_left fun other member => ?_
  by_cases same : other = row
  · rw [if_pos same, same, EncryptedTokenRow.ifUnchanged, if_pos ⟨rfl, rfl⟩, rotatedRow, plan]
  · rw [if_neg same, EncryptedTokenRow.ifUnchanged, if_neg]
    exact fun both => same (eq_of_id member listed both.1)

theorem rotatedRow_id (iv : Iv) (row : EncryptedTokenRow)
    : (rotatedRow aes ring iv row).id = row.id := by
  unfold rotatedRow
  split <;> rfl

/-- One row of a sweep with a write key changes that row of the list, and the sweep goes on. -/
theorem AesGcm.Exact.sweepRows_cons (exactly : aes.Exact) {key : CryptoKey}
    (writes : ring.writeKey = .ok key) (ivs : String → Iv) {row : EncryptedTokenRow}
    (rest : List EncryptedTokenRow) (listed : row ∈ listEncryptedStudioTokens tenants)
    (tally : SweepTally)
    : ∃ next nextTally,
        sweepRows aes ring ivs (row :: rest) tenants tally
            = sweepRows aes ring ivs rest next nextTally
        ∧ listEncryptedStudioTokens next
            = (listEncryptedStudioTokens tenants).map fun other =>
                if other = row then rotatedRow aes ring (ivs row.id) row else other := by
  have untouched : rotatedRow aes ring (ivs row.id) row = row
      → listEncryptedStudioTokens tenants
        = (listEncryptedStudioTokens tenants).map fun other =>
            if other = row then rotatedRow aes ring (ivs row.id) row else other := by
    intro kept
    refine ((List.map_congr_left fun other _ => ?_).trans (List.map_id _)).symm
    rw [kept, id]
    split
    · next same => exact same.symm
    · rfl
  cases plan : planRow aes ring (ivs row.id) row with
  | unreadable =>
      exact ⟨_, _, by rw [sweepRows_row, plan], untouched (by rw [rotatedRow, plan])⟩
  | onTarget =>
      exact ⟨_, _, by rw [sweepRows_row, plan], untouched (by rw [rotatedRow, plan])⟩
  | rotate newEnc =>
      have became := exactly.list_rotate listed plan
      by_cases changed : 0 < (setTenantStudioTokenIfUnchanged row.id row.studioTokenEnc
          newEnc).changes tenants
      · exact ⟨_, _, by rw [sweepRows_row, plan]; exact if_pos changed, became⟩
      · exact ⟨_, _, by rw [sweepRows_row, plan]; exact if_neg changed, became⟩
  | throw error => exact absurd plan (planRow_ne_throw writes _ row error)

/-- A sweep turns the listed rows it works on into what it makes of them, by induction on its
work. Each compare and set finds the ciphertext that was read, as no other row has the id.
-/
theorem AesGcm.Exact.list_sweepRows (exactly : aes.Exact) {key : CryptoKey}
    (writes : ring.writeKey = .ok key) (ivs : String → Iv) (todo : List EncryptedTokenRow)
    (tenants : Tenants) (tally : SweepTally)
    (distinct : (todo.map EncryptedTokenRow.id).Nodup)
    (listed : ∀ row ∈ todo, row ∈ listEncryptedStudioTokens tenants)
    : listEncryptedStudioTokens (sweepRows aes ring ivs todo tenants tally).1
      = (listEncryptedStudioTokens tenants).map fun row =>
          if row ∈ todo then rotatedRow aes ring (ivs row.id) row else row := by
  induction todo generalizing tenants tally with
  | nil => exact (List.map_id _).symm.trans (List.map_congr_left fun row _ => rfl)
  | cons head rest ih =>
      rw [List.map_cons, List.nodup_cons] at distinct
      have apart : ∀ row ∈ rest, row.id ≠ head.id := fun row member same =>
        distinct.1 (same ▸ List.mem_map_of_mem member)
      have headListed := listed head List.mem_cons_self
      obtain ⟨next, nextTally, onward, became⟩ :=
        exactly.sweepRows_cons writes ivs rest headListed tally
      have stillListed : ∀ row ∈ rest, row ∈ listEncryptedStudioTokens next := by
        intro row member
        rw [became]
        refine List.mem_map.mpr ⟨row, listed row (List.mem_cons_of_mem _ member), if_neg ?_⟩
        exact fun same => apart row member (congrArg EncryptedTokenRow.id same)
      rw [onward, ih next nextTally distinct.2 stillListed, became, List.map_map]
      refine List.map_congr_left fun row member => ?_
      by_cases isHead : row = head
      · have notAgain : rotatedRow aes ring (ivs head.id) head ∉ rest := fun again =>
          apart _ again (rotatedRow_id (ivs head.id) head)
        simp only [Function.comp_apply, isHead, if_true, if_neg notAgain, List.mem_cons_self]
      · simp only [Function.comp_apply, isHead, if_false, List.mem_cons, false_or]

/-- Without a write key a sweep writes nothing, by induction on its work. -/
theorem sweepRows_without_key (aes : AesGcm) {refusal : TokenError}
    (writes : ring.writeKey = .error refusal) (ivs : String → Iv) (todo : List EncryptedTokenRow)
    (tenants : Tenants) (tally : SweepTally)
    : (sweepRows aes ring ivs todo tenants tally).1 = tenants := by
  induction todo generalizing tally with
  | nil => rfl
  | cons row rest ih =>
      rw [sweepRows_row]
      cases plan : planRow aes ring (ivs row.id) row with
      | unreadable => exact ih _
      | onTarget => exact ih _
      | rotate newEnc => exact absurd plan (planRow_ne_rotate writes _ row newEnc)
      | throw error => rfl

/-- A sweep over rows none of which needs rotation writes nothing and counts no rotation, by
induction on its work.
-/
theorem sweepRows_settled (ivs : String → Iv) (todo : List EncryptedTokenRow) (tenants : Tenants)
    (tally : SweepTally)
    (settled : ∀ row ∈ todo, bucket aes ring row.studioTokenEnc ≠ .needsRotation)
    : (sweepRows aes ring ivs todo tenants tally).1 = tenants
      ∧ ∀ after, (sweepRows aes ring ivs todo tenants tally).2 = .ok after
          → after.rotated = tally.rotated := by
  induction todo generalizing tally with
  | nil =>
      refine ⟨rfl, fun after isTally => ?_⟩
      cases isTally
      rfl
  | cons row rest ih =>
      have onRest := fun later => ih later fun other member =>
        settled other (List.mem_cons_of_mem _ member)
      rcases planRow_cases aes ring (ivs row.id) row with
        ⟨_, _, _, plan⟩ | ⟨_, _, _, needs, _⟩ | ⟨_, _, plan⟩
      · rw [sweepRows_row, plan]
        exact onRest _
      · exact absurd needs (settled row List.mem_cons_self)
      · rw [sweepRows_row, plan]
        exact onRest _

/-- Every row that a sweep works on is counted once, by induction on its work. -/
theorem sweepRows_tally (ivs : String → Iv) (todo : List EncryptedTokenRow) (tenants : Tenants)
    (tally after : SweepTally)
    (finished : (sweepRows aes ring ivs todo tenants tally).2 = .ok after)
    : after.skippedOnTarget + after.rotated + after.raced + after.unreadable.length
      = tally.skippedOnTarget + tally.rotated + tally.raced + tally.unreadable.length
        + todo.length := by
  induction todo generalizing tenants tally with
  | nil =>
      cases finished
      rfl
  | cons row rest ih =>
      rw [sweepRows_row] at finished
      rw [List.length_cons]
      cases plan : planRow aes ring (ivs row.id) row with
      | unreadable =>
          simp only [plan] at finished
          have counted := ih _ _ finished
          simp only [List.length_append, List.length_singleton] at counted
          omega
      | onTarget =>
          simp only [plan] at finished
          have counted := ih _ _ finished
          simp only at counted
          omega
      | rotate newEnc =>
          simp only [plan] at finished
          split at finished
          all_goals
            have counted := ih _ _ finished
            simp only at counted
            omega
      | throw error =>
          simp only [plan] at finished
          cases finished

/-- A run turns the first rows of the estate into what it makes of them. -/
theorem AesGcm.Exact.list_sweepReencrypt (exactly : aes.Exact) {key : CryptoKey}
    (writes : ring.writeKey = .ok key) (opened : rotationWindowOpen ring) (ivs : String → Iv)
    (limit : Nat) (tenants : Tenants)
    : listEncryptedStudioTokens (sweepReencrypt aes ring ivs limit tenants).1
      = (listEncryptedStudioTokens tenants).map fun row =>
          if row ∈ (listEncryptedStudioTokens tenants).take limit then
            rotatedRow aes ring (ivs row.id) row
          else row := by
  rw [sweepReencrypt_open aes opened]
  refine exactly.list_sweepRows writes ivs _ tenants {} ?_ fun row => List.mem_of_mem_take
  rw [List.map_take]
  exact (listEncryptedStudioTokens_nodup tenants).sublist (List.take_sublist limit _)

/-- A run over rows none of which needs rotation changes nothing. -/
theorem sweepReencrypt_settled (ring : KekRing) (ivs : String → Iv) (limit : Nat)
    (settled
      : ∀ row ∈ listEncryptedStudioTokens tenants,
          bucket aes ring row.studioTokenEnc ≠ .needsRotation)
    : (sweepReencrypt aes ring ivs limit tenants).1 = tenants
      ∧ ∀ result, (sweepReencrypt aes ring ivs limit tenants).2 = .ok result
          → result.rotated = 0 := by
  by_cases opened : rotationWindowOpen ring
  · rw [sweepReencrypt_open aes opened]
    have kept := sweepRows_settled ivs ((listEncryptedStudioTokens tenants).take limit) tenants {}
      fun row member => settled row (List.mem_of_mem_take member)
    refine ⟨kept.1, fun result finished => ?_⟩
    simp only at finished
    cases swept : (sweepRows aes ring ivs ((listEncryptedStudioTokens tenants).take limit)
        tenants {}).2 with
    | error error =>
        rw [swept] at finished
        cases finished
    | ok tally =>
        rw [swept] at finished
        cases finished
        exact kept.2 tally swept
  · rw [sweepReencrypt_shut aes opened]
    exact ⟨rfl, fun result finished => nomatch finished⟩

/-- A run that reports to be complete has examined and counted every row. -/
theorem sweepReencrypt_complete {result : SweepResult}
    (finished : (sweepReencrypt aes ring ivs limit tenants).2 = .ok result)
    (complete : result.complete)
    : result.examined = (listEncryptedStudioTokens tenants).length
      ∧ result.skippedOnTarget + result.rotated + result.raced + result.unreadable.length
          = result.examined := by
  by_cases opened : rotationWindowOpen ring
  · rw [sweepReencrypt_open aes opened] at finished
    simp only at finished
    cases swept : (sweepRows aes ring ivs ((listEncryptedStudioTokens tenants).take limit)
        tenants {}).2 with
    | error error =>
        rw [swept] at finished
        cases finished
    | ok tally =>
        rw [swept] at finished
        cases finished
        have counted := sweepRows_tally ivs _ tenants {} tally swept
        simp only [decide_eq_true_eq] at complete
        refine ⟨complete, ?_⟩
        simp only [List.length_insertionSort]
        rw [counted]
        simp only [List.length_nil]
        omega
  · rw [sweepReencrypt_shut aes opened] at finished
    cases finished

-----------------------------------------------------------------------------------------
-- A row past the bound is never reached
-----------------------------------------------------------------------------------------

/-- A row that needs rotation, past the bound or without a write key, is in its place after a
run.
-/
theorem AesGcm.Exact.unreached_sweep (exactly : aes.Exact) (ivs : String → Iv) {index : Nat}
    {row : EncryptedTokenRow} (placed : (listEncryptedStudioTokens tenants)[index]? = some row)
    (unreached : ¬ (index < limit ∧ ∃ key, ring.writeKey = .ok key))
    : (listEncryptedStudioTokens (sweepReencrypt aes ring ivs limit tenants).1)[index]?
      = some row := by
  by_cases opened : rotationWindowOpen ring
  · cases writes : ring.writeKey with
    | error refusal =>
        rw [sweepReencrypt_open aes opened]
        have kept := sweepRows_without_key aes writes ivs
          ((listEncryptedStudioTokens tenants).take limit) tenants {}
        exact kept.symm ▸ placed
    | ok key =>
        have past : limit ≤ index := Nat.not_lt.mp fun within => unreached ⟨within, key, writes⟩
        have distinct := (listEncryptedStudioTokens_nodup tenants).of_map
        have outside : row ∉ (listEncryptedStudioTokens tenants).take limit := by
          have inRest : row ∈ (listEncryptedStudioTokens tenants).drop limit := by
            refine List.mem_of_getElem? (i := index - limit) ?_
            rw [List.getElem?_drop, Nat.add_sub_cancel' past, placed]
          exact fun inBatch => List.disjoint_take_drop distinct (Nat.le_refl limit) inBatch inRest
        rw [exactly.list_sweepReencrypt writes opened, List.getElem?_map, placed,
          Option.map_some, if_neg outside]
  · rw [sweepReencrypt_shut aes opened]
    exact placed

/-- Such a row is in its place after every number of runs, by induction on the runs. -/
theorem AesGcm.Exact.unreached_afterSweeps (exactly : aes.Exact) (ivs : Nat → String → Iv)
    {index : Nat} {row : EncryptedTokenRow}
    (placed : (listEncryptedStudioTokens tenants)[index]? = some row)
    (unreached : ¬ (index < limit ∧ ∃ key, ring.writeKey = .ok key)) (runs : Nat)
    : (listEncryptedStudioTokens (afterSweeps aes ring ivs limit tenants runs))[index]?
      = some row := by
  induction runs with
  | zero => exact placed
  | succ runs ih => exact exactly.unreached_sweep (ivs runs) ih unreached

/-- A row that no run reaches keeps the sweeps from converging: it is never opened by the write
slot, and the other slot opens it.
-/
theorem AesGcm.Exact.reaches_of_converges (exactly : aes.Exact) {ivs : Nat → String → Iv}
    (converges
      : ∃ runs, Converged aes ring limit tenants (afterSweeps aes ring ivs limit tenants runs))
    : SweepReaches aes ring limit tenants := by
  obtain ⟨runs, converged⟩ := converges
  intro index row placed needs
  by_contra unreached
  rcases planRow_cases aes ring (ivs 0 row.id) row with
    ⟨_, _, other, _⟩ | ⟨plaintext, shut, opened, _, _⟩ | ⟨_, other, _⟩
  · rw [other] at needs
    cases needs
  · have kept := exactly.unreached_afterSweeps ivs placed unreached runs
    obtain ⟨later, listed, sameId, rewritten⟩ :=
      converged.readable row (List.mem_of_getElem? placed) _ plaintext opened
    rw [eq_of_id listed (List.mem_of_getElem? kept) sameId, shut] at rewritten
    cases rewritten
  · rw [other] at needs
    cases needs

-----------------------------------------------------------------------------------------
-- Within the bound one sweep is enough
-----------------------------------------------------------------------------------------

/-- When some row needs rotation and the write slot holds a key, both keys are installed. -/
theorem windowOpen_of_needs {key : CryptoKey} (writes : ring.writeKey = .ok key)
    {blob plaintext : String}
    (opened : opensUnder aes ring ring.encryptSlot.other blob = some plaintext)
    : rotationWindowOpen ring := by
  have nextInstalled : ∀ text, ring.key .next = some text → rotationWindowOpen ring := by
    intro text installed
    rw [rotationWindowOpen]
    cases absent : ring.next with
    | none => simp [KekRing.key, absent] at installed
    | some next => rfl
  obtain ⟨text, installed, _⟩ := writeKey_eq.mp writes
  obtain ⟨otherText, _, otherInstalled, _⟩ := opensUnder_eq_some.mp opened
  cases writeSlot : ring.encryptSlot with
  | next => exact nextInstalled text (writeSlot ▸ installed)
  | primary =>
      exact nextInstalled otherText (by simpa [writeSlot, KekSlot.other] using otherInstalled)

/-- A row that a sweep with a write key works on is on the write key when some slot opened it. -/
theorem AesGcm.Exact.rotatedRow_opens (exactly : aes.Exact) {key : CryptoKey}
    (writes : ring.writeKey = .ok key) (iv : Iv) {row : EncryptedTokenRow} {slot : KekSlot}
    {plaintext : String} (opened : opensUnder aes ring slot row.studioTokenEnc = some plaintext)
    : opensUnder aes ring ring.encryptSlot (rotatedRow aes ring iv row).studioTokenEnc
      = some plaintext := by
  rcases planRow_cases aes ring iv row with
    ⟨found, written, _, plan⟩ | ⟨found, _, second, _, plan⟩ | ⟨shut, _⟩
  · rw [rotatedRow, plan, exactly.opensUnder_unique written opened]
    exact written
  · have encrypted := encryptStudioToken_eq aes ring iv found
    rw [writes, Except.map] at encrypted
    rw [encrypted] at plan
    rw [rotatedRow, plan, exactly.opensUnder_unique second opened]
    exact exactly.opens_encrypted encrypted
  · rw [shut] at opened
    cases opened

theorem rotatedRow_unreadable (iv : Iv) {row : EncryptedTokenRow}
    (shut : ∀ slot, opensUnder aes ring slot row.studioTokenEnc = none)
    : rotatedRow aes ring iv row = row := by
  rcases planRow_cases aes ring iv row with
    ⟨_, written, _⟩ | ⟨_, _, second, _⟩ | ⟨_, _, plan⟩
  · rw [shut] at written
    cases written
  · rw [shut] at second
    cases second
  · rw [rotatedRow, plan]

theorem needsRotation_iff {blob : String}
    : bucket aes ring blob = .needsRotation
      ↔ opensUnder aes ring ring.encryptSlot blob = none
        ∧ ∃ plaintext, opensUnder aes ring ring.encryptSlot.other blob = some plaintext := by
  rcases planRow_cases aes ring zeroIv ⟨"", "", blob⟩ with
    ⟨_, written, found, _⟩ | ⟨plaintext, shut, second, found, _⟩ | ⟨shut, found, _⟩
  · simp [found, written]
  · simp [found, shut, second]
  · simp [found, shut]

/-- One run over an estate that it reaches leaves every readable row on the write key. -/
theorem AesGcm.Exact.converged_sweep (exactly : aes.Exact) {key : CryptoKey}
    (writes : ring.writeKey = .ok key) (opened : rotationWindowOpen ring) (ivs : String → Iv)
    (reaches : SweepReaches aes ring limit tenants)
    : Converged aes ring limit tenants (sweepReencrypt aes ring ivs limit tenants).1 := by
  have became := exactly.list_sweepReencrypt writes opened ivs limit tenants
  have onTarget : ∀ row ∈ listEncryptedStudioTokens tenants, ∀ slot plaintext,
      opensUnder aes ring slot row.studioTokenEnc = some plaintext
      → opensUnder aes ring ring.encryptSlot
          (if row ∈ (listEncryptedStudioTokens tenants).take limit then
            rotatedRow aes ring (ivs row.id) row
          else row).studioTokenEnc = some plaintext := by
    intro row member slot plaintext opens
    split
    · exact exactly.rotatedRow_opens writes _ opens
    · next outside =>
        -- Outside the batch nothing needs rotation, so the write slot is the one that opens it.
        rcases planRow_cases aes ring (ivs row.id) row with
          ⟨found, written, _⟩ | ⟨_, _, _, needs, _⟩ | ⟨shut, _⟩
        · rw [written, exactly.opensUnder_unique written opens]
        · obtain ⟨index, placed⟩ := List.mem_iff_getElem?.mp member
          refine absurd (List.mem_of_getElem? (i := index) ?_) outside
          rw [List.getElem?_take_of_lt (reaches index row placed needs).1, placed]
        · rw [shut] at opens
          cases opens
  have unreadable : ∀ row : EncryptedTokenRow,
      (∀ slot, opensUnder aes ring slot row.studioTokenEnc = none)
      → (if row ∈ (listEncryptedStudioTokens tenants).take limit then
          rotatedRow aes ring (ivs row.id) row
        else row) = row := by
    intro row shut
    rw [rotatedRow_unreadable _ shut, ite_self]
  refine ⟨?_, ?_, fun again => sweepReencrypt_settled ring again limit ?_⟩
  · intro row member slot plaintext opens
    rw [became]
    refine ⟨_, List.mem_map.mpr ⟨row, member, rfl⟩, ?_, onTarget row member slot plaintext opens⟩
    split
    · exact rotatedRow_id _ row
    · rfl
  · intro row member shut
    rw [became]
    exact List.mem_map.mpr ⟨row, member, unreadable row shut⟩
  · intro later member needs
    obtain ⟨shut, plaintext, second⟩ := needsRotation_iff.mp needs
    rw [became] at member
    obtain ⟨row, listed, same⟩ := List.mem_map.mp member
    subst same
    by_cases readable : ∃ slot found, opensUnder aes ring slot row.studioTokenEnc = some found
    · obtain ⟨slot, found, opens⟩ := readable
      rw [onTarget row listed slot found opens] at shut
      cases shut
    · simp only [not_exists, ← Option.eq_none_iff_forall_ne_some] at readable
      rw [unreadable row readable, readable] at second
      cases second

/-- Sweeps that reach every row that needs rotation converge, in one run or in none. -/
theorem AesGcm.Exact.converges_of_reaches (exactly : aes.Exact) (ivs : Nat → String → Iv)
    (reaches : SweepReaches aes ring limit tenants)
    : ∃ runs ≤ (listEncryptedStudioTokens tenants).length,
        Converged aes ring limit tenants (afterSweeps aes ring ivs limit tenants runs) := by
  by_cases work : ∃ row ∈ listEncryptedStudioTokens tenants,
      bucket aes ring row.studioTokenEnc = .needsRotation
  · obtain ⟨row, member, needs⟩ := work
    obtain ⟨index, placed⟩ := List.mem_iff_getElem?.mp member
    obtain ⟨_, key, writes⟩ := reaches index row placed needs
    obtain ⟨_, plaintext, second⟩ := needsRotation_iff.mp needs
    refine ⟨1, List.length_pos_of_mem member, ?_⟩
    exact exactly.converged_sweep writes (windowOpen_of_needs writes second) (ivs 0) reaches
  · simp only [not_exists, not_and] at work
    refine ⟨0, Nat.zero_le _, ?_, fun row member _ => member, fun again =>
      sweepReencrypt_settled ring again limit work⟩
    intro row member slot plaintext opens
    refine ⟨row, member, rfl, ?_⟩
    rcases planRow_cases aes ring (ivs 0 row.id) row with
      ⟨found, written, _⟩ | ⟨_, _, _, needs, _⟩ | ⟨shut, _⟩
    · rw [written, exactly.opensUnder_unique written opens]
    · exact absurd needs (work row member)
    · rw [shut] at opens
      cases opens

/-- Two installed keys, with the write direction at the new one. -/
def turnedRing : KekRing where
  primary := "AAAAAAAAAAAAAAAAAAAAAAAAAAAAAAAAAAAAAAAAAAA="
  next := some "BAAAAAAAAAAAAAAAAAAAAAAAAAAAAAAAAAAAAAAAAAA="
  encryptSlot := .next

/-- A token under the old key of that ring. -/
def oldBlob (plaintext : String) : String :=
  labelled.encrypt zeroKey zeroIv plaintext

/-- Two tenants whose tokens are under the old key. -/
def twoOldTokens : Tenants where
  rows :=
    [{ id := "ten_a", slug := "a", accountId := "acc", status := .live,
       studioTokenEnc := some (oldBlob "tok_a") },
      { id := "ten_b", slug := "b", accountId := "acc", status := .live,
        studioTokenEnc := some (oldBlob "tok_b") }]
  unique := by decide

/-- A token under the old key needs rotation, as the two keys differ. -/
theorem oldBlob_needsRotation (plaintext : String)
    : bucket labelled turnedRing (oldBlob plaintext) = .needsRotation := by
  have opened := labelled_exact.decrypts zeroKey zeroIv plaintext
  refine needsRotation_iff.mpr ⟨?_, plaintext, opensUnder_eq_some.mpr ⟨_, _, rfl, rfl, opened⟩⟩
  refine Option.eq_none_iff_forall_ne_some.mpr fun found underNew => ?_
  obtain ⟨text, key, installed, imported, decrypted⟩ := opensUnder_eq_some.mp underNew
  cases installed
  cases imported
  have same := labelled_exact.one_key _ _ _ _ _ opened decrypted
  exact absurd (congrArg Subtype.val same) (by decide)

/-- With one row a run, every run examines the first tenant and never the second one. -/
theorem boundedSweeps_stall
    : ¬ RotationConverges labelled turnedRing (fun _ _ => zeroIv) 1 twoOldTokens := by
  intro ⟨⟨runs, _, converged⟩, _⟩
  have reaches := labelled_exact.reaches_of_converges ⟨runs, converged⟩
  have placed : (listEncryptedStudioTokens twoOldTokens)[1]?
      = some ⟨"ten_b", "b", oldBlob "tok_b"⟩ := by
    rfl
  exact absurd (reaches 1 _ placed (oldBlob_needsRotation "tok_b")).1 (by decide)

/-- Repeating a sweep converges exactly when its bound reaches every row that needs rotation. -/
theorem rotationConverges_iff (aes : AesGcm) (exactly : aes.Exact) (ring : KekRing)
    (ivs : Nat → String → Iv) (limit : Nat) (tenants : Tenants)
    : RotationConverges aes ring ivs limit tenants ↔ SweepReaches aes ring limit tenants := by
  constructor
  · intro ⟨⟨runs, _, converged⟩, _⟩
    exact exactly.reaches_of_converges ⟨runs, converged⟩
  · intro reaches
    exact ⟨exactly.converges_of_reaches ivs reaches, fun runs result =>
      sweepReencrypt_complete⟩

theorem twoOldTokens_converge_iff
    : RotationConverges labelled turnedRing (fun _ _ => zeroIv) 500 twoOldTokens
      ↔ SweepReaches labelled turnedRing 500 twoOldTokens :=
  rotationConverges_iff labelled labelled_exact turnedRing _ 500 twoOldTokens

end ControlPlane.Kek
