import ControlPlane.Kek.TokenCrypto
import ControlPlane.Store.StudioTokens

/-! The census of the stored tokens and the sweep that re-encrypts them. A sweep takes its work
from the data on every run, and writes only over the ciphertext that it read.
-/

namespace ControlPlane.Kek

open ControlPlane.Library
open ControlPlane.Store

/-- The three buckets of the census. -/
inductive KekBucket
  | onTarget
  | needsRotation
  | unreadable
  deriving DecidableEq, Repr

variable (aes : AesGcm)

/-- Where a stored token stands against the ring. -/
def bucket (ring : KekRing) (blob : String) : KekBucket :=
  match decryptStudioTokenWithSlot aes ring blob with
  | .ok (slot, _) => if slot = ring.encryptSlot then .onTarget else .needsRotation
  | .error _ => .unreadable

structure KekCensus where
  windowOpen : Bool
  encryptSlot : KekSlot
  total : Nat
  onTarget : Nat
  needsRotation : Nat
  unreadable : List String
  safeToPromote : Bool
  deriving DecidableEq, Repr

/-- Classify every stored token against the ring. -/
def kekCensus (ring : KekRing) (tenants : Tenants) : KekCensus :=
  let rows := listEncryptedStudioTokens tenants
  let needsRotation := rows.countP fun row => bucket aes ring row.studioTokenEnc = .needsRotation
  let unreadable :=
    (rows.filter fun row => bucket aes ring row.studioTokenEnc = .unreadable).map
      EncryptedTokenRow.slug
  { windowOpen := rotationWindowOpen ring
    encryptSlot := ring.encryptSlot
    total := rows.length
    onTarget := rows.countP fun row => bucket aes ring row.studioTokenEnc = .onTarget
    needsRotation := needsRotation
    unreadable := unreadable.insertionSort (· ≤ ·)
    safeToPromote := needsRotation = 0 && unreadable.length = 0 }

/-- What a sweep does about a row that it read. -/
inductive RowPlan
  | unreadable
  | onTarget
  | rotate (newEnc : String)
  | throw (error : TokenError)
  deriving DecidableEq, Repr

/-- Decrypt a row, and encrypt it again when the write slot is not the one that opened it. -/
def planRow (ring : KekRing) (iv : Iv) (row : EncryptedTokenRow) : RowPlan :=
  match decryptStudioTokenWithSlot aes ring row.studioTokenEnc with
  | .error _ => .unreadable
  | .ok (slot, plaintext) =>
      if slot = ring.encryptSlot then .onTarget
      else
        match encryptStudioToken aes ring iv plaintext with
        | .ok newEnc => .rotate newEnc
        | .error error => .throw error

/-- The counters of a sweep. -/
structure SweepTally where
  skippedOnTarget : Nat := 0
  rotated : Nat := 0
  raced : Nat := 0
  unreadable : List String := []
  deriving DecidableEq, Repr

structure SweepResult where
  examined : Nat
  skippedOnTarget : Nat
  rotated : Nat
  raced : Nat
  unreadable : List String
  complete : Bool
  deriving DecidableEq, Repr

/-- A sweep works down the rows it read, with a random iv for each. What it throws ends it, and
what it wrote before stays.
-/
def sweepRows (ring : KekRing) (ivs : String → Iv)
    : List EncryptedTokenRow → Tenants → SweepTally → Tenants × Except TokenError SweepTally
  | [], tenants, tally => (tenants, .ok tally)
  | row :: rest, tenants, tally =>
      match planRow aes ring (ivs row.id) row with
      | .unreadable =>
          sweepRows ring ivs rest tenants { tally with unreadable := tally.unreadable ++ [row.slug] }
      | .onTarget =>
          sweepRows ring ivs rest tenants
            { tally with skippedOnTarget := tally.skippedOnTarget + 1 }
      | .rotate newEnc =>
          let write := setTenantStudioTokenIfUnchanged row.id row.studioTokenEnc newEnc
          if 0 < write.changes tenants then
            sweepRows ring ivs rest (write.apply tenants)
              { tally with rotated := tally.rotated + 1 }
          else
            sweepRows ring ivs rest (write.apply tenants) { tally with raced := tally.raced + 1 }
      | .throw error => (tenants, .error error)

theorem sweepRows_row (ring : KekRing) (ivs : String → Iv) (row : EncryptedTokenRow)
    (rest : List EncryptedTokenRow) (tenants : Tenants) (tally : SweepTally)
    : sweepRows aes ring ivs (row :: rest) tenants tally
      = match planRow aes ring (ivs row.id) row with
        | .unreadable =>
            sweepRows aes ring ivs rest tenants
              { tally with unreadable := tally.unreadable ++ [row.slug] }
        | .onTarget =>
            sweepRows aes ring ivs rest tenants
              { tally with skippedOnTarget := tally.skippedOnTarget + 1 }
        | .rotate newEnc =>
            let write := setTenantStudioTokenIfUnchanged row.id row.studioTokenEnc newEnc
            if 0 < write.changes tenants then
              sweepRows aes ring ivs rest (write.apply tenants)
                { tally with rotated := tally.rotated + 1 }
            else
              sweepRows aes ring ivs rest (write.apply tenants)
                { tally with raced := tally.raced + 1 }
        | .throw error => (tenants, .error error) :=
  rfl

/-- Re-encrypt stored tokens under the write slot, at most `limit` rows a run. -/
def sweepReencrypt (ring : KekRing) (ivs : String → Iv) (limit : Nat) (tenants : Tenants)
    : Tenants × Except TokenError SweepResult :=
  if rotationWindowOpen ring then
    let rows := listEncryptedStudioTokens tenants
    let batch := rows.take limit
    let swept := sweepRows aes ring ivs batch tenants {}
    (swept.1,
      swept.2.map fun tally =>
        { examined := batch.length
          skippedOnTarget := tally.skippedOnTarget
          rotated := tally.rotated
          raced := tally.raced
          unreadable := tally.unreadable.insertionSort (· ≤ ·)
          complete := batch.length = rows.length })
  else (tenants, .error .noWindowOpen)

theorem sweepReencrypt_open {ring : KekRing} (opened : rotationWindowOpen ring)
    (ivs : String → Iv) (limit : Nat) (tenants : Tenants)
    : sweepReencrypt aes ring ivs limit tenants
      = let rows := listEncryptedStudioTokens tenants
        let batch := rows.take limit
        let swept := sweepRows aes ring ivs batch tenants {}
        (swept.1,
          swept.2.map fun tally =>
            { examined := batch.length
              skippedOnTarget := tally.skippedOnTarget
              rotated := tally.rotated
              raced := tally.raced
              unreadable := tally.unreadable.insertionSort (· ≤ ·)
              complete := batch.length = rows.length }) :=
  if_pos opened

theorem sweepReencrypt_shut {ring : KekRing} (shut : ¬ rotationWindowOpen ring)
    (ivs : String → Iv) (limit : Nat) (tenants : Tenants)
    : sweepReencrypt aes ring ivs limit tenants = (tenants, .error .noWindowOpen) :=
  if_neg shut

/-- A row is on target, or needs rotation and is encrypted again, or is unreadable. -/
theorem planRow_cases (ring : KekRing) (iv : Iv) (row : EncryptedTokenRow)
    : (∃ plaintext, opensUnder aes ring ring.encryptSlot row.studioTokenEnc = some plaintext
        ∧ bucket aes ring row.studioTokenEnc = .onTarget
        ∧ planRow aes ring iv row = .onTarget)
      ∨ (∃ plaintext, opensUnder aes ring ring.encryptSlot row.studioTokenEnc = none
        ∧ opensUnder aes ring ring.encryptSlot.other row.studioTokenEnc = some plaintext
        ∧ bucket aes ring row.studioTokenEnc = .needsRotation
        ∧ planRow aes ring iv row
            = match encryptStudioToken aes ring iv plaintext with
              | .ok newEnc => .rotate newEnc
              | .error error => .throw error)
      ∨ ((∀ slot, opensUnder aes ring slot row.studioTokenEnc = none)
        ∧ bucket aes ring row.studioTokenEnc = .unreadable
        ∧ planRow aes ring iv row = .unreadable) := by
  rcases decrypt_cases aes ring row.studioTokenEnc with
    ⟨plaintext, written, decrypted⟩ | ⟨plaintext, shut, second, decrypted⟩ | ⟨shut, error, refused⟩
  · refine .inl ⟨plaintext, written, ?_, ?_⟩
    · simp only [bucket, decrypted, if_true]
    · simp only [planRow, decrypted, if_true]
  · refine .inr (.inl ⟨plaintext, shut, second, ?_, ?_⟩)
    · simp only [bucket, decrypted, if_neg (other_ne ring.encryptSlot)]
    · simp only [planRow, decrypted, if_neg (other_ne ring.encryptSlot)]
  · refine .inr (.inr ⟨shut, ?_, ?_⟩)
    · simp only [bucket, refused]
    · simp only [planRow, refused]

end ControlPlane.Kek
