import Mathlib.Data.List.Basic

/-! The two-key ring that protects the stored studio tokens. Reading tries both keys, and writing
uses the one that the configuration names. AES-GCM itself is the platform's, and is a parameter.
-/

namespace ControlPlane.Kek

abbrev Bytes := List UInt8

/-- The raw bytes of a 256-bit key. -/
abbrev CryptoKey := { raw : Bytes // raw.length = 32 }

/-- The random bytes that one encryption draws. -/
abbrev Iv := { raw : Bytes // raw.length = 12 }

/-- AES-GCM over the wire format base64(iv || ciphertext+tag). A decryption whose tag does not
fit has no result.
-/
structure AesGcm where
  encrypt : CryptoKey → Iv → String → String
  decrypt : CryptoKey → String → Option String

/-- A blob decrypts under the key that made it, and under no other; an empty text is no blob. -/
structure AesGcm.Exact (aes : AesGcm) : Prop where
  decrypts
    : ∀ key iv plaintext, aes.decrypt key (aes.encrypt key iv plaintext) = some plaintext
  one_key
    : ∀ key other blob plaintext plaintext', aes.decrypt key blob = some plaintext
      → aes.decrypt other blob = some plaintext' → other = key
  empty : ∀ key, aes.decrypt key "" = none

/-- The character that stands for a byte. -/
def byteChar (byte : UInt8) : Char :=
  Char.ofNat byte.toNat

def charByte (c : Char) : UInt8 :=
  UInt8.ofNat c.toNat

theorem charByte_byteChar (byte : UInt8) : charByte (byteChar byte) = byte := by
  have below := byte.toNat_lt
  have valid : byte.toNat.isValidChar := .inl (by omega)
  rw [charByte, byteChar, Char.ofNat, dif_pos valid]
  exact UInt8.ofNat_toNat

/-- A cipher that writes the key and the iv in front of the plaintext, to run examples on. -/
def labelled : AesGcm where
  encrypt key iv plaintext :=
    String.ofList ((key.val ++ iv.val).map byteChar ++ plaintext.toList)
  decrypt key blob :=
    if (blob.toList.take 32).map charByte = key.val then
      some (String.ofList (blob.toList.drop 44))
    else none

theorem labelled_exact : labelled.Exact where
  decrypts key iv plaintext := by
    have keyLength := key.property
    have ivLength := iv.property
    have label : ((key.val ++ iv.val).map byteChar).length = 44 := by simp [keyLength, ivLength]
    have back : ∀ bytes : Bytes, (bytes.map byteChar).map charByte = bytes := by
      intro bytes
      rw [List.map_map]
      exact (List.map_congr_left fun byte _ => charByte_byteChar byte).trans (List.map_id bytes)
    have front : ((String.ofList ((key.val ++ iv.val).map byteChar
        ++ plaintext.toList)).toList.take 32).map charByte = key.val := by
      rw [String.toList_ofList, List.map_append, List.append_assoc,
        List.take_left' (by simp [keyLength]), back]
    refine (if_pos front).trans ?_
    rw [labelled, String.toList_ofList, List.drop_left' label, String.ofList_toList]
  one_key key other blob plaintext plaintext' first second := by
    simp only [labelled, Option.ite_none_right_eq_some] at first second
    exact Subtype.ext (second.1.symm.trans first.1)
  empty key := by
    refine if_neg fun same => ?_
    have length := congrArg List.length same
    simp [key.property] at length

/-- The key and the iv of zero bytes. -/
def zeroKey : CryptoKey :=
  ⟨List.replicate 32 0, rfl⟩

def zeroIv : Iv :=
  ⟨List.replicate 12 0, rfl⟩

/-- Which installed key new ciphertext is written under. -/
inductive KekSlot
  | primary
  | next
  deriving DecidableEq, Repr

/-- The installed keys plus the write direction. -/
structure KekRing where
  primary : String
  next : Option String
  encryptSlot : KekSlot
  deriving DecidableEq, Repr

/-- What the functions of the ring throw. -/
inductive TokenError
  | encryptSlotUnavailable
  | notBase64
  | notThirtyTwoBytes
  | undecryptable
  | noKekInstalled
  | noWindowOpen
  deriving DecidableEq, Repr

/-- The characters that String.prototype.trim removes. -/
def isTrimmed (c : Char) : Bool :=
  (0x09 ≤ c.toNat && c.toNat ≤ 0x0d) || (0x2000 ≤ c.toNat && c.toNat ≤ 0x200a)
  || [0x20, 0xa0, 0x1680, 0x2028, 0x2029, 0x202f, 0x205f, 0x3000, 0xfeff].contains c.toNat

def trim (text : String) : String :=
  String.ofList
    ((text.toList.dropWhile isTrimmed).reverse.dropWhile isTrimmed).reverse

/-- Build a ring from raw configuration values. Blank means absent. -/
def kekRing (primary : String) (next encryptSlot : Option String) : KekRing where
  primary := trim primary
  next := (next.map trim).filter fun cleaned => cleaned ≠ ""
  encryptSlot := if encryptSlot.map trim = some "next" then .next else .primary

/-- A second key is installed. -/
def rotationWindowOpen (ring : KekRing) : Bool :=
  ring.next.isSome

/-- The whitespace that atob skips. -/
def isAsciiWhitespace (c : Char) : Bool :=
  c = ' ' || c = '\t' || c = '\n' || c = '\r' || c.toNat = 0x0c

/-- The six bits that a base64 character stands for. -/
def base64Value (c : Char) : Option Nat :=
  if 'A' ≤ c && c ≤ 'Z' then some (c.toNat - 65)
  else if 'a' ≤ c && c ≤ 'z' then some (c.toNat - 71)
  else if '0' ≤ c && c ≤ '9' then some (c.toNat + 4)
  else if c = '+' then some 62
  else if c = '/' then some 63
  else none

/-- Four characters are three bytes, and the bits past the last byte are dropped. -/
def base64Bytes : List Nat → Bytes
  | a :: b :: c :: d :: rest =>
      UInt8.ofNat (a * 4 + b / 16) :: UInt8.ofNat (b % 16 * 16 + c / 4)
        :: UInt8.ofNat (c % 4 * 64 + d) :: base64Bytes rest
  | [a, b, c] => [UInt8.ofNat (a * 4 + b / 16), UInt8.ofNat (b % 16 * 16 + c / 4)]
  | [a, b] => [UInt8.ofNat (a * 4 + b / 16)]
  | [_] | [] => []

/-- At most two padding characters at the end of a text of whole groups are no data. -/
def withoutPadding (data : List Char) : List Char :=
  if data.length % 4 = 0 then
    match data.reverse with
    | '=' :: '=' :: rest => rest.reverse
    | '=' :: rest => rest.reverse
    | _ => data
  else data

/-- The bytes of a base64 text, as atob reads it. -/
def atob (text : String) : Option Bytes :=
  let data := withoutPadding (text.toList.filter fun c => !isAsciiWhitespace c)
  if data.length % 4 = 1 then none else (data.mapM base64Value).map base64Bytes

/-- A key text is a base64-encoded 32-byte key. -/
def importKek (kekBase64 : String) : Except TokenError CryptoKey :=
  match atob kekBase64 with
  | none => .error .notBase64
  | some raw => if isKey : raw.length = 32 then .ok ⟨raw, isKey⟩ else .error .notThirtyTwoBytes

/-- The key text in a slot. An empty text is no key. -/
def KekRing.key (ring : KekRing) (slot : KekSlot) : Option String :=
  (match slot with
    | .primary => some ring.primary
    | .next => ring.next).filter fun text => text ≠ ""

/-- The key named by the write slot, or a named refusal. -/
def encryptionKey (ring : KekRing) : Except TokenError String :=
  match ring.encryptSlot with
  | .primary => .ok ring.primary
  | .next =>
      match ring.key .next with
      | some next => .ok next
      | none => .error .encryptSlotUnavailable

variable (aes : AesGcm)

def encryptUnder (kekBase64 : String) (iv : Iv) (plaintext : String)
    : Except TokenError String :=
  (importKek kekBase64).map fun key => aes.encrypt key iv plaintext

def decryptUnder (kekBase64 blob : String) : Except TokenError String :=
  (importKek kekBase64).bind fun key =>
    match aes.decrypt key blob with
    | some plaintext => .ok plaintext
    | none => .error .undecryptable

/-- Encrypt a token under the write slot. -/
def encryptStudioToken (ring : KekRing) (iv : Iv) (plaintext : String)
    : Except TokenError String :=
  (encryptionKey ring).bind fun key => encryptUnder aes key iv plaintext

/-- The order in which the keys are tried: the write slot first. -/
def KekRing.order (ring : KekRing) : List KekSlot :=
  match ring.encryptSlot with
  | .next => [.next, .primary]
  | .primary => [.primary, .next]

/-- Try the slots in order. When none opens the blob, the first error is the one thrown. -/
def tryKeys (ring : KekRing) (blob : String) (firstError : Option TokenError)
    : List KekSlot → Except TokenError (KekSlot × String)
  | [] => .error (firstError.getD .noKekInstalled)
  | slot :: rest =>
      match ring.key slot with
      | none => tryKeys ring blob firstError rest
      | some key =>
          match decryptUnder aes key blob with
          | .ok plaintext => .ok (slot, plaintext)
          | .error error => tryKeys ring blob (firstError.or (some error)) rest

/-- Decrypt a stored token, and tell which key worked. -/
def decryptStudioTokenWithSlot (ring : KekRing) (blob : String)
    : Except TokenError (KekSlot × String) :=
  tryKeys aes ring blob none ring.order

/-- Decrypt a stored token under any installed key. -/
def decryptStudioToken (ring : KekRing) (blob : String) : Except TokenError String :=
  (decryptStudioTokenWithSlot aes ring blob).map Prod.snd

/-- The plaintext that the key in a slot opens a blob to. -/
def opensUnder (ring : KekRing) (slot : KekSlot) (blob : String) : Option String :=
  (ring.key slot).bind fun key => (decryptUnder aes key blob).toOption

def KekSlot.other : KekSlot → KekSlot
  | .primary => .next
  | .next => .primary

theorem KekSlot.eq_or_eq_other (slot write : KekSlot) : slot = write ∨ slot = write.other := by
  cases slot <;> cases write <;> simp [other]

variable {aes : AesGcm} {ring : KekRing} {blob plaintext : String} {slot : KekSlot}

theorem order_eq (ring : KekRing) : ring.order = [ring.encryptSlot, ring.encryptSlot.other] := by
  obtain ⟨primary, next, encryptSlot⟩ := ring
  cases encryptSlot <;> rfl

/-- The first slot is tried with its key, when it has one. -/
theorem tryKeys_cons (aes : AesGcm) (ring : KekRing) (blob : String)
    (firstError : Option TokenError) (slot : KekSlot) (rest : List KekSlot)
    : tryKeys aes ring blob firstError (slot :: rest)
      = match ring.key slot with
        | none => tryKeys aes ring blob firstError rest
        | some key =>
            match decryptUnder aes key blob with
            | .ok plaintext => .ok (slot, plaintext)
            | .error error => tryKeys aes ring blob (firstError.or (some error)) rest :=
  rfl

/-- A slot that opens the blob ends the search. -/
theorem tryKeys_of_opens (firstError : Option TokenError) (rest : List KekSlot)
    (opened : opensUnder aes ring slot blob = some plaintext)
    : tryKeys aes ring blob firstError (slot :: rest) = .ok (slot, plaintext) := by
  obtain ⟨key, installed, answer⟩ := Option.bind_eq_some_iff.mp opened
  cases decrypted : decryptUnder aes key blob with
  | ok found =>
      rw [decrypted] at answer
      cases answer
      rw [tryKeys_cons, installed]
      simp only [decrypted]
  | error error =>
      rw [decrypted] at answer
      cases answer

/-- A slot that does not open the blob leaves the search to the rest. -/
theorem tryKeys_of_not (firstError : Option TokenError) (rest : List KekSlot)
    (shut : opensUnder aes ring slot blob = none)
    : ∃ error, tryKeys aes ring blob firstError (slot :: rest)
        = tryKeys aes ring blob error rest := by
  cases installed : ring.key slot with
  | none => exact ⟨firstError, by rw [tryKeys_cons, installed]⟩
  | some key =>
      have unread : (decryptUnder aes key blob).toOption = none :=
        Option.bind_eq_none_iff.mp shut key installed
      cases decrypted : decryptUnder aes key blob with
      | ok found =>
          rw [decrypted] at unread
          cases unread
      | error error =>
          refine ⟨firstError.or (some error), ?_⟩
          rw [tryKeys_cons, installed]
          simp only [decrypted]

theorem other_ne (slot : KekSlot) : slot.other ≠ slot := by
  cases slot <;> simp [KekSlot.other]

/-- A token decrypts with the write slot when that opens it, else with the other one when that
does, and else not at all.
-/
theorem decrypt_cases (aes : AesGcm) (ring : KekRing) (blob : String)
    : (∃ plaintext, opensUnder aes ring ring.encryptSlot blob = some plaintext
        ∧ decryptStudioTokenWithSlot aes ring blob = .ok (ring.encryptSlot, plaintext))
      ∨ (∃ plaintext, opensUnder aes ring ring.encryptSlot blob = none
        ∧ opensUnder aes ring ring.encryptSlot.other blob = some plaintext
        ∧ decryptStudioTokenWithSlot aes ring blob = .ok (ring.encryptSlot.other, plaintext))
      ∨ ((∀ slot, opensUnder aes ring slot blob = none)
        ∧ ∃ error, decryptStudioTokenWithSlot aes ring blob = .error error) := by
  have tried : decryptStudioTokenWithSlot aes ring blob
      = tryKeys aes ring blob none [ring.encryptSlot, ring.encryptSlot.other] :=
    congrArg (tryKeys aes ring blob none) (order_eq ring)
  rw [tried]
  cases written : opensUnder aes ring ring.encryptSlot blob with
  | some plaintext => exact .inl ⟨plaintext, rfl, tryKeys_of_opens none _ written⟩
  | none =>
      obtain ⟨error, onward⟩ := tryKeys_of_not none [ring.encryptSlot.other] written
      cases second : opensUnder aes ring ring.encryptSlot.other blob with
      | some plaintext =>
          exact .inr (.inl ⟨plaintext, rfl, rfl, onward.trans (tryKeys_of_opens error [] second)⟩)
      | none =>
          obtain ⟨last, refused⟩ := tryKeys_of_not error [] second
          refine .inr (.inr ⟨fun slot => ?_, _, onward.trans refused⟩)
          rcases slot.eq_or_eq_other ring.encryptSlot with isWrite | isOther
          · rw [isWrite, written]
          · rw [isOther, second]

/-- A slot opens a blob with the raw key that its text encodes. -/
theorem opensUnder_eq_some
    : opensUnder aes ring slot blob = some plaintext
      ↔ ∃ text key, ring.key slot = some text ∧ importKek text = .ok key
          ∧ aes.decrypt key blob = some plaintext := by
  constructor
  · intro opened
    obtain ⟨text, installed, answer⟩ := Option.bind_eq_some_iff.mp opened
    cases imported : importKek text with
    | error error =>
        rw [decryptUnder, imported] at answer
        cases answer
    | ok key =>
        cases decrypted : aes.decrypt key blob with
        | none => simp [decryptUnder, imported, decrypted, Except.bind, Except.toOption] at answer
        | some found =>
            simp only [decryptUnder, imported, decrypted, Except.bind, Except.toOption,
              Option.some.injEq] at answer
            exact ⟨text, key, installed, imported, answer ▸ decrypted⟩
  · intro ⟨text, key, installed, imported, decrypted⟩
    simp [opensUnder, installed, decryptUnder, imported, decrypted, Except.bind,
      Except.toOption]

/-- No two slots open a blob to different tokens. -/
theorem AesGcm.Exact.opensUnder_unique (exactly : aes.Exact) {other : KekSlot} {found : String}
    (opened : opensUnder aes ring slot blob = some plaintext)
    (again : opensUnder aes ring other blob = some found)
    : found = plaintext := by
  obtain ⟨_, key, _, _, decrypted⟩ := opensUnder_eq_some.mp opened
  obtain ⟨_, key', _, _, decrypted'⟩ := opensUnder_eq_some.mp again
  have same := exactly.one_key key key' blob plaintext found decrypted decrypted'
  rw [same, decrypted] at decrypted'
  exact (Option.some.inj decrypted').symm

/-- What is opened is not the empty text. -/
theorem AesGcm.Exact.opened_ne_empty (exactly : aes.Exact)
    (opened : opensUnder aes ring slot blob = some plaintext)
    : blob ≠ "" := by
  obtain ⟨_, key, _, _, decrypted⟩ := opensUnder_eq_some.mp opened
  intro isEmpty
  rw [isEmpty, exactly.empty] at decrypted
  cases decrypted

/-- A token is read as what some slot opens it to. -/
theorem AesGcm.Exact.decryptStudioToken_eq (exactly : aes.Exact)
    : decryptStudioToken aes ring blob = .ok plaintext
      ↔ ∃ slot, opensUnder aes ring slot blob = some plaintext := by
  rcases decrypt_cases aes ring blob with
    ⟨found, written, decrypted⟩ | ⟨found, _, second, decrypted⟩ | ⟨shut, error, refused⟩
  · rw [decryptStudioToken, decrypted]
    constructor
    · intro answer
      cases answer
      exact ⟨_, written⟩
    · intro ⟨slot, opened⟩
      rw [exactly.opensUnder_unique written opened]
      rfl
  · rw [decryptStudioToken, decrypted]
    constructor
    · intro answer
      cases answer
      exact ⟨_, second⟩
    · intro ⟨slot, opened⟩
      rw [exactly.opensUnder_unique second opened]
      rfl
  · rw [decryptStudioToken, refused]
    constructor
    · intro answer
      cases answer
    · intro ⟨slot, opened⟩
      rw [shut slot] at opened
      cases opened

/-- The raw key of the write slot, when that holds a key. -/
def KekRing.writeKey (ring : KekRing) : Except TokenError CryptoKey :=
  (encryptionKey ring).bind importKek

theorem importKek_empty : importKek "" = .error .notThirtyTwoBytes := rfl

/-- The write key is the one that the text in the write slot encodes; no key has an empty text. -/
theorem writeKey_eq {key : CryptoKey}
    : ring.writeKey = .ok key
      ↔ ∃ text, ring.key ring.encryptSlot = some text ∧ importKek text = .ok key := by
  rw [KekRing.writeKey, encryptionKey]
  cases writes : ring.encryptSlot with
  | primary =>
      by_cases blank : ring.primary = ""
      · simp [KekRing.key, blank, Except.bind, importKek_empty]
      · simp [KekRing.key, blank, Except.bind]
  | next =>
      cases ring.key .next with
      | none => simp [Except.bind]
      | some text => simp [Except.bind]

/-- A token is encrypted with the write key. -/
theorem encryptStudioToken_eq (aes : AesGcm) (ring : KekRing) (iv : Iv) (plaintext : String)
    : encryptStudioToken aes ring iv plaintext
      = ring.writeKey.map fun key => aes.encrypt key iv plaintext := by
  rw [encryptStudioToken, KekRing.writeKey]
  cases encryptionKey ring <;> rfl

/-- What is encrypted opens under the write slot. -/
theorem AesGcm.Exact.opens_encrypted (exactly : aes.Exact) {iv : Iv}
    (encrypted : encryptStudioToken aes ring iv plaintext = .ok blob)
    : opensUnder aes ring ring.encryptSlot blob = some plaintext := by
  rw [encryptStudioToken_eq] at encrypted
  cases writes : ring.writeKey with
  | error error =>
      rw [writes] at encrypted
      cases encrypted
  | ok key =>
      rw [writes] at encrypted
      cases encrypted
      obtain ⟨text, installed, imported⟩ := writeKey_eq.mp writes
      exact opensUnder_eq_some.mpr
        ⟨text, key, installed, imported, exactly.decrypts key iv plaintext⟩

end ControlPlane.Kek
