import Mathlib.Data.List.Basic

/-! Percent encoding: the octets of a character in UTF-8, each as two hexadecimal digits, and the
decoding of whole characters.
-/

namespace ControlPlane.Library.Percent

-----------------------------------------------------------------------------------------
-- Octets
-----------------------------------------------------------------------------------------

/-- An upper-case hexadecimal digit. -/
def hexDigit (value : Nat) : Char :=
  if value < 10 then Char.ofNat (48 + value) else Char.ofNat (55 + value)

def isUpperHex (c : Char) : Bool :=
  c.isDigit || ('A' ≤ c && c ≤ 'F')

/-- The value of a digit in either case. -/
def hexValue? (c : Char) : Option Nat :=
  if c.isDigit then some (c.toNat - 48)
  else if 'A' ≤ c ∧ c ≤ 'F' then some (c.toNat - 55)
  else if 'a' ≤ c ∧ c ≤ 'f' then some (c.toNat - 87)
  else none

def percent (octet : UInt8) : List Char :=
  ['%', hexDigit (octet.toNat / 16), hexDigit (octet.toNat % 16)]

/-- A character, octet by octet. -/
def percentChar (c : Char) : List Char :=
  (String.utf8EncodeChar c).flatMap percent

def octet? (high low : Char) : Option UInt8 :=
  (hexValue? high).bind fun h => (hexValue? low).map fun l => UInt8.ofNat (16 * h + l)

-----------------------------------------------------------------------------------------
-- Decoding
-----------------------------------------------------------------------------------------

/-- How many octets the first one announces: the ones that its bits begin with. -/
def leadingOnes (octet : UInt8) : Nat :=
  if octet.toNat < 0x80 then 0
  else if octet.toNat < 0xC0 then 1
  else if octet.toNat < 0xE0 then 2
  else if octet.toNat < 0xF0 then 3
  else if octet.toNat < 0xF8 then 4
  else 5

/-- The character of octets, where they are its UTF-8. -/
def utf8Char? (octets : List UInt8) : Option Char :=
  octets.toByteArray.utf8DecodeChar? 0

/-- Decode, with octets of a character that are read already and the number of those that miss. An
octet that misses must follow at once.
-/
def decodeFrom : List UInt8 → Nat → List Char → Option (List Char)
  | _, 0, [] => some []
  | _, _ + 1, [] => none
  | octets, missing, '%' :: high :: low :: rest =>
      (octet? high low).bind fun octet =>
        match missing with
        | 0 =>
            match leadingOnes octet with
            | 0 => (decodeFrom [] 0 rest).map (Char.ofNat octet.toNat :: ·)
            | 1 => none
            | more + 2 => if more + 2 ≤ 4 then decodeFrom [octet] (more + 1) rest else none
        | 1 =>
            (utf8Char? (octets ++ [octet])).bind fun c => (decodeFrom [] 0 rest).map (c :: ·)
        | missing + 2 => decodeFrom (octets ++ [octet]) (missing + 1) rest
  | _, 0, c :: rest => if c = '%' then none else (decodeFrom [] 0 rest).map (c :: ·)
  | _, _ + 1, _ :: _ => none

/-- The decoded text. There is none where a percent sign begins no character. -/
def decodeURIComponent (text : List Char) : Option (List Char) :=
  decodeFrom [] 0 text

-----------------------------------------------------------------------------------------
-- Digits
-----------------------------------------------------------------------------------------

theorem hexValue_hexDigit {value : Nat} (below : value < 16)
    : hexValue? (hexDigit value) = some value := by
  have all : ∀ value < 16, hexValue? (hexDigit value) = some value := by decide
  exact all value below

theorem isUpperHex_hexDigit {value : Nat} (below : value < 16)
    : isUpperHex (hexDigit value) = true := by
  have all : ∀ value < 16, isUpperHex (hexDigit value) = true := by decide
  exact all value below

theorem octet_hexDigit (octet : UInt8)
    : octet? (hexDigit (octet.toNat / 16)) (hexDigit (octet.toNat % 16)) = some octet := by
  have below := octet.toNat_lt
  have high : octet.toNat / 16 < 16 := by omega
  have low : octet.toNat % 16 < 16 := by omega
  rw [octet?, hexValue_hexDigit high, hexValue_hexDigit low, Option.bind_some, Option.map_some,
    Nat.div_add_mod, UInt8.ofNat_toNat]

-----------------------------------------------------------------------------------------
-- Encoded characters are read back
-----------------------------------------------------------------------------------------

theorem utf8Char_encode (c : Char) : utf8Char? (String.utf8EncodeChar c) = some c := by
  have read := ByteArray.utf8DecodeChar?_utf8EncodeChar_append (b := ByteArray.empty) (c := c)
  rwa [ByteArray.append_empty] at read

theorem decodeFrom_plain {c : Char} (plain : c ≠ '%') (rest : List Char)
    : decodeFrom [] 0 (c :: rest) = (decodeFrom [] 0 rest).map (c :: ·) := by
  rw [decodeFrom, if_neg plain]
  exact fun _ _ _ isPercent _ => plain isPercent

/-- An escape is one octet, and what is done with it goes by how many are missing. -/
theorem decodeFrom_percent (octets : List UInt8) (missing : Nat) (octet : UInt8)
    (rest : List Char)
    : decodeFrom octets missing (percent octet ++ rest)
      = match missing with
        | 0 =>
            match leadingOnes octet with
            | 0 => (decodeFrom [] 0 rest).map (Char.ofNat octet.toNat :: ·)
            | 1 => none
            | more + 2 => if more + 2 ≤ 4 then decodeFrom [octet] (more + 1) rest else none
        | 1 =>
            (utf8Char? (octets ++ [octet])).bind fun c => (decodeFrom [] 0 rest).map (c :: ·)
        | missing + 2 => decodeFrom (octets ++ [octet]) (missing + 1) rest := by
  simp only [percent, List.cons_append, List.nil_append, decodeFrom, octet_hexDigit,
    Option.bind_some]

theorem decodeFrom_last (octets : List UInt8) (octet : UInt8) (rest : List Char)
    : decodeFrom octets 1 (percent octet ++ rest)
      = (utf8Char? (octets ++ [octet])).bind fun c => (decodeFrom [] 0 rest).map (c :: ·) :=
  decodeFrom_percent octets 1 octet rest

theorem decodeFrom_next (octets : List UInt8) (missing : Nat) (octet : UInt8) (rest : List Char)
    : decodeFrom octets (missing + 2) (percent octet ++ rest)
      = decodeFrom (octets ++ [octet]) (missing + 1) rest :=
  decodeFrom_percent octets (missing + 2) octet rest

theorem decodeFrom_first {octet : UInt8} {more : Nat} (announced : leadingOnes octet = more + 2)
    (within : more + 2 ≤ 4) (rest : List Char)
    : decodeFrom [] 0 (percent octet ++ rest) = decodeFrom [octet] (more + 1) rest := by
  simp only [decodeFrom_percent, announced, if_pos within]

theorem decodeFrom_ascii {octet : UInt8} (announced : leadingOnes octet = 0) (rest : List Char)
    : decodeFrom [] 0 (percent octet ++ rest)
      = (decodeFrom [] 0 rest).map (Char.ofNat octet.toNat :: ·) := by
  simp only [decodeFrom_percent, announced]

/-- The octets of a character after its first ones, by induction on them. -/
theorem decodeFrom_percents (octets : List UInt8) (next : UInt8) (later : List UInt8)
    (rest : List Char)
    : decodeFrom octets (later.length + 1) ((next :: later).flatMap percent ++ rest)
      = (utf8Char? (octets ++ next :: later)).bind fun c =>
          (decodeFrom [] 0 rest).map (c :: ·) := by
  induction later generalizing octets next with
  | nil => exact decodeFrom_last octets next rest
  | cons second later ih =>
      have one := decodeFrom_next octets later.length next
      rw [List.flatMap_cons, List.append_assoc, List.length_cons, one, ih, List.append_assoc]
      rfl

/-- The first octet announces how many there are. -/
theorem leadingOnes_encode (c : Char)
    : (∃ octet,
        String.utf8EncodeChar c = [octet] ∧ leadingOnes octet = 0 ∧ Char.ofNat octet.toNat = c)
      ∨ ∃ octet next later,
          String.utf8EncodeChar c = octet :: next :: later
          ∧ leadingOnes octet = later.length + 2
          ∧ later.length + 2 ≤ 4 := by
  have small (n : Nat) (below : n < 256) : (UInt8.ofNat n).toNat = n := by
    rw [UInt8.toNat_ofNat', Nat.mod_eq_of_lt below]
  simp only [String.utf8EncodeChar]
  split
  · next one =>
      refine .inl ⟨_, rfl, ?_, ?_⟩
      · rw [leadingOnes, small _ (by omega), if_pos (by omega)]
      · rw [small _ (by omega)]
        exact Char.ofNat_toNat c
  split
  · refine .inr ⟨_, _, _, rfl, ?_, by decide⟩
    rw [leadingOnes, small _ (by omega), if_neg (by omega), if_neg (by omega), if_pos (by omega)]
    rfl
  split
  · refine .inr ⟨_, _, _, rfl, ?_, by simp⟩
    rw [leadingOnes, small _ (by omega), if_neg (by omega), if_neg (by omega), if_neg (by omega),
      if_pos (by omega)]
    rfl
  · refine .inr ⟨_, _, _, rfl, ?_, by simp⟩
    rw [leadingOnes, small _ (by omega), if_neg (by omega), if_neg (by omega), if_neg (by omega),
      if_neg (by omega), if_pos (by omega)]
    rfl

/-- A character that is encoded is read back: its octets come one after the other. -/
theorem decodeFrom_percentChar (c : Char) (rest : List Char)
    : decodeFrom [] 0 (percentChar c ++ rest) = (decodeFrom [] 0 rest).map (c :: ·) := by
  have read := utf8Char_encode c
  rw [percentChar]
  obtain ⟨octet, only, announced, same⟩ | ⟨octet, next, later, octets, announced, within⟩ :=
    leadingOnes_encode c
  · rw [only, List.flatMap_singleton, decodeFrom_ascii announced, same]
  · rw [octets] at read ⊢
    have first := decodeFrom_first announced within ((next :: later).flatMap percent ++ rest)
    rw [List.flatMap_cons, List.append_assoc, first, decodeFrom_percents, List.singleton_append,
      read, Option.bind_some]

-----------------------------------------------------------------------------------------
-- Components of a URI
-----------------------------------------------------------------------------------------

/-- The characters that encodeURIComponent leaves as they are. -/
def isUriUnreserved (c : Char) : Bool :=
  c.isAlphanum || decide (c ∈ ['-', '_', '.', '!', '~', '*', '\'', '(', ')'])

def encodeURIComponent (text : List Char) : List Char :=
  text.flatMap fun c => if isUriUnreserved c then [c] else percentChar c

/-- A text of unreserved characters is its own encoding, by induction on it. -/
theorem encodeURIComponent_eq_self {text : List Char}
    (unreserved : ∀ c ∈ text, isUriUnreserved c = true)
    : encodeURIComponent text = text := by
  induction text with
  | nil => rfl
  | cons c text ih =>
      have here := unreserved c List.mem_cons_self
      have later := ih fun other inside => unreserved other (List.mem_cons_of_mem _ inside)
      rw [encodeURIComponent] at later ⊢
      rw [List.flatMap_cons, if_pos here, later, List.singleton_append]

end ControlPlane.Library.Percent
