import ControlPlane.Library.PercentText

/-! The URI encoding of the signature: the text that it makes, and its decoding. -/

namespace ControlPlane.SigV4

open ControlPlane.Library.Percent

/-- The characters that stay. -/
def isUnreserved (c : Char) : Bool :=
  c.isAlphanum || decide (c ∈ ['-', '.', '_', '~'])

def encodeChar (encodeSlash : Bool) (ch : Char) : List Char :=
  if isUnreserved ch then [ch]
  else if ch = '/' then if encodeSlash then ['%', '2', 'F'] else ['/']
  else percentChar ch

/-- RFC 3986 encoding. The slashes stay in a path, and nowhere else. -/
def uriEncode (str : List Char) (encodeSlash : Bool) : List Char :=
  str.flatMap (encodeChar encodeSlash)

/-- What encoded text consists of. -/
inductive UriText (slashes : Bool) : List Char → Prop
  | nil : UriText slashes []
  | unreserved {c rest} (kept : isUnreserved c = true) (more : UriText slashes rest)
    : UriText slashes (c :: rest)
  | slash {rest} (kept : slashes = true) (more : UriText slashes rest)
    : UriText slashes ('/' :: rest)
  | octet {high low rest} (upper : isUpperHex high = true ∧ isUpperHex low = true)
    (more : UriText slashes rest)
    : UriText slashes ('%' :: high :: low :: rest)

theorem uriEncode_cons (ch : Char) (str : List Char) (encodeSlash : Bool)
    : uriEncode (ch :: str) encodeSlash = encodeChar encodeSlash ch ++ uriEncode str encodeSlash :=
  List.flatMap_cons

/-- How a character is encoded, in three cases. -/
theorem encodeChar_cases (encodeSlash : Bool) (ch : Char)
    : (isUnreserved ch = true ∧ encodeChar encodeSlash ch = [ch])
      ∨ (ch = '/' ∧ encodeSlash = false ∧ encodeChar encodeSlash ch = ['/'])
      ∨ (isUnreserved ch = false ∧ encodeChar encodeSlash ch = percentChar ch) := by
  rw [encodeChar]
  split
  · next kept => exact .inl ⟨kept, rfl⟩
  split
  · next isSlash =>
      subst isSlash
      cases encodeSlash with
      | false => exact .inr (.inl ⟨rfl, rfl, rfl⟩)
      | true => exact .inr (.inr ⟨rfl, by decide⟩)
  · next reserved _ => exact .inr (.inr ⟨Bool.eq_false_iff.mpr reserved, rfl⟩)

theorem UriText.percents {slashes : Bool} {rest : List Char} (more : UriText slashes rest)
    (octets : List UInt8)
    : UriText slashes (octets.flatMap percent ++ rest) := by
  induction octets with
  | nil => exact more
  | cons octet octets ih =>
      have below := octet.toNat_lt
      have high : isUpperHex (hexDigit (octet.toNat / 16)) = true :=
        isUpperHex_hexDigit (by omega)
      have low : isUpperHex (hexDigit (octet.toNat % 16)) = true :=
        isUpperHex_hexDigit (by omega)
      exact .octet ⟨high, low⟩ ih

/-- Encoded text has unreserved characters and octets only, and the slashes where they are kept. -/
theorem uriText_uriEncode (str : List Char) (encodeSlash : Bool)
    : UriText (!encodeSlash) (uriEncode str encodeSlash) := by
  induction str with
  | nil => exact .nil
  | cons ch str ih =>
      rw [uriEncode_cons]
      rcases encodeChar_cases encodeSlash ch with ⟨kept, text⟩ | ⟨-, rfl, text⟩ | ⟨-, text⟩
      · rw [text]
        exact .unreserved kept ih
      · rw [text]
        exact .slash rfl ih
      · rw [text]
        exact ih.percents _

/-- Decoding gives back what was encoded, whatever follows it. -/
theorem decodeFrom_uriEncode (str rest : List Char) (encodeSlash : Bool)
    : decodeFrom [] 0 (uriEncode str encodeSlash ++ rest)
      = (decodeFrom [] 0 rest).map (str ++ ·) := by
  induction str with
  | nil => simp [uriEncode]
  | cons ch str ih =>
      have one :
          decodeFrom [] 0 (encodeChar encodeSlash ch ++ (uriEncode str encodeSlash ++ rest))
            = (decodeFrom [] 0 (uriEncode str encodeSlash ++ rest)).map (ch :: ·) := by
        rcases encodeChar_cases encodeSlash ch with ⟨kept, text⟩ | ⟨rfl, -, text⟩ | ⟨-, text⟩
        · have plain : ch ≠ '%' := by
            intro h
            obtain rfl := h
            exact absurd kept (by decide)
          rw [text]
          exact decodeFrom_plain plain _
        · rw [text]
          exact decodeFrom_plain (by decide) _
        · rw [text]
          exact decodeFrom_percentChar ch _
      rw [uriEncode_cons, List.append_assoc, one, ih, Option.map_map]
      rfl

theorem decodeURIComponent_uriEncode (str : List Char) (encodeSlash : Bool)
    : decodeURIComponent (uriEncode str encodeSlash) = some str := by
  have whole := decodeFrom_uriEncode str [] encodeSlash
  rwa [List.append_nil, decodeFrom, Option.map_some, List.append_nil] at whole

theorem uriEncode_injective {str other : List Char} {encodeSlash : Bool}
    (same : uriEncode str encodeSlash = uriEncode other encodeSlash)
    : str = other := by
  have read := congrArg decodeURIComponent same
  rw [decodeURIComponent_uriEncode, decodeURIComponent_uriEncode] at read
  exact Option.some.inj read

end ControlPlane.SigV4
