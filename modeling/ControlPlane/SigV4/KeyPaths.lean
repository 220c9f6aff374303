import ControlPlane.Library.UrlPaths
import ControlPlane.SigV4.Canonical

/-! The path of an object key, from the URL to the signature. -/

namespace ControlPlane.SigV4

open ControlPlane.Library
open ControlPlane.Library.Percent
open ControlPlane.Library.TextOrder
open ControlPlane.Library.UrlPaths

-----------------------------------------------------------------------------------------
-- Calm characters
-----------------------------------------------------------------------------------------

theorem ascii_cases {P : Char → Prop} (all : ∀ n < 128, P (Char.ofNat n)) {c : Char}
    (ascii : c.toNat < 128)
    : P c := by
  have one := all c.toNat ascii
  rwa [Char.ofNat_toNat] at one

theorem toNat_of_isUnreserved {c : Char} (kept : isUnreserved c = true) : c.toNat < 128 := by
  unfold isUnreserved Char.isAlphanum Char.isAlpha Char.isUpper Char.isLower Char.isDigit at kept
  simp only [Bool.or_eq_true, Bool.and_eq_true, decide_eq_true_eq, UInt32.le_iff_toNat_le,
    ge_iff_le, List.mem_cons, List.not_mem_nil, or_false] at kept
  rcases kept with ((⟨-, upper⟩ | ⟨-, lower⟩) | ⟨-, digit⟩) | (rfl | rfl | rfl | rfl)
  · exact Nat.lt_of_le_of_lt upper (by decide)
  · exact Nat.lt_of_le_of_lt lower (by decide)
  · exact Nat.lt_of_le_of_lt digit (by decide)
  all_goals decide

theorem isCalm_of_isUnreserved {c : Char} (kept : isUnreserved c = true) : isCalm c = true :=
  ascii_cases (P := fun c => isUnreserved c = true → isCalm c = true) (by decide)
    (toNat_of_isUnreserved kept) kept

theorem isUnreserved_of_isUpperHex {c : Char} (upper : isUpperHex c = true)
    : isUnreserved c = true := by
  have ascii : c.toNat < 128 := by
    simp only [isUpperHex, Char.isDigit, Bool.or_eq_true, Bool.and_eq_true, decide_eq_true_eq]
      at upper
    rcases upper with ⟨-, digit⟩ | ⟨-, letter⟩
    · exact Nat.lt_of_le_of_lt digit (by decide)
    · exact Nat.lt_of_le_of_lt letter (by decide)
  exact ascii_cases (P := fun c => isUpperHex c = true → isUnreserved c = true) (by decide) ascii
    upper

/-- Encoded text is calm, but for its slashes. -/
theorem UriText.calm_or_slash {slashes : Bool} {text : List Char} (encoded : UriText slashes text)
    : ∀ c ∈ text, isCalm c = true ∨ (slashes = true ∧ c = '/') := by
  induction encoded with
  | nil => simp
  | unreserved kept more ih =>
      rw [List.forall_mem_cons]
      exact ⟨.inl (isCalm_of_isUnreserved kept), ih⟩
  | slash kept more ih =>
      rw [List.forall_mem_cons]
      exact ⟨.inr ⟨kept, rfl⟩, ih⟩
  | octet upper more ih =>
      simp only [List.forall_mem_cons]
      have high := isCalm_of_isUnreserved (isUnreserved_of_isUpperHex upper.1)
      have low := isCalm_of_isUnreserved (isUnreserved_of_isUpperHex upper.2)
      exact ⟨.inl (by decide), .inl high, .inl low, ih⟩

theorem UriText.isCalm {text : List Char} (encoded : UriText false text)
    : ∀ c ∈ text, isCalm c = true := by
  intro c inside
  rcases encoded.calm_or_slash c inside with calm | ⟨kept, -⟩
  · exact calm
  · exact absurd kept (by decide)

-----------------------------------------------------------------------------------------
-- Segments of a key
-----------------------------------------------------------------------------------------

def segments (key : Text) : List Text :=
  key.splitOn '/'

theorem uriEncode_append (str other : Text) (encodeSlash : Bool)
    : uriEncode (str ++ other) encodeSlash
      = uriEncode str encodeSlash ++ uriEncode other encodeSlash :=
  List.flatMap_append

/-- Slashes stay between the encoded segments, by induction on them. -/
theorem uriEncode_intercalate (parts : List Text)
    : uriEncode (['/'].intercalate parts) false
      = ['/'].intercalate (parts.map fun part => uriEncode part false) := by
  have slash : uriEncode ['/'] false = ['/'] := by decide
  induction parts with
  | nil => rfl
  | cons part parts ih =>
      cases parts with
      | nil => simp
      | cons next more =>
          rw [List.intercalate_cons_cons, uriEncode_append, uriEncode_append, slash, ih]
          simp only [List.map_cons, List.intercalate_cons_cons]

theorem uriEncode_segments (key : Text)
    : uriEncode key false
      = ['/'].intercalate ((segments key).map fun segment => uriEncode segment false) := by
  have whole : ['/'].intercalate (segments key) = key := List.intercalate_splitOn '/'
  rw [← uriEncode_intercalate, whole]

/-- Where there is no slash, it makes no difference what is done with it. -/
theorem uriEncode_whole {str : Text} (whole : '/' ∉ str) : uriEncode str false = uriEncode str true := by
  refine List.flatMap_congr fun ch inside => ?_
  have apart : ch ≠ '/' := fun same => whole (same ▸ inside)
  simp only [encodeChar, if_neg apart]

/-- A segment is encoded without a slash. -/
theorem uriText_segment {key segment : Text} (isPart : segment ∈ segments key)
    : UriText false (uriEncode segment false) := by
  rw [uriEncode_whole (TextParts.not_mem_of_mem_splitOn isPart)]
  exact uriText_uriEncode segment true

theorem slash_not_mem_segment {key segment : Text} (isPart : segment ∈ segments key)
    : '/' ∉ uriEncode segment false := by
  intro inside
  exact absurd ((uriText_segment isPart).isCalm '/' inside) (by decide)

/-- An encoded segment is a dot segment where the segment itself is one. -/
theorem isDots_uriEncode (segment : Text)
    : isDots (uriEncode segment false) = true ↔ segment = ['.'] ∨ segment = ['.', '.'] := by
  constructor
  · intro dots
    have read := decode_dots dots
    rwa [decodeURIComponent_uriEncode, Option.some_inj, Option.some_inj] at read
  · intro h
    rcases h with rfl | rfl
    · decide
    · decide

-----------------------------------------------------------------------------------------
-- The path
-----------------------------------------------------------------------------------------

/-- The path that the URL has for a key: its encoded segments, walked. -/
def walked (key : Text) : List Text :=
  walk [] ((segments key).map fun segment => uriEncode segment false)

theorem pathname_key (key : Text)
    : pathname ('/' :: uriEncode key false) = pathText (walked key) := by
  have read : cleaned ('/' :: uriEncode key false) = '/' :: uriEncode key false := by
    apply cleaned_eq_self
    intro c inside
    rcases List.mem_cons.mp inside with isSlash | later
    · exact .inr isSlash
    · exact ((uriText_uriEncode key false).calm_or_slash c later).imp id And.right
  have calm : ∀ part ∈ (segments key).map fun segment => uriEncode segment false,
      ∀ c ∈ part, isCalm c = true := by
    intro part isPart
    obtain ⟨segment, isSegment, rfl⟩ := List.mem_map.mp isPart
    exact (uriText_segment isSegment).isCalm
  have some : (segments key).map (fun segment => uriEncode segment false) ≠ [] := by
    simp [segments, List.splitOn_ne_nil]
  rw [pathname, read, pathStart, if_pos (.inl rfl), uriEncode_segments, walked]
  obtain ⟨first, more, parts⟩ := List.exists_cons_of_ne_nil some
  rw [parts] at calm ⊢
  rw [pathState_segments calm]

theorem uriEncode_pathText (parts : List Text)
    : uriEncode (pathText parts) false
      = pathText (parts.map fun part => uriEncode part false) := by
  induction parts with
  | nil => rfl
  | cons part parts ih =>
      have split (first : Text) (more : List Text)
          : pathText (first :: more) = '/' :: first ++ pathText more :=
        List.flatMap_cons
      have slash : encodeChar false '/' = ['/'] := by decide
      rw [List.map_cons, split, split, uriEncode_append, uriEncode_cons, slash, ih]
      rfl

/-- What is walked is encoded text. -/
theorem encoded_walked {key part : Text} (inside : part ∈ walked key)
    : ∃ text, uriEncode text false = part := by
  rcases mem_walk inside with earlier | ⟨isPart, -⟩ | empty
  · exact absurd earlier List.not_mem_nil
  · obtain ⟨segment, -, encoded⟩ := List.mem_map.mp isPart
    exact ⟨segment, encoded⟩
  · exact ⟨[], empty.symm⟩

theorem walked_ne_nil (key : Text) : walked key ≠ [] := by
  have some : segments key ≠ [] := List.splitOn_ne_nil '/' key
  obtain ⟨first, more, parts⟩ := List.exists_cons_of_ne_nil some
  rw [walked, parts, List.map_cons]
  exact walk_ne_nil _ _ _

/-- A path of encoded text is signed as it is: it decodes, and is encoded again. -/
theorem canonicalUri_walked (key : Text)
    : canonicalUri (pathText (walked key)) = some (pathText (walked key)) := by
  let decoded (part : Text) : Text := (decodeURIComponent part).getD []
  have back : (walked key).map (fun part => uriEncode (decoded part) false) = walked key := by
    conv_rhs => rw [← List.map_id (walked key)]
    refine List.map_congr_left fun part inside => ?_
    obtain ⟨text, rfl⟩ := encoded_walked inside
    simp only [decoded, decodeURIComponent_uriEncode, Option.getD_some, id]
  have text :
      uriEncode (pathText ((walked key).map decoded)) false = pathText (walked key) := by
    rw [uriEncode_pathText, List.map_map]
    exact congrArg pathText back
  have some : pathText (walked key) ≠ [] := by
    obtain ⟨first, more, parts⟩ := List.exists_cons_of_ne_nil (walked_ne_nil key)
    rw [parts, pathText_cons]
    exact List.cons_ne_nil _ _
  rw [canonicalUri, if_neg some]
  nth_rewrite 1 [← text]
  rw [decodeURIComponent_uriEncode, Option.map_some, text]

/-- A segment that is walked is whole, and no dot segment. -/
theorem plain_walked {key part : Text} (inside : part ∈ walked key)
    : '/' ∉ part ∧ isDots part = false := by
  rcases mem_walk inside with earlier | ⟨isPart, plain⟩ | rfl
  · exact absurd earlier List.not_mem_nil
  · obtain ⟨segment, isSegment, rfl⟩ := List.mem_map.mp isPart
    exact ⟨slash_not_mem_segment isSegment, plain⟩
  · exact ⟨List.not_mem_nil, by decide⟩

theorem pathText_segments (key : Text)
    : pathText ((segments key).map fun segment => uriEncode segment false)
      = '/' :: uriEncode key false := by
  have some : (segments key).map (fun segment => uriEncode segment false) ≠ [] := by
    simp [segments, List.splitOn_ne_nil]
  obtain ⟨first, more, parts⟩ := List.exists_cons_of_ne_nil some
  rw [uriEncode_segments, parts, pathText_cons]

/-- The path that is signed is the key's own exactly where no segment of the key is a dot segment. -/
theorem canonicalUri_key_iff (key : Text)
    : canonicalUri (pathname ('/' :: uriEncode key false)) = some ('/' :: uriEncode key false)
      ↔ ∀ segment ∈ segments key, segment ≠ ['.'] ∧ segment ≠ ['.', '.'] := by
  rw [pathname_key, canonicalUri_walked, Option.some_inj, ← pathText_segments]
  constructor
  · intro same segment isSegment
    have parts :
        walked key = (segments key).map fun segment => uriEncode segment false := by
      apply pathText_injective (fun part inside => (plain_walked inside).1) _ same
      intro part isPart
      obtain ⟨other, isOther, rfl⟩ := List.mem_map.mp isPart
      exact slash_not_mem_segment isOther
    have inside : uriEncode segment false ∈ walked key := by
      rw [parts]
      exact List.mem_map.mpr ⟨segment, isSegment, rfl⟩
    have noDots : ¬(segment = ['.'] ∨ segment = ['.', '.']) := by
      rw [← isDots_uriEncode, (plain_walked inside).2]
      decide
    exact not_or.mp noDots
  · intro noDots
    have plain : ∀ part ∈ (segments key).map fun segment => uriEncode segment false,
        isDots part = false := by
      intro part isPart
      obtain ⟨segment, isSegment, rfl⟩ := List.mem_map.mp isPart
      rw [Bool.eq_false_iff, Ne, isDots_uriEncode, not_or]
      exact noDots segment isSegment
    rw [walked, walk_plain plain, List.nil_append]

-----------------------------------------------------------------------------------------
-- Canonicalisation
-----------------------------------------------------------------------------------------

/-- The encoding is sound, canonical requests are sorted whatever the order of what they are built
from, and a key's path is signed as given.
-/
structure SignedAsGiven (platform : Platform) (key : Text) : Prop where
  encoded : ∀ s encodeSlash, UriText (!encodeSlash) (uriEncode s encodeSlash)
  decoded : ∀ s encodeSlash, decodeURIComponent (uriEncode s encodeSlash) = some s
  reordered
    : ∀ req searchParams headers, req.url.searchParams.Perm searchParams
      → KeepsEqualNames platform req.headers headers
      → signSigV4 platform (req.reordered searchParams headers) = signSigV4 platform req
  sorted
    : ∀ req result, signSigV4 platform req = some result
      → ∃ canonical : CanonicalRequest,
          result.canonicalRequest = canonical.text ∧ canonical.Sorted platform req
  path
    : canonicalUri (pathname ('/' :: uriEncode key false)) = some ('/' :: uriEncode key false)

/-- A key is signed as given exactly where none of its segments is `.` or `..`. -/
theorem signedAsGiven_iff (platform : Platform) (key : Text)
    : SignedAsGiven platform key
      ↔ ∀ segment ∈ segments key, segment ≠ ['.'] ∧ segment ≠ ['.', '.'] := by
  constructor
  · intro given
    exact (canonicalUri_key_iff key).mp given.path
  · intro noDots
    exact
      {
        encoded := uriText_uriEncode,
        decoded := decodeURIComponent_uriEncode,
        reordered := fun req _ _ => signSigV4_reordered req,
        sorted := fun req _ => sorted_signSigV4 req,
        path := (canonicalUri_key_iff key).mpr noDots
      }

/-- A platform with ASCII letters and no digests. -/
def asciiPlatform : Platform where
  sha256 := fun _ => []
  hmac := fun _ _ => []
  toLowerCase := List.map Char.toLower
  toUpperCase := List.map Char.toUpper
  lower_lower := by
    intro text
    rw [List.map_map]
    exact List.map_congr_left fun c _ => toLower_toLower c

/-- The URL of the key `a/../b` is the URL of `b`, and that is what is signed. -/
theorem collapsed_parent : ¬SignedAsGiven asciiPlatform ['a', '/', '.', '.', '/', 'b'] := by
  intro given
  have signed :
      canonicalUri (pathname ('/' :: uriEncode ['a', '/', '.', '.', '/', 'b'] false))
        = some ['/', 'b'] := by
    decide +kernel
  have asGiven := signed.symm.trans given.path
  exact absurd asGiven (by decide)

end ControlPlane.SigV4
