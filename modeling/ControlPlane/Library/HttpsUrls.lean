import ControlPlane.Library.UrlPaths

/-! URLs of the scheme https, as the parser of the URL standard reads them, as far as their host is a
plain domain: one that the host parser leaves as it is.
-/

namespace ControlPlane.Library.HttpsUrls

open UrlPaths

/-- The host and the path of a URL. -/
structure ParsedUrl where
  host : List Char
  path : List Char
  deriving DecidableEq, Repr

def isHostChar (c : Char) : Bool :=
  c.isLower || c.isDigit || c = '-' || c = '.'

/-- A label that stands for itself. -/
def isPlainLabel (label : List Char) : Bool :=
  label ≠ [] ∧ ¬ ['x', 'n', '-', '-'].isPrefixOf label

/-- Small letters, digits and hyphens in labels, none of them in Punycode, and the last one made of
letters, so that the host is no number.
-/
def isPlainDomain (host : List Char) : Bool :=
  host.all isHostChar && (host.splitOn '.').all isPlainLabel
  && (host.splitOn '.').getLast?.any fun label => label.all Char.isLower

/-- What ends a host. -/
def endsHost (c : Char) : Bool :=
  c = '/' ∨ c = '\\' ∨ c = '?' ∨ c = '#'

/-- The URL that a text is parsed to. There is none where the text has another scheme, or a host that
is not plain.
-/
def parseHttps (text : List Char) : Option ParsedUrl :=
  let read := cleaned text
  if "https://".toList.isPrefixOf read then
    let behind := read.drop 8
    let host := behind.takeWhile fun c => !endsHost c
    if isPlainDomain host then
      some { host := host, path := pathname (behind.drop host.length) }
    else none
  else none

-----------------------------------------------------------------------------------------
-- URLs that are parsed as they are
-----------------------------------------------------------------------------------------

/-- The characters of words, and dots, stand in a path as they are. -/
theorem isCalm_of_word {c : Char} (word : c.isAlphanum = true ∨ c = '-' ∨ c = '_' ∨ c = '.')
    : isCalm c = true := by
  rcases word with alphanum | rfl | rfl | rfl
  · have ascii : c.toNat < 128 := by
      unfold Char.isAlphanum Char.isAlpha Char.isUpper Char.isLower Char.isDigit at alphanum
      simp only [Bool.or_eq_true, Bool.and_eq_true, decide_eq_true_eq, ge_iff_le,
        UInt32.le_iff_toNat_le] at alphanum
      have value : c.toNat = c.val.toNat := rfl
      have upper : 'Z'.val.toNat = 90 := rfl
      have lower : 'z'.val.toNat = 122 := rfl
      have digit : '9'.val.toNat = 57 := rfl
      omega
    have all : ∀ n < 128, (Char.ofNat n).isAlphanum = true → isCalm (Char.ofNat n) = true := by
      decide
    have one := all c.toNat ascii
    rw [Char.ofNat_toNat] at one
    exact one alphanum
  all_goals rfl

theorem word_of_isHostChar {c : Char} (inHost : isHostChar c = true)
    : c.isAlphanum = true ∨ c = '-' ∨ c = '_' ∨ c = '.' := by
  simp only [isHostChar, Bool.or_eq_true, decide_eq_true_eq] at inHost
  rcases inHost with ((lower | digit) | isDash) | isDot
  · left
    unfold Char.isAlphanum Char.isAlpha
    simp [lower]
  · exact .inl (by simp [Char.isAlphanum, digit])
  · exact .inr (.inl isDash)
  · exact .inr (.inr (.inr isDot))

/-- No character of a path or a host ends a host. -/
theorem endsHost_of_isCalm {c : Char} (calm : isCalm c = true) : endsHost c = false := by
  simp only [isCalm, Bool.and_eq_true, Bool.not_eq_true', decide_eq_true_eq] at calm
  obtain ⟨⟨kept, noSlash⟩, noBackslash⟩ := calm
  simp only [endsHost, decide_eq_false_iff_not, not_or]
  refine ⟨noSlash, noBackslash, ?_, ?_⟩
  · intro h
    obtain rfl := h
    exact absurd kept (by decide)
  · intro h
    obtain rfl := h
    exact absurd kept (by decide)

theorem hostChars {host : List Char} (plain : isPlainDomain host = true)
    : ∀ c ∈ host, isHostChar c = true := by
  simp only [isPlainDomain, Bool.and_eq_true] at plain
  exact List.all_eq_true.mp plain.1.1

/-- The path of calm segments without dots is their text. -/
theorem pathname_pathText {segment : List Char} {segments : List (List Char)}
    (calm : ∀ part ∈ segment :: segments, ∀ c ∈ part, isCalm c = true)
    (plain : ∀ part ∈ segment :: segments, isDots part = false)
    : pathname (pathText (segment :: segments)) = pathText (segment :: segments) := by
  have clean : cleaned (pathText (segment :: segments)) = pathText (segment :: segments) := by
    apply cleaned_eq_self
    intro c inside
    obtain ⟨part, isPart, held⟩ := List.mem_flatMap.mp inside
    rcases List.mem_cons.mp held with isSlash | inPart
    · exact .inr isSlash
    · exact .inl (calm part isPart c inPart)
  rw [pathname, clean, pathText_cons, pathStart, if_pos (.inl rfl),
    pathState_segments calm, walk_plain plain, List.nil_append, pathText_cons]

/-- A plain domain and calm segments without dots are read as they are written. -/
theorem parseHttps_segments {host segment : List Char} {segments : List (List Char)}
    (isHost : isPlainDomain host = true)
    (calm : ∀ part ∈ segment :: segments, ∀ c ∈ part, isCalm c = true)
    (plain : ∀ part ∈ segment :: segments, isDots part = false)
    : parseHttps ("https://".toList ++ (host ++ pathText (segment :: segments)))
      = some { host := host, path := pathText (segment :: segments) } := by
  have clean
      : cleaned ("https://".toList ++ (host ++ pathText (segment :: segments)))
        = "https://".toList ++ (host ++ pathText (segment :: segments)) := by
    apply cleaned_eq_self
    intro c inside
    rcases List.mem_append.mp inside with inScheme | behind
    · have scheme : "https://".toList.all (fun c => isCalm c || c == '/') = true := by decide
      simpa using List.all_eq_true.mp scheme c inScheme
    rcases List.mem_append.mp behind with inHost | inPath
    · exact .inl (isCalm_of_word (word_of_isHostChar (hostChars isHost c inHost)))
    · obtain ⟨part, isPart, held⟩ := List.mem_flatMap.mp inPath
      rcases List.mem_cons.mp held with isSlash | inPart
      · exact .inr isSlash
      · exact .inl (calm part isPart c inPart)
  have front : "https://".toList.isPrefixOf
      ("https://".toList ++ (host ++ pathText (segment :: segments))) = true := by
    rw [List.isPrefixOf_iff_prefix]
    exact List.prefix_append _ _
  have behind : ("https://".toList ++ (host ++ pathText (segment :: segments))).drop 8
      = host ++ pathText (segment :: segments) := rfl
  have taken
      : (host ++ pathText (segment :: segments)).takeWhile (fun c => !endsHost c) = host := by
    have open_ : ∀ c ∈ host, (!endsHost c) = true := by
      intro c inHost
      rw [endsHost_of_isCalm (isCalm_of_word (word_of_isHostChar (hostChars isHost c inHost)))]
      rfl
    rw [List.takeWhile_append_of_pos open_, pathText_cons, List.takeWhile_cons_of_neg (by decide),
      List.append_nil]
  simp only [parseHttps, clean, front, if_true, behind, taken, isHost]
  rw [List.drop_left, pathname_pathText calm plain]

end ControlPlane.Library.HttpsUrls
