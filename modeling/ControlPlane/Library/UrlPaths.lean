import ControlPlane.Library.PercentText
import Mathlib.Data.List.DropRight

/-! The path of a URL with a special scheme, as the parser of the URL standard reads it from the text
behind the host.
-/

namespace ControlPlane.Library.UrlPaths

open Percent (percentChar decodeFrom decodeFrom_plain decodeURIComponent)

/-- The characters that a path has percent-encoded. -/
def inPathSet (c : Char) : Bool :=
  c.toNat < 0x20 || 0x7E < c.toNat
  || decide (c ∈ [' ', '"', '#', '<', '>', '?', '^', '`', '{', '}'])

def encodeInPath (c : Char) : List Char :=
  if inPathSet c then percentChar c else [c]

/-- A dot may be percent-encoded, in either case. -/
def isSingleDot (segment : List Char) : Bool :=
  decide (segment.map Char.toLower ∈ [['.'], ['%', '2', 'e']])

def isDoubleDot (segment : List Char) : Bool :=
  decide
    (segment.map Char.toLower
      ∈ [['.', '.'], ['.', '%', '2', 'e'], ['%', '2', 'e', '.'],
          ['%', '2', 'e', '%', '2', 'e']])

/-- The path with one more segment. A dot segment adds none, and two dots take the last one; at the
end of the path an empty segment stands for either.
-/
def endSegment (path : List (List Char)) (segment : List Char) (more : Bool) : List (List Char) :=
  if isDoubleDot segment then if more then path.dropLast else path.dropLast ++ [[]]
  else if isSingleDot segment then if more then path else path ++ [[]]
  else path ++ [segment]

/-- The path state: the segments that have ended, and the one that is being read. -/
def pathState : List (List Char) → List Char → List Char → List (List Char)
  | path, buffer, [] => endSegment path buffer false
  | path, buffer, c :: rest =>
      if c = '/' ∨ c = '\\' then pathState (endSegment path buffer true) [] rest
      else if c = '?' ∨ c = '#' then endSegment path buffer false
      else pathState path (buffer ++ encodeInPath c) rest

/-- A slash in front of the path begins its first segment. -/
def pathStart : List Char → List (List Char)
  | [] => pathState [] [] []
  | c :: rest => if c = '/' ∨ c = '\\' then pathState [] [] rest else pathState [] [] (c :: rest)

/-- What the parser takes out before it starts. -/
def cleaned (text : List Char) : List Char :=
  (text.rdropWhile fun c => c.toNat ≤ 0x20).filter fun c => c ∉ ['\t', '\n', '\r']

def pathText (path : List (List Char)) : List Char :=
  path.flatMap ('/' :: ·)

/-- The path of a URL, from the text behind its host. -/
def pathname (text : List Char) : List Char :=
  pathText (pathStart (cleaned text))

-----------------------------------------------------------------------------------------
-- Segments
-----------------------------------------------------------------------------------------

/-- A character that a path has as it is, within a segment. -/
def isCalm (c : Char) : Bool :=
  !inPathSet c && c ≠ '/' && c ≠ '\\'

/-- The path after segments, where the last one ends it. -/
def walk : List (List Char) → List (List Char) → List (List Char)
  | path, [] => path
  | path, [segment] => endSegment path segment false
  | path, segment :: next :: more => walk (endSegment path segment true) (next :: more)

/-- A dot segment, of either kind. -/
def isDots (segment : List Char) : Bool :=
  isDoubleDot segment || isSingleDot segment

theorem pathState_calm {chunk : List Char} (calm : ∀ c ∈ chunk, isCalm c = true)
    (path : List (List Char)) (buffer rest : List Char)
    : pathState path buffer (chunk ++ rest) = pathState path (buffer ++ chunk) rest := by
  induction chunk generalizing buffer with
  | nil => rw [List.nil_append, List.append_nil]
  | cons c chunk ih =>
      have front : isCalm c = true := calm c List.mem_cons_self
      simp only [isCalm, Bool.and_eq_true, Bool.not_eq_true', decide_eq_true_eq] at front
      obtain ⟨⟨kept, noSlash⟩, noBackslash⟩ := front
      have noEnd : ¬(c = '?' ∨ c = '#') := by
        rintro (rfl | rfl) <;> exact absurd kept (by decide)
      have later := ih fun other inside => calm other (List.mem_cons_of_mem _ inside)
      rw [List.cons_append, pathState, if_neg (not_or.mpr ⟨noSlash, noBackslash⟩), if_neg noEnd,
        later, encodeInPath, kept, List.append_assoc]
      rfl

/-- Calm text between slashes is read as it is. -/
theorem cleaned_eq_self {text : List Char} (calm : ∀ c ∈ text, isCalm c = true ∨ c = '/')
    : cleaned text = text := by
  have visible : ∀ c ∈ text, 0x20 < c.toNat := by
    intro c inside
    rcases calm c inside with isCalm | rfl
    · simp only [UrlPaths.isCalm, inPathSet, Bool.and_eq_true, Bool.not_eq_true',
        Bool.or_eq_false_iff, decide_eq_false_iff_not, List.mem_cons, not_or] at isCalm
      have notSpace : c.toNat ≠ 0x20 := fun same =>
        isCalm.1.1.2.1 (Char.toNat_inj.mp same)
      omega
    · decide
  have kept : (text.rdropWhile fun c => c.toNat ≤ 0x20) = text := by
    rw [List.rdropWhile_eq_self_iff]
    intro nonempty
    have last := visible _ (List.getLast_mem nonempty)
    simpa using last
  rw [cleaned, kept, List.filter_eq_self]
  intro c inside
  have above := visible c inside
  rw [decide_eq_true_eq]
  intro control
  simp only [List.mem_cons, List.not_mem_nil, or_false] at control
  rcases control with rfl | rfl | rfl <;> exact absurd above (by decide)

/-- The path of calm segments with slashes between them, by induction on them. -/
theorem pathState_segments {segment : List Char} {segments : List (List Char)}
    (calm : ∀ part ∈ segment :: segments, ∀ c ∈ part, isCalm c = true)
    (path : List (List Char))
    : pathState path [] (['/'].intercalate (segment :: segments))
      = walk path (segment :: segments) := by
  induction segments generalizing segment path with
  | nil =>
      have one := pathState_calm (calm segment List.mem_cons_self) path [] []
      rw [List.append_nil, List.nil_append] at one
      rw [List.intercalate_singleton, one, pathState, walk]
  | cons next more ih =>
      have one := pathState_calm (calm segment List.mem_cons_self) path []
      have later := ih fun part inside => calm part (List.mem_cons_of_mem _ inside)
      rw [List.intercalate_cons_cons, List.append_assoc, one, List.nil_append, List.singleton_append,
        pathState, if_pos (.inl rfl), later, walk]

theorem endSegment_plain {segment : List Char} (plain : isDots segment = false)
    (path : List (List Char)) (more : Bool)
    : endSegment path segment more = path ++ [segment] := by
  rw [isDots, Bool.or_eq_false_iff] at plain
  simp only [endSegment, plain.1, plain.2, Bool.false_eq_true, if_false]

/-- Without dot segments, every segment is added. -/
theorem walk_plain {segments : List (List Char)}
    (plain : ∀ segment ∈ segments, isDots segment = false) (path : List (List Char))
    : walk path segments = path ++ segments := by
  induction segments generalizing path with
  | nil => rw [walk, List.append_nil]
  | cons segment more ih =>
      have one := endSegment_plain (plain segment List.mem_cons_self)
      have later := ih fun other inside => plain other (List.mem_cons_of_mem _ inside)
      cases more with
      | nil => rw [walk, one]
      | cons next more => rw [walk, one, later, List.append_assoc, List.singleton_append]

/-- A path that has ended has a segment. -/
theorem walk_ne_nil (segment : List Char) (segments path : List (List Char))
    : walk path (segment :: segments) ≠ [] := by
  induction segments generalizing segment path with
  | nil =>
      simp only [walk, endSegment, Bool.false_eq_true, if_false]
      split_ifs <;> simp
  | cons next more ih =>
      rw [walk]
      exact ih next _

theorem mem_endSegment {path : List (List Char)} {segment part : List Char} {more : Bool}
    (inside : part ∈ endSegment path segment more)
    : part ∈ path ∨ (part = segment ∧ isDots segment = false) ∨ part = [] := by
  rw [endSegment] at inside
  split at inside
  · split at inside
    · exact .inl (List.dropLast_subset _ inside)
    · rcases List.mem_append.mp inside with earlier | last
      · exact .inl (List.dropLast_subset _ earlier)
      · exact .inr (.inr (List.mem_singleton.mp last))
  split at inside
  · split at inside
    · exact .inl inside
    · rcases List.mem_append.mp inside with earlier | last
      · exact .inl earlier
      · exact .inr (.inr (List.mem_singleton.mp last))
  · next noDouble noSingle =>
      rcases List.mem_append.mp inside with earlier | last
      · exact .inl earlier
      · have plain : isDots segment = false := by simp [isDots, noDouble, noSingle]
        exact .inr (.inl ⟨List.mem_singleton.mp last, plain⟩)

/-- What a path has after segments: none of what is added is a dot segment. -/
theorem mem_walk {segments path : List (List Char)} {part : List Char}
    (inside : part ∈ walk path segments)
    : part ∈ path ∨ (part ∈ segments ∧ isDots part = false) ∨ part = [] := by
  induction segments generalizing path with
  | nil => exact .inl inside
  | cons segment more ih =>
      cases more with
      | nil =>
          rcases mem_endSegment inside with earlier | ⟨rfl, plain⟩ | empty
          · exact .inl earlier
          · exact .inr (.inl ⟨List.mem_cons_self, plain⟩)
          · exact .inr (.inr empty)
      | cons next more =>
          rcases ih inside with added | ⟨later, plain⟩ | empty
          · rcases mem_endSegment added with earlier | ⟨rfl, plain⟩ | empty
            · exact .inl earlier
            · exact .inr (.inl ⟨List.mem_cons_self, plain⟩)
            · exact .inr (.inr empty)
          · exact .inr (.inl ⟨List.mem_cons_of_mem _ later, plain⟩)
          · exact .inr (.inr empty)

-----------------------------------------------------------------------------------------
-- Dot segments
-----------------------------------------------------------------------------------------

theorem upper_cases {P : Char → Prop} (all : ∀ n < 26, P (Char.ofNat (65 + n))) {c : Char}
    (upper : c.val ≥ 'A'.val ∧ c.val ≤ 'Z'.val)
    : P c := by
  have low : 65 ≤ c.toNat := upper.1
  have high : c.toNat ≤ 90 := upper.2
  have one := all (c.toNat - 65) (by omega)
  rwa [Nat.add_sub_cancel' low, Char.ofNat_toNat] at one

theorem toLower_eq_self {c : Char} (upper : ¬ (c.val ≥ 'A'.val ∧ c.val ≤ 'Z'.val))
    : c.toLower = c :=
  dif_neg upper

/-- Only a letter comes from another character. -/
theorem eq_of_toLower {c d : Char} (same : c.toLower = d) (plain : d.isLower = false) : c = d := by
  by_cases upper : c.val ≥ 'A'.val ∧ c.val ≤ 'Z'.val
  · have letter := upper_cases (P := fun c => c.toLower.isLower = true) (by decide) upper
    rw [same, plain] at letter
    exact absurd letter (by decide)
  · rwa [toLower_eq_self upper] at same

theorem toLower_eq_e {c : Char} (same : c.toLower = 'e') : c = 'e' ∨ c = 'E' := by
  by_cases upper : c.val ≥ 'A'.val ∧ c.val ≤ 'Z'.val
  · exact upper_cases (P := fun c => c.toLower = 'e' → c = 'e' ∨ c = 'E') (by decide) upper same
  · rw [toLower_eq_self upper] at same
    exact .inl same

theorem toLower_toLower (c : Char) : c.toLower.toLower = c.toLower := by
  by_cases upper : c.val ≥ 'A'.val ∧ c.val ≤ 'Z'.val
  · exact upper_cases (P := fun c => c.toLower.toLower = c.toLower) (by decide) upper
  · rw [toLower_eq_self upper, toLower_eq_self upper]

/-- A dot in front, however it is written, is read as a dot. -/
theorem decodeFrom_dot {segment rest : List Char}
    (lower
      : segment.map Char.toLower = '.' :: rest
        ∨ segment.map Char.toLower = '%' :: '2' :: 'e' :: rest)
    : ∃ more, more.map Char.toLower = rest
      ∧ decodeFrom [] 0 segment = (decodeFrom [] 0 more).map ('.' :: ·) := by
  rcases lower with lower | lower
  · obtain ⟨c, more, rfl, first, later⟩ := List.map_eq_cons_iff.mp lower
    have dot : c = '.' := eq_of_toLower first (by decide)
    subst dot
    exact ⟨more, later, decodeFrom_plain (by decide) more⟩
  · obtain ⟨c, behind, rfl, first, lower⟩ := List.map_eq_cons_iff.mp lower
    obtain ⟨d, behind, rfl, second, lower⟩ := List.map_eq_cons_iff.mp lower
    obtain ⟨e, more, rfl, third, later⟩ := List.map_eq_cons_iff.mp lower
    have sign : c = '%' := eq_of_toLower first (by decide)
    have high : d = '2' := eq_of_toLower second (by decide)
    subst sign high
    refine ⟨more, later, ?_⟩
    rcases toLower_eq_e third with rfl | rfl
    · rfl
    · rfl

theorem decodeFrom_oneDot {segment : List Char}
    (lower
      : segment.map Char.toLower = ['.'] ∨ segment.map Char.toLower = ['%', '2', 'e'])
    : decodeFrom [] 0 segment = some ['.'] := by
  obtain ⟨more, empty, read⟩ := decodeFrom_dot lower
  rw [read, List.map_eq_nil_iff.mp empty, decodeFrom]
  rfl

theorem decodeFrom_twoDots {segment rest : List Char}
    (lower
      : segment.map Char.toLower = '.' :: rest
        ∨ segment.map Char.toLower = '%' :: '2' :: 'e' :: rest)
    (second : rest = ['.'] ∨ rest = ['%', '2', 'e'])
    : decodeFrom [] 0 segment = some ['.', '.'] := by
  obtain ⟨more, later, read⟩ := decodeFrom_dot lower
  rw [read, decodeFrom_oneDot (later ▸ second)]
  rfl

/-- A dot segment decodes to its dots. -/
theorem decode_dots {segment : List Char} (dots : isDots segment = true)
    : decodeURIComponent segment = some ['.'] ∨ decodeURIComponent segment = some ['.', '.'] := by
  simp only [isDots, isDoubleDot, isSingleDot, Bool.or_eq_true, decide_eq_true_eq, List.mem_cons,
    List.not_mem_nil, or_false] at dots
  rcases dots with (lower | lower | lower | lower) | lower
  · exact .inr (decodeFrom_twoDots (.inl lower) (.inl rfl))
  · exact .inr (decodeFrom_twoDots (.inl lower) (.inr rfl))
  · exact .inr (decodeFrom_twoDots (.inr lower) (.inl rfl))
  · exact .inr (decodeFrom_twoDots (.inr lower) (.inr rfl))
  · exact .inl (decodeFrom_oneDot lower)

-----------------------------------------------------------------------------------------
-- The text of a path
-----------------------------------------------------------------------------------------

/-- A path after a slash has the text of its segments. -/
theorem pathText_cons (segment : List Char) (segments : List (List Char))
    : pathText (segment :: segments) = '/' :: ['/'].intercalate (segment :: segments) := by
  induction segments generalizing segment with
  | nil => simp [pathText]
  | cons next more ih =>
      have split : pathText (segment :: next :: more) = '/' :: segment ++ pathText (next :: more) :=
        List.flatMap_cons
      rw [split, ih next, List.intercalate_cons_cons]
      simp

theorem takeWhile_segment {segment : List Char} (whole : '/' ∉ segment)
    (segments : List (List Char))
    : (segment ++ pathText segments).takeWhile (fun c => c ≠ '/') = segment := by
  have front : segment.takeWhile (fun c => c ≠ '/') = segment := by
    rw [List.takeWhile_eq_self_iff]
    intro c inside
    have apart : c ≠ '/' := fun same => whole (same ▸ inside)
    simpa using apart
  have stop : (pathText segments).takeWhile (fun c => c ≠ '/') = [] := by
    cases segments with
    | nil => rfl
    | cons next more => simp [pathText]
  rw [List.takeWhile_append, front, if_pos rfl, stop, List.append_nil]

/-- Two paths with the same text are one: a segment ends at the next slash. -/
theorem pathText_injective {path other : List (List Char)} (whole : ∀ part ∈ path, '/' ∉ part)
    (other_whole : ∀ part ∈ other, '/' ∉ part) (same : pathText path = pathText other)
    : path = other := by
  induction path generalizing other with
  | nil =>
      cases other with
      | nil => rfl
      | cons next more => simp [pathText] at same
  | cons segment path ih =>
      cases other with
      | nil => simp [pathText] at same
      | cons next more =>
          have behind : segment ++ pathText path = next ++ pathText more := by
            simpa [pathText] using same
          have front : segment = next := by
            rw [← takeWhile_segment (whole segment List.mem_cons_self) path, behind,
              takeWhile_segment (other_whole next List.mem_cons_self) more]
          subst front
          have later :=
            ih (fun part inside => whole part (List.mem_cons_of_mem _ inside))
              (fun part inside => other_whole part (List.mem_cons_of_mem _ inside))
              (List.append_cancel_left behind)
          rw [later]

end ControlPlane.Library.UrlPaths
