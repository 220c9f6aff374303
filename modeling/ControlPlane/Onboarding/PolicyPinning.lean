import ControlPlane.Library.TextParts
import ControlPlane.Onboarding.PolicyUrl

/-! Which branches the classifier sees. What is said of a URL goes by its segments; the expressions
go by its characters, and the first that matches hides what the others would find.
-/

namespace ControlPlane.Onboarding

open ControlPlane.Kek (trim)
open ControlPlane.Library
open ControlPlane.Library.Pattern
open ControlPlane.Library.TextParts

-----------------------------------------------------------------------------------------
-- Slots
-----------------------------------------------------------------------------------------

def segments (url : List Char) : List (List Char) :=
  url.splitOn '/'

/-- The segments that a forge shows a file behind. -/
def viewWords : List (List Char) :=
  ["blob".toList, "raw".toList, "tree".toList, "blame".toList]

/-- The segment behind the first view, if it is not empty and another follows it. -/
def viewSlot : List (List Char) → Option (List Char)
  | _ :: view :: ref :: next :: rest =>
      if view ∈ viewWords ∧ ref ≠ [] then some ref else viewSlot (view :: ref :: next :: rest)
  | _ => none

/-- A URL of raw.githubusercontent.com: its ref comes behind the owner and the repository. -/
def rawSlot : List (List Char) → Option (List Char)
  | scheme :: gap :: host :: owner :: repo :: ref :: _ :: _ =>
      if (scheme.map Char.toLower = "http:".toList ∨ scheme.map Char.toLower = "https:".toList)
          ∧ gap = []
          ∧ host.map Char.toLower = "raw.githubusercontent.com".toList
          ∧ owner ≠ [] ∧ repo ≠ [] ∧ ref ≠ []
        then some ref
      else none
  | _ => none

/-- The ref slot of a forge URL: on raw.githubusercontent.com it is behind the repository, whatever
the directories behind it are called.
-/
def refSlot (url : List Char) : Option (List Char) :=
  (rawSlot (segments url)).or (viewSlot (segments url))

/-- The slot that is looked at: a view anywhere comes first. -/
def firstSlot (url : List Char) : Option (List Char) :=
  (viewSlot (segments url)).or (rawSlot (segments url))

-----------------------------------------------------------------------------------------
-- Branches, commits and tags
-----------------------------------------------------------------------------------------

def afterScheme (url : List Char) : List Char :=
  match url.span fun c => c ∉ [':', '/', '?', '#'] with
  | (_ :: _, ':' :: rest) => rest
  | _ => url

def afterAuthority : List Char → List Char
  | '/' :: '/' :: rest => rest.dropWhile fun c => c ∉ ['/', '?', '#']
  | url => url

/-- The path of a URL: what is between the authority and the query. -/
def pathOf (url : List Char) : List Char :=
  (afterAuthority (afterScheme url)).takeWhile fun c => c ∉ ['?', '#']

/-- The path contains refs/heads/<branch>/. -/
def NamesBranch (url : List Char) : Prop :=
  ∃ branch next, branch ≠ []
    ∧ ["refs".toList, "heads".toList, branch, next] <:+: segments (pathOf url)

def HasHeads (url : List Char) : Prop :=
  ["refs".toList, "heads".toList] <:+: segments url

/-- The ref is one of the known moving names, in any case. -/
def IsMovingName (toLowerCase : String → String) (ref : List Char) : Prop :=
  toLowerCase (String.ofList ref) ∈ MOVING_NAMES

def IsCommitId (ref : List Char) : Prop :=
  (∀ c ∈ ref, isHexDigit c = true) ∧ 7 ≤ ref.length ∧ ref.length ≤ 64

def IsNumber (text : List Char) : Prop :=
  text ≠ [] ∧ ∀ c ∈ text, c.isDigit = true

/-- Three numbers between dots, perhaps behind a v, and then letters, digits, dots and dashes. -/
def IsVersionTag (ref : List Char) : Prop :=
  ∃ v major minor patch tail,
    (v = ['v'] ∨ v = []) ∧ IsNumber major ∧ IsNumber minor ∧ IsNumber patch
    ∧ (∀ c ∈ tail, isTailChar c = true)
    ∧ ref = v ++ (major ++ ('.' :: (minor ++ ('.' :: (patch ++ tail)))))

/-- The classifier passes over no branch that it can recognise. -/
structure NeverPassesOver (toLowerCase : String → String) (url : String) : Prop where
  heads
    : NamesBranch (trim url).toList → (aupUrlPinning toLowerCase (some url)).state = .moving
  names
    : ∀ ref, refSlot (trim url).toList = some ref → IsMovingName toLowerCase ref
      → (aupUrlPinning toLowerCase (some url)).state = .moving
  pinned
    : (aupUrlPinning toLowerCase (some url)).state = .pinned
      → (∃ ref, refSlot (trim url).toList = some ref ∧ (IsCommitId ref ∨ IsVersionTag ref))
        ∧ ¬ HasHeads (trim url).toList
  tags : ∀ ref : List Char, TAG_RE.test ref = true ↔ IsVersionTag ref

/-- Nothing is hidden behind the slot that is looked at first: it holds a moving name itself, or
there is no branch to hide.
-/
def HidesNothing (toLowerCase : String → String) (url : List Char) : Prop :=
  ∀ ref, firstSlot url = some ref → ¬ IsMovingName toLowerCase ref
    → ¬ NamesBranch url
      ∧ (∀ own, refSlot url = some own → ¬ IsMovingName toLowerCase own)
      ∧ (IsCommitId ref ∨ IsVersionTag ref
        → ¬ HasHeads url
          ∧ ∀ own, refSlot url = some own → IsCommitId own ∨ IsVersionTag own)

-----------------------------------------------------------------------------------------
-- The tag grammar
-----------------------------------------------------------------------------------------

theorem mem_word {text : String} {taken : List Char}
    : taken ∈ (word text).language ↔ taken = text.toList := by
  rw [word, mem_spelled, List.map_id]

theorem mem_wordAnyCase {text : String} {taken : List Char}
    : taken ∈ (wordAnyCase text).language ↔ taken.map Char.toLower = text.toList :=
  mem_spelled

theorem mem_digits {taken : List Char} : taken ∈ digits.language ↔ IsNumber taken := by
  rw [digits, mem_language_many, IsNumber, ← List.length_pos_iff]
  constructor
  · intro h
    obtain ⟨fits, some_, _⟩ := h
    exact ⟨some_, fits⟩
  · intro h
    obtain ⟨some_, fits⟩ := h
    exact ⟨fits, some_, nofun⟩

/-- A character that may follow a version is a digit, or opens a tail. -/
theorem opensTail_iff (c : Char)
    : opensTail c = true ↔ isTailChar c = true ∧ c.isDigit = false := by
  have letter : c.isAlpha = true → c.isDigit = false := by
    intro isLetter
    unfold Char.isAlpha Char.isUpper Char.isLower at isLetter
    simp only [Bool.or_eq_true, Bool.and_eq_true, decide_eq_true_eq,
      UInt32.le_iff_toNat_le] at isLetter
    simp only [Char.isDigit, Bool.and_eq_false_iff, decide_eq_false_iff_not,
      UInt32.le_iff_toNat_le]
    grind
  by_cases mark : c = '.' ∨ c = '-'
  · rcases mark with rfl | rfl <;> decide
  · obtain ⟨notDot, notDash⟩ := not_or.mp mark
    simp only [opensTail, isTailChar, Char.isAlphanum, notDot, notDash, decide_false,
      Bool.or_false, Bool.or_eq_true]
    constructor
    · exact fun isLetter => ⟨.inl isLetter, letter isLetter⟩
    · intro h
      obtain ⟨isLetter | isDigit, other⟩ := h
      · exact isLetter
      · cases isDigit.symm.trans other

/-- The third number is taken as far as it goes, which loses no tag. -/
theorem language_tag
    : TAG_RE.language = (tagWith (.many isTailChar 0 none)).language := by
  have same := language_many_tail opensTail_iff 1
  simp only [TAG_RE, tagWith, digits, language] at same ⊢
  rw [same]

theorem test_tag_iff (ref : List Char) : TAG_RE.test ref = true ↔ IsVersionTag ref := by
  rw [test_iff, language_tag]
  simp only [tagWith, mem_language_seq, mem_language_opt, mem_word, mem_digits]
  constructor
  · intro h
    obtain ⟨v, isV, _, ⟨major, isMajor, _, ⟨_, rfl, _, ⟨minor, isMinor, _, ⟨_, rfl, _,
      ⟨patch, isPatch, tail, ⟨isTail, _⟩, rfl⟩, rfl⟩, rfl⟩, rfl⟩, rfl⟩, rfl⟩ := h
    exact ⟨v, major, minor, patch, tail, isV, isMajor, isMinor, isPatch, isTail, rfl⟩
  · intro h
    obtain ⟨v, major, minor, patch, tail, isV, isMajor, isMinor, isPatch, isTail, rfl⟩ := h
    exact ⟨v, isV, _, ⟨major, isMajor, _, ⟨_, rfl, _, ⟨minor, isMinor, _, ⟨_, rfl, _,
      ⟨patch, isPatch, tail, ⟨isTail, Nat.zero_le _, fun _ bounded => by cases bounded⟩, rfl⟩,
      rfl⟩, rfl⟩, rfl⟩, rfl⟩, rfl⟩

theorem test_sha_iff (ref : List Char) : SHA_RE.test ref = true ↔ IsCommitId ref := by
  rw [test_iff, SHA_RE, mem_language_many, IsCommitId]
  simp

-----------------------------------------------------------------------------------------
-- Matches, by segments
-----------------------------------------------------------------------------------------

theorem mem_segment {taken : List Char} : taken ∈ segment.language ↔ taken ≠ [] ∧ '/' ∉ taken := by
  rw [segment, mem_language_many, ← List.length_pos_iff]
  constructor
  · intro h
    obtain ⟨fits, some_, _⟩ := h
    exact ⟨some_, fun held => of_decide_eq_true (fits '/' held) rfl⟩
  · intro h
    obtain ⟨some_, clean⟩ := h
    refine ⟨fun c held => decide_eq_true ?_, some_, nofun⟩
    intro h
    obtain rfl := h
    exact clean held

theorem slash_not_mem_of_view {view : List Char} (isView : view ∈ viewWords) : '/' ∉ view := by
  have clean : viewWords.all (fun view => !view.contains '/') = true := by decide
  simpa using List.all_eq_true.mp clean view isView

/-- A view at the front of a URL, in its characters and in its segments. -/
theorem matches_viewRef {url kept : List Char}
    : viewRef.Matches url kept
      ↔ kept ≠ [] ∧ ∃ view ∈ viewWords, ∃ next rest,
          segments url = [] :: view :: kept :: next :: rest := by
  simp only [Capture.Matches, viewRef, mem_language_seq, mem_language_alt, mem_word, mem_segment]
  constructor
  · intro h
    obtain ⟨_, _, rest, rfl, ⟨_, rfl, _, ⟨view, isView, _, rfl, rfl⟩, rfl⟩, ⟨some_, clean⟩,
      rfl⟩ := h
    have listed : view ∈ viewWords := by simpa [viewWords] using isView
    obtain ⟨next, others, parts⟩ := List.exists_cons_of_ne_nil (List.splitOn_ne_nil '/' rest)
    refine ⟨some_, view, listed, next, others, ?_⟩
    have shape
        : "/".toList ++ (view ++ "/".toList) ++ (kept ++ ("/".toList ++ rest))
          = [] ++ '/' :: (view ++ '/' :: (kept ++ '/' :: rest)) := by
      simp
    rw [shape, segments, splitOn_eq_cons_cons]
    refine ⟨_, rfl, List.not_mem_nil, ?_⟩
    rw [splitOn_eq_cons_cons]
    refine ⟨_, rfl, slash_not_mem_of_view listed, ?_⟩
    rw [splitOn_eq_cons_cons]
    exact ⟨rest, rfl, clean, parts⟩
  · intro h
    obtain ⟨some_, view, isView, next, others, parts⟩ := h
    obtain ⟨_, rfl, _, parts⟩ := splitOn_eq_cons_cons.mp parts
    obtain ⟨_, rfl, _, parts⟩ := splitOn_eq_cons_cons.mp parts
    obtain ⟨rest, rfl, clean, _⟩ := splitOn_eq_cons_cons.mp parts
    have listed : view = "blob".toList ∨ view = "raw".toList ∨ view = "tree".toList
        ∨ view = "blame".toList := by
      simpa [viewWords] using isView
    refine ⟨_, _, rest, ?_, ⟨_, rfl, _, ⟨view, listed, _, rfl, rfl⟩, rfl⟩, ⟨some_, clean⟩, rfl⟩
    simp

/-- Which segment is the first makes no difference to the slots behind it. -/
theorem viewSlot_head (first other : List Char) (later : List (List Char))
    : viewSlot (first :: later) = viewSlot (other :: later) := by
  match later with
  | [] | [_] | [_, _] => rfl
  | _ :: _ :: _ :: _ => rfl

theorem viewSlot_nil_cons (view ref next : List Char) (rest : List (List Char))
    : viewSlot ([] :: view :: ref :: next :: rest)
      = if view ∈ viewWords ∧ ref ≠ [] then some ref
        else viewSlot (view :: ref :: next :: rest) :=
  rfl

/-- What the engine finds at the front of a URL, or finds further on, is in the slot of the first
view.
-/
theorem atFront_viewRef_or (url : List Char)
    : (viewRef.atFront ('/' :: url)).or (viewSlot (segments url))
      = viewSlot ([] :: segments url) := by
  have slashed (parts : List (List Char)) (isParts : segments url = parts)
      : segments ('/' :: url) = [] :: parts := by
    rw [segments, List.splitOn_cons_eq_if_modifyHead]
    exact congrArg ([] :: ·) isParts
  match parts : segments url with
  | view :: ref :: next :: rest =>
      have whole := slashed _ parts
      rw [viewSlot_nil_cons]
      split
      next isSlot =>
        have here : viewRef.Matches ('/' :: url) ref :=
          matches_viewRef.mpr ⟨isSlot.2, view, isSlot.1, next, rest, whole⟩
        rw [Capture.atFront_of_matches here, Option.some_or]
        intro other isMatch
        obtain ⟨_, _, _, _, _, same⟩ := matches_viewRef.mp isMatch
        cases whole.symm.trans same
        rfl
      next noSlot =>
        rw [Capture.atFront_eq_none_iff.mpr, Option.none_or]
        intro kept isMatch
        obtain ⟨some_, _, isView, _, _, same⟩ := matches_viewRef.mp isMatch
        cases whole.symm.trans same
        exact noSlot ⟨isView, some_⟩
  | [] | [_] | [_, _] =>
      rw [Capture.atFront_eq_none_iff.mpr, Option.none_or]
      · rfl
      · intro kept isMatch
        obtain ⟨_, _, _, _, _, same⟩ := matches_viewRef.mp isMatch
        exact nomatch (slashed _ parts).symm.trans same

/-- The engine finds the slot of the first view, by induction on the URL. -/
theorem exec_viewRef (url : List Char) : viewRef.exec url = viewSlot (segments url) := by
  induction url with
  | nil =>
      rw [Capture.exec, Capture.atFront_eq_none_iff.mpr]
      · rfl
      · intro kept isMatch
        obtain ⟨_, _, _, _, _, same⟩ := matches_viewRef.mp isMatch
        cases same
  | cons c url ih =>
      rw [Capture.exec, ih]
      have cut := List.splitOn_cons_eq_if_modifyHead (a := '/') c url
      by_cases slash : c = '/'
      · rw [slash, atFront_viewRef_or]
        rw [if_pos (beq_iff_eq.mpr slash), slash] at cut
        exact congrArg viewSlot cut.symm
      · -- Within a segment nothing begins, and the segment itself is no slot's.
        rw [if_neg (mt beq_iff_eq.mp slash)] at cut
        obtain ⟨first, later, parts⟩ := List.exists_cons_of_ne_nil (List.splitOn_ne_nil '/' url)
        rw [parts, List.modifyHead_cons] at cut
        rw [Capture.atFront_eq_none_iff.mpr, Option.none_or]
        · rw [segments, segments, cut, parts]
          exact viewSlot_head first (c :: first) later
        · intro kept isMatch
          obtain ⟨_, _, _, _, _, same⟩ := matches_viewRef.mp isMatch
          cases cut.symm.trans same

theorem clean_of_map {letters : String} {part : List Char}
    (same : part.map Char.toLower = letters.toList) (clean : letters.toList.contains '/' = false)
    : '/' ∉ part := by
  intro held
  have lowered : '/' ∈ part.map Char.toLower := List.mem_map.mpr ⟨'/', held, rfl⟩
  rw [same] at lowered
  simp [lowered] at clean

/-- The scheme of a URL that is served from the web, with its colon. -/
theorem lower_scheme_iff {scheme : List Char}
    : (scheme.map Char.toLower = "http:".toList ∨ scheme.map Char.toLower = "https:".toList)
      ↔ ∃ http s colon, http.map Char.toLower = "http".toList
          ∧ (s.map Char.toLower = "s".toList ∨ s = [])
          ∧ colon.map Char.toLower = ":".toList ∧ scheme = http ++ (s ++ colon) := by
  constructor
  · intro listed
    have apart
        : scheme.map Char.toLower = "http".toList ++ ([] ++ ":".toList)
          ∨ scheme.map Char.toLower = "http".toList ++ ("s".toList ++ ":".toList) := by
      simpa using listed
    rcases apart with plain | secure
    · obtain ⟨http, later, rfl, isHttp, isLater⟩ := List.map_eq_append_iff.mp plain
      exact ⟨http, [], later, isHttp, .inr rfl, isLater, rfl⟩
    · obtain ⟨http, later, rfl, isHttp, isLater⟩ := List.map_eq_append_iff.mp secure
      obtain ⟨s, colon, rfl, isS, isColon⟩ := List.map_eq_append_iff.mp isLater
      exact ⟨http, s, colon, isHttp, .inl isS, isColon, rfl⟩
  · intro h
    obtain ⟨http, s, colon, isHttp, isS, isColon, rfl⟩ := h
    rw [List.map_append, List.map_append, isHttp, isColon]
    rcases isS with isS | rfl
    · rw [isS]
      decide
    · decide

theorem slash_not_mem_of_scheme {scheme : List Char}
    (listed
      : scheme.map Char.toLower = "http:".toList ∨ scheme.map Char.toLower = "https:".toList)
    : '/' ∉ scheme := by
  rcases listed with plain | secure
  · exact clean_of_map plain (by decide)
  · exact clean_of_map secure (by decide)

theorem rawSlot_eq_some {parts : List (List Char)} {kept : List Char}
    : rawSlot parts = some kept
      ↔ ∃ scheme host owner repo next rest,
          parts = scheme :: [] :: host :: owner :: repo :: kept :: next :: rest
          ∧ (scheme.map Char.toLower = "http:".toList
            ∨ scheme.map Char.toLower = "https:".toList)
          ∧ host.map Char.toLower = "raw.githubusercontent.com".toList
          ∧ owner ≠ [] ∧ repo ≠ [] ∧ kept ≠ [] := by
  constructor
  · intro isSlot
    unfold rawSlot at isSlot
    split at isSlot
    next scheme gap host owner repo ref next rest =>
      split at isSlot
      next shaped =>
        obtain ⟨isScheme, rfl, isHost, isOwner, isRepo, isRef⟩ := shaped
        cases isSlot
        exact ⟨scheme, host, owner, repo, next, rest, rfl, isScheme, isHost, isOwner, isRepo,
          isRef⟩
      next => exact nomatch isSlot
    next => exact nomatch isSlot
  · intro h
    obtain ⟨scheme, host, owner, repo, next, rest, rfl, shaped⟩ := h
    exact if_pos ⟨shaped.1, rfl, shaped.2⟩

/-- A URL of raw.githubusercontent.com with a slot, in its characters and in its segments. -/
theorem matches_rawRef {url kept : List Char}
    : rawRef.Matches url kept ↔ rawSlot (segments url) = some kept := by
  simp only [Capture.Matches, rawRef, mem_language_seq, mem_language_opt, mem_word,
    mem_wordAnyCase, mem_segment, rawSlot_eq_some]
  constructor
  · intro h
    obtain ⟨_, _, rest, rfl, ⟨http, isHttp, _, ⟨s, isS, _, ⟨colon, isColon, _, ⟨_, rfl, _,
      ⟨host, isHost, _, ⟨_, rfl, _, ⟨owner, isOwner, _, ⟨_, rfl, _, ⟨repo, isRepo, _, rfl, rfl⟩,
      rfl⟩, rfl⟩, rfl⟩, rfl⟩, rfl⟩, rfl⟩, rfl⟩, rfl⟩, isKept, rfl⟩ := h
    have isScheme := lower_scheme_iff.mpr ⟨http, s, colon, isHttp, isS, isColon, rfl⟩
    obtain ⟨next, others, parts⟩ := List.exists_cons_of_ne_nil (List.splitOn_ne_nil '/' rest)
    refine ⟨http ++ (s ++ colon), host, owner, repo, next, others, ?_, isScheme, isHost,
      isOwner.1, isRepo.1, isKept.1⟩
    have shape
        : http ++ (s ++ (colon ++ ("//".toList ++ (host ++ ("/".toList ++ (owner ++ ("/".toList
              ++ (repo ++ "/".toList)))))))) ++ (kept ++ ("/".toList ++ rest))
          = http ++ (s ++ colon) ++ '/' :: ([] ++ '/' :: (host ++ '/' :: (owner ++ '/'
              :: (repo ++ '/' :: (kept ++ '/' :: rest))))) := by
      simp
    rw [shape, segments, splitOn_eq_cons_cons]
    refine ⟨_, rfl, slash_not_mem_of_scheme isScheme, ?_⟩
    rw [splitOn_eq_cons_cons]
    refine ⟨_, rfl, List.not_mem_nil, ?_⟩
    rw [splitOn_eq_cons_cons]
    refine ⟨_, rfl, clean_of_map isHost (by decide), ?_⟩
    rw [splitOn_eq_cons_cons]
    refine ⟨_, rfl, isOwner.2, ?_⟩
    rw [splitOn_eq_cons_cons]
    refine ⟨_, rfl, isRepo.2, ?_⟩
    rw [splitOn_eq_cons_cons]
    exact ⟨rest, rfl, isKept.2, parts⟩
  · intro h
    obtain ⟨scheme, host, owner, repo, next, others, parts, isScheme, isHost, isOwner, isRepo,
      isKept⟩ := h
    obtain ⟨_, rfl, _, parts⟩ := splitOn_eq_cons_cons.mp parts
    obtain ⟨_, rfl, _, parts⟩ := splitOn_eq_cons_cons.mp parts
    obtain ⟨_, rfl, _, parts⟩ := splitOn_eq_cons_cons.mp parts
    obtain ⟨_, rfl, ownerClean, parts⟩ := splitOn_eq_cons_cons.mp parts
    obtain ⟨_, rfl, repoClean, parts⟩ := splitOn_eq_cons_cons.mp parts
    obtain ⟨rest, rfl, keptClean, _⟩ := splitOn_eq_cons_cons.mp parts
    obtain ⟨http, s, colon, isHttp, isS, isColon, rfl⟩ := lower_scheme_iff.mp isScheme
    refine ⟨_, _, rest, ?_, ⟨http, isHttp, _, ⟨s, isS, _, ⟨colon, isColon, _, ⟨_, rfl, _,
      ⟨host, isHost, _, ⟨_, rfl, _, ⟨owner, ⟨isOwner, ownerClean⟩, _, ⟨_, rfl, _,
      ⟨repo, ⟨isRepo, repoClean⟩, _, rfl, rfl⟩, rfl⟩, rfl⟩, rfl⟩, rfl⟩, rfl⟩, rfl⟩, rfl⟩, rfl⟩,
      ⟨isKept, keptClean⟩, rfl⟩
    simp

theorem atFront_rawRef (url : List Char) : rawRef.atFront url = rawSlot (segments url) := by
  cases slot : rawSlot (segments url) with
  | none =>
      rw [Capture.atFront_eq_none_iff]
      intro kept isMatch
      exact nomatch slot.symm.trans (matches_rawRef.mp isMatch)
  | some kept =>
      refine Capture.atFront_of_matches (matches_rawRef.mpr slot) fun other isMatch => ?_
      exact Option.some.inj ((matches_rawRef.mp isMatch).symm.trans slot)

theorem afterScheme_suffix (url : List Char) : afterScheme url <:+ url := by
  rw [afterScheme, List.span_eq_takeWhile_dropWhile]
  split
  next _ rest parts =>
    have left : url.dropWhile _ = ':' :: rest := congrArg Prod.snd parts
    have behind : ':' :: rest <:+ url := left ▸ List.dropWhile_suffix _
    exact (List.suffix_cons ':' rest).trans behind
  next => exact List.suffix_rfl

theorem afterAuthority_suffix (url : List Char) : afterAuthority url <:+ url := by
  unfold afterAuthority
  split
  next rest => exact (List.dropWhile_suffix _).trans ⟨['/', '/'], rfl⟩
  next => exact List.suffix_rfl

theorem pathOf_within (url : List Char) : pathOf url <:+: url :=
  (List.takeWhile_prefix _).isInfix.trans
    ((afterAuthority_suffix _).trans (afterScheme_suffix url)).isInfix

/-- A branch that the path names is found by the expression that comes last. -/
theorem exec_headsRef_ne_none {url : List Char} (named : NamesBranch url)
    : headsRef.exec url ≠ none := by
  obtain ⟨branch, next, some_, inside⟩ := named
  have inPath
      : ['/'].intercalate ["refs".toList, "heads".toList, branch, next]
        <:+: ['/'].intercalate (segments (pathOf url)) :=
    infix_of_parts (List.cons_ne_nil _ _) inside
  rw [segments, List.intercalate_splitOn] at inPath
  obtain ⟨before, after, whole⟩ := inPath.trans (pathOf_within url)
  have clean : '/' ∉ branch := not_mem_of_mem_splitOn (inside.subset (by simp))
  have here
      : headsRef.Matches
          (['/'].intercalate ["refs".toList, "heads".toList, branch, next] ++ after) branch :=
    ⟨"refs/heads/".toList, [], '/' :: (next ++ after), by simp [List.intercalate],
      mem_wordAnyCase.mpr (by decide), mem_segment.mpr ⟨some_, clean⟩, rfl⟩
  rw [← whole, List.append_assoc]
  exact Capture.exec_ne_none here

-----------------------------------------------------------------------------------------
-- What the classifier answers
-----------------------------------------------------------------------------------------

theorem isSome_refSlot {url ref : List Char} (isFirst : firstSlot url = some ref)
    : ∃ own, refSlot url = some own := by
  rw [firstSlot] at isFirst
  rw [refSlot]
  cases raw : rawSlot (segments url) with
  | some own => exact ⟨own, rfl⟩
  | none =>
      rw [raw, Option.or_none] at isFirst
      exact ⟨ref, isFirst⟩

theorem isSome_firstSlot {url own : List Char} (isOwn : refSlot url = some own)
    : ∃ ref, firstSlot url = some ref := by
  rw [refSlot] at isOwn
  rw [firstSlot]
  cases view : viewSlot (segments url) with
  | some ref => exact ⟨ref, rfl⟩
  | none =>
      rw [view, Option.or_none] at isOwn
      exact ⟨own, isOwn⟩

/-- The ref is what the first slot holds, or without a slot the branch of a refs/heads. -/
theorem refOf_eq (url : String)
    : refOf url
      = match firstSlot url.toList with
        | some ref => some { ref := String.ofList ref, alwaysMoving := false }
        | none =>
            (headsRef.exec url.toList).map fun ref =>
              { ref := String.ofList ref, alwaysMoving := true } := by
  rw [refOf, firstSlot, exec_viewRef, atFront_rawRef]
  cases viewSlot (segments url.toList) with
  | some ref => rfl
  | none => cases rawSlot (segments url.toList) <;> rfl

section Answers

variable (toLowerCase : String → String) (url : String)

/-- A URL with a slot is classified by what the first one holds. -/
theorem state_of_slot {ref : List Char} (isFirst : firstSlot (trim url).toList = some ref)
    : ((aupUrlPinning toLowerCase (some url)).state = .moving ↔ IsMovingName toLowerCase ref)
      ∧ ((aupUrlPinning toLowerCase (some url)).state = .pinned
        ↔ ¬ IsMovingName toLowerCase ref ∧ (IsCommitId ref ∨ IsVersionTag ref)) := by
  have some_ : trim url ≠ "" := by
    intro empty
    rw [empty] at isFirst
    exact nomatch isFirst
  have found := refOf_eq (trim url)
  rw [isFirst] at found
  rw [← test_sha_iff, ← test_tag_iff]
  simp only [aupUrlPinning, Option.map_some, Option.getD_some, if_neg some_, found,
    String.toList_ofList, IsMovingName]
  by_cases moves : toLowerCase (String.ofList ref) ∈ MOVING_NAMES
  · simp [moves]
  · by_cases pins : SHA_RE.test ref = true ∨ TAG_RE.test ref = true
    · simp [moves, pins]
    · simp [moves, pins]

/-- A URL without a slot is never pinned, and a branch that its path names makes it move. -/
theorem state_of_noSlot (noSlot : firstSlot (trim url).toList = none)
    : (aupUrlPinning toLowerCase (some url)).state ≠ .pinned
      ∧ (NamesBranch (trim url).toList
        → (aupUrlPinning toLowerCase (some url)).state = .moving) := by
  have found := refOf_eq (trim url)
  rw [noSlot] at found
  simp only [aupUrlPinning, Option.map_some, Option.getD_some, found]
  constructor
  · split
    next => exact nofun
    next => cases headsRef.exec (trim url).toList <;> exact nofun
  · intro named
    have some_ : trim url ≠ "" := by
      intro empty
      rw [empty] at named
      obtain ⟨branch, next, _, inside⟩ := named
      have enough : 4 ≤ (segments (pathOf "".toList)).length := inside.length_le
      exact absurd enough (by decide)
    obtain ⟨ref, isRef⟩ := Option.ne_none_iff_exists'.mp (exec_headsRef_ne_none named)
    simp [some_, isRef]

end Answers

-----------------------------------------------------------------------------------------
-- What is passed over
-----------------------------------------------------------------------------------------

/-- The classifier passes over no branch exactly where the slot it looks at first hides none. -/
theorem neverPassesOver_iff (toLowerCase : String → String) (url : String)
    : NeverPassesOver toLowerCase url ↔ HidesNothing toLowerCase (trim url).toList := by
  constructor
  · intro seen ref isFirst stays
    obtain ⟨moves, pins⟩ := state_of_slot toLowerCase url isFirst
    refine ⟨fun named => stays (moves.mp (seen.heads named)), ?_, ?_⟩
    · intro own isOwn moving
      exact stays (moves.mp (seen.names own isOwn moving))
    · intro fixed
      obtain ⟨⟨own, isOwn, ownFixed⟩, noHeads⟩ := seen.pinned (pins.mpr ⟨stays, fixed⟩)
      refine ⟨noHeads, fun other isOther => ?_⟩
      cases isOwn.symm.trans isOther
      exact ownFixed
  · intro hidesNothing
    refine ⟨?_, ?_, ?_, test_tag_iff⟩
    · intro named
      cases slot : firstSlot (trim url).toList with
      | none => exact (state_of_noSlot toLowerCase url slot).2 named
      | some ref =>
          refine (state_of_slot toLowerCase url slot).1.mpr ?_
          by_contra stays
          exact (hidesNothing ref slot stays).1 named
    · intro own isOwn moving
      obtain ⟨ref, slot⟩ := isSome_firstSlot isOwn
      refine (state_of_slot toLowerCase url slot).1.mpr ?_
      by_contra stays
      exact (hidesNothing ref slot stays).2.1 own isOwn moving
    · intro isPinned
      cases slot : firstSlot (trim url).toList with
      | none => exact absurd isPinned (state_of_noSlot toLowerCase url slot).1
      | some ref =>
          obtain ⟨stays, fixed⟩ := (state_of_slot toLowerCase url slot).2.mp isPinned
          obtain ⟨noHeads, ownFixed⟩ := (hidesNothing ref slot stays).2.2 fixed
          obtain ⟨own, isOwn⟩ := isSome_refSlot slot
          exact ⟨⟨own, isOwn, ownFixed own isOwn⟩, noHeads⟩

def asciiLower (text : String) : String :=
  String.ofList (text.toList.map Char.toLower)

def blobHeads : String := "https://github.com/o/r/blob/refs/heads/main/aup.md"

/-- A link to a branch is not said to move, as the segment behind its view is called refs. -/
theorem blobHeads_passedOver : ¬ NeverPassesOver asciiLower blobHeads := by
  intro seen
  have named : NamesBranch (trim blobHeads).toList := by
    refine ⟨"main".toList, "aup.md".toList, by decide, ?_⟩
    exact ⟨[[], "o".toList, "r".toList, "blob".toList], [], by decide +kernel⟩
  exact absurd (seen.heads named) (by decide +kernel)

end ControlPlane.Onboarding
