import ControlPlane.Library.RoutePatterns

/-! Path expressions as texts. An expression that is spelled out and read again, a character at a time,
matches what it matched before.
-/

namespace ControlPlane.Library

/-- The characters that do not stand for themselves in an expression. -/
def isSyntax (c : Char) : Bool :=
  ['^', '$', '\\', '.', '*', '+', '?', '(', ')', '[', ']', '{', '}', '|'].contains c

/-- Where the reader stands: between parts, behind a backslash, in what is left of [a-f0-9]+ or of an
opening (?:, or in one of the two texts of a choice.
-/
inductive SourceState
  | between
  | escaped
  | digits (left : List Char)
  | opening (left : List Char)
  | first (front : List Char)
  | second (front back : List Char)

/-- The parts of an expression up to its end. Other syntax than that of such parts is not read. -/
def readPieces : SourceState → List Char → Option (List RoutePiece)
  | _, [] => none
  | .between, c :: rest =>
      if c = '$' then if rest = [] then some [] else none
      else if c = '\\' then readPieces .escaped rest
      else if c = '[' then readPieces (.digits ['a', '-', 'f', '0', '-', '9', ']', '+']) rest
      else if c = '(' then readPieces (.opening ['?', ':']) rest
      else if isSyntax c then none
      else (readPieces .between rest).map (.text (String.singleton c) :: ·)
  | .escaped, c :: rest =>
      if c = '/' then (readPieces .between rest).map (.text (String.singleton c) :: ·) else none
  | .digits [], _ => none
  | .digits (next :: left), c :: rest =>
      if c ≠ next then none
      else if left = [] then (readPieces .between rest).map (.hex :: ·)
      else readPieces (.digits left) rest
  | .opening [], _ => none
  | .opening (next :: left), c :: rest =>
      if c ≠ next then none
      else if left = [] then readPieces (.first []) rest
      else readPieces (.opening left) rest
  | .first front, c :: rest =>
      if c = '|' then readPieces (.second front []) rest
      else if isSyntax c then none
      else readPieces (.first (front ++ [c])) rest
  | .second front back, c :: rest =>
      if c = ')' then
        (readPieces .between rest).map
          (.either (String.ofList front) (String.ofList back) :: ·)
      else if isSyntax c then none
      else readPieces (.second front (back ++ [c])) rest

/-- new RegExp(text), where the text is an anchored expression of such parts. -/
def readRoute (text : String) : Option (List RoutePiece) :=
  match text.toList with
  | '^' :: rest => readPieces .between rest
  | _ => none

/-- RegExp.source. -/
def routeSource (pieces : List RoutePiece) : String :=
  "^" ++ String.join (pieces.map RoutePiece.source) ++ "$"

namespace RoutePiece

/-- The fixed texts of a part have no syntax in them. -/
def plain : RoutePiece → Bool
  | .text chars => chars.toList.all fun c => !isSyntax c
  | .either first second =>
      (first.toList.all fun c => !isSyntax c) && second.toList.all fun c => !isSyntax c
  | .hex => true

/-- A part with each of its fixed characters on its own. -/
def letters : RoutePiece → List RoutePiece
  | .text chars => chars.toList.map fun c => .text (String.singleton c)
  | .either first second => [.either first second]
  | .hex => [.hex]

end RoutePiece

-----------------------------------------------------------------------------------------
-- Reading what was spelled
-----------------------------------------------------------------------------------------

/-- A character that stands for itself. -/
theorem readPieces_char {c : Char} (stands : isSyntax c = false) (rest : List Char)
    : readPieces .between (c :: rest)
      = (readPieces .between rest).map (.text (String.singleton c) :: ·) := by
  have apart : ∀ special, isSyntax special = true → c ≠ special := by
    intro special isSpecial same
    rw [same, isSpecial] at stands
    cases stands
  rw [readPieces, if_neg (apart '$' rfl), if_neg (apart '\\' rfl), if_neg (apart '[' rfl),
    if_neg (apart '(' rfl), stands, if_neg Bool.false_ne_true]

/-- By induction on the characters. -/
theorem readPieces_text {chars : List Char} (stand : ∀ c ∈ chars, isSyntax c = false)
    (rest : List Char)
    : readPieces .between
        ((chars.flatMap fun c => if c = '/' then ['\\', '/'] else [c]) ++ rest)
      = (readPieces .between rest).map
          ((chars.map fun c => RoutePiece.text (String.singleton c)) ++ ·) := by
  induction chars with
  | nil => simp
  | cons c later ih =>
      have onLater := ih fun other member => stand other (List.mem_cons_of_mem _ member)
      rw [List.flatMap_cons, List.append_assoc]
      split
      next slash =>
        subst slash
        simp [readPieces, onLater, Function.comp_def]
      next =>
        rw [List.singleton_append, readPieces_char (stand c List.mem_cons_self), onLater,
          Option.map_map]
        rfl

/-- The first text of a choice, by induction on it. -/
theorem readPieces_first {chars : List Char} (stand : ∀ c ∈ chars, isSyntax c = false)
    (front rest : List Char)
    : readPieces (.first front) (chars ++ '|' :: rest)
      = readPieces (.second (front ++ chars) []) rest := by
  induction chars generalizing front with
  | nil => simp [readPieces]
  | cons c later ih =>
      have here := stand c List.mem_cons_self
      have isNoBar : c ≠ '|' := by
        intro same
        rw [same] at here
        cases here
      rw [List.cons_append, readPieces, if_neg isNoBar, here, if_neg Bool.false_ne_true,
        ih fun other member => stand other (List.mem_cons_of_mem _ member)]
      simp

/-- The second text of a choice, by induction on it. -/
theorem readPieces_second {chars : List Char} (stand : ∀ c ∈ chars, isSyntax c = false)
    (front back rest : List Char)
    : readPieces (.second front back) (chars ++ ')' :: rest)
      = (readPieces .between rest).map
          (.either (String.ofList front) (String.ofList (back ++ chars)) :: ·) := by
  induction chars generalizing back with
  | nil => simp [readPieces]
  | cons c later ih =>
      have here := stand c List.mem_cons_self
      have isNoEnd : c ≠ ')' := by
        intro same
        rw [same] at here
        cases here
      rw [List.cons_append, readPieces, if_neg isNoEnd, here, if_neg Bool.false_ne_true,
        ih fun other member => stand other (List.mem_cons_of_mem _ member)]
      simp

/-- A part that is spelled out is read as its characters. -/
theorem readPieces_source {piece : RoutePiece} (plain : piece.plain = true) (rest : List Char)
    : readPieces .between (piece.source.toList ++ rest)
      = (readPieces .between rest).map (piece.letters ++ ·) := by
  cases piece with
  | text chars =>
      have stand : ∀ c ∈ chars.toList, isSyntax c = false := by
        simpa [RoutePiece.plain] using plain
      rw [RoutePiece.source, String.toList_ofList]
      exact readPieces_text stand rest
  | either first second =>
      have stand : (∀ c ∈ first.toList, isSyntax c = false)
          ∧ ∀ c ∈ second.toList, isSyntax c = false := by
        simpa [RoutePiece.plain] using plain
      have spelled : (RoutePiece.either first second).source.toList ++ rest
          = '(' :: '?' :: ':' :: (first.toList ++ '|' :: (second.toList ++ ')' :: rest)) := by
        simp [RoutePiece.source]
      rw [spelled]
      have opened : ∀ later, readPieces .between ('(' :: '?' :: ':' :: later)
          = readPieces (.first []) later := fun later => by simp [readPieces]
      rw [opened, readPieces_first stand.1, readPieces_second stand.2]
      simp [RoutePiece.letters]
  | hex =>
      have spelled : RoutePiece.hex.source.toList ++ rest
          = '[' :: 'a' :: '-' :: 'f' :: '0' :: '-' :: '9' :: ']' :: '+' :: rest := rfl
      rw [spelled]
      simp [readPieces, RoutePiece.letters]

/-- By induction on the parts. -/
theorem readPieces_sources {pieces : List RoutePiece}
    (plain : ∀ piece ∈ pieces, piece.plain = true)
    : readPieces .between ((String.join (pieces.map RoutePiece.source)).toList ++ ['$'])
      = some (pieces.flatMap RoutePiece.letters) := by
  induction pieces with
  | nil => rfl
  | cons piece later ih =>
      have onLater := ih fun other member => plain other (List.mem_cons_of_mem _ member)
      have spelled : (String.join ((piece :: later).map RoutePiece.source)).toList ++ ['$']
          = piece.source.toList
            ++ ((String.join (later.map RoutePiece.source)).toList ++ ['$']) := by
        simp
      rw [spelled, readPieces_source (plain piece List.mem_cons_self), onLater]
      rfl

theorem readRoute_source {pieces : List RoutePiece}
    (plain : ∀ piece ∈ pieces, piece.plain = true)
    : readRoute (routeSource pieces) = some (pieces.flatMap RoutePiece.letters) := by
  have spelled : (routeSource pieces).toList
      = '^' :: ((String.join (pieces.map RoutePiece.source)).toList ++ ['$']) := by
    simp [routeSource]
  rw [readRoute, spelled]
  exact readPieces_sources plain

-----------------------------------------------------------------------------------------
-- What is read matches the same
-----------------------------------------------------------------------------------------

theorem routeAtoms_append (front back : List RoutePiece)
    : routeAtoms (front ++ back)
      = (routeAtoms front).flatMap fun way => (routeAtoms back).map fun rest => way ++ rest := by
  induction front with
  | nil => simp [routeAtoms]
  | cons piece later ih =>
      change (piece.atoms.flatMap fun first => (routeAtoms (later ++ back)).map fun rest =>
        first ++ rest) = _
      rw [ih]
      simp [routeAtoms, List.flatMap_assoc, List.flatMap_map, List.map_flatMap, Function.comp_def]

/-- The characters of a part are written in the same ways. -/
theorem routeAtoms_letters (piece : RoutePiece) : routeAtoms piece.letters = piece.atoms := by
  cases piece with
  | text chars =>
      simp only [RoutePiece.letters, RoutePiece.atoms]
      induction chars.toList with
      | nil => rfl
      | cons c later ih =>
          change ((RoutePiece.text (String.singleton c)).atoms.flatMap fun first =>
            (routeAtoms _).map fun rest => first ++ rest) = _
          rw [ih]
          simp [RoutePiece.atoms]
  | either first second => simp [RoutePiece.letters, routeAtoms, RoutePiece.atoms]
  | hex => rfl

theorem routeAtoms_flatMap_letters (pieces : List RoutePiece)
    : routeAtoms (pieces.flatMap RoutePiece.letters) = routeAtoms pieces := by
  induction pieces with
  | nil => rfl
  | cons piece later ih =>
      rw [List.flatMap_cons, routeAtoms_append, routeAtoms_letters, ih]
      rfl

/-- Expressions that are written in the same ways match the same paths. -/
theorem routeMatches_congr {pieces other : List RoutePiece}
    (same : routeAtoms pieces = routeAtoms other) (path : String)
    : routeMatches pieces path = routeMatches other path := by
  rw [Bool.eq_iff_iff, routeMatches, routeMatches, Pattern.test_iff, Pattern.test_iff,
    mem_routePattern, mem_routePattern, same]

/-- An expression that is spelled out and read again matches the same paths. -/
theorem readRoute_matches {pieces : List RoutePiece}
    (plain : ∀ piece ∈ pieces, piece.plain = true) (path : String)
    : (readRoute (routeSource pieces)).map (routeMatches · path)
      = some (routeMatches pieces path) := by
  rw [readRoute_source plain, Option.map_some,
    routeMatches_congr (routeAtoms_flatMap_letters pieces)]

-----------------------------------------------------------------------------------------
-- Paths that are written part by part
-----------------------------------------------------------------------------------------

theorem routeMatches_iff {pieces : List RoutePiece} {path : String}
    : routeMatches pieces path = true
      ↔ ∃ way ∈ routeAtoms pieces, RouteAtom.Fits way path.toList := by
  rw [routeMatches, Pattern.test_iff, mem_routePattern]

/-- A path in two halves, of which the parts in front match the first and the others the second. -/
theorem routeMatches_append {front back : List RoutePiece} {before after : String}
    (inFront : routeMatches front before = true) (inBack : routeMatches back after = true)
    : routeMatches (front ++ back) (before ++ after) = true := by
  obtain ⟨way, isWay, fits⟩ := routeMatches_iff.mp inFront
  obtain ⟨rest, isRest, fitsRest⟩ := routeMatches_iff.mp inBack
  refine routeMatches_iff.mpr ⟨way ++ rest, ?_, ?_⟩
  · rw [routeAtoms_append]
    exact List.mem_flatMap.mpr ⟨way, isWay, List.mem_map_of_mem isRest⟩
  · rw [String.toList_append]
    exact RouteAtom.fits_append.mpr ⟨_, _, rfl, fits, fitsRest⟩

/-- A single part matches what one of its ways writes. -/
theorem routeMatches_piece {piece : RoutePiece} {path : String}
    : routeMatches [piece] path = true ↔ ∃ way ∈ piece.atoms, RouteAtom.Fits way path.toList := by
  have ways : routeAtoms [piece] = piece.atoms := by simp [routeAtoms]
  rw [routeMatches_iff, ways]

theorem routeMatches_text (chars : String) : routeMatches [.text chars] chars = true :=
  routeMatches_piece.mpr ⟨_, List.mem_singleton_self _, RouteAtom.fits_text.mpr rfl⟩

theorem routeMatches_either {first second chars : String} (one : chars = first ∨ chars = second)
    : routeMatches [.either first second] chars = true := by
  refine routeMatches_piece.mpr ⟨chars.toList.map .char, ?_, RouteAtom.fits_text.mpr rfl⟩
  rcases one with rfl | rfl
  · exact List.mem_cons_self
  · exact List.mem_cons_of_mem _ (List.mem_singleton_self _)

theorem routeMatches_hex {run : String} (written : run.toList ≠ [])
    (digits : ∀ c ∈ run.toList, isLowerHex c = true)
    : routeMatches [.hex] run = true :=
  routeMatches_piece.mpr ⟨_, List.mem_singleton_self _, run.toList, [],
    (List.append_nil _).symm, written, digits, rfl⟩

end ControlPlane.Library
