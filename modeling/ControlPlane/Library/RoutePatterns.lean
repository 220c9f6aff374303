import Mathlib.Data.List.Find
import ControlPlane.Library.HexText
import ControlPlane.Library.Patterns

/-! Tables of anchored path expressions whose only variable parts are runs of hexadecimal digits.
Whether two such expressions can match one path is seen from the expressions.
-/

namespace ControlPlane.Library

/-- A part of an expression: a fixed text, one of two fixed texts, or [a-f0-9]+. -/
inductive RoutePiece
  | text (chars : String)
  | either (first second : String)
  | hex
  deriving DecidableEq, Repr

/-- A fixed character, or a run of hexadecimal digits. -/
inductive RouteAtom
  | char (c : Char)
  | hex
  deriving DecidableEq, Repr

namespace RoutePiece

def pattern : RoutePiece → Pattern Char
  | .text chars => .spelled id chars.toList
  | .either first second => .alt (.spelled id first.toList) (.spelled id second.toList)
  | .hex => .many isLowerHex 1 none

/-- How a part is spelled in RegExp.source. -/
def source : RoutePiece → String
  | .text chars => String.ofList (chars.toList.flatMap fun c => if c = '/' then ['\\', '/'] else [c])
  | .either first second => "(?:" ++ first ++ "|" ++ second ++ ")"
  | .hex => "[a-f0-9]+"

/-- The ways to write a part. -/
def atoms : RoutePiece → List (List RouteAtom)
  | .text chars => [chars.toList.map .char]
  | .either first second => [first.toList.map .char, second.toList.map .char]
  | .hex => [[.hex]]

end RoutePiece

/-- /^pieces$/ -/
def routePattern (pieces : List RoutePiece) : Pattern Char :=
  pieces.foldr (fun piece rest => .seq piece.pattern rest) .empty

def routeMatches (pieces : List RoutePiece) (path : String) : Bool :=
  (routePattern pieces).test path.toList

/-- The ways to write an expression. -/
def routeAtoms (pieces : List RoutePiece) : List (List RouteAtom) :=
  pieces.foldr
    (fun piece later => piece.atoms.flatMap fun front => later.map fun rest => front ++ rest) [[]]

namespace RouteAtom

/-- A text is written in one way. -/
def Fits : List RouteAtom → List Char → Prop
  | [], text => text = []
  | .char c :: rest, text => ∃ tail, text = c :: tail ∧ Fits rest tail
  | .hex :: rest, text =>
      ∃ run tail, text = run ++ tail ∧ run ≠ [] ∧ (∀ c ∈ run, isLowerHex c = true) ∧ Fits rest tail

/-- What comes next is no digit, so that a run in front of it ends here. -/
def stops : List RouteAtom → Bool
  | [] => true
  | .char c :: _ => !isLowerHex c
  | .hex :: _ => false

/-- No text is written in both ways. -/
def apart : List RouteAtom → List RouteAtom → Bool
  | [], [] => false
  | [], _ :: _ => true
  | _ :: _, [] => true
  | .char a :: first, .char b :: second => a ≠ b ∨ apart first second
  | .hex :: first, .hex :: second => stops first ∧ stops second ∧ apart first second
  | .char a :: _, .hex :: _ => !isLowerHex a
  | .hex :: _, .char b :: _ => !isLowerHex b

theorem fits_char_cons {c : Char} {rest : List RouteAtom} {text : List Char}
    : Fits (.char c :: rest) text ↔ ∃ tail, text = c :: tail ∧ Fits rest tail :=
  Iff.rfl

theorem fits_hex_cons {rest : List RouteAtom} {text : List Char}
    : Fits (.hex :: rest) text
      ↔ ∃ run tail, text = run ++ tail ∧ run ≠ [] ∧ (∀ c ∈ run, isLowerHex c = true)
          ∧ Fits rest tail :=
  Iff.rfl

/-- A run before a stop is the whole run at the front of the text. -/
theorem takeWhile_of_stops {rest : List RouteAtom} {run tail : List Char}
    (digits : ∀ c ∈ run, isLowerHex c = true) (stop : stops rest = true) (fits : Fits rest tail)
    : (run ++ tail).takeWhile isLowerHex = run := by
  have nothing : tail.takeWhile isLowerHex = [] := by
    cases rest with
    | nil => rw [show tail = [] from fits, List.takeWhile_nil]
    | cons atom later =>
        cases atom with
        | char c =>
            obtain ⟨after, rfl, _⟩ := fits
            rw [stops, Bool.not_eq_true'] at stop
            exact List.takeWhile_cons_of_neg (by simp [stop])
        | hex => cases stop
  rw [List.takeWhile_append_of_pos digits, nothing, List.append_nil]

/-- A text that begins with a digit is written in no way that begins with another character. -/
theorem not_fits_char_of_hex {c : Char} {first second : List RouteAtom} {text : List Char}
    (other : isLowerHex c = false) (isRun : Fits (.hex :: first) text)
    : ¬ Fits (.char c :: second) text := by
  intro isChar
  obtain ⟨run, tail, rfl, written, digits, _⟩ := isRun
  obtain ⟨later, whole, _⟩ := isChar
  cases run with
  | nil => exact written rfl
  | cons digit run =>
      cases whole
      rw [digits c List.mem_cons_self] at other
      cases other

/-- Ways that are apart have no text in common, by induction on one of them. -/
theorem not_fits_of_apart {first second : List RouteAtom} {text : List Char}
    (separate : apart first second = true) (inFirst : Fits first text)
    : ¬ Fits second text := by
  induction first generalizing second text with
  | nil =>
      rw [show text = [] from inFirst]
      cases second with
      | nil => cases separate
      | cons atom later =>
          cases atom with
          | char c =>
              intro h
              obtain ⟨_, whole, _⟩ := h
              cases whole
          | hex =>
              intro h
              obtain ⟨_, _, whole, written, _⟩ := h
              exact written (List.append_eq_nil_iff.mp whole.symm).1
  | cons atom first ih =>
      cases second with
      | nil =>
          intro isNil
          rw [show text = [] from isNil] at inFirst
          cases atom with
          | char c =>
              obtain ⟨_, whole, _⟩ := inFirst
              cases whole
          | hex =>
              obtain ⟨_, _, whole, written, _⟩ := inFirst
              exact written (List.append_eq_nil_iff.mp whole.symm).1
      | cons other second =>
          cases atom with
          | char a =>
              cases other with
              | char b =>
                  intro inSecond
                  obtain ⟨tail, rfl, inRest⟩ := inFirst
                  obtain ⟨after, whole, inLater⟩ := inSecond
                  cases whole
                  rcases of_decide_eq_true separate with differ | later
                  · exact differ rfl
                  · exact ih later inRest inLater
              | hex =>
                  rw [apart, Bool.not_eq_true'] at separate
                  exact fun inSecond => not_fits_char_of_hex separate inSecond inFirst
          | hex =>
              cases other with
              | char b =>
                  rw [apart, Bool.not_eq_true'] at separate
                  exact not_fits_char_of_hex separate inFirst
              | hex =>
                  intro inSecond
                  obtain ⟨stopFirst, stopSecond, later⟩ := of_decide_eq_true separate
                  obtain ⟨run, tail, rfl, _, digits, inRest⟩ := inFirst
                  obtain ⟨other, after, whole, _, otherDigits, inLater⟩ := inSecond
                  -- both runs go up to the first character that is no digit
                  have sameRun : run = other := by
                    rw [← takeWhile_of_stops digits stopFirst inRest, whole,
                      takeWhile_of_stops otherDigits stopSecond inLater]
                  subst sameRun
                  rw [List.append_cancel_left whole] at inRest
                  exact ih later inRest inLater

theorem apart_comm (first second : List RouteAtom) : apart first second = apart second first := by
  induction first generalizing second with
  | nil =>
      cases second with
      | nil => rfl
      | cons atom later => cases atom <;> rfl
  | cons atom first ih =>
      cases second with
      | nil => cases atom <;> rfl
      | cons other second =>
          cases atom with
          | char a =>
              cases other with
              | char b => simp only [apart, ih second, ne_comm]
              | hex => rfl
          | hex =>
              cases other with
              | char b => rfl
              | hex => simp only [apart, ih second, and_left_comm]

/-- A way to write two expressions writes the first and then the second, by induction on the first. -/
theorem fits_append {front rest : List RouteAtom} {text : List Char}
    : Fits (front ++ rest) text
      ↔ ∃ before after, text = before ++ after ∧ Fits front before ∧ Fits rest after := by
  induction front generalizing text with
  | nil =>
      constructor
      · exact fun fits => ⟨[], text, rfl, rfl, fits⟩
      · intro h
        obtain ⟨before, after, rfl, isNil, fits⟩ := h
        rwa [show before = [] from isNil]
  | cons atom front ih =>
      cases atom with
      | char c =>
          simp only [List.cons_append, fits_char_cons, ih]
          constructor
          · intro h
            obtain ⟨_, rfl, before, after, rfl, inFront, inRest⟩ := h
            exact ⟨c :: before, after, rfl, ⟨before, rfl, inFront⟩, inRest⟩
          · intro h
            obtain ⟨_, after, rfl, ⟨before, rfl, inFront⟩, inRest⟩ := h
            exact ⟨before ++ after, rfl, before, after, rfl, inFront, inRest⟩
      | hex =>
          simp only [List.cons_append, fits_hex_cons, ih]
          constructor
          · intro h
            obtain ⟨run, _, rfl, written, digits, before, after, rfl, inFront, inRest⟩ := h
            exact ⟨run ++ before, after, (List.append_assoc ..).symm,
              ⟨run, before, rfl, written, digits, inFront⟩, inRest⟩
          · intro h
            obtain ⟨_, after, rfl, ⟨run, before, rfl, written, digits, inFront⟩, inRest⟩ := h
            exact ⟨run, before ++ after, List.append_assoc .., written, digits, before, after, rfl,
              inFront, inRest⟩

/-- A fixed text is written in one way, by induction on it. -/
theorem fits_text {chars text : List Char} : Fits (chars.map .char) text ↔ text = chars := by
  induction chars generalizing text with
  | nil => rfl
  | cons c chars ih =>
      rw [List.map_cons, fits_char_cons]
      constructor
      · intro h
        obtain ⟨tail, rfl, fits⟩ := h
        rw [ih.mp fits]
      · intro isText
        exact ⟨chars, isText, ih.mpr rfl⟩

end RouteAtom

/-- A part matches a text exactly if one of its ways writes it. -/
theorem mem_piece {piece : RoutePiece} {word : List Char}
    : word ∈ piece.pattern.language ↔ ∃ front ∈ piece.atoms, RouteAtom.Fits front word := by
  cases piece with
  | text chars => simp [RoutePiece.pattern, RoutePiece.atoms, Pattern.mem_spelled,
      RouteAtom.fits_text]
  | either first second => simp [RoutePiece.pattern, RoutePiece.atoms, Pattern.mem_spelled,
      RouteAtom.fits_text]
  | hex =>
      rw [RoutePiece.pattern, Pattern.mem_language_many, RoutePiece.atoms]
      constructor
      · intro h
        obtain ⟨digits, written, _⟩ := h
        refine ⟨_, List.mem_singleton_self _, word, [], (List.append_nil word).symm, ?_, digits, rfl⟩
        exact List.ne_nil_of_length_pos written
      · intro h
        obtain ⟨front, isFront, fits⟩ := h
        rw [List.mem_singleton.mp isFront] at fits
        obtain ⟨run, tail, rfl, written, digits, isNil⟩ := fits
        rw [show tail = [] from isNil, List.append_nil]
        refine ⟨digits, List.length_pos_of_ne_nil written, fun most bounded => ?_⟩
        cases bounded

/-- An expression matches a text exactly if one of its ways writes it, by induction on its parts. -/
theorem mem_routePattern {pieces : List RoutePiece} {path : List Char}
    : path ∈ (routePattern pieces).language ↔ ∃ atoms ∈ routeAtoms pieces, RouteAtom.Fits atoms path
    := by
  induction pieces generalizing path with
  | nil => simp [routePattern, routeAtoms, RouteAtom.Fits]
  | cons piece rest ih =>
      have onward : routePattern (piece :: rest) = .seq piece.pattern (routePattern rest) := rfl
      have ways : routeAtoms (piece :: rest)
          = piece.atoms.flatMap fun front => (routeAtoms rest).map fun later => front ++ later := rfl
      rw [onward, ways, Pattern.mem_language_seq]
      constructor
      · intro h
        obtain ⟨before, inPiece, after, inRest, rfl⟩ := h
        obtain ⟨front, isFront, fitsFront⟩ := mem_piece.mp inPiece
        obtain ⟨later, isLater, fitsLater⟩ := ih.mp inRest
        refine ⟨front ++ later, List.mem_flatMap.mpr ⟨front, isFront, ?_⟩, ?_⟩
        · exact List.mem_map_of_mem isLater
        · exact RouteAtom.fits_append.mpr ⟨before, after, rfl, fitsFront, fitsLater⟩
      · intro h
        obtain ⟨_, isWay, fits⟩ := h
        obtain ⟨front, isFront, isWay⟩ := List.mem_flatMap.mp isWay
        obtain ⟨later, isLater, rfl⟩ := List.mem_map.mp isWay
        obtain ⟨before, after, rfl, fitsFront, fitsLater⟩ := RouteAtom.fits_append.mp fits
        exact ⟨before, mem_piece.mpr ⟨front, isFront, fitsFront⟩, after,
          ih.mpr ⟨later, isLater, fitsLater⟩, rfl⟩

-----------------------------------------------------------------------------------------
-- Tables of routes
-----------------------------------------------------------------------------------------

/-- A method, an expression for its paths, and where it leads. -/
structure Route (β : Type*) where
  method : String
  pieces : List RoutePiece
  leads : β
  deriving DecidableEq, Repr

namespace Route

variable {β : Type*}

def serves (method path : String) (route : Route β) : Bool :=
  route.method = method ∧ routeMatches route.pieces path

/-- Where the first route that serves a request leads. -/
def first (table : List (Route β)) (method path : String) : Option β :=
  (table.find? (serves method path)).map leads

/-- The same route, to somewhere else. -/
def relabel {γ : Type*} (label : β → γ) (route : Route β) : Route γ where
  method := route.method
  pieces := route.pieces
  leads := label route.leads

theorem first_map_relabel {γ : Type*} (label : β → γ) (table : List (Route β))
    (method path : String)
    : first (table.map (relabel label)) method path = (first table method path).map label := by
  rw [first, List.find?_map, Option.map_map, first, Option.map_map]
  rfl

/-- No request is served by both. -/
def apart (route other : Route β) : Bool :=
  route.method ≠ other.method
  ∨ (routeAtoms route.pieces).all fun way =>
      (routeAtoms other.pieces).all fun otherWay => RouteAtom.apart way otherWay

theorem apart_symm {route other : Route β} (separate : route.apart other = true)
    : other.apart route = true := by
  refine decide_eq_true ((of_decide_eq_true separate).imp Ne.symm fun ways => ?_)
  refine List.all_eq_true.mpr fun otherWay isOther => List.all_eq_true.mpr fun way isWay => ?_
  rw [RouteAtom.apart_comm]
  exact List.all_eq_true.mp (List.all_eq_true.mp ways way isWay) otherWay isOther

theorem not_serves_of_apart {route other : Route β} {method path : String}
    (separate : route.apart other = true) (serving : route.serves method path = true)
    : ¬ other.serves method path = true := by
  intro otherServing
  obtain ⟨rfl, onPath⟩ := of_decide_eq_true serving
  obtain ⟨sameMethod, otherOnPath⟩ := of_decide_eq_true otherServing
  obtain ⟨way, isWay, fits⟩ := mem_routePattern.mp (Pattern.test_iff.mp onPath)
  obtain ⟨otherWay, isOtherWay, otherFits⟩ := mem_routePattern.mp (Pattern.test_iff.mp otherOnPath)
  rcases of_decide_eq_true separate with differ | ways
  · exact differ sameMethod.symm
  · have wayApart := List.all_eq_true.mp (List.all_eq_true.mp ways way isWay) otherWay isOtherWay
    exact RouteAtom.not_fits_of_apart wayApart fits otherFits

/-- No two routes of the table serve one request. -/
def Unambiguous (table : List (Route β)) : Prop :=
  table.Pairwise fun route other => route.apart other = true

instance (table : List (Route β)) : Decidable (Unambiguous table) :=
  inferInstanceAs (Decidable (table.Pairwise _))

variable {table : List (Route β)} {method path : String}

/-- Of an unambiguous table one route serves a request, by induction on the table. -/
theorem Unambiguous.eq_of_serves (unambiguous : Unambiguous table) {route other : Route β}
    (member : route ∈ table) (otherMember : other ∈ table)
    (serving : route.serves method path = true) (otherServing : other.serves method path = true)
    : route = other := by
  induction table with
  | nil => exact absurd member List.not_mem_nil
  | cons head rest ih =>
      obtain ⟨headApart, restApart⟩ := List.pairwise_cons.mp unambiguous
      rcases List.mem_cons.mp member with rfl | later
      · rcases List.mem_cons.mp otherMember with rfl | otherLater
        · rfl
        · exact absurd otherServing (not_serves_of_apart (headApart other otherLater) serving)
      · rcases List.mem_cons.mp otherMember with rfl | otherLater
        · exact absurd serving (not_serves_of_apart (headApart route later) otherServing)
        · exact ih restApart later otherLater

/-- In an unambiguous table a request leads where the route that serves it leads. -/
theorem Unambiguous.first_eq_some (unambiguous : Unambiguous table) {led : β}
    : first table method path = some led
      ↔ ∃ route ∈ table, route.serves method path = true ∧ route.leads = led := by
  rw [first, Option.map_eq_some_iff]
  constructor
  · intro h
    obtain ⟨route, found, leads⟩ := h
    exact ⟨route, List.mem_of_find?_eq_some found, List.find?_some found, leads⟩
  · intro h
    obtain ⟨route, member, serving, leads⟩ := h
    cases found : table.find? (serves method path) with
    | none => exact absurd serving (List.find?_eq_none.mp found route member)
    | some other =>
        have same := unambiguous.eq_of_serves (List.mem_of_find?_eq_some found) member
          (List.find?_some found) serving
        exact ⟨other, rfl, same ▸ leads⟩

/-- The order of an unambiguous table does not matter. -/
theorem Unambiguous.first_perm (unambiguous : Unambiguous table) {other : List (Route β)}
    (reordered : table.Perm other)
    : first other method path = first table method path := by
  refine congrArg (Option.map leads) (List.find?_eq_find?_of_perm reordered ?_).symm
  intro route h another h'
  exact unambiguous.eq_of_serves h.1 h'.1 h.2 h'.2

end Route

end ControlPlane.Library
