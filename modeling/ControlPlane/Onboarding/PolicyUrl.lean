import ControlPlane.Kek.TokenCrypto
import ControlPlane.Library.Patterns

/-! The link to the policy, as the onboarding page classifies it: by what stands in the ref slot of a
forge URL. An acceptance is not taken against a link that moves.
-/

namespace ControlPlane.Onboarding

open ControlPlane.Kek (trim)
open ControlPlane.Library

-----------------------------------------------------------------------------------------
-- The expressions
-----------------------------------------------------------------------------------------

def MOVING_NAMES : List String := ["main", "master", "head", "develop", "trunk"]

def word (text : String) : Pattern Char :=
  .spelled id text.toList

/-- A word where the expression ignores case. Without the unicode flag, no character but the two
cases of a letter of ASCII matches it.
-/
def wordAnyCase (text : String) : Pattern Char :=
  .spelled Char.toLower text.toList

/-- [0-9a-f], where the expression ignores case. -/
def isHexDigit (c : Char) : Bool :=
  c.isDigit ∨ ('a' ≤ c.toLower ∧ c.toLower ≤ 'f')

/-- [A-Za-z.-] -/
def opensTail (c : Char) : Bool :=
  c.isAlpha || c = '.' || c = '-'

/-- [A-Za-z0-9.-] -/
def isTailChar (c : Char) : Bool :=
  c.isAlphanum || c = '.' || c = '-'

def digits : Pattern Char :=
  .many Char.isDigit 1 none

def SHA_RE : Pattern Char :=
  .many isHexDigit 7 (some 64)

/-- A tag with what may follow its third number. -/
def tagWith (tail : Pattern Char) : Pattern Char :=
  .seq (.opt (word "v"))
    (.seq digits (.seq (word ".") (.seq digits (.seq (word ".") (.seq digits tail)))))

def TAG_RE : Pattern Char :=
  tagWith (.opt (.seq (.one opensTail) (.many isTailChar 0 none)))

/-- [^/]+ -/
def segment : Pattern Char :=
  .many (fun c => c ≠ '/') 1 none

/-- The slot behind a blob, raw, tree or blame segment. -/
def viewRef : Capture Char where
  before :=
    .seq (word "/")
      (.seq (.alt (word "blob") (.alt (word "raw") (.alt (word "tree") (word "blame"))))
        (word "/"))
  group := segment
  after := word "/"

/-- The slot on raw.githubusercontent.com, from the front of the URL on. -/
def rawRef : Capture Char where
  before :=
    .seq (wordAnyCase "http")
      (.seq (.opt (wordAnyCase "s"))
        (.seq (wordAnyCase ":")
          (.seq (word "//")
            (.seq (wordAnyCase "raw.githubusercontent.com")
              (.seq (word "/") (.seq segment (.seq (word "/") (.seq segment (word "/")))))))))
  group := segment
  after := word "/"

/-- The branch of an explicit refs/heads. -/
def headsRef : Capture Char where
  before := wordAnyCase "refs/heads/"
  group := segment
  after := .empty

-----------------------------------------------------------------------------------------
-- The classifier
-----------------------------------------------------------------------------------------

structure FoundRef where
  ref : String
  alwaysMoving : Bool
  deriving DecidableEq, Repr

/-- The ref of a forge URL: the first expression that matches decides. -/
def refOf (url : String) : Option FoundRef :=
  match viewRef.exec url.toList with
  | some ref => some { ref := String.ofList ref, alwaysMoving := false }
  | none =>
      match rawRef.atFront url.toList with
      | some ref => some { ref := String.ofList ref, alwaysMoving := false }
      | none =>
          (headsRef.exec url.toList).map fun ref =>
            { ref := String.ofList ref, alwaysMoving := true }

inductive PinState
  | missing
  | unverifiable
  | moving
  | pinned
  deriving DecidableEq, Repr

structure Pinning where
  state : PinState
  movingRef : Option String
  deriving DecidableEq, Repr

/-- The page has a URL that is a text, or none. -/
def aupUrlPinning (toLowerCase : String → String) (url : Option String) : Pinning :=
  let u := (url.map trim).getD ""
  if u = "" then { state := .missing, movingRef := none }
  else
    match refOf u with
    | none => { state := .unverifiable, movingRef := none }
    | some found =>
        if found.alwaysMoving then { state := .moving, movingRef := some found.ref }
        else if toLowerCase found.ref ∈ MOVING_NAMES then
          { state := .moving, movingRef := some found.ref }
        else if SHA_RE.test found.ref.toList ∨ TAG_RE.test found.ref.toList then
          { state := .pinned, movingRef := none }
        else { state := .unverifiable, movingRef := none }

/-- Why no acceptance is taken against the link. -/
def aupPinningRefusalCopy (pinning : Pinning) : String :=
  match pinning.state with
  | .moving =>
      "We are not going to ask you to accept this policy, because the link we have for it "
      ++ "points at a moving target (" ++ pinning.movingRef.getD "null"
      ++ "), which means the wording could change after you agreed to it. That is our "
      ++ "configuration mistake, not yours. It is being fixed; nothing you do here would be "
      ++ "recorded properly until it is."
  | .missing =>
      "We cannot show you the policy right now, so we are not going to ask you to accept it. "
      ++ "You should never have to agree to something you cannot read."
  | .unverifiable | .pinned => ""

/-- The page locks the acceptance of a policy against such a link. -/
def locksAcceptance (pinning : Pinning) : Bool :=
  pinning.state = .missing ∨ pinning.state = .moving

/-- The page has something to say exactly where it locks the acceptance. -/
theorem refusalCopy_ne_empty_iff (pinning : Pinning)
    : aupPinningRefusalCopy pinning ≠ "" ↔ locksAcceptance pinning = true := by
  obtain ⟨state, movingRef⟩ := pinning
  cases state with
  | moving => simp [aupPinningRefusalCopy, locksAcceptance]
  | missing => simp [aupPinningRefusalCopy, locksAcceptance]
  | unverifiable => simp [aupPinningRefusalCopy, locksAcceptance]
  | pinned => simp [aupPinningRefusalCopy, locksAcceptance]

/-- A link that is said to move is named by its ref, and no other is. -/
theorem movingRef_iff (toLowerCase : String → String) (url : Option String)
    : (aupUrlPinning toLowerCase url).movingRef ≠ none
      ↔ (aupUrlPinning toLowerCase url).state = .moving := by
  unfold aupUrlPinning
  dsimp only
  split
  next => simp
  next =>
    cases refOf ((url.map trim).getD "") with
    | none => simp
    | some found =>
        dsimp only
        split
        next => simp
        next =>
          split
          next => simp
          next => split <;> simp

end ControlPlane.Onboarding
